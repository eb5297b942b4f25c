import ObjectStore.Client.Call

/-!
# What a call sends

A call sends one request or none. None is sent if the request cannot be put together, which is so
if the bucket or the key has no name that says something, or if the store does not get it. What
is sent has all that the request has of its own, with the headers and the parameters of the options
put on it. Calls made one after the other send their requests in this order, and each has the result
that it has where as many exchanges are over as there were requests.
-/

namespace ObjectStore

open Http (Link Request Response)

namespace Http.Link

/-- A link after requests, sent one after the other. -/
def after (l : Link) (requests : List Request) : Link :=
  requests.foldl (fun l request => (l.exchange request).2) l

/-- What comes of a request, wherever the link stands and whatever was sent. -/
theorem exchange_fst (l : Link) (request : Request) :
    (l.exchange request).1 = (l.next?.map (·.outcome request)).getD (.error .dispatch) := by
  rw [exchange]
  cases l.next? <;> rfl

/--
Requests use up as many replies, if the store can be reached, and are sent as far as it gets them.
-/
theorem after_eq (l : Link) (requests : List Request) :
    l.after requests = { l with
      replies := if l.isReachable then l.replies.drop requests.length else l.replies
      sent := l.sent ++ requests.take l.room } := by
  induction requests generalizing l with
  | nil => cases l; simp [after]
  | cons request rest ih =>
    have hstep : l.after (request :: rest) = (l.exchange request).2.after rest := rfl
    obtain ⟨isReachable, replies, sent⟩ := l
    rw [hstep, ih]
    cases isReachable with
    | false => simp [exchange, next?, room]
    | true => cases replies <;> simp [exchange, next?, room]

theorem sent_after (l : Link) (requests : List Request) :
    (l.after requests).sent = l.sent ++ requests.take l.room := by
  rw [after_eq]

/-- After requests the store reacts as it does where as many exchanges are over. -/
theorem next?_after (l : Link) (requests : List Request) :
    (l.after requests).next? = (l.skip requests.length).next? := by
  rw [after_eq]
  cases h : l.isReachable <;> simp [next?, skip, h]

/-- What comes of a request in the exchange with this number, counted from 0. -/
def outcome (l : Link) (number : Nat) (request : Request) : Except CallFailure Response :=
  ((l.skip number).exchange request).1

theorem exchange_after (l : Link) (requests : List Request) (request : Request) :
    ((l.after requests).exchange request).1 = l.outcome requests.length request := by
  rw [outcome, exchange_fst, exchange_fst, next?_after]

end Http.Link

/-- The result of a call is read from what comes of its request. -/
theorem Call.perform_fst {α : Type} (request : Except CallFailure Request)
    (read : Response → Except Error α) (link : Link) :
    (perform request read link).1 =
      result read (request.bind fun request => (link.exchange request).1) := by
  cases request <;> rfl

/-- After a call the link is as it is after its request, if there is one. -/
theorem Call.perform_snd {α : Type} (request : Except CallFailure Request)
    (read : Response → Except Error α) (link : Link) :
    (perform request read link).2 = link.after request.toOption.toList := by
  cases request <;> rfl

/-- After calls the link is as it is after the requests that could be put together. -/
theorem Call.foldl_perform {α β : Type} (request : β → Except CallFailure Request)
    (read : β → Response → Except Error α) (calls : List β) (link : Link) :
    calls.foldl (fun link call => (perform (request call) (read call) link).2) link =
      link.after (calls.filterMap fun call => (request call).toOption) := by
  induction calls generalizing link with
  | nil => rfl
  | cons call calls ih =>
    rw [List.foldl_cons, ih, perform_snd, List.filterMap_cons]
    cases (request call).toOption <;> rfl

section

variable {α β : Type} {request : β → Except CallFailure Request} {calls : List β}

/-- If requests can be put together for all calls there is one for each, in their order. -/
theorem Call.map_some_filterMap (h : ∀ call ∈ calls, (request call).map (fun _ => ()) = .ok ()) :
    (calls.filterMap fun call => (request call).toOption).map some =
      calls.map fun call => (request call).toOption := by
  induction calls with
  | nil => rfl
  | cons call calls ih =>
    obtain ⟨hcall, hrest⟩ := List.forall_mem_cons.mp h
    cases hrequest : request call with
    | error failure =>
      rw [hrequest] at hcall
      cases hcall
    | ok r =>
      rw [List.filterMap_cons, List.map_cons, ← ih hrest, hrequest]
      rfl

theorem Call.filterMap_eq_nil {failure : CallFailure}
    (h : ∀ call ∈ calls, (request call).map (fun _ => ()) = .error failure) :
    (calls.filterMap fun call => (request call).toOption) = [] := by
  rw [List.filterMap_eq_nil_iff]
  intro call hm
  have hcall := h call hm
  cases hrequest : request call with
  | error failure => rfl
  | ok r =>
    rw [hrequest] at hcall
    cases hcall

/--
Calls made one after the other, for which requests can be put together under one condition: what
they send are their requests, in their order, as far as the store gets them.
-/
theorem Call.exists_sent_foldl_perform (request : β → Except CallFailure Request)
    (read : β → Response → Except Error α) (link : Link) {named : Except CallFailure Unit}
    (h : ∀ call ∈ calls, (request call).map (fun _ => ()) = named) :
    ∃ sent : List Request,
      (calls.foldl (fun link call => (perform (request call) (read call) link).2) link).sent =
        link.sent ++ sent ∧
      (named = .ok () → sent.length = min calls.length link.room) ∧
      (named ≠ .ok () → sent = []) ∧
      ∀ (number : Nat) r, sent[number]? = some r →
        ∃ call, calls[number]? = some call ∧ request call = .ok r := by
  rw [foldl_perform, Link.sent_after]
  refine ⟨_, rfl, ?_⟩
  cases named with
  | error failure =>
    rw [filterMap_eq_nil h]
    simp
  | ok _ =>
    have hmap := map_some_filterMap h
    generalize (calls.filterMap fun call => (request call).toOption) = requests at hmap
    have hlength : requests.length = calls.length := by simpa using congrArg List.length hmap
    refine ⟨fun _ => ?_, fun hnamed => absurd rfl hnamed, ?_⟩
    · rw [List.length_take, hlength, Nat.min_comm]
    intro number r hr
    have hmem : requests[number]? = some r := by
      rw [List.getElem?_take] at hr
      split at hr
      · exact hr
      · cases hr
    have hcall := congrArg (·[number]?) hmap
    simp only [List.getElem?_map, hmem, Option.map_some] at hcall
    obtain ⟨call, hcall, hrequest⟩ := Option.map_eq_some_iff.mp hcall.symm
    refine ⟨call, hcall, ?_⟩
    cases he : request call with
    | error failure =>
      rw [he] at hrequest
      cases hrequest
    | ok other =>
      rw [he] at hrequest
      cases hrequest
      rfl

/-- After such calls a further one has the result that it has where as many exchanges are over. -/
theorem Call.perform_foldl_fst (request : β → Except CallFailure Request)
    (read : β → Response → Except Error α) (link : Link) {call : β}
    (h : ∀ earlier ∈ calls,
      (request earlier).map (fun _ => ()) = (request call).map (fun _ => ())) :
    (perform (request call) (read call)
        (calls.foldl (fun link call => (perform (request call) (read call) link).2) link)).1 =
      (perform (request call) (read call) (link.skip calls.length)).1 := by
  rw [foldl_perform, perform_fst, perform_fst]
  cases hrequest : request call with
  | error failure => rfl
  | ok r =>
    rw [hrequest] at h
    have hlength := congrArg List.length (map_some_filterMap h)
    rw [List.length_map, List.length_map] at hlength
    simp only [Except.bind, Link.exchange_after, hlength]
    rfl

end

/-- A call adds its request to what was sent, if there is one and the store gets it. -/
theorem Call.sent_perform {α : Type} (request : Except CallFailure Request)
    (read : Response → Except Error α) (link : Link) :
    (perform request read link).2.sent =
      link.sent ++ if link.next?.isSome then request.toOption.toList else [] := by
  rw [perform_snd, Link.sent_after, Link.room, Link.next?]
  cases link.isReachable <;> cases link.replies <;> cases request <;> simp [Except.toOption]

namespace Client

/-- A name that says something is not empty. -/
theorem isEmpty_of_requireName {name : String} (h : requireName name = .ok ()) :
    name.isEmpty = false := by
  rw [← Bool.not_eq_true, String.isEmpty_iff]
  rintro rfl
  cases h

/-- An object can be asked for if its bucket and its key have names that say something. -/
theorem exists_namedTarget_iff (c : Client) (bucket key : String) (params : List String) :
    (∃ target, c.namedTarget bucket key params = .ok target) ↔
      requireName bucket = .ok () ∧ requireName key = .ok () := by
  rw [namedTarget, objectTarget]
  cases hkey : requireName key with
  | error failure => simp [bind, Except.bind]
  | ok _ =>
    cases requireName bucket with
    | error failure => simp [bind, Except.bind]
    | ok _ => simp [isEmpty_of_requireName hkey, bind, Except.bind, pure, Except.pure]

/-- A call about an object sends its request if there is one and the store gets it. -/
theorem sent_of_namedTarget {α : Type} (c : Client) (bucket key : String) (params : List String)
    (own : String → Request) (headers : Headers) (query : Query)
    (read : Response → Except Error α) (link : Link) :
    let request := (c.namedTarget bucket key params).map fun target =>
      (own target).project headers query
    let after := (Call.perform request read link).2
    (after.sent ≠ link.sent ↔ requireName bucket = .ok () ∧ requireName key = .ok () ∧
      link.next?.isSome = true) ∧
    (after.sent ≠ link.sent →
      ∃ target, after.sent = link.sent ++ [(own target).project headers query]) := by
  intro request after
  have hnamed : requireName bucket = .ok () ∧ requireName key = .ok () ∧
      link.next?.isSome = true ↔
        (∃ target, c.namedTarget bucket key params = .ok target) ∧ link.next?.isSome = true := by
    rw [exists_namedTarget_iff, and_assoc]
  have hsent : after.sent =
      link.sent ++ if link.next?.isSome then request.toOption.toList else [] :=
    Call.sent_perform request read link
  rw [hnamed, hsent]
  cases htarget : c.namedTarget bucket key params with
  | error failure =>
    have hnone : request.toOption = none := by simp [request, htarget, Except.map, Except.toOption]
    simp [hnone]
  | ok target =>
    have hsome : request.toOption = some ((own target).project headers query) := by
      simp [request, htarget, Except.map, Except.toOption]
    cases link.next? with
    | none => simp
    | some reply => simpa [hsome] using ⟨target, rfl⟩

/-! ## Requests with headers and parameters put on them -/

theorem contentRequest_eq (c : Client) (bucket key : String) (options : ReadOptions) :
    c.contentRequest bucket key options =
      (c.namedTarget bucket key [Query.encodePair ("x-id", "GetObject")]).map fun target =>
        Request.project
          { method := .get, target, fields := .ofList [(HeaderName.checksumMode, "ENABLED")] }
          options.header options.query := by
  rw [contentRequest]
  cases c.namedTarget bucket key [Query.encodePair ("x-id", "GetObject")] <;> rfl

theorem metadataRequest_eq (c : Client) (bucket key : String) (options : ReadOptions) :
    c.metadataRequest bucket key options = (c.namedTarget bucket key []).map fun target =>
      Request.project { method := .head, target } options.header options.query := by
  rw [metadataRequest]
  cases c.namedTarget bucket key [] <;> rfl

theorem uploadRequest_eq (c : Client) (bucket key : String) (body : List UInt8)
    (options : WriteOptions) : c.uploadRequest bucket key body options =
      (c.namedTarget bucket key [Query.encodePair ("x-id", "PutObject")]).map fun target =>
        Request.project { method := .put, target, body } options.header ∅ := by
  rw [uploadRequest]
  cases c.namedTarget bucket key [Query.encodePair ("x-id", "PutObject")] <;> rfl

end Client

end ObjectStore

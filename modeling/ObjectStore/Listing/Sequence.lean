import ObjectStore.Listing.Stream

/-!
# What a listing comes to

A listing that nobody disturbs asks for one page after another until a page has no
token to go on with, or a call fails. Its calls and its items are therefore laid
down by the lister alone. Since the pages may go on for ever, both are given for
any number of calls.
-/

namespace ObjectStore.Listing

/-- A call and the reply to it. -/
structure Exchange where
  /-- The call. -/
  call : PageCall
  /-- The reply. -/
  reply : Reply
  deriving DecidableEq, Repr

namespace Exchange

/-- The records of the page, if one was fetched. -/
def records (x : Exchange) : List ObjectEntry :=
  match x.reply with
  | .page page => page.records
  | _ => []

/-- The error, if the call failed. -/
def error? (x : Exchange) : Option Error :=
  match x.reply with
  | .failed error => some error
  | _ => none

/-- What the reply lets the listing publish. -/
def items (x : Exchange) : List Item := x.records.map .ok ++ x.error?.toList.map .error

/-- The call that follows: with the token of the page, in all else the same. -/
def next? (x : Exchange) : Option PageCall :=
  match x.reply with
  | .page { next := some token, .. } =>
    if token = "" then none else some { x.call with token := some token }
  | _ => none

/-- Only a page with a token that is not empty is followed by a call. -/
theorem exists_of_next?_eq_some {x : Exchange} {next : PageCall} (h : x.next? = some next) :
    ∃ page token, x.reply = .page page ∧ page.next = some token ∧ token ≠ "" ∧
      next = { x.call with token := some token } := by
  rcases x with ⟨call, ⟨objects, commonPrefixes, _ | token⟩ | error | words⟩
  case page.some =>
    by_cases he : token = ""
    · exact nomatch (if_pos he).symm.trans h
    · exact ⟨_, token, rfl, rfl, he, (Option.some.inj ((if_neg he).symm.trans h)).symm⟩
  all_goals exact nomatch h

end Exchange

namespace Lister

/-- The exchanges of at most `count` calls, given the number of the first one and what it asks for. -/
def exchangesFrom (lister : Lister) (number : Nat) : Option PageCall → Nat → List Exchange
  | none, _ => []
  | some _, 0 => []
  | some call, count + 1 =>
    let exchange : Exchange := ⟨call, lister number call⟩
    exchange :: exchangesFrom lister (number + 1) exchange.next? count

/-- The first `count` exchanges of a listing that begins with a call. -/
def exchanges (lister : Lister) (first : PageCall) (count : Nat) : List Exchange :=
  exchangesFrom lister 0 (some first) count

/-- The first `count` calls of a listing. -/
def calls (lister : Lister) (first : PageCall) (count : Nat) : List PageCall :=
  (exchanges lister first count).map Exchange.call

/--
The items of the first `count` calls of a listing: the records of all pages, page after page,
and then the error of the last call, if it failed.
-/
def items (lister : Lister) (first : PageCall) (count : Nat) : List Item :=
  let exchanges := exchanges lister first count
  (exchanges.flatMap Exchange.records).map .ok ++
    (exchanges.getLast?.bind Exchange.error?).toList.map .error

/-- Whether a listing needs no more than `count` calls. -/
def EndsWithin (lister : Lister) (first : PageCall) (count : Nat) : Prop :=
  (exchanges lister first (count + 1)).length ≤ count

@[simp] theorem exchangesFrom_none (lister : Lister) (number count : Nat) :
    exchangesFrom lister number none count = [] := by
  cases count <;> rfl

@[simp] theorem exchangesFrom_zero (lister : Lister) (number : Nat) (next : Option PageCall) :
    exchangesFrom lister number next 0 = [] := by
  cases next <;> rfl

/-- A listing makes no more calls than it may. -/
theorem length_exchangesFrom_le (lister : Lister) (number : Nat) (next : Option PageCall)
    (count : Nat) : (exchangesFrom lister number next count).length ≤ count := by
  induction count generalizing number next with
  | zero =>
    rw [exchangesFrom_zero]
    exact Nat.le_refl 0
  | succ count ih =>
    cases next with
    | none => exact Nat.zero_le _
    | some call => exact Nat.succ_le_succ (ih ..)

/-- Further calls leave the first ones as they are. -/
theorem exchangesFrom_isPrefix (lister : Lister) (number : Nat) (next : Option PageCall)
    (count more : Nat) :
    exchangesFrom lister number next count <+: exchangesFrom lister number next (count + more) := by
  induction count generalizing number next with
  | zero =>
    rw [exchangesFrom_zero]
    exact List.nil_prefix
  | succ count ih =>
    cases next with
    | none =>
      rw [exchangesFrom_none]
      exact List.nil_prefix
    | some call =>
      rw [Nat.succ_add]
      exact List.cons_prefix_cons.mpr ⟨rfl, ih ..⟩

/-- A listing that does not use up its calls makes no other ones, however many it may make. -/
theorem exchangesFrom_eq_of_length_le {lister : Lister} {number : Nat} {next : Option PageCall}
    {count : Nat} (h : (exchangesFrom lister number next (count + 1)).length ≤ count) (more : Nat) :
    exchangesFrom lister number next (count + more) = exchangesFrom lister number next count := by
  induction count generalizing number next with
  | zero =>
    cases next with
    | none => rw [exchangesFrom_none, exchangesFrom_none]
    | some call => exact absurd h (Nat.not_succ_le_zero _)
  | succ count ih =>
    cases next with
    | none => rw [exchangesFrom_none, exchangesFrom_none]
    | some call =>
      rw [Nat.succ_add]
      exact congrArg (_ :: ·) (ih (Nat.le_of_succ_le_succ h))

/-- The first exchange is about the first call. -/
theorem call_of_exchangesFrom_zero {lister : Lister} {number count : Nat} {next : Option PageCall}
    {x : Exchange} (h : (exchangesFrom lister number next count)[0]? = some x) :
    next = some x.call := by
  cases next with
  | none => simp at h
  | some call =>
    cases count with
    | zero => simp at h
    | succ count =>
      simp only [exchangesFrom, List.getElem?_cons_zero, Option.some.injEq] at h
      rw [← h]

/-- A call that fails is the last one, so that each exchange brings its items in its place. -/
theorem items_eq_flatMap (lister : Lister) (first : PageCall) (count : Nat) :
    items lister first count = (exchanges lister first count).flatMap Exchange.items := by
  have hfrom (count number : Nat) (next : Option PageCall) :
      let exchanges := exchangesFrom lister number next count
      (exchanges.flatMap Exchange.records).map .ok ++
          (exchanges.getLast?.bind Exchange.error?).toList.map .error =
        exchanges.flatMap Exchange.items := by
    induction count generalizing number next with
    | zero => simp
    | succ count ih =>
      cases next with
      | none => simp
      | some call =>
        have hrest := ih (number + 1) (⟨call, lister number call⟩ : Exchange).next?
        simp only [exchangesFrom, List.flatMap_cons, List.map_append, List.append_assoc]
        cases he : exchangesFrom lister (number + 1)
            (⟨call, lister number call⟩ : Exchange).next? count with
        | nil => simp [Exchange.items]
        | cons x rest =>
          rw [he] at hrest
          have hnext : (⟨call, lister number call⟩ : Exchange).next? = some x.call :=
            call_of_exchangesFrom_zero (by rw [he, List.getElem?_cons_zero])
          obtain ⟨page, _, hpage, _⟩ := Exchange.exists_of_next?_eq_some hnext
          have hnone : (⟨call, lister number call⟩ : Exchange).error? = none := by
            rw [Exchange.error?, hpage]
          rw [List.getLast?_cons_cons, hrest, Exchange.items, hnone, Option.toList_none,
            List.map_nil, List.append_nil]
  exact hfrom count 0 (some first)

/-- Each exchange has the reply to its call, and leads to the next one. -/
theorem exchangesFrom_getElem? {lister : Lister} {number count i : Nat} {next : Option PageCall}
    {x : Exchange} (h : (exchangesFrom lister number next count)[i]? = some x) :
    x.reply = lister (number + i) x.call ∧
      ∀ y, (exchangesFrom lister number next count)[i + 1]? = some y → x.next? = some y.call := by
  induction count generalizing number next i with
  | zero => simp at h
  | succ count ih =>
    cases next with
    | none => simp at h
    | some call =>
      cases i with
      | zero =>
        simp only [exchangesFrom, List.getElem?_cons_zero, Option.some.injEq] at h
        subst h
        exact ⟨rfl, fun y hy => call_of_exchangesFrom_zero hy⟩
      | succ i =>
        rw [← Nat.add_assoc, Nat.add_right_comm]
        exact ih h

end Lister

end ObjectStore.Listing

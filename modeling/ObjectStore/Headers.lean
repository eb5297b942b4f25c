import ObjectStore.HeaderName
import ObjectStore.SortedMap.Lookup

/-!
# Request headers

Values of headers by name. Every access goes through the canonical spelling of the
name, under which alone a value is stored, so that two spellings of one name never
have values of their own. The headers are listed in ascending order of the names.
-/

namespace ObjectStore

/-- Header values by name; a name is stored in its canonical spelling. -/
@[ext] structure Headers where
  /-- The values, by canonical name. -/
  fields : SortedMap String
  /-- No name is stored in another spelling. -/
  canonical : ∀ field ∈ fields.entries, HeaderName.canonical field.1 = field.1
  deriving DecidableEq

namespace Headers

/-- No headers. -/
def empty : Headers := ⟨.empty, fun _ h => nomatch h⟩

instance : EmptyCollection Headers := ⟨empty⟩

instance : Inhabited Headers := ⟨empty⟩

/-- Give the header a value, replacing the one it had. -/
def set (h : Headers) (name value : String) : Headers where
  fields := h.fields.insert (HeaderName.canonical name) value
  canonical field hf := by
    rcases (SortedMap.mem_insertEntry h.fields.ascending).mp hf with rfl | hf
    · exact HeaderName.canonical_canonical name
    · exact h.canonical field hf.1

/-- The value of the header. -/
def get? (h : Headers) (name : String) : Option String :=
  h.fields.get? (HeaderName.canonical name)

/-- Take the header away. -/
def erase (h : Headers) (name : String) : Headers where
  fields := h.fields.erase (HeaderName.canonical name)
  canonical field hf := h.canonical field (List.mem_filter.mp hf).1

/-- Take the header away, and give the value that it had. -/
def remove (h : Headers) (name : String) : Option String × Headers := (h.get? name, h.erase name)

/-- Whether the header has a value. -/
def contains (h : Headers) (name : String) : Bool :=
  h.fields.contains (HeaderName.canonical name)

/-- The number of headers. -/
def size (h : Headers) : Nat := h.fields.size

/-- Whether there are no headers. -/
def isEmpty (h : Headers) : Bool := h.fields.isEmpty

/-- Names and values, in ascending order of the names. -/
def toList (h : Headers) : List (String × String) := h.fields.entries

/-- Set each header of a list in turn. -/
def setAll (h : Headers) (fields : List (String × String)) : Headers :=
  fields.foldl (fun h field => h.set field.1 field.2) h

/-- A header that was set is found under every spelling of its name, and the others are as before. -/
theorem get?_set (h : Headers) (name name' value : String) :
    (h.set name value).get? name' =
      if HeaderName.canonical name' = HeaderName.canonical name then some value else h.get? name' :=
  SortedMap.get?_insert ..

/-- A header that was taken away is gone under every spelling, and the others are as before. -/
theorem get?_erase (h : Headers) (name name' : String) :
    (h.erase name).get? name' =
      if HeaderName.canonical name' = HeaderName.canonical name then none else h.get? name' :=
  SortedMap.get?_erase ..

/-- The other headers stay in the list, in their order. -/
theorem toList_erase (h : Headers) (name : String) :
    (h.erase name).toList = h.toList.filter (·.1 != HeaderName.canonical name) := rfl

/-- Of several headers set in turn, the last one with the name counts. -/
theorem get?_setAll (h : Headers) (fields : List (String × String)) (name : String) :
    (h.setAll fields).get? name =
      ((fields.findRev? fun field => HeaderName.canonical name == HeaderName.canonical field.1).map
        Prod.snd).or (h.get? name) := by
  induction fields generalizing h with
  | nil => rfl
  | cons field fields ih =>
    rw [setAll, List.foldl_cons, ← setAll, ih, get?_set, List.findRev?]
    cases fields.findRev? fun field => HeaderName.canonical name == HeaderName.canonical field.1 with
    | some found => rfl
    | none => by_cases hn : HeaderName.canonical name = HeaderName.canonical field.1 <;> simp [hn]

@[simp] theorem get?_empty (name : String) : empty.get? name = none := rfl

end Headers

end ObjectStore

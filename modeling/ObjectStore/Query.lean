import ObjectStore.SortedMap.Lookup
import ObjectStore.Text.Percent

/-!
# Query parameters

A key may carry several values. Written out, the keys ascend, the values of one
key keep their order, and everything but unreserved characters is escaped, so
that `decode?` gets back every pair. Of the keys that a caller wishes to send,
only the supported ones are forwarded.
-/

namespace ObjectStore

namespace QueryKey

/-- The keys that a read of an object defines. -/
def standard : List String :=
  ["attributes", "partNumber", "versionId", "select", "select-type", "response-cache-control",
    "response-content-disposition", "response-content-encoding", "response-content-language",
    "response-content-type", "response-expires"]

/-- Whether a read of an object defines the key. -/
def isStandard (key : String) : Bool := standard.contains key

/-- Whether the key belongs to a provider's own extension. -/
def isCustom (key : String) : Bool := ['x', '-'].isPrefixOf key.toList

/-- Whether the key may be sent. -/
def isSupported (key : String) : Bool := isStandard key || isCustom key

end QueryKey

/-- Values by key, several for one key. -/
@[ext] structure Query where
  /-- The values of each key, in the order they were added. -/
  values : SortedMap (List String)
  /-- A key that is there has a value. -/
  nonempty : ∀ entry ∈ values.entries, entry.2 ≠ []
  deriving DecidableEq

namespace Query

/-- No parameters. -/
def empty : Query := ⟨.empty, fun _ h => nomatch h⟩

instance : EmptyCollection Query := ⟨empty⟩

instance : Inhabited Query := ⟨empty⟩

/-- All values of the key, in the order they were added. -/
def getAll (q : Query) (key : String) : List String := (q.values.get? key).getD []

/-- The first value of the key. -/
def get? (q : Query) (key : String) : Option String := (q.getAll key).head?

/-- Replace the values of the key. -/
def replace (q : Query) (key : String) (values : List String) (h : values ≠ []) : Query where
  values := q.values.insert key values
  nonempty entry he := by
    rcases (SortedMap.mem_insertEntry q.values.ascending).mp he with rfl | he
    · exact h
    · exact q.nonempty entry he.1

/-- Make `value` the only value of the key. -/
def set (q : Query) (key value : String) : Query := q.replace key [value] (by simp)

/-- Add `value` after the values that the key has. -/
def add (q : Query) (key value : String) : Query :=
  q.replace key (q.getAll key ++ [value]) (by simp)

/-- Add each pair of a list in turn. -/
def addAll (q : Query) (pairs : List (String × String)) : Query :=
  pairs.foldl (fun q pair => q.add pair.1 pair.2) q

/-- Whether there are no parameters. -/
def isEmpty (q : Query) : Bool := q.values.isEmpty

/-- Keys in ascending order, each with all its values. -/
def toList (q : Query) : List (String × List String) := q.values.entries

/-- One pair for each value, in the order in which they are written. -/
def pairs (q : Query) : List (String × String) :=
  q.toList.flatMap fun entry => entry.2.map (entry.1, ·)

/-- The parameters that pairs of a key and a value make. -/
def ofPairs (pairs : List (String × String)) : Query := addAll ∅ pairs

/-- One pair as it is written. -/
def encodePair (pair : String × String) : String :=
  Text.Percent.encode pair.1 ++ "=" ++ Text.Percent.encode pair.2

/-- The parameters as they stand after the question mark of a URL. -/
def encode (q : Query) : String := "&".intercalate (q.pairs.map encodePair)

/-- The pair that a piece writes: key and value are divided by the first equals sign. -/
def decodePair? (piece : List Char) : Option (String × String) := do
  let key ← Text.Percent.decode? (piece.takeWhile (· != '='))
  let value ← Text.Percent.decode? ((piece.dropWhile (· != '=')).drop 1)
  return (key, value)

/-- The pieces between the separators of a text. -/
def pieces (separator : Char) : List Char → List (List Char)
  | [] => [[]]
  | c :: rest =>
    if c = separator then [] :: pieces separator rest
    else match pieces separator rest with
      | [] => [[c]]
      | piece :: more => (c :: piece) :: more

/-- The pairs that a query writes; the empty text writes none. -/
def decode? (text : String) : Option (List (String × String)) :=
  if text.isEmpty then some [] else (pieces '&' text.toList).mapM decodePair?

/-! ## The values of a key after each operation -/

/-- Replaced values stand under their key, and the values of other keys are as before. -/
theorem getAll_replace (q : Query) (key key' : String) (values : List String) (h : values ≠ []) :
    (q.replace key values h).getAll key' = if key' = key then values else q.getAll key' := by
  rw [getAll, replace, SortedMap.get?_insert]
  split <;> rfl

theorem getAll_set (q : Query) (key key' value : String) :
    (q.set key value).getAll key' = if key' = key then [value] else q.getAll key' :=
  getAll_replace ..

theorem getAll_add (q : Query) (key key' value : String) :
    (q.add key value).getAll key' = if key' = key then q.getAll key' ++ [value] else q.getAll key' := by
  rw [add, getAll_replace]
  split
  · rename_i h
    rw [h]
  · rfl

/-- What is stored for a key is told by its values, since no key is stored without any. -/
theorem get?_values (q : Query) (key : String) :
    q.values.get? key = if q.getAll key = [] then none else some (q.getAll key) := by
  cases h : q.values.get? key with
  | none => simp [getAll, h]
  | some values =>
    have hne : values ≠ [] := q.nonempty _ (SortedMap.get?_eq_some_iff.mp h)
    simp [getAll, h, hne]

/-- Parameters with the same values of every key are equal. -/
theorem ext_getAll {q r : Query} (h : ∀ key, q.getAll key = r.getAll key) : q = r :=
  Query.ext <| SortedMap.ext_get? fun key => by rw [get?_values, get?_values, h]

end Query

end ObjectStore

/-!
# JSON values

Values as they stand in a JSON text. Objects keep their fields in order, repeated
ones included, and a number is told apart by how it is written: only a literal
without fraction and exponent is an integer.
-/

namespace ObjectStore.Json

/-- A JSON value. -/
inductive Value where
  /-- The literal `null`. -/
  | null
  /-- The literal `true` or `false`. -/
  | bool (b : Bool)
  /-- A number written without fraction and exponent. -/
  | integer (n : Int)
  /-- Any other number, as it is written. -/
  | decimal (literal : String)
  /-- A text, `none` if an escape leaves a surrogate without its partner. -/
  | text (content : Option String)
  /-- An array. -/
  | array (items : List Value)
  /-- An object: names, texts themselves, with values. -/
  | object (fields : List (Option String × Value))
  deriving Repr, Inhabited

end ObjectStore.Json

/-!
# JSON values

A value as it is written: numbers keep their digits, objects keep the order of their members and
members with the same key. The text of a string is absent if an escape names half of a surrogate
pair, so that the string is well formed but no text.
-/

namespace DocLint

/-- A JSON value. -/
inductive Json
  | null
  | bool (b : Bool)
  | number (literal : List Char)
  | string (text : Option String)
  | array (items : List Json)
  | object (members : List (Option String × Json))
  deriving Repr

namespace Json

/-- The string with a text. -/
def ofText (s : String) : Json := .string (some s)

/-- The number with a value. -/
def ofNat (n : Nat) : Json := .number n.repr.toList

/-- The object whose keys are texts. -/
def record (members : List (String × Json)) : Json :=
  .object (members.map fun (k, v) => (some k, v))

end Json

end DocLint

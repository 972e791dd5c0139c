import DocLint.Json.Value

/-!
# Shapes of JSON values

How the data of this library are found in a value. A record is an object with its fields as members,
in any order, or an array of its fields in their order; fields that may be missing may be left out,
in an array at its end. A choice among names is the name, or an object with the name as its only key
and `null` as its value.
-/

namespace DocLint.Json

/-- The text of a string. -/
def text? : Json → Option String
  | .string t => t
  | _ => none

/-- The value of a number that is written with digits only and fits into 64 bits. -/
def nat? : Json → Option Nat
  | .number l =>
    if l.all Char.isDigit then
      let n := l.foldl (fun n d => 10 * n + (d.toNat - 48)) 0
      if n < Nat.pow 2 64 then some n else none
    else none
  | _ => none

/-- The items of an array. -/
def items? : Json → Option (List Json)
  | .array vs => some vs
  | _ => none

/-- The items of an array, each read by `f`. -/
def list? {α : Type} (f : Json → Option α) (v : Json) : Option (List α) :=
  v.items?.bind (List.mapM f)

/-- An optional value: `null` stands for its absence. -/
def nullable? {α : Type} (f : Json → Option α) : Json → Option (Option α)
  | .null => some none
  | v => (f v).map some

/-- A choice among names. -/
def choice? {α : Type} (ofName? : String → Option α) : Json → Option α
  | .string (some s) => ofName? s
  | .object [(some k, .null)] => ofName? k
  | _ => none

/-- The members with their keys, if all keys are texts. -/
def members? : Json → Option (List (String × Json))
  | .object ms => ms.mapM fun (k, v) => k.map fun k => (k, v)
  | _ => none

/-- The value of a member that occurs at most once: absent if there is none, no answer if there are
two. -/
def field? (ms : List (String × Json)) (name : String) : Option (Option Json) :=
  match ms.filter fun m => m.1 == name with
  | [] => some none
  | [m] => some (some m.2)
  | _ => none

/-- The fields of a record, in the order of their names; `closed` if no other members may stand in
the object. -/
def fields? (closed : Bool) (names : List String) (v : Json) : Option (List (Option Json)) :=
  match v with
  | .array vs =>
    if vs.length ≤ names.length then
      some (vs.map some ++ List.replicate (names.length - vs.length) none)
    else none
  | v => do
    let ms ← v.members?
    if closed && !ms.all fun m => names.contains m.1 then none
    else names.mapM (field? ms)

end DocLint.Json

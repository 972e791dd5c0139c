import DocLint.Json.Value
import DocLint.Text.Hex

/-!
# Writing JSON

A value is written on one line without blanks (`Json.compact`), or with each item and member on a
line of its own, indented by two blanks a level (`Json.pretty`). In strings only quotes, backslashes
and control characters are escaped.
-/

namespace DocLint.Json

/-! ## Strings -/

/-- A character of a string. -/
def escapeChar (c : Char) : List Char :=
  if c == '"' then ['\\', '"']
  else if c == '\\' then ['\\', '\\']
  else if c == '\x08' then ['\\', 'b']
  else if c == '\x0c' then ['\\', 'f']
  else if c == '\n' then ['\\', 'n']
  else if c == '\r' then ['\\', 'r']
  else if c == '\t' then ['\\', 't']
  else if c.toNat < 0x20 then
    ['\\', 'u', '0', '0', Text.hexDigit (c.toNat / 16), Text.hexDigit (c.toNat % 16)]
  else [c]

/-- A string with its quotes; one that is no text is written as half of a surrogate pair. -/
def stringChars : Option String → List Char
  | some s => '"' :: s.toList.flatMap escapeChar ++ ['"']
  | none => ['"', '\\', 'u', 'd', '8', '0', '0', '"']

/-- The truth values. -/
def boolChars (b : Bool) : List Char :=
  if b then ['t', 'r', 'u', 'e'] else ['f', 'a', 'l', 's', 'e']

/-! ## On one line -/

mutual

/-- A value on one line. -/
def compactChars : Json → List Char
  | .null => ['n', 'u', 'l', 'l']
  | .bool b => boolChars b
  | .number l => l
  | .string t => stringChars t
  | .array items => '[' :: compactItems items ++ [']']
  | .object members => '{' :: compactMembers members ++ ['}']

/-- The items of an array, with commas between them. -/
def compactItems : List Json → List Char
  | [] => []
  | [v] => compactChars v
  | v :: w :: vs => compactChars v ++ ',' :: compactItems (w :: vs)

/-- The members of an object, with commas between them. -/
def compactMembers : List (Option String × Json) → List Char
  | [] => []
  | [(k, v)] => stringChars k ++ ':' :: compactChars v
  | (k, v) :: m :: ms => stringChars k ++ ':' :: compactChars v ++ ',' :: compactMembers (m :: ms)

end

/-- A value on one line, without blanks. -/
def compact (v : Json) : String := String.ofList (compactChars v)

/-! ## On many lines -/

/-- A line end and the blanks before a line at a depth. -/
def newLine (depth : Nat) : List Char := '\n' :: List.replicate (2 * depth) ' '

mutual

/-- A value whose first line stands at a depth. -/
def prettyChars (depth : Nat) : Json → List Char
  | .null => ['n', 'u', 'l', 'l']
  | .bool b => boolChars b
  | .number l => l
  | .string t => stringChars t
  | .array [] => ['[', ']']
  | .array (v :: vs) => '[' :: prettyItems (depth + 1) (v :: vs) ++ newLine depth ++ [']']
  | .object [] => ['{', '}']
  | .object (m :: ms) => '{' :: prettyMembers (depth + 1) (m :: ms) ++ newLine depth ++ ['}']

/-- The items of an array, each on a line of its own. -/
def prettyItems (depth : Nat) : List Json → List Char
  | [] => []
  | [v] => newLine depth ++ prettyChars depth v
  | v :: w :: vs => newLine depth ++ prettyChars depth v ++ ',' :: prettyItems depth (w :: vs)

/-- The members of an object, each on a line of its own. -/
def prettyMembers (depth : Nat) : List (Option String × Json) → List Char
  | [] => []
  | [(k, v)] => newLine depth ++ stringChars k ++ ':' :: ' ' :: prettyChars depth v
  | (k, v) :: m :: ms =>
    newLine depth ++ stringChars k ++ ':' :: ' ' :: prettyChars depth v ++
      ',' :: prettyMembers depth (m :: ms)

end

/-- A value on many lines; the last one is not ended. -/
def pretty (v : Json) : String := String.ofList (prettyChars 0 v)

end DocLint.Json

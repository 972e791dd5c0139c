import DocLint.Json.Token

/-!
# Reading JSON

The tokens of a text drive a machine that keeps the open arrays and objects on a stack, so that no
depth of nesting is too much. `Json.parse` accepts exactly the texts that hold one value and nothing
else but white space.
-/

namespace DocLint.Json

/-- An open array with its items so far, or an open object with its members so far and the key of
the value that is being read; the latest come first. -/
inductive Frame
  | array (items : List Json)
  | object (members : List (Option String × Json)) (key : Option String)

/-- What must come next. -/
inductive Mode
  /-- A value, or the end of an array that has no items. -/
  | value (mayClose : Bool)
  /-- The key of a member, or the end of an object that has no members. -/
  | key (members : List (Option String × Json)) (mayClose : Bool)
  /-- The colon after a key. -/
  | colon (members : List (Option String × Json)) (key : Option String)
  /-- A comma, the end of what is open, or the end of the text, after the value `v`. -/
  | after (v : Json)

/-- The state of reading: what is open, the innermost first, and what must come next. -/
structure Machine where
  stack : List Frame
  mode : Mode

namespace Machine

/-- Before the first token. -/
def start : Machine := ⟨[], .value false⟩

/-- A token where a value must come. -/
def feedValue (stack : List Frame) (mayClose : Bool) : Token → Option Machine
  | .null => some ⟨stack, .after .null⟩
  | .bool b => some ⟨stack, .after (.bool b)⟩
  | .number l => some ⟨stack, .after (.number l)⟩
  | .string t => some ⟨stack, .after (.string t)⟩
  | .openBracket => some ⟨.array [] :: stack, .value true⟩
  | .openBrace => some ⟨stack, .key [] true⟩
  | .closeBracket =>
    match mayClose, stack with
    | true, .array [] :: stack => some ⟨stack, .after (.array [])⟩
    | _, _ => none
  | .closeBrace | .colon | .comma => none

/-- A token after the value `v`. -/
def feedAfter (stack : List Frame) (v : Json) (t : Token) : Option Machine :=
  match stack, t with
  | .array items :: stack, .comma => some ⟨.array (v :: items) :: stack, .value false⟩
  | .array items :: stack, .closeBracket => some ⟨stack, .after (.array (v :: items).reverse)⟩
  | .object members k :: stack, .comma => some ⟨stack, .key ((k, v) :: members) false⟩
  | .object members k :: stack, .closeBrace =>
    some ⟨stack, .after (.object ((k, v) :: members).reverse)⟩
  | _, _ => none

/-- The state after one more token, if it may come. -/
def feed (m : Machine) (t : Token) : Option Machine :=
  match m.mode, t with
  | .value mayClose, t => feedValue m.stack mayClose t
  | .key members _, .string k => some ⟨m.stack, .colon members k⟩
  | .key [] true, .closeBrace => some ⟨m.stack, .after (.object [])⟩
  | .key .., _ => none
  | .colon members k, .colon => some ⟨.object members k :: m.stack, .value false⟩
  | .colon .., _ => none
  | .after v, t => feedAfter m.stack v t

/-- The state after all tokens of a text. -/
def run (m : Machine) (s : List Char) : Option Machine :=
  match Token.next? s with
  | none => none
  | some none => some m
  | some (some (t, ⟨rest, _⟩)) =>
    match m.feed t with
    | none => none
    | some m => run m rest
termination_by s.length

/-- The value that was read, if nothing is open. -/
def result? (m : Machine) : Option Json :=
  match m.stack, m.mode with
  | [], .after v => some v
  | _, _ => none

end Machine

/-- The value that a text holds. -/
def parseChars (s : List Char) : Option Json := (Machine.start.run s).bind Machine.result?

/-- The value that a text holds. -/
def parse (s : String) : Option Json := parseChars s.toList

end DocLint.Json

import DocLint.Pattern.Cursor
import DocLint.Text.Hex

/-!
# Escapes

What follows a backslash: a character by its code or name, a punctuation character that means
itself, a class of characters, or a place in the text.
-/

namespace DocLint.Pattern

/-! ## Characters by code -/

/-- Hexadecimal digits up to a closing brace, as a value and a count; the place is at the brace.
`brace` is the offset of the opening brace. -/
def readBracedDigits (x : Bool) (brace : Nat) (value count : Nat) (c : Cursor) :
    Except Fault ((Nat × Nat) × Cursor) :=
  match _h : c.rest with
  | [] => fault (c.spanFrom brace) .escapeUnfinished
  | d :: _ =>
    if d == '}' then .ok ((value, count), c)
    else match Text.hexDigit? d with
      | none => fault c.nextSpan .hexDigitInvalid
      | some v => readBracedDigits x brace (16 * value + v) (count + 1) (c.advance x)
termination_by c.rest.length
decreasing_by exact Cursor.advance_length x ‹_›

/-- Exactly `count` hexadecimal digits, as a value; the place is after the last one. -/
def readFixedDigits (x : Bool) (value : Nat) : Nat → Cursor → Except Fault (Nat × Cursor)
  | 0, c => .ok (value, c)
  | count + 1, c =>
    match c.rest with
    | [] => fault c.here .escapeUnfinished
    | d :: _ =>
      match Text.hexDigit? d with
      | none => fault c.nextSpan .hexDigitInvalid
      | some v => readFixedDigits x (16 * value + v) count (c.advance x)

/-- A character by its code, in braces or with `digits` digits. The cursor is at the letter after
the backslash, which is at `start`. -/
def readCode (x : Bool) (start digits : Nat) (c : Cursor) : Except Fault (Atom × Cursor) := do
  let c := c.advance x
  match c.rest with
  | [] => fault c.here .escapeUnfinished
  | '{' :: _ =>
    let brace := c.offset
    let ((value, count), close) ← readBracedDigits x brace 0 0 (c.advance x)
    let stop := close.advance x
    if count == 0 then fault (stop.spanFrom brace) .hexEmpty
    else match Text.charOfCode? value with
      | none => fault ⟨brace + 1, close.offset⟩ .hexInvalid
      | some ch => return (.literal ⟨stop.spanFrom start, ch, false⟩, stop)
  | _ =>
    let (value, stop) ← readFixedDigits x 0 digits c
    match Text.charOfCode? value with
    | none => fault (stop.spanFrom c.offset) .hexInvalid
    | some ch => return (.literal ⟨stop.spanFrom start, ch, digits == 2⟩, stop)

/-! ## Classes by property -/

/-- The text before and after the first occurrence of `sep`. -/
def splitOnce? (sep : List Char) : List Char → Option (List Char × List Char)
  | [] => if sep.isEmpty then some ([], []) else none
  | c :: rest =>
    if sep.isPrefixOf (c :: rest) then some ([], (c :: rest).drop sep.length)
    else (splitOnce? sep rest).map fun (a, b) => (c :: a, b)

/-- What the text between the braces asks for. The sign `!=` divides it as `=` does, but is no
negation. -/
def propertyQuery (name : List Char) : PropertyQuery :=
  match splitOnce? ['!', '='] name <|> splitOnce? [':'] name <|> splitOnce? ['='] name with
  | some (property, value) => .value (String.ofList property) (String.ofList value)
  | none => .name (String.ofList name)

/-- The text up to a closing brace; the place is at the brace. -/
def readBracedName (x : Bool) (c : Cursor) : Except Fault ((List Char) × Cursor) :=
  match _h : c.rest with
  | [] => fault c.here .escapeUnfinished
  | a :: _ =>
    if a == '}' then .ok ([], c)
    else do
      let (name, stop) ← readBracedName x (c.advance x)
      return (a :: name, stop)
termination_by c.rest.length
decreasing_by exact Cursor.advance_length x ‹_›

/-- A class by property. The cursor is at the letter after the backslash, which is at `start`. -/
def readProperty (x : Bool) (start : Nat) (negated : Bool) (c : Cursor) :
    Except Fault (Atom × Cursor) := do
  let c := c.advance x
  match c.rest with
  | [] => fault c.here .escapeUnfinished
  | '{' :: _ =>
    let (name, close) ← readBracedName x (c.advance x)
    let stop := close.forward 1
    return (.property (stop.spanFrom start) (propertyQuery name) negated, stop)
  | '\\' :: _ => fault c.nextSpan .propertyClassInvalid
  | a :: _ =>
    let stop := c.advance x
    return (.property (stop.spanFrom start) (.name (String.singleton a)) negated, stop)

/-! ## Word boundaries -/

/-- The letters and dashes at a cursor and the place after them. -/
def readBoundaryName (x : Bool) (c : Cursor) : List Char × Cursor :=
  match _h : c.rest with
  | [] => ([], c)
  | a :: _ =>
    if a.isAlpha || a == '-' then
      let r := readBoundaryName x (c.advance x)
      (a :: r.1, r.2)
    else ([], c)
termination_by c.rest.length
decreasing_by exact Cursor.advance_length x ‹_›

/-- What follows the `b` of a word boundary: a kind in braces, or nothing that belongs to it, as
when the brace starts a count. The backslash is at `start`. -/
def readBoundary (x : Bool) (start : Nat) (c : Cursor) : Except Fault (Atom × Cursor) := do
  let plain : Except Fault (Atom × Cursor) := .ok (.assertion (c.spanFrom start) .wordBoundary, c)
  match c.rest with
  | '{' :: _ =>
    let first := c.advance x
    match first.rest with
    | [] => fault (first.spanFrom start) .wordBoundaryOrRepetitionUnclosed
    | a :: _ =>
      if !(a.isAlpha || a == '-') then plain
      else
        let (name, close) := readBoundaryName x first
        if close.rest.head? != some '}' then
          fault (close.spanFrom c.offset) .wordBoundaryUnclosed
        else
          let stop := close.forward 1
          let kind? := match String.ofList name with
            | "start" => some Assertion.wordStart
            | "end" => some .wordEnd
            | "start-half" => some .wordStartHalf
            | "end-half" => some .wordEndHalf
            | _ => none
          match kind? with
          | some kind => return (.assertion (stop.spanFrom start) kind, stop)
          | none => fault ⟨first.offset, close.offset⟩ .wordBoundaryUnrecognized
  | _ => plain

/-! ## All escapes -/

/-- Whether an escaped character means itself: ASCII punctuation, blanks and controls, but not the
angle brackets. -/
def isEscapable (c : Char) : Bool := c.toNat < 0x80 && !c.isAlphanum && c != '<' && c != '>'

/-- The character that an escaped letter names. -/
def namedChar? : Char → Option Char
  | 'a' => some '\x07'
  | 'f' => some '\x0c'
  | 't' => some '\t'
  | 'n' => some '\n'
  | 'r' => some '\r'
  | 'v' => some '\x0b'
  | _ => none

/-- The place that an escaped letter requires. -/
def assertion? : Char → Option Assertion
  | 'A' => some .textStart
  | 'z' => some .textEnd
  | 'B' => some .notWordBoundary
  | '<' => some .wordStart
  | '>' => some .wordEnd
  | _ => none

/-- The class that an escaped letter stands for, and whether for all other characters. -/
def letterClass? : Char → Option (LetterClass × Bool)
  | 'd' => some (.digit, false)
  | 's' => some (.space, false)
  | 'w' => some (.word, false)
  | 'D' => some (.digit, true)
  | 'S' => some (.space, true)
  | 'W' => some (.word, true)
  | _ => none

/-- The escape at a cursor, which is at the backslash. -/
def readEscape (x : Bool) (backslash : Cursor) : Except Fault (Atom × Cursor) :=
  let start := backslash.offset
  let c := backslash.forward 1
  match c.rest with
  | [] => fault (c.spanFrom start) .escapeUnfinished
  | a :: _ =>
    let stop := c.forward 1
    let span := stop.spanFrom start
    if a.isDigit then fault span .backreference
    else if a == 'x' then readCode x start 2 c
    else if a == 'u' then readCode x start 4 c
    else if a == 'U' then readCode x start 8 c
    else if a == 'p' || a == 'P' then readProperty x start (a == 'P') c
    else if a == 'b' then readBoundary x start stop
    else if isEscapable a then .ok (.literal ⟨span, a, false⟩, stop)
    else match letterClass? a, namedChar? a, assertion? a with
      | some (k, negated), _, _ => .ok (.letterClass span k negated, stop)
      | _, some ch, _ => .ok (.literal ⟨span, ch, false⟩, stop)
      | _, _, some k => .ok (.assertion span k, stop)
      | none, none, none => fault span .escapeUnrecognized

end DocLint.Pattern

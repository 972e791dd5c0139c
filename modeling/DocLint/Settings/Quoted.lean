import DocLint.Text.Hex

/-!
# Strings in settings

A string stands in double quotes, with escapes, or in single quotes, without; tripled quotes let it
go over several lines. `string?` reads the string at the start of a text.
-/

namespace DocLint.Settings

/-! ## Characters -/

/-- Whether a character may stand between the parts of a line. -/
def isGap (c : Char) : Bool := c == ' ' || c == '\t'

/-- Whether a character must not stand in strings and comments. -/
def isForbidden (c : Char) : Bool := (c.toNat < 0x20 && c != '\t') || c.toNat == 0x7F

/-- The text after a line end, if there is one at its start. -/
def afterNewline? : List Char → Option (List Char)
  | '\n' :: rest => some rest
  | '\r' :: '\n' :: rest => some rest
  | _ => none

/-! ## Escapes -/

/-- The character that a letter after a backslash stands for. -/
def shortEscape? : Char → Option Char
  | 'b' => some '\x08'
  | 't' => some '\t'
  | 'n' => some '\n'
  | 'f' => some '\x0c'
  | 'r' => some '\r'
  | 'e' => some '\x1b'
  | '"' => some '"'
  | '\\' => some '\\'
  | _ => none

/-- The character with a code of so many hexadecimal digits. -/
def codeEscape? (digits : Nat) (s : List Char) : Option (Char × List Char) := do
  if s.length < digits then none
  else
    let ds ← (s.take digits).mapM Text.hexDigit?
    let c ← Text.charOfCode? (ds.foldl (fun n d => 16 * n + d) 0)
    return (c, s.drop digits)

/-- The character of an escape, after the backslash. -/
def escape? : List Char → Option (Char × List Char)
  | 'x' :: rest => codeEscape? 2 rest
  | 'u' :: rest => codeEscape? 4 rest
  | 'U' :: rest => codeEscape? 8 rest
  | e :: rest => (shortEscape? e).map fun c => (c, rest)
  | [] => none

/-- The text after a backslash that ends its line, without the white space up to the next word. -/
def afterContinuation? (s : List Char) : Option (List Char) :=
  (afterNewline? (s.dropWhile isGap)).map fun rest =>
    rest.dropWhile fun c => isGap c || c == '\n' || c == '\r'

/-! ## Strings -/

/-- How a string is written. -/
structure Quotes where
  /-- The quote, single or double. -/
  quote : Char
  /-- Whether the quotes are tripled and the string may go over several lines. -/
  tripled : Bool
  deriving DecidableEq, Repr

/-- The closing quotes. -/
def Quotes.closing (q : Quotes) : List Char := List.replicate (if q.tripled then 3 else 1) q.quote

/-- One character of a string, if it is not closed: what it adds, and the text after it. A quote
before the closing quotes belongs to the string. -/
def stringPart? (q : Quotes) (s : List Char) : Option (List Char × List Char) :=
  match s with
  | [] => none
  | c :: rest =>
    if c == '\\' && q.quote == '"' then
      match if q.tripled then afterContinuation? rest else none with
      | some rest => some ([], rest)
      | none => (escape? rest).map fun (c, rest) => ([c], rest)
    else match if q.tripled then afterNewline? s else none with
      | some rest => some (['\n'], rest)
      | none => if isForbidden c then none else some ([c], rest)

/-- A string up to its closing quotes, and the text after them. -/
def stringBody? (q : Quotes) (s : List Char) : Option (List Char × List Char) :=
  if q.closing.isPrefixOf s && (!q.tripled || (s.drop 3).head? != some q.quote) then
    some ([], s.drop q.closing.length)
  else match stringPart? q s with
    | none => none
    | some (part, rest) =>
      if rest.length < s.length then
        (stringBody? q rest).map fun (cs, rest) => (part ++ cs, rest)
      else none
termination_by s.length

/-- The quotes at the start of a text, and the text after them. -/
def openingQuotes? (multiline : Bool) : List Char → Option (Quotes × List Char)
  | [] => none
  | q :: rest =>
    if q == '"' || q == '\'' then
      if multiline && [q, q].isPrefixOf rest then
        let rest := rest.drop 2
        some (⟨q, true⟩, (afterNewline? rest).getD rest)
      else some (⟨q, false⟩, rest)
    else none

/-- The string at the start of a text, and the text after it. -/
def string? (multiline : Bool) (s : List Char) : Option (List Char × List Char) := do
  let (q, rest) ← openingQuotes? multiline s
  stringBody? q rest

end DocLint.Settings

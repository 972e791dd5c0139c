import DocLint.Fragment
import DocLint.Text.Lines

/-!
# Meta blocks

Fragments stand in source files as blocks of lines. A block opens with a line such as `<--[event]`
and closes with the line `-->`; between them a line such as `@Events player jumps` starts a tag, and
the lines up to the next tag belong to its value. White space around a line does not matter, keys
are lowercased, and text outside of closed blocks is passed over. A block that is still open when
another one opens, or when the text ends, is dropped.
-/

namespace DocLint

/-! ## Kinds of lines -/

/-- What a line within a text can be, by its trimmed characters. -/
inductive BlockLine
  /-- The start of a block, with its category. -/
  | opener (category : List Char)
  /-- The end of a block. -/
  | closer
  /-- The start of a tag, with its key and the first line of its value. -/
  | tag (key first : List Char)
  /-- Anything else. -/
  | other (line : List Char)
  deriving DecidableEq, Repr

namespace BlockLine

/-- The sign with which blocks open. -/
def openSign : List Char := ['<', '-', '-', '[']

/-- The line that closes blocks. -/
def closeSign : List Char := ['-', '-', '>']

/-- The category between the opening sign and the bracket at the end of a line. -/
def openerCategory? (line : List Char) : Option (List Char) :=
  if openSign.isPrefixOf line && (line.drop openSign.length).getLast? == some ']' then
    some (line.drop openSign.length).dropLast
  else none

/-- What a trimmed line is. -/
def ofTrimmed (line : List Char) : BlockLine :=
  match openerCategory? line with
  | some category => opener category
  | none =>
    if line = closeSign then closer
    else match line with
      | '@' :: rest =>
        tag (rest.takeWhile (· != ' ')) (Text.trimChars ((rest.dropWhile (· != ' ')).drop 1))
      | line => other line

/-- What a line is. -/
def read (line : List Char) : BlockLine := ofTrimmed (Text.trimChars line)

end BlockLine

/-! ## Open blocks -/

/-- A tag whose value may go on: its key and the lines of its value. -/
structure OpenTag where
  key : String
  lines : List (List Char)
  deriving DecidableEq, Repr

/-- The tag with all lines of its value joined. -/
def OpenTag.close (t : OpenTag) : String × String :=
  (t.key, String.ofList (Text.trimChars (['\n'].intercalate t.lines)))

/-- A block that is not closed: what is known of the fragment, and the tag whose value may go on. -/
structure OpenBlock where
  fragment : Fragment
  current : Option OpenTag := none
  deriving DecidableEq, Repr

namespace OpenBlock

/-- The block that opens at a line. -/
def start (origin : String) (number : Nat) (category : List Char) : OpenBlock :=
  ⟨{ category := String.ofList category, source := some (origin ++ ":" ++ number.repr) }, none⟩

/-- The fragment of a block, the value of its last tag being complete. -/
def close (b : OpenBlock) : Fragment :=
  match b.current with
  | none => b.fragment
  | some t => b.fragment.tag t.close.1 t.close.2

/-- The block after a line that starts a tag. -/
def startTag (b : OpenBlock) (key first : List Char) : OpenBlock :=
  ⟨b.close, some ⟨Unicode.lowercase (String.ofList key), if first.isEmpty then [] else [first]⟩⟩

/-- The block after any other line: it belongs to the value of the last tag, if there is one. -/
def addLine (b : OpenBlock) (line : List Char) : OpenBlock :=
  { b with current := b.current.map fun t => { t with lines := t.lines ++ [line] } }

end OpenBlock

/-! ## Texts -/

namespace Block

/-- The fragments of the closed blocks in lines, the first of them having the given number;
`current` is the block that is open before them. -/
def ofLines (origin : String) (number : Nat) (current : Option OpenBlock) :
    List (List Char) → List Fragment
  | [] => []
  | line :: rest =>
    match BlockLine.read line, current with
    | .opener category, _ =>
      ofLines origin (number + 1) (some (.start origin number category)) rest
    | _, none => ofLines origin (number + 1) none rest
    | .closer, some b => b.close :: ofLines origin (number + 1) none rest
    | .tag key first, some b => ofLines origin (number + 1) (some (b.startTag key first)) rest
    | .other line, some b => ofLines origin (number + 1) (some (b.addLine line)) rest

/-- The fragments of the closed blocks of a text; `origin` names the text in their sources. -/
def parse (text origin : String) : List Fragment :=
  ofLines origin 1 none (Text.lineChars text.toList)

end Block

end DocLint

import DocLint.Text.Lines

/-!
# Faults of patterns

A pattern that cannot be used has a first fault: what is wrong, and the span of characters where.
`Fault.render` shows the pattern with carets under the span, and under the span of the earlier
occurrence for a duplicate. A pattern of one line is indented by four blanks; the lines of a longer
one are numbered and stand between two rules.
-/

namespace DocLint.Pattern

/-- Characters `start` up to but not including `stop` of a pattern, counted from 0. -/
structure Span where
  start : Nat
  stop : Nat
  deriving DecidableEq, Repr

/-- What can be wrong with a pattern. -/
inductive FaultKind
  | captureNameDuplicate
  | captureNameEmpty
  | captureNameInvalid
  | captureNameUnclosed
  | classEscapeInvalid
  | classRangeInvalid
  | classRangeLiteral
  | classUnclosed
  | decimalInvalid
  | escapeUnfinished
  | escapeUnrecognized
  | flagDanglingNegation
  | flagDuplicate
  | flagRepeatedNegation
  | flagUnfinished
  | flagUnrecognized
  | groupUnclosed
  | groupUnopened
  | hexDigitInvalid
  | hexEmpty
  | hexInvalid
  | lookAround
  | backreference
  | nestedTooDeep (limit : Nat)
  | propertyClassInvalid
  | propertyNotFound
  | propertyValueNotFound
  | repetitionCountEmpty
  | repetitionCountInvalid
  | repetitionCountUnclosed
  | repetitionMissing
  | unicodeNotAllowed
  | invalidUtf8
  | wordBoundaryOrRepetitionUnclosed
  | wordBoundaryUnclosed
  | wordBoundaryUnrecognized
  deriving DecidableEq, Repr

/-- The wording of a fault. -/
def FaultKind.text : FaultKind → String
  | captureNameDuplicate => "duplicate capture group name"
  | captureNameEmpty => "empty capture group name"
  | captureNameInvalid => "invalid capture group character"
  | captureNameUnclosed => "unclosed capture group name"
  | classEscapeInvalid => "invalid escape sequence found in character class"
  | classRangeInvalid => "invalid character class range, the start must be <= the end"
  | classRangeLiteral => "invalid range boundary, must be a literal"
  | classUnclosed => "unclosed character class"
  | decimalInvalid => "decimal literal invalid"
  | escapeUnfinished => "incomplete escape sequence, reached end of pattern prematurely"
  | escapeUnrecognized => "unrecognized escape sequence"
  | flagDanglingNegation => "dangling flag negation operator"
  | flagDuplicate => "duplicate flag"
  | flagRepeatedNegation => "flag negation operator repeated"
  | flagUnfinished => "expected flag but got end of regex"
  | flagUnrecognized => "unrecognized flag"
  | groupUnclosed => "unclosed group"
  | groupUnopened => "unopened group"
  | hexDigitInvalid => "invalid hexadecimal digit"
  | hexEmpty => "hexadecimal literal empty"
  | hexInvalid => "hexadecimal literal is not a Unicode scalar value"
  | lookAround => "look-around, including look-ahead and look-behind, is not supported"
  | backreference => "backreferences are not supported"
  | nestedTooDeep limit =>
    "exceed the maximum number of nested parentheses/brackets (" ++ limit.repr ++ ")"
  | propertyClassInvalid => "invalid Unicode character class"
  | propertyNotFound => "Unicode property not found"
  | propertyValueNotFound => "Unicode property value not found"
  | repetitionCountEmpty => "repetition quantifier expects a valid decimal"
  | repetitionCountInvalid => "invalid repetition count range, the start must be <= the end"
  | repetitionCountUnclosed => "unclosed counted repetition"
  | repetitionMissing => "repetition operator missing expression"
  | unicodeNotAllowed => "Unicode not allowed here"
  | invalidUtf8 => "pattern can match invalid UTF-8"
  | wordBoundaryOrRepetitionUnclosed =>
    "found either the beginning of a special word boundary or a bounded repetition on a \\b " ++
      "with an opening brace, but no closing brace"
  | wordBoundaryUnclosed =>
    "special word boundary assertion is either unclosed or contains an invalid character"
  | wordBoundaryUnrecognized =>
    "unrecognized special word boundary assertion, valid choices are: start, end, start-half " ++
      "or end-half"

/-- The first fault of a pattern, with the span of the earlier occurrence for a duplicate. -/
structure Fault where
  kind : FaultKind
  span : Span
  earlier : Option Span := none
  deriving DecidableEq, Repr

/-- A fault without an earlier occurrence. -/
def fault {α : Type} (span : Span) (kind : FaultKind) : Except Fault α := .error ⟨kind, span, none⟩

/-! ## Places -/

/-- A place between two characters, by line and column, both counted from 1. -/
structure Place where
  line : Nat
  column : Nat
  deriving DecidableEq, Repr

/-- The place after one more character. -/
def Place.after (p : Place) (c : Char) : Place :=
  if c == '\n' then ⟨p.line + 1, 1⟩ else ⟨p.line, p.column + 1⟩

/-- The place before the character at `offset`. -/
def placeAt (pattern : List Char) (offset : Nat) : Place :=
  (pattern.take offset).foldl Place.after ⟨1, 1⟩

/-! ## Rendering -/

/-- Carets under the columns of one line, given as first column and number of carets in order;
`column` is the number of columns written so far. -/
def carets (column : Nat) : List (Nat × Nat) → List Char
  | [] => []
  | (first, count) :: rest =>
    let gap := first - 1 - column
    List.replicate gap ' ' ++ List.replicate count '^' ++ carets (column + gap + count) rest

/-- The two marked spans of a fault, in order. -/
def Fault.spans (f : Fault) : List Span :=
  match f.earlier with
  | none => [f.span]
  | some s =>
    if s.start < f.span.start || (s.start == f.span.start && s.stop < f.span.stop) then [s, f.span]
    else [f.span, s]

/-- The lines of a pattern, each after its label and followed by the carets for the spans in it. -/
def markedLines (pattern : List Char) (spans : List Span) (label : Nat → List Char) :
    List (List Char) :=
  (Text.lineChars pattern).zipIdx.flatMap fun (line, i) =>
    let marks := spans.filterMap fun s =>
      let a := placeAt pattern s.start
      let b := placeAt pattern s.stop
      if a.line == b.line && a.line == i + 1 then some (a.column, max 1 (b.column - a.column))
      else none
    let shown := label (i + 1) ++ line
    if marks.isEmpty then [shown]
    else [shown, List.replicate (label (i + 1)).length ' ' ++ carets 0 marks]

/-- The number of a line, padded to `width` and followed by a colon. -/
def lineLabel (width n : Nat) : List Char :=
  let digits := n.repr.toList
  List.replicate (width - digits.length) ' ' ++ digits ++ [':', ' ']

/-- The text of a fault: the pattern with the spans marked, then the wording. -/
def Fault.render (f : Fault) (pattern : String) : String :=
  let p := pattern.toList
  let body := if p.contains '\n' then
      let rule := String.ofList (List.replicate 79 '~')
      let count := (Text.lineChars p).length + (if p.getLast? == some '\n' then 1 else 0)
      let shown := (markedLines p f.spans (lineLabel count.repr.length)).map String.ofList
      let crossing := f.spans.filterMap fun s =>
        let a := placeAt p s.start
        let b := placeAt p s.stop
        if a.line == b.line then none
        else some ("on line " ++ a.line.repr ++ " (column " ++ a.column.repr ++ ") through line " ++
          b.line.repr ++ " (column " ++ (b.column - 1).repr ++ ")")
      rule :: shown ++ rule :: crossing
    else
      (markedLines p f.spans fun _ => List.replicate 4 ' ').map String.ofList
  "\n".intercalate ("regex parse error:" :: body ++ ["error: " ++ f.kind.text])

end DocLint.Pattern

import DocLint.Text.Space

/-!
# Lines

Lines end with a line feed, or with a carriage return and a line feed. There are two ways to take a
text apart: `lines` gives the lines of a file, in which a final line end adds no line and a carriage
return counts as part of a line end only if the line feed follows; `entries` gives the non-empty
lines of a value that lists one entry a line, the last one also without its carriage return.
-/

namespace DocLint.Text

/-- The pieces of a text between the occurrences of `sep`: one more than there are of these. -/
def pieces (sep : Char) : List Char → List (List Char)
  | [] => [[]]
  | c :: rest =>
    match pieces sep rest with
    | [] => [[c]]
    | p :: ps => if c = sep then [] :: p :: ps else (c :: p) :: ps

/-- A line without the carriage return at its end. -/
def dropReturn (line : List Char) : List Char :=
  if line.getLast? = some '\r' then line.dropLast else line

/-- The lines of a file, from its pieces between line feeds. -/
def linesOfPieces : List (List Char) → List (List Char)
  | [] => []
  | [last] => if last = [] then [] else [last]
  | p :: q :: ps => dropReturn p :: linesOfPieces (q :: ps)

/-- The lines of a file. -/
def lineChars (s : List Char) : List (List Char) := linesOfPieces (pieces '\n' s)

/-- The lines of a file. -/
def lines (s : String) : List String := (lineChars s.toList).map String.ofList

/-- The non-empty lines of a value. -/
def entryChars (s : List Char) : List (List Char) :=
  ((pieces '\n' s).map dropReturn).filter (· ≠ [])

/-- The non-empty lines of a value. -/
def entries (s : String) : List String := (entryChars s.toList).map String.ofList

/-- Whether a value says `true`, in any case and with white space around it. -/
def isTrue (s : String) : Bool :=
  (trimChars s.toList).map Char.toLower == ['t', 'r', 'u', 'e']

end DocLint.Text

import DocLint.Batch
import DocLint.Block

/-!
# Case files

A case file holds texts with meta blocks, each with the issues that checking it should find. A case
starts with a line such as `# test: unknown key`; then come a line `---`, the text, a line `---`,
one line `record: kind` for each expected issue or the word `ok`, and a line `===`. All else is
passed over.
-/

namespace DocLint

/-- A text with the issues that are expected in it. -/
structure Case where
  name : String
  /-- The number of the line on which the case starts. -/
  line : Nat
  input : String
  expected : List String
  deriving DecidableEq, Repr

/-- What running a case comes to. -/
inductive Outcome
  | pass
  | mismatch (expected actual : List String)
  | broken (reason : String)
  deriving DecidableEq, Repr

def Outcome.isPass : Outcome → Bool
  | pass => true
  | _ => false

namespace Case

/-! ## Reading -/

/-- The word with which cases start. -/
def startWord : List Char := "# test:".toList

/-- The line between the parts of a case. -/
def divider : List Char := ['-', '-', '-']

/-- The line at the end of a case. -/
def ending : List Char := ['=', '=', '=']

/-- Whether a line is the given one, white space around it aside. -/
def isLine (expected : List Char) (line : List Char × Nat) : Bool :=
  Text.trimChars line.1 == expected

/-- The name of the case that a line starts, if it does. -/
def startName? (line : List Char) : Option (List Char) :=
  let line := Text.trimChars line
  if startWord.isPrefixOf line then some (Text.trimChars (line.drop startWord.length)) else none

/-- The lines before the first that is `stop`, and those after it. -/
def cutAt (stop : List Char) (lines : List (List Char × Nat)) :
    List (List Char × Nat) × List (List Char × Nat) :=
  (lines.takeWhile fun l => !isLine stop l, (lines.dropWhile fun l => !isLine stop l).drop 1)

theorem cutAt_length (stop : List Char) (lines : List (List Char × Nat)) :
    (cutAt stop lines).2.length ≤ lines.length := by
  have := (List.dropWhile_suffix (l := lines) fun l => !isLine stop l).length_le
  simp only [cutAt, List.length_drop]
  omega

/-- The expected issues in the lines of a case. -/
def expectedOf (lines : List (List Char × Nat)) : List String :=
  ((lines.map fun l => String.ofList (Text.trimChars l.1)).filter fun s => s != "" && s != "ok")

/-- The cases in numbered lines. -/
def ofLines (lines : List (List Char × Nat)) : List Case :=
  match lines with
  | [] => []
  | (line, number) :: rest =>
    match startName? line with
    | none => ofLines rest
    | some name =>
      let afterStart := (cutAt divider rest).2
      let afterInput := (cutAt divider afterStart).2
      { name := String.ofList name
        line := number
        input := String.ofList (['\n'].intercalate ((cutAt divider afterStart).1.map Prod.fst))
        expected := expectedOf (cutAt ending afterInput).1 } :: ofLines (cutAt ending afterInput).2
termination_by lines.length
decreasing_by
  · simp
  · have h₁ := cutAt_length divider rest
    have h₂ := cutAt_length divider (cutAt divider rest).2
    have h₃ := cutAt_length ending (cutAt divider (cutAt divider rest).2).2
    simp only [List.length_cons]
    omega

/-- The cases in a case file. -/
def parse (text : String) : List Case := ofLines ((Text.lineChars text.toList).zipIdx 1)

/-! ## Running -/

/-- The line that stands for an issue. -/
def issueLine (i : Issue) : String := i.record ++ ": " ++ i.kind.name

/-- The issues that checking a batch finds under the default configuration, as lines. -/
def actualOf (batch : List Fragment) : List String :=
  (Batch.check batch {}).report.issues.map issueLine

/-- Checks the text of a case, and compares what is found with what is expected. -/
def run (c : Case) : Outcome :=
  match Block.parse c.input c.name with
  | [] => .broken "no meta blocks in input"
  | f :: fs =>
    let actual := actualOf (f :: fs)
    if actual = c.expected then .pass else .mismatch c.expected actual

end Case

/-! ## Summaries -/

/-- A case that did not pass. -/
structure Failure where
  name : String
  line : Nat
  outcome : Outcome
  deriving DecidableEq, Repr

/-- How many cases passed, and which did not. -/
structure Summary where
  passed : Nat := 0
  failures : List Failure := []
  deriving DecidableEq, Repr

namespace Summary

/-- Counts in the outcome of a case. -/
def record (s : Summary) (name : String) (line : Nat) (outcome : Outcome) : Summary :=
  if outcome.isPass then { s with passed := s.passed + 1 }
  else { s with failures := s.failures ++ [⟨name, line, outcome⟩] }

def total (s : Summary) : Nat := s.passed + s.failures.length

def allPassed (s : Summary) : Bool := s.failures.isEmpty

/-- The lines that tell how two lists of issues differ: expected issues that are missing, issues
that were not expected, or, if there are none of either, what was found. -/
def differenceLines (expected actual : List String) : List String :=
  let missing := expected.filter fun l => !actual.contains l
  let extra := actual.filter fun l => !expected.contains l
  missing.map ("  - " ++ ·) ++ extra.map ("  + " ++ ·) ++
    if missing.isEmpty && extra.isEmpty then
      ["  issues differ in order or count: " ++ ", ".intercalate actual]
    else []

/-- The lines that tell about a case that did not pass. -/
def failureLines (f : Failure) : List String :=
  ("FAIL " ++ f.name ++ " (line " ++ f.line.repr ++ ")") ::
    match f.outcome with
    | .mismatch expected actual => differenceLines expected actual
    | .broken reason => ["  " ++ reason]
    | .pass => []

/-- The text of a summary; its last line is not ended. -/
def text (s : Summary) : String :=
  "\n".intercalate <| s.failures.flatMap failureLines ++
    ["fragment cases: " ++ s.passed.repr ++ "/" ++ s.total.repr ++ " passed"]

end Summary

/-- Runs cases one after the other. -/
def Case.runAll (cases : List Case) : Summary :=
  cases.foldl (fun s c => s.record c.name c.line c.run) {}

end DocLint

import DocLint.Text.Hex
import DocLint.Text.Lines

/-!
# Runs of characters

Sets of characters, and maps between characters, are written as lists of runs. A run of a set has
a first code point, a last one and the step between neighbours, which is 2 where upper and lower
case letters alternate. A run of a map also has the image of its first code point, and the images
of the others follow at the same distances. Large tables are lines of text with blanks between the
runs, which `Runs.ofLines` reads: `41-5A`, `AA` and `100-12E/2` are runs.
-/

namespace DocLint.Unicode

/-- Runs of code points: first, last, step. -/
abbrev Runs := List (Nat × Nat × Nat)

/-- Whether `n` is in the run from `first` to `last`, at a multiple of `step` from its start. -/
def inRun (first last step n : Nat) : Bool :=
  first ≤ n && n ≤ last && (n - first) % step == 0

namespace Runs

/-- Whether the code point `n` lies in one of the runs. -/
def containsCode (rs : Runs) (n : Nat) : Bool :=
  rs.any fun (first, last, step) => inRun first last step n

/-- Whether a character lies in one of the runs. -/
def contains (rs : Runs) (c : Char) : Bool := rs.containsCode c.toNat

/-! ## Runs as text -/

/-- The number that the digits at the start of a text add to `n`, and the text after them. -/
def readCode (n : Nat) : List Char → Nat × List Char
  | [] => (n, [])
  | c :: rest =>
    match Text.hexDigit? c with
    | some d => readCode (16 * n + d) rest
    | none => (n, c :: rest)

/-- The run that a word stands for. -/
def ofWord (word : List Char) : Nat × Nat × Nat :=
  let (first, rest) := readCode 0 word
  match rest with
  | '-' :: rest =>
    let (last, rest) := readCode 0 rest
    match rest with
    | '/' :: rest => (first, last, (readCode 0 rest).1)
    | _ => (first, last, 1)
  | _ => (first, first, 1)

/-- The runs on some lines. -/
def ofLines (lines : List String) : Runs :=
  lines.flatMap fun line => (Text.pieces ' ' line.toList).map ofWord

end Runs

/-- Runs of a map between code points: first, last, step, image of the first. -/
abbrev RunMap := List (Nat × Nat × Nat × Nat)

namespace RunMap

/-- The image of a code point, if it lies in one of the runs. -/
def image? (m : RunMap) (n : Nat) : Option Nat :=
  m.findSome? fun (first, last, step, image) =>
    if inRun first last step n then some (image + (n - first)) else none

/-- The code points that the map sends to `n`. -/
def preimages (m : RunMap) (n : Nat) : List Nat :=
  m.filterMap fun (first, last, step, image) =>
    if inRun image (image + (last - first)) step n then some (first + (n - image)) else none

end RunMap

end DocLint.Unicode

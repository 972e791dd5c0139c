import DocLint.Pattern.Words

/-!
# Sizes of patterns

A pattern is run by two automata, one that reads a line forward and one that reads it backward, and
neither may be larger than `sizeLimit`, unless the pattern is no more than a search for words. The
size of an automaton is counted in bytes: each state takes `stateSize`, and a state with several
ways on takes more for each of them. Counted repetitions are written out, so that short patterns can
have large automata.
-/

namespace DocLint.Pattern

/-- The way in which an automaton reads. -/
inductive Direction
  | forward
  | backward
  deriving DecidableEq, Repr

/-- The greatest size of an automaton that is allowed. -/
def sizeLimit : Nat := 10 * Nat.pow 2 20

/-- The size of a state that does not depend on what it does. -/
def stateSize : Nat := 32

/-- The size of a state that goes on to one of so many others without reading. -/
def forkSize (ways : Nat) : Nat := stateSize + 4 * ways

/-- The size of a state that reads a byte in one of so many ranges. -/
def choiceSize (ranges : Nat) : Nat := stateSize + 8 * ranges

/-! ## Sets -/

/-- The size of a set with characters that take several bytes. Forward, points with the same
continuations share a state. Backward, each sequence of byte ranges has its own way, but sequences
that start alike share the states for what is read last. -/
def CharSet.encodedSize (s : CharSet) (d : Direction) : Nat :=
  let sequences := s.byteSequences
  let points := continuations 4 sequences
  let ways := fun point => (groupByFirst point).length
  match d with
  | .forward => points.eraseDups.foldl (fun n point => n + choiceSize (ways point)) stateSize
  | .backward =>
    forkSize sequences.length + stateSize +
      stateSize * points.foldl (fun n point => n + ways point) 0

/-- The size of the states that read one character of a set. -/
def CharSet.size (s : CharSet) (d : Direction) : Nat :=
  if s.isAscii then stateSize + choiceSize s.ranges.length else s.encodedSize d

/-! ## Literals -/

/-- The bytes of a literal in the order in which they are read. -/
def literalBytes (d : Direction) (cs : List Char) : List Nat :=
  let bytes := cs.flatMap fun c => utf8Bytes c.toNat
  match d with
  | .forward => bytes
  | .backward => bytes.reverse

/-- Some words as they are divided by the empty words among them. -/
def divideAtEmpty : List (List Nat) → List (List (List Nat))
  | [] => [[]]
  | w :: rest =>
    match divideAtEmpty rest with
    | [] => [[w]]
    | part :: parts => if w.isEmpty then [] :: part :: parts else (w :: part) :: parts

/-- The first letters of some words, and for each of them what follows it. -/
def groupByLetter (words : List (List Nat)) : List (List (List Nat)) :=
  ((words.filterMap List.head?).eraseDups).map fun b =>
    words.filterMap fun
      | [] => none
      | c :: rest => if b = c then some rest else none

/-- The size of the states that read one of several words of at most `length` bytes, the state where
all words end apart. Words before and after one that ends are kept apart, because the earlier one is
preferred. -/
def wordsSize : Nat → List (List Nat) → Nat
  | 0, _ => 0
  | length + 1, words =>
    let words := match words with
      | [] :: rest => [] :: rest.dropWhile List.isEmpty
      | words => words
    if words.all List.isEmpty then 0
    else
      let parts := divideAtEmpty words
      let groups := parts.map groupByLetter
      let choices := (groups.filter fun g => !g.isEmpty).map List.length
      forkSize (choices.length + (parts.length - 1)) +
        (choices.map fun n => if n = 1 then stateSize else choiceSize n).sum +
        (groups.flatten.map (wordsSize length)).sum

/-- The size of the states that read one of several literals. -/
def literalsSize (d : Direction) (literals : List (List Char)) : Nat :=
  let words := literals.map (literalBytes d)
  stateSize + wordsSize (words.foldl (fun n w => max n (w.length + 1)) 0) words

/-! ## Patterns -/

/-- The literals that all of some patterns are. -/
def literals? (branches : List Node) : Option (List (List Char)) :=
  branches.mapM fun
    | .literal [] => none
    | .literal cs => some cs
    | _ => none

/-- The size of repetitions of a pattern of the given size. -/
def repetitionSize (least : Nat) (most : Option Nat) (nullable : Bool) (size : Nat) : Nat :=
  let optional := size + forkSize 2
  match least, most with
  | 0, some 1 => optional + stateSize
  | 0, none => if nullable then size + 2 * forkSize 2 + stateSize else optional
  | least, none => least * size + forkSize 2
  | least, some most =>
    if least = most then least * size
    else max stateSize (least * size) + stateSize + (most - least) * optional

mutual

/-- The size of the states of a simple pattern. -/
def Node.size (d : Direction) : Node → Nat
  | .literal cs => stateSize * max 1 (literalBytes d cs).length
  | .set _ s => s.size d
  | .look _ => stateSize
  | .capture a => a.size d + (if d = .forward then 2 * stateSize else 0)
  | .rep least most _ a => repetitionSize least most (a.leastLength?.getD 0 == 0) (a.size d)
  | .seq items => Node.sumOfSizes d items
  | .alt branches =>
    match literals? branches with
    | some cs => literalsSize d cs
    | none => forkSize branches.length + stateSize + Node.sumOfSizes d branches

/-- The sum of the sizes of simple patterns. -/
def Node.sumOfSizes (d : Direction) : List Node → Nat
  | [] => 0
  | a :: rest => a.size d + Node.sumOfSizes d rest

end

mutual

/-- Whether a simple pattern can match only at the start of a text, or only at its end if it is read
backward. -/
def Node.isAnchored (d : Direction) : Node → Bool
  | .look .textStart => d == .forward
  | .look .textEnd => d == .backward
  | .capture a => a.isAnchored d
  | .rep least _ _ a => least != 0 && a.isAnchored d
  | .seq items =>
    match d with
    | .forward => Node.firstIsAnchored d items
    | .backward => Node.lastIsAnchored d items
  | .alt branches => !branches.isEmpty && Node.allAnchored d branches
  | .literal _ | .set .. | .look _ => false

def Node.firstIsAnchored (d : Direction) : List Node → Bool
  | [] => false
  | a :: rest => a.isAnchored d || (a.isWidthless && Node.firstIsAnchored d rest)

def Node.lastIsAnchored (d : Direction) : List Node → Bool
  | [] => false
  | a :: rest =>
    Node.lastIsAnchored d rest || (Node.areWidthless rest && a.isAnchored d)

def Node.allAnchored (d : Direction) : List Node → Bool
  | [] => true
  | a :: rest => a.isAnchored d && Node.allAnchored d rest

end

/-- The size of the automaton of a simple pattern. Unless the pattern is anchored, the automaton may
start anywhere in a text, which takes a loop over all bytes. Forward, it marks the ends of the
match. -/
def Node.automatonSize (d : Direction) (a : Node) : Nat :=
  let start :=
    if a.isAnchored d then stateSize
    else repetitionSize 0 none false (stateSize + choiceSize 1)
  start + (Node.capture a).size d + stateSize

/-- Whether a pattern needs automata that are too large. -/
def Node.isTooLarge (a : Node) : Bool :=
  let a := a.simplify
  (sizeLimit < a.automatonSize .forward || sizeLimit < a.automatonSize .backward) &&
    !a.isWordSearch

end DocLint.Pattern

import DocLint.Unicode.Folding
import DocLint.Pattern.Tree

/-!
# Sets of characters

A set of characters is a list of ranges of code points, in order and with gaps between them. The
operations of a Boolean algebra come down to union and complement.
-/

namespace DocLint.Pattern

/-- Ranges of code points, first to last, in ascending order, that neither touch nor overlap. -/
structure CharSet where
  ranges : List (Nat × Nat)
  deriving DecidableEq, Repr

namespace CharSet

/-- The greatest code point. -/
def maxCode : Nat := 0x10FFFF

/-- Joins the range from `a` to `b` with later ranges that touch or overlap it; these come in the
order of their starts. -/
def joinFrom (a b : Nat) : List (Nat × Nat) → List (Nat × Nat)
  | [] => [(a, b)]
  | (c, d) :: rest => if c ≤ b + 1 then joinFrom a (max b d) rest else (a, b) :: joinFrom c d rest

/-- Joins ranges that touch or overlap; they come in the order of their starts. -/
def joinRanges : List (Nat × Nat) → List (Nat × Nat)
  | [] => []
  | (a, b) :: rest => joinFrom a b rest

/-- The set of the code points in any of the ranges. -/
def ofRanges (rs : List (Nat × Nat)) : CharSet :=
  ⟨joinRanges (rs.mergeSort fun p q => p.1 ≤ q.1)⟩

/-- The set of the code points in any of the runs. -/
def ofRuns (rs : Unicode.Runs) : CharSet :=
  ofRanges <| rs.flatMap fun (first, last, step) =>
    if step == 1 then [(first, last)]
    else (List.range ((last - first) / step + 1)).map fun k => (first + k * step, first + k * step)

def empty : CharSet := ⟨[]⟩

def containsCode (s : CharSet) (n : Nat) : Bool := s.ranges.any fun (a, b) => a ≤ n && n ≤ b

def contains (s : CharSet) (c : Char) : Bool := s.containsCode c.toNat

def union (s t : CharSet) : CharSet := ofRanges (s.ranges ++ t.ranges)

/-- The gaps between ranges, from `start` to `last`. -/
def gaps (last start : Nat) : List (Nat × Nat) → List (Nat × Nat)
  | [] => if start ≤ last then [(start, last)] else []
  | (a, b) :: rest =>
    if start < a then (start, a - 1) :: gaps last (b + 1) rest else gaps last (b + 1) rest

/-- The code points up to `last` that are not in the set. -/
def complement (last : Nat) (s : CharSet) : CharSet := ⟨gaps last 0 s.ranges⟩

def inter (s t : CharSet) : CharSet :=
  complement maxCode (union (complement maxCode s) (complement maxCode t))

def diff (s t : CharSet) : CharSet := inter s (complement maxCode t)

def symmDiff (s t : CharSet) : CharSet := diff (union s t) (inter s t)

/-- Whether all members are ASCII characters. -/
def isAscii (s : CharSet) : Bool := s.ranges.all fun (_, b) => b < 0x80

/-! ## Case -/

/-- The pairs of a code point and the one that stands for it when case is ignored. -/
def foldPairs : List (Nat × Nat) :=
  Unicode.Table.folding.flatMap fun (first, last, step, image) =>
    (List.range ((last - first) / step + 1)).map fun k => (first + k * step, image + k * step)

/-- The set with all characters added that differ in case only from a member. -/
def ignoreCase (s : CharSet) : CharSet :=
  let images := foldPairs.filterMap fun (n, image) =>
    if s.containsCode n || s.containsCode image then some (image, image) else none
  let images := ofRanges images
  let members := foldPairs.filterMap fun (n, image) =>
    if images.containsCode image then some (n, n) else none
  union s (union images (ofRanges members))

/-- The set with the other case of its ASCII letters added. -/
def ignoreAsciiCase (s : CharSet) : CharSet :=
  let letters := (List.range 26).flatMap fun k =>
    let upper := 0x41 + k
    let lower := 0x61 + k
    if s.containsCode upper || s.containsCode lower then [(upper, upper), (lower, lower)] else []
  union s (ofRanges letters)

/-! ## Classes -/

/-- The ranges of a class by name. -/
def namedRanges : NamedClass → List (Nat × Nat)
  | .alnum => [(0x30, 0x39), (0x41, 0x5A), (0x61, 0x7A)]
  | .alpha => [(0x41, 0x5A), (0x61, 0x7A)]
  | .ascii => [(0, 0x7F)]
  | .blank => [(0x9, 0x9), (0x20, 0x20)]
  | .cntrl => [(0, 0x1F), (0x7F, 0x7F)]
  | .digit => [(0x30, 0x39)]
  | .graph => [(0x21, 0x7E)]
  | .lower => [(0x61, 0x7A)]
  | .print => [(0x20, 0x7E)]
  | .punct => [(0x21, 0x2F), (0x3A, 0x40), (0x5B, 0x60), (0x7B, 0x7E)]
  | .space => [(0x9, 0xD), (0x20, 0x20)]
  | .upper => [(0x41, 0x5A)]
  | .word => [(0x30, 0x39), (0x41, 0x5A), (0x5F, 0x5F), (0x61, 0x7A)]
  | .xdigit => [(0x30, 0x39), (0x41, 0x46), (0x61, 0x66)]

/-- A class with a one-letter escape, among the ASCII characters. -/
def asciiLetterClass : LetterClass → CharSet
  | .digit => ofRanges (namedRanges .digit)
  | .space => ofRanges (namedRanges .space)
  | .word => ofRanges (namedRanges .word)

end CharSet

end DocLint.Pattern

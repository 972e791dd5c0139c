import DocLint.Pattern.CharSet

/-!
# Sets of characters as bytes

An automaton that reads UTF-8 sees a character as one to four bytes. `CharSet.byteSequences` splits
a set of characters into sequences of byte ranges: each of them stands for all characters with a
first byte in the first range, a second byte in the second one, and so on.
-/

namespace DocLint.Pattern

/-- The bytes of a code point in UTF-8. -/
def utf8Bytes (n : Nat) : List Nat :=
  if n < 0x80 then [n]
  else if n < 0x800 then [0xC0 + n / 64, 0x80 + n % 64]
  else if n < 0x10000 then [0xE0 + n / 4096, 0x80 + n / 64 % 64, 0x80 + n % 64]
  else [0xF0 + n / 262144, 0x80 + n / 4096 % 64, 0x80 + n / 64 % 64, 0x80 + n % 64]

/-- A sequence of byte ranges. -/
abbrev ByteSequence := List (Nat × Nat)

/-- The last code point of a first part of the range from `a` to `b`, if the range must be split at
a multiple of `block`: one end lies within a block, and the other end in another one. -/
def blockCut? (a b block : Nat) : Option Nat :=
  if a / block = b / block then none
  else if a % block ≠ 0 then some (a / block * block + (block - 1))
  else if b % block ≠ block - 1 then some (b / block * block - 1)
  else none

/-- The last code point of a first part of the range from `a` to `b`, unless the range is one
sequence of byte ranges. It is where the encoding grows longer or where a later byte starts anew. -/
def rangeCut? (a b : Nat) : Option Nat :=
  match [0x7F, 0x7FF, 0xFFFF].find? fun m => a ≤ m && m < b with
  | some m => some m
  | none => if b < 0x80 then none else [64, 4096, 262144].findSome? (blockCut? a b)

/-- The sequences of byte ranges for the code points from `a` to `b`. -/
def rangeSequences (a b : Nat) : List ByteSequence :=
  match rangeCut? a b with
  | none => [(utf8Bytes a).zip (utf8Bytes b)]
  | some m => if _h : a ≤ m ∧ m < b then rangeSequences a m ++ rangeSequences (m + 1) b else []
termination_by b - a

/-- The sequences of byte ranges for a set, in ascending order. -/
def CharSet.byteSequences (s : CharSet) : List ByteSequence :=
  (diff s ⟨[(0xD800, 0xDFFF)]⟩).ranges.flatMap fun (a, b) => rangeSequences a b

/-- Sequences that start with the same range and follow each other, without it. -/
def groupByFirst : List ByteSequence → List ((Nat × Nat) × List ByteSequence)
  | [] => []
  | [] :: rest => groupByFirst rest
  | (r :: tail) :: rest =>
    match groupByFirst rest with
    | (r', tails) :: groups =>
      if r = r' then (r, tail :: tails) :: groups else (r, [tail]) :: (r', tails) :: groups
    | [] => [(r, [tail])]

/-- What may follow at some point within a character, for each point that at most `length` more
bytes follow: the sequences of byte ranges. Points that are reached in several ways are listed as
often. -/
def continuations : Nat → List ByteSequence → List (List ByteSequence)
  | 0, _ => []
  | length + 1, sequences =>
    if sequences.all List.isEmpty then []
    else sequences :: (groupByFirst sequences).flatMap fun (_, tails) => continuations length tails

end DocLint.Pattern

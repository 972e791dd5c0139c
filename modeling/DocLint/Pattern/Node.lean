import DocLint.Pattern.CharSet

/-!
# Patterns without flags

A `Node` is what remains of a pattern once its flags are settled: characters, sets of characters and
places, and the ways to combine patterns.
-/

namespace DocLint.Pattern

/-- Places that a node can require. -/
inductive Look
  | textStart
  | textEnd
  | lineStart (crlf : Bool)
  | lineEnd (crlf : Bool)
  | wordBoundary (ascii : Bool)
  | notWordBoundary (ascii : Bool)
  | wordStart (ascii : Bool)
  | wordEnd (ascii : Bool)
  | wordStartHalf (ascii : Bool)
  | wordEndHalf (ascii : Bool)
  deriving DecidableEq, Repr

/-- A pattern without flags. -/
inductive Node
  /-- These characters, one after the other; if there are none, nothing. -/
  | literal (cs : List Char)
  /-- One character of a set, which is one of bytes if it was asked for without Unicode. -/
  | set (bytes : Bool) (s : CharSet)
  /-- A place, without reading a character. -/
  | look (l : Look)
  /-- A group whose match is kept apart from that of the whole. -/
  | capture (a : Node)
  /-- So many repetitions, without an upper bound if there is none: rather more of them if they are
  greedy, else rather fewer. -/
  | rep (least : Nat) (most : Option Nat) (greedy : Bool) (a : Node)
  /-- These patterns, one after the other. -/
  | seq (items : List Node)
  /-- One of these patterns. -/
  | alt (branches : List Node)

namespace Node

/-! ## Equality -/

mutual

/-- Whether two patterns are equal. -/
def isEqual : Node → Node → Bool
  | .literal cs, .literal ds => cs == ds
  | .set bytes s, .set bytes' t => bytes == bytes' && s == t
  | .look l, .look m => l == m
  | .capture a, .capture b => a.isEqual b
  | .rep least most greedy a, .rep least' most' greedy' b =>
    least == least' && most == most' && greedy == greedy' && a.isEqual b
  | .seq as, .seq bs | .alt as, .alt bs => areEqual as bs
  | _, _ => false

def areEqual : List Node → List Node → Bool
  | [], [] => true
  | a :: as, b :: bs => a.isEqual b && areEqual as bs
  | _, _ => false

end

mutual

theorem eq_of_isEqual (a b : Node) (h : a.isEqual b = true) : a = b := by
  cases a <;> cases b <;>
    simp only [isEqual, Bool.false_eq_true, Bool.and_eq_true, beq_iff_eq] at h
  case literal.literal => rw [h]
  case set.set => rw [h.1, h.2]
  case look.look => rw [h]
  case capture.capture a b => rw [eq_of_isEqual a b h]
  case rep.rep a _ _ _ b => rw [h.1.1.1, h.1.1.2, h.1.2, eq_of_isEqual a b h.2]
  case seq.seq as bs => rw [eq_of_areEqual as bs h]
  case alt.alt as bs => rw [eq_of_areEqual as bs h]

theorem eq_of_areEqual (as bs : List Node) (h : areEqual as bs = true) : as = bs := by
  cases as <;> cases bs <;>
    simp only [areEqual, Bool.false_eq_true, Bool.and_eq_true] at h
  case nil.nil => rfl
  case cons.cons a as b bs => rw [eq_of_isEqual a b h.1, eq_of_areEqual as bs h.2]

end

mutual

theorem isEqual_self (a : Node) : a.isEqual a = true := by
  cases a <;> simp only [isEqual, Bool.and_eq_true, beq_self_eq_true, true_and]
  case capture a => exact isEqual_self a
  case rep a => exact isEqual_self a
  case seq as => exact areEqual_self as
  case alt as => exact areEqual_self as

theorem areEqual_self (as : List Node) : areEqual as as = true := by
  cases as with
  | nil => rfl
  | cons a as => simp only [areEqual, isEqual_self a, areEqual_self as, Bool.and_self]

end

theorem isEqual_iff {a b : Node} : a.isEqual b = true ↔ a = b := by
  constructor
  · exact eq_of_isEqual a b
  · rintro rfl
    exact isEqual_self a

instance : DecidableEq Node := fun _ _ => decidable_of_iff _ isEqual_iff

/-! ## Lengths -/

/-- The pattern that matches at every place. -/
def nothing : Node := .literal []

mutual

/-- The least number of characters that a match has; none if a part matches nowhere. -/
def leastLength? : Node → Option Nat
  | .literal cs => some cs.length
  | .set _ s => if s.ranges.isEmpty then none else some 1
  | .look _ => some 0
  | .capture a => a.leastLength?
  | .rep least _ _ a => a.leastLength?.map (least * ·)
  | .seq items => sumLeast? items
  | .alt branches => minLeast? branches

/-- The sum of the least lengths. -/
def sumLeast? : List Node → Option Nat
  | [] => some 0
  | a :: rest => do return (← a.leastLength?) + (← sumLeast? rest)

/-- The least of the least lengths. -/
def minLeast? : List Node → Option Nat
  | [] => none
  | [a] => a.leastLength?
  | a :: rest => do return min (← a.leastLength?) (← minLeast? rest)

end

mutual

/-- Whether it is plain that no match has a character. -/
def isWidthless : Node → Bool
  | .literal cs => cs.isEmpty
  | .set .. => false
  | .look _ => true
  | .capture a => a.isWidthless
  | .rep _ most _ a => most.isSome && a.isWidthless
  | .seq items => areWidthless items
  | .alt branches => areWidthless branches

def areWidthless : List Node → Bool
  | [] => true
  | a :: rest => a.isWidthless && areWidthless rest

end

end Node

end DocLint.Pattern

import DocLint.Pattern.Node

/-!
# Simpler patterns

`Node.simplify` gives a pattern the form in which its size is measured: sequences and alternations
are flat, neighbouring characters are one literal, alternatives of one character each are a set,
alternatives that start alike share the start, and repetitions of what has no width are few.
-/

namespace DocLint.Pattern.Node

/-! ## Equal parts -/

mutual

/-- Whether a part of a pattern is a capture. -/
def hasCapture : Node → Bool
  | .literal _ | .set .. | .look _ => false
  | .capture _ => true
  | .rep _ _ _ a => a.hasCapture
  | .seq as | .alt as => haveCapture as

def haveCapture : List Node → Bool
  | [] => false
  | a :: as => a.hasCapture || haveCapture as

end

/-- Whether two patterns are the same. No capture is the same as another one. -/
def isSame (a b : Node) : Bool := a == b && !a.hasCapture

/-- How many items two sequences have in common at their start. -/
def sharedLength : List Node → List Node → Nat
  | a :: as, b :: bs => if a.isSame b then sharedLength as bs + 1 else 0
  | _, _ => 0

/-! ## The combinations -/

/-- What matches nowhere. -/
def never : Node := .set true .empty

/-- One character of a set; if it has only one member, this is a literal. -/
def ofSet (bytes : Bool) (s : CharSet) : Node :=
  match s.ranges with
  | [] => never
  | [(a, b)] => if a = b then .literal [Char.ofNat a] else .set bytes s
  | _ => .set bytes s

/-- Items with neighbouring literals put together. -/
def joinLiterals : List Node → List Node
  | [] => []
  | .literal cs :: rest =>
    match joinLiterals rest with
    | .literal ds :: rest => .literal (cs ++ ds) :: rest
    | rest => .literal cs :: rest
  | a :: rest => a :: joinLiterals rest

/-- Simple patterns, one after the other. -/
def inSequence (items : List Node) : Node :=
  let flat := items.flatMap fun
    | .seq as => as
    | .literal [] => []
    | a => [a]
  match joinLiterals flat with
  | [] => nothing
  | [a] => a
  | as => .seq as

/-- The set that a simple pattern is, if it is a set. -/
def set? : Node → Option CharSet
  | .set _ s => some s
  | _ => none

/-- The character that a simple pattern is, if it is one. -/
def char? : Node → Option Char
  | .literal [c] => some c
  | _ => none

/-- One of some simple patterns, without a look at what they have in common. -/
def oneOf (branches : List Node) : Node :=
  let flat := branches.flatMap fun
    | .alt as => as
    | a => [a]
  match flat with
  | [] => never
  | [a] => a
  | as =>
    match as.mapM char?, as.mapM set? with
    | some cs, _ => ofSet false (.ofRanges (cs.map fun c => (c.toNat, c.toNat)))
    | none, some ss => ofSet false (.ofRanges (ss.flatMap CharSet.ranges))
    | none, none => .alt as

/-- The items of a sequence. -/
def items? : Node → Option (List Node)
  | .seq as => some as
  | _ => none

/-- One of some simple patterns. If they are sequences that start alike, the common start comes
before the alternatives. -/
def oneOfShared (branches : List Node) : Node :=
  match oneOf branches with
  | .alt as =>
    match as.mapM items? with
    | some (first :: rest) =>
      let shared := rest.foldl (fun n items => min n (sharedLength first items)) first.length
      if shared = 0 then .alt as
      else
        let ends := (first :: rest).map fun items => inSequence (items.drop shared)
        inSequence (first.take shared ++ [oneOf ends])
    | _ => .alt as
  | a => a

/-- Repetitions of a simple pattern. What has no width is repeated once at most. -/
def repeated (least : Nat) (most : Option Nat) (greedy : Bool) (a : Node) : Node :=
  let (least, most) :=
    if a.isWidthless then (min least 1, some (min (most.getD 1) 1)) else (least, most)
  if most = some 0 then nothing
  else if least = 1 && most = some 1 then a
  else .rep least most greedy a

mutual

/-- The simpler form of a pattern. -/
def simplify : Node → Node
  | .literal cs => .literal cs
  | .set bytes s => ofSet bytes s
  | .look l => .look l
  | .capture a => .capture a.simplify
  | .rep least most greedy a => repeated least most greedy a.simplify
  | .seq items => inSequence (simplifyAll items)
  | .alt branches => oneOfShared (simplifyAll branches)

def simplifyAll : List Node → List Node
  | [] => []
  | a :: rest => a.simplify :: simplifyAll rest

end

end DocLint.Pattern.Node

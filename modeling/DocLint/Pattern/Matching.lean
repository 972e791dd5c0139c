import DocLint.Pattern.Node
import DocLint.Pattern.Repertoire

/-!
# Matching

A line of `n` characters has `n + 1` places. On a line, a node becomes a walk between places:
`Walk.ends` sends the set of places where a walk may start to the set of places where it may end.
Sets of places are numbers, the place `i` being the bit `i`, so that moving over a character is a
shift and a union is a bitwise one. A pattern matches a line if its walk leads from any place to any
other.
-/

namespace DocLint.Pattern

/-- A set of places: the bits of a number. -/
abbrev Places := Nat

/-- The places from 0 to `last` that satisfy `p`. -/
def placesWhere (p : Nat → Bool) : Nat → Places
  | 0 => if p 0 then 1 else 0
  | last + 1 => placesWhere p last ||| (if p (last + 1) then 1 <<< (last + 1) else 0)

/-! ## Places that a node requires -/

/-- Whether a character belongs to words. -/
def isWordChar (ascii : Bool) (c : Char) : Bool :=
  if ascii then c.isAlphanum || c == '_' else CharSet.word.contains c

/-- Whether the place between the characters `before` and `after`, if any, is as required. -/
def Look.holds (before after : Option Char) : Look → Bool
  | .textStart => before.isNone
  | .textEnd => after.isNone
  | .lineStart crlf =>
    before.isNone || before == some '\n' ||
      (crlf && before == some '\r' && after != some '\n')
  | .lineEnd crlf =>
    if crlf then
      after.isNone || after == some '\r' || (after == some '\n' && before != some '\r')
    else after.isNone || after == some '\n'
  | .wordBoundary ascii => before.any (isWordChar ascii) != after.any (isWordChar ascii)
  | .notWordBoundary ascii => before.any (isWordChar ascii) == after.any (isWordChar ascii)
  | .wordStart ascii => !before.any (isWordChar ascii) && after.any (isWordChar ascii)
  | .wordEnd ascii => before.any (isWordChar ascii) && !after.any (isWordChar ascii)
  | .wordStartHalf ascii => !before.any (isWordChar ascii)
  | .wordEndHalf ascii => !after.any (isWordChar ascii)

/-- The places of a line that are as required. -/
def Look.places (cs : Array Char) (l : Look) : Places :=
  placesWhere (fun i => l.holds (if i = 0 then none else cs[i - 1]?) cs[i]?) cs.size

/-- The places of a line that are before a character. -/
def charPlaces (cs : Array Char) (c : Char) : Places :=
  placesWhere (fun i => cs[i]? == some c) cs.size

/-- The places of a line that are before a character of a set. -/
def CharSet.places (cs : Array Char) (s : CharSet) : Places :=
  placesWhere (fun i => cs[i]?.any s.contains) cs.size

/-! ## Walks -/

/-- A pattern on a given line. -/
inductive Walk
  /-- From one of these places to the next one. -/
  | step (starts : Places)
  /-- Stays at one of these places. -/
  | stay (places : Places)
  /-- Some rounds, and up to some more. -/
  | rounds (least extra : Nat) (a : Walk)
  /-- These walks, one after the other. -/
  | seq (items : List Walk)
  /-- One of these walks. -/
  | alt (branches : List Walk)

/-- Applies `f` so many times, or until it changes nothing any more. -/
def applyTimes (f : Places → Places) : Nat → Places → Places
  | 0, s => s
  | k + 1, s =>
    let t := f s
    if t = s then s else applyTimes f k t

/-- All places reached by applying `f` at most so many times. -/
def applyUpTo (f : Places → Places) : Nat → Places → Places
  | 0, s => s
  | k + 1, s =>
    let t := s ||| f s
    if t = s then s else applyUpTo f k t

mutual

/-- The places where a walk may end if it starts at one of `starts`. -/
def Walk.ends : Walk → Places → Places
  | .step p, starts => (starts &&& p) <<< 1
  | .stay p, starts => starts &&& p
  | .rounds least extra a, starts => applyUpTo a.ends extra (applyTimes a.ends least starts)
  | .seq items, starts => Walk.endsAfterAll items starts
  | .alt branches, starts => Walk.endsAfterAny branches starts

/-- The places where walks may end that come one after the other. -/
def Walk.endsAfterAll : List Walk → Places → Places
  | [], starts => starts
  | a :: rest, starts => Walk.endsAfterAll rest (a.ends starts)

/-- The places where one of some walks may end. -/
def Walk.endsAfterAny : List Walk → Places → Places
  | [], _ => 0
  | a :: rest, starts => a.ends starts ||| Walk.endsAfterAny rest starts

end

mutual

/-- The walk of a node on a line. On a line of `n` characters more than `n + 1` rounds of a
repetition lead nowhere else, because a round that ends where it started may be left out or
added. -/
def Node.walk (cs : Array Char) : Node → Walk
  | .literal ds => .seq (ds.map fun d => .step (charPlaces cs d))
  | .set _ s => .step (s.places cs)
  | .look l => .stay (l.places cs)
  | .capture a => a.walk cs
  | .rep least most _ a =>
    let rounds := cs.size + 1
    let extra := match most with
      | none => rounds
      | some m => min (m - least) rounds
    .rounds (min least rounds) extra (a.walk cs)
  | .seq items => .seq (Node.walks cs items)
  | .alt branches => .alt (Node.walks cs branches)

def Node.walks (cs : Array Char) : List Node → List Walk
  | [] => []
  | a :: rest => a.walk cs :: Node.walks cs rest

end

/-- Whether a node matches some part of a line. -/
def Node.isMatch (node : Node) (line : String) : Bool :=
  let cs := line.toList.toArray
  (node.walk cs).ends (Nat.pow 2 (cs.size + 1) - 1) != 0

end DocLint.Pattern

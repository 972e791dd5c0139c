import DocLint.Pattern.Node
import DocLint.Pattern.Property

/-!
# What a pattern means

The tree of a pattern, with its flags, is turned into a `Node`, a pattern without flags. Faults that
hang on the flags are found here.
-/

namespace DocLint.Pattern

/-- The flags that bear on what a pattern means. -/
structure Flags where
  ignoreCase : Bool := false
  multiLine : Bool := false
  dotMatchesNewline : Bool := false
  swapGreed : Bool := false
  unicode : Bool := true
  crlf : Bool := false

/-- Turns a flag on or off. -/
def Flags.set (f : Flags) : Flag × Bool → Flags
  | (.ignoreCase, b) => { f with ignoreCase := b }
  | (.multiLine, b) => { f with multiLine := b }
  | (.dotMatchesNewline, b) => { f with dotMatchesNewline := b }
  | (.unicode, b) => { f with unicode := b }
  | (.crlf, b) => { f with crlf := b }
  | (.swapGreed, b) => { f with swapGreed := b }
  | (.ignoreSpace, _) => f

def Flags.change (f : Flags) (changes : FlagChanges) : Flags := changes.foldl Flags.set f

/-! ## Sets -/

/-- A class of characters by property or letter, or its complement. -/
def negateIf (negated : Bool) (s : CharSet) : CharSet :=
  if negated then s.complement CharSet.maxCode else s

/-- A class with a one-letter escape. Without Unicode it must not reach beyond ASCII. -/
def letterSet (f : Flags) (span : Span) (k : LetterClass) (negated : Bool) : Except Fault CharSet :=
  if f.unicode then .ok (negateIf negated (CharSet.letterClass k))
  else if negated then fault span .invalidUtf8
  else .ok (CharSet.asciiLetterClass k)

/-- Case and complement of a set in brackets. Without Unicode the complement is taken among bytes,
and the set must not reach beyond ASCII. -/
def closeSet (f : Flags) (span : Span) (negated : Bool) (s : CharSet) : Except Fault CharSet :=
  if f.unicode then
    .ok (negateIf negated (if f.ignoreCase then s.ignoreCase else s))
  else
    let s := if f.ignoreCase then s.ignoreAsciiCase else s
    let s := if negated then s.complement 0xFF else s
    if !s.isAscii then fault span .invalidUtf8 else .ok s

/-- A class by property. -/
def propertySet (f : Flags) (span : Span) (q : PropertyQuery) (negated : Bool) :
    Except Fault CharSet :=
  if !f.unicode then fault span .unicodeNotAllowed
  else match q.resolve with
    | .error k => fault span k
    | .ok s => closeSet f span negated s

/-- A character where bytes above ASCII must not stand. -/
def plainChar (f : Flags) (l : Literal) : Except Fault Char :=
  if !f.unicode && l.isByte && 0x80 ≤ l.char.toNat then fault l.span .invalidUtf8 else .ok l.char

/-- A character as a member of a set; without Unicode it must be an ASCII character. -/
def memberCode (f : Flags) (l : Literal) : Except Fault Nat := do
  let c ← plainChar f l
  if !f.unicode && 0x80 ≤ c.toNat then fault l.span .unicodeNotAllowed else return c.toNat

/-- A single escape or character as a set. -/
def atomSet (f : Flags) : Atom → Except Fault CharSet
  | .literal l => do
    let n ← memberCode f l
    return ⟨[(n, n)]⟩
  | .letterClass span k negated => letterSet f span k negated
  | .property span q negated => propertySet f span q negated
  | .dot _ | .assertion .. => .ok .empty

mutual

/-- The characters of a set in brackets. -/
def SetTree.meaning (f : Flags) : SetTree → Except Fault CharSet
  | .empty _ => .ok .empty
  | .atom a => atomSet f a
  | .range _ a b => do
    let m ← memberCode f a
    let n ← memberCode f b
    return ⟨[(m, n)]⟩
  | .named span k negated => closeSet f span negated (.ofRanges (CharSet.namedRanges k))
  | .bracketed span negated set => do
    let s ← set.meaning f
    closeSet f span negated s
  | .union _ items => SetTree.unionMeaning f items
  | .operation _ op left right => do
    let a ← left.meaning f
    let b ← right.meaning f
    let a := if !f.ignoreCase then a else if f.unicode then a.ignoreCase else a.ignoreAsciiCase
    let b := if !f.ignoreCase then b else if f.unicode then b.ignoreCase else b.ignoreAsciiCase
    return match op with
      | .intersection => a.inter b
      | .difference => a.diff b
      | .symmetricDifference => a.symmDiff b

/-- The characters of a union. -/
def SetTree.unionMeaning (f : Flags) : List SetTree → Except Fault CharSet
  | [] => .ok .empty
  | t :: ts => do
    let a ← t.meaning f
    let b ← SetTree.unionMeaning f ts
    return a.union b

end

/-! ## Atoms -/

/-- A literal character; without regard to case, any character that differs in case only. Without
Unicode, only ASCII letters have another case. -/
def literalNode (f : Flags) (l : Literal) : Except Fault Node := do
  let c ← plainChar f l
  let n := c.toNat
  if !f.ignoreCase then return .literal [c]
  else if f.unicode then
    return .set false (.ofRanges ((Unicode.caseClass n).map fun m => (m, m)))
  else return .set true (CharSet.ignoreAsciiCase ⟨[(n, n)]⟩)

/-- What the dot stands for: any character, or any but a line end. -/
def dotSet (f : Flags) : CharSet :=
  if f.dotMatchesNewline then ⟨[(0, CharSet.maxCode)]⟩
  else
    let ends := if f.crlf then [(0xA, 0xA), (0xD, 0xD)] else [(0xA, 0xA)]
    CharSet.complement CharSet.maxCode ⟨ends⟩

/-- The place that an assertion requires under the flags. -/
def assertionLook (f : Flags) : Assertion → Look
  | .lineStart => if f.multiLine then .lineStart f.crlf else .textStart
  | .lineEnd => if f.multiLine then .lineEnd f.crlf else .textEnd
  | .textStart => .textStart
  | .textEnd => .textEnd
  | .wordBoundary => .wordBoundary !f.unicode
  | .notWordBoundary => .notWordBoundary !f.unicode
  | .wordStart => .wordStart !f.unicode
  | .wordEnd => .wordEnd !f.unicode
  | .wordStartHalf => .wordStartHalf !f.unicode
  | .wordEndHalf => .wordEndHalf !f.unicode

/-- What a single character or escape means. -/
def atomNode (f : Flags) : Atom → Except Fault Node
  | .literal l => literalNode f l
  | .dot span => if f.unicode then .ok (.set false (dotSet f)) else fault span .invalidUtf8
  | .assertion _ k => .ok (.look (assertionLook f k))
  | .letterClass span k negated => do return .set (!f.unicode) (← letterSet f span k negated)
  | .property span q negated => do return .set (!f.unicode) (← propertySet f span q negated)

/-! ## Patterns -/

mutual

/-- What a pattern means under the flags before it, and the flags after it. -/
def Tree.meaning (f : Flags) : Tree → Except Fault (Node × Flags)
  | .empty _ => .ok (.nothing, f)
  | .flags _ changes => .ok (.nothing, f.change changes)
  | .atom a => do return (← atomNode f a, f)
  | .bracketed span negated set => do
    let s ← set.meaning f
    let s ← closeSet f span negated s
    return (.set (!f.unicode) s, f)
  | .repetition _ least most greedy body => do
    let (a, f) ← body.meaning f
    return (.rep least most (greedy != f.swapGreed) a, f)
  | .group _ captures changes body => do
    let (a, _) ← body.meaning (f.change changes)
    return (if captures then .capture a else a, f)
  | .alternation _ branches => do
    let (as, f) ← Tree.listMeaning f branches
    return (.alt as, f)
  | .sequence _ items => do
    let (as, f) ← Tree.listMeaning f items
    return (.seq as, f)

/-- What the items of a sequence or the branches of an alternation mean; flags that one of them
changes stay changed in the next one. -/
def Tree.listMeaning (f : Flags) : List Tree → Except Fault (List Node × Flags)
  | [] => .ok ([], f)
  | t :: ts => do
    let (a, f) ← t.meaning f
    let (as, f) ← Tree.listMeaning f ts
    return (a :: as, f)

end

end DocLint.Pattern

import DocLint.Pattern.Fault

/-!
# Syntax trees of patterns

A pattern is read into a tree that keeps the span of each part, because a fault may be found only
after the whole pattern was read.
-/

namespace DocLint.Pattern

/-- The flags that a pattern can turn on and off. -/
inductive Flag
  | ignoreCase
  | multiLine
  | dotMatchesNewline
  | swapGreed
  | unicode
  | crlf
  | ignoreSpace
  deriving DecidableEq, Repr

/-- The letter of a flag. -/
def Flag.ofChar? : Char → Option Flag
  | 'i' => some .ignoreCase
  | 'm' => some .multiLine
  | 's' => some .dotMatchesNewline
  | 'U' => some .swapGreed
  | 'u' => some .unicode
  | 'R' => some .crlf
  | 'x' => some .ignoreSpace
  | _ => none

/-- Flags turned on or off at one place. -/
abbrev FlagChanges := List (Flag × Bool)

/-- The classes with a one-letter escape. -/
inductive LetterClass
  | digit
  | space
  | word
  deriving DecidableEq, Repr

/-- The classes with a name between colons. -/
inductive NamedClass
  | alnum | alpha | ascii | blank | cntrl | digit | graph | lower | print | punct | space | upper
  | word | xdigit
  deriving DecidableEq, Repr

/-- The class of a name. -/
def NamedClass.ofName? : String → Option NamedClass
  | "alnum" => some .alnum
  | "alpha" => some .alpha
  | "ascii" => some .ascii
  | "blank" => some .blank
  | "cntrl" => some .cntrl
  | "digit" => some .digit
  | "graph" => some .graph
  | "lower" => some .lower
  | "print" => some .print
  | "punct" => some .punct
  | "space" => some .space
  | "upper" => some .upper
  | "word" => some .word
  | "xdigit" => some .xdigit
  | _ => none

/-- How a class of characters is asked for by property: by one name, or by a property and its
value. -/
inductive PropertyQuery
  | name (name : String)
  | value (property value : String)
  deriving DecidableEq, Repr

/-- Places that a pattern can require without reading a character. -/
inductive Assertion
  | lineStart
  | lineEnd
  | textStart
  | textEnd
  | wordBoundary
  | notWordBoundary
  | wordStart
  | wordEnd
  | wordStartHalf
  | wordEndHalf
  deriving DecidableEq, Repr

/-- A literal character; `isByte` if it was written with two hexadecimal digits. -/
structure Literal where
  span : Span
  char : Char
  isByte : Bool
  deriving DecidableEq, Repr

/-- The parts of a pattern that stand for themselves, inside or outside of brackets. -/
inductive Atom
  | literal (l : Literal)
  | dot (span : Span)
  | assertion (span : Span) (kind : Assertion)
  | letterClass (span : Span) (kind : LetterClass) (negated : Bool)
  | property (span : Span) (query : PropertyQuery) (negated : Bool)
  deriving DecidableEq, Repr

def Atom.span : Atom → Span
  | literal l => l.span
  | dot s | assertion s _ | letterClass s _ _ | property s _ _ => s

/-- The operations on sets of characters. -/
inductive SetOp
  | intersection
  | difference
  | symmetricDifference
  deriving DecidableEq, Repr

/-- What stands between brackets. -/
inductive SetTree
  | empty (span : Span)
  | atom (a : Atom)
  | range (span : Span) (first last : Literal)
  | named (span : Span) (kind : NamedClass) (negated : Bool)
  | bracketed (span : Span) (negated : Bool) (set : SetTree)
  | union (span : Span) (items : List SetTree)
  | operation (span : Span) (op : SetOp) (left right : SetTree)

def SetTree.span : SetTree → Span
  | empty s | range s _ _ | named s _ _ | bracketed s _ _ | union s _ | operation s _ _ _ => s
  | atom a => a.span

/-- A pattern. -/
inductive Tree
  | empty (span : Span)
  | flags (span : Span) (changes : FlagChanges)
  | atom (a : Atom)
  | bracketed (span : Span) (negated : Bool) (set : SetTree)
  | repetition (span : Span) (least : Nat) (most : Option Nat) (greedy : Bool) (body : Tree)
  | group (span : Span) (captures : Bool) (changes : FlagChanges) (body : Tree)
  | alternation (span : Span) (branches : List Tree)
  | sequence (span : Span) (items : List Tree)

def Tree.span : Tree → Span
  | empty s | flags s _ | bracketed s _ _ | repetition s _ _ _ _ | group s _ _ _ | alternation s _
  | sequence s _ => s
  | atom a => a.span

/-! ## Depth

A pattern may be nested to a limited depth. Groups, repetitions, brackets, alternations and
sequences count, as do the parts of brackets that have parts of their own.
-/

/-- The deepest nesting that is allowed. -/
def nestingLimit : Nat := 250

mutual

/-- The span of the first part of a set that is nested too deep, if `depth` parts are around it. -/
def SetTree.tooDeep? (depth : Nat) : SetTree → Option Span
  | .bracketed s _ set => if nestingLimit ≤ depth then some s else set.tooDeep? (depth + 1)
  | .union s items => if nestingLimit ≤ depth then some s else SetTree.anyTooDeep? (depth + 1) items
  | .operation s _ l r =>
    if nestingLimit ≤ depth then some s else l.tooDeep? (depth + 1) <|> r.tooDeep? (depth + 1)
  | .empty _ | .atom _ | .range .. | .named .. => none

def SetTree.anyTooDeep? (depth : Nat) : List SetTree → Option Span
  | [] => none
  | t :: ts => t.tooDeep? depth <|> SetTree.anyTooDeep? depth ts

end

mutual

/-- The span of the first part of a pattern that is nested too deep, if `depth` parts are around
it. -/
def Tree.tooDeep? (depth : Nat) : Tree → Option Span
  | .bracketed s _ set => if nestingLimit ≤ depth then some s else set.tooDeep? (depth + 1)
  | .repetition s _ _ _ body | .group s _ _ body =>
    if nestingLimit ≤ depth then some s else body.tooDeep? (depth + 1)
  | .alternation s ts | .sequence s ts =>
    if nestingLimit ≤ depth then some s else Tree.anyTooDeep? (depth + 1) ts
  | .empty _ | .flags .. | .atom _ => none

def Tree.anyTooDeep? (depth : Nat) : List Tree → Option Span
  | [] => none
  | t :: ts => t.tooDeep? depth <|> Tree.anyTooDeep? depth ts

end

end DocLint.Pattern

import DocLint.Pattern.Escape

/-!
# Sets in brackets

Between brackets stand characters, ranges, classes and nested brackets, which form a union, and the
operations `&&`, `--` and `~~`, which bind weaker than the union and group to the left. Brackets
that are still open are kept on a stack, so that a fault can name the innermost one.
-/

namespace DocLint.Pattern

/-! ## Loops -/

/-- What a step of a loop leads to. -/
inductive Progress (σ α : Type)
  | more (state : σ) (c : Cursor)
  | done (answer : α) (c : Cursor)

/-- Repeats a step until it is done, at most so many times. -/
def repeatUpTo {σ α : Type} (step : σ → Cursor → Except Fault (Progress σ α)) :
    Nat → σ → Cursor → Except Fault (α × Cursor)
  | 0, _, c => fault c.here .escapeUnfinished
  | times + 1, s, c =>
    match step s c with
    | .error e => .error e
    | .ok (.done a c) => .ok (a, c)
    | .ok (.more s c) => repeatUpTo step times s c

/-- Repeats a step until it is done. A step that is not the last one reads a character, so that
there are at most as many of them as characters, and one more. -/
def repeatStep {σ α : Type} (step : σ → Cursor → Except Fault (Progress σ α)) (s : σ) (c : Cursor) :
    Except Fault (α × Cursor) :=
  repeatUpTo step (c.rest.length + 1) s c

/-! ## Unions -/

/-- The items of a union read so far, the latest first. -/
structure UnionPart where
  span : Span
  items : List SetTree

namespace UnionPart

/-- No items yet. -/
def emptyAt (c : Cursor) : UnionPart := ⟨c.here, []⟩

def push (u : UnionPart) (t : SetTree) : UnionPart :=
  ⟨⟨if u.items.isEmpty then t.span.start else u.span.start, t.span.stop⟩, t :: u.items⟩

/-- The set of a union: a single item stands for itself. -/
def tree (u : UnionPart) : SetTree :=
  match u.items with
  | [] => .empty u.span
  | [t] => t
  | ts => .union u.span ts.reverse

end UnionPart

/-- What is still open around a union: a bracket with the union it belongs to, or an operation with
its left side. -/
inductive SetFrame
  | bracket (span : Span) (negated : Bool) (outer : UnionPart)
  | operand (op : SetOp) (left : SetTree)

/-- The open operation, if any, applied to its right side; and what is open around it. -/
def closeOperation (stack : List SetFrame) (right : SetTree) : SetTree × List SetFrame :=
  match stack with
  | .operand op left :: stack =>
    (.operation ⟨left.span.start, right.span.stop⟩ op left right, stack)
  | stack => (right, stack)

/-- The fault of a pattern that ends within brackets: the innermost one is marked. -/
def unclosedBracket {α : Type} (stack : List SetFrame) (c : Cursor) : Except Fault α :=
  match stack.findSome? fun | .bracket s _ _ => some s | .operand .. => none with
  | some s => fault s .classUnclosed
  | none => fault c.here .classUnclosed

/-! ## Opening -/

/-- Dashes at the start of brackets stand for themselves. -/
def readDashes (x : Bool) (start : Nat) (u : UnionPart) (c : Cursor) :
    Except Fault (UnionPart × Cursor) :=
  match _h : c.rest with
  | [] => fault ⟨start, start⟩ .classUnclosed
  | a :: _ =>
    if a == '-' then
      readDashes x start (u.push (.atom (.literal ⟨c.nextSpan, '-', false⟩))) (c.advance x)
    else .ok (u, c)
termination_by c.rest.length
decreasing_by exact Cursor.advance_length x ‹_›

/-- An opening bracket with the sign of a negation, and the dashes or the closing bracket that stand
for themselves because they come first. -/
def readOpening (x : Bool) (bracket : Cursor) :
    Except Fault ((Span × Bool × UnionPart) × Cursor) := do
  let start := bracket.offset
  let unclosed {α : Type} (c : Cursor) : Except Fault α := fault (c.spanFrom start) .classUnclosed
  let first := bracket.advance x
  let negated := first.rest.head? == some '^'
  if first.rest.isEmpty then unclosed first
  else
    let second := if negated then first.advance x else first
    if second.rest.isEmpty then unclosed second
    else
      let (u, c) ← readDashes x start (.emptyAt second) second
      if u.items.isEmpty && c.rest.head? == some ']' then
        let stop := c.advance x
        if stop.rest.isEmpty then unclosed stop
        else return ((stop.spanFrom start, negated,
          u.push (.atom (.literal ⟨c.nextSpan, ']', false⟩))), stop)
      else return ((c.spanFrom start, negated, u), c)

/-! ## Items -/

/-- A class by name, such as `[:alpha:]`; the cursor is at its bracket. -/
def readNamedClass? (c : Cursor) : Option (SetTree × Cursor) :=
  match c.rest with
  | '[' :: ':' :: rest =>
    let negated := rest.head? == some '^'
    let rest := if negated then rest.tail else rest
    let name := rest.takeWhile (· != ':')
    match rest.dropWhile (· != ':') with
    | ':' :: ']' :: _ =>
      let stop := c.forward (2 + (if negated then 1 else 0) + name.length + 2)
      (NamedClass.ofName? (String.ofList name)).map fun k =>
        (.named (stop.spanFrom c.offset) k negated, stop)
    | _ => none
  | _ => none

/-- One character or escape between brackets. -/
def readSetAtom (x : Bool) (c : Cursor) : Except Fault (Atom × Cursor) :=
  match c.rest with
  | [] => fault c.here .classUnclosed
  | '\\' :: _ => readEscape x c
  | a :: _ => .ok (.literal ⟨c.nextSpan, a, false⟩, c.forward 1)

/-- The character after the next one, where the flag `x` passes over white space and the sign of a
comment. -/
def peekPast (x : Bool) (c : Cursor) : Option Char :=
  if x then
    match c.rest.tail.dropWhile Text.isSpace with
    | '#' :: rest => (rest.dropWhile Text.isSpace).head?
    | rest => rest.head?
  else c.rest.tail.head?

/-- An escape as an item of a set; places in the text are none. -/
def setItem (a : Atom) : Except Fault SetTree :=
  match a with
  | .assertion s _ | .dot s => fault s .classEscapeInvalid
  | a => .ok (.atom a)

/-- An escape as the boundary of a range, which must be a character. -/
def rangeBoundary (a : Atom) : Except Fault Literal :=
  match a with
  | .literal l => .ok l
  | a => fault a.span .classRangeLiteral

/-- One item of a set, or a range from one to another. -/
def readRange (x : Bool) (stack : List SetFrame) (c : Cursor) :
    Except Fault (SetTree × Cursor) := do
  let (first, c) ← readSetAtom x c
  let c := c.skip x
  if c.rest.isEmpty then unclosedBracket stack c
  else if c.rest.head? != some '-' || peekPast x c == some ']' || peekPast x c == some '-' then
    return (← setItem first, c)
  else
    let c := c.advance x
    if c.rest.isEmpty then unclosedBracket stack c
    else
      let (last, c) ← readSetAtom x c
      let span : Span := ⟨first.span.start, last.span.stop⟩
      let a ← rangeBoundary first
      let b ← rangeBoundary last
      if b.char < a.char then fault span .classRangeInvalid
      else return (.range span a b, c)

/-! ## Brackets -/

/-- One step through a set: what is open, and the union being read. -/
def bracketStep (x : Bool) (s : List SetFrame × UnionPart) (c : Cursor) :
    Except Fault (Progress (List SetFrame × UnionPart) Tree) := do
  let (stack, u) := s
  let c := c.skip x
  let operation (op : SetOp) :=
    let (left, stack) := closeOperation stack u.tree
    let c := c.forward 2
    Progress.more (.operand op left :: stack, UnionPart.emptyAt c) c
  match c.rest with
  | [] => unclosedBracket stack c
  | '[' :: _ =>
    match readNamedClass? c with
    | some (t, c) => return .more (stack, u.push t) c
    | none =>
      let ((span, negated, inner), c) ← readOpening x c
      return .more (.bracket span negated u :: stack, inner) c
  | ']' :: _ =>
    let c := c.forward 1
    match closeOperation stack u.tree with
    | (set, [.bracket span negated _]) =>
      return .done (.bracketed (c.spanFrom span.start) negated set) c
    | (set, .bracket span negated outer :: stack) =>
      return .more (stack, outer.push (.bracketed (c.spanFrom span.start) negated set)) c
    | _ => unclosedBracket stack c
  | '&' :: '&' :: _ => return operation .intersection
  | '-' :: '-' :: _ => return operation .difference
  | '~' :: '~' :: _ => return operation .symmetricDifference
  | _ =>
    let (t, c) ← readRange x stack c
    return .more (stack, u.push t) c

/-- A set in brackets; the cursor is at the opening bracket. -/
def readBrackets (x : Bool) (c : Cursor) : Except Fault (Tree × Cursor) := do
  let ((span, negated, u), c') ← readOpening x c
  repeatStep (bracketStep x) ([.bracket span negated (.emptyAt c)], u) c'

end DocLint.Pattern

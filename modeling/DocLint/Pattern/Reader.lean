import DocLint.Pattern.Brackets
import DocLint.Unicode.Property

/-!
# Reading a pattern

A pattern is read from left to right. What is still open is kept on a stack: groups with what was
read before them, and alternations with the branches read so far. The first fault ends the reading,
except that unclosed groups and too deep a nesting are found at the end only.
-/

namespace DocLint.Pattern

/-! ## State -/

/-- The items of a sequence read so far, the latest first. -/
structure Sequence where
  start : Nat
  items : List Tree

namespace Sequence

/-- No items yet. -/
def emptyAt (c : Cursor) : Sequence := ⟨c.offset, []⟩

def push (s : Sequence) (t : Tree) : Sequence := { s with items := t :: s.items }

/-- The tree of a sequence that ends at `stop`: a single item stands for itself. -/
def tree (s : Sequence) (stop : Nat) : Tree :=
  match s.items with
  | [] => .empty ⟨s.start, stop⟩
  | [t] => t
  | ts => .sequence ⟨s.start, stop⟩ ts.reverse

end Sequence

/-- What is open around a sequence: a group, with the sequence it belongs to and the flag `x` there,
or an alternation, with its earlier branches, the latest first. -/
inductive Frame
  | group (span : Span) (captures : Bool) (changes : FlagChanges) (before : Sequence)
    (outerX : Bool)
  | alternation (start : Nat) (branches : List Tree)

/-- The state of reading: the flag `x`, the names of groups with their spans, what is open, and the
sequence being read. -/
structure State where
  x : Bool
  names : List (List Char × Span)
  stack : List Frame
  current : Sequence

/-! ## Flags -/

/-- The last change made to a flag, if any. -/
def changeOf? (f : Flag) (changes : FlagChanges) : Option Bool :=
  (changes.find? fun p => p.1 == f).map (·.2)

/-- Flags up to a colon or a closing parenthesis, the first of them at `offset`. `items` are those
read so far with their spans, the latest first; `none` is the sign of a negation. -/
def readFlags (items : List (Option Flag × Span)) (offset : Nat) :
    List Char → Except Fault (List (Option Flag × Span) × Cursor)
  | [] => fault ⟨offset, offset⟩ .flagUnfinished
  | c :: rest =>
    let span : Span := ⟨offset, offset + 1⟩
    if c == ':' || c == ')' then
      match items with
      | (none, s) :: _ => fault s .flagDanglingNegation
      | _ => .ok (items, ⟨offset, c :: rest⟩)
    else
      let item? : Except Fault (Option Flag) :=
        if c == '-' then .ok none
        else match Flag.ofChar? c with
          | some f => .ok (some f)
          | none => fault span .flagUnrecognized
      match item? with
      | .error e => .error e
      | .ok item =>
        match items.find? fun p => p.1 == item with
        | some (_, s) =>
          .error ⟨if item.isNone then .flagRepeatedNegation else .flagDuplicate, span, some s⟩
        | none => readFlags ((item, span) :: items) (offset + 1) rest

/-- What flags change, from the items in order: those after a sign of negation are turned off. -/
def flagChanges (on : Bool) : List (Option Flag × Span) → FlagChanges
  | [] => []
  | (none, _) :: rest => flagChanges false rest
  | (some f, _) :: rest => (f, on) :: flagChanges on rest

/-! ## Groups -/

/-- Whether a character may stand in the name of a group, at its start or later. -/
def isNameChar (first : Bool) (c : Char) : Bool :=
  if first then c == '_' || Unicode.isAlphabetic c
  else c == '_' || c == '.' || c == '[' || c == ']' || Unicode.isAlphanumeric c

/-- The name of a group up to the closing angle bracket, the first character being at `offset`; the
place is at the bracket. -/
def readNameChars (first : Bool) (offset : Nat) : List Char → Except Fault (List Char × Cursor)
  | [] => fault ⟨offset, offset⟩ .captureNameUnclosed
  | c :: rest =>
    if c == '>' then .ok ([], ⟨offset, c :: rest⟩)
    else if isNameChar first c then do
      let (name, stop) ← readNameChars false (offset + 1) rest
      return (c :: name, stop)
    else fault ⟨offset, offset + 1⟩ .captureNameInvalid

/-- The name of a group, which no earlier group has. -/
def readName (names : List (List Char × Span)) (c : Cursor) :
    Except Fault ((List Char × Span) × Cursor) := do
  let (name, stop) ← readNameChars true c.offset c.rest
  let span := stop.spanFrom c.offset
  if name.isEmpty then fault c.here .captureNameEmpty
  else match names.find? fun p => p.1 == name with
    | some (_, s) => .error ⟨.captureNameDuplicate, span, some s⟩
    | none => return ((name, span), stop.forward 1)

/-- Whether the text starts a test of what is before or after a place. -/
def startsLookAround? (s : List Char) : Option Nat :=
  if ['?', '='].isPrefixOf s || ['?', '!'].isPrefixOf s then some 2
  else if ['?', '<', '='].isPrefixOf s || ['?', '<', '!'].isPrefixOf s then some 3
  else none

/-- An opening parenthesis with what follows it: a group is opened, or flags are changed for the
rest of the group around it. -/
def readGroup (s : State) (paren : Cursor) : Except Fault (State × Cursor) := do
  let openSpan := paren.nextSpan
  let c := paren.advance s.x
  let opened (captures : Bool) (changes : FlagChanges) (names : List (List Char × Span))
      (c : Cursor) : State × Cursor :=
    ({ x := (changeOf? .ignoreSpace changes).getD s.x
       names := names
       stack := .group openSpan captures changes s.current s.x :: s.stack
       current := .emptyAt c }, c)
  match startsLookAround? c.rest with
  | some n => fault ((c.forward n).spanFrom openSpan.start) .lookAround
  | none =>
    let named (c : Cursor) : Except Fault (State × Cursor) := do
      let (name, c) ← readName s.names c
      return opened true [] (s.names ++ [name]) c
    match c.rest with
    | '?' :: 'P' :: '<' :: _ => named (c.forward 3)
    | '?' :: '<' :: _ => named (c.forward 2)
    | ['?'] => fault openSpan .groupUnclosed
    | '?' :: rest =>
      let (items, stop) ← readFlags [] (c.offset + 1) rest
      let changes := flagChanges true items.reverse
      let after := stop.forward 1
      if stop.rest.head? == some ')' then
        if items.isEmpty then fault c.here .repetitionMissing
        else return ({ s with
          x := (changeOf? .ignoreSpace changes).getD s.x
          current := s.current.push (.flags (after.spanFrom openSpan.start) changes) }, after)
      else return opened false changes s.names after
    | _ => return opened true [] s.names c

/-- A vertical bar: the sequence is a branch, and the next one starts. -/
def readBar (s : State) (c : Cursor) : State × Cursor :=
  let branch := s.current.tree c.offset
  let stack := match s.stack with
    | .alternation start branches :: stack => .alternation start (branch :: branches) :: stack
    | stack => .alternation s.current.start [branch] :: stack
  let c := c.forward 1
  ({ s with stack := stack, current := .emptyAt c }, c)

/-- The sequence that ends at `stop`, together with the branches before it, and what is open around
them. -/
def closeAlternation (stack : List Frame) (current : Sequence) (stop : Nat) : Tree × List Frame :=
  match stack with
  | .alternation start branches :: stack =>
    (.alternation ⟨start, stop⟩ (current.tree stop :: branches).reverse, stack)
  | stack => (current.tree stop, stack)

/-- A closing parenthesis. -/
def readClosing (s : State) (c : Cursor) : Except Fault (State × Cursor) :=
  let (body, stack) := closeAlternation s.stack s.current c.offset
  match stack with
  | .group span captures changes before outerX :: stack =>
    let stop := c.forward 1
    .ok ({ s with
      x := outerX
      stack := stack
      current := before.push (.group (stop.spanFrom span.start) captures changes body) }, stop)
  | _ => fault c.nextSpan .groupUnopened

/-! ## Repetitions -/

/-- The item that a repetition at `c` applies to, and the sequence before it. -/
def repeated (s : State) (c : Cursor) : Except Fault (Tree × Sequence) :=
  match s.current.items with
  | [] | .flags .. :: _ => fault c.here .repetitionMissing
  | t :: ts => .ok (t, { s.current with items := ts })

/-- Whether as many repetitions as possible are asked for, and the place after that: a question mark
asks for as few as possible. -/
def readGreed (c : Cursor) : Bool × Cursor :=
  if c.rest.head? == some '?' then (false, c.forward 1) else (true, c)

/-- The state with a repetition added that ends at `stop`. -/
def State.withRepetition (s : State) (before : Sequence) (body : Tree) (least : Nat)
    (most : Option Nat) (greedy : Bool) (stop : Cursor) : State × Cursor :=
  ({ s with
    current :=
      before.push (.repetition (stop.spanFrom body.span.start) least most greedy body) }, stop)

/-- One of the signs `?`, `*` and `+`. -/
def readSign (s : State) (least : Nat) (most : Option Nat) (c : Cursor) :
    Except Fault (State × Cursor) := do
  let (body, before) ← repeated s c
  let (greedy, stop) := readGreed (c.forward 1)
  return s.withRepetition before body least most greedy stop

/-- A count in braces: a number, a least number, or both bounds. -/
def readCount (s : State) (brace : Cursor) : Except Fault (State × Cursor) := do
  let (body, before) ← repeated s brace
  let unclosed {α : Type} (c : Cursor) : Except Fault α :=
    fault (c.spanFrom brace.offset) .repetitionCountUnclosed
  let c := brace.advance s.x
  if c.rest.isEmpty then unclosed c
  else
    let (least?, c) := readDecimal s.x c
    if c.rest.isEmpty then unclosed c
    else
      let ((least, most), c) ←
        if c.rest.head? == some ',' then
          let c := c.advance s.x
          if c.rest.isEmpty then unclosed c
          else if c.rest.head? == some '}' then do
            let least ← least?
            Except.ok ((least, none), c)
          else do
            let least ← least?
            let (most?, c) := readDecimal s.x c
            let most ← most?
            Except.ok ((least, some most), c)
        else do
          let least ← least?
          Except.ok ((least, some least), c)
      if c.rest.head? != some '}' then unclosed c
      else
        let (greedy, stop) := readGreed (c.advance s.x)
        if most.any (· < least) then fault (stop.spanFrom brace.offset) .repetitionCountInvalid
        else return s.withRepetition before body least most greedy stop

/-! ## The whole pattern -/

/-- A character or escape outside of brackets. -/
def readAtom (x : Bool) (c : Cursor) : Except Fault (Atom × Cursor) :=
  match c.rest with
  | [] => fault c.here .escapeUnfinished
  | '\\' :: _ => readEscape x c
  | a :: _ =>
    let atom := match a with
      | '.' => Atom.dot c.nextSpan
      | '^' => .assertion c.nextSpan .lineStart
      | '$' => .assertion c.nextSpan .lineEnd
      | a => .literal ⟨c.nextSpan, a, false⟩
    .ok (atom, c.forward 1)

/-- The tree of a pattern that ends at `c`, if no group is open there. -/
def finish (s : State) (c : Cursor) : Except Fault Tree :=
  let (t, stack) := closeAlternation s.stack s.current c.offset
  match stack with
  | .group span _ _ _ _ :: _ => fault span .groupUnclosed
  | _ => .ok t

/-- One step through a pattern. -/
def patternStep (s : State) (c : Cursor) : Except Fault (Progress State Tree) := do
  let c := c.skip s.x
  let more (r : State × Cursor) : Progress State Tree := .more r.1 r.2
  match c.rest with
  | [] => return .done (← finish s c) c
  | '(' :: _ => return more (← readGroup s c)
  | ')' :: _ => return more (← readClosing s c)
  | '|' :: _ => return more (readBar s c)
  | '[' :: _ =>
    let (t, c) ← readBrackets s.x c
    return .more { s with current := s.current.push t } c
  | '?' :: _ => return more (← readSign s 0 (some 1) c)
  | '*' :: _ => return more (← readSign s 0 none c)
  | '+' :: _ => return more (← readSign s 1 none c)
  | '{' :: _ => return more (← readCount s c)
  | _ =>
    let (a, c) ← readAtom s.x c
    return .more { s with current := s.current.push (.atom a) } c

/-- Reads a pattern. -/
def read (pattern : List Char) : Except Fault Tree := do
  let start : Cursor := ⟨0, pattern⟩
  let (t, _) ← repeatStep patternStep ⟨false, [], [], .emptyAt start⟩ start
  match t.tooDeep? 0 with
  | some span => fault span (.nestedTooDeep nestingLimit)
  | none => return t

end DocLint.Pattern

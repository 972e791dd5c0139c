import DocLint.Pattern.Matching

/-!
# Matches in order of preference

A pattern may match a text in many ways. Which of them is taken is settled by preference: an earlier
branch before a later one, and more repetitions before fewer of them if they are greedy.
`Node.threads` lists all ways to read a pattern from a place of a text, the preferred one first, and
what the groups of the pattern have read on each. The matches of a pattern are found from left to
right, each at the first place behind the one before where there is any (`Node.matchesFrom`).
-/

namespace DocLint.Pattern

/-- A place in a text, reached by reading: the text behind it, last character first, the text ahead,
and what has been read by each of the groups that ended so far. -/
structure Thread where
  behind : List Char
  ahead : List Char
  groups : List (List Char) := []
  deriving DecidableEq, Repr

namespace Thread

/-- The place behind the next character, if this is as required. -/
def step? (p : Thread) (isFit : Char → Bool) : Option Thread :=
  match p.ahead with
  | c :: s => if isFit c then some { p with behind := c :: p.behind, ahead := s } else none
  | [] => none

/-- The place behind a word, if this comes next. -/
def word? (p : Thread) (cs : List Char) : Option Thread :=
  cs.foldlM (fun p c => p.step? (· == c)) p

@[simp] theorem step?_nil {behind : List Char} {groups : List (List Char)} {isFit : Char → Bool} :
    step? ⟨behind, [], groups⟩ isFit = none := rfl

@[simp] theorem step?_cons {c : Char} {behind s : List Char} {groups : List (List Char)}
    {isFit : Char → Bool} : step? ⟨behind, c :: s, groups⟩ isFit =
      if isFit c then some ⟨c :: behind, s, groups⟩ else none := rfl

@[simp] theorem word?_nil {p : Thread} : p.word? [] = some p := rfl

@[simp] theorem word?_cons {p : Thread} {c : Char} {cs : List Char} :
    p.word? (c :: cs) = (p.step? (· == c)).bind (·.word? cs) := rfl

/-- The text between this place and a later one. -/
def textTo (p q : Thread) : List Char := p.ahead.take (p.ahead.length - q.ahead.length)

/-- Ends a group that started at `p`. -/
def endGroup (p q : Thread) : Thread := { q with groups := q.groups ++ [p.textTo q] }

/-- The ways to read so many rounds. -/
def rounds (round : Thread → List Thread) : Nat → Thread → List Thread
  | 0, p => [p]
  | k + 1, p => (round p).flatMap (rounds round k)

/-- The ways to read up to so many rounds: rather more of them if they are greedy. A round that
reads nothing is the last one. -/
def roundsUpTo (greedy : Bool) (round : Thread → List Thread) : Nat → Thread → List Thread
  | 0, p => [p]
  | k + 1, p =>
    let more := (round p).flatMap fun q =>
      if q.ahead = p.ahead then [q] else roundsUpTo greedy round k q
    if greedy then more ++ [p] else p :: more

end Thread

mutual

/-- The ways to read a pattern from a place, the preferred one first. Rounds without an upper bound
are as many as there are characters ahead, since all but the last one read some. -/
def Node.threads : Node → Thread → List Thread
  | .literal cs, p => (p.word? cs).toList
  | .set _ s, p => (p.step? s.contains).toList
  | .look l, p => if l.holds p.behind.head? p.ahead.head? then [p] else []
  | .capture a, p => (a.threads p).map p.endGroup
  | .rep least most greedy a, p => (Thread.rounds a.threads least p).flatMap fun q =>
    Thread.roundsUpTo greedy a.threads (most.elim (q.ahead.length + 1) (· - least)) q
  | .seq items, p => Node.threadsOfAll items p
  | .alt branches, p => Node.threadsOfAny branches p

/-- The ways to read patterns one after the other. -/
def Node.threadsOfAll : List Node → Thread → List Thread
  | [], p => [p]
  | a :: rest, p => (a.threads p).flatMap (Node.threadsOfAll rest)

/-- The ways to read one of some patterns. -/
def Node.threadsOfAny : List Node → Thread → List Thread
  | [], _ => []
  | a :: rest, p => a.threads p ++ Node.threadsOfAny rest p

end

/-- A match: its text, and what each group has read, in the order in which the groups end. -/
structure Match where
  text : List Char
  groups : List (List Char)
  deriving DecidableEq, Repr

namespace Node

/-- Where the preferred way to read a pattern ends. -/
def first? (a : Node) (behind ahead : List Char) : Option Thread :=
  (a.threads ⟨behind, ahead, []⟩).head?

/-- The matches of a pattern from a place on, from left to right and without overlaps. `afterMatch`
says whether a match ends at the place: then none that is empty is taken there. -/
def matchesFrom (a : Node) (afterMatch : Bool) (behind ahead : List Char) : List Match :=
  let skip := match ahead with
    | [] => []
    | c :: s => a.matchesFrom false (c :: behind) s
  match a.first? behind ahead with
  | none => skip
  | some q =>
    let found : Match := ⟨Thread.textTo ⟨behind, ahead, []⟩ q, q.groups⟩
    if q.ahead.length < ahead.length then found :: a.matchesFrom true q.behind q.ahead
    else if afterMatch then skip
    else found :: skip
termination_by ahead.length

variable {a : Node} {q : Thread} {afterMatch : Bool} {behind ahead : List Char}

theorem matchesFrom_nil (h : a.first? behind [] = none) :
    a.matchesFrom afterMatch behind [] = [] := by
  rw [matchesFrom.eq_def, h]

theorem matchesFrom_of_none {c : Char} (h : a.first? behind (c :: ahead) = none) :
    a.matchesFrom afterMatch behind (c :: ahead) = a.matchesFrom false (c :: behind) ahead := by
  rw [matchesFrom.eq_def, h]

theorem matchesFrom_of_some (h : a.first? behind ahead = some q)
    (hlt : q.ahead.length < ahead.length) : a.matchesFrom afterMatch behind ahead =
      ⟨Thread.textTo ⟨behind, ahead, []⟩ q, q.groups⟩ :: a.matchesFrom true q.behind q.ahead := by
  rw [matchesFrom.eq_def, h]
  exact if_pos hlt

/-- The matches of a pattern in a text. -/
def matchesIn (a : Node) (text : String) : List Match := a.matchesFrom false [] text.toList

end Node

end DocLint.Pattern

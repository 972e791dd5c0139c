import DocLint.Pattern.Tree

/-!
# Reading along a pattern

A cursor is a place in a pattern with the characters that follow. Under the flag `x` white space
and comments may stand between any two parts; `skip` passes over them.
-/

namespace DocLint.Pattern

/-- A place in a pattern: how many characters are before it, and those after it. -/
structure Cursor where
  offset : Nat
  rest : List Char

namespace Cursor

/-- The place after `n` more characters. -/
def forward (c : Cursor) (n : Nat) : Cursor := ⟨c.offset + n, c.rest.drop n⟩

/-- The empty span at a cursor. -/
def here (c : Cursor) : Span := ⟨c.offset, c.offset⟩

/-- The span of the next character. -/
def nextSpan (c : Cursor) : Span := ⟨c.offset, c.offset + 1⟩

/-- The span from an earlier offset to a cursor. -/
def spanFrom (c : Cursor) (start : Nat) : Span := ⟨start, c.offset⟩

/-- The place after the white space and comments at `offset`; a comment goes on to the end of its
line. -/
def skipFrom (inComment : Bool) (offset : Nat) : List Char → Cursor
  | [] => ⟨offset, []⟩
  | c :: rest =>
    if inComment then skipFrom (c != '\n') (offset + 1) rest
    else if Text.isSpace c then skipFrom false (offset + 1) rest
    else if c == '#' then skipFrom true (offset + 1) rest
    else ⟨offset, c :: rest⟩

/-- The place after white space and comments, if the flag `x` is on. -/
def skip (x : Bool) (c : Cursor) : Cursor := if x then skipFrom false c.offset c.rest else c

/-- The place after the next character and what `skip` passes over. -/
def advance (x : Bool) (c : Cursor) : Cursor := (c.forward 1).skip x

/-- The place after the white space at a cursor, whatever the flags. -/
def skipSpaces (c : Cursor) : Cursor :=
  ⟨c.offset + (c.rest.takeWhile Text.isSpace).length, c.rest.dropWhile Text.isSpace⟩

theorem skipFrom_length (b : Bool) (offset : Nat) (s : List Char) :
    (skipFrom b offset s).rest.length ≤ s.length := by
  induction s generalizing b offset with
  | nil => simp [skipFrom]
  | cons c rest ih =>
    unfold skipFrom
    split
    · exact Nat.le_succ_of_le (ih _ _)
    · split
      · exact Nat.le_succ_of_le (ih _ _)
      · split
        · exact Nat.le_succ_of_le (ih _ _)
        · exact Nat.le_refl _

theorem skip_length (x : Bool) (c : Cursor) : (c.skip x).rest.length ≤ c.rest.length := by
  unfold skip
  split
  · exact skipFrom_length _ _ _
  · exact Nat.le_refl _

/-- Going past a character leaves fewer of them. -/
theorem advance_length (x : Bool) {c : Cursor} {a : Char} {rest : List Char}
    (h : c.rest = a :: rest) : (c.advance x).rest.length < c.rest.length := by
  have := skip_length x (c.forward 1)
  simp only [forward, h, List.drop_succ_cons, List.drop_zero] at this
  simp only [advance, forward, h, List.length_cons, List.drop_succ_cons, List.drop_zero]
  omega

end Cursor

/-! ## Numbers -/

/-- The digits at a cursor and the place after them. -/
def readDigits (x : Bool) (c : Cursor) : List Char × Cursor :=
  match _h : c.rest with
  | [] => ([], c)
  | d :: _ =>
    if d.isDigit then
      let r := readDigits x (c.advance x)
      (d :: r.1, r.2)
    else ([], c)
termination_by c.rest.length
decreasing_by exact Cursor.advance_length x ‹_›

/-- The place after white space and, once something was passed, after comments as well. -/
def skipAround (x : Bool) (c : Cursor) : Cursor :=
  match _h : c.rest with
  | [] => c
  | a :: _ => if Text.isSpace a then skipAround x (c.advance x) else c
termination_by c.rest.length
decreasing_by exact Cursor.advance_length x ‹_›

/-- The value of decimal digits. -/
def decimalValue (ds : List Char) : Nat := ds.foldl (fun n d => 10 * n + (d.toNat - 48)) 0

/-- A decimal number below 2³², with white space around it; the place after it, also for a fault. -/
def readDecimal (x : Bool) (c : Cursor) : Except Fault Nat × Cursor :=
  let start := c.skipSpaces
  let (ds, stop) := readDigits x start
  let span := stop.spanFrom start.offset
  let value :=
    if ds.isEmpty then fault span .repetitionCountEmpty
    else if decimalValue ds < Nat.pow 2 32 then .ok (decimalValue ds)
    else fault span .decimalInvalid
  (value, skipAround x stop)

end DocLint.Pattern

import DocLint.Json.Value
import DocLint.Text.Hex

/-!
# Tokens of JSON

The text of a value is a sequence of tokens with white space between them: blanks, tabs, line feeds
and carriage returns. `Token.next?` reads one token and leaves a shorter text.
-/

namespace DocLint.Json

/-- The tokens of JSON. -/
inductive Token
  | openBrace
  | closeBrace
  | openBracket
  | closeBracket
  | colon
  | comma
  | null
  | bool (b : Bool)
  | number (literal : List Char)
  | string (text : Option String)
  deriving DecidableEq, Repr

/-- Whether a character may stand between tokens. -/
def isGap (c : Char) : Bool := c == ' ' || c == '\t' || c == '\n' || c == '\r'

/-! ## Strings -/

/-- The value of four hexadecimal digits. -/
def hexUnit? (a b c d : Char) : Option Nat := do
  let a ← Text.hexDigit? a
  let b ← Text.hexDigit? b
  let c ← Text.hexDigit? c
  let d ← Text.hexDigit? d
  return 4096 * a + 256 * b + 16 * c + d

/-- The code point that a letter after a backslash stands for. -/
def shortEscape? : Char → Option Nat
  | '"' => some 0x22
  | '\\' => some 0x5C
  | '/' => some 0x2F
  | 'b' => some 0x8
  | 'f' => some 0xC
  | 'n' => some 0xA
  | 'r' => some 0xD
  | 't' => some 0x9
  | _ => none

/-- The characters and escapes of a string up to the closing quote, as code points and halves of
surrogate pairs, and the text after it. -/
def stringBody? : List Char → Option (List Nat × List Char)
  | [] => none
  | '"' :: rest => some ([], rest)
  | '\\' :: 'u' :: a :: b :: c :: d :: rest => do
    let u ← hexUnit? a b c d
    let (us, rest) ← stringBody? rest
    return (u :: us, rest)
  | '\\' :: e :: rest => do
    let u ← shortEscape? e
    let (us, rest) ← stringBody? rest
    return (u :: us, rest)
  | c :: rest =>
    if c.toNat < 0x20 || c == '\\' then none
    else do
      let (us, rest) ← stringBody? rest
      return (c.toNat :: us, rest)

/-- Whether a unit is the first half of a surrogate pair. -/
def isHighHalf (u : Nat) : Bool := 0xD800 ≤ u && u < 0xDC00

/-- Whether a unit is the second half of a surrogate pair. -/
def isLowHalf (u : Nat) : Bool := 0xDC00 ≤ u && u < 0xE000

/-- The characters of units, surrogate pairs being joined; none if a half stands alone. -/
def joinHalves? : List Nat → Option (List Char)
  | [] => some []
  | [u] => if isHighHalf u || isLowHalf u then none else some [Char.ofNat u]
  | u :: v :: rest =>
    if isHighHalf u then
      if isLowHalf v then do
        let cs ← joinHalves? rest
        return Char.ofNat (0x10000 + 0x400 * (u - 0xD800) + (v - 0xDC00)) :: cs
      else none
    else if isLowHalf u then none
    else do
      let cs ← joinHalves? (v :: rest)
      return Char.ofNat u :: cs

/-! ## Numbers -/

/-- The digits at the start of a text, at least one, and the text after them. -/
def digits? (s : List Char) : Option (List Char × List Char) :=
  if (s.takeWhile Char.isDigit).isEmpty then none
  else some (s.takeWhile Char.isDigit, s.dropWhile Char.isDigit)

/-- The digits before the point: no other digit follows a zero at the start. -/
def wholePart? (s : List Char) : Option (List Char × List Char) := do
  let (ds, rest) ← digits? s
  if ds.head? == some '0' && ds.length != 1 then none else return (ds, rest)

/-- The point with the digits after it, or nothing. -/
def fraction? : List Char → Option (List Char × List Char)
  | '.' :: rest => do
    let (ds, rest) ← digits? rest
    return ('.' :: ds, rest)
  | s => some ([], s)

/-- The sign at the start of an exponent, if any. -/
def exponentSign : List Char → List Char × List Char
  | '+' :: rest => (['+'], rest)
  | '-' :: rest => (['-'], rest)
  | s => ([], s)

/-- The exponent, or nothing. -/
def exponent? : List Char → Option (List Char × List Char)
  | [] => some ([], [])
  | e :: rest =>
    if e == 'e' || e == 'E' then do
      let (sign, rest) := exponentSign rest
      let (ds, rest) ← digits? rest
      return (e :: sign ++ ds, rest)
    else some ([], e :: rest)

/-- The sign at the start of a number, if any. -/
def minusSign : List Char → List Char × List Char
  | '-' :: rest => (['-'], rest)
  | s => ([], s)

/-- The number at the start of a text, as it is written, and the text after it. -/
def number? (s : List Char) : Option (List Char × List Char) := do
  let (sign, s) := minusSign s
  let (whole, s) ← wholePart? s
  let (fraction, s) ← fraction? s
  let (exponent, s) ← exponent? s
  return (sign ++ whole ++ fraction ++ exponent, s)

/-! ## Tokens -/

/-- The text after `word`, if it starts with it. -/
def afterWord? (word s : List Char) : Option (List Char) :=
  if word.isPrefixOf s then some (s.drop word.length) else none

/-- The token at the start of a text without white space there, and the text after it. -/
def token? : List Char → Option (Token × List Char)
  | [] => none
  | '{' :: rest => some (.openBrace, rest)
  | '}' :: rest => some (.closeBrace, rest)
  | '[' :: rest => some (.openBracket, rest)
  | ']' :: rest => some (.closeBracket, rest)
  | ':' :: rest => some (.colon, rest)
  | ',' :: rest => some (.comma, rest)
  | 'n' :: rest => (afterWord? ['u', 'l', 'l'] rest).map fun r => (.null, r)
  | 't' :: rest => (afterWord? ['r', 'u', 'e'] rest).map fun r => (.bool true, r)
  | 'f' :: rest => (afterWord? ['a', 'l', 's', 'e'] rest).map fun r => (.bool false, r)
  | '"' :: rest =>
    (stringBody? rest).map fun (us, r) => (.string ((joinHalves? us).map String.ofList), r)
  | s => (number? s).map fun (literal, r) => (.number literal, r)

/-! ## Every token is read from a shorter text -/

theorem stringBody?_length {s : List Char} {us : List Nat} {rest : List Char}
    (h : stringBody? s = some (us, rest)) : rest.length < s.length := by
  fun_induction stringBody? s generalizing us rest with
  | case1 => simp at h
  | case2 => simp at h; simp [h.2]
  | case3 a b c d rest' ih =>
    simp only [Option.bind_eq_bind, Option.bind_eq_some_iff, Prod.exists, Option.pure_def,
      Option.some.injEq, Prod.mk.injEq] at h
    obtain ⟨_, _, us', r, hr, _, rfl⟩ := h
    have := ih hr
    simp only [List.length_cons]
    omega
  | case4 e rest' _ ih =>
    simp only [Option.bind_eq_bind, Option.bind_eq_some_iff, Prod.exists, Option.pure_def,
      Option.some.injEq, Prod.mk.injEq] at h
    obtain ⟨_, _, us', r, hr, _, rfl⟩ := h
    have := ih hr
    simp only [List.length_cons]
    omega
  | case5 => simp at h
  | case6 c rest' _ _ _ _ ih =>
    simp only [Option.bind_eq_bind, Option.bind_eq_some_iff, Prod.exists, Option.pure_def,
      Option.some.injEq, Prod.mk.injEq] at h
    obtain ⟨us', r, hr, _, rfl⟩ := h
    have := ih hr
    simp only [List.length_cons]
    omega

theorem digits?_append {s ds rest : List Char} (h : digits? s = some (ds, rest)) :
    s = ds ++ rest ∧ ds ≠ [] := by
  unfold digits? at h
  split at h
  · simp at h
  · rename_i hne
    simp only [Option.some.injEq, Prod.mk.injEq] at h
    obtain ⟨rfl, rfl⟩ := h
    exact ⟨(List.takeWhile_append_dropWhile).symm, by simpa using hne⟩

theorem fraction?_append {s ds rest : List Char} (h : fraction? s = some (ds, rest)) :
    s = ds ++ rest := by
  unfold fraction? at h
  split at h
  · simp only [Option.bind_eq_bind, Option.bind_eq_some_iff, Prod.exists, Option.pure_def,
      Option.some.injEq, Prod.mk.injEq] at h
    obtain ⟨ds', r, hr, rfl, rfl⟩ := h
    simp [(digits?_append hr).1]
  · simp only [Option.some.injEq, Prod.mk.injEq] at h
    simp [← h.1, ← h.2]

theorem exponentSign_append (s : List Char) : s = (exponentSign s).1 ++ (exponentSign s).2 := by
  unfold exponentSign
  split <;> simp

theorem exponent?_append {s ds rest : List Char} (h : exponent? s = some (ds, rest)) :
    s = ds ++ rest := by
  unfold exponent? at h
  split at h
  · simp only [Option.some.injEq, Prod.mk.injEq] at h
    simp [← h.1, ← h.2]
  · rename_i e t
    split at h
    · simp only [Option.bind_eq_bind, Option.bind_eq_some_iff, Prod.exists, Option.pure_def,
        Option.some.injEq, Prod.mk.injEq] at h
      obtain ⟨ds', r, hr, rfl, rfl⟩ := h
      have := exponentSign_append t
      rw [(digits?_append hr).1] at this
      simpa using this
    · simp only [Option.some.injEq, Prod.mk.injEq] at h
      simp [← h.1, ← h.2]

theorem minusSign_append (s : List Char) : s = (minusSign s).1 ++ (minusSign s).2 := by
  unfold minusSign
  split <;> simp

/-- A number is read as it is written, and it is not empty. -/
theorem number?_append {s literal rest : List Char} (h : number? s = some (literal, rest)) :
    s = literal ++ rest ∧ literal ≠ [] := by
  unfold number? at h
  simp only [Option.bind_eq_bind, Option.bind_eq_some_iff, Prod.exists, Option.pure_def,
    Option.some.injEq, Prod.mk.injEq] at h
  obtain ⟨whole, s₁, hw, fraction, s₂, hf, exponent, s₃, he, rfl, rfl⟩ := h
  unfold wholePart? at hw
  simp only [Option.bind_eq_bind, Option.bind_eq_some_iff, Prod.exists] at hw
  obtain ⟨ds, r, hd, hw⟩ := hw
  split at hw
  · simp at hw
  · simp only [Option.pure_def, Option.some.injEq, Prod.mk.injEq] at hw
    obtain ⟨rfl, rfl⟩ := hw
    obtain ⟨hds, hne⟩ := digits?_append hd
    have hf := fraction?_append hf
    have he := exponent?_append he
    subst he hf
    have := minusSign_append s
    rw [hds] at this
    exact ⟨by simpa using this, by simp [hne]⟩

theorem afterWord?_length {word s rest : List Char} (h : afterWord? word s = some rest) :
    rest.length ≤ s.length := by
  unfold afterWord? at h
  split at h
  · simp only [Option.some.injEq] at h
    simp [← h]
  · simp at h

/-- A token takes at least one character. -/
theorem token?_length {s rest : List Char} {t : Token} (h : token? s = some (t, rest)) :
    rest.length < s.length := by
  unfold token? at h
  split at h
  case h_1 => simp at h
  case h_8 | h_9 | h_10 =>
    simp only [Option.map_eq_some_iff, Prod.mk.injEq] at h
    obtain ⟨_, hr, _, rfl⟩ := h
    have := afterWord?_length hr
    simp only [List.length_cons]
    omega
  case h_11 =>
    simp only [Option.map_eq_some_iff, Prod.mk.injEq, Prod.exists] at h
    obtain ⟨_, _, hr, _, rfl⟩ := h
    have := stringBody?_length hr
    simp only [List.length_cons]
    omega
  case h_12 =>
    simp only [Option.map_eq_some_iff, Prod.mk.injEq, Prod.exists] at h
    obtain ⟨_, _, hr, _, rfl⟩ := h
    obtain ⟨rfl, hne⟩ := number?_append hr
    have := List.length_pos_iff.2 hne
    simp only [List.length_append]
    omega
  all_goals
    simp only [Option.some.injEq, Prod.mk.injEq] at h
    simp [← h.2]

/-- The next token of a text and what follows it; the inner answer is absent at the end. -/
def Token.next? (s : List Char) :
    Option (Option (Token × { rest : List Char // rest.length < s.length })) :=
  match h : s.dropWhile isGap with
  | [] => some none
  | c :: cs =>
    match ht : token? (c :: cs) with
    | none => none
    | some (t, rest) =>
      have shorter : rest.length < s.length := by
        have h₁ := token?_length ht
        have h₂ := (List.dropWhile_suffix (l := s) isGap).length_le
        rw [h] at h₂
        omega
      some (some (t, ⟨rest, shorter⟩))

end DocLint.Json

import DocLint.Json.Reader
import DocLint.Json.Writer
import Mathlib.Data.List.Basic
import Mathlib.Data.List.TakeWhile

/-!
# Reading tokens of JSON

Each token is read back from what is written for it, whatever text comes behind it; only behind a
number there must be nothing that would go on with it (`Json.Stops`). A text that holds some tokens
with gaps between them (`Json.Holds`) is read by feeding these to the machine one after the other
(`Json.Holds.run`).
-/

namespace DocLint.Json

/-! ## Numbers -/

/-- A text that does not go on with a number before it. -/
def Stops (s : List Char) : Prop :=
  ∀ c ∈ s.head?, c.isDigit = false ∧ c ≠ '.' ∧ c ≠ 'e' ∧ c ≠ 'E'

/-- The literals of numbers. -/
def IsNumber (literal : List Char) : Prop := number? literal = some (literal, [])

theorem stops_nil : Stops [] := fun _ hc => absurd hc (Option.not_mem_none _)

theorem stops_cons {c : Char} {s : List Char} :
    Stops (c :: s) ↔ c.isDigit = false ∧ c ≠ '.' ∧ c ≠ 'e' ∧ c ≠ 'E' := by
  simp [Stops]

variable {s rest ds literal : List Char}

theorem Stops.takeWhile_append (h : Stops rest) (s : List Char) :
    (s ++ rest).takeWhile Char.isDigit = s.takeWhile Char.isDigit := by
  induction s with
  | nil =>
    cases rest with
    | nil => rfl
    | cons c rest =>
      have hc : c.isDigit = false := (stops_cons.1 h).1
      rw [List.nil_append, List.takeWhile_cons, hc]
      rfl
  | cons c s ih =>
    rw [List.cons_append, List.takeWhile_cons, List.takeWhile_cons, ih]

theorem Stops.dropWhile_append (h : Stops rest) (s : List Char) :
    (s ++ rest).dropWhile Char.isDigit = s.dropWhile Char.isDigit ++ rest := by
  have hsplit := List.takeWhile_append_dropWhile (p := Char.isDigit) (l := s ++ rest)
  have hsplit' := List.takeWhile_append_dropWhile (p := Char.isDigit) (l := s)
  rw [h.takeWhile_append] at hsplit
  refine (List.append_right_inj (s.takeWhile Char.isDigit)).1 ?_
  rw [hsplit, ← List.append_assoc, hsplit']

theorem digits?_append_of_stops {left : List Char} (h : digits? s = some (ds, left))
    (hrest : Stops rest) : digits? (s ++ rest) = some (ds, left ++ rest) := by
  rw [digits?, hrest.takeWhile_append, hrest.dropWhile_append]
  rw [digits?] at h
  split at h
  · cases h
  · rename_i hne
    obtain ⟨rfl, rfl⟩ := Prod.mk.inj (Option.some.inj h)
    rw [if_neg hne]

theorem wholePart?_append_of_stops {left : List Char} (h : wholePart? s = some (ds, left))
    (hrest : Stops rest) : wholePart? (s ++ rest) = some (ds, left ++ rest) := by
  rw [wholePart?, Option.bind_eq_bind, Option.bind_eq_some_iff] at h
  obtain ⟨⟨ds', left'⟩, hdigits, h⟩ := h
  rw [wholePart?, digits?_append_of_stops hdigits hrest]
  dsimp only [Option.bind_eq_bind, Option.bind_some] at h ⊢
  split at h
  · cases h
  · rename_i hzero
    obtain ⟨rfl, rfl⟩ := Prod.mk.inj (Option.some.inj h)
    rw [if_neg hzero]
    rfl

theorem fraction?_append_of_stops {left : List Char} (h : fraction? s = some (ds, left))
    (hrest : Stops rest) : fraction? (s ++ rest) = some (ds, left ++ rest) := by
  rw [fraction?.eq_def] at h
  split at h
  · rename_i digits
    rw [Option.bind_eq_bind, Option.bind_eq_some_iff] at h
    obtain ⟨⟨ds', left'⟩, hdigits, h⟩ := h
    obtain ⟨rfl, rfl⟩ := Prod.mk.inj (Option.some.inj h)
    rw [List.cons_append, fraction?, digits?_append_of_stops hdigits hrest]
    rfl
  · rename_i hpoint
    obtain ⟨rfl, rfl⟩ := Prod.mk.inj (Option.some.inj h)
    -- neither the text nor what stands behind it starts with a point
    refine fraction?.eq_2 _ fun digits hs => ?_
    cases s with
    | nil =>
      obtain rfl : rest = '.' :: digits := hs
      exact (stops_cons.1 hrest).2.1 rfl
    | cons c s =>
      obtain ⟨rfl, -⟩ := List.cons.inj hs
      exact hpoint s rfl

theorem exponentSign_append_of_ne_nil (hs : s ≠ []) (rest : List Char) :
    exponentSign (s ++ rest) = ((exponentSign s).1, (exponentSign s).2 ++ rest) := by
  cases s with
  | nil => exact absurd rfl hs
  | cons c s =>
    by_cases hplus : c = '+'
    · rw [hplus]
      rfl
    by_cases hminus : c = '-'
    · rw [hminus]
      rfl
    have hnone : ∀ s : List Char, exponentSign (c :: s) = ([], c :: s) := by
      intro s
      refine exponentSign.eq_3 _ (fun r h => hplus ?_) (fun r h => hminus ?_)
      · exact (List.cons.inj h).1
      · exact (List.cons.inj h).1
    rw [List.cons_append, hnone, hnone]
    rfl

theorem exponent?_append_of_stops {left : List Char} (h : exponent? s = some (ds, left))
    (hrest : Stops rest) : exponent? (s ++ rest) = some (ds, left ++ rest) := by
  cases s with
  | nil =>
    obtain ⟨rfl, rfl⟩ := Prod.mk.inj (Option.some.inj h)
    cases rest with
    | nil => rfl
    | cons c rest =>
      obtain ⟨-, -, he, hE⟩ := stops_cons.1 hrest
      rw [List.nil_append, exponent?]
      simp [he, hE]
  | cons e s =>
    rw [exponent?] at h
    rw [List.cons_append, exponent?]
    split at h
    · rename_i he
      rw [Option.bind_eq_bind, Option.bind_eq_some_iff] at h
      obtain ⟨⟨ds', left'⟩, hdigits, h⟩ := h
      obtain ⟨rfl, rfl⟩ := Prod.mk.inj (Option.some.inj h)
      have hs : s ≠ [] := by
        rintro rfl
        cases hdigits
      rw [if_pos he, exponentSign_append_of_ne_nil hs]
      dsimp only
      rw [digits?_append_of_stops hdigits hrest]
      rfl
    · rename_i he
      obtain ⟨rfl, rfl⟩ := Prod.mk.inj (Option.some.inj h)
      rw [if_neg he]
      rfl

theorem minusSign_of_ne {c : Char} (h : c ≠ '-') (s : List Char) :
    minusSign (c :: s) = ([], c :: s) :=
  minusSign.eq_2 _ fun _ hs => h (List.cons.inj hs).1

theorem minusSign_append_of_ne_nil (hs : s ≠ []) (rest : List Char) :
    minusSign (s ++ rest) = ((minusSign s).1, (minusSign s).2 ++ rest) := by
  cases s with
  | nil => exact absurd rfl hs
  | cons c s =>
    by_cases hminus : c = '-'
    · rw [hminus]
      rfl
    · rw [List.cons_append, minusSign_of_ne hminus, minusSign_of_ne hminus]
      rfl

/-- **A number is read from its literal**, if nothing behind it would go on with it. -/
theorem IsNumber.read (h : IsNumber literal) (hrest : Stops rest) :
    number? (literal ++ rest) = some (literal, rest) := by
  have hne : literal ≠ [] := (number?_append h).2
  rw [IsNumber, number?] at h
  simp only [Option.bind_eq_bind, Option.bind_eq_some_iff, Prod.exists] at h
  obtain ⟨whole, s₁, hwhole, fraction, s₂, hfraction, exponent, s₃, hexponent, h⟩ := h
  obtain ⟨hliteral, rfl⟩ := Prod.mk.inj (Option.some.inj h)
  rw [number?, minusSign_append_of_ne_nil hne]
  dsimp only
  rw [wholePart?_append_of_stops hwhole hrest]
  dsimp only [Option.bind_eq_bind, Option.bind_some]
  rw [fraction?_append_of_stops hfraction hrest]
  dsimp only [Option.bind_some]
  rw [exponent?_append_of_stops hexponent hrest]
  dsimp only [Option.bind_some]
  rw [hliteral, List.nil_append]
  rfl

/-- A literal starts with a digit or a minus sign. -/
theorem number?_cons_eq_none {c : Char} (hminus : c ≠ '-') (hdigit : c.isDigit = false)
    (s : List Char) : number? (c :: s) = none := by
  have hdigits : digits? (c :: s) = none := by
    rw [digits?, List.takeWhile_cons, hdigit]
    rfl
  rw [number?, minusSign_of_ne hminus]
  dsimp only
  rw [wholePart?, hdigits]
  rfl

theorem toList_repr (n : Nat) : n.repr.toList = Nat.toDigits 10 n := by
  rw [Nat.repr_eq_ofList_toDigits, String.toList_ofList]

theorem isDigit_of_mem_repr {n : Nat} {c : Char} (h : c ∈ n.repr.toList) : c.isDigit = true := by
  rw [toList_repr] at h
  exact Nat.isDigit_of_mem_toDigits (by decide) (by decide) h

/-- Only the digits of zero start with a zero. -/
theorem eq_zero_of_head?_toDigits (n : Nat) (h : (Nat.toDigits 10 n).head? = some '0') :
    n = 0 := by
  induction n using Nat.strongRecOn with
  | _ n ih =>
    by_cases hn : n < 10
    · have hzero : ∀ d < 10, Nat.digitChar d = '0' → d = 0 := by decide
      rw [Nat.toDigits_of_lt_base hn] at h
      exact hzero n hn (Option.some.inj h)
    · have hdiv : n / 10 = 0 := by
        refine ih (n / 10) (by omega) ?_
        rwa [Nat.toDigits_of_base_le (by decide) (by omega),
          List.head?_append_of_ne_nil _ Nat.toDigits_ne_nil] at h
      omega

/-- The digits of a number are a literal. -/
theorem isNumber_repr (n : Nat) : IsNumber n.repr.toList := by
  have hdigit : ∀ c ∈ n.repr.toList, c.isDigit = true := fun _ => isDigit_of_mem_repr
  have hne : n.repr.toList ≠ [] := by
    rw [toList_repr]
    exact Nat.toDigits_ne_nil
  have hzero : ¬(n.repr.toList.head? == some '0' && n.repr.toList.length != 1) = true := by
    rw [toList_repr, Bool.and_eq_true, beq_iff_eq, bne_iff_ne]
    rintro ⟨hhead, hlength⟩
    rw [eq_zero_of_head?_toDigits n hhead] at hlength
    exact hlength rfl
  have hsign : minusSign n.repr.toList = ([], n.repr.toList) := by
    refine minusSign.eq_2 _ fun r h => ?_
    have hminus := hdigit '-' (h ▸ List.mem_cons_self)
    exact absurd hminus (by decide)
  have hdigits : digits? n.repr.toList = some (n.repr.toList, []) := by
    have hempty : ¬n.repr.toList.isEmpty = true := by rwa [List.isEmpty_iff]
    rw [digits?, List.takeWhile_eq_self_iff.2 hdigit, List.dropWhile_eq_nil_iff.2 hdigit,
      if_neg hempty]
  rw [IsNumber, number?, hsign]
  dsimp only
  rw [wholePart?, hdigits]
  dsimp only [Option.bind_eq_bind, Option.bind_some]
  rw [if_neg hzero]
  simp [fraction?, exponent?]

/-! ## Strings -/

theorem hexUnit?_hexDigit : ∀ n < 0x20,
    hexUnit? '0' '0' (Text.hexDigit (n / 16)) (Text.hexDigit (n % 16)) = some n := by
  decide

theorem stringBody?_of_shortEscape? {e : Char} {u : Nat} (h : shortEscape? e = some u)
    (rest : List Char) :
    stringBody? ('\\' :: e :: rest) = (stringBody? rest).map fun p => (u :: p.1, p.2) := by
  have hne : e ≠ 'u' := by
    rintro rfl
    cases h
  rw [stringBody?.eq_4 _ _ fun a b c d r he _ => hne he, h]
  cases stringBody? rest <;> rfl

theorem stringBody?_of_hexUnit? {a b c d : Char} {u : Nat} (h : hexUnit? a b c d = some u)
    (rest : List Char) : stringBody? ('\\' :: 'u' :: a :: b :: c :: d :: rest) =
      (stringBody? rest).map fun p => (u :: p.1, p.2) := by
  rw [stringBody?, h]
  cases stringBody? rest <;> rfl

theorem stringBody?_of_plain {c : Char} (hquote : c ≠ '"') (hslash : c ≠ '\\')
    (hcontrol : ¬c.toNat < 0x20) (rest : List Char) :
    stringBody? (c :: rest) = (stringBody? rest).map fun p => (c.toNat :: p.1, p.2) := by
  have hplain : ¬(decide (c.toNat < 0x20) || c == '\\') = true := by
    simp [hcontrol, hslash]
  rw [stringBody?.eq_5 _ _ hquote (fun a b c' d r h _ => hslash h) (fun e r h _ => hslash h),
    if_neg hplain]
  cases stringBody? rest <;> rfl

/-- A character is read back from what is written for it in a string. -/
theorem stringBody?_escapeChar (c : Char) (rest : List Char) :
    stringBody? (escapeChar c ++ rest) =
      (stringBody? rest).map fun p => (c.toNat :: p.1, p.2) := by
  have hshort : ∀ {d e : Char}, (c == d) = true → shortEscape? e = some d.toNat →
      stringBody? (['\\', e] ++ rest) = (stringBody? rest).map fun p => (c.toNat :: p.1, p.2) := by
    intro d e hd he
    rw [beq_iff_eq.1 hd]
    exact stringBody?_of_shortEscape? he rest
  rw [escapeChar]
  split
  · exact hshort ‹_› rfl
  rename_i hquote
  split
  · exact hshort ‹_› rfl
  rename_i hslash
  split
  · exact hshort ‹_› rfl
  split
  · exact hshort ‹_› rfl
  split
  · exact hshort ‹_› rfl
  split
  · exact hshort ‹_› rfl
  split
  · exact hshort ‹_› rfl
  split
  · rename_i hcontrol
    exact stringBody?_of_hexUnit? (hexUnit?_hexDigit c.toNat hcontrol) rest
  · rename_i hcontrol
    rw [beq_iff_eq] at hquote hslash
    exact stringBody?_of_plain hquote hslash hcontrol rest

theorem stringBody?_flatMap_escapeChar (s rest : List Char) :
    stringBody? (s.flatMap escapeChar ++ '"' :: rest) = some (s.map Char.toNat, rest) := by
  induction s with
  | nil => rw [List.flatMap_nil, List.nil_append, stringBody?, List.map_nil]
  | cons c s ih =>
    rw [List.flatMap_cons, List.append_assoc, stringBody?_escapeChar, ih]
    rfl

/-- The code point of a character is no half of a surrogate pair. -/
theorem isHalf_toNat (c : Char) : isHighHalf c.toNat = false ∧ isLowHalf c.toNat = false := by
  have hvalid : c.toNat < 0xD800 ∨ 0xDFFF < c.toNat ∧ c.toNat < 0x110000 := c.valid
  constructor
  · rw [isHighHalf, ← Bool.not_eq_true, Bool.and_eq_true, decide_eq_true_eq, decide_eq_true_eq]
    omega
  · rw [isLowHalf, ← Bool.not_eq_true, Bool.and_eq_true, decide_eq_true_eq, decide_eq_true_eq]
    omega

theorem joinHalves?_map_toNat (s : List Char) : joinHalves? (s.map Char.toNat) = some s := by
  induction s with
  | nil => rfl
  | cons c s ih =>
    obtain ⟨hhigh, hlow⟩ := isHalf_toNat c
    cases s with
    | nil => simp [joinHalves?, hhigh, hlow]
    | cons d s =>
      rw [List.map_cons] at ih
      rw [List.map_cons, List.map_cons, joinHalves?, ih, hhigh, hlow]
      simp

/-- **A string is read from what is written for it.** -/
theorem token?_stringChars (t : Option String) (rest : List Char) :
    token? (stringChars t ++ rest) = some (.string t, rest) := by
  cases t with
  | none =>
    have hhalf : hexUnit? 'd' '8' '0' '0' = some 0xD800 := by decide
    have hbody : stringBody? ('\\' :: 'u' :: 'd' :: '8' :: '0' :: '0' :: '"' :: rest) =
        some ([0xD800], rest) := by
      rw [stringBody?_of_hexUnit? hhalf, stringBody?]
      rfl
    have htoken : token? (stringChars none ++ rest) =
        (stringBody? ('\\' :: 'u' :: 'd' :: '8' :: '0' :: '0' :: '"' :: rest)).map fun p =>
          (.string ((joinHalves? p.1).map String.ofList), p.2) := rfl
    rw [htoken, hbody]
    rfl
  | some s =>
    have htext : stringChars (some s) ++ rest =
        '"' :: (s.toList.flatMap escapeChar ++ '"' :: rest) := by
      rw [stringChars, List.append_assoc, List.cons_append]
      rfl
    rw [htext, token?, stringBody?_flatMap_escapeChar]
    dsimp only [Option.map_some]
    rw [joinHalves?_map_toNat, Option.map_some, String.ofList_toList]

/-! ## Other tokens -/

/-- A text that starts with a number starts with no other token. -/
theorem token?_of_number? (h : number? s = some (literal, rest)) :
    token? s = some (.number literal, rest) := by
  have hnone : ∀ {c : Char} {t : List Char}, c ≠ '-' → c.isDigit = false →
      number? (c :: t) ≠ some (literal, rest) := by
    intro c t hminus hdigit
    rw [number?_cons_eq_none hminus hdigit]
    exact (Option.some_ne_none _).symm
  rw [token?.eq_def]
  split
  case h_12 =>
    rw [h]
    rfl
  case h_1 => cases h
  -- no other token starts with a digit or a minus sign
  all_goals exact absurd h (hnone (by decide) (by decide))

theorem token?_null (rest : List Char) :
    token? ('n' :: 'u' :: 'l' :: 'l' :: rest) = some (.null, rest) := rfl

theorem token?_boolChars (b : Bool) (rest : List Char) :
    token? (boolChars b ++ rest) = some (.bool b, rest) := by
  cases b <;> rfl

theorem isGap_iff {c : Char} : isGap c = true ↔ c = ' ' ∨ c = '\t' ∨ c = '\n' ∨ c = '\r' := by
  simp [isGap, or_assoc]

/-- No token starts with a gap. -/
theorem token?_gap {c : Char} (h : isGap c = true) (s : List Char) : token? (c :: s) = none := by
  rcases isGap_iff.1 h with rfl | rfl | rfl | rfl <;>
    · rw [token?, number?_cons_eq_none (by decide) (by decide)]
      · rfl
      all_goals simp

/-! ## Texts -/

/-- The state after some more tokens, if they may come. -/
def Machine.feedAll (m : Machine) (ts : List Token) : Option Machine := ts.foldlM feed m

theorem Machine.feedAll_cons (m : Machine) (t : Token) (ts : List Token) :
    m.feedAll (t :: ts) = (m.feed t).bind fun m => m.feedAll ts := by
  rw [feedAll, List.foldlM_cons]
  rfl

theorem Machine.feedAll_append (m : Machine) (ts us : List Token) :
    m.feedAll (ts ++ us) = (m.feedAll ts).bind fun m => m.feedAll us := by
  rw [feedAll, List.foldlM_append]
  rfl

/-- A text that holds tokens one after the other, with gaps before and after each. -/
inductive Holds : List Token → List Char → Prop
  | nil {gap : List Char} (hgap : ∀ c ∈ gap, isGap c = true) : Holds [] gap
  | cons {t : Token} {ts : List Token} {gap s rest : List Char} (hgap : ∀ c ∈ gap, isGap c = true)
      (htoken : token? s = some (t, rest)) (h : Holds ts rest) : Holds (t :: ts) (gap ++ s)

theorem Holds.token {t : Token} {ts : List Token} (htoken : token? s = some (t, rest))
    (h : Holds ts rest) : Holds (t :: ts) s := by
  have hcons : Holds (t :: ts) ([] ++ s) := .cons (List.forall_mem_nil _) htoken h
  exact hcons

theorem Holds.gap {ts : List Token} {gap : List Char} (h : Holds ts s)
    (hgap : ∀ c ∈ gap, isGap c = true) : Holds ts (gap ++ s) := by
  cases h with
  | nil hs => exact .nil (List.forall_mem_append.2 ⟨hgap, hs⟩)
  | cons hs htoken h =>
    rw [← List.append_assoc]
    exact .cons (List.forall_mem_append.2 ⟨hgap, hs⟩) htoken h

theorem dropWhile_isGap {t : Token} {gap : List Char} (hgap : ∀ c ∈ gap, isGap c = true)
    (htoken : token? s = some (t, rest)) : (gap ++ s).dropWhile isGap = s := by
  rw [List.dropWhile_append_of_pos hgap]
  cases s with
  | nil => rfl
  | cons c s =>
    have hc : ¬isGap c = true := by
      intro hc
      rw [token?_gap hc] at htoken
      cases htoken
    rw [List.dropWhile_cons, if_neg hc]

theorem next?_of_token? {t : Token} {gap : List Char} (hgap : ∀ c ∈ gap, isGap c = true)
    (htoken : token? s = some (t, rest)) :
    ∃ h, Token.next? (gap ++ s) = some (some (t, ⟨rest, h⟩)) := by
  have hdrop := dropWhile_isGap hgap htoken
  have hlength : rest.length < (gap ++ s).length := by
    have hshorter := token?_length htoken
    rw [List.length_append]
    omega
  refine ⟨hlength, ?_⟩
  rw [Token.next?]
  split
  · rename_i hnil
    rw [hdrop] at hnil
    rw [hnil] at htoken
    cases htoken
  · rename_i c cs hcons
    rw [hdrop] at hcons
    subst hcons
    split
    · rename_i hnone
      rw [htoken] at hnone
      cases hnone
    · rename_i t' rest' hsome
      rw [htoken] at hsome
      obtain ⟨rfl, rfl⟩ := Prod.mk.inj (Option.some.inj hsome)
      rfl

theorem Machine.run_gap {gap : List Char} (hgap : ∀ c ∈ gap, isGap c = true) (m : Machine) :
    m.run gap = some m := by
  have hdrop : gap.dropWhile isGap = [] := List.dropWhile_eq_nil_iff.2 hgap
  have hnext : Token.next? gap = some none := by
    rw [Token.next?]
    split
    · rfl
    · rename_i hcons
      rw [hdrop] at hcons
      cases hcons
  rw [Machine.run, hnext]

theorem Machine.run_token {t : Token} {gap : List Char} (hgap : ∀ c ∈ gap, isGap c = true)
    (htoken : token? s = some (t, rest)) (m : Machine) :
    m.run (gap ++ s) = (m.feed t).bind fun m => m.run rest := by
  obtain ⟨hlength, hnext⟩ := next?_of_token? hgap htoken
  rw [Machine.run, hnext]
  dsimp only
  cases m.feed t <;> rfl

/-- **Reading a text is feeding its tokens to the machine.** -/
theorem Holds.run {ts : List Token} (h : Holds ts s) (m : Machine) :
    m.run s = m.feedAll ts := by
  induction h generalizing m with
  | nil hgap => exact Machine.run_gap hgap m
  | @cons t ts gap s rest hgap htoken _ ih =>
    rw [Machine.run_token hgap htoken, Machine.feedAll_cons]
    exact Option.bind_congr fun m _ => ih m

end DocLint.Json

import DocLint.Proofs.Json

/-!
# The grammar of JSON

A value can be written in many texts: gaps may stand around values, keys and within empty brackets,
a character of a string may be escaped in more than one way, and a number may have a fraction and an
exponent. `Json.Written v cs` says that the characters `cs` are a text of the value `v`, by the
grammar alone. A string in which half of a surrogate pair stands alone is well formed too, but its
text is absent. The main statement is that every text of a value is read as that value
(`Json.parse_of_written`).
-/

namespace DocLint.Json

/-! ## The grammar -/

/-- One or more digits. -/
def IsDigits (ds : List Char) : Prop := ds ≠ [] ∧ ∀ d ∈ ds, d.isDigit = true

/-- The part of a number behind the point, with the point, or nothing. -/
inductive IsFraction : List Char → Prop
  | none : IsFraction []
  | digits {ds : List Char} (h : IsDigits ds) : IsFraction ('.' :: ds)

/-- The exponent of a number, or nothing. -/
inductive IsExponent : List Char → Prop
  | none : IsExponent []
  | digits {e : Char} {sign ds : List Char} (he : e = 'e' ∨ e = 'E')
      (hsign : sign = [] ∨ sign = ['+'] ∨ sign = ['-']) (h : IsDigits ds) :
      IsExponent (e :: (sign ++ ds))

/-- A number as it is written: no other digit follows a zero at its start. -/
inductive IsLiteral : List Char → Prop
  | mk {sign whole fraction exponent : List Char} (hsign : sign = [] ∨ sign = ['-'])
      (hwhole : IsDigits whole) (hzero : whole.head? = some '0' → whole = ['0'])
      (hfraction : IsFraction fraction) (hexponent : IsExponent exponent) :
      IsLiteral (sign ++ whole ++ fraction ++ exponent)

/-- A hexadecimal digit, in either case, with its value. -/
def IsHexDigit (c : Char) (n : Nat) : Prop :=
  n < 16 ∧ (c = Nat.digitChar n ∨ c = (Nat.digitChar n).toUpper)

instance (c : Char) (n : Nat) : Decidable (IsHexDigit c n) :=
  inferInstanceAs (Decidable (_ ∧ _))

/-- Four hexadecimal digits with their value. -/
inductive IsHexUnit : Nat → List Char → Prop
  | mk {a b c d : Char} {k l m n : Nat} (ha : IsHexDigit a k) (hb : IsHexDigit b l)
      (hc : IsHexDigit c m) (hd : IsHexDigit d n) :
      IsHexUnit (((16 * k + l) * 16 + m) * 16 + n) [a, b, c, d]

/-- The letters that escape a character behind a backslash, each with that character. -/
def shortEscapes : List (Char × Char) :=
  [('"', '"'), ('\\', '\\'), ('/', '/'), ('b', '\x08'), ('f', '\x0c'), ('n', '\n'), ('r', '\r'),
   ('t', '\t')]

/-- What may be written for a unit of a string: a code point, or half of a surrogate pair. -/
inductive UnitWritten : Nat → List Char → Prop
  | plain {c : Char} (hquote : c ≠ '"') (hslash : c ≠ '\\') (hcontrol : 0x20 ≤ c.toNat) :
      UnitWritten c.toNat [c]
  | short {letter c : Char} (h : (letter, c) ∈ shortEscapes) :
      UnitWritten c.toNat ['\\', letter]
  | hex {u : Nat} {ds : List Char} (h : IsHexUnit u ds) : UnitWritten u ('\\' :: 'u' :: ds)

/-- What may be written for the units of a string, one after the other. -/
inductive UnitsWritten : List Nat → List Char → Prop
  | nil : UnitsWritten [] []
  | cons {u : Nat} {us : List Nat} {piece cs : List Char} (hu : UnitWritten u piece)
      (h : UnitsWritten us cs) : UnitsWritten (u :: us) (piece ++ cs)

/-- The first half of the surrogate pair of a character. -/
def highHalf (c : Char) : Nat := 0xD800 + (c.toNat - 0x10000) / 0x400

/-- The second half of the surrogate pair of a character. -/
def lowHalf (c : Char) : Nat := 0xDC00 + (c.toNat - 0x10000) % 0x400

/-- Units that stand for the characters of a text: each character is one unit, or a surrogate pair
if it lies beyond the code points of four digits. -/
inductive StandFor : List Nat → List Char → Prop
  | nil : StandFor [] []
  | one {us : List Nat} {s : List Char} (c : Char) (h : StandFor us s) :
      StandFor (c.toNat :: us) (c :: s)
  | pair {us : List Nat} {s : List Char} (c : Char) (hc : 0x10000 ≤ c.toNat) (h : StandFor us s) :
      StandFor (highHalf c :: lowHalf c :: us) (c :: s)

/-- A string with its quotes. Its text is absent if its units stand for none. -/
inductive StringWritten : Option String → List Char → Prop
  | text {us : List Nat} {cs : List Char} {s : String} (hunits : UnitsWritten us cs)
      (h : StandFor us s.toList) : StringWritten (some s) ('"' :: (cs ++ ['"']))
  | noText {us : List Nat} {cs : List Char} (hunits : UnitsWritten us cs)
      (h : ∀ s, ¬StandFor us s) : StringWritten none ('"' :: (cs ++ ['"']))

/-- A key with gaps around it. -/
inductive KeyWritten (key : Option String) : List Char → Prop
  | mk {before cs after : List Char} (hbefore : ∀ c ∈ before, isGap c = true)
      (hafter : ∀ c ∈ after, isGap c = true) (h : StringWritten key cs) :
      KeyWritten key (before ++ cs ++ after)

/-- A value in a text. Between the brackets of an array and the braces of an object there is a gap,
in which the items and members stand with commas between them, if there are any. -/
inductive Written : Json → List Char → Prop
  | null : Written .null ['n', 'u', 'l', 'l']
  | true : Written (.bool .true) ['t', 'r', 'u', 'e']
  | false : Written (.bool .false) ['f', 'a', 'l', 's', 'e']
  | number {literal : List Char} (h : IsLiteral literal) : Written (.number literal) literal
  | string {text : Option String} {cs : List Char} (h : StringWritten text cs) :
      Written (.string text) cs
  | array {gap : List Char} {items : List (Json × List Char)} (hgap : ∀ c ∈ gap, isGap c = true)
      (hitems : ∀ p ∈ items, Written p.1 p.2) : Written (.array (items.map Prod.fst))
        ('[' :: (gap ++ [','].intercalate (items.map Prod.snd) ++ [']']))
  | object {gap : List Char} {members : List ((Option String × List Char) × Json × List Char)}
      (hgap : ∀ c ∈ gap, isGap c = true) (hkeys : ∀ p ∈ members, KeyWritten p.1.1 p.1.2)
      (hvalues : ∀ p ∈ members, Written p.2.1 p.2.2) :
      Written (.object (members.map fun p => (p.1.1, p.2.1)))
        ('{' :: (gap ++ [','].intercalate (members.map fun p => p.1.2 ++ ':' :: p.2.2) ++ ['}']))
  | gaps {v : Json} {before cs after : List Char} (hbefore : ∀ c ∈ before, isGap c = true)
      (hafter : ∀ c ∈ after, isGap c = true) (h : Written v cs) :
      Written v (before ++ cs ++ after)

/-! ## Numbers -/

variable {ds cs rest : List Char} {us : List Nat} {u : Nat}

/-- Digits are read up to a character that is none. -/
theorem IsDigits.read (h : IsDigits ds) (hrest : ∀ c ∈ rest.head?, c.isDigit = false) :
    digits? (ds ++ rest) = some (ds, rest) := by
  obtain ⟨hne, hdigit⟩ := h
  have htake : rest.takeWhile Char.isDigit = [] := by
    cases rest with
    | nil => rfl
    | cons c rest => rw [List.takeWhile_cons, hrest c rfl, if_neg Bool.false_ne_true]
  have hdrop : rest.dropWhile Char.isDigit = rest := by
    cases rest with
    | nil => rfl
    | cons c rest => rw [List.dropWhile_cons, hrest c rfl, if_neg Bool.false_ne_true]
  have hempty : ¬ds.isEmpty = true := by rwa [List.isEmpty_iff]
  rw [digits?, List.takeWhile_append_of_pos hdigit, List.dropWhile_append_of_pos hdigit, htake,
    hdrop, List.append_nil, if_neg hempty]

theorem IsDigits.head_isDigit (h : IsDigits ds) : ∀ c ∈ (ds ++ rest).head?, c.isDigit = true := by
  obtain ⟨hne, hdigit⟩ := h
  cases ds with
  | nil => exact absurd rfl hne
  | cons d ds =>
    intro c hc
    rw [← Option.some.inj hc]
    exact hdigit d List.mem_cons_self

theorem IsExponent.read (h : IsExponent cs) : exponent? cs = some (cs, []) := by
  cases h with
  | none => rfl
  | @digits e sign ds he hsign hds =>
    have hdigits : digits? ds = some (ds, []) := by
      have hread : digits? (ds ++ []) = some (ds, []) :=
        hds.read fun c hc => absurd hc (Option.not_mem_none c)
      rwa [List.append_nil] at hread
    have hexp : (e == 'e' || e == 'E') = true := by
      rcases he with rfl | rfl <;> rfl
    have hpart : exponentSign (sign ++ ds) = (sign, ds) := by
      rcases hsign with rfl | rfl | rfl
      · -- digits start with no sign
        have hsign : ∀ c r, c.isDigit = false → [] ++ ds ≠ c :: r := by
          intro c r hc heq
          have hhead : c ∈ (ds ++ []).head? := by
            rw [List.append_nil, ← List.nil_append ds, heq]
            rfl
          rw [hds.head_isDigit c hhead] at hc
          cases hc
        exact exponentSign.eq_3 _ (fun r => hsign '+' r rfl) (fun r => hsign '-' r rfl)
      · rfl
      · rfl
    rw [exponent?, if_pos hexp, hpart]
    dsimp only
    rw [hdigits]
    rfl

/-- An exponent starts with no digit and with no point. -/
theorem IsExponent.head (h : IsExponent cs) : ∀ c ∈ cs.head?, c.isDigit = false ∧ c ≠ '.' := by
  intro c hc
  cases h with
  | none => cases hc
  | digits he =>
    rw [← Option.some.inj hc]
    rcases he with rfl | rfl <;> decide

theorem IsFraction.read (h : IsFraction cs) (hrest : IsExponent rest) :
    fraction? (cs ++ rest) = some (cs, rest) := by
  cases h with
  | none =>
    rw [List.nil_append]
    refine fraction?.eq_2 _ fun digits heq => ?_
    subst heq
    exact (hrest.head '.' rfl).2 rfl
  | digits hds =>
    rw [List.cons_append, fraction?, hds.read fun c hc => (hrest.head c hc).1]
    rfl

theorem IsFraction.head (h : IsFraction cs) (hrest : IsExponent rest) :
    ∀ c ∈ (cs ++ rest).head?, c.isDigit = false := by
  cases h with
  | none => exact fun c hc => (hrest.head c hc).1
  | digits =>
    intro c hc
    rw [← Option.some.inj hc]
    rfl

/-- **What the grammar has for numbers is read as such.** -/
theorem IsLiteral.isNumber (h : IsLiteral cs) : IsNumber cs := by
  obtain @⟨sign, whole, fraction, exponent, hsign, hwhole, hzero, hfraction, hexponent⟩ := h
  have hminus : minusSign (sign ++ (whole ++ (fraction ++ exponent))) =
      (sign, whole ++ (fraction ++ exponent)) := by
    rcases hsign with rfl | rfl
    · -- a digit is no sign
      refine minusSign.eq_2 _ fun r hr => ?_
      have hhead : '-' ∈ (whole ++ (fraction ++ exponent)).head? := by
        rw [← List.nil_append (whole ++ (fraction ++ exponent)), hr]
        rfl
      exact absurd (hwhole.head_isDigit '-' hhead) (by decide)
    · rfl
  have hwholePart : wholePart? (whole ++ (fraction ++ exponent)) =
      some (whole, fraction ++ exponent) := by
    have hone : ¬(whole.head? == some '0' && whole.length != 1) = true := by
      rw [Bool.and_eq_true, beq_iff_eq, bne_iff_ne]
      rintro ⟨hhead, hlength⟩
      rw [hzero hhead] at hlength
      exact hlength rfl
    rw [wholePart?, hwhole.read (hfraction.head hexponent)]
    dsimp only [Option.bind_eq_bind, Option.bind_some]
    rw [if_neg hone]
    rfl
  have htext : sign ++ whole ++ fraction ++ exponent =
      sign ++ (whole ++ (fraction ++ exponent)) := by simp only [List.append_assoc]
  rw [IsNumber, htext, number?, hminus]
  dsimp only
  rw [hwholePart]
  dsimp only [Option.bind_eq_bind, Option.bind_some]
  rw [hfraction.read hexponent]
  dsimp only [Option.bind_some]
  rw [hexponent.read]
  dsimp only [Option.bind_some]
  rw [← htext]
  rfl

/-! ## Strings -/

theorem IsHexDigit.read {c : Char} {n : Nat} (h : IsHexDigit c n) : Text.hexDigit? c = some n := by
  have hlower : ∀ n < 16, Text.hexDigit? (Nat.digitChar n) = some n := by decide
  have hupper : ∀ n < 16, Text.hexDigit? (Nat.digitChar n).toUpper = some n := by decide
  obtain ⟨hn, rfl | rfl⟩ := h
  · exact hlower n hn
  · exact hupper n hn

/-- A unit is read from what is written for it, and stands for a code point or for half of one. -/
theorem UnitWritten.read (h : UnitWritten u cs) (rest : List Char) :
    stringBody? (cs ++ rest) = (stringBody? rest).map fun p => (u :: p.1, p.2) := by
  cases h with
  | plain hquote hslash hcontrol =>
    exact stringBody?_of_plain hquote hslash (Nat.not_lt.2 hcontrol) rest
  | @short letter c h =>
    have hletters : ∀ p ∈ shortEscapes, shortEscape? p.1 = some p.2.toNat := by decide
    exact stringBody?_of_shortEscape? (hletters _ h) rest
  | hex h =>
    obtain ⟨ha, hb, hc, hd⟩ := h
    refine stringBody?_of_hexUnit? ?_ rest
    rw [hexUnit?, ha.read, hb.read, hc.read, hd.read]
    simp only [Option.bind_eq_bind, Option.bind_some, Option.pure_def, Option.some.injEq]
    omega

theorem UnitsWritten.read (h : UnitsWritten us cs) (rest : List Char) :
    stringBody? (cs ++ '"' :: rest) = some (us, rest) := by
  induction h with
  | nil => rw [List.nil_append, stringBody?]
  | cons hu _ ih =>
    rw [List.append_assoc, hu.read, ih]
    rfl

/-- A unit is no greater than the code points. -/
theorem UnitWritten.lt (h : UnitWritten u cs) : u < 0x110000 := by
  have hchar : ∀ c : Char, c.toNat < 0x110000 := by
    intro c
    have hvalid : c.toNat < 0xD800 ∨ 0xDFFF < c.toNat ∧ c.toNat < 0x110000 := c.valid
    omega
  cases h with
  | plain => exact hchar _
  | short => exact hchar _
  | hex h =>
    obtain ⟨⟨ha, -⟩, ⟨hb, -⟩, ⟨hc, -⟩, ⟨hd, -⟩⟩ := h
    omega

theorem UnitsWritten.lt (h : UnitsWritten us cs) : ∀ u ∈ us, u < 0x110000 := by
  induction h with
  | nil => exact List.forall_mem_nil _
  | cons hu _ ih => exact List.forall_mem_cons.2 ⟨hu.lt, ih⟩

theorem isHighHalf_iff : isHighHalf u = true ↔ 0xD800 ≤ u ∧ u < 0xDC00 := by
  simp [isHighHalf]

theorem isLowHalf_iff : isLowHalf u = true ↔ 0xDC00 ≤ u ∧ u < 0xE000 := by
  simp [isLowHalf]

/-- A character is found from its surrogate pair. -/
theorem ofNat_halves {c : Char} (hc : 0x10000 ≤ c.toNat) :
    Char.ofNat (0x10000 + 0x400 * (highHalf c - 0xD800) + (lowHalf c - 0xDC00)) = c := by
  have hcode : 0x10000 + 0x400 * (highHalf c - 0xD800) + (lowHalf c - 0xDC00) = c.toNat := by
    simp only [highHalf, lowHalf]
    omega
  rw [hcode, Char.ofNat_toNat]

theorem isHighHalf_highHalf {c : Char} (hc : 0x10000 ≤ c.toNat) :
    isHighHalf (highHalf c) = true := by
  have hvalid : c.toNat < 0xD800 ∨ 0xDFFF < c.toNat ∧ c.toNat < 0x110000 := c.valid
  rw [isHighHalf_iff, highHalf]
  omega

theorem isLowHalf_lowHalf (c : Char) : isLowHalf (lowHalf c) = true := by
  rw [isLowHalf_iff, lowHalf]
  omega

/-- Units are joined to the characters for which they stand. -/
theorem StandFor.join {s : List Char} (h : StandFor us s) : joinHalves? us = some s := by
  induction h with
  | nil => rfl
  | @one us s c h ih =>
    obtain ⟨hhigh, hlow⟩ := isHalf_toNat c
    cases us with
    | nil =>
      cases h
      simp [joinHalves?, hhigh, hlow]
    | cons v us =>
      rw [joinHalves?, ih, hhigh, hlow]
      simp
  | pair c hc _ ih =>
    rw [joinHalves?, isHighHalf_highHalf hc, isLowHalf_lowHalf, ih]
    simp [ofNat_halves hc]

theorem toNat_ofNat_of_isValidChar (h : u.isValidChar) : (Char.ofNat u).toNat = u := by
  rw [Char.ofNat, dif_pos h]
  rfl

/-- A unit that is no half stands for a character. -/
theorem toNat_ofNat_of_not_half (hhigh : ¬isHighHalf u = true) (hlow : ¬isLowHalf u = true)
    (hu : u < 0x110000) : (Char.ofNat u).toNat = u := by
  rw [isHighHalf_iff] at hhigh
  rw [isLowHalf_iff] at hlow
  apply toNat_ofNat_of_isValidChar
  rw [Nat.isValidChar]
  omega

/-- What units are joined to is what they stand for. -/
theorem standFor_of_join {s : List Char} (hus : ∀ u ∈ us, u < 0x110000)
    (h : joinHalves? us = some s) : StandFor us s := by
  fun_induction joinHalves? us generalizing s with
  | case1 =>
    cases h
    exact .nil
  | case2 u hhalf => cases h
  | case3 u hhalf =>
    cases h
    have hu := hus u List.mem_cons_self
    rw [Bool.or_eq_true, not_or] at hhalf
    have hone := StandFor.one (Char.ofNat u) .nil
    rwa [toNat_ofNat_of_not_half hhalf.1 hhalf.2 hu] at hone
  | case4 u v rest hhigh hlow ih =>
    rw [Option.bind_eq_bind, Option.bind_eq_some_iff] at h
    obtain ⟨cs, hcs, h⟩ := h
    cases h
    have hrest := ih (fun w hw => hus w (by simp [hw])) hcs
    rw [isHighHalf_iff] at hhigh
    rw [isLowHalf_iff] at hlow
    set n := 0x10000 + 0x400 * (u - 0xD800) + (v - 0xDC00) with hn
    have hcode : (Char.ofNat n).toNat = n := by
      apply toNat_ofNat_of_isValidChar
      rw [Nat.isValidChar]
      omega
    have hpair := StandFor.pair (Char.ofNat n) (by omega) hrest
    have hu : highHalf (Char.ofNat n) = u := by
      rw [highHalf, hcode]
      omega
    have hv : lowHalf (Char.ofNat n) = v := by
      rw [lowHalf, hcode]
      omega
    rwa [hu, hv] at hpair
  | case5 => cases h
  | case6 => cases h
  | case7 u v rest hhigh hlow ih =>
    rw [Option.bind_eq_bind, Option.bind_eq_some_iff] at h
    obtain ⟨cs, hcs, h⟩ := h
    cases h
    have hrest := ih (fun w hw => hus w (List.mem_cons_of_mem _ hw)) hcs
    have hone := StandFor.one (Char.ofNat u) hrest
    rwa [toNat_ofNat_of_not_half hhigh hlow (hus u List.mem_cons_self)] at hone

/-- **A string is read from any of its texts.** -/
theorem StringWritten.carries {text : Option String} (h : StringWritten text cs) :
    Carries [.string text] cs := by
  intro ts rest _ hrest
  refine .token ?_ hrest
  cases h with
  | @text us cs s hunits hstand =>
    rw [List.cons_append, List.append_assoc, List.singleton_append, token?, hunits.read]
    dsimp only [Option.map_some]
    rw [hstand.join, Option.map_some, String.ofList_toList]
  | @noText us cs hunits hnone =>
    have hjoin : joinHalves? us = none := by
      rw [Option.eq_none_iff_forall_ne_some]
      exact fun s hs => hnone s (standFor_of_join hunits.lt hs)
    rw [List.cons_append, List.append_assoc, List.singleton_append, token?, hunits.read]
    dsimp only [Option.map_some]
    rw [hjoin]
    rfl

/-- Whether a character may stand in a string without an escape. -/
def isPlain (c : Char) : Bool := c != '"' && c != '\\' && 0x20 ≤ c.toNat

/-- A text in which nothing must be escaped may be written as it is. -/
theorem stringWritten_of_isPlain {s : String} (h : ∀ c ∈ s.toList, isPlain c = true) :
    StringWritten (some s) ('"' :: (s.toList ++ ['"'])) := by
  have hunits : ∀ cs : List Char, (∀ c ∈ cs, isPlain c = true) →
      UnitsWritten (cs.map Char.toNat) cs ∧ StandFor (cs.map Char.toNat) cs := by
    intro cs hcs
    induction cs with
    | nil => exact ⟨.nil, .nil⟩
    | cons c cs ih =>
      obtain ⟨hc, hrest⟩ := List.forall_mem_cons.1 hcs
      obtain ⟨hwritten, hstand⟩ := ih hrest
      simp only [isPlain, Bool.and_eq_true, bne_iff_ne, decide_eq_true_eq] at hc
      obtain ⟨⟨hquote, hslash⟩, hcontrol⟩ := hc
      exact ⟨.cons (.plain hquote hslash hcontrol) hwritten, .one c hstand⟩
  obtain ⟨hwritten, hstand⟩ := hunits s.toList h
  exact .text hwritten hstand

/-! ## Values -/

theorem KeyWritten.of_string {key : Option String} (h : StringWritten key cs) :
    KeyWritten key cs := by
  have hkey : KeyWritten key ([] ++ cs ++ []) :=
    .mk (List.forall_mem_nil _) (List.forall_mem_nil _) h
  rwa [List.nil_append, List.append_nil] at hkey

theorem KeyWritten.carries {key : Option String} (h : KeyWritten key cs) :
    Carries [.string key] cs := by
  obtain ⟨hbefore, hafter, h⟩ := h
  exact (h.carries.gap_append hbefore).append_gap hafter

/-- Of a text of a value, the tokens of that value are read. -/
theorem Written.carries {v : Json} (h : Written v cs) : Carries (tokens v) cs := by
  induction h with
  | null => exact carries_null
  | true => exact carries_bool .true
  | false => exact carries_bool .false
  | number h => exact h.isNumber.carries
  | string h => exact h.carries
  | @array gap items hgap _ ih =>
    rw [tokens, itemTokens_eq, List.map_map]
    refine .between .openBracket .closeBracket (.gap_append ?_ hgap)
    exact carries_intercalate ih
  | @object gap members hgap hkeys _ ih =>
    rw [tokens, memberTokens_eq, List.map_map]
    refine .between .openBrace .closeBrace (.gap_append ?_ hgap)
    exact carries_intercalate fun p hp => .mark .colon (hkeys p hp).carries (ih p hp)
  | gaps hbefore hafter _ ih => exact (ih.gap_append hbefore).append_gap hafter

/-- **A value is read from any of its texts.** -/
theorem parse_of_written {v : Json} {text : String} (h : Written v text.toList) :
    parse text = some v := by
  have hread : parse ("" ++ String.ofList text.toList ++ "") = some v :=
    h.carries.parse (List.forall_mem_nil _) (List.forall_mem_nil _)
  rwa [String.empty_append, String.append_empty, String.ofList_toList] at hread

end DocLint.Json

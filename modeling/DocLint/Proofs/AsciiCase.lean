import DocLint.Proofs.Lowercase

/-!
# Lower case in ASCII

ASCII characters are lowercased one by one, whatever stands around them
(`lowercaseAfter_of_isAscii`). Other characters do not become ASCII: the images of the table are
code points from U+0080 up, but for that of the Kelvin sign, which becomes a `k`, and `İ` becomes an
`i` with a dot that is not ASCII behind it. So the lower case of a text is a given word of plain
characters exactly if the text is that word up to the case of the letters of ASCII
(`lowercase_eq_iff`).
-/

namespace DocLint.Unicode

/-- Whether a character is in ASCII. -/
def IsAscii (c : Char) : Prop := c.toNat < 0x80

/-- Whether a character is in ASCII, and only characters in ASCII become it when they are
lowercased. -/
def IsPlain (c : Char) : Prop := IsAscii c ∧ c ≠ 'k'

instance (c : Char) : Decidable (IsAscii c) := inferInstanceAs (Decidable (_ < _))

instance (c : Char) : Decidable (IsPlain c) := inferInstanceAs (Decidable (_ ∧ _))

variable {c : Char} {before after s : List Char}

/-! ## Images of the table -/

/-- The images of a run are code points from U+0080 up, or the run is the Kelvin sign. -/
theorem Table.images_lowercase : Table.lowercase.all (fun r =>
    (r.1 == r.2.1 && r.2.2.2 == 0x6B) ||
      (Nat.ble 0x80 r.2.2.2 && (Nat.blt (r.2.2.2 + (r.2.1 - r.1)) 0xD800 ||
        Nat.blt 0xDFFF r.2.2.2 && Nat.blt (r.2.2.2 + (r.2.1 - r.1)) 0x110000))) = true := by
  decide +kernel

theorem not_isPlain_ofNat_image {n : Nat} (h : Table.lowercase.image? c.toNat = some n) :
    ¬IsPlain (Char.ofNat n) := by
  obtain ⟨r, hr, hn, rfl⟩ := RunMap.image?_eq_some h
  have himages := List.all_eq_true.1 Table.images_lowercase r hr
  simp only [inRun, Bool.and_eq_true, decide_eq_true_eq] at hn
  simp only [Bool.or_eq_true, Bool.and_eq_true, beq_iff_eq, Nat.ble_eq, Nat.blt_eq] at himages
  rcases himages with ⟨hone, hk⟩ | ⟨hfirst, hrange⟩
  · have hk : r.2.2.2 + (c.toNat - r.1) = 0x6B := by omega
    rw [hk]
    exact fun h => h.2 rfl
  · rintro ⟨hascii, -⟩
    rw [IsAscii, Char.toNat_ofNat, if_pos (by simp only [Nat.isValidChar]; omega)] at hascii
    omega

/-! ## Characters -/

theorem isAscii_toLower_iff : IsAscii c.toLower ↔ IsAscii c := by
  by_cases hupper : c.isUpper
  · have hc : IsAscii c := by
      have hz : 'Z'.toNat = 90 := rfl
      simp only [Char.isUpper, decide_eq_true_eq, UInt32.le_iff_toNat_le, Char.toNat_val] at hupper
      simp only [IsAscii]
      omega
    exact iff_of_true (toNat_toLower_lt hc) hc
  · rw [Char.toLower_eq_of_not_isUpper hupper]

theorem lowerChar_of_isAscii (h : IsAscii c) : lowerChar c = c.toLower := if_pos h

theorem isAscii_of_isPlain_lowerChar (h : IsPlain (lowerChar c)) : IsAscii c := by
  unfold lowerChar at h
  split at h
  · assumption
  · split at h
    · rename_i himage
      exact absurd h (not_isPlain_ofNat_image himage)
    · exact h.1

theorem lowerBetween_of_isAscii (h : IsAscii c) : lowerBetween before c after = [c.toLower] := by
  have hsigma : c ≠ 'Σ' := by
    rintro rfl
    exact absurd h (by decide)
  have hdotted : c ≠ 'İ' := by
    rintro rfl
    exact absurd h (by decide)
  simp only [lowerBetween, beq_iff_eq, hsigma, hdotted, if_false, lowerChar_of_isAscii h]

theorem isAscii_of_lowerBetween (h : ∀ d ∈ lowerBetween before c after, IsPlain d) :
    IsAscii c := by
  unfold lowerBetween at h
  split at h
  · split at h <;> exact absurd (h _ List.mem_cons_self) (by decide)
  · split at h
    · exact absurd (h '\u0307' (by simp)) (by decide)
    · exact isAscii_of_isPlain_lowerChar (h _ List.mem_cons_self)

/-! ## Texts -/

theorem lowercaseAfter_of_isAscii (h : ∀ c ∈ s, IsAscii c) :
    lowercaseAfter before s = s.map Char.toLower := by
  induction s generalizing before with
  | nil => rfl
  | cons c rest ih =>
    rw [List.forall_mem_cons] at h
    rw [lowercaseAfter, lowerBetween_of_isAscii h.1, ih h.2]
    rfl

theorem isAscii_of_lowercaseAfter (h : ∀ d ∈ lowercaseAfter before s, IsPlain d) :
    ∀ c ∈ s, IsAscii c := by
  induction s generalizing before with
  | nil => exact List.forall_mem_nil _
  | cons c rest ih =>
    rw [lowercaseAfter, List.forall_mem_append] at h
    exact List.forall_mem_cons.2 ⟨isAscii_of_lowerBetween h.1, ih h.2⟩

/-- **Up to plain characters, the lower case of a text is that of its ASCII letters.** -/
theorem lowercase_eq_iff {s word : String} (h : word.toList.all (fun d => IsPlain d) = true) :
    lowercase s = word ↔ s.toList.map Char.toLower = word.toList := by
  simp only [List.all_eq_true, decide_eq_true_eq] at h
  rw [← String.toList_inj, toList_lowercase, lowercaseChars]
  constructor
  · intro heq
    rw [← heq] at h ⊢
    exact (lowercaseAfter_of_isAscii (isAscii_of_lowercaseAfter h)).symm
  · intro heq
    rw [← heq]
    refine lowercaseAfter_of_isAscii fun c hc => isAscii_toLower_iff.1 ?_
    exact (h _ (heq ▸ List.mem_map_of_mem hc)).1

end DocLint.Unicode

namespace DocLint.Text

/-- A flag is raised by the word `true`, in the lower case of all letters there are. -/
theorem isTrue_iff {v : String} : isTrue v = true ↔ Unicode.lowercase (trim v) = "true" := by
  have hplain : "true".toList.all (fun d => Unicode.IsPlain d) = true := by decide
  rw [Unicode.lowercase_eq_iff hplain, toList_trim]
  exact beq_iff_eq

end DocLint.Text

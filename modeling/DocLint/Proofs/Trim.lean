import DocLint.Text.Space
import Mathlib.Data.List.DropRight
import Mathlib.Data.List.TakeWhile

/-!
# Trimmed texts

Trimming leaves nothing of a blank text, and what it leaves of another neither starts nor ends with
white space. So white space in a trimmed text stands between other characters
(`trimChars_split`).
-/

namespace DocLint.Text

variable {s t : List Char} {c : Char}

theorem trimChars_eq_nil_iff : trimChars s = [] ↔ ∀ c ∈ s, isSpace c = true := by
  unfold trimChars trimEnd trimStart
  rw [List.reverse_eq_nil_iff, List.dropWhile_eq_nil_iff]
  simp only [List.mem_reverse]
  constructor
  · intro h c hc
    rw [← List.takeWhile_append_dropWhile (p := isSpace) (l := s), List.mem_append] at hc
    exact hc.elim (fun hc => List.mem_takeWhile_imp hc) (h c)
  · exact fun h c hc => h c ((List.dropWhile_suffix _).subset hc)

theorem trim_eq_empty_iff {s : String} : trim s = "" ↔ isBlank s = true := by
  rw [← String.toList_inj, toList_trim, isBlank, List.all_eq_true]
  exact trimChars_eq_nil_iff

theorem trimChars_of_trim {s : String} (h : trim s = s) : trimChars s.toList = s.toList := by
  rw [← toList_trim, h]

theorem trimChars_cons_of_isSpace (h : isSpace c = true) : trimChars (c :: s) = trimChars s := by
  rw [trimChars, trimStart, List.dropWhile_cons_of_pos h]
  rfl

theorem trimEnd_eq_rdropWhile (s : List Char) : trimEnd s = s.rdropWhile isSpace := rfl

/-! ## White space at the ends -/

theorem trimStart_append_of_isSpace (h : ∀ c ∈ t, isSpace c = true) (s : List Char) :
    trimStart (t ++ s) = trimStart s := by
  rw [trimStart, List.dropWhile_append_of_pos h]
  rfl

theorem trimEnd_append_of_isSpace (h : ∀ c ∈ t, isSpace c = true) (s : List Char) :
    trimEnd (s ++ t) = trimEnd s := by
  have hrev : ∀ c ∈ t.reverse, isSpace c = true := fun c hc => h c (List.mem_reverse.1 hc)
  rw [trimEnd, List.reverse_append, List.dropWhile_append_of_pos hrev]
  rfl

/-- White space behind a text does not matter, not even if the text is blank. -/
theorem trimChars_append_of_isSpace (h : ∀ c ∈ t, isSpace c = true) (s : List Char) :
    trimChars (s ++ t) = trimChars s := by
  by_cases hs : ∀ c ∈ s, isSpace c = true
  · rw [trimChars_eq_nil_iff.2 hs, trimChars_eq_nil_iff]
    intro c hc
    exact (List.mem_append.1 hc).elim (hs c) (h c)
  · have hne : s.dropWhile isSpace ≠ [] := by
      rw [Ne, List.dropWhile_eq_nil_iff]
      exact hs
    have hstart : trimStart (s ++ t) = trimStart s ++ t := by
      rw [trimStart, List.dropWhile_append, if_neg (by simpa using hne)]
      rfl
    rw [trimChars, hstart, trimEnd_append_of_isSpace h]
    rfl

/-- White space around a text does not matter. -/
theorem trimChars_around {left right : List Char} (hl : ∀ c ∈ left, isSpace c = true)
    (hr : ∀ c ∈ right, isSpace c = true) (s : List Char) :
    trimChars (left ++ s ++ right) = trimChars s := by
  rw [trimChars_append_of_isSpace hr, trimChars, trimStart_append_of_isSpace hl]
  rfl

/-- What trimming takes off is white space. -/
theorem exists_trimChars_around (s : List Char) :
    ∃ left right, s = left ++ trimChars s ++ right ∧ (∀ c ∈ left, isSpace c = true) ∧
      ∀ c ∈ right, isSpace c = true := by
  refine ⟨s.takeWhile isSpace, (trimStart s).rtakeWhile isSpace, ?_,
    fun _ => List.mem_takeWhile_imp, fun _ => List.mem_rtakeWhile_imp⟩
  rw [List.append_assoc, trimChars, trimEnd_eq_rdropWhile, List.rdropWhile_append_rtakeWhile,
    trimStart, List.takeWhile_append_dropWhile]

theorem mem_of_mem_trimChars (h : c ∈ trimChars s) : c ∈ s := by
  obtain ⟨left, right, hs, -⟩ := exists_trimChars_around s
  rw [hs]
  exact List.mem_append_left _ (List.mem_append_right _ h)

/-! ## Both ends of a trimmed text -/

/-- A trimmed text does not start with white space. -/
theorem isSpace_head_of_trimChars (h : trimChars s = c :: t) : isSpace c = false := by
  have hpre : trimChars s <+: s.dropWhile isSpace := List.rdropWhile_prefix isSpace _
  obtain ⟨rest, hrest⟩ := h ▸ hpre
  have hne : s.dropWhile isSpace ≠ [] := by simp [← hrest]
  have hhead := List.head_dropWhile_not isSpace hne
  simpa [← hrest] using hhead

/-- A trimmed text does not end with white space. -/
theorem isSpace_last_of_trimChars (h : trimChars s = t ++ [c]) : isSpace c = false := by
  have hlast := List.rdropWhile_last_not isSpace (trimStart s)
  rw [← trimEnd_eq_rdropWhile, show trimEnd (trimStart s) = t ++ [c] from h] at hlast
  simpa using hlast (by simp)

/-- **A text is trimmed** if and only if it neither starts nor ends with white space. -/
theorem trimChars_eq_self_iff : trimChars s = s ↔
    (∀ c ∈ s.head?, isSpace c = false) ∧ ∀ c ∈ s.getLast?, isSpace c = false := by
  constructor
  · intro h
    constructor
    · intro c hc
      obtain ⟨t, rfl⟩ := List.head?_eq_some_iff.1 hc
      exact isSpace_head_of_trimChars h
    · intro c hc
      obtain ⟨t, rfl⟩ := List.getLast?_eq_some_iff.1 hc
      exact isSpace_last_of_trimChars h
  · rintro ⟨hhead, hlast⟩
    have hstart : trimStart s = s := by
      cases s with
      | nil => rfl
      | cons c s =>
        have hc : isSpace c = false := hhead c rfl
        rw [trimStart, List.dropWhile_cons_of_neg (by simp [hc])]
    rw [trimChars, hstart, trimEnd_eq_rdropWhile, List.rdropWhile_eq_self_iff]
    intro hne
    have hc := hlast (s.getLast hne) (List.getLast?_eq_some_getLast hne)
    simp [hc]

theorem trimChars_trimChars (s : List Char) : trimChars (trimChars s) = trimChars s := by
  rw [trimChars_eq_self_iff]
  constructor
  · intro c hc
    obtain ⟨t, ht⟩ := List.head?_eq_some_iff.1 hc
    exact isSpace_head_of_trimChars ht
  · intro c hc
    obtain ⟨t, ht⟩ := List.getLast?_eq_some_iff.1 hc
    exact isSpace_last_of_trimChars ht

/-- **White space in a trimmed text** has something in front of it, and something else than white
space behind it. -/
theorem trimChars_split {front back : List Char} (h : trimChars s = front ++ c :: back)
    (hc : isSpace c = true) : front ≠ [] ∧ trimChars back ≠ [] := by
  constructor
  · rintro rfl
    rw [isSpace_head_of_trimChars h] at hc
    cases hc
  · intro hback
    rw [trimChars_eq_nil_iff] at hback
    -- the last character of the trimmed text is `c` or one of `back`
    have hne : c :: back ≠ [] := by simp
    have hlast : trimChars s = (front ++ (c :: back).dropLast) ++ [(c :: back).getLast hne] := by
      rw [List.append_assoc, List.dropLast_append_getLast, h]
    have hmem : (c :: back).getLast hne ∈ c :: back := List.getLast_mem hne
    have hspace : isSpace ((c :: back).getLast hne) = true := by
      rcases List.mem_cons.1 hmem with heq | hmem
      · rw [heq]
        exact hc
      · exact hback _ hmem
    rw [isSpace_last_of_trimChars hlast] at hspace
    cases hspace

end DocLint.Text

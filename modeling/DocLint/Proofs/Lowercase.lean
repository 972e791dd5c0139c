import DocLint.Unicode.Lowercase
import Mathlib

/-!
# Lower case is settled

A text that was lowercased once stays as it is when it is lowercased again (`lowercase_lowercase`).
The reason is in the table: no image of a run lies in a run (`image?_image`), which is checked run
against run and not character by character. A character that no run changes is settled
(`IsSettled`). All characters of a lowercased text are settled, and a text of settled characters is
its own lower case, whatever stands around them.
-/

namespace DocLint.Unicode

/-! ## Runs whose images lie elsewhere -/

namespace RunMap

/-- Whether the images of the run `r` lie outside the run `q`. Either the two ranges do not meet, or
both go in steps of two and alternate. -/
def avoids (r q : Nat × Nat × Nat × Nat) : Bool :=
  q.2.1.blt r.2.2.2 || (r.2.2.2 + (r.2.1 - r.1)).blt q.1 ||
    ((r.2.2.1 == 2 || r.1 == r.2.1) && q.2.2.1 == 2 && (r.2.2.2 + q.1) % 2 == 1)

/-- Whether no run has an image in any run. -/
def isSettling (m : RunMap) : Bool := m.all fun r => m.all (avoids r)

theorem inRun_image_of_avoids {r q : Nat × Nat × Nat × Nat} (h : avoids r q = true) {n : Nat}
    (hn : inRun r.1 r.2.1 r.2.2.1 n = true) :
    inRun q.1 q.2.1 q.2.2.1 (r.2.2.2 + (n - r.1)) = false := by
  obtain ⟨first, last, step, image⟩ := r
  obtain ⟨first', last', step', image'⟩ := q
  simp only [inRun, Bool.and_eq_true, decide_eq_true_eq, beq_iff_eq] at hn
  obtain ⟨⟨h₁, h₂⟩, h₃⟩ := hn
  by_contra hc
  simp only [inRun, Bool.not_eq_false, Bool.and_eq_true, decide_eq_true_eq, beq_iff_eq] at hc
  obtain ⟨⟨h₄, h₅⟩, h₆⟩ := hc
  simp only [avoids, Bool.or_eq_true, Bool.and_eq_true, Nat.blt_eq, beq_iff_eq] at h
  rcases h with (h | h) | ⟨⟨rfl | rfl, rfl⟩, hp⟩
  · omega
  · omega
  · -- the distances from the starts of both runs are even, the one between the starts is odd
    omega
  · omega

theorem image?_eq_some {m : RunMap} {n k : Nat} (h : m.image? n = some k) :
    ∃ r ∈ m, inRun r.1 r.2.1 r.2.2.1 n = true ∧ k = r.2.2.2 + (n - r.1) := by
  obtain ⟨⟨first, last, step, image⟩, hr, h⟩ := List.exists_of_findSome?_eq_some h
  simp only [Option.ite_none_right_eq_some, Option.some.injEq] at h
  exact ⟨_, hr, h.1, h.2.symm⟩

theorem image?_eq_none {m : RunMap} {n : Nat} :
    m.image? n = none ↔ ∀ r ∈ m, inRun r.1 r.2.1 r.2.2.1 n = false := by
  simp [image?, List.findSome?_eq_none_iff]

/-- **What a run of a settling map sends somewhere stays there.** -/
theorem image?_image {m : RunMap} (hm : m.isSettling = true) {r : Nat × Nat × Nat × Nat}
    (hr : r ∈ m) {n : Nat} (hn : inRun r.1 r.2.1 r.2.2.1 n = true) :
    m.image? (r.2.2.2 + (n - r.1)) = none := by
  rw [image?_eq_none]
  intro q hq
  have hrq : avoids r q = true := List.all_eq_true.1 (List.all_eq_true.1 hm r hr) q hq
  exact inRun_image_of_avoids hrq hn

end RunMap

/-! ## Settled characters -/

/-- All that lowercasing changes: the capital letters of ASCII, `İ`, `Σ` and the runs of the
table. -/
def Table.changed : RunMap :=
  (0x41, 0x5A, 1, 0x61) :: (0x0130, 0x0130, 1, 0x69) :: (0x03A3, 0x03A3, 1, 0x03C3) ::
    Table.lowercase

theorem Table.isSettling_changed : Table.changed.isSettling = true := by decide +kernel

/-- Whether lowercasing leaves a character as it is. -/
def IsSettled (c : Char) : Prop := Table.changed.image? c.toNat = none

theorem inRun_self {n k : Nat} : inRun n n 1 k = (k == n) := by
  rw [Bool.eq_iff_iff]
  simp only [inRun, Nat.mod_one, BEq.rfl, Bool.and_true, Bool.and_eq_true, decide_eq_true_eq,
    beq_iff_eq]
  omega

theorem isSettled_iff {c : Char} :
    IsSettled c ↔ c.isUpper = false ∧ c ≠ 'İ' ∧ c ≠ 'Σ' ∧
      Table.lowercase.image? c.toNat = none := by
  have hu : inRun 0x41 0x5A 1 c.toNat = c.isUpper := by
    simp [inRun, Nat.mod_one, Char.isUpper, UInt32.le_iff_toNat_le, Char.toNat_val]
  have hi : inRun 0x0130 0x0130 1 c.toNat = (c == 'İ') := by
    rw [inRun_self, Bool.eq_iff_iff, beq_iff_eq, beq_iff_eq, ← Char.toNat_inj]
    rfl
  have hs : inRun 0x03A3 0x03A3 1 c.toNat = (c == 'Σ') := by
    rw [inRun_self, Bool.eq_iff_iff, beq_iff_eq, beq_iff_eq, ← Char.toNat_inj]
    rfl
  simp only [IsSettled, RunMap.image?_eq_none, Table.changed, List.forall_mem_cons, hi, hs, hu,
    beq_eq_false_iff_ne]

/-- A settled character is its own lower case, whatever stands around it. -/
theorem lowerBetween_of_isSettled {c : Char} (h : IsSettled c) (before after : List Char) :
    lowerBetween before c after = [c] := by
  obtain ⟨hu, hi, hs, ht⟩ := isSettled_iff.1 h
  have hl : lowerChar c = c := by
    unfold lowerChar
    split
    · exact Char.toLower_eq_of_not_isUpper (by simp [hu])
    · rw [ht]
  simp only [lowerBetween, beq_iff_eq, hs, hi, if_false, hl]

/-- The table has no ASCII characters. -/
theorem image?_lowercase_of_lt {n : Nat} (h : n < 0x80) : Table.lowercase.image? n = none := by
  have above : (Table.lowercase.all fun r => Nat.ble 0x80 r.1) = true := by decide +kernel
  refine RunMap.image?_eq_none.2 fun r hr => ?_
  have := Nat.le_of_ble_eq_true (List.all_eq_true.1 above r hr)
  simp only [inRun, Bool.and_eq_false_iff, decide_eq_false_iff_not]
  omega

theorem toNat_toLower_lt {c : Char} (h : c.toNat < 0x80) : c.toLower.toNat < 0x80 := by
  by_cases hu : c.isUpper
  · have hz : 'Z'.toNat = 90 := rfl
    rw [Char.toLower_eq_of_isUpper hu, Char.toNat_ofNat]
    simp only [Char.isUpper, decide_eq_true_eq, UInt32.le_iff_toNat_le, Char.toNat_val] at hu
    split <;> omega
  · rwa [Char.toLower_eq_of_not_isUpper hu]

theorem isSettled_toLower {c : Char} (h : c.toNat < 0x80) : IsSettled c.toLower := by
  have h' := toNat_toLower_lt h
  refine isSettled_iff.2 ⟨Char.isUpper_toLower_eq_false c, ?_, ?_, image?_lowercase_of_lt h'⟩ <;>
  · intro hc
    rw [hc] at h'
    exact absurd h' (by decide)

/-- The images of the table are settled; a number that is no code point stands for NUL. -/
theorem isSettled_ofNat {c : Char} {n : Nat} (h : Table.lowercase.image? c.toNat = some n) :
    IsSettled (Char.ofNat n) := by
  obtain ⟨r, hr, hn, rfl⟩ := RunMap.image?_eq_some h
  have hr' : r ∈ Table.changed := List.mem_of_mem_drop (i := 3) hr
  unfold IsSettled
  rw [Char.toNat_ofNat]
  split
  · exact RunMap.image?_image Table.isSettling_changed hr' hn
  · rfl

theorem isSettled_lowerChar {c : Char} (hi : c ≠ 'İ') (hs : c ≠ 'Σ') : IsSettled (lowerChar c) := by
  unfold lowerChar
  split
  · exact isSettled_toLower ‹_›
  · rename_i hc
    split
    · exact isSettled_ofNat ‹_›
    · refine isSettled_iff.2 ⟨?_, hi, hs, ‹_›⟩
      have hz : 'Z'.toNat = 90 := rfl
      simp only [Char.isUpper, decide_eq_false_iff_not, UInt32.le_iff_toNat_le, Char.toNat_val]
      omega

/-- The characters of a lower case are settled. -/
theorem isSettled_of_mem_lowerBetween {before after : List Char} {c d : Char}
    (h : d ∈ lowerBetween before c after) : IsSettled d := by
  unfold lowerBetween at h
  split at h
  · split at h <;> rw [List.mem_singleton.1 h] <;> rfl
  · rename_i hs
    split at h
    · simp only [List.mem_cons, List.not_mem_nil, or_false] at h
      rcases h with rfl | rfl <;> rfl
    · rename_i hi
      rw [List.mem_singleton.1 h]
      exact isSettled_lowerChar (by simpa using hi) (by simpa using hs)

/-! ## Settled texts -/

theorem lowercaseAfter_of_isSettled {before s : List Char} (h : ∀ c ∈ s, IsSettled c) :
    lowercaseAfter before s = s := by
  induction s generalizing before with
  | nil => rfl
  | cons c rest ih =>
    rw [lowercaseAfter, lowerBetween_of_isSettled (h c (by simp)),
      ih fun d hd => h d (List.mem_cons_of_mem _ hd)]
    rfl

theorem isSettled_of_mem_lowercaseAfter {before s : List Char} {d : Char}
    (h : d ∈ lowercaseAfter before s) : IsSettled d := by
  induction s generalizing before with
  | nil => simp [lowercaseAfter] at h
  | cons c rest ih =>
    rcases List.mem_append.1 h with h | h
    · exact isSettled_of_mem_lowerBetween h
    · exact ih h

/-- **A lowercased text is its own lower case.** -/
@[simp] theorem lowercase_lowercase (s : String) : lowercase (lowercase s) = lowercase s := by
  have h : lowercaseChars (lowercaseChars s.toList) = lowercaseChars s.toList :=
    lowercaseAfter_of_isSettled fun _ => isSettled_of_mem_lowercaseAfter
  rw [lowercase, toList_lowercase, h, lowercase]

end DocLint.Unicode

import DocLint.Pattern.Matching
import Mathlib.Data.List.Basic
import Mathlib.Order.MinMax

/-!
# Where patterns lead

A pattern leads from a place of a text to another if what is between them matches it
(`Node.Leads`). This is said of each kind of node on its own, without an order in which a match is
looked for. Repetitions are rounds of the relation that is repeated (`Rounds`). Since no pattern
leads backward or beyond the end (`Node.Leads.isAhead`), all but some rounds stay where they are,
and so no more rounds count than there are characters (`rounds_min_iff`, `exists_rounds_iff`).
-/

namespace DocLint.Pattern

/-! ## Rounds -/

section Rounds

variable {R S : Nat → Nat → Prop} {i j l m k e : Nat}

/-- So many steps of a relation lead from a place to another. -/
inductive Rounds (R : Nat → Nat → Prop) : Nat → Nat → Nat → Prop
  | done {i : Nat} : Rounds R 0 i i
  | step {k i j l : Nat} (hstep : R i j) (hrest : Rounds R k j l) : Rounds R (k + 1) i l

theorem rounds_zero_iff : Rounds R 0 i j ↔ j = i := by
  constructor
  · rintro ⟨⟩
    rfl
  · rintro rfl
    exact .done

theorem rounds_succ_iff : Rounds R (k + 1) i l ↔ ∃ j, R i j ∧ Rounds R k j l := by
  constructor
  · rintro ⟨⟩
    exact ⟨_, ‹_›, ‹_›⟩
  · rintro ⟨j, hstep, hrest⟩
    exact .step hstep hrest

/-- What holds of single steps, and can be put together, holds of any number of them. -/
theorem Rounds.lift (hrefl : ∀ i, S i i) (htrans : ∀ {i j l}, S i j → S j l → S i l)
    (hR : ∀ i j, R i j → S i j) (h : Rounds R k i j) : S i j := by
  induction h with
  | done => exact hrefl _
  | step hstep _ ih => exact htrans (hR _ _ hstep) ih

theorem Rounds.le (hR : ∀ i j, R i j → i ≤ j) (h : Rounds R k i j) : i ≤ j :=
  h.lift (S := (· ≤ ·)) le_refl le_trans hR

theorem Rounds.append (h : Rounds R k i m) (h' : Rounds R e m j) : Rounds R (k + e) i j := by
  induction h with
  | done => rwa [Nat.zero_add]
  | @step k _ _ _ hstep _ ih =>
    rw [Nat.add_right_comm]
    exact .step hstep (ih h')

/-- Rounds that lead on can start with one that does, if those before it are left out. -/
theorem Rounds.eq_or_leave (h : Rounds R k i l) :
    l = i ∨ ∃ j, j ≠ i ∧ R i j ∧ ∃ e < k, Rounds R e j l := by
  induction h with
  | done => exact .inl rfl
  | @step k i j l hstep hrest ih =>
    by_cases hj : j = i
    · subst hj
      refine ih.imp_right ?_
      rintro ⟨m, hm, hleave, e, he, hrounds⟩
      exact ⟨m, hm, hleave, e, by omega, hrounds⟩
    · exact .inr ⟨j, hj, hstep, k, by omega, hrest⟩

/-- Up to so many rounds: none at all is needed behind one that stays where it is. -/
theorem exists_rounds_succ_iff : (∃ e ≤ k + 1, Rounds R e i l) ↔
    (∃ j, R i j ∧ if j = i then l = i else ∃ e ≤ k, Rounds R e j l) ∨ l = i := by
  constructor
  · rintro ⟨e, he, hrounds⟩
    rcases hrounds.eq_or_leave with hl | ⟨j, hj, hstep, d, hd, hrest⟩
    · exact .inr hl
    · exact .inl ⟨j, hstep, by rw [if_neg hj]; exact ⟨d, by omega, hrest⟩⟩
  · rintro (⟨j, hstep, hrest⟩ | rfl)
    · split at hrest
      · exact ⟨0, Nat.zero_le _, rounds_zero_iff.2 hrest⟩
      · obtain ⟨e, he, hrest⟩ := hrest
        exact ⟨e + 1, by omega, .step hstep hrest⟩
    · exact ⟨0, Nat.zero_le _, .done⟩

/-- A round that leads on takes a character at least, so that no more rounds are needed than there
are characters between the places. -/
theorem Rounds.shorten (hR : ∀ i j, R i j → i ≤ j) (h : Rounds R k i j) :
    ∃ e ≤ k, e ≤ j - i ∧ Rounds R e i j := by
  induction h with
  | done => exact ⟨0, le_rfl, Nat.zero_le _, .done⟩
  | @step k i m j hstep hrest ih =>
    obtain ⟨e, hek, hej, hrounds⟩ := ih
    by_cases hm : m = i
    · subst hm
      exact ⟨e, by omega, hej, hrounds⟩
    · have hlt := hR i m hstep
      have hle := hrest.le hR
      exact ⟨e + 1, by omega, by omega, .step hstep hrounds⟩

/-- If there are more rounds than characters, one of them stays where it is. -/
theorem Rounds.exists_stay (hR : ∀ i j, R i j → i ≤ j) (h : Rounds R (k + 1) i j)
    (hk : j - i ≤ k) : ∃ m d e, d + e = k ∧ Rounds R d i m ∧ R m m ∧ Rounds R e m j := by
  induction k generalizing i with
  | zero =>
    obtain ⟨m, hstep, hrest⟩ := rounds_succ_iff.1 h
    obtain rfl := rounds_zero_iff.1 hrest
    have hle := hR i j hstep
    obtain rfl : i = j := by omega
    exact ⟨i, 0, 0, rfl, .done, hstep, .done⟩
  | succ k ih =>
    obtain ⟨m, hstep, hrest⟩ := rounds_succ_iff.1 h
    by_cases hm : m = i
    · subst hm
      exact ⟨m, 0, k + 1, by omega, .done, hstep, hrest⟩
    · have hlt := hR i m hstep
      have hle := hrest.le hR
      obtain ⟨n, d, e, hde, hbefore, hstay, hafter⟩ := ih hrest (by omega)
      exact ⟨n, d + 1, e, by omega, .step hstep hbefore, hstay, hafter⟩

/-- That round may be left out or made twice, so that it does not matter how many rounds there are
if there are more of them than characters. -/
theorem rounds_congr (hR : ∀ i j, R i j → i ≤ j) (hk : j - i < k) (e : Nat) :
    Rounds R (k + e) i j ↔ Rounds R k i j := by
  induction e with
  | zero => rfl
  | succ e ih =>
    obtain ⟨n, hn⟩ : ∃ n, k + e = n + 1 := ⟨k + e - 1, by omega⟩
    rw [← ih, ← Nat.add_assoc, hn]
    constructor
    · intro h
      obtain ⟨m, d, f, hdf, hbefore, -, hafter⟩ := h.exists_stay hR (by omega)
      exact hdf ▸ hbefore.append hafter
    · intro h
      obtain ⟨m, d, f, rfl, hbefore, hstay, hafter⟩ := h.exists_stay hR (by omega)
      exact hbefore.append (.step hstay (.step hstay hafter))

end Rounds

/-! ## From place to place -/

mutual

/-- A node leads from a place of a text to another: what is between them is a match of it. -/
def Node.Leads (cs : List Char) : Node → Nat → Nat → Prop
  | .literal ds, i, j => j = i + ds.length ∧ ds <+: cs.drop i
  | .set _ s, i, j => j = i + 1 ∧ cs[i]?.any s.contains = true
  | .look l, i, j => j = i ∧ i ≤ cs.length ∧ l.holds (cs.take i).getLast? cs[i]? = true
  | .capture a, i, j => a.Leads cs i j
  | .rep least most _ a, i, j => ∃ m, Rounds (a.Leads cs) least i m ∧
    ∃ e, (∀ k ∈ most, e ≤ k - least) ∧ Rounds (a.Leads cs) e m j
  | .seq items, i, j => Node.LeadThrough cs items i j
  | .alt branches, i, j => Node.AnyLeads cs branches i j

/-- Some nodes lead, one after the other, from a place of a text to another. -/
def Node.LeadThrough (cs : List Char) : List Node → Nat → Nat → Prop
  | [], i, j => j = i
  | a :: rest, i, j => ∃ m, a.Leads cs i m ∧ Node.LeadThrough cs rest m j

/-- One of some nodes leads from a place of a text to another. -/
def Node.AnyLeads (cs : List Char) : List Node → Nat → Nat → Prop
  | [], _, _ => False
  | a :: rest, i, j => a.Leads cs i j ∨ Node.AnyLeads cs rest i j

end

/-- A place of a text is not before another one, and is within the text if the other is. -/
def IsAhead (cs : List Char) (i j : Nat) : Prop := i ≤ j ∧ j ≤ max i cs.length

variable {cs : List Char} {isFit : Char → Bool} {i j l k : Nat} {R : Nat → Nat → Prop}

theorem lt_length_of_any (h : cs[i]?.any isFit = true) : i < cs.length := by
  by_contra hi
  rw [List.getElem?_eq_none (Nat.le_of_not_lt hi)] at h
  cases h

namespace IsAhead

theorem refl (i : Nat) : IsAhead cs i i := ⟨le_rfl, le_max_left i _⟩

theorem trans (h : IsAhead cs i j) (h' : IsAhead cs j l) : IsAhead cs i l := by
  obtain ⟨hij, hj⟩ := h
  obtain ⟨hjl, hl⟩ := h'
  exact ⟨hij.trans hjl, by omega⟩

theorem le_length (h : IsAhead cs i j) (hi : i ≤ cs.length) : j ≤ cs.length :=
  h.2.trans (max_le hi le_rfl)

theorem sub_le (h : IsAhead cs i j) : j - i ≤ cs.length := by
  obtain ⟨-, hj⟩ := h
  omega

/-- Behind a character of the text there is another place. -/
theorem of_any (h : j = i + 1 ∧ cs[i]?.any isFit = true) : IsAhead cs i j := by
  obtain ⟨rfl, hc⟩ := h
  exact ⟨Nat.le_succ i, le_max_of_le_right (lt_length_of_any hc)⟩

end IsAhead

theorem Rounds.isAhead (hR : ∀ i j, R i j → IsAhead cs i j) (h : Rounds R k i j) :
    IsAhead cs i j :=
  h.lift IsAhead.refl IsAhead.trans hR

mutual

theorem Node.Leads.isAhead (a : Node) (i j : Nat) (h : a.Leads cs i j) : IsAhead cs i j := by
  cases a with
  | literal ds =>
    obtain ⟨rfl, hword⟩ := h
    have hlength := hword.length_le
    rw [List.length_drop] at hlength
    exact ⟨by omega, by omega⟩
  | set bytes s => exact .of_any h
  | look l =>
    obtain ⟨rfl, -⟩ := h
    exact .refl _
  | capture a => exact Node.Leads.isAhead a i j h
  | rep least most greedy a =>
    obtain ⟨m, hleast, e, -, hmore⟩ := h
    exact (hleast.isAhead (Node.Leads.isAhead a)).trans (hmore.isAhead (Node.Leads.isAhead a))
  | seq items => exact Node.LeadThrough.isAhead items i j h
  | alt branches => exact Node.AnyLeads.isAhead branches i j h

theorem Node.LeadThrough.isAhead (items : List Node) (i j : Nat)
    (h : Node.LeadThrough cs items i j) : IsAhead cs i j := by
  cases items with
  | nil =>
    obtain rfl : j = i := h
    exact .refl _
  | cons a rest =>
    obtain ⟨m, ha, hrest⟩ := h
    exact (Node.Leads.isAhead a i m ha).trans (Node.LeadThrough.isAhead rest m j hrest)

theorem Node.AnyLeads.isAhead (branches : List Node) (i j : Nat)
    (h : Node.AnyLeads cs branches i j) : IsAhead cs i j := by
  cases branches with
  | nil => exact h.elim
  | cons a rest => exact h.elim (Node.Leads.isAhead a i j) (Node.AnyLeads.isAhead rest i j)

end

/-- Of required rounds, one more than the text has characters is enough. -/
theorem rounds_min_iff (hR : ∀ i j, R i j → IsAhead cs i j) :
    Rounds R (min k (cs.length + 1)) i j ↔ Rounds R k i j := by
  rcases le_total k (cs.length + 1) with hk | hk
  · rw [min_eq_left hk]
  · obtain ⟨e, rfl⟩ := Nat.exists_eq_add_of_le hk
    have hcongr : IsAhead cs i j →
        (Rounds R (cs.length + 1 + e) i j ↔ Rounds R (cs.length + 1) i j) := fun h =>
      rounds_congr (fun i j h => (hR i j h).1) (Nat.lt_succ_of_le h.sub_le) e
    rw [min_eq_right hk]
    exact ⟨fun h => (hcongr (h.isAhead hR)).2 h, fun h => (hcongr (h.isAhead hR)).1 h⟩

/-- Of allowed rounds, as many as there are characters between the places are enough. -/
theorem exists_rounds_iff (hR : ∀ i j, R i j → IsAhead cs i j) (least : Nat) (most : Option Nat)
    {limit : Nat} (hlimit : IsAhead cs i j → j - i ≤ limit) :
    (∃ e, (∀ k ∈ most, e ≤ k - least) ∧ e ≤ limit ∧ Rounds R e i j) ↔
      ∃ e, (∀ k ∈ most, e ≤ k - least) ∧ Rounds R e i j := by
  constructor
  · rintro ⟨e, he, -, hrounds⟩
    exact ⟨e, he, hrounds⟩
  · rintro ⟨e, he, hrounds⟩
    obtain ⟨d, hde, hd, hfewer⟩ := hrounds.shorten fun i j h => (hR i j h).1
    exact ⟨d, fun k hk => hde.trans (he k hk), hd.trans (hlimit (hrounds.isAhead hR)), hfewer⟩

/-- A word is read character by character. -/
theorem exists_leads_word_iff {d : Char} {ds : List Char} :
    (∃ m, (m = i + 1 ∧ cs[i]? = some d) ∧ j = m + ds.length ∧ ds <+: cs.drop m) ↔
      j = i + (d :: ds).length ∧ d :: ds <+: cs.drop i := by
  have hword : d :: ds <+: cs.drop i ↔ cs[i]? = some d ∧ ds <+: cs.drop (i + 1) := by
    by_cases hi : i < cs.length
    · rw [List.drop_eq_getElem_cons hi, List.cons_prefix_cons, List.getElem?_eq_getElem hi,
        Option.some.injEq, eq_comm]
    · rw [List.drop_of_length_le (by omega), List.getElem?_eq_none (by omega)]
      simp
  rw [hword, List.length_cons]
  constructor
  · rintro ⟨m, ⟨rfl, hd⟩, hj, hds⟩
    exact ⟨by omega, hd, hds⟩
  · rintro ⟨hj, hd, hds⟩
    exact ⟨i + 1, ⟨rfl, hd⟩, by omega, hds⟩

end DocLint.Pattern

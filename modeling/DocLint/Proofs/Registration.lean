import DocLint.Proofs.Registry

/-!
# Registering is all or nothing

A record is registered under all its names or under none. What stands in its way is a name that
another record of its category owns (`Blocks`); the refusal names the first such name, in the order
in which the record declares them, and its owner. A refused record leaves no trace: all that can be
asked of the registry is answered as before (`SameAnswers`), also for the free names in front of the
taken one. The main statement, for every registry that registrations lead to, is
`register_all_or_nothing`.
-/

namespace DocLint

namespace Registry

variable {phase : Phase}

/-- `o` keeps `e` from the name `n`: it is another record of the category, and has that name. -/
def Blocks (r : Registry phase) (e : Entry) (n : String) (o : Entry) : Prop :=
  o ∈ r.entries ∧ o.category = e.category ∧ n ∈ o.names ∧ o.id ≠ e.id

/-- All that can be asked of two registries is answered alike. -/
structure SameAnswers (r r' : Registry phase) : Prop where
  entries : r.entries = r'.entries
  entriesOf : ∀ c, r.entriesOf c = r'.entriesOf c
  size : r.size = r'.size
  lookup : ∀ c s, r.lookup c s = r'.lookup c s
  event? : ∀ s, r.event? s = r'.event? s

theorem sameAnswers_of_owner? {r r' : Registry phase} (he : r.entries = r'.entries)
    (ho : ∀ c n, r.owner? c n = r'.owner? c n) : r.SameAnswers r' where
  entries := he
  entriesOf c := by rw [Registry.entriesOf, Registry.entriesOf, he]
  size := by rw [Registry.size, Registry.size, he]
  lookup c s := ho c _
  event? s := by rw [Registry.event?, Registry.event?, Registry.lookup, Registry.lookup, ho]

namespace Coherent

variable {r r' : Registry .collecting} {e : Entry}

theorem blocks_iff (h : r.Coherent) {n : String} {o : Entry} :
    r.Blocks e n o ↔ r.other? e n = some o := by
  rw [h.other?_eq_some_iff, Blocks]
  tauto

theorem not_blocks_iff (h : r.Coherent) {n : String} :
    (¬∃ o, r.Blocks e n o) ↔ r.other? e n = none := by
  simp only [h.blocks_iff, Option.eq_none_iff_forall_ne_some, not_exists, ne_eq]

/-- A record is refused exactly if another one stands in its way. -/
theorem register_fails_iff (h : r.Coherent) :
    (∃ f r', r.register e = .error f r') ↔ ∃ n ∈ e.names, ∃ o, r.Blocks e n o := by
  cases hr : r.register e with
  | error f r' =>
    obtain ⟨-, before, n, after, o, hn, -, ho, -⟩ := register_eq_error_iff.1 hr
    exact ⟨fun _ => ⟨n, by simp [hn], o, h.blocks_iff.2 ho⟩, fun _ => ⟨f, r', rfl⟩⟩
  | ok _ r' =>
    have hfree := (of_register_eq_ok hr).1
    constructor
    · rintro ⟨f, r', hf⟩
      cases hf
    · rintro ⟨n, hn, o, ho⟩
      rw [h.blocks_iff, hfree n hn] at ho
      cases ho

/-- A refusal names the first taken name and its owner. -/
theorem blame_of_error (h : r.Coherent) {f : Finding} (hr : r.register e = .error f r') :
    ∃ before n after o, e.names = before ++ n :: after ∧ (∀ m ∈ before, ¬∃ o', r.Blocks e m o') ∧
      r.Blocks e n o ∧ f = .duplicateName e.category n o.name := by
  obtain ⟨-, before, n, after, o, hn, hb, ho, hf⟩ := register_eq_error_iff.1 hr
  exact ⟨before, n, after, o, hn, fun m hm => h.not_blocks_iff.2 (hb m hm), h.blocks_iff.2 ho, hf⟩

/-- A listed record owns all its names. -/
theorem owner?_of_mem (h : r.Coherent) (he : e ∈ r.entries) {n : String} (hn : n ∈ e.names) :
    r.owner? e.category n = some e := h.owner?_iff.2 ⟨he, rfl, hn⟩

/-- Registering a listed record again changes nothing. -/
theorem register_again (h : r.Coherent) (he : e ∈ r.entries) :
    ∃ r', r.register e = .ok () r' ∧ r'.SameAnswers r := by
  have hfree : ∀ n ∈ e.names, r.other? e n = none := by
    intro n hn
    simp [other?, h.owner?_of_mem he hn]
  obtain ⟨r', hr, hentries, howner⟩ := register_of_free hfree
  rw [if_pos (List.mem_map_of_mem he)] at hentries
  refine ⟨r', hr, sameAnswers_of_owner? hentries fun c n => ?_⟩
  rw [howner]
  split
  · rename_i hn
    rw [hn.1, h.owner?_of_mem he hn.2]
  · rfl

end Coherent

/-- **Registering is all or nothing.** Let records be registered in any sequence, with success or
not, and then the record `e`, which may be one of them.

* It is refused exactly if another record owns one of its names in its category.
* The refusal tells the first such name, and the owner; the registry after it gives all answers as
  before.
* If it is new and accepted, it is listed last, and of all names just its own lead to it now.
* If it is listed already, it is accepted, and all answers stay as they were. -/
theorem register_all_or_nothing (records : Nat → Record) (calls : List Nat) (i : Nat) :
    let r := offerAll records calls
    let e : Entry := ⟨i, records i⟩
    ((∃ f r', r.register e = .error f r') ↔ ∃ n ∈ e.names, ∃ o, r.Blocks e n o) ∧
    (∀ f r', r.register e = .error f r' →
      (∃ before n after o, e.names = before ++ n :: after ∧
        (∀ m ∈ before, ¬∃ o', r.Blocks e m o') ∧ r.Blocks e n o ∧
        f = .duplicateName e.category n o.name) ∧
      r'.SameAnswers r) ∧
    (e ∉ r.entries → ∀ r', r.register e = .ok () r' →
      r'.entries = r.entries ++ [e] ∧
      ∀ c s, r'.lookup c s =
        if c = e.category ∧ Unicode.lowercase s ∈ e.names then some e else r.lookup c s) ∧
    (e ∈ r.entries → ∃ r', r.register e = .ok () r' ∧ r'.SameAnswers r) := by
  intro r e
  obtain ⟨h, hrecords⟩ := coherent_offerAll records calls
  refine ⟨h.register_fails_iff, fun f r' hf => ⟨h.blame_of_error hf, ?_⟩, ?_, h.register_again⟩
  · obtain ⟨rfl, -⟩ := register_eq_error_iff.1 hf
    exact sameAnswers_of_owner? rfl fun _ _ => rfl
  · intro he r' hr
    obtain ⟨-, hentries, howner⟩ := of_register_eq_ok hr
    rw [if_neg fun hid => he ((Coherent.mem_entries_iff hrecords.eq_of_id).1 hid)] at hentries
    exact ⟨hentries, fun c s => howner c _⟩

end Registry

end DocLint

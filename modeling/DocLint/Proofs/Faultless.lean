import DocLint.Proofs.Intake
import DocLint.Proofs.Report
import DocLint.Proofs.WellFormed

/-!
# Batches without faults

A batch is faultless if its fragments are well-formed, no two of them clash, all references lead
into the batch, and no name but the first of a fragment is taken in another category (`Faultless`).
This speaks of the tags that are there, and not of registries or reviews.

* `Batch.isEmpty_iff_faultless`: under a configuration that drops nothing, the report of a batch is
  empty exactly if the batch is faultless.

Loading and registering find nothing exactly if loading each fragment finds nothing and no two
fragments clash (`Batch.turns_eq_nil_iff`). Then every fragment is registered, and so what a review
looks up in the registry is what the fragments claim (`Batch.exists_entry_iff`).
-/

namespace DocLint

/-- A reference leads to a fragment of a batch. -/
def Reference.LeadsInto (ref : Reference) (batch : List Fragment) : Prop :=
  ∃ raw category name c, ref = .link raw category name ∧ Category.read category = .ok c ∧
    ∃ g ∈ batch, g.category? = some c ∧ Unicode.lowercase name ∈ g.names

/-- A batch in which a check finds nothing. -/
structure Faultless (batch : List Fragment) : Prop where
  wellFormed : ∀ f ∈ batch, f.WellFormed
  /-- No two fragments of a category share a name. -/
  names : batch.Pairwise fun f g => ¬f.Clashes g
  /-- All references in the texts of the fragments lead to fragments. -/
  references : ∀ f ∈ batch, ∀ text ∈ f.linkedTexts, ∀ ref ∈ Reference.scan text,
    ref.LeadsInto batch
  /-- No name but the first of a fragment is a name in another category. -/
  aliases : ∀ f ∈ batch, ∀ s ∈ f.names, f.names.head? ≠ some s →
    ∀ g ∈ batch, g.category? ≠ f.category? → s ∉ g.names

/-! ## Nothing is dropped -/

theorem Config.severity?_ne_none {config : Config} (ht : config.repeatedTags ≠ .allow)
    (hs : config.synonymShadow ≠ .allow) (k : IssueKind) : config.severity? k ≠ none := by
  have policy : ∀ p : Policy, p ≠ .allow → p.severity? ≠ none := by
    intro p
    cases p <;> simp [Policy.severity?]
  cases k with
  | duplicateTag => exact policy _ ht
  | synonymShadow => exact policy _ hs
  | _ => simp [severity?]

namespace Batch

variable {batch : List Fragment} {config : Config} {f : Fragment} {i : Nat}

/-- Under a configuration that drops nothing, a report is empty exactly if there are no notices. -/
theorem isEmpty_iff_notices (ht : config.repeatedTags ≠ .allow)
    (hs : config.synonymShadow ≠ .allow) :
    (check batch config).report.isEmpty = true ↔ notices batch = [] := by
  rw [Report.isEmpty_iff, ← List.perm_nil, (issues_check batch config).congr_left, List.perm_nil,
    List.filterMap_eq_nil_iff]
  simp only [Notice.issue?, Option.map_eq_none_iff, Config.severity?_ne_none ht hs]
  exact List.eq_nil_iff_forall_not_mem.symm

/-! ## The first pass -/

theorem turnNotices_eq_nil_iff :
    turnNotices batch f i = [] ↔ f.faults = [] ∧ fate batch f i = .registered := by
  have hload : (f.load i).notices = [] ↔ f.faults = [] := by
    rw [Fragment.load_notices, List.map_eq_nil_iff]
  rw [turnNotices, List.append_eq_nil_iff, hload, Fragment.load_record]
  refine and_congr_right fun hf => ?_
  obtain ⟨c, hc, -, hd⟩ := Fragment.faults_eq_nil_iff.1 hf
  have hx : f.record? ≠ none := fun h => hd (Fragment.record?_eq_none_iff.1 h)
  rcases enroll_notices batch f i with ⟨hne, hn⟩ | ⟨hr, n, hn, -⟩
  · simp only [hn, true_iff]
    exact (fate_of_record?_ne_none batch i hx).resolve_right hne
  · simp [hn, hr]

/-- All fragments of a batch are registered. -/
def AllRegistered (batch : List Fragment) : Prop :=
  ∀ f i, batch[i]? = some f → fate batch f i = .registered

/-- If loading finds nothing, all fragments are registered exactly if no two clash. -/
theorem allRegistered_iff (hload : ∀ f ∈ batch, f.faults = []) :
    AllRegistered batch ↔ batch.Pairwise fun f g => ¬f.Clashes g := by
  constructor
  · intro h
    rw [List.pairwise_iff_getElem]
    intro j i hj hi hlt
    have hj' : batch[j]? = some batch[j] := List.getElem?_eq_getElem hj
    have hi' : batch[i]? = some batch[i] := List.getElem?_eq_getElem hi
    exact (fate_eq_registered_iff.1 (h _ i hi')).2 _ j hlt hj' (h _ j hj')
  · intro h f i hf
    obtain ⟨c, hc, -, hd⟩ := Fragment.faults_eq_nil_iff.1 (hload f (List.mem_of_getElem? hf))
    rw [fate_eq_registered_iff_of_pairwise h hf]
    exact fun hx => hd (Fragment.record?_eq_none_iff.1 hx)

/-- **Loading and registering find nothing** exactly if loading each fragment finds nothing and no
two fragments clash. -/
theorem turns_eq_nil_iff : (intake .empty 0 batch).2 = [] ↔
    (∀ f ∈ batch, f.faults = []) ∧ batch.Pairwise fun f g => ¬f.Clashes g := by
  rw [intake_notices, List.flatMap_eq_nil_iff]
  have hquiet : (∀ p ∈ batch.zipIdx, turnNotices batch p.1 p.2 = []) ↔
      ∀ f i, batch[i]? = some f → f.faults = [] ∧ fate batch f i = .registered := by
    simp only [turnNotices_eq_nil_iff, List.mem_zipIdx_iff_getElem?, Prod.forall]
  rw [hquiet]
  constructor
  · intro h
    have hload : ∀ f ∈ batch, f.faults = [] := fun f hf => by
      obtain ⟨i, hi⟩ := List.mem_iff_getElem?.1 hf
      exact (h f i hi).1
    exact ⟨hload, (allRegistered_iff hload).1 fun f i hf => (h f i hf).2⟩
  · rintro ⟨hload, hpair⟩ f i hf
    exact ⟨hload f (List.mem_of_getElem? hf), (allRegistered_iff hload).2 hpair f i hf⟩

/-! ## The second pass -/

/-- If all fragments are registered, the entries are their records. -/
theorem mem_entries_of_registered (h : AllRegistered batch) {e : Entry} :
    e ∈ (registry batch).entries ↔ ∃ g, batch[e.id]? = some g ∧ g.record? = some e.record := by
  rw [mem_entries_registry]
  constructor
  · rintro ⟨g, hg, -, hx⟩
    exact ⟨g, hg, hx⟩
  · rintro ⟨g, hg, hx⟩
    exact ⟨g, hg, h g _ hg, hx⟩

/-- If all fragments are registered, the names in the registry are those that they claim. -/
theorem exists_entry_iff (h : AllRegistered batch) {p : Option Category → Prop} {n : String} :
    (∃ o ∈ (registry batch).entries, p (some o.category) ∧ n ∈ o.names) ↔
      ∃ g ∈ batch, p g.category? ∧ n ∈ g.names := by
  constructor
  · rintro ⟨o, ho, hp, hn⟩
    obtain ⟨g, hg, hx⟩ := (mem_entries_of_registered h).1 ho
    obtain ⟨hc, hnames, -⟩ := Fragment.of_record? hx
    exact ⟨g, List.mem_of_getElem? hg, hc ▸ hp, hnames ▸ hn⟩
  · rintro ⟨g, hg, hp, hn⟩
    obtain ⟨i, hi⟩ := List.mem_iff_getElem?.1 hg
    obtain ⟨x, -, hx, -⟩ := fate_eq_registered_iff_register.1 (h g i hi)
    obtain ⟨hc, hnames, -⟩ := Fragment.of_record? hx
    exact ⟨⟨i, x⟩, (mem_entries_of_registered h).2 ⟨g, hi, hx⟩, (hc ▸ hp : p (some x.category)),
      (hnames ▸ hn : n ∈ x.names)⟩

theorem resolves_iff (h : AllRegistered batch) {ref : Reference} :
    (registry batch).Resolves ref ↔ ref.LeadsInto batch := by
  have hheld : ∀ c n, (∃ o ∈ (registry batch).entries, o.category = c ∧ n ∈ o.names) ↔
      ∃ g ∈ batch, g.category? = some c ∧ n ∈ g.names := fun c n => by
    rw [← exists_entry_iff h (p := (· = some c))]
    simp only [Option.some.injEq]
  simp only [Registry.Resolves, Reference.LeadsInto, hheld]

theorem forall_entry_iff (h : AllRegistered batch) {c : Category} {n : String} :
    (∀ o ∈ (registry batch).entries, o.category ≠ c → n ∉ o.names) ↔
      ∀ g ∈ batch, g.category? ≠ some c → n ∉ g.names := by
  have := not_congr (exists_entry_iff h (p := (· ≠ some c)) (n := n))
  simpa only [ne_eq, Option.some.injEq, not_exists, not_and] using this

/-- The review of the record of a fragment finds nothing exactly if the fragment is well-formed, its
references lead into the batch, and its aliases are no names in other categories. -/
theorem review_eq_nil_iff (h : AllRegistered batch) (hload : f.faults = []) {e : Entry}
    (hf : batch[e.id]? = some f) (hx : f.record? = some e.record) :
    (registry batch).review e.record = [] ↔ f.WellFormed ∧
      (∀ text ∈ f.linkedTexts, ∀ ref ∈ Reference.scan text, ref.LeadsInto batch) ∧
      ∀ s ∈ f.names, f.names.head? ≠ some s →
        ∀ g ∈ batch, g.category? ≠ f.category? → s ∉ g.names := by
  obtain ⟨hc, hnames, hmain⟩ := Fragment.of_record? hx
  have hhead : f.names.head? = some e.record.mainName := by
    rw [Fragment.names, List.head?_map, hmain]
    rfl
  have hwf : f.WellFormed ↔ e.record.HasRequired := by
    rw [Fragment.wellFormed_iff, hx]
    simp [hload]
  rw [(coherent_registry batch).review_eq_nil_iff ((mem_entries_of_registered h).2 ⟨f, hf, hx⟩),
    ← hwf]
  simp only [resolves_iff h, forall_entry_iff h]
  refine and_congr_right fun hw => ?_
  rw [hw.linkedTexts_eq hx, hhead, hc, ← hnames]
  refine and_congr_right fun _ => forall₂_congr fun s _ => ?_
  rw [ne_eq, ne_eq, Option.some.injEq, eq_comm]
  rfl

/-- The reviews of a batch all of whose fragments are registered find nothing exactly if the
fragments are well-formed, and their references and aliases are in order. -/
theorem reviews_eq_nil_iff (h : AllRegistered batch) (hload : ∀ f ∈ batch, f.faults = []) :
    reviewNotices (registry batch) = [] ↔
      ∀ f ∈ batch, f.WellFormed ∧
        (∀ text ∈ f.linkedTexts, ∀ ref ∈ Reference.scan text, ref.LeadsInto batch) ∧
        ∀ s ∈ f.names, f.names.head? ≠ some s →
          ∀ g ∈ batch, g.category? ≠ f.category? → s ∉ g.names := by
  rw [reviewNotices, Registry.reviewAll, List.flatMap_map, List.flatMap_eq_nil_iff]
  simp only [entryNotices, List.map_eq_nil_iff]
  constructor
  · intro hall f hf
    obtain ⟨i, hi⟩ := List.mem_iff_getElem?.1 hf
    obtain ⟨x, -, hx, -⟩ := fate_eq_registered_iff_register.1 (h f i hi)
    exact (review_eq_nil_iff (e := ⟨i, x⟩) h (hload f hf) hi hx).1
      (hall ⟨i, x⟩ ((mem_entries_of_registered h).2 ⟨f, hi, hx⟩))
  · intro hall e he
    obtain ⟨f, hi, hx⟩ := (mem_entries_of_registered h).1 he
    have hf := List.mem_of_getElem? hi
    exact (review_eq_nil_iff h (hload f hf) hi hx).2 (hall f hf)

/-! ## The whole check -/

/-- **A check finds nothing exactly in faultless batches**, if the configuration drops nothing. -/
theorem isEmpty_iff_faultless (batch : List Fragment) (config : Config)
    (ht : config.repeatedTags ≠ .allow) (hs : config.synonymShadow ≠ .allow) :
    (check batch config).report.isEmpty = true ↔ Faultless batch := by
  rw [isEmpty_iff_notices ht hs, notices, List.append_eq_nil_iff, turns_eq_nil_iff]
  constructor
  · rintro ⟨⟨hload, hpair⟩, hreviews⟩
    have hreg := (allRegistered_iff hload).2 hpair
    have hall := (reviews_eq_nil_iff hreg hload).1 hreviews
    exact ⟨fun f hf => (hall f hf).1, hpair, fun f hf => (hall f hf).2.1,
      fun f hf => (hall f hf).2.2⟩
  · intro hb
    have hload : ∀ f ∈ batch, f.faults = [] := fun f hf => (hb.wellFormed f hf).faults_eq_nil
    have hreg := (allRegistered_iff hload).2 hb.names
    exact ⟨⟨hload, hb.names⟩, (reviews_eq_nil_iff hreg hload).2 fun f hf =>
      ⟨hb.wellFormed f hf, hb.references f hf, hb.aliases f hf⟩⟩

/-- An event with an alias, and a command; each refers to the other. -/
def jumpAndPause : List Fragment :=
  [{ category := "Event"
     tags := [("events", "player jumps\nplayer leaps"), ("triggers", "see <@link command pause>."),
       ("regex", "^player jumps$"), ("switch", "in:<area>"), ("switch", "once"),
       ("context", "<context.height> is a number, see <@link Event Player Leaps>")] },
   { category := "command"
     tags := [("name", "Pause"), ("description", "Pauses after <@link event player jumps>.")] }]

theorem faultless_jumpAndPause : Config.repeatedTags {} ≠ .allow ∧
    Config.synonymShadow {} ≠ .allow ∧ Faultless jumpAndPause :=
  ⟨by decide, by decide,
    (isEmpty_iff_faultless jumpAndPause {} (by decide) (by decide)).1 (by decide +kernel)⟩

end Batch

end DocLint

import DocLint.Proofs.Intake
import DocLint.Proofs.Report

/-!
# The order of a batch

Where no two fragments clash, all that make a record are registered, whatever their order. A review
asks of the registry only which records have which names (`Registry.SameRecords`), so what it finds
does not hang on the order either; and the notices of a fragment with a source do not tell its place
in the batch. So the notices of a batch are a sum over its fragments and records
(`Batch.notices_eq`), and another order of the batch only puts them into another order. The main
statement is `Batch.reordered`, which compares the two runs.
-/

namespace DocLint

/-! ## Registries with the same records -/

namespace Registry

variable {r r' : Registry .complete}

/-- All names lead to the same records, which may have other numbers. -/
def SameRecords (r r' : Registry .complete) : Prop :=
  ∀ c s, (r.lookup c s).map Entry.record = (r'.lookup c s).map Entry.record

namespace SameRecords

/-- A name leads to a record in both registries or in none. -/
theorem lookup_cases (h : r.SameRecords r') (c : Category) (s : String) :
    (r.lookup c s = none ∧ r'.lookup c s = none) ∨
      ∃ e e', r.lookup c s = some e ∧ r'.lookup c s = some e' ∧ e.record = e'.record := by
  have hcs := h c s
  cases hl : r.lookup c s with
  | none =>
    rw [hl] at hcs
    exact .inl ⟨rfl, Option.map_eq_none_iff.1 hcs.symm⟩
  | some e =>
    rw [hl] at hcs
    obtain ⟨e', he', hrec⟩ := Option.map_eq_some_iff.1 hcs.symm
    exact .inr ⟨e, e', rfl, he', hrec.symm⟩

theorem contains (h : r.SameRecords r') (c : Category) (s : String) :
    r.contains c s = r'.contains c s := by
  rw [Registry.contains, Registry.contains, ← Option.isSome_map, h, Option.isSome_map]

theorem danglingReferences (h : r.SameRecords r') (text : String) :
    r.danglingReferences text = r'.danglingReferences text := by
  have reason : ∀ ref, r.danglingReason? ref = r'.danglingReason? ref := by
    intro ref
    unfold danglingReason?
    simp only [h.contains]
  simp only [Registry.danglingReferences, reason]

theorem synonymConflict? (h : r.SameRecords r') (c : Category) (main s : String) :
    r.synonymConflict? c main s = r'.synonymConflict? c main s := by
  unfold Registry.synonymConflict?
  rcases h.lookup_cases c s with ⟨hl, hl'⟩ | ⟨e, e', hl, hl', hrec⟩
  · rw [hl, hl']
  · simp only [hl, hl', Entry.name, hrec]

theorem synonymShadows (h : r.SameRecords r') (c : Category) (s : String) :
    r.synonymShadows c s = r'.synonymShadows c s := by
  refine List.filterMap_congr fun other _ => ?_
  rcases h.lookup_cases other s with ⟨hl, hl'⟩ | ⟨e, e', hl, hl', hrec⟩
  · rw [hl, hl']
  · simp only [hl, hl', Option.map_some, Entry.name, hrec]

/-- **Reviews against registries with the same records find the same.** -/
theorem review (h : r.SameRecords r') (x : Record) : r.review x = r'.review x := by
  have synonyms : r.synonymFindings x = r'.synonymFindings x := by
    simp only [synonymFindings, h.synonymConflict?, h.synonymShadows]
  have dangling : r.danglingReferences = r'.danglingReferences := funext h.danglingReferences
  cases x <;> simp only [Registry.review, synonyms, dangling]

end SameRecords

end Registry

/-! ## Batches without clashes -/

/-- The place of a fragment that has a source goes into none of its notices. -/
theorem Fragment.load_of_source {f : Fragment} (h : f.source ≠ none) (i j : Nat) :
    f.load i = f.load j := by
  obtain ⟨s, hs⟩ := Option.ne_none_iff_exists'.1 h
  have hname : f.reportName i = f.reportName j := by simp [reportName, placeholder, hs]
  rw [load_eq, load_eq, hname]

namespace Batch

variable {batch batch' : List Fragment} {config : Config} {f : Fragment} {i : Nat} {c : Category}
  {s : String}

/-- The notices of reviewing a record. -/
def recordNotices (r : Registry .complete) (x : Record) : List Notice :=
  (r.review x).map fun y => ⟨x.name, some x.category, y⟩

/-- The records of a batch without clashes are those of its fragments, in order. -/
theorem records_registry (h : batch.Pairwise fun f g => ¬f.Clashes g) :
    (registry batch).entries.map Entry.record = batch.filterMap Fragment.record? := by
  have hentry : ∀ p ∈ batch.zipIdx, (enrolled? batch p).map Entry.record = p.1.record? := by
    rintro ⟨f, i⟩ hp
    have hf := fate_eq_registered_iff_of_pairwise h (List.mem_zipIdx_iff_getElem?.1 hp)
    cases hx : f.record? with
    | none => simp [enrolled?, hx]
    | some x => simp [enrolled?, hx, hf]
  rw [entries_registry, List.map_filterMap, List.filterMap_congr hentry]
  conv_rhs => rw [← List.zipIdx_map_fst 0 batch, List.filterMap_map, Function.comp_def]

theorem turnNotices_eq (hsource : f.source ≠ none) (h : batch.Pairwise fun f g => ¬f.Clashes g)
    (hf : batch[i]? = some f) : turnNotices batch f i = (f.load 0).notices := by
  rw [turnNotices, Fragment.load_record, Fragment.load_of_source hsource i 0]
  rcases enroll_notices batch f i with ⟨-, hn⟩ | ⟨hr, -⟩
  · rw [hn, List.append_nil]
  · -- a fragment that makes a record is registered
    have hx := (fate_eq_refused_iff.1 hr).1
    rw [(fate_eq_registered_iff_of_pairwise h hf).2 hx] at hr
    cases hr

/-- **The notices of a batch without clashes** are those of loading its fragments and those of
reviewing their records. -/
theorem notices_eq (hsource : ∀ f ∈ batch, f.source ≠ none)
    (h : batch.Pairwise fun f g => ¬f.Clashes g) : notices batch =
      (batch.flatMap fun f => (f.load 0).notices) ++
        (batch.filterMap Fragment.record?).flatMap (recordNotices (registry batch)) := by
  have hturns : (batch.zipIdx.flatMap fun p => turnNotices batch p.1 p.2) =
      batch.flatMap fun f => (f.load 0).notices := by
    conv_rhs => rw [← List.zipIdx_map_fst 0 batch, List.flatMap_map]
    refine List.flatMap_congr fun p hp => ?_
    have hp := List.mem_zipIdx_iff_getElem?.1 hp
    exact turnNotices_eq (hsource _ (List.mem_of_getElem? hp)) h hp
  have hreviews : reviewNotices (registry batch) =
      (batch.filterMap Fragment.record?).flatMap (recordNotices (registry batch)) := by
    rw [← records_registry h, reviewNotices, Registry.reviewAll, List.flatMap_map, List.flatMap_map]
    rfl
  rw [notices, intake_notices, hturns, hreviews]

theorem lookup_eq_some_iff (h : batch.Pairwise fun f g => ¬f.Clashes g) {e : Entry} :
    (registry batch).lookup c s = some e ↔ ∃ f, batch[e.id]? = some f ∧
      f.record? = some e.record ∧ e.category = c ∧ Unicode.lowercase s ∈ e.names := by
  rw [(coherent_registry batch).lookup_iff, mem_entries_registry]
  constructor
  · rintro ⟨⟨f, hf, -, hx⟩, hc, hs⟩
    exact ⟨f, hf, hx, hc, hs⟩
  · rintro ⟨f, hf, hx, hc, hs⟩
    exact ⟨⟨f, hf, (fate_eq_registered_iff_of_pairwise h hf).2 (by simp [hx]), hx⟩, hc, hs⟩

/-- In a batch without clashes, a name leads to the record of the fragment that claims it. -/
theorem lookup_record_eq_some_iff (h : batch.Pairwise fun f g => ¬f.Clashes g) {x : Record} :
    ((registry batch).lookup c s).map Entry.record = some x ↔
      ∃ f ∈ batch, f.record? = some x ∧ x.category = c ∧ Unicode.lowercase s ∈ x.names := by
  rw [Option.map_eq_some_iff]
  simp only [lookup_eq_some_iff h]
  constructor
  · rintro ⟨e, ⟨f, hf, hx, hc, hs⟩, rfl⟩
    exact ⟨f, List.mem_of_getElem? hf, hx, hc, hs⟩
  · rintro ⟨f, hf, hx, hc, hs⟩
    obtain ⟨i, hi⟩ := List.mem_iff_getElem?.1 hf
    exact ⟨⟨i, x⟩, ⟨f, hi, hx, hc, hs⟩, rfl⟩

/-! ## Another order -/

/-- No two fragments of a batch clash, each says where it comes from, and `batch'` has the same ones
in another order. -/
structure Reorders (batch batch' : List Fragment) : Prop where
  perm : batch.Perm batch'
  source : ∀ f ∈ batch, f.source ≠ none
  names : batch.Pairwise fun f g => ¬f.Clashes g

namespace Reorders

theorem symm (h : Reorders batch batch') : Reorders batch' batch where
  perm := h.perm.symm
  source f hf := h.source f (h.perm.mem_iff.2 hf)
  names := (h.perm.pairwise_iff fun h h' => h h'.symm).1 h.names

theorem sameRecords (h : Reorders batch batch') :
    (registry batch).SameRecords (registry batch') := by
  intro c s
  refine Option.ext fun x => ?_
  rw [lookup_record_eq_some_iff h.names, lookup_record_eq_some_iff h.symm.names]
  simp only [h.perm.mem_iff]

/-- **Another order of the batch puts the notices into another order.** -/
theorem notices_perm (h : Reorders batch batch') : (notices batch).Perm (notices batch') := by
  have hreviews : recordNotices (registry batch) = recordNotices (registry batch') :=
    funext fun x => by rw [recordNotices, recordNotices, h.sameRecords.review]
  rw [notices_eq h.source h.names, notices_eq h.symm.source h.symm.names, hreviews]
  exact (h.perm.flatMap_right _).append ((h.perm.filterMap _).flatMap_right _)

/-- Only one fragment of the batch claims a name. -/
theorem eq_of_names (h : Reorders batch batch') {f g : Fragment} (hf : f ∈ batch) (hg : g ∈ batch)
    {x y : Record} (hx : f.record? = some x) (hy : g.record? = some y)
    (hc : x.category = y.category) {n : String} (hnx : n ∈ x.names) (hny : n ∈ y.names) :
    f = g := by
  by_contra hne
  obtain ⟨hfc, hfn, -⟩ := Fragment.of_record? hx
  obtain ⟨hgc, hgn, -⟩ := Fragment.of_record? hy
  refine h.names.forall hf hg hne ⟨?_, n, hfn ▸ hnx, hgn ▸ hny⟩
  rw [hfc, hgc, hc]

end Reorders

/-- Two runs on the same fragments in different orders tell the same. -/
structure Reordered (batch batch' : List Fragment) (config : Config) : Prop where
  recordsChecked : (check batch config).report.recordsChecked =
    (check batch' config).report.recordsChecked
  hasErrors : (check batch config).report.hasErrors = (check batch' config).report.hasErrors
  /-- A name leads to a record in both runs or in none. -/
  lookup_isSome : ∀ c s, ((check batch config).registry.lookup c s).isSome =
    ((check batch' config).registry.lookup c s).isSome
  /-- What a name leads to is in both runs the record of the same fragment. -/
  lookup : ∀ c s e e', (check batch config).registry.lookup c s = some e →
    (check batch' config).registry.lookup c s = some e' →
    ∃ f, batch[e.id]? = some f ∧ (f.load e.id).record = some e.record ∧
      batch'[e'.id]? = some f ∧ (f.load e'.id).record = some e'.record
  /-- The same issues are under each name, in some order. -/
  issuesFor : ∀ name, ((check batch config).report.issuesFor name).Perm
    ((check batch' config).report.issuesFor name)

/-- **The order of a batch does not matter** if no two fragments clash and all have sources. -/
theorem reordered (batch batch' : List Fragment) (config : Config) (h : Reorders batch batch') :
    Reordered batch batch' config where
  recordsChecked := by
    rw [recordsChecked_check, recordsChecked_check, ← List.length_map Entry.record,
      records_registry h.names, ← List.length_map Entry.record, records_registry h.symm.names]
    exact (h.perm.filterMap _).length_eq
  hasErrors := by
    rw [Bool.eq_iff_iff, hasErrors_check_iff, hasErrors_check_iff]
    simp only [h.notices_perm.mem_iff]
  lookup_isSome := by
    rw [registry_check, registry_check]
    exact h.sameRecords.contains
  lookup c s e e' he he' := by
    rw [registry_check] at he he'
    obtain ⟨f, hf, hx, hc, hs⟩ := (lookup_eq_some_iff h.names).1 he
    obtain ⟨g, hg, hx', hc', hs'⟩ := (lookup_eq_some_iff h.symm.names).1 he'
    have hg' : g ∈ batch := h.perm.mem_iff.2 (List.mem_of_getElem? hg)
    obtain rfl := h.eq_of_names (List.mem_of_getElem? hf) hg' hx hx' (hc.trans hc'.symm) hs hs'
    exact ⟨f, hf, by rw [Fragment.load_record, hx], hg, by rw [Fragment.load_record, hx']⟩
  issuesFor name := by
    rw [issuesFor_check, issuesFor_check]
    exact (h.notices_perm.filter _).filterMap _

/-- A command and an event that refer to each other, and a block of tags without a name. -/
def pauseAndJump : List Fragment :=
  [{ category := "command", source := some "Pause.java:1"
     tags := [("name", "Pause"), ("description", "Pauses after <@link event player leaps>.")] },
   { category := "tag", source := some "Tags.java:7", tags := [("description", "")] },
   { category := "event", source := some "Jump.java:3"
     tags := [("events", "player jumps\nplayer leaps\npause"), ("triggers", "<@link command stop>"),
       ("regex", "^player jumps$")] }]

theorem reordered_pauseAndJump : Reorders pauseAndJump pauseAndJump.reverse ∧
    Reordered pauseAndJump pauseAndJump.reverse {} :=
  have h : Reorders pauseAndJump pauseAndJump.reverse :=
    ⟨(List.reverse_perm _).symm, by decide, by decide +kernel⟩
  ⟨h, reordered pauseAndJump pauseAndJump.reverse {} h⟩

end Batch

end DocLint

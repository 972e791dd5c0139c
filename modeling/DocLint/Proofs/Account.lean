import DocLint.Proofs.Intake
import DocLint.Proofs.Report
import DocLint.Proofs.Review

/-!
# Every fragment accounted for

What is found in a batch is found in its fragments: on loading one, on registering its record, and
on reviewing the record that it is registered as. Which of these there are hangs on the fate of the
fragment, so the kinds of issues in a report tell how many fragments met which fate.

* `Batch.accounted` says what becomes of the fragments, and what is found in each.
-/

namespace DocLint

/-! ## Kinds of findings -/

namespace Fragment

/-- Tags are found to be unrecognized, to hold no usable pattern, or to be repeated. -/
theorem kind_of_mem_tagFaults {f : Fragment} {c : Category} {x : Finding} (h : x ∈ f.tagFaults c) :
    x.kind = .unrecognizedKey ∨ x.kind = .invalidPattern ∨ x.kind = .duplicateTag := by
  rw [tagFaults, List.mem_append, List.mem_filterMap, List.mem_map] at h
  rcases h with ⟨t, -, ht⟩ | ⟨k, -, rfl⟩
  · unfold Category.fault? at ht
    split at ht
    · cases ht
      exact .inl rfl
    · unfold Key.complaint? at ht
      split at ht
      · split at ht
        · cases ht
          exact .inr (.inl rfl)
        · cases ht
      · cases ht
  · exact .inr (.inr rfl)

theorem countP_tagFaults {f : Fragment} {c : Category} {k : IssueKind} (hu : k ≠ .unrecognizedKey)
    (hp : k ≠ .invalidPattern) (ht : k ≠ .duplicateTag) :
    (f.tagFaults c).countP (·.kind == k) = 0 := by
  rw [List.countP_eq_zero]
  intro x hx hk
  obtain rfl := beq_iff_eq.1 hk
  rcases kind_of_mem_tagFaults hx with h | h | h
  · exact hu h
  · exact hp h
  · exact ht h

/-- Apart from its tags, a fragment of a category can only miss its name. -/
theorem countP_faults {f : Fragment} {c : Category} (h : f.category? = some c) {k : IssueKind}
    (hu : k ≠ .unrecognizedKey) (hp : k ≠ .invalidPattern) (ht : k ≠ .duplicateTag) :
    f.faults.countP (·.kind == k) =
      if f.declared = [] ∧ k = .missingRequiredField then 1 else 0 := by
  rw [faults_of_category? h, List.countP_append, countP_tagFaults hu hp ht, Nat.zero_add]
  by_cases hd : f.declared = []
  · by_cases hk : k = .missingRequiredField
    · subst hk
      simp [hd, Finding.kind]
    · have hne : (IssueKind.missingRequiredField == k) = false := beq_eq_false_iff_ne.2 (Ne.symm hk)
      simp [hd, hk, Finding.kind, hne]
  · simp [hd]

end Fragment

/-- The kinds of issues that a fragment of a category makes in its turn. -/
def IssueKind.ofTurns : List IssueKind :=
  [.unrecognizedKey, .invalidPattern, .duplicateTag, .missingRequiredField, .duplicateName]

/-- A fragment makes issues of these kinds, or its category is unknown. -/
theorem Fragment.kind_of_mem_faults {f : Fragment} {x : Finding} (h : x ∈ f.faults) :
    (f.category? = none ∧ x.kind = .unknownCategory) ∨
      f.category? ≠ none ∧ x.kind ∈ IssueKind.ofTurns := by
  cases hc : f.category? with
  | none =>
    rw [faults_of_category?_eq_none hc, List.mem_singleton] at h
    exact .inl ⟨rfl, h ▸ rfl⟩
  | some c =>
    refine .inr ⟨by simp, ?_⟩
    rw [faults_of_category? hc] at h
    rcases List.mem_append.1 h with h | h
    · rcases kind_of_mem_tagFaults h with h | h | h <;> simp [h, IssueKind.ofTurns]
    · split at h
      · rw [List.mem_singleton.1 h]
        exact .tail _ (.tail _ (.tail _ (.head _)))
      · cases h

/-! ## Issues of notices -/

namespace Notice

/-- Issues of a kind that no configuration drops are as many as the notices of that kind. -/
theorem countP_issues {config : Config} {k : IssueKind} (hk : (config.severity? k).isSome)
    (ns : List Notice) : (ns.filterMap (issue? config)).countP (·.kind == k) =
      ns.countP (·.finding.kind == k) := by
  induction ns with
  | nil => rfl
  | cons n rest ih =>
    rw [List.filterMap_cons, List.countP_cons, ← ih, issue?]
    cases hs : config.severity? n.finding.kind with
    | none =>
      have hne : n.finding.kind ≠ k := by
        rintro rfl
        simp [hs] at hk
      simp [hne]
    | some s => simp [List.countP_cons, Finding.toIssue]

end Notice

namespace Batch

/-! ## The notices of a batch -/

/-- What is found on registering a record is that a name is taken, and bears the name of the
record. -/
theorem of_mem_enroll {r : Registry .collecting} {i : Nat} {x? : Option Record} {n : Notice}
    (h : n ∈ (enroll r i x?).2) : ∃ x, x? = some x ∧ n.record = x.name ∧
      n.category = some x.category ∧ n.finding.kind = .duplicateName := by
  cases x? with
  | none => cases h
  | some x =>
    cases hr : r.register ⟨i, x⟩ with
    | ok _ r' =>
      rw [enroll_of_ok hr] at h
      cases h
    | error e r' =>
      obtain ⟨-, _, _, _, _, -, -, -, rfl⟩ := Registry.register_eq_error_iff.1 hr
      rw [enroll_of_error hr] at h
      obtain rfl := List.mem_singleton.1 h
      exact ⟨x, rfl, rfl, rfl, rfl⟩

/-- **All that is found in the turn of a fragment** is reported under one name and one category. -/
theorem of_mem_turnNotices {batch : List Fragment} {f : Fragment} {i : Nat} {n : Notice}
    (h : n ∈ turnNotices batch f i) : n.record = f.reportName i ∧ n.category = f.category? ∧
      ((f.category? = none ∧ n.finding.kind = .unknownCategory) ∨
        f.category? ≠ none ∧ n.finding.kind ∈ IssueKind.ofTurns) := by
  rw [turnNotices, Fragment.load_notices, Fragment.load_record, List.mem_append] at h
  rcases h with h | h
  · obtain ⟨x, hx, hn⟩ := List.mem_map.1 h
    refine ⟨by rw [← hn], by rw [← hn], ?_⟩
    rw [← hn]
    exact Fragment.kind_of_mem_faults hx
  · obtain ⟨x, hx, hname, hcat, hkind⟩ := of_mem_enroll h
    obtain ⟨hc, -, hhead⟩ := Fragment.of_record? hx
    refine ⟨?_, hcat.trans hc.symm, .inr ⟨by simp [hc], by simp [hkind, IssueKind.ofTurns]⟩⟩
    rw [hname, Fragment.reportName, hhead, Option.getD_some]

/-- What is found in a batch is found in the turn of a fragment or in the review of a record. -/
theorem mem_notices {batch : List Fragment} {n : Notice} : n ∈ notices batch ↔
    (∃ f i, batch[i]? = some f ∧ n ∈ turnNotices batch f i) ∨
      ∃ e ∈ (registry batch).entries, ∃ x ∈ (registry batch).review e.record,
        n = ⟨e.name, some e.category, x⟩ := by
  rw [notices, intake_notices, reviewNotices, Registry.reviewAll, List.flatMap_map]
  simp only [entryNotices, List.mem_append, List.mem_flatMap, List.mem_map, Prod.exists,
    List.mk_mem_zipIdx_iff_getElem?, eq_comm (a := n)]

/-! ## The issues of a fragment -/

/-- The issues of loading a fragment. -/
def loadIssues (config : Config) (f : Fragment) (i : Nat) : List Issue :=
  (f.load i).notices.filterMap (Notice.issue? config)

/-- The issues of registering the record of a fragment. -/
def refusalIssues (batch : List Fragment) (config : Config) (f : Fragment) (i : Nat) :
    List Issue :=
  (enroll (before batch i) i (f.load i).record).2.filterMap (Notice.issue? config)

/-- The issues of reviewing the entry with the number of a fragment, if there is one. -/
def reviewIssues (batch : List Fragment) (config : Config) (i : Nat) : List Issue :=
  (((registry batch).reviewAll.filter (·.1.id == i)).flatMap entryNotices).filterMap
    (Notice.issue? config)

/-- All issues of a fragment. -/
def fragmentIssues (batch : List Fragment) (config : Config) (f : Fragment) (i : Nat) :
    List Issue :=
  loadIssues config f i ++ refusalIssues batch config f i ++ reviewIssues batch config i

variable {batch : List Fragment} {config : Config} {f : Fragment} {i : Nat}

theorem reviewIssues_eq (h : batch[i]? = some f) : reviewIssues batch config i =
    ((enrolled? batch (f, i)).toList.flatMap fun e =>
      entryNotices (e, (registry batch).review e.record)).filterMap (Notice.issue? config) := by
  rw [reviewIssues, Registry.reviewAll, List.filter_map, List.flatMap_map,
    ← filter_entries_registry h]
  rfl

/-- Only registered fragments are reviewed. -/
theorem reviewIssues_eq_nil (hf : batch[i]? = some f) (h : fate batch f i ≠ .registered) :
    reviewIssues batch config i = [] := by
  have he : enrolled? batch (f, i) = none := if_neg h
  rw [reviewIssues_eq hf, he]
  rfl

/-- **The issues of a report are those of the fragments**, in another order. -/
theorem report_issues (batch : List Fragment) (config : Config) :
    (check batch config).report.issues.Perm
      (batch.zipIdx.flatMap fun p => fragmentIssues batch config p.1 p.2) := by
  have first : (intake .empty 0 batch).2.filterMap (Notice.issue? config) =
      batch.zipIdx.flatMap fun p =>
        loadIssues config p.1 p.2 ++ refusalIssues batch config p.1 p.2 := by
    rw [intake_notices, List.filterMap_flatMap]
    simp only [turnNotices, List.filterMap_append, loadIssues, refusalIssues]
  have second : (reviewNotices (registry batch)).filterMap (Notice.issue? config) =
      batch.zipIdx.flatMap fun p => reviewIssues batch config p.2 := by
    have hr : reviewNotices (registry batch) = (registry batch).entries.flatMap fun e =>
        entryNotices (e, (registry batch).review e.record) := by
      rw [reviewNotices, Registry.reviewAll, List.flatMap_map]
    rw [hr, entries_registry, List.filterMap_eq_flatMap_toList (enrolled? batch),
      List.flatMap_assoc, List.filterMap_flatMap]
    refine List.flatMap_congr fun p hp => ?_
    rw [reviewIssues_eq (List.mem_zipIdx_iff_getElem?.1 hp)]
  refine (issues_check batch config).trans ?_
  rw [notices, List.filterMap_append, first, second]
  exact List.flatMap_append_perm _ _ _

/-! ## How many of a kind -/

theorem countP_loadIssues {k : IssueKind} (hk : (config.severity? k).isSome) :
    (loadIssues config f i).countP (·.kind == k) = f.faults.countP (·.kind == k) := by
  rw [loadIssues, Notice.countP_issues hk, Fragment.load_notices, List.countP_map]
  rfl

theorem countP_refusalIssues {k : IssueKind} (hk : (config.severity? k).isSome) :
    (refusalIssues batch config f i).countP (·.kind == k) =
      if fate batch f i = .refused ∧ k = .duplicateName then 1 else 0 := by
  rw [refusalIssues, Notice.countP_issues hk, Fragment.load_record]
  rcases enroll_notices batch f i with ⟨hf, hn⟩ | ⟨hf, n, hn, hkind⟩
  · simp [hf, hn]
  · have hsymm : IssueKind.duplicateName = k ↔ k = .duplicateName := eq_comm
    simp [hf, hn, hkind, hsymm]

theorem countP_reviewIssues {k : IssueKind} (hk : (config.severity? k).isSome)
    (hr : k ∉ IssueKind.ofReviews) : (reviewIssues batch config i).countP (·.kind == k) = 0 := by
  rw [reviewIssues, Notice.countP_issues hk, List.countP_eq_zero]
  intro n hn hkind
  obtain rfl := beq_iff_eq.1 hkind
  obtain ⟨p, hp, hn⟩ := List.mem_flatMap.1 hn
  obtain ⟨e, -, rfl⟩ := List.mem_map.1 (List.mem_filter.1 hp).1
  obtain ⟨x, hx, rfl⟩ := List.mem_map.1 hn
  exact hr (Registry.kind_of_mem_review hx)

theorem countP_unknownCategory : (fragmentIssues batch config f i).countP
    (·.kind == .unknownCategory) = if fate batch f i = .unknownCategory then 1 else 0 := by
  rw [fragmentIssues, List.countP_append, List.countP_append, countP_loadIssues rfl,
    countP_refusalIssues rfl, countP_reviewIssues rfl (by decide), if_neg (by simp)]
  simp only [fate_eq_unknownCategory_iff]
  cases hc : f.category? with
  | none => simp [Fragment.faults_of_category?_eq_none hc, Finding.kind]
  | some c => simp [Fragment.countP_faults hc]

theorem countP_duplicateName : (fragmentIssues batch config f i).countP
    (·.kind == .duplicateName) = if fate batch f i = .refused then 1 else 0 := by
  rw [fragmentIssues, List.countP_append, List.countP_append, countP_loadIssues rfl,
    countP_refusalIssues rfl, countP_reviewIssues rfl (by decide)]
  simp only [and_true, Nat.add_zero]
  cases hc : f.category? with
  | none => simp [Fragment.faults_of_category?_eq_none hc, Finding.kind]
  | some c => simp [Fragment.countP_faults hc]

/-- A kind of issues that comes once with each fragment of a fate counts these fragments. -/
theorem countKind_eq {k : IssueKind} {a : Fate} (h : ∀ f i, (fragmentIssues batch config f i).countP
    (·.kind == k) = if fate batch f i = a then 1 else 0) :
    (check batch config).report.countKind k =
      batch.zipIdx.countP fun p => fate batch p.1 p.2 = a := by
  rw [Report.countKind, (report_issues batch config).countP_eq, List.countP_flatMap]
  simp only [Function.comp_def, h]
  induction batch.zipIdx with
  | nil => rfl
  | cons p rest ih => simp only [List.map_cons, List.sum_cons, List.countP_cons, ih,
      decide_eq_true_eq, Nat.add_comm]

theorem enrolled?_isSome_iff {p : Fragment × Nat} :
    (enrolled? batch p).isSome ↔ fate batch p.1 p.2 = .registered := by
  rw [Option.isSome_iff_exists]
  constructor
  · rintro ⟨e, he⟩
    exact (enrolled?_eq_some_iff.1 he).1
  · intro h
    obtain ⟨x, _, hx, -⟩ := fate_eq_registered_iff_register.1 h
    exact ⟨⟨p.2, x⟩, enrolled?_eq_some_iff.2 ⟨h, hx, rfl⟩⟩

theorem recordsChecked_eq (batch : List Fragment) (config : Config) :
    (check batch config).report.recordsChecked =
      batch.zipIdx.countP fun p => fate batch p.1 p.2 = .registered := by
  rw [recordsChecked_check, entries_registry, List.length_filterMap_eq_countP]
  refine List.countP_congr fun p _ => ?_
  rw [enrolled?_isSome_iff, decide_eq_true_iff]

theorem length_eq_countP_fates {α : Type} (l : List α) (g : α → Fate) : l.length =
    l.countP (g · = .registered) + l.countP (g · = .unknownCategory) + l.countP (g · = .refused) +
      l.countP (g · = .nameless) := by
  induction l with
  | nil => rfl
  | cons a rest ih =>
    simp only [List.length_cons, List.countP_cons, ih]
    cases g a <;> simp <;> omega

/-! ## The issues of each fate -/

/-- The category is the only thing that is found wrong if it does not exist. -/
theorem fragmentIssues_of_unknownCategory (hf : batch[i]? = some f)
    (h : fate batch f i = .unknownCategory) :
    ∃ x, fragmentIssues batch config f i = [x] ∧ x.kind = .unknownCategory := by
  have hc := fate_eq_unknownCategory_iff.1 h
  have hx : f.record? = none := Fragment.record?_eq_none (Fragment.declared_eq_nil hc)
  have hreview : reviewIssues batch config i = [] := reviewIssues_eq_nil hf (by simp [h])
  rw [fragmentIssues, loadIssues, refusalIssues, hreview, Fragment.load_record, hx,
    Fragment.load_notices, Fragment.faults_of_category?_eq_none hc]
  exact ⟨_, rfl, rfl⟩

/-- Loading a nameless fragment finds once that a field is missing. -/
theorem countP_loadIssues_of_nameless (h : fate batch f i = .nameless) :
    (loadIssues config f i).countP (·.kind == .missingRequiredField) = 1 := by
  obtain ⟨hc, hx⟩ := fate_eq_nameless_iff.1 h
  obtain ⟨c, hc⟩ := Option.ne_none_iff_exists'.1 hc
  rw [countP_loadIssues rfl, Fragment.countP_faults hc (by decide) (by decide) (by decide),
    if_pos ⟨Fragment.record?_eq_none_iff.1 hx, rfl⟩]

/-! ## The account -/

/-- What becomes of the fragments of a batch, and what is found in each of them. -/
structure Accounted (batch : List Fragment) (config : Config) : Prop where
  /-- The issues of the report are those of the fragments. -/
  issues : (check batch config).report.issues.Perm
    (batch.zipIdx.flatMap fun p => fragmentIssues batch config p.1 p.2)
  /-- The record of a fragment is of its category and has its names. -/
  names : ∀ (f : Fragment) (i : Nat) (x : Record), (f.load i).record = some x →
    Category.read f.category = .ok x.category ∧ x.names = f.names
  /-- A fragment has an unknown category exactly if its category cannot be read. -/
  unknownCategory_iff : ∀ f i,
    fate batch f i = .unknownCategory ↔ ∃ e, Category.read f.category = .error e
  /-- A fragment is nameless exactly if the last value of the name key, if any, holds no name. -/
  nameless_iff : ∀ f i, fate batch f i = .nameless ↔ ∃ c, Category.read f.category = .ok c ∧
    ∀ v, Tags.last? f.tags c.nameKey = some v → c.namesIn v = []
  /-- A fragment is refused exactly if it makes a record and an earlier registered fragment holds
  one of its names. -/
  refused_iff : ∀ f i, fate batch f i = .refused ↔ (f.load i).record ≠ none ∧
    ∃ g j, j < i ∧ batch[j]? = some g ∧ fate batch g j = .registered ∧ g.Clashes f
  /-- A fragment is registered exactly if it makes a record and no earlier registered fragment holds
  one of its names. -/
  registered_iff : ∀ f i, fate batch f i = .registered ↔ (f.load i).record ≠ none ∧
    ∀ g j, j < i → batch[j]? = some g → fate batch g j = .registered → ¬g.Clashes f
  /-- An unknown category is the only issue of its fragment. -/
  unknownCategory_issues : ∀ f i, batch[i]? = some f → fate batch f i = .unknownCategory →
    ∃ x, fragmentIssues batch config f i = [x] ∧ x.kind = .unknownCategory
  /-- A nameless fragment misses one field on loading. -/
  nameless_issues : ∀ f i, fate batch f i = .nameless →
    (loadIssues config f i).countP (·.kind == .missingRequiredField) = 1
  /-- A refused fragment has one issue that a name is taken, and the others have none. -/
  refused_issues : ∀ f i, (fragmentIssues batch config f i).countP (·.kind == .duplicateName) =
    if fate batch f i = .refused then 1 else 0
  /-- Only registered fragments are reviewed. -/
  review_issues : ∀ f i, batch[i]? = some f → fate batch f i ≠ .registered →
    reviewIssues batch config i = []
  /-- The registry lists the records of the registered fragments in the order of the batch. -/
  entries : (check batch config).registry.entries = batch.zipIdx.filterMap fun p =>
    if fate batch p.1 p.2 = .registered then (p.1.load p.2).record.map (⟨p.2, ·⟩) else none
  /-- The number of checked records is their number. -/
  recordsChecked : (check batch config).report.recordsChecked =
    (check batch config).registry.entries.length
  /-- No fragment is lost. -/
  conservation : batch.length = (check batch config).report.recordsChecked +
    (check batch config).report.countKind .unknownCategory +
    (check batch config).report.countKind .duplicateName +
    batch.zipIdx.countP fun p => fate batch p.1 p.2 = .nameless

/-- **Every fragment has one fate, and is accounted for.** -/
theorem accounted (batch : List Fragment) (config : Config) : Accounted batch config where
  issues := report_issues batch config
  names f i x h := by
    rw [Fragment.load_record] at h
    obtain ⟨hc, hn, -⟩ := Fragment.of_record? h
    exact ⟨Fragment.category?_eq_some_iff.1 hc, hn⟩
  unknownCategory_iff f i := by
    rw [fate_eq_unknownCategory_iff, Fragment.category?_eq_none_iff]
    refine ⟨fun h => ⟨_, h⟩, ?_⟩
    rintro ⟨e, he⟩
    exact Fragment.category?_eq_none_iff.1 (by simp [Fragment.category?, he, Except.toOption])
  nameless_iff f i := by
    rw [fate_eq_nameless_iff, Fragment.record?_eq_none_iff]
    simp only [← Fragment.category?_eq_some_iff]
    constructor
    · rintro ⟨hc, hd⟩
      obtain ⟨c, hc⟩ := Option.ne_none_iff_exists'.1 hc
      exact ⟨c, hc, (Fragment.declared_eq_nil_iff hc).1 hd⟩
    · rintro ⟨c, hc, hd⟩
      exact ⟨by simp [hc], (Fragment.declared_eq_nil_iff hc).2 hd⟩
  refused_iff f i := by
    rw [Fragment.load_record]
    exact fate_eq_refused_iff
  registered_iff f i := by
    rw [Fragment.load_record]
    exact fate_eq_registered_iff
  unknownCategory_issues _ _ hf h := fragmentIssues_of_unknownCategory hf h
  nameless_issues _ _ h := countP_loadIssues_of_nameless h
  refused_issues _ _ := countP_duplicateName
  review_issues _ _ hf h := reviewIssues_eq_nil hf h
  entries := by
    rw [registry_check, entries_registry]
    simp only [Fragment.load_record]
    rfl
  recordsChecked := by rw [recordsChecked_check, registry_check]
  conservation := by
    rw [recordsChecked_eq, countKind_eq fun f i => countP_unknownCategory,
      countKind_eq fun f i => countP_duplicateName, ← length_eq_countP_fates, List.length_zipIdx]

end Batch

end DocLint

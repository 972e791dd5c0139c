import DocLint.Proofs.Account

/-!
# Issues and the fragments that cause them

Three places give the name under which a fragment is reported: its tags while it is loaded, its
record when that is registered, and its entry in the registry when that is reviewed. They never
differ (`Batch.attributed_of_mem_fragmentIssues`): all issues of a fragment bear one name and one
category, those of its record if it makes one. In the report every issue is filed under the name
that it bears. The main statement is `Batch.attributed`.
-/

namespace DocLint

namespace Fragment

variable {f : Fragment} {x : Record}

/-- A fragment that makes a record is reported under its name. -/
theorem reportName_of_record? (h : f.record? = some x) (i : Nat) : f.reportName i = x.name := by
  rw [reportName, (of_record? h).2.2, Option.getD_some]

/-- A fragment that makes none is reported under its placeholder. -/
theorem reportName_of_record?_eq_none (h : f.record? = none) (i : Nat) :
    f.reportName i = f.placeholder i := by
  rw [reportName, record?_eq_none_iff.1 h, List.head?_nil, Option.getD_none]

end Fragment

/-! ## Reports -/

namespace Report

/-- Every issue is filed under the name that it bears. -/
def Filed (r : Report) : Prop := ∀ p ∈ r.folders, p.2 ≠ [] ∧ ∀ y ∈ p.2, y.record = p.1

theorem filed_of_issuesFor {r : Report} (hfull : r.folders.Full)
    (h : ∀ name, ∀ y ∈ r.issuesFor name, y.record = name) : r.Filed := by
  rintro ⟨name, is⟩ hp
  obtain ⟨hget, hne⟩ := (Folders.mem_iff r.ordered hfull).1 hp
  refine ⟨hne, fun y hy => h name y ?_⟩
  rwa [issuesFor, hget]

end Report

namespace Batch

variable {batch : List Fragment} {config : Config} {f : Fragment} {i : Nat} {y : Issue}

/-! ## The three sources of names -/

/-- The review of an entry is reported as its fragment is. -/
theorem attributed_of_mem_reviewIssues (hf : batch[i]? = some f)
    (h : y ∈ reviewIssues batch config i) :
    y.record = f.reportName i ∧ y.category = f.category? := by
  rw [reviewIssues_eq hf, List.mem_filterMap] at h
  obtain ⟨n, hn, hy⟩ := h
  obtain ⟨e, he, hn⟩ := List.mem_flatMap.1 hn
  obtain ⟨x, -, rfl⟩ := List.mem_map.1 hn
  obtain ⟨s, -, rfl⟩ := Notice.issue?_eq_some_iff.1 hy
  obtain ⟨-, hx, -⟩ := enrolled?_eq_some_iff.1 (Option.mem_toList.1 he)
  exact ⟨(Fragment.reportName_of_record? hx i).symm, (Fragment.of_record? hx).1.symm⟩

/-- **All issues of a fragment bear one name and one category.** -/
theorem attributed_of_mem_fragmentIssues (hf : batch[i]? = some f)
    (h : y ∈ fragmentIssues batch config f i) :
    y.record = f.reportName i ∧ y.category = f.category? := by
  rw [fragmentIssues, loadIssues, refusalIssues, ← List.filterMap_append, List.mem_append] at h
  rcases h with h | h
  · obtain ⟨n, hn, hy⟩ := List.mem_filterMap.1 h
    obtain ⟨hname, hcat, -⟩ := of_mem_turnNotices hn
    obtain ⟨s, -, rfl⟩ := Notice.issue?_eq_some_iff.1 hy
    exact ⟨hname, hcat⟩
  · exact attributed_of_mem_reviewIssues hf h

/-! ## The whole report -/

/-- A notice lacks a category exactly if it says that there is no such category. -/
theorem category_eq_none_iff {n : Notice} (h : n ∈ notices batch) :
    n.category = none ↔ n.finding.kind = .unknownCategory := by
  rcases mem_notices.1 h with ⟨f, i, -, h⟩ | ⟨e, -, x, hx, rfl⟩
  · obtain ⟨-, hcat, ⟨hc, hk⟩ | ⟨hc, hk⟩⟩ := of_mem_turnNotices h
    · simp [hcat, hc, hk]
    · rw [hcat, iff_false_left hc]
      exact fun hunknown => absurd (hunknown ▸ hk) (by decide)
  · have hk := Registry.kind_of_mem_review hx
    simp only [reduceCtorEq, false_iff]
    exact fun hunknown => absurd (hunknown ▸ hk) (by decide)

theorem filed_check (batch : List Fragment) (config : Config) :
    (check batch config).report.Filed := by
  refine Report.filed_of_issuesFor (full_check batch config) fun name y hy => ?_
  rw [issuesFor_check] at hy
  obtain ⟨n, hn, hy⟩ := List.mem_filterMap.1 hy
  rw [Notice.record_of_issue? hy]
  exact beq_iff_eq.1 (List.mem_filter.1 hn).2

/-- Who the issues of a batch are attributed to. -/
structure Attributed (batch : List Fragment) (config : Config) : Prop where
  /-- The issues of the report are those that the fragments cause. -/
  issues : (check batch config).report.issues.Perm
    (batch.zipIdx.flatMap fun p => fragmentIssues batch config p.1 p.2)
  /-- If a fragment makes a record, all its issues bear the name and the category of that. -/
  record : ∀ f i x, batch[i]? = some f → (f.load i).record = some x →
    ∀ y ∈ fragmentIssues batch config f i, y.record = x.name ∧ y.category = some x.category
  /-- If it makes none, they bear its placeholder and its category. -/
  placeholder : ∀ f i c, batch[i]? = some f → Category.read f.category = .ok c →
    (f.load i).record = none →
    ∀ y ∈ fragmentIssues batch config f i, y.record = f.placeholder i ∧ y.category = some c
  /-- If its category does not exist, they bear its placeholder and no category. -/
  unknown : ∀ f i e, batch[i]? = some f → Category.read f.category = .error e →
    ∀ y ∈ fragmentIssues batch config f i, y.record = f.placeholder i ∧ y.category = none
  /-- Every issue is filed under the name that it bears, and under each name there is one. -/
  filed : (check batch config).report.Filed
  /-- An issue lacks a category exactly if it says that there is no such category. -/
  category : ∀ y ∈ (check batch config).report.issues,
    y.category = none ↔ y.kind = .unknownCategory
  /-- The severity of an issue is the one that the configuration gives to its kind. -/
  severity : ∀ y ∈ (check batch config).report.issues, config.severity? y.kind = some y.severity

/-- **Every issue is attributed to the fragment that causes it**, under one name and one category
for each fragment. -/
theorem attributed (batch : List Fragment) (config : Config) : Attributed batch config where
  issues := report_issues batch config
  record f i x hf hx y hy := by
    rw [Fragment.load_record] at hx
    rw [← Fragment.reportName_of_record? hx i, ← (Fragment.of_record? hx).1]
    exact attributed_of_mem_fragmentIssues hf hy
  placeholder f i c hf hc hx y hy := by
    rw [Fragment.load_record] at hx
    rw [← Fragment.reportName_of_record?_eq_none hx i, ← Fragment.category?_eq_some_iff.2 hc]
    exact attributed_of_mem_fragmentIssues hf hy
  unknown f i e hf hc y hy := by
    have hnone : f.category? = none := by simp [Fragment.category?, hc, Except.toOption]
    have hx := Fragment.record?_eq_none (Fragment.declared_eq_nil hnone)
    rw [← Fragment.reportName_of_record?_eq_none hx i, ← hnone]
    exact attributed_of_mem_fragmentIssues hf hy
  filed := filed_check batch config
  category y hy := by
    rw [(issues_check batch config).mem_iff, List.mem_filterMap] at hy
    obtain ⟨n, hn, hy⟩ := hy
    obtain ⟨s, -, rfl⟩ := Notice.issue?_eq_some_iff.1 hy
    exact category_eq_none_iff hn
  severity y hy := by
    rw [(issues_check batch config).mem_iff, List.mem_filterMap] at hy
    obtain ⟨n, -, hy⟩ := hy
    obtain ⟨s, hs, rfl⟩ := Notice.issue?_eq_some_iff.1 hy
    exact hs

end Batch

end DocLint

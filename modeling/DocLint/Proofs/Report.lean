import DocLint.Proofs.Notices
import Mathlib.Data.List.Perm.Basic

/-!
# The issues of a report

A report sorts its issues by the names of records, so filing an issue only says where among the
others it comes. As a collection the issues of a report are those that were filed, each as often as
it was filed (`Report.issues_pushAll`): what is counted in a report may be counted before it is
filed. Under each name are the issues that were filed under it, in the order in which they came
(`Report.issuesFor_pushAll`), and a report into which issues were filed has nothing in it beyond
that: two such reports are the same if the same issues are under each name
(`Report.eq_of_issuesFor`). For a batch, what is filed are the issues of its notices
(`Batch.issuesFor_check`).
-/

namespace DocLint

namespace Folders

theorem issues_alter (name : String) (i : Issue) (fs : Folders) :
    ((alter name (· ++ [i]) fs).flatMap Prod.snd).Perm (i :: fs.flatMap Prod.snd) := by
  induction fs with
  | nil => exact .refl _
  | cons p rest ih =>
    obtain ⟨n, is⟩ := p
    unfold alter
    split
    · exact .refl _
    · split
      · -- the issue comes behind the others of its name
        simp only [List.flatMap_cons, List.append_assoc, List.singleton_append]
        exact List.perm_middle
      · simp only [List.flatMap_cons]
        exact (ih.append_left is).trans List.perm_middle

/-! ## What is under a name -/

variable {fs gs : Folders} {n name : String} {is : List Issue}

@[simp] theorem get_nil (n : String) : get [] n = [] := rfl

theorem get_cons (name : String) (is : List Issue) (fs : Folders) (n : String) :
    get ((name, is) :: fs) n = if n = name then is else get fs n := by
  rw [get, List.lookup_cons, get]
  by_cases h : n = name
  · simp [h]
  · rw [if_neg h, beq_eq_false_iff_ne.2 h]

theorem get_eq_nil (h : n ∉ fs.names) : fs.get n = [] := by
  induction fs with
  | nil => rfl
  | cons p fs ih =>
    rw [names, List.map_cons, List.mem_cons, not_or] at h
    rw [get_cons, if_neg h.1, ih h.2]

theorem ordered_cons : Ordered ((name, is) :: fs) ↔ (∀ n ∈ fs.names, name < n) ∧ fs.Ordered :=
  List.pairwise_cons

/-- **Changing what is under a name** changes nothing else. -/
theorem get_alter (h : fs.Ordered) (name : String) (f : List Issue → List Issue) (n : String) :
    (alter name f fs).get n = if n = name then f (fs.get name) else fs.get n := by
  induction fs with
  | nil => rw [alter, get_cons, get_nil, get_nil]
  | cons p fs ih =>
    obtain ⟨m, is⟩ := p
    obtain ⟨hm, hfs⟩ := ordered_cons.1 h
    unfold alter
    split
    · -- the name is new, being in front of all that are there
      rename_i hlt
      have hnew : name ∉ names ((m, is) :: fs) := by
        intro hmem
        rcases List.mem_cons.1 hmem with rfl | hmem
        · exact String.lt_irrefl _ hlt
        · exact String.lt_irrefl _ (String.lt_trans hlt (hm name hmem))
      rw [get_cons, get_eq_nil hnew]
    · split
      · rename_i heq
        subst heq
        simp only [get_cons, if_true]
        split <;> rfl
      · rename_i hne
        simp only [get_cons, ih hfs, if_neg hne]
        split
        · rename_i hn
          subst hn
          rw [if_neg (Ne.symm hne)]
        · rfl

/-! ## Folders without gaps -/

/-- No folder is empty. -/
def Full (fs : Folders) : Prop := ∀ p ∈ fs, p.2 ≠ []

theorem full_alter (h : fs.Full) {f : List Issue → List Issue} (hf : ∀ is, f is ≠ []) :
    (alter name f fs).Full := by
  induction fs with
  | nil => simp [alter, Full, hf]
  | cons p fs ih =>
    obtain ⟨hp, hfs⟩ := List.forall_mem_cons.1 h
    unfold alter
    split
    · exact List.forall_mem_cons.2 ⟨hf [], h⟩
    · split
      · exact List.forall_mem_cons.2 ⟨hf _, hfs⟩
      · exact List.forall_mem_cons.2 ⟨hp, ih hfs⟩

/-- What is in a folder is what is found under its name. -/
theorem mem_iff (ho : fs.Ordered) (hf : fs.Full) :
    (n, is) ∈ fs ↔ fs.get n = is ∧ is ≠ [] := by
  induction fs with
  | nil => simp [eq_comm]
  | cons p fs ih =>
    obtain ⟨m, js⟩ := p
    obtain ⟨hm, ho⟩ := ordered_cons.1 ho
    obtain ⟨hjs, hf⟩ := List.forall_mem_cons.1 hf
    rw [List.mem_cons, get_cons, ih ho hf, Prod.mk.injEq]
    split
    · rename_i hn
      subst hn
      have hnone : get fs n = [] := get_eq_nil fun hmem => String.lt_irrefl _ (hm n hmem)
      rw [hnone]
      constructor
      · rintro (⟨-, rfl⟩ | ⟨rfl, hne⟩)
        · exact ⟨rfl, hjs⟩
        · exact absurd rfl hne
      · rintro ⟨rfl, -⟩
        exact .inl ⟨rfl, rfl⟩
    · rename_i hn
      simp [hn]

/-- Two folders in order and without gaps are the same if the same is under each name. -/
theorem eq_of_get (hfs : fs.Ordered) (hfs' : fs.Full) (hgs : gs.Ordered) (hgs' : gs.Full)
    (h : ∀ n, fs.get n = gs.get n) : fs = gs := by
  have nodup : ∀ {fs : Folders}, fs.Ordered → fs.Nodup := fun ho => by
    refine (List.pairwise_map.1 ho).imp fun {p q} hlt => ?_
    rintro rfl
    exact String.lt_irrefl _ hlt
  have hperm : fs.Perm gs := (List.perm_ext_iff_of_nodup (nodup hfs) (nodup hgs)).2 fun p => by
    rw [mem_iff hfs hfs', mem_iff hgs hgs', h]
  refine hperm.eq_of_pairwise (fun p q _ _ hpq hqp => ?_) (List.pairwise_map.1 hfs)
    (List.pairwise_map.1 hgs)
  exact absurd (String.lt_trans hpq hqp) (String.lt_irrefl _)

end Folders

namespace Report

variable {r s : Report}

theorem issues_push (r : Report) (i : Issue) : (r.push i).issues.Perm (i :: r.issues) :=
  Folders.issues_alter i.record i r.folders

/-- **The issues of a report are those that were filed.** -/
theorem issues_pushAll (r : Report) (is : List Issue) :
    (r.pushAll is).issues.Perm (r.issues ++ is) := by
  induction is generalizing r with
  | nil => simp [pushAll]
  | cons i rest ih =>
    change ((r.push i).pushAll rest).issues.Perm _
    refine (ih _).trans (((issues_push r i).append_right rest).trans ?_)
    exact List.perm_middle.symm

/-- **Under a name are the issues that were filed under it**, in the order in which they came. -/
theorem issuesFor_pushAll (r : Report) (is : List Issue) (name : String) :
    (r.pushAll is).issuesFor name = r.issuesFor name ++ is.filter (·.record == name) := by
  induction is generalizing r with
  | nil => simp [pushAll]
  | cons i rest ih =>
    have hpush : (r.push i).issuesFor name =
        if name = i.record then r.issuesFor i.record ++ [i] else r.issuesFor name :=
      Folders.get_alter r.ordered _ _ _
    change ((r.push i).pushAll rest).issuesFor name = _
    rw [ih, hpush, List.filter_cons]
    by_cases h : name = i.record
    · simp [h]
    · simp [h, Ne.symm h]

theorem full_pushAll (h : r.folders.Full) (is : List Issue) : (r.pushAll is).folders.Full := by
  induction is generalizing r with
  | nil => exact h
  | cons i rest ih => exact ih (r := r.push i) (Folders.full_alter h (by simp))

/-- Reports are the same if the same issues are under each name. -/
theorem eq_of_issuesFor (hr : r.folders.Full) (hs : s.folders.Full)
    (hrecords : r.recordsChecked = s.recordsChecked) (h : ∀ n, r.issuesFor n = s.issuesFor n) :
    r = s := by
  have hfolders := Folders.eq_of_get r.ordered hr s.ordered hs h
  cases r
  cases s
  simp only at hrecords hfolders
  subst hrecords hfolders
  rfl

@[simp] theorem recordsChecked_pushAll (r : Report) (is : List Issue) :
    (r.pushAll is).recordsChecked = r.recordsChecked := by
  induction is generalizing r with
  | nil => rfl
  | cons i rest ih => exact ih (r.push i)

theorem isEmpty_iff {r : Report} : r.isEmpty = true ↔ r.issues = [] := by
  rw [isEmpty, size, beq_iff_eq, List.length_eq_zero_iff]

theorem hasErrors_iff : r.hasErrors = true ↔ ∃ i ∈ r.issues, i.severity = .error := by
  simp [hasErrors, errorCount, List.countP_pos_iff]

end Report

/-! ## The report of a batch -/

namespace Notice

variable {config : Config} {n : Notice} {i : Issue}

theorem issue?_eq_some_iff : n.issue? config = some i ↔
    ∃ s, config.severity? n.finding.kind = some s ∧
      n.finding.toIssue n.record n.category s = i := by
  rw [issue?, Option.map_eq_some_iff]

/-- An issue is filed under the record of its notice. -/
theorem record_of_issue? (h : n.issue? config = some i) : i.record = n.record := by
  obtain ⟨s, -, rfl⟩ := issue?_eq_some_iff.1 h
  rfl

/-- The issues of a record are those of its notices. -/
theorem filter_issues (config : Config) (ns : List Notice) (name : String) :
    (ns.filterMap (issue? config)).filter (·.record == name) =
      (ns.filter (·.record == name)).filterMap (issue? config) := by
  rw [List.filter_filterMap, List.filterMap_filter]
  refine List.filterMap_congr fun n _ => ?_
  cases hi : n.issue? config with
  | none => simp
  | some i => simp [Option.filter_some, record_of_issue? hi]

end Notice

namespace Batch

variable (batch : List Fragment) (config : Config)

theorem registry_check : (check batch config).registry = registry batch := by
  rw [check_eq]

theorem recordsChecked_check :
    (check batch config).report.recordsChecked = (registry batch).entries.length := by
  rw [check_eq, Report.noteAll_recordsChecked]
  rfl

/-- The issues of a batch are those of its notices. -/
theorem issues_check : (check batch config).report.issues.Perm
    ((notices batch).filterMap (Notice.issue? config)) := by
  rw [check_eq, Report.noteAll_eq_pushAll]
  exact Report.issues_pushAll _ _

/-- The issues of a record are those of its notices, in their order. -/
theorem issuesFor_check (name : String) : (check batch config).report.issuesFor name =
    ((notices batch).filter (·.record == name)).filterMap (Notice.issue? config) := by
  rw [check_eq, Report.noteAll_eq_pushAll, ← Notice.filter_issues]
  exact Report.issuesFor_pushAll _ _ _

theorem full_check : (check batch config).report.folders.Full := by
  rw [check_eq, Report.noteAll_eq_pushAll]
  exact Report.full_pushAll (by simp [Folders.Full, Report.empty]) _

theorem hasErrors_check_iff : (check batch config).report.hasErrors = true ↔
    ∃ n ∈ notices batch, config.severity? n.finding.kind = some .error := by
  rw [Report.hasErrors_iff]
  simp only [(issues_check batch config).mem_iff, List.mem_filterMap, Notice.issue?_eq_some_iff]
  constructor
  · rintro ⟨i, ⟨n, hn, s, hs, rfl⟩, rfl⟩
    exact ⟨n, hn, hs⟩
  · rintro ⟨n, hn, hs⟩
    exact ⟨_, ⟨n, hn, _, hs, rfl⟩, rfl⟩

end Batch

end DocLint

import DocLint.Proofs.Attribution

/-!
# A report as a log

A report into which issues were filed one after the other says neither more nor less than they do.
Its issues are theirs in the order of a stable sort by the names of records: the names ascend, and
under each name the issues keep the order in which they were filed. Sorted in this way there is only
one list (`Issue.eq_of_pairwise_of_filter`), so the folders of a report and a sort of the whole log
give the same. What a report counts and what it finds for a name are read off the log. The main
statement is `Report.logs_pushAll`.
-/

namespace DocLint

/-! ## Stable sorts by record -/

namespace Issue

/-- Whether the name of the record of an issue is not behind that of another, in the order of code
points. -/
def sortsBefore (i j : Issue) : Bool := i.record ≤ j.record

theorem sortsBefore_iff {i j : Issue} : i.sortsBefore j = true ↔ i.record ≤ j.record := by
  simp [sortsBefore]

theorem sortsBefore_trans (i j k : Issue) (hij : i.sortsBefore j = true)
    (hjk : j.sortsBefore k = true) : i.sortsBefore k = true := by
  rw [sortsBefore_iff] at *
  exact String.le_trans hij hjk

theorem sortsBefore_total (i j : Issue) : (i.sortsBefore j || j.sortsBefore i) = true := by
  rw [Bool.or_eq_true, sortsBefore_iff, sortsBefore_iff]
  exact String.le_total i.record j.record

/-- Sorting keeps the order of the issues of one record. -/
theorem filter_mergeSort (is : List Issue) (name : String) :
    (is.mergeSort sortsBefore).filter (·.record == name) = is.filter (·.record == name) := by
  have hsame : (is.filter (·.record == name)).Pairwise fun i j => i.sortsBefore j = true := by
    apply List.pairwise_of_forall_mem_list
    intro i hi j hj
    have hi : i.record = name := by simpa using (List.mem_filter.1 hi).2
    have hj : j.record = name := by simpa using (List.mem_filter.1 hj).2
    simp [sortsBefore, hi, hj]
  have hsub := (List.sublist_mergeSort sortsBefore_trans sortsBefore_total hsame
    List.filter_sublist).filter (·.record == name)
  rw [List.filter_filter] at hsub
  simp only [Bool.and_self] at hsub
  have hlength := ((List.mergeSort_perm is sortsBefore).filter (·.record == name)).length_eq
  exact (hsub.eq_of_length_le hlength.le).symm

/-- **Sorted in a stable way there is only one list**: the names of the records ascend, and the
issues of each record are given in their order. -/
theorem eq_of_pairwise_of_filter {is js : List Issue} (his : is.Pairwise (·.record ≤ ·.record))
    (hjs : js.Pairwise (·.record ≤ ·.record))
    (h : ∀ name, is.filter (·.record == name) = js.filter (·.record == name)) : is = js := by
  -- the first issue of one list is among those of its record in the other
  have hmem : ∀ {is js : List Issue} {i : Issue}, (∀ name, is.filter (·.record == name) =
      js.filter (·.record == name)) → i ∈ is → i ∈ js := by
    intro is js i h hi
    have hi : i ∈ is.filter (·.record == i.record) := List.mem_filter.2 ⟨hi, by simp⟩
    rw [h] at hi
    exact (List.mem_filter.1 hi).1
  induction is generalizing js with
  | nil =>
    apply (List.eq_nil_iff_forall_not_mem.2 _).symm
    intro j hj
    exact List.not_mem_nil (hmem (fun name => (h name).symm) hj)
  | cons i is ih =>
    cases js with
    | nil => exact absurd (hmem h List.mem_cons_self) List.not_mem_nil
    | cons j js =>
      obtain ⟨hi, his⟩ := List.pairwise_cons.1 his
      obtain ⟨hj, hjs'⟩ := List.pairwise_cons.1 hjs
      have hji : j.record ≤ i.record := by
        rcases List.mem_cons.1 (hmem h List.mem_cons_self) with heq | hmem
        · rw [heq]
        · exact hj i hmem
      have hij : i.record ≤ j.record := by
        rcases List.mem_cons.1 (hmem (fun name => (h name).symm) List.mem_cons_self) with heq | hmem
        · rw [heq]
        · exact hi j hmem
      have hrecord : i.record = j.record := String.le_antisymm hij hji
      have hhead := h i.record
      simp only [List.filter_cons, BEq.rfl, if_true, hrecord] at hhead
      obtain ⟨rfl, -⟩ := List.cons.inj hhead
      congr 1
      apply ih his hjs'
      intro name
      have hname := h name
      simp only [List.filter_cons] at hname
      split at hname
      · exact (List.cons.inj hname).2
      · exact hname

end Issue

/-! ## The order of a report -/

namespace Folders

variable {fs : Folders}

/-- The issues of a name are those that are filed under it, if each is filed under its own. -/
theorem filter_flatMap (ho : fs.Ordered) (hf : ∀ p ∈ fs, ∀ i ∈ p.2, i.record = p.1)
    (name : String) : (fs.flatMap Prod.snd).filter (·.record == name) = fs.get name := by
  induction fs with
  | nil => rfl
  | cons p fs ih =>
    obtain ⟨n, is⟩ := p
    obtain ⟨hn, ho⟩ := ordered_cons.1 ho
    obtain ⟨his, hf⟩ := List.forall_mem_cons.1 hf
    rw [List.flatMap_cons, List.filter_append, ih ho hf, get_cons]
    split
    · rename_i heq
      subst heq
      have hall : is.filter (·.record == name) = is := by
        simpa [List.filter_eq_self] using his
      have hrest : get fs name = [] := get_eq_nil fun hmem => String.lt_irrefl _ (hn name hmem)
      rw [hall, hrest, List.append_nil]
    · rename_i hne
      have hnone : is.filter (·.record == name) = [] := by
        rw [List.filter_eq_nil_iff]
        intro i hi
        simpa [his i hi] using Ne.symm hne
      rw [hnone, List.nil_append]

/-- The issues of folders in order are in the order of their records. -/
theorem pairwise_flatMap (ho : fs.Ordered) (hf : ∀ p ∈ fs, ∀ i ∈ p.2, i.record = p.1) :
    (fs.flatMap Prod.snd).Pairwise (·.record ≤ ·.record) := by
  rw [List.pairwise_flatMap]
  constructor
  · intro p hp
    apply List.pairwise_of_forall_mem_list
    intro i hi j hj
    rw [hf p hp i hi, hf p hp j hj]
  · refine (List.pairwise_map.1 ho).imp_of_mem ?_
    intro p q hp hq hlt i hi j hj
    rw [hf p hp i hi, hf q hq j hj]
    exact String.not_lt.1 (String.lt_asymm hlt)

end Folders

namespace Report

theorem issuesFor_empty_pushAll (is : List Issue) (name : String) :
    (empty.pushAll is).issuesFor name = is.filter (·.record == name) := by
  rw [issuesFor_pushAll]
  rfl

/-- Every issue of a log is filed under its own record. -/
theorem filed_pushAll (is : List Issue) : (empty.pushAll is).Filed := by
  apply filed_of_issuesFor (full_pushAll (by simp [Folders.Full, empty]) is)
  intro name i hi
  rw [issuesFor_empty_pushAll] at hi
  simpa using (List.mem_filter.1 hi).2

/-- **The issues of a report are the log, sorted by record in a stable way.** -/
theorem issues_empty_pushAll (is : List Issue) :
    (empty.pushAll is).issues = is.mergeSort Issue.sortsBefore := by
  have hfiled := fun p hp => (filed_pushAll is p hp).2
  apply Issue.eq_of_pairwise_of_filter
  · exact Folders.pairwise_flatMap (empty.pushAll is).ordered hfiled
  · have hsorted := List.pairwise_mergeSort Issue.sortsBefore_trans Issue.sortsBefore_total is
    exact hsorted.imp Issue.sortsBefore_iff.1
  · intro name
    rw [Issue.filter_mergeSort, ← issuesFor_empty_pushAll is name]
    exact Folders.filter_flatMap (empty.pushAll is).ordered hfiled name

/-- Every issue is an error or a warning. -/
theorem size_eq_add (r : Report) : r.size = r.errorCount + r.warningCount := by
  rw [size, errorCount, warningCount, List.length_eq_countP_add_countP (·.severity == .error)]
  congr 1
  apply List.countP_congr
  intro i _
  cases i.severity <;> decide

/-- What a report says of the issues that were filed. -/
structure Logs (r : Report) (is : List Issue) : Prop where
  /-- The issues are sorted by the names of records, as a stable sort does it. -/
  issues : r.issues = is.mergeSort Issue.sortsBefore
  /-- The names ascend in the order of code points. -/
  ascending : r.issues.Pairwise (·.record ≤ ·.record)
  /-- Each issue is there as often as it was filed, and those of one record keep their order. -/
  stable : r.issues.Perm is ∧
    ∀ name, r.issues.filter (·.record == name) = is.filter (·.record == name)
  issuesFor : ∀ name, r.issuesFor name = is.filter (·.record == name)
  issuesIn : ∀ c name, r.issuesIn c name =
    is.filter fun i => i.record == name && i.category == some c
  size : r.size = is.length
  /-- Every issue is counted as an error or as a warning. -/
  counts : r.size = r.errorCount + r.warningCount
  countKind : ∀ k, r.countKind k = is.countP (·.kind == k)
  hasErrors_iff : r.hasErrors = true ↔ ∃ i ∈ is, i.severity = .error
  isEmpty_iff : r.isEmpty = true ↔ is = []

/-- **A report is a faithful log** of the issues that were filed in it one after the other. -/
theorem logs_pushAll (is : List Issue) : (empty.pushAll is).Logs is := by
  have hissues := issues_empty_pushAll is
  have hperm : (empty.pushAll is).issues.Perm is := hissues ▸ List.mergeSort_perm is _
  refine ⟨hissues, ?_, ⟨hperm, ?_⟩, issuesFor_empty_pushAll is, ?_, hperm.length_eq,
    size_eq_add _, fun k => hperm.countP_eq _, ?_, ?_⟩
  · exact Folders.pairwise_flatMap (empty.pushAll is).ordered fun p hp => (filed_pushAll is p hp).2
  · intro name
    rw [hissues, Issue.filter_mergeSort]
  · intro c name
    rw [issuesIn, issuesFor_empty_pushAll, List.filter_filter]
    apply List.filter_congr
    intro i _
    exact Bool.and_comm _ _
  · rw [Report.hasErrors_iff]
    simp only [hperm.mem_iff]
  · rw [Report.isEmpty_iff]
    constructor
    · intro h
      exact List.nil_perm.1 (h ▸ hperm)
    · rintro rfl
      exact List.perm_nil.1 hperm

end Report

end DocLint

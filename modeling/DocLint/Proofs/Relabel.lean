import DocLint.Proofs.Report

/-!
# Configurations only relabel

A configuration says how serious the issues of two kinds are, and whether they are reported at all.
It is handed on through the whole of a run, but has no part in what is found: a run under any
configuration goes side by side with a strict one (`Batch.Relabels`), with the same registry in
every turn and with a report that is the strict one issue by issue (`Report.under`). The main
statement is `Batch.check_under`, which compares runs on the same batch.
-/

namespace DocLint

/-! ## Severities -/

/-- Whether configurations set the severity of a kind of issues. -/
def IssueKind.isConfigurable : IssueKind → Bool
  | duplicateTag | synonymShadow => true
  | _ => false

namespace Config

variable {config : Config} {k : IssueKind}

/-- Under the strict configuration, all issues are errors. -/
theorem severity?_strict (k : IssueKind) : strict.severity? k = some .error := by
  cases k <;> rfl

theorem severity?_of_not_isConfigurable (h : k.isConfigurable = false) :
    config.severity? k = some k.defaultSeverity := by
  cases k <;> first | rfl | cases h

end Config

/-! ## Reports under a configuration -/

/-- An issue under a configuration: with the severity that its kind gets, or dropped. -/
def Issue.under? (config : Config) (i : Issue) : Option Issue :=
  (config.severity? i.kind).map fun s => { i with severity := s }

/-- Issues of kinds that cannot be configured are the same under all configurations. -/
theorem Issue.filter_under?_eq (c₁ c₂ : Config) (i : Issue) :
    (i.under? c₁).filter (!·.kind.isConfigurable) =
      (i.under? c₂).filter (!·.kind.isConfigurable) := by
  cases hk : i.kind.isConfigurable with
  | true =>
    have hnone : ∀ c : Config, (i.under? c).filter (!·.kind.isConfigurable) = none := fun c => by
      cases hs : c.severity? i.kind <;> simp [under?, hs, hk]
    rw [hnone, hnone]
  | false =>
    have hdefault : ∀ c : Config, c.severity? i.kind = _ := fun c =>
      Config.severity?_of_not_isConfigurable hk
    rw [under?, under?, hdefault, hdefault]

namespace Folders

/-- Folders under a configuration; those that are left without issues are taken away. -/
def under (config : Config) (fs : Folders) : Folders :=
  (fs.map fun p => (p.1, p.2.filterMap (Issue.under? config))).filter (!·.2.isEmpty)

variable {config : Config} {fs : Folders}

theorem names_under_sublist : (fs.under config).names.Sublist fs.names := by
  have hnames : fs.names =
      (fs.map fun p => (p.1, p.2.filterMap (Issue.under? config))).map Prod.fst := by
    simp [names]
  rw [hnames]
  exact List.filter_sublist.map Prod.fst

theorem ordered_under (h : fs.Ordered) : (fs.under config).Ordered := h.sublist names_under_sublist

theorem full_under : (fs.under config).Full := fun _ hp => by
  simpa using (List.mem_filter.1 hp).2

theorem get_under (h : fs.Ordered) (n : String) :
    (fs.under config).get n = (fs.get n).filterMap (Issue.under? config) := by
  induction fs with
  | nil => rfl
  | cons p fs ih =>
    obtain ⟨name, is⟩ := p
    obtain ⟨hname, hfs⟩ := ordered_cons.1 h
    have hrest : n = name → get (under config fs) n = [] := by
      rintro rfl
      exact get_eq_nil fun hn => String.lt_irrefl _ (hname n (names_under_sublist.subset hn))
    specialize ih hfs
    rw [under] at ih hrest ⊢
    rw [List.map_cons, List.filter_cons, get_cons]
    split
    · rw [get_cons, ih]
      split <;> rfl
    · -- the folder is taken away, as no issue is left in it
      rename_i hempty
      have hnil : is.filterMap (Issue.under? config) = [] := by simpa using hempty
      split
      · rename_i hn
        rw [hrest hn, hnil]
      · exact ih

end Folders

namespace Report

/-- A report under a configuration: each issue has the severity that its kind gets or is dropped,
and all else is as it was. -/
def under (config : Config) (r : Report) : Report :=
  { r with
    folders := r.folders.under config
    ordered := Folders.ordered_under r.ordered }

theorem issuesFor_under (config : Config) (r : Report) (n : String) :
    (r.under config).issuesFor n = (r.issuesFor n).filterMap (Issue.under? config) :=
  Folders.get_under r.ordered n

theorem push_under (config : Config) (r : Report) (i : Issue) : (r.push i).under config =
    match i.under? config with
    | none => r.under config
    | some j => (r.under config).push j := by
  have hfor : ∀ n, ((r.push i).under config).issuesFor n = (r.under config).issuesFor n ++
      ((i.under? config).filter (·.record == n)).toList := by
    intro n
    rw [issuesFor_under, issuesFor_under]
    refine (congrArg _ (issuesFor_pushAll r [i] n)).trans ?_
    rw [List.filterMap_append]
    by_cases hn : i.record = n <;>
      cases hu : config.severity? i.kind <;> simp [Issue.under?, Option.filter_some, hu, hn]
  cases hu : i.under? config with
  | none =>
    refine eq_of_issuesFor Folders.full_under Folders.full_under rfl fun n => ?_
    rw [hfor, hu, Option.filter_none, Option.toList_none, List.append_nil]
  | some j =>
    refine eq_of_issuesFor Folders.full_under (full_pushAll Folders.full_under [j]) rfl fun n => ?_
    refine (hfor n).trans (.trans ?_ (issuesFor_pushAll _ [j] n).symm)
    by_cases hn : j.record = n <;> simp [Option.filter_some, hu, hn]

end Report

/-! ## Two runs

A run under a configuration goes side by side with a strict one. In every step both do the same, and
after every step the report of the one is that of the other under the configuration.
-/

section Runs

variable (config : Config)

/-- The issue of a notice is the one that it makes under the strict configuration, relabelled. -/
theorem Notice.issue?_eq_bind (n : Notice) :
    n.issue? config = (n.issue? .strict).bind (Issue.under? config) := by
  simp [issue?, Config.severity?_strict, Issue.under?, Finding.toIssue]

theorem Report.note_under (r : Report) (n : Notice) :
    (r.under config).note config n = (r.note .strict n).under config := by
  unfold note
  rw [n.issue?_eq_bind config]
  cases n.issue? .strict with
  | none => rfl
  | some i => exact (push_under config r i).symm

theorem Report.noteAll_under (r : Report) (ns : List Notice) :
    (r.under config).noteAll config ns = (r.noteAll .strict ns).under config := by
  induction ns generalizing r with
  | nil => rfl
  | cons n ns ih =>
    rw [noteAll, List.foldl_cons, note_under]
    exact ih (r.note .strict n)

theorem Fragment.loadInto_under (f : Fragment) (i : Nat) (r : Report) :
    f.loadInto i config (r.under config) =
      ((f.loadInto i .strict r).1, (f.loadInto i .strict r).2.under config) := by
  unfold loadInto
  cases Category.read f.category with
  | error e => simp only [Report.note_under]
  | ok c =>
    dsimp only
    generalize (Draft.ofCategory c).applyAll f.tags = p
    rw [Report.noteAll_under]
    cases p.1.build with
    | ok record => rfl
    | error e => simp only [Report.note_under]

end Runs

namespace Batch

variable {config : Config} {s strict : Progress}

/-- A run under a configuration has come to the same as a strict one. -/
structure Relabels (config : Config) (s strict : Progress) : Prop where
  registry : s.registry = strict.registry
  report : s.report = strict.report.under config

/-- **A turn has the same effect in both runs**: what becomes of the record is decided by the
registry, which is the same, and not by what was noted or dropped before. -/
theorem Relabels.turn (h : Relabels config s strict) (i : Nat) (f : Fragment) :
    Relabels config (turn config i f s) (turn .strict i f strict) := by
  unfold Batch.turn
  rw [h.report, h.registry, Fragment.loadInto_under]
  obtain ⟨record?, r⟩ := f.loadInto i .strict strict.report
  cases record? with
  | none => exact ⟨rfl, rfl⟩
  | some record =>
    dsimp only
    cases strict.registry.register ⟨i, record⟩ with
    | ok _ registry => exact ⟨rfl, rfl⟩
    | error e registry => exact ⟨rfl, Report.note_under config r _⟩

theorem Relabels.turns (h : Relabels config s strict) (i : Nat) (batch : List Fragment) :
    Relabels config (turns config i batch s) (turns .strict i batch strict) := by
  induction batch generalizing i s strict with
  | nil => exact h
  | cons f rest ih => exact ih (h.turn i f) (i + 1)

theorem foldl_noteAll_under (config : Config) (r : Report) (reviews : List (Entry × List Finding)) :
    reviews.foldl (fun r p => r.noteAll config (entryNotices p)) (r.under config) =
      (reviews.foldl (fun r p => r.noteAll .strict (entryNotices p)) r).under config := by
  induction reviews generalizing r with
  | nil => rfl
  | cons p rest ih =>
    rw [List.foldl_cons, List.foldl_cons, Report.noteAll_under]
    exact ih (r.noteAll .strict (entryNotices p))

/-- **A check under a configuration** comes to the registry of the strict one, and to its report
under the configuration. -/
theorem check_eq_strict (batch : List Fragment) (config : Config) : check batch config =
    ⟨(check batch .strict).registry, (check batch .strict).report.under config⟩ := by
  have start : Relabels config ⟨.empty, .empty⟩ ⟨.empty, .empty⟩ := ⟨rfl, rfl⟩
  obtain ⟨hregistry, hreport⟩ := start.turns 0 batch
  unfold check
  simp only [hregistry, hreport]
  rw [← foldl_noteAll_under]
  rfl

/-- **Configurations only relabel.** For every batch:

* Under all configurations the registered records are the same, in the same order, and as many are
  checked.
* The report under a configuration is the strict one with the severities that the kinds of its
  issues get, without the issues that are dropped and the names that are left without issues.
* Under each name, the issues of kinds that cannot be configured are the same under all
  configurations, in the same order.
* A batch without errors under the strict configuration has none under any. -/
theorem check_under (batch : List Fragment) :
    (∀ c₁ c₂ : Config, (check batch c₁).registry = (check batch c₂).registry ∧
      (check batch c₁).report.recordsChecked = (check batch c₂).report.recordsChecked) ∧
    (∀ c : Config, (check batch c).report = (check batch .strict).report.under c) ∧
    (∀ (c₁ c₂ : Config) (name : String),
      ((check batch c₁).report.issuesFor name).filter (!·.kind.isConfigurable) =
        ((check batch c₂).report.issuesFor name).filter (!·.kind.isConfigurable)) ∧
    ((check batch .strict).report.hasErrors = false →
      ∀ c : Config, (check batch c).report.hasErrors = false) := by
  refine ⟨fun c₁ c₂ => ⟨?_, ?_⟩, fun c => ?_, fun c₁ c₂ name => ?_, fun hstrict c => ?_⟩
  · rw [check_eq_strict batch c₁, check_eq_strict batch c₂]
  · rw [check_eq_strict batch c₁, check_eq_strict batch c₂]
    rfl
  · rw [check_eq_strict]
  · rw [check_eq_strict batch c₁, check_eq_strict batch c₂, Report.issuesFor_under,
      Report.issuesFor_under, List.filter_filterMap, List.filter_filterMap]
    exact List.filterMap_congr fun i _ => Issue.filter_under?_eq c₁ c₂ i
  · rw [← Bool.not_eq_true, hasErrors_check_iff] at hstrict ⊢
    rintro ⟨n, hn, -⟩
    exact hstrict ⟨n, hn, Config.severity?_strict _⟩

end Batch

end DocLint

import DocLint.Batch

/-!
# A check as the list of its notices

A check hands its report and the configuration on from step to step. Neither has a part in what is
found: here all steps are run without them and what is found is collected, and a check turns out to
note exactly that, in order (`Batch.check_eq`). There is one equation for each function through
which the report goes, from the loading of a fragment (`Fragment.loadInto_eq`) to the turns of a
batch (`Batch.turns_eq`), which is by induction over the batch.
-/

namespace DocLint

/-! ## Noting -/

namespace Report

variable (r : Report) (config : Config)

theorem noteAll_append (ns ms : List Notice) :
    r.noteAll config (ns ++ ms) = (r.noteAll config ns).noteAll config ms := List.foldl_append

theorem noteAll_flatMap {α : Type} (f : α → List Notice) (as : List α) :
    r.noteAll config (as.flatMap f) = as.foldl (fun r a => r.noteAll config (f a)) r := by
  induction as generalizing r with
  | nil => rfl
  | cons a as ih => rw [List.flatMap_cons, noteAll_append, ih, List.foldl_cons]

/-- Noting leaves the number of records alone. -/
theorem noteAll_recordsChecked (k : Nat) (ns : List Notice) :
    { r with recordsChecked := k }.noteAll config ns =
      { r.noteAll config ns with recordsChecked := k } := by
  induction ns generalizing r with
  | nil => rfl
  | cons n ns ih =>
    have hnote : { r with recordsChecked := k }.note config n =
        { r.note config n with recordsChecked := k } := by
      unfold note
      cases n.issue? config <;> rfl
    rw [noteAll, List.foldl_cons, hnote]
    exact ih (r.note config n)

/-- The issues of notices are pushed, those that are dropped apart. -/
theorem noteAll_eq_pushAll (ns : List Notice) :
    r.noteAll config ns = r.pushAll (ns.filterMap (Notice.issue? config)) := by
  induction ns generalizing r with
  | nil => rfl
  | cons n ns ih =>
    rw [noteAll, List.foldl_cons, List.filterMap_cons]
    cases h : n.issue? config with
    | none =>
      have hnote : r.note config n = r := by simp only [note, h]
      rw [hnote]
      exact ih r
    | some i =>
      have hnote : r.note config n = r.push i := by simp only [note, h]
      rw [hnote]
      exact ih (r.push i)

end Report

/-! ## Loading -/

/-- What loading a fragment gives. -/
structure Loaded where
  record : Option Record
  notices : List Notice

namespace Fragment

/-- Loads a fragment at a place in a batch, and collects the notices. -/
def load (f : Fragment) (index : Nat) : Loaded :=
  match Category.read f.category with
  | .error e => ⟨none, [⟨f.placeholder index, none, .unknownCategory e⟩]⟩
  | .ok c =>
    let (draft, applied) := (Draft.ofCategory c).applyAll f.tags
    let name := draft.provisionalName?.getD (f.placeholder index)
    let notices := (tagFindings c f.tags draft applied).map fun x => ⟨name, some c, x⟩
    match draft.build with
    | .ok record => ⟨some record, notices⟩
    | .error e => ⟨none, notices ++ [⟨name, some c, e⟩]⟩

/-- **Loading notes what is found in the fragment.** The record that it gives hangs neither on the
configuration nor on the report. -/
theorem loadInto_eq (f : Fragment) (index : Nat) (config : Config) (r : Report) :
    f.loadInto index config r =
      ((f.load index).record, r.noteAll config (f.load index).notices) := by
  unfold loadInto load
  cases Category.read f.category with
  | error e => rfl
  | ok c =>
    dsimp only
    generalize (Draft.ofCategory c).applyAll f.tags = p
    cases p.1.build with
    | ok record => rfl
    | error e =>
      dsimp only
      rw [Report.noteAll_append]
      rfl

end Fragment

/-! ## Turns -/

namespace Batch

/-- Registers the record of a fragment, if it has one, and collects the notice if it is refused. -/
def enroll (r : Registry .collecting) (index : Nat) :
    Option Record → Registry .collecting × List Notice
  | none => (r, [])
  | some record =>
    match r.register ⟨index, record⟩ with
    | .ok _ r => (r, [])
    | .error f r => (r, [⟨record.name, some record.category, f⟩])

/-- Loads and registers fragments, the first of them being at the place `index`, and collects the
notices. -/
def intake (r : Registry .collecting) (index : Nat) :
    List Fragment → Registry .collecting × List Notice
  | [] => (r, [])
  | f :: rest =>
    let loaded := f.load index
    let (r, refused) := enroll r index loaded.record
    let (r, later) := intake r (index + 1) rest
    (r, loaded.notices ++ refused ++ later)

theorem turn_eq (config : Config) (index : Nat) (f : Fragment) (s : Progress) :
    turn config index f s =
      ⟨(enroll s.registry index (f.load index).record).1,
        s.report.noteAll config ((f.load index).notices ++
          (enroll s.registry index (f.load index).record).2)⟩ := by
  unfold turn
  rw [Fragment.loadInto_eq, Report.noteAll_append]
  obtain ⟨record?, ns⟩ := f.load index
  cases record? with
  | none => rfl
  | some record =>
    simp only [enroll]
    cases s.registry.register ⟨index, record⟩ <;> rfl

/-- **The turns of fragments** lead to the registry that they lead to without any configuration, and
note what is found in them. -/
theorem turns_eq (config : Config) (index : Nat) (batch : List Fragment) (s : Progress) :
    turns config index batch s = ⟨(intake s.registry index batch).1,
      s.report.noteAll config (intake s.registry index batch).2⟩ := by
  induction batch generalizing index s with
  | nil => rfl
  | cons f rest ih =>
    rw [turns, ih, turn_eq]
    simp only [intake, Report.noteAll_append]

/-! ## Checks -/

/-- The registry of a batch. -/
def registry (batch : List Fragment) : Registry .complete := (intake .empty 0 batch).1.complete

/-- The notices of the reviews of all registered records. -/
def reviewNotices (r : Registry .complete) : List Notice := r.reviewAll.flatMap entryNotices

/-- All that is found in a batch, in order. -/
def notices (batch : List Fragment) : List Notice :=
  (intake .empty 0 batch).2 ++ reviewNotices (registry batch)

/-- **A check notes what is found in the batch, and registers what the batch makes it register.** -/
theorem check_eq (batch : List Fragment) (config : Config) :
    check batch config = ⟨registry batch,
      { Report.empty with recordsChecked := (registry batch).size }.noteAll config
        (notices batch)⟩ := by
  unfold check
  rw [turns_eq, notices, Report.noteAll_append, reviewNotices, Report.noteAll_flatMap,
    Report.noteAll_recordsChecked .empty config (registry batch).size]
  rfl

end Batch

end DocLint

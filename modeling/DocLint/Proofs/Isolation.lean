import DocLint.Proofs.Account

/-!
# Fragments that fail

A fragment that is not registered leaves the registry as it is (`Batch.before_succ_of_fails`), and
all that is found in its turn bears its own name (`Batch.of_mem_turnNotices`). So nothing else in a
run hangs on it: if another fragment that fails is put in its place, all the others are loaded,
registered and reviewed as before. The main statement is `Batch.isolated`, which compares the two
runs.
-/

namespace DocLint

namespace Batch

variable {batch : List Fragment} {config : Config} {f g : Fragment} {i j : Nat} {n : Notice}

/-! ## Turns of fragments that fail -/

/-- **The turn of a fragment that is not registered** leaves the registry as it is. -/
theorem before_succ_of_fails (hf : batch[i]? = some f) (h : fate batch f i ≠ .registered) :
    before batch (i + 1) = before batch i := by
  rw [before_succ hf]
  cases hx : f.record? with
  | none => rfl
  | some x =>
    rw [fate_of_record? batch i hx] at h
    cases hr : (before batch i).register ⟨i, x⟩ with
    | error e r' => rw [enroll_of_error hr]
    | ok _ r' => simp [hr] at h

theorem filter_turnNotices {name : String} (h : name ≠ f.reportName i) :
    (turnNotices batch f i).filter (·.record == name) = [] := by
  rw [List.filter_eq_nil_iff]
  intro n hn hname
  exact h ((beq_iff_eq.1 hname).symm.trans (of_mem_turnNotices hn).1)

/-! ## Another fragment in the place -/

/-- The fragment at the place `i` fails, and so does `g` in its place. -/
structure Fails (batch : List Fragment) (i : Nat) (f g : Fragment) : Prop where
  here : batch[i]? = some f
  fails : fate batch f i ≠ .registered
  fails' : fate (batch.set i g) g i ≠ .registered

namespace Fails

theorem set_here (h : Fails batch i f g) : (batch.set i g)[i]? = some g :=
  List.getElem?_set_self (List.getElem?_eq_some_iff.1 h.here).1

/-- **The registry is the same in every turn.** -/
theorem before_set (h : Fails batch i f g) (j : Nat) :
    before (batch.set i g) j = before batch j := by
  induction j with
  | zero => rw [before_zero, before_zero]
  | succ j ih =>
    by_cases hj : j = i
    · subst hj
      rw [before_succ_of_fails h.set_here h.fails', before_succ_of_fails h.here h.fails, ih]
    · have hother : (batch.set i g)[j]? = batch[j]? := List.getElem?_set_ne (Ne.symm hj)
      cases hk : batch[j]? with
      | none => rw [before_succ_of_none (hother.trans hk), before_succ_of_none hk, ih]
      | some k => rw [before_succ (hother.trans hk), before_succ hk, ih]

theorem registry_set (h : Fails batch i f g) : registry (batch.set i g) = registry batch := by
  rw [registry_eq_before, registry_eq_before, List.length_set, h.before_set]

theorem fate_set (h : Fails batch i f g) (k : Fragment) (j : Nat) :
    fate (batch.set i g) k j = fate batch k j := by
  unfold fate
  rw [h.before_set]

theorem turnNotices_set (h : Fails batch i f g) (k : Fragment) (j : Nat) :
    turnNotices (batch.set i g) k j = turnNotices batch k j := by
  rw [turnNotices, turnNotices, h.before_set]

theorem fragmentIssues_set (h : Fails batch i f g) (k : Fragment) (j : Nat) :
    fragmentIssues (batch.set i g) config k j = fragmentIssues batch config k j := by
  rw [fragmentIssues, fragmentIssues, refusalIssues, refusalIssues, reviewIssues, reviewIssues,
    h.before_set, h.registry_set]

/-- What is found in the turns under a name that neither of the two fragments bears. -/
theorem filter_turns_set (h : Fails batch i f g) {name : String} (hf : name ≠ f.reportName i)
    (hg : name ≠ g.reportName i) (k : Nat) :
    (((batch.set i g).zipIdx.take k).flatMap fun p =>
        (turnNotices batch p.1 p.2).filter (·.record == name)) =
      (batch.zipIdx.take k).flatMap fun p =>
        (turnNotices batch p.1 p.2).filter (·.record == name) := by
  induction k with
  | zero => rfl
  | succ k ih =>
    rw [take_zipIdx_succ, take_zipIdx_succ, List.flatMap_append, List.flatMap_append, ih]
    by_cases hk : k = i
    · subst hk
      simp [h.set_here, h.here, filter_turnNotices hf, filter_turnNotices hg]
    · rw [List.getElem?_set_ne (Ne.symm hk)]

/-- What is found under a name that neither of the two fragments bears. -/
theorem filter_notices_set (h : Fails batch i f g) {name : String} (hf : name ≠ f.reportName i)
    (hg : name ≠ g.reportName i) : (notices (batch.set i g)).filter (·.record == name) =
      (notices batch).filter (·.record == name) := by
  have hturns := h.filter_turns_set hf hg batch.length
  rw [List.take_of_length_le (by simp), List.take_of_length_le (by simp)] at hturns
  rw [notices, notices, List.filter_append, List.filter_append, h.registry_set, intake_notices,
    intake_notices, List.filter_flatMap, List.filter_flatMap]
  simp only [h.turnNotices_set, hturns]

end Fails

/-- In two runs on a batch, with `f` and with `g` at the place `i`, all else is the same. -/
structure Isolated (batch : List Fragment) (config : Config) (i : Nat) (f g : Fragment) : Prop where
  /-- The registered records are the same, in the same order, and so are all names. -/
  registry : (check (batch.set i g) config).registry = (check batch config).registry
  recordsChecked : (check (batch.set i g) config).report.recordsChecked =
    (check batch config).report.recordsChecked
  /-- The same issues are under each name but those under which `f` and `g` are reported. -/
  issuesFor : ∀ name, name ≠ f.reportName i → name ≠ g.reportName i →
    (check (batch.set i g) config).report.issuesFor name =
      (check batch config).report.issuesFor name
  /-- Each other fragment has the same fate. -/
  fate : ∀ k j, j ≠ i → batch[j]? = some k → fate (batch.set i g) k j = fate batch k j
  /-- The same is found on loading, on registering and on reviewing each other fragment. -/
  fragmentIssues : ∀ k j, j ≠ i → batch[j]? = some k →
    fragmentIssues (batch.set i g) config k j = fragmentIssues batch config k j

/-- **A fragment that fails has no effect on the others**: in its place may be any other one that
fails. -/
theorem isolated (batch : List Fragment) (config : Config) (i : Nat) (f g : Fragment)
    (h : Fails batch i f g) : Isolated batch config i f g where
  registry := by rw [registry_check, registry_check, h.registry_set]
  recordsChecked := by rw [recordsChecked_check, recordsChecked_check, h.registry_set]
  issuesFor name hf hg := by rw [issuesFor_check, issuesFor_check, h.filter_notices_set hf hg]
  fate k j _ _ := h.fate_set k j
  fragmentIssues k j _ _ := h.fragmentIssues_set k j

/-- An event the second name of which is taken by the first one of this batch. -/
def leapingAgain : Fragment :=
  { category := "event"
    tags := [("events", "player flies\nPlayer Leaps"), ("triggers", "when a player flies"),
      ("regex", "^player flies$")] }

/-- An event, one that clashes with it, and a command that refers to the free name of that. -/
def leapingTwice : List Fragment :=
  [{ category := "event"
     tags := [("events", "player jumps\nplayer leaps"), ("triggers", "when a player jumps"),
       ("regex", "^player jumps$")] },
   leapingAgain,
   { category := "command"
     tags := [("name", "Pause"), ("description", "Pauses after <@link event player flies>.")] }]

theorem isolated_leapingAgain :
    Fails leapingTwice 1 leapingAgain { category := "widget" } ∧
      Isolated leapingTwice {} 1 leapingAgain { category := "widget" } :=
  have h : Fails leapingTwice 1 leapingAgain { category := "widget" } :=
    ⟨rfl, by decide +kernel, by decide +kernel⟩
  ⟨h, isolated leapingTwice {} 1 leapingAgain { category := "widget" } h⟩

end Batch

end DocLint

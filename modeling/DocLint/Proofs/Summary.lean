import DocLint.Case
import Mathlib.Data.List.Induction

/-!
# What a summary tells

The text of a summary has lines about each case that did not pass, in the order in which the cases
were recorded (`Summary.text_recordAll`). Under a mismatch stand the expected issues that are
missing and the issues that were not expected; only if there are neither, the issues that were found
stand on one line, since they differ in order or count (`Summary.mem_differenceLines_iff`).

So every issue is named that occurs on one side alone. An issue that occurs on both sides, but not
equally often, is named if the two sides have the same issues, and is passed over if they do not
(`Summary.explains_recordAll`).
-/

namespace DocLint

namespace Summary

/-! ## Records -/

/-- The summary of cases that are recorded one after the other, each by its name, the line on which
it starts and what it came to. -/
def recordAll (runs : List (String × Nat × Outcome)) : Summary :=
  runs.foldl (fun s run => s.record run.1 run.2.1 run.2.2) {}

/-- What is kept of a case: nothing if it passed. -/
def failure? (run : String × Nat × Outcome) : Option Failure :=
  if run.2.2.isPass then none else some ⟨run.1, run.2.1, run.2.2⟩

theorem runAll_eq (cases : List Case) :
    Case.runAll cases = recordAll (cases.map fun c => (c.name, c.line, c.run)) := by
  rw [recordAll, List.foldl_map, Case.runAll]

theorem recordAll_concat (runs : List (String × Nat × Outcome)) (run : String × Nat × Outcome) :
    recordAll (runs ++ [run]) = (recordAll runs).record run.1 run.2.1 run.2.2 :=
  List.foldl_append

theorem failures_record (s : Summary) (run : String × Nat × Outcome) :
    (s.record run.1 run.2.1 run.2.2).failures = s.failures ++ (failure? run).toList := by
  unfold record failure?
  split
  · exact (List.append_nil _).symm
  · rfl

theorem passed_record (s : Summary) (run : String × Nat × Outcome) :
    (s.record run.1 run.2.1 run.2.2).passed = s.passed + if run.2.2.isPass then 1 else 0 := by
  unfold record
  split <;> rfl

theorem total_record (s : Summary) (run : String × Nat × Outcome) :
    (s.record run.1 run.2.1 run.2.2).total = s.total + 1 := by
  rw [total, passed_record, failures_record, failure?, total]
  split
  · simp; omega
  · simp; omega

/-- The cases that did not pass are kept in the order in which they were recorded. -/
theorem failures_recordAll (runs : List (String × Nat × Outcome)) :
    (recordAll runs).failures = runs.filterMap failure? := by
  -- from the back, since a record adds to the end of what is kept
  induction runs using List.reverseRecOn with
  | nil => rfl
  | append_singleton runs run ih =>
    rw [recordAll_concat, failures_record, ih, List.filterMap_append]
    cases h : failure? run <;> simp [h]

theorem passed_recordAll (runs : List (String × Nat × Outcome)) :
    (recordAll runs).passed = runs.countP fun run => run.2.2.isPass := by
  induction runs using List.reverseRecOn with
  | nil => rfl
  | append_singleton runs run ih =>
    rw [recordAll_concat, passed_record, ih, List.countP_append, List.countP_singleton]

/-- Every case counts. -/
theorem total_recordAll (runs : List (String × Nat × Outcome)) :
    (recordAll runs).total = runs.length := by
  induction runs using List.reverseRecOn with
  | nil => rfl
  | append_singleton runs run ih => rw [recordAll_concat, total_record, ih, List.length_append]; rfl

/-! ## Text -/

/-- The line with which the lines about a case start. -/
def heading (name : String) (line : Nat) : String :=
  "FAIL " ++ name ++ " (line " ++ line.repr ++ ")"

/-- The lines about the cases that did not pass. -/
def failuresLines (runs : List (String × Nat × Outcome)) : List String :=
  (runs.filterMap failure?).flatMap failureLines

/-- The line about all cases. -/
def tally (runs : List (String × Nat × Outcome)) : String :=
  "fragment cases: " ++ (runs.countP fun run => run.2.2.isPass).repr ++ "/" ++
    runs.length.repr ++ " passed"

theorem text_recordAll (runs : List (String × Nat × Outcome)) :
    (recordAll runs).text = "\n".intercalate (failuresLines runs ++ [tally runs]) := by
  unfold text failuresLines tally
  rw [failures_recordAll, passed_recordAll, total_recordAll]

/-- Under the heading of a mismatch stands how the two lists of issues differ. -/
theorem failuresLines_mismatch (front back : List (String × Nat × Outcome)) (name : String)
    (line : Nat) (expected actual : List String) :
    failuresLines (front ++ (name, line, .mismatch expected actual) :: back) =
      failuresLines front ++ heading name line :: differenceLines expected actual ++
        failuresLines back := by
  have hkept : failure? (name, line, .mismatch expected actual) =
      some ⟨name, line, .mismatch expected actual⟩ := rfl
  unfold failuresLines
  rw [List.filterMap_append, List.filterMap_cons_some hkept, List.flatMap_append,
    List.flatMap_cons, List.append_assoc]
  rfl

/-! ## Differences -/

/-- The line that tells what was found, if that differs from what was expected in order or count
alone. -/
def orderLine (actual : List String) : String :=
  "  issues differ in order or count: " ++ ", ".intercalate actual

variable {expected actual details : List String} {issue line : String}

/-- The lines about the issues that one side has and the other has not. -/
theorem mem_marked_iff (mark : String) (issues others : List String) :
    line ∈ (issues.filter fun l => !others.contains l).map (mark ++ ·) ↔
      ∃ issue ∈ issues, issue ∉ others ∧ line = mark ++ issue := by
  simp only [List.mem_map, List.mem_filter, Bool.not_eq_true', List.contains_eq_mem,
    decide_eq_false_iff_not, and_assoc, @eq_comm _ line]

theorem mem_differenceLines_iff : line ∈ differenceLines expected actual ↔
    (∃ issue ∈ expected, issue ∉ actual ∧ line = "  - " ++ issue) ∨
      (∃ issue ∈ actual, issue ∉ expected ∧ line = "  + " ++ issue) ∨
      (∀ issue, issue ∈ expected ↔ issue ∈ actual) ∧ line = orderLine actual := by
  have hsame : ((expected.filter fun l => !actual.contains l).isEmpty &&
      (actual.filter fun l => !expected.contains l).isEmpty) = true ↔
        ∀ issue, issue ∈ expected ↔ issue ∈ actual := by
    simp [List.filter_eq_nil_iff, iff_iff_implies_and_implies, forall_and]
  unfold differenceLines
  simp only [List.mem_append, or_assoc, ← hsame]
  refine or_congr (mem_marked_iff _ _ _) (or_congr (mem_marked_iff _ _ _) ?_)
  split
  · rename_i hempty
    exact List.mem_singleton.trans (and_iff_right hempty).symm
  · rename_i hempty
    exact iff_of_false List.not_mem_nil fun h => hempty h.1

/-- An issue is named in the lines under a heading. -/
inductive IsNamed (details : List String) (issue : String) : Prop
  | missing (h : "  - " ++ issue ∈ details)
  | unexpected (h : "  + " ++ issue ∈ details)
  | found (issues : List String) (h : orderLine issues ∈ details) (hmem : issue ∈ issues)

/-- The lines name nothing but what one side has and the other has not, unless both sides have the
same issues. -/
theorem IsNamed.of_differenceLines (h : IsNamed (differenceLines expected actual) issue) :
    (issue ∈ expected ∧ issue ∉ actual) ∨ (issue ∈ actual ∧ issue ∉ expected) ∨
      ∀ issue, issue ∈ expected ↔ issue ∈ actual := by
  cases h with
  | missing h =>
    rcases mem_differenceLines_iff.1 h with ⟨i, hi, hn, heq⟩ | ⟨i, -, -, heq⟩ | ⟨hsame, -⟩
    · rw [String.append_right_inj] at heq
      exact .inl ⟨heq ▸ hi, heq ▸ hn⟩
    · simp [← String.toList_inj] at heq
    · exact .inr (.inr hsame)
  | unexpected h =>
    rcases mem_differenceLines_iff.1 h with ⟨i, -, -, heq⟩ | ⟨i, hi, hn, heq⟩ | ⟨hsame, -⟩
    · simp [← String.toList_inj] at heq
    · rw [String.append_right_inj] at heq
      exact .inr (.inl ⟨heq ▸ hi, heq ▸ hn⟩)
    · exact .inr (.inr hsame)
  | found issues h =>
    rcases mem_differenceLines_iff.1 h with ⟨i, -, -, heq⟩ | ⟨i, -, -, heq⟩ | ⟨hsame, -⟩
    · unfold orderLine at heq
      simp [← String.toList_inj] at heq
    · unfold orderLine at heq
      simp [← String.toList_inj] at heq
    · exact .inr (.inr hsame)

/-- What the lines under the heading of a mismatch tell. -/
structure Explains (expected actual details : List String) : Prop where
  missing : ∀ issue ∈ expected, issue ∉ actual → "  - " ++ issue ∈ details
  unexpected : ∀ issue ∈ actual, issue ∉ expected → "  + " ++ issue ∈ details
  /-- If each issue occurs equally often on both sides, what was found is told in its order. -/
  reordered : (∀ issue, expected.count issue = actual.count issue) → orderLine actual ∈ details
  /-- All issues that do not occur equally often are named exactly if both sides have the same
  issues, or those that both of them have occur equally often. -/
  named_iff : (∀ issue, expected.count issue ≠ actual.count issue → IsNamed details issue) ↔
    (∀ issue, issue ∈ expected ↔ issue ∈ actual) ∨
      ∀ issue ∈ expected, issue ∈ actual → expected.count issue = actual.count issue

/-- An issue that does not occur equally often is on one of the sides. -/
theorem mem_or_mem_of_count_ne (h : expected.count issue ≠ actual.count issue) :
    issue ∈ expected ∨ issue ∈ actual := by
  by_contra hnot
  rw [not_or] at hnot
  exact h ((List.count_eq_zero.2 hnot.1).trans (List.count_eq_zero.2 hnot.2).symm)

theorem explains_differenceLines (expected actual : List String) :
    Explains expected actual (differenceLines expected actual) where
  missing issue he ha := mem_differenceLines_iff.2 (.inl ⟨issue, he, ha, rfl⟩)
  unexpected issue ha he := mem_differenceLines_iff.2 (.inr (.inl ⟨issue, ha, he, rfl⟩))
  reordered hcount := by
    have hsame : ∀ issue, issue ∈ expected ↔ issue ∈ actual := fun issue => by
      rw [← List.count_pos_iff, hcount issue, List.count_pos_iff]
    exact mem_differenceLines_iff.2 (.inr (.inr ⟨hsame, rfl⟩))
  named_iff := by
    constructor
    · intro hnamed
      by_contra hnot
      rw [not_or] at hnot
      obtain ⟨hdiffer, hcommon⟩ := hnot
      refine hcommon fun issue he ha => ?_
      by_contra hcount
      rcases (hnamed issue hcount).of_differenceLines with ⟨-, hn⟩ | ⟨-, hn⟩ | hsame
      · exact hn ha
      · exact hn he
      · exact hdiffer hsame
    · rintro (hsame | hcommon) issue hcount
      · -- an issue on either side is among those that were found
        have ha : issue ∈ actual := (mem_or_mem_of_count_ne hcount).elim (hsame issue).1 id
        exact .found actual (mem_differenceLines_iff.2 (.inr (.inr ⟨hsame, rfl⟩))) ha
      · by_cases he : issue ∈ expected
        · have ha : issue ∉ actual := fun ha => hcount (hcommon issue he ha)
          exact .missing (mem_differenceLines_iff.2 (.inl ⟨issue, he, ha, rfl⟩))
        · have ha : issue ∈ actual := (mem_or_mem_of_count_ne hcount).resolve_left he
          exact .unexpected (mem_differenceLines_iff.2 (.inr (.inl ⟨issue, ha, he, rfl⟩)))

/-- **What the text of a summary tells about a mismatch**, wherever it was recorded. -/
theorem explains_recordAll (front back : List (String × Nat × Outcome)) (name : String)
    (line : Nat) (expected actual : List String) :
    (recordAll (front ++ (name, line, .mismatch expected actual) :: back)).text =
        "\n".intercalate (failuresLines front ++
          heading name line :: differenceLines expected actual ++ failuresLines back ++
            [tally (front ++ (name, line, .mismatch expected actual) :: back)]) ∧
      Explains expected actual (differenceLines expected actual) := by
  refine ⟨?_, explains_differenceLines expected actual⟩
  rw [text_recordAll, failuresLines_mismatch]

/-- A case with an event that has neither triggers nor a pattern, so that the same issue is found
twice. It is expected once, beside an issue that is not found. -/
def sneaksFile : String :=
  "# test: sneaks\n---\n<--[event]\n@Events player sneaks\n-->\n---\n" ++
    "player sneaks: missing_required_field\nplayer sneaks: dangling_reference\n==="

/-- What is expected in the case. -/
def sneaksExpected : List String :=
  ["player sneaks: missing_required_field", "player sneaks: dangling_reference"]

/-- What is found. -/
def sneaksActual : List String :=
  ["player sneaks: missing_required_field", "player sneaks: missing_required_field"]

/-- One of the two issues that are found was not expected, but neither is named. -/
theorem unnamed_sneaksFile :
    Case.runAll (Case.parse sneaksFile) =
        recordAll [("sneaks", 1, .mismatch sneaksExpected sneaksActual)] ∧
      (Case.runAll (Case.parse sneaksFile)).text =
        "FAIL sneaks (line 1)\n  - player sneaks: dangling_reference\n" ++
          "fragment cases: 0/1 passed" ∧
      sneaksExpected.count "player sneaks: missing_required_field" = 1 ∧
      sneaksActual.count "player sneaks: missing_required_field" = 2 ∧
      ¬IsNamed (differenceLines sneaksExpected sneaksActual)
        "player sneaks: missing_required_field" := by
  have hruns : ((Case.parse sneaksFile).map fun c => (c.name, c.line, c.run)) =
      [("sneaks", 1, .mismatch sneaksExpected sneaksActual)] := by decide +kernel
  have hrun := (runAll_eq _).trans (congrArg recordAll hruns)
  refine ⟨hrun, hrun ▸ by decide +kernel, by decide, by decide, fun hnamed => ?_⟩
  rcases hnamed.of_differenceLines with ⟨-, hn⟩ | ⟨-, hn⟩ | hsame
  · exact absurd hn (by decide)
  · exact absurd hn (by decide)
  · exact absurd ((hsame "player sneaks: dangling_reference").1 (by decide)) (by decide)

end Summary

end DocLint

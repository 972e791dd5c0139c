import DocLint.Proofs.BlockNames
import DocLint.Proofs.CaseWriting

/-!
# Recording what is found

A text is recorded as a case by writing it with the issues that checking it finds, one on a line
(`Case.recordingLines`). Read back, the case passes, unless an issue is against a record with a line
feed in its name: the issue then takes more than one line, but each line is read as an issue of its
own. That is so for entities alone, whose names are whole values (`Case.recordsBack`).
-/

namespace DocLint

/-- Every issue bears the name under which some fragment is reported. -/
theorem Batch.exists_reportName {batch : List Fragment} {config : Config} {y : Issue}
    (h : y ∈ (check batch config).report.issues) :
    ∃ (f : Fragment) (i : Nat), batch[i]? = some f ∧ y.record = f.reportName i := by
  rw [(report_issues batch config).mem_iff, List.mem_flatMap] at h
  obtain ⟨⟨f, i⟩, hp, hy⟩ := h
  have hf : batch[i]? = some f := List.mem_zipIdx_iff_getElem?.1 hp
  exact ⟨f, i, hf, (attributed_of_mem_fragmentIssues hf hy).1⟩

namespace Case

/-! ## What is recorded -/

/-- A text that can be recorded under a name. -/
structure Recordable (name input : String) : Prop where
  row : '\n' ∉ name.toList
  trim : Text.trim name = name
  rows : ∀ row ∈ Text.rows input, Text.trim row ≠ "---" ∧ row.toList.getLast? ≠ some '\r'
  block : ∃ i j, Block.Closed (Text.lines input) i j

/-- The case that expects what is found in a text. -/
def recording (name input : String) : Case where
  name := name
  line := 1
  input := input
  expected := actualOf (Block.parse input name)

@[simp] theorem recording_name (name input : String) : (recording name input).name = name := rfl

@[simp] theorem recording_line (name input : String) : (recording name input).line = 1 := rfl

@[simp] theorem recording_input (name input : String) : (recording name input).input = input := rfl

@[simp] theorem recording_expected (name input : String) :
    (recording name input).expected = actualOf (Block.parse input name) := by
  rw [recording]

/-- The lines that list issues, or the word `ok` if there are none. -/
def listing (issues : List String) : List String := if issues = [] then ["ok"] else issues

/-- The lines of the file in which a text is recorded. -/
def recordingLines (name input : String) : List String :=
  caseLines (recording name input) [] (listing (recording name input).expected)

/-- The lines may be written with nothing but a line feed between each and the next one. -/
theorem spelled_recordingLines (name input : String) :
    Text.Spelled (recordingLines name input) ("\n".intercalate (recordingLines name input)) := by
  apply Text.spelled_intercalate
  simp [recordingLines, caseLines_eq]

/-- The issues that are found in a text. -/
def issuesIn (name input : String) : List Issue :=
  (Batch.check (Block.parse input name) {}).report.issues

theorem actualOf_parse (name input : String) :
    actualOf (Block.parse input name) = (issuesIn name input).map issueLine := by
  rw [actualOf, issuesIn]

/-- Every issue bears the name under which a fragment of a block is reported. -/
theorem exists_isFromBlock {name input : String} {y : Issue} (h : y ∈ issuesIn name input) :
    ∃ (f : Fragment) (i : Nat), (Block.parse input name)[i]? = some f ∧ f.IsFromBlock name ∧
      y.record = f.reportName i := by
  rw [issuesIn] at h
  obtain ⟨f, i, hf, hname⟩ := Batch.exists_reportName h
  exact ⟨f, i, hf, Block.isFromBlock_of_mem_parse (List.mem_of_getElem? hf), hname⟩

/-! ## Issues as lines -/

theorem lists_self (issues : List String) : Lists issues issues := by
  induction issues with
  | nil => exact .nil
  | cons issue issues ih => exact .entry (Text.isPadded_self issue) ih

theorem lists_listing (issues : List String) : Lists issues (listing issues) := by
  unfold listing
  split
  · rename_i hnil
    rw [hnil]
    exact .skip (by decide) (.inr (by decide)) .nil
  · exact lists_self issues

theorem toList_issueLine (y : Issue) :
    (issueLine y).toList = y.record.toList ++ [':', ' '] ++ y.kind.name.toList := by
  simp [issueLine]

/-- The line of an issue has a line feed exactly if the name in it has one. -/
theorem mem_issueLine_iff {y : Issue} : '\n' ∈ (issueLine y).toList ↔ '\n' ∈ y.record.toList := by
  have hkind : '\n' ∉ y.kind.name.toList := by cases y.kind <;> decide
  rw [toList_issueLine, List.mem_append, or_iff_left hkind, List.mem_append, or_iff_left]
  decide

/-- An issue can be listed if the name in its line starts well and has no line feed. -/
theorem isEntry_issueLine {y : Issue} (hstart : Text.StartsInk y.record.toList)
    (hrow : '\n' ∉ y.record.toList) : IsEntry (issueLine y) := by
  obtain ⟨c, hc, hink⟩ := hstart
  have hcolon : ':' ∈ (issueLine y).toList := by simp [toList_issueLine]
  have hlast : ∃ d, y.kind.name.toList.getLast? = some d ∧ Text.isSpace d = false := by
    cases y.kind <;> exact ⟨_, rfl, rfl⟩
  have htrim : Text.trimChars (issueLine y).toList = (issueLine y).toList := by
    obtain ⟨d, hd, hend⟩ := hlast
    rw [Text.trimChars_eq_self_iff, toList_issueLine, List.getLast?_append, hd, Option.some_or,
      List.append_assoc, List.head?_append, Option.mem_def.1 hc, Option.some_or]
    constructor
    · intro c' hc'
      rwa [← Option.mem_some_iff.1 hc']
    · intro d' hd'
      rwa [← Option.mem_some_iff.1 hd']
  refine ⟨mem_issueLine_iff.not.2 hrow, ?_, ?_, ?_, ?_⟩
  · rw [Text.trim, htrim, String.ofList_toList]
  all_goals
    intro heq
    rw [heq] at hcolon
    exact absurd hcolon (by decide)

/-! ## Running what was read -/

theorem run_eq_pass_iff {c : Case} : c.run = .pass ↔
    Block.parse c.input c.name ≠ [] ∧ c.expected = actualOf (Block.parse c.input c.name) := by
  unfold run
  cases Block.parse c.input c.name with
  | nil => simp
  | cons f fs => simp [eq_comm]

/-- No expected issue that is read has a line feed. -/
theorem not_mem_of_mem_expectedOf {lines : List (List Char × Nat)} (h : ∀ l ∈ lines, '\n' ∉ l.1)
    {issue : String} (hissue : issue ∈ expectedOf lines) : '\n' ∉ issue.toList := by
  obtain ⟨l, hl, rfl⟩ := List.mem_map.1 (List.mem_filter.1 hissue).1
  rw [String.toList_ofList]
  exact fun hc => h l hl (Text.mem_of_mem_trimChars hc)

variable {name input text : String}

/-- **The first case in the file** has the name and the input that were recorded, and its expected
issues are on single lines. -/
theorem exists_parse_eq_cons (h : Recordable name input)
    (htext : Text.Spelled (recordingLines name input) text) : ∃ expected cs,
      parse text = ⟨name, 1, input, expected⟩ :: cs ∧ ∀ issue ∈ expected, '\n' ∉ issue.toList := by
  have hfront : ∀ line ∈ frontLines (recording name input) [], '\n' ∉ line.toList :=
    fun _ => not_mem_of_mem_frontLines h.row (List.forall_mem_nil _)
  rw [recordingLines, caseLines_eq] at htext
  obtain ⟨reads, rest, hsplit, hreads⟩ := htext.reads_front (by simp) hfront
  have hcase := ofLines_frontLines (c := recording name input) h.trim h.rows
    (List.forall_mem_nil _) hreads (rest.zipIdx (1 + reads.length))
  rw [recording_line, ← List.zipIdx_append, ← hsplit, ← parse] at hcase
  refine ⟨_, _, hcase, fun issue hissue => not_mem_of_mem_expectedOf (fun l hl => ?_) hissue⟩
  have hmem : l ∈ rest.zipIdx (1 + reads.length) := List.takeWhile_subset _ hl
  have hline : l.1 ∈ Text.lineChars text.toList := by
    rw [hsplit]
    exact List.mem_append_right _ (List.fst_mem_of_mem_zipIdx hmem)
  exact Text.not_mem_of_mem_lineChars hline

/-- If all issues can be listed, the file is read as it was recorded. -/
theorem parse_eq_recording (h : Recordable name input)
    (hentries : ∀ issue ∈ (recording name input).expected, IsEntry issue)
    (htext : Text.Spelled (recordingLines name input) text) :
    parse text = [recording name input] := by
  have hwritable : Writable (recording name input) := ⟨h.row, h.trim, h.rows, hentries⟩
  have hwritten : Written 1 [recording name input] (recordingLines name input ++ []) :=
    .case hwritable rfl (List.forall_mem_nil _) (lists_listing _) .nil
  rw [List.append_nil] at hwritten
  exact hwritten.ofLines (htext.reads hwritten.not_mem)

/-! ## What comes of it -/

/-- What comes of recording a text and reading the file. -/
structure RecordsBack (name input text : String) : Prop where
  /-- There is one case in the file and it passes, if and only if no issue is against a record with
  a line feed in its name. -/
  passes_iff : (∃ c, parse text = [c] ∧ c.run = .pass) ↔
    ∀ y ∈ issuesIn name input, '\n' ∉ y.record.toList
  /-- Only entities are such records. -/
  entity : ∀ y ∈ issuesIn name input, '\n' ∈ y.record.toList →
    ∃ (f : Fragment) (i : Nat) (x : Entity), (Block.parse input name)[i]? = some f ∧
      (f.load i).record = some (.entity x) ∧ x.name = y.record

/-- **What is found in a text can be recorded**, if no entity with issues has a name of several
lines. -/
theorem recordsBack (h : Recordable name input)
    (htext : Text.Spelled (recordingLines name input) text) : RecordsBack name input text where
  passes_iff := by
    constructor
    · rintro ⟨c, hparse, hrun⟩ y hy hfeed
      obtain ⟨expected, cs, hfirst, hrows⟩ := exists_parse_eq_cons h htext
      rw [hparse, List.cons.injEq] at hfirst
      obtain ⟨rfl, -⟩ := hfirst
      -- the case that was read expects what is found, so every issue is on one line
      have hexpected : expected = actualOf (Block.parse input name) := (run_eq_pass_iff.1 hrun).2
      refine hrows (issueLine y) ?_ (mem_issueLine_iff.2 hfeed)
      rw [hexpected, actualOf_parse]
      exact List.mem_map_of_mem hy
    · intro hrows
      have hentries : ∀ issue ∈ (recording name input).expected, IsEntry issue := by
        rw [recording_expected, actualOf_parse, List.forall_mem_map]
        intro y hy
        obtain ⟨f, i, -, hf, hname⟩ := exists_isFromBlock hy
        exact isEntry_issueLine (hname ▸ hf.startsInk_reportName) (hrows y hy)
      obtain ⟨i, j, hclosed⟩ := h.block
      refine ⟨_, parse_eq_recording h hentries htext, run_eq_pass_iff.2 ?_⟩
      rw [recording_expected, recording_input, recording_name]
      exact ⟨Block.parse_ne_nil hclosed, rfl⟩
  entity := by
    intro y hy hfeed
    obtain ⟨f, i, hf, hblock, hname⟩ := exists_isFromBlock hy
    obtain ⟨x, hx, hxname⟩ := hblock.exists_entity h.row (hname ▸ hfeed)
    exact ⟨f, i, x, hf, by rw [Fragment.load_record, hx], hxname.trans hname.symm⟩

/-! ### Two recordings -/

/-- An event whose triggers refer to no record, and a command without a name. -/
def jumpInput : String :=
  "<--[event]\n@Events player jumps\n\n@Triggers see <@link event player hops>\n" ++
    "@Regex player jumps\n-->\n<--[command]\n-->"

/-- The file in which they are recorded. -/
def jumpFile : String :=
  "# test: jumps\n---\n<--[event]\n@Events player jumps\n\n" ++
    "@Triggers see <@link event player hops>\n@Regex player jumps\n-->\n<--[command]\n-->\n" ++
    "---\n<command at jumps:7>: missing_required_field\nplayer jumps: dangling_reference\n==="

/-- The issue of the event and that of the placeholder are read as they are found. -/
theorem recordsBack_jumpInput :
    Recordable "jumps" jumpInput ∧ Text.Spelled (recordingLines "jumps" jumpInput) jumpFile ∧
      ∃ c, parse jumpFile = [c] ∧ c.run = .pass := by
  have hlines : Text.lines jumpInput =
      ["<--[event]", "@Events player jumps", "", "@Triggers see <@link event player hops>",
        "@Regex player jumps", "-->", "<--[command]", "-->"] := by decide +kernel
  have hclosed : Block.Closed (Text.lines jumpInput) 6 7 := by
    rw [hlines]
    simp only [Block.closed_succ, Block.closed_zero, Block.endsAt_zero]
    decide +kernel
  have hrecordable : Recordable "jumps" jumpInput :=
    ⟨by decide, by decide, by decide +kernel, 6, 7, hclosed⟩
  have hfile : "\n".intercalate (recordingLines "jumps" jumpInput) = jumpFile := by decide +kernel
  have hspelled : Text.Spelled (recordingLines "jumps" jumpInput) jumpFile :=
    hfile ▸ spelled_recordingLines _ _
  refine ⟨hrecordable, hspelled, (recordsBack hrecordable hspelled).passes_iff.2 ?_⟩
  decide +kernel

/-- A command with a name of two lines and no description. -/
def giveInput : String := "<--[command]\n@Name give\ntake\n-->"

/-- The file in which it is recorded. -/
def giveFile : String :=
  "# test: give\n---\n<--[command]\n@Name give\ntake\n-->\n---\n" ++
    "give\ntake: missing_required_field\n==="

/-- One issue is found, but its two lines are read as two issues. -/
theorem mismatch_giveInput :
    Recordable "give" giveInput ∧ Text.Spelled (recordingLines "give" giveInput) giveFile ∧
      (issuesIn "give" giveInput).map issueLine = ["give\ntake: missing_required_field"] ∧
      parse giveFile =
        [⟨"give", 1, giveInput, ["give", "take: missing_required_field"]⟩] ∧
      ¬∃ c, parse giveFile = [c] ∧ c.run = .pass := by
  have hlines : Text.lines giveInput = ["<--[command]", "@Name give", "take", "-->"] := by
    decide +kernel
  have hclosed : Block.Closed (Text.lines giveInput) 0 3 := by
    rw [hlines]
    simp only [Block.closed_zero, Block.endsAt_succ, Block.endsAt_zero]
    decide +kernel
  have hfile : "\n".intercalate (recordingLines "give" giveInput) = giveFile := by decide +kernel
  have hspelled : Text.Spelled (recordingLines "give" giveInput) giveFile :=
    hfile ▸ spelled_recordingLines _ _
  have hparse : parse giveFile =
      [⟨"give", 1, giveInput, ["give", "take: missing_required_field"]⟩] := by decide +kernel
  refine ⟨⟨by decide, by decide, by decide +kernel, 0, 3, hclosed⟩, hspelled, by decide +kernel,
    hparse, ?_⟩
  rintro ⟨c, hc, hrun⟩
  rw [hparse, List.cons.injEq] at hc
  rw [← hc.1] at hrun
  revert hrun
  decide +kernel

end Case

end DocLint

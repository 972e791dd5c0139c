import DocLint.CommandLine
import DocLint.Proofs.Account
import DocLint.Proofs.JsonLength
import DocLint.Proofs.ReportJson

/-!
# The command that checks

What `check` does is decided by one report: that of the batch in the input, under the configuration
that applies (`Command.Reports`). If there is such a report, the command writes it, as text or as
JSON, and tells whether it has errors; if there is none, the command fails and writes nothing
(`Command.runFrom_execute`). Writing itself is taken to succeed, as in `Action`. So a check is
faithful (`Command.faithful`): the format does not matter to the verdict, the report can be read
back from the JSON, and a text on the standard input is checked like a text in a file.
-/

namespace DocLint

/-- No text that is found is too long for its characters to be counted with 64 bits. -/
structure Surroundings.Fits (s : Surroundings) : Prop where
  read : ∀ path text, s.read path = some text → text.length < Nat.pow 2 64
  standardInput : ∀ text, s.standardInput = some text → text.length < Nat.pow 2 64

theorem length_of_mapM {α β : Type} {f : α → Option β} {l : List α} {l' : List β}
    (h : l.mapM f = some l') : l'.length = l.length := by
  induction l generalizing l' with
  | nil =>
    cases h
    rfl
  | cons a l ih =>
    rw [List.mapM_cons, Option.bind_eq_bind, Option.bind_eq_some_iff] at h
    obtain ⟨b, -, h⟩ := h
    rw [Option.bind_eq_bind, Option.bind_eq_some_iff] at h
    obtain ⟨bs, hbs, h⟩ := h
    cases h
    rw [List.length_cons, List.length_cons, ih hbs]

/-- A batch has no more fragments than its text has characters. -/
theorem Fragment.length_le_of_parseBatch {batch : List Fragment} {text : String}
    (h : Fragment.parseBatch text = some batch) : batch.length ≤ text.length := by
  rw [Fragment.parseBatch, Option.bind_eq_some_iff] at h
  obtain ⟨v, hparse, h⟩ := h
  cases v with
  | array vs =>
    have hlength : batch.length = vs.length := length_of_mapM h
    rw [hlength]
    exact Json.length_le_of_parse hparse
  | _ => cases h

namespace Command

variable {s s' : Surroundings} {o : CheckOptions} {config : Config} {text : String} {r : Report}

/-! ## What a check finds -/

/-- The configuration that applies: the strict one if that is asked for, else the one in the file
that is given, else the one in the user's file if there is one, else the default. -/
inductive Applies (s : Surroundings) (o : CheckOptions) : Config → Prop
  | strict (hstrict : o.strict = true) : Applies s o .strict
  | given {path text : String} {config : Config} (hstrict : o.strict = false)
      (hpath : o.config = some path) (htext : s.read path = some text)
      (hconfig : Config.parse text = some config) : Applies s o config
  | user {path text : String} {config : Config} (hstrict : o.strict = false)
      (hgiven : o.config = none) (hpath : s.userConfig = some path)
      (htext : s.read path = some text) (hconfig : Config.parse text = some config) :
      Applies s o config
  | default (hstrict : o.strict = false) (hgiven : o.config = none) (huser : s.userConfig = none) :
      Applies s o {}

/-- The text of the input. -/
inductive InputHolds (s : Surroundings) (o : CheckOptions) : String → Prop
  | standardInput {text : String} (hinput : isStandardInput o.input = true)
      (htext : s.standardInput = some text) : InputHolds s o text
  | file {text : String} (hinput : isStandardInput o.input = false)
      (htext : s.read o.input = some text) : InputHolds s o text

/-- The report of the batch in the input under the configuration that applies. -/
inductive Reports (s : Surroundings) (o : CheckOptions) : Report → Prop
  | mk {config : Config} {text : String} {batch : List Fragment} (hconfig : Applies s o config)
      (htext : InputHolds s o text) (hbatch : Fragment.parseBatch text = some batch) :
      Reports s o (Batch.check batch config).report

theorem bind_eq_ok_iff {ε α β : Type} {x : Except ε α} {f : α → Except ε β} {b : β} :
    x >>= f = .ok b ↔ ∃ a, x = .ok a ∧ f a = .ok b := by
  cases x with
  | error e =>
    constructor
    · intro h
      cases h
    · rintro ⟨a, h, -⟩
      cases h
  | ok a =>
    constructor
    · exact fun h => ⟨a, rfl, h⟩
    · rintro ⟨_, h, hf⟩
      cases h
      exact hf

theorem loadConfig_eq_ok_iff {path : String} : loadConfig s path = .ok config ↔
    ∃ text, s.read path = some text ∧ Config.parse text = some config := by
  unfold loadConfig
  cases s.read path with
  | none => simp
  | some text => cases hconfig : Config.parse text <;> simp [hconfig]

theorem config_eq_ok_iff : Command.config s o = .ok config ↔ Applies s o config := by
  unfold Command.config
  constructor
  · intro h
    cases hstrict : o.strict with
    | true =>
      rw [hstrict, if_pos rfl, Except.ok.injEq] at h
      exact h ▸ .strict hstrict
    | false =>
      rw [hstrict, if_neg Bool.false_ne_true] at h
      cases hgiven : o.config with
      | some path =>
        rw [hgiven] at h
        obtain ⟨text, htext, hconfig⟩ := loadConfig_eq_ok_iff.1 h
        exact .given hstrict hgiven htext hconfig
      | none =>
        rw [hgiven] at h
        cases huser : s.userConfig with
        | some path =>
          rw [huser] at h
          obtain ⟨text, htext, hconfig⟩ := loadConfig_eq_ok_iff.1 h
          exact .user hstrict hgiven huser htext hconfig
        | none =>
          rw [huser] at h
          cases h
          exact .default hstrict hgiven huser
  · intro h
    cases h with
    | strict hstrict => rw [hstrict, if_pos rfl]
    | given hstrict hpath htext hconfig =>
      rw [hstrict, if_neg Bool.false_ne_true, hpath]
      exact loadConfig_eq_ok_iff.2 ⟨_, htext, hconfig⟩
    | user hstrict hgiven hpath htext hconfig =>
      rw [hstrict, if_neg Bool.false_ne_true, hgiven, hpath]
      exact loadConfig_eq_ok_iff.2 ⟨_, htext, hconfig⟩
    | default hstrict hgiven huser =>
      rw [hstrict, if_neg Bool.false_ne_true, hgiven, huser]
      rfl

theorem readInput_eq_ok_iff : readInput s o.input = .ok text ↔ InputHolds s o text := by
  unfold readInput
  constructor
  · intro h
    split at h
    · rename_i hinput
      split at h <;> cases h
      exact .standardInput hinput ‹_›
    · rename_i hinput
      split at h <;> cases h
      exact .file (Bool.eq_false_of_not_eq_true hinput) ‹_›
  · intro h
    cases h with
    | standardInput hinput htext => rw [hinput, if_pos rfl, htext]
    | file hinput htext => rw [hinput, if_neg Bool.false_ne_true, htext]

/-! ## What a check does -/

/-- The report of a check, or why there is none. -/
def verdict (s : Surroundings) (o : CheckOptions) : Except CommandFailure Report := do
  let config ← Command.config s o
  let text ← readInput s o.input
  match Fragment.parseBatch text with
  | none => .error (.inputMalformed o.input)
  | some batch => .ok (Batch.check batch config).report

/-- The text that is written for a report. -/
def written (r : Report) : Format → String
  | .text => r.text ++ "\n"
  | .json => r.prettyJson ++ "\n"

theorem verdict_eq_ok_iff : verdict s o = .ok r ↔ Reports s o r := by
  unfold verdict
  rw [bind_eq_ok_iff]
  constructor
  · rintro ⟨config, hconfig, h⟩
    obtain ⟨text, htext, h⟩ := bind_eq_ok_iff.1 h
    split at h <;> cases h
    exact .mk (config_eq_ok_iff.1 hconfig) (readInput_eq_ok_iff.1 htext) ‹_›
  · rintro ⟨hconfig, htext, hbatch⟩
    refine ⟨_, config_eq_ok_iff.2 hconfig, ?_⟩
    rw [bind_eq_ok_iff]
    refine ⟨_, readInput_eq_ok_iff.2 htext, ?_⟩
    rw [hbatch]

/-- An action goes on with what another one answers, unless that fails. -/
theorem runFrom_bind {α β : Type} (a : Action α) (f : α → Action β) (out : String) :
    (a >>= f).runFrom out = match a.runFrom out with
      | (.ok x, out) => (f x).runFrom out
      | (.error e, out) => (.error e, out) := by
  simp only [Action.runFrom, ExceptT.run_bind, StateT.run_bind]
  cases StateT.run (ExceptT.run a) out with
  | mk x out => cases x <;> rfl

theorem runFrom_lift {α : Type} (x : Except CommandFailure α) (out : String) :
    (liftM x : Action α).runFrom out = (x, out) := rfl

theorem runFrom_writeReport (r : Report) (f : Format) (out : String) :
    (writeReport r f).runFrom out = (.ok (), out ++ written r f) := by
  cases f with
  | text => rfl
  | json =>
    rw [written, ← String.append_assoc]
    rfl

/-- **What a check does is decided by its report**: it tells whether that has errors and writes it.
If there is none, it writes nothing. -/
theorem runFrom_execute (s : Surroundings) (o : CheckOptions) (out : String) :
    (execute s (.check o)).runFrom out =
      match verdict s o with
      | .ok r => (.ok (!r.hasErrors), out ++ written r o.format)
      | .error e => (.error e, out) := by
  rw [execute, executeCheck, verdict, runFrom_bind, runFrom_lift]
  cases Command.config s o with
  | error e => rfl
  | ok config =>
    dsimp only
    rw [runFrom_bind, runFrom_lift]
    cases readInput s o.input with
    | error e => rfl
    | ok text =>
      cases hbatch : Fragment.parseBatch text with
      | none =>
        simp only [bind, Except.bind, hbatch]
        rfl
      | some batch =>
        simp only [hbatch]
        rw [runFrom_bind, runFrom_writeReport]
        simp only [bind, Except.bind, hbatch]
        rfl

/-! ## The report that is written -/

/-- The number of records of a report fits into 64 bits, because a batch has no more fragments than
its text has characters. -/
theorem recordsChecked_lt (hfits : s.Fits) (h : Reports s o r) :
    r.recordsChecked < Nat.pow 2 64 := by
  obtain @⟨config, text, batch, -, htext, hbatch⟩ := h
  have hlength : text.length < Nat.pow 2 64 := by
    cases htext with
    | standardInput _ htext => exact hfits.standardInput text htext
    | file _ htext => exact hfits.read _ text htext
  have hrecords : (Batch.check batch config).report.recordsChecked ≤ batch.length := by
    rw [Batch.recordsChecked_eq, ← List.length_zipIdx (l := batch)]
    exact List.countP_le_length
  have hbatch' : batch.length ≤ text.length := Fragment.length_le_of_parseBatch hbatch
  omega

/-- A check is faithful to the report of its input. -/
structure Faithful (s : Surroundings) (o : CheckOptions) : Prop where
  /-- The format of the report does not matter to how the command ends. -/
  ends_alike : ∀ f g out out',
    ((execute s (.check { o with format := f })).runFrom out).1 =
      ((execute s (.check { o with format := g })).runFrom out').1
  /-- The command succeeds exactly if a configuration applies, and the input is read and holds a
  batch. -/
  succeeds_iff : ∀ out,
    (∃ clean, ((execute s (.check o)).runFrom out).1 = .ok clean) ↔ ∃ r, Reports s o r
  /-- All is well exactly if no issue of the report is an error. -/
  clean_iff : ∀ r clean out, Reports s o r →
    ((execute s (.check o)).runFrom out).1 = .ok clean →
      (clean = true ↔ ∀ i ∈ r.issues, i.severity ≠ .error)
  /-- As text, the report is written with a line feed behind it. -/
  text : ∀ r out, Reports s o r →
    ((execute s (.check { o with format := .text })).runFrom out).2 = out ++ (r.text ++ "\n")
  /-- As JSON, the report is written such that it can be read back. -/
  json : ∀ r, Reports s o r → ∃ json, Report.parseJson json = some r ∧
    ∀ out, ((execute s (.check { o with format := .json })).runFrom out).2 = out ++ json
  /-- If the command fails, nothing is written. -/
  silent : ∀ e out, ((execute s (.check o)).runFrom out).1 = .error e →
    ((execute s (.check o)).runFrom out).2 = out
  /-- A text on the standard input is checked as it is in a file under the same configuration. -/
  standardInput : ∀ (s' : Surroundings) (file text : String) (out : String),
    s.standardInput = some text → isStandardInput file = false → s'.read file = some text →
    Command.config s' o = Command.config s o →
      ((execute s (.check { o with input := "-" })).runFrom out).1.toOption =
        ((execute s' (.check { o with input := file })).runFrom out).1.toOption ∧
      ((execute s (.check { o with input := "-" })).runFrom out).2 =
        ((execute s' (.check { o with input := file })).runFrom out).2

/-- The format of the report does not matter to what the report is. -/
theorem verdict_format (s : Surroundings) (o : CheckOptions) (f : Format) :
    verdict s { o with format := f } = verdict s o := rfl

/-- **A check does what its report says**, in both formats and from both kinds of input. -/
theorem faithful (s : Surroundings) (o : CheckOptions) (hfits : s.Fits) : Faithful s o where
  ends_alike f g out out' := by
    rw [runFrom_execute, runFrom_execute, verdict_format s o f, verdict_format s o g]
    cases verdict s o <;> rfl
  succeeds_iff out := by
    simp only [← verdict_eq_ok_iff]
    rw [runFrom_execute]
    cases verdict s o with
    | ok r => exact ⟨fun _ => ⟨r, rfl⟩, fun _ => ⟨_, rfl⟩⟩
    | error e => simp
  clean_iff r clean out hr h := by
    rw [runFrom_execute, verdict_eq_ok_iff.2 hr] at h
    obtain rfl : (!r.hasErrors) = clean := Except.ok.inj h
    rw [Bool.not_eq_true', ← Bool.not_eq_true, Report.hasErrors_iff]
    push Not
    rfl
  text r out hr := by
    rw [runFrom_execute, verdict_format, verdict_eq_ok_iff.2 hr]
    rfl
  json r hr := by
    refine ⟨written r .json, ?_, fun out => ?_⟩
    · have hgap : ∀ c ∈ "\n".toList, Json.isGap c = true := List.forall_mem_singleton.2 rfl
      have hnone : ∀ c ∈ "".toList, Json.isGap c = true := List.forall_mem_nil _
      have hread := (r.parseJson_of_written (recordsChecked_lt hfits hr) hnone hgap).2
      rwa [String.empty_append] at hread
    · rw [runFrom_execute, verdict_format, verdict_eq_ok_iff.2 hr]
  silent e out h := by
    rw [runFrom_execute] at h ⊢
    cases hverdict : verdict s o with
    | ok r =>
      rw [hverdict] at h
      cases h
    | error e => rfl
  standardInput s' file text out htext hfile hread hconfig := by
    have hdash : readInput s "-" = .ok text := by
      rw [readInput, if_pos (by decide), htext]
    have hplain : readInput s' file = .ok text := by
      rw [readInput, hfile, if_neg Bool.false_ne_true, hread]
    have hsame : Command.config s' { o with input := file } =
        Command.config s { o with input := "-" } := hconfig
    rw [runFrom_execute, runFrom_execute, verdict, verdict, hdash, hplain, hsame]
    cases Command.config s { o with input := "-" } with
    | error e => exact ⟨rfl, rfl⟩
    | ok config =>
      simp only [bind, Except.bind]
      cases Fragment.parseBatch text <;> exact ⟨rfl, rfl⟩

/-- A batch of an event that has a name only. -/
def bareEventText : String := "[[\"event\",null,[[\"events\",\"start\"]]]]"

/-- That batch on the standard input and in a file. -/
def bareEvent : Surroundings where
  read path := if path = "x.json" then some bareEventText else none
  standardInput := some bareEventText
  userConfig := none

theorem faithful_bareEvent : bareEvent.Fits ∧
    Faithful bareEvent { input := "x.json", format := .json } := by
  have hlength : bareEventText.length < Nat.pow 2 64 := by decide
  have hfits : bareEvent.Fits := by
    constructor
    · intro path text h
      obtain ⟨-, h⟩ := Option.ite_none_right_eq_some.1 h
      exact Option.some.inj h ▸ hlength
    · intro text h
      exact Option.some.inj h ▸ hlength
  exact ⟨hfits, faithful _ _ hfits⟩

example : (execute bareEvent (.check { input := "-" })).runFrom "> " =
    (.ok false, "> start\n" ++
      "  error[missing_required_field] (event) missing required field 'triggers'\n" ++
      "  error[missing_required_field] (event) missing required field 'regex'\n" ++
      "1 records checked: 2 errors, 0 warnings\n") := by decide +kernel

end Command

end DocLint

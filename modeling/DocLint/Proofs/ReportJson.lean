import DocLint.Proofs.Report
import DocLint.Proofs.Shape
import DocLint.Report.Json

/-!
# Reports written as JSON

A report, its issues and their parts are each read back from the value that stands for them; what is
filed under ascending names stands in the order in which it was filed (`Folders.alter_of_lt`). So a
report is read back from its JSON, be it on one line or on many (`Report.parseJson_of_written`).
-/

namespace DocLint

/-! ## Names -/

theorem Category.ofJson?_toJson (c : Category) : ofJson? c.toJson = some c := by
  cases c <;> decide

theorem Severity.ofJson?_toJson (s : Severity) : ofJson? s.toJson = some s := by
  cases s <;> decide

theorem IssueKind.ofJson?_toJson (k : IssueKind) : ofJson? k.toJson = some k := by
  cases k <;> decide

/-! ## Issues -/

namespace Issue

theorem fields?_toJson (i : Issue) :
    i.toJson.fields? false ["record", "category", "kind", "severity", "message"] =
      some [some (.ofText i.record), i.category.map Category.toJson, some i.kind.toJson,
        some i.severity.toJson, some (.ofText i.message)] := by
  obtain ⟨record, category, kind, severity, message⟩ := i
  cases category with
  | none =>
    have hkeys : ["record", "kind", "severity", "message"].Nodup := by decide
    refine (Json.fields?_record [("record", .ofText record), ("kind", kind.toJson),
      ("severity", severity.toJson), ("message", .ofText message)] hkeys _).trans ?_
    simp [List.lookup_cons]
  | some category =>
    have hkeys : ["record", "category", "kind", "severity", "message"].Nodup := by decide
    refine (Json.fields?_record [("record", .ofText record), ("category", category.toJson),
      ("kind", kind.toJson), ("severity", severity.toJson), ("message", .ofText message)] hkeys
      _).trans ?_
    simp [List.lookup_cons]

/-- **An issue is read back from its value**, with or without a category. -/
theorem ofJson?_toJson (i : Issue) : ofJson? i.toJson = some i := by
  have hcategory : ((i.category.map Category.toJson).getD .null).nullable? Category.ofJson? =
      some i.category := by
    cases i.category with
    | none => rfl
    | some c => exact congrArg (Option.map some) c.ofJson?_toJson
  rw [ofJson?, fields?_toJson]
  dsimp only [Option.bind_eq_bind, Option.bind_some]
  rw [hcategory, i.kind.ofJson?_toJson, i.severity.ofJson?_toJson]
  rfl

theorem legible_toJson (i : Issue) : i.toJson.Legible := by
  have hcategory : ∀ m ∈ (i.category.map fun c => ("category", c.toJson)).toList, m.2.Legible := by
    intro m hm
    obtain ⟨c, -, rfl⟩ := Option.map_eq_some_iff.1 (Option.mem_toList.1 hm)
    exact .string _
  have hrecord : ∀ m ∈ [("record", Json.ofText i.record)], m.2.Legible :=
    List.forall_mem_singleton.2 (.string _)
  have hrest : ∀ m ∈ [("kind", i.kind.toJson), ("severity", i.severity.toJson),
      ("message", Json.ofText i.message)], m.2.Legible :=
    List.forall_mem_cons.2 ⟨.string _, List.forall_mem_cons.2 ⟨.string _,
      List.forall_mem_singleton.2 (.string _)⟩⟩
  exact Json.legible_record (List.forall_mem_append.2
    ⟨List.forall_mem_append.2 ⟨hrecord, hcategory⟩, hrest⟩)

end Issue

/-! ## Reports -/

namespace Folders

variable {fs : Folders} {name : String}

/-- A name behind all others comes last. -/
theorem alter_of_lt (h : ∀ n ∈ fs.names, n < name) (f : List Issue → List Issue) :
    alter name f fs = fs ++ [(name, f [])] := by
  induction fs with
  | nil => rfl
  | cons p fs ih =>
    obtain ⟨n, is⟩ := p
    obtain ⟨hn, hfs⟩ := List.forall_mem_cons.1 h
    have hlt : ¬name < n := String.lt_asymm hn
    have hne : ¬name = n := fun heq => String.lt_irrefl n (heq ▸ hn)
    rw [alter, if_neg hlt, if_neg hne, ih hfs]
    rfl

end Folders

namespace Report

/-- What is filed under ascending names, all behind those already there, comes behind these. -/
theorem file_of_ordered {r : Report} {fs : Folders} (h : (r.folders ++ fs).Ordered) :
    r.file fs = { r with folders := r.folders ++ fs, ordered := h } := by
  induction fs generalizing r with
  | nil =>
    obtain ⟨n, folders, hordered⟩ := r
    simp [file]
  | cons f fs ih =>
    obtain ⟨name, issues⟩ := f
    have hlt : ∀ n ∈ r.folders.names, n < name := by
      intro n hn
      rw [Folders.Ordered, Folders.names, List.map_append, List.pairwise_append] at h
      exact h.2.2 n hn name List.mem_cons_self
    have hfolders : r.folders.alter name (fun _ => issues) ++ fs =
        r.folders ++ (name, issues) :: fs := by
      rw [Folders.alter_of_lt hlt, List.append_assoc, List.singleton_append]
    rw [file, ih (hfolders ▸ h)]
    simp only [hfolders]

theorem fields?_toJson (r : Report) : r.toJson.fields? false ["records_checked", "issues"] =
    some [some (.ofNat r.recordsChecked),
      some (.record (r.folders.map fun f => (f.1, .array (f.2.map Issue.toJson))))] := by
  have hkeys : ["records_checked", "issues"].Nodup := by decide
  refine (Json.fields?_record [("records_checked", .ofNat r.recordsChecked),
    ("issues", .record (r.folders.map fun f => (f.1, .array (f.2.map Issue.toJson))))] hkeys
    _).trans ?_
  simp [List.lookup_cons]

/-- **A report is read back from its value**, if the number of its records fits into 64 bits. -/
theorem ofJson?_toJson (r : Report) (h : r.recordsChecked < Nat.pow 2 64) :
    ofJson? r.toJson = some r := by
  have hfolders : (r.folders.map fun f => (f.1, Json.array (f.2.map Issue.toJson))).mapM
      (fun m => (m.2.list? Issue.ofJson?).map fun is => (m.1, is)) = some r.folders := by
    refine Json.mapM_map_eq_some fun f _ => ?_
    dsimp only
    rw [Json.list?_array_map fun i _ => i.ofJson?_toJson]
    rfl
  rw [ofJson?, fields?_toJson]
  dsimp only [Option.bind_eq_bind, Option.bind_some]
  rw [Json.nat?_ofNat h, Json.members?_record]
  dsimp only [Option.bind_some]
  rw [hfolders]
  have hfile : ({ empty with recordsChecked := r.recordsChecked } : Report).file r.folders = r :=
    file_of_ordered (r := { empty with recordsChecked := r.recordsChecked }) r.ordered
  exact congrArg some hfile

theorem legible_toJson (r : Report) : r.toJson.Legible := by
  refine Json.legible_record (List.forall_mem_cons.2 ⟨Json.legible_ofNat _,
    List.forall_mem_singleton.2 (Json.legible_record (List.forall_mem_map.2 fun f _ => ?_))⟩)
  exact .array (List.forall_mem_map.2 fun i _ => i.legible_toJson)

/-- **A report is read back from its JSON**, be it on one line or on many, and with any gaps around
it. -/
theorem parseJson_of_written (r : Report) (h : r.recordsChecked < Nat.pow 2 64)
    {before after : String} (hbefore : ∀ c ∈ before.toList, Json.isGap c = true)
    (hafter : ∀ c ∈ after.toList, Json.isGap c = true) :
    parseJson (before ++ r.compactJson ++ after) = some r ∧
      parseJson (before ++ r.prettyJson ++ after) = some r := by
  have hcompact := r.legible_toJson.parse_compact hbefore hafter
  have hpretty := r.legible_toJson.parse_pretty hbefore hafter
  constructor
  · rw [parseJson, compactJson, hcompact, Option.bind_some, r.ofJson?_toJson h]
  · rw [parseJson, prettyJson, hpretty, Option.bind_some, r.ofJson?_toJson h]

/-- As many records as a report can count, an empty folder, characters that are escaped, and an
issue under a name that is not that of its record. -/
def mixed : Report where
  recordsChecked := 18446744073709551615
  folders :=
    [("", []),
     ("\"ß\n",
       [⟨"start", some .objectType, .synonymShadow, .warning, "\\ and \x01"⟩,
        ⟨"\"ß\n", none, .unknownCategory, .error, ""⟩])]
  ordered := by decide

theorem parseJson_of_written_mixed :
    mixed.recordsChecked < Nat.pow 2 64 ∧ (∀ c ∈ "\r\n\t ".toList, Json.isGap c = true) ∧
      (∀ c ∈ "\n".toList, Json.isGap c = true) ∧
      parseJson ("\r\n\t " ++ mixed.compactJson ++ "\n") = some mixed ∧
      parseJson ("\r\n\t " ++ mixed.prettyJson ++ "\n") = some mixed := by
  have hcount : mixed.recordsChecked < Nat.pow 2 64 := by decide
  have hbefore : ∀ c ∈ "\r\n\t ".toList, Json.isGap c = true := List.all_eq_true.1 (by decide)
  have hafter : ∀ c ∈ "\n".toList, Json.isGap c = true := List.all_eq_true.1 (by decide)
  exact ⟨hcount, hbefore, hafter, parseJson_of_written mixed hcount hbefore hafter⟩

end Report

end DocLint

import DocLint.Json.Reader
import DocLint.Json.Shape
import DocLint.Json.Writer
import DocLint.Report

/-!
# Reports as JSON

A report is an object with the number of checked records and, under `issues`, an object with the
issues of each name. An issue without a category has no member for it.
-/

namespace DocLint

def Category.toJson (c : Category) : Json := .ofText c.name

/-- A category by one of its words. -/
def Category.ofJson? : Json → Option Category := Json.choice? Category.ofWord?

def Severity.toJson (s : Severity) : Json := .ofText s.name

def Severity.ofJson? : Json → Option Severity :=
  Json.choice? fun n => Severity.all.find? fun s => s.name == n

def IssueKind.toJson (k : IssueKind) : Json := .ofText k.name

def IssueKind.ofJson? : Json → Option IssueKind :=
  Json.choice? fun n => IssueKind.all.find? fun k => k.name == n

namespace Issue

def toJson (i : Issue) : Json :=
  .record <|
    [("record", .ofText i.record)] ++
    (i.category.map fun c => ("category", c.toJson)).toList ++
    [("kind", i.kind.toJson), ("severity", i.severity.toJson), ("message", .ofText i.message)]

/-- The issue in a value. -/
def ofJson? (v : Json) : Option Issue := do
  match ← v.fields? false ["record", "category", "kind", "severity", "message"] with
  | [some record, category, some kind, some severity, some message] =>
    let record ← record.text?
    let category ← (category.getD .null).nullable? Category.ofJson?
    let kind ← IssueKind.ofJson? kind
    let severity ← Severity.ofJson? severity
    let message ← message.text?
    return ⟨record, category, kind, severity, message⟩
  | _ => none

end Issue

namespace Report

def toJson (r : Report) : Json :=
  .record
    [("records_checked", .ofNat r.recordsChecked),
     ("issues", .record (r.folders.map fun f => (f.1, .array (f.2.map Issue.toJson))))]

/-- Files lists of issues under names; of two for one name the later one stays. -/
def file (r : Report) : List (String × List Issue) → Report
  | [] => r
  | (name, issues) :: rest =>
    file { r with
      folders := r.folders.alter name fun _ => issues
      ordered := Folders.ordered_alter r.ordered } rest

/-- The report in a value. -/
def ofJson? (v : Json) : Option Report := do
  match ← v.fields? false ["records_checked", "issues"] with
  | [some n, some issues] =>
    let n ← n.nat?
    let members ← issues.members?
    let folders ← members.mapM fun m => (m.2.list? Issue.ofJson?).map fun is => (m.1, is)
    return { empty with recordsChecked := n }.file folders
  | _ => none

/-- The report as JSON on one line. -/
def compactJson (r : Report) : String := r.toJson.compact

/-- The report as JSON on many lines. -/
def prettyJson (r : Report) : String := r.toJson.pretty

/-- Reads a report from JSON. -/
def parseJson (text : String) : Option Report := (Json.parse text).bind ofJson?

end Report

end DocLint

import DocLint.Config
import DocLint.Finding
import DocLint.Report

/-!
# Notices

A notice is a finding with the record that it is filed under. What a notice makes of a report hangs
on the configuration: an issue of a severity, or nothing.
-/

namespace DocLint

/-- A finding with the record that it is filed under. -/
structure Notice where
  record : String
  category : Option Category
  finding : Finding
  deriving DecidableEq, Repr

/-- The issue that a notice makes under a configuration; none if it is dropped. -/
def Notice.issue? (config : Config) (n : Notice) : Option Issue :=
  (config.severity? n.finding.kind).map fun s => n.finding.toIssue n.record n.category s

namespace Report

/-- Files the issue that a notice makes, if it is not dropped. -/
def note (r : Report) (config : Config) (n : Notice) : Report :=
  match n.issue? config with
  | none => r
  | some i => r.push i

/-- Files the issues that notices make, one after the other. -/
def noteAll (r : Report) (config : Config) (notices : List Notice) : Report :=
  notices.foldl (fun r n => r.note config n) r

end Report

end DocLint

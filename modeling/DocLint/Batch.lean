import DocLint.Fragment
import DocLint.Review

/-!
# Checking a batch

The fragments of a batch have their turns one after the other, each being loaded and registered in
its turn; then all registered records are reviewed. What is found makes a report; a fragment that
fails does not stop the others. The configuration and the report so far are handed on from step to
step.
-/

namespace DocLint

/-- A checked batch: the registered records, and the report. -/
structure Checked where
  registry : Registry .complete
  report : Report

namespace Batch

/-- What a check has come to while the fragments have their turns. -/
structure Progress where
  registry : Registry .collecting
  report : Report

/-- The turn of a fragment: it is loaded, and the record that it makes, if any, is registered under
the number of the fragment. -/
def turn (config : Config) (index : Nat) (f : Fragment) (s : Progress) : Progress :=
  match f.loadInto index config s.report with
  | (none, report) => { s with report }
  | (some record, report) =>
    match s.registry.register ⟨index, record⟩ with
    | .ok _ registry => ⟨registry, report⟩
    | .error e registry =>
      ⟨registry, report.note config ⟨record.name, some record.category, e⟩⟩

/-- The turns of some fragments, the first of them being at the place `index`. -/
def turns (config : Config) : Nat → List Fragment → Progress → Progress
  | _, [], s => s
  | index, f :: rest, s => turns config (index + 1) rest (turn config index f s)

/-- The notices of the review of an entry. -/
def entryNotices (p : Entry × List Finding) : List Notice :=
  p.2.map fun x => ⟨p.1.name, some p.1.category, x⟩

/-- Checks a batch. -/
def check (batch : List Fragment) (config : Config) : Checked :=
  let s := turns config 0 batch ⟨.empty, .empty⟩
  let registry := s.registry.complete
  let report := { s.report with recordsChecked := registry.size }
  ⟨registry, registry.reviewAll.foldl (fun r p => r.noteAll config (entryNotices p)) report⟩

end Batch

end DocLint

import DocLint.Draft
import DocLint.Notice

/-!
# Fragments

A fragment is one block of tags as it was found in a source: the word for its category, where it
comes from, and its tags in order. Loading it gives a record, or none if it has no name or its
category does not exist, and notes in a report what is wrong with it. All this is noted under the
same name: that of the record, or a placeholder if there is none.
-/

namespace DocLint

/-- A block of tags. -/
structure Fragment where
  category : String
  source : Option String := none
  tags : List (String × String) := []
  deriving DecidableEq, Repr

namespace Fragment

/-- The fragment of a category with neither source nor tags. -/
def ofCategory (c : Category) : Fragment := { category := c.name }

/-- Adds a tag at the end. -/
def tag (f : Fragment) (key value : String) : Fragment :=
  { f with tags := f.tags ++ [(key, value)] }

/-- What stands for the name of a record that has none: its category and its source, or its place in
the batch. -/
def placeholder (f : Fragment) (index : Nat) : String :=
  match f.source with
  | some s => "<" ++ f.category ++ " at " ++ s ++ ">"
  | none => "<" ++ f.category ++ " #" ++ index.repr ++ ">"

/-- What is wrong with a tag, if anything. -/
def tagFinding? (c : Category) (key : String) : Applied → Option Finding
  | .accepted => none
  | .unrecognized => some (.unrecognizedKey c key)
  | .refused f => some f

/-- What is wrong with the tags of a draft: first each tag on its own, in order, then the keys that
were given more than once. -/
def tagFindings (c : Category) (tags : List (String × String)) (draft : Draft)
    (applied : List Applied) : List Finding :=
  ((tags.zip applied).filterMap fun (t, a) => tagFinding? c t.1 a) ++
    draft.log.repeated.map .duplicateTag

/-- Loads a fragment at a place in a batch. What is wrong with it is noted in the report. -/
def loadInto (f : Fragment) (index : Nat) (config : Config) (report : Report) :
    Option Record × Report :=
  match Category.read f.category with
  | .error e => (none, report.note config ⟨f.placeholder index, none, .unknownCategory e⟩)
  | .ok c =>
    let (draft, applied) := (Draft.ofCategory c).applyAll f.tags
    let name := draft.provisionalName?.getD (f.placeholder index)
    let report := report.noteAll config
      ((tagFindings c f.tags draft applied).map fun x => ⟨name, some c, x⟩)
    match draft.build with
    | .ok record => (some record, report)
    | .error e => (none, report.note config ⟨name, some c, e⟩)

end Fragment

end DocLint

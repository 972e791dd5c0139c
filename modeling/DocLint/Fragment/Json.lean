import DocLint.Fragment
import DocLint.Json.Reader
import DocLint.Json.Shape
import DocLint.Json.Writer

/-!
# Fragments as JSON

A fragment is an object with its category, its source and its tags, each tag being an array of key
and value. The source may be `null` or left out, the tags may be left out.
-/

namespace DocLint.Fragment

/-- A tag as an array of key and value. -/
def tagJson (t : String × String) : Json := .array [.ofText t.1, .ofText t.2]

def toJson (f : Fragment) : Json :=
  .record <|
    [("category", .ofText f.category)] ++
    (f.source.map fun s => ("source", Json.ofText s)).toList ++
    [("tags", .array (f.tags.map tagJson))]

/-- The tag in a value. -/
def tagOfJson? : Json → Option (String × String)
  | .array [k, v] => do return (← k.text?, ← v.text?)
  | _ => none

/-- The fragment in a value. -/
def ofJson? (v : Json) : Option Fragment := do
  match ← v.fields? false ["category", "source", "tags"] with
  | [some category, source, tags] =>
    let category ← category.text?
    let source ← (source.getD .null).nullable? Json.text?
    let tags ← (tags.getD (.array [])).list? tagOfJson?
    return { category, source, tags }
  | _ => none

/-- A batch of fragments as JSON. -/
def batchJson (batch : List Fragment) : Json := .array (batch.map toJson)

/-- Reads a batch of fragments from JSON. -/
def parseBatch (text : String) : Option (List Fragment) :=
  (Json.parse text).bind fun v => v.list? ofJson?

end DocLint.Fragment

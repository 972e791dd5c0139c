import DocLint.Reference
import DocLint.Registry

/-!
# Reviewing records

When all records are registered, each is reviewed against the registry: required fields must not be
blank, references must lead to records, and synonyms must lead back and must not be names of records
of other categories. A review tells all that it finds.
-/

namespace DocLint

/-- The fields of a record that are required but absent. -/
def missingFields (fields : List (String × Bool)) : List Finding :=
  (fields.filter fun f => !f.2).map fun f => .missingField f.1

namespace Registry

/-- What is wrong with a reference, if anything. -/
def danglingReason? (r : Registry .complete) : Reference → Option DanglingReason
  | .link _ category name =>
    match Category.read category with
    | .ok c => if r.contains c name then none else some .unresolved
    | .error _ => some .unknownCategory
  | .incomplete _ => some .incomplete
  | .unterminated _ => some .unterminated

/-- The references of a text that lead to no record, in order. -/
def danglingReferences (r : Registry .complete) (text : String) : List Finding :=
  (Reference.scan text).filterMap fun ref =>
    (r.danglingReason? ref).map fun reason => .danglingReference reason ref.raw text

/-- Files what is wrong with the references of a text under the name of a record, in a log that may
have something in it. -/
def noteReferences (r : Registry .complete) (record text : String)
    (log : List (String × Finding)) : List (String × Finding) :=
  (Reference.scan text).foldl (fun log ref =>
    match r.danglingReason? ref with
    | none => log
    | some reason => log ++ [(record, .danglingReference reason ref.raw text)]) log

/-- Whether a synonym leads back to the record with the main name `main`, or where else. -/
def synonymConflict? (r : Registry .complete) (c : Category) (main synonym : String) :
    Option Finding :=
  match r.lookup c synonym with
  | some o =>
    if o.record.mainName = main then none else some (.synonymConflict synonym (some o.name))
  | none => some (.synonymConflict synonym none)

/-- The records of other categories that have a synonym as a name. -/
def synonymShadows (r : Registry .complete) (c : Category) (synonym : String) : List Finding :=
  (Category.all.filter (· != c)).filterMap fun other =>
    (r.lookup other synonym).map fun o => .synonymShadow synonym other o.name

/-- What is wrong with the synonyms of a record, in their order; one that equals the main name is
left out. -/
def synonymFindings (r : Registry .complete) (record : Record) : List Finding :=
  (record.synonyms.filter (· != record.mainName)).flatMap fun s =>
    (r.synonymConflict? record.category record.mainName s).toList ++
      r.synonymShadows record.category s

/-- All that a review of a record finds. -/
def review (r : Registry .complete) (record : Record) : List Finding :=
  match record with
  | .event e =>
    r.synonymFindings record ++
      missingFields
        [(EventKey.events.text, !Text.isBlank e.name),
         (EventKey.triggers.text, !Text.isBlank e.triggers),
         (EventKey.regex.text, e.pattern.isSome)] ++
      (e.triggers :: e.context ++ e.determinations).flatMap r.danglingReferences
  | .entity e =>
    missingFields [(SharedKey.description.text, !Text.isBlank e.shared.description)] ++
      r.danglingReferences e.shared.description

/-- The registered records in order, each with all that its review finds. -/
def reviewAll (r : Registry .complete) : List (Entry × List Finding) :=
  r.entries.map fun e => (e, r.review e.record)

end Registry

end DocLint

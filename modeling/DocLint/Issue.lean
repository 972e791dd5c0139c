import DocLint.Category

/-!
# Issues

An issue is one finding against one record: what kind of problem it is, how serious, and a message.
-/

namespace DocLint

/-- How serious an issue is: errors fail a run, warnings do not. -/
inductive Severity
  | error
  | warning
  deriving DecidableEq, Repr

/-- The name of a severity. -/
def Severity.name : Severity → String
  | error => "error"
  | warning => "warning"

def Severity.all : List Severity := [.error, .warning]

/-- What kind of problem an issue is about. -/
inductive IssueKind
  /-- A pattern that cannot be used. -/
  | invalidPattern
  /-- A name that belongs to another record. -/
  | duplicateName
  /-- A field that is absent or blank but required. -/
  | missingRequiredField
  /-- A reference that leads to no record. -/
  | danglingReference
  /-- A synonym that leads to another record of the same category. -/
  | synonymConflict
  /-- A synonym that is the name of a record of another category. -/
  | synonymShadow
  /-- A tag given more than once. -/
  | duplicateTag
  /-- A tag with a key that the category does not have. -/
  | unrecognizedKey
  /-- A category that does not exist. -/
  | unknownCategory
  deriving DecidableEq, Repr

namespace IssueKind

/-- All kinds of issues, in the order in which they are listed. -/
def all : List IssueKind :=
  [.invalidPattern, .duplicateName, .missingRequiredField, .danglingReference, .synonymConflict,
   .synonymShadow, .duplicateTag, .unrecognizedKey, .unknownCategory]

/-- The name of a kind of issue. -/
def name : IssueKind → String
  | invalidPattern => "invalid_pattern"
  | duplicateName => "duplicate_name"
  | missingRequiredField => "missing_required_field"
  | danglingReference => "dangling_reference"
  | synonymConflict => "synonym_conflict"
  | synonymShadow => "synonym_shadow"
  | duplicateTag => "duplicate_tag"
  | unrecognizedKey => "unrecognized_key"
  | unknownCategory => "unknown_category"

/-- How serious issues of a kind are, unless a configuration says otherwise. -/
def defaultSeverity : IssueKind → Severity
  | synonymShadow => .warning
  | _ => .error

end IssueKind

/-- A finding against one record. The category is absent if it could not be read. -/
structure Issue where
  /-- The name of the record, or what stands for it if it has none. -/
  record : String
  category : Option Category := none
  kind : IssueKind
  severity : Severity
  message : String
  deriving DecidableEq, Repr

namespace Issue

def isError (i : Issue) : Bool := i.severity == .error

/-- An issue on one line. -/
def text (i : Issue) : String :=
  let category := match i.category with
    | some c => c.name ++ " "
    | none => ""
  i.severity.name ++ "[" ++ i.kind.name ++ "] " ++ category ++ i.record ++ ": " ++ i.message

/-- An issue as a line under the name of its record. -/
def indentedText (i : Issue) : String :=
  let category := match i.category with
    | some c => "(" ++ c.name ++ ") "
    | none => ""
  "  " ++ i.severity.name ++ "[" ++ i.kind.name ++ "] " ++ category ++ i.message

end Issue

end DocLint

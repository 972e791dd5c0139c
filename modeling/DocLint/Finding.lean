import DocLint.Issue
import DocLint.Key
import DocLint.Pattern

/-!
# Findings

What can be wrong with a record or a fragment, with all that its message tells. `Finding.message` is
the wording and `Finding.kind` the kind of issue it makes.
-/

namespace DocLint

/-- Why a reference leads to no record. -/
inductive DanglingReason
  /-- There is no record of the category with the name. -/
  | unresolved
  /-- The category does not exist. -/
  | unknownCategory
  /-- The name is missing. -/
  | incomplete
  /-- The closing bracket is missing. -/
  | unterminated
  deriving DecidableEq, Repr

def DanglingReason.text : DanglingReason → String
  | unresolved => "unresolved reference"
  | unknownCategory => "unknown reference category"
  | incomplete => "incomplete reference"
  | unterminated => "unterminated reference"

/-- What can be wrong with a record or a fragment. The record itself is not told, not even for
missing fields and dangling references: it goes into no message and no issue from here, as whoever
files a finding says under which name (`toIssue`). -/
inductive Finding
  | invalidPattern (error : Pattern.Error)
  | duplicateName (category : Category) (name owner : String)
  | missingField (field : String)
  | danglingReference (reason : DanglingReason) (reference text : String)
  | synonymConflict (synonym : String) (other : Option String)
  | synonymShadow (synonym : String) (category : Category) (other : String)
  | duplicateTag (key : Key)
  | unrecognizedKey (category : Category) (key : String)
  | unknownCategory (error : UnknownCategory)
  deriving DecidableEq, Repr

namespace Finding

/-- The kind of issue that a finding makes. -/
def kind : Finding → IssueKind
  | invalidPattern _ => .invalidPattern
  | duplicateName .. => .duplicateName
  | missingField _ => .missingRequiredField
  | danglingReference .. => .danglingReference
  | synonymConflict .. => .synonymConflict
  | synonymShadow .. => .synonymShadow
  | duplicateTag _ => .duplicateTag
  | unrecognizedKey .. => .unrecognizedKey
  | unknownCategory _ => .unknownCategory

/-- The wording of a finding. -/
def message : Finding → String
  | invalidPattern e => "invalid regex pattern \x60" ++ e.pattern ++ "\x60: " ++ e.message
  | duplicateName c name owner =>
    c.name ++ " name '" ++ name ++ "' is already registered to '" ++ owner ++ "'"
  | missingField field => "missing required field '" ++ field ++ "'"
  | danglingReference reason reference text =>
    reason.text ++ " \x60" ++ reference ++ "\x60 in: " ++ text
  | synonymConflict synonym other =>
    "synonym '" ++ synonym ++ "' resolves to '" ++ other.getD "nothing" ++ "'"
  | synonymShadow synonym c other =>
    "synonym '" ++ synonym ++ "' matches " ++ c.name ++ " '" ++ other ++ "'"
  | duplicateTag k => "tag '" ++ k.text ++ "' given more than once; the last value was kept"
  | unrecognizedKey c key => "unrecognized tag '" ++ key ++ "' for " ++ c.name
  | unknownCategory e => "unknown category: " ++ e.text

/-- The issue that a finding makes against a record. -/
def toIssue (f : Finding) (record : String) (category : Option Category) (severity : Severity) :
    Issue :=
  ⟨record, category, f.kind, severity, f.message⟩

end Finding

end DocLint

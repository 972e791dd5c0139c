import DocLint.Issue

/-!
# Configuration

Two kinds of issues can be made errors, warnings or nothing at all; all others keep their severity.
-/

namespace DocLint

/-- What to do with issues of a kind. -/
inductive Policy
  | error
  | warn
  | allow
  deriving DecidableEq, Repr

namespace Policy

def all : List Policy := [.error, .warn, .allow]

def name : Policy → String
  | error => "error"
  | warn => "warn"
  | allow => "allow"

def ofName? (name : String) : Option Policy := all.find? fun p => p.name == name

/-- The severity that issues get; none if they are dropped. -/
def severity? : Policy → Option Severity
  | error => some .error
  | warn => some .warning
  | allow => none

end Policy

/-- What to do with repeated tags, and with synonyms that are names in other categories. -/
structure Config where
  repeatedTags : Policy := .error
  synonymShadow : Policy := .warn
  deriving DecidableEq, Repr

namespace Config

/-- All that can be set is an error. -/
def strict : Config := ⟨.error, .error⟩

/-- The severity of issues of a kind; none if they are dropped. -/
def severity? (c : Config) : IssueKind → Option Severity
  | .duplicateTag => c.repeatedTags.severity?
  | .synonymShadow => c.synonymShadow.severity?
  | k => some k.defaultSeverity

end Config

end DocLint

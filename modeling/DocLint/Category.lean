import DocLint.Text.Space
import DocLint.Unicode.Lowercase

/-!
# Categories

Every documented thing belongs to one of nine categories, and each category has its own names: an
event and a command may be called the same. A category is read from a word without regard to case
or to white space around it (`Category.read`); object types and guides also have a second word.
-/

namespace DocLint

/-- The categories of documented things. -/
inductive Category
  | command
  | mechanism
  | tag
  | objectType
  | event
  | action
  | language
  | property
  | guide
  deriving DecidableEq, Repr

/-- A text that names no category. -/
structure UnknownCategory where
  text : String
  deriving DecidableEq, Repr

namespace Category

/-- All categories, in the order in which they are listed. -/
def all : List Category :=
  [.command, .mechanism, .tag, .objectType, .event, .action, .language, .property, .guide]

/-- The name of a category. -/
def name : Category → String
  | command => "command"
  | mechanism => "mechanism"
  | tag => "tag"
  | objectType => "objecttype"
  | event => "event"
  | action => "action"
  | language => "language"
  | property => "property"
  | guide => "guide"

/-- The second word for a category, if it has one. -/
def alias? : Category → Option String
  | objectType => some "type"
  | guide => some "guidepage"
  | _ => none

/-- The words for a category. -/
def words (c : Category) : List String := c.name :: c.alias?.toList

/-- The category with a word. -/
def ofWord? (word : String) : Option Category := all.find? fun c => c.words.contains word

/-- The category that a text names, in any case and with white space around it. -/
def read (text : String) : Except UnknownCategory Category :=
  match ofWord? (Unicode.lowercase (Text.trim text)) with
  | some c => .ok c
  | none => .error ⟨text⟩

theorem mem_all (c : Category) : c ∈ all := by cases c <;> decide

end Category

end DocLint

import DocLint.Pattern
import DocLint.Key
import DocLint.Text.Lines

/-!
# Records

A record is a documented thing: an event, or an entity of another category. A record has a name as
it is written, and lowercased names by which it is found: an event also those of its aliases.
-/

namespace DocLint

/-- The fields that all records have. -/
structure Shared where
  description : String := ""
  group : String := ""
  plugin : String := ""
  warnings : List String := []
  deprecated : String := ""
  deriving DecidableEq, Repr

namespace Shared

/-- Takes in the value of a tag: warnings are collected, all else is replaced. -/
def set (s : Shared) : SharedKey → String → Shared
  | .description, v => { s with description := v }
  | .group, v => { s with group := v }
  | .plugin, v => { s with plugin := v }
  | .warning, v => { s with warnings := s.warnings ++ [v] }
  | .deprecated, v => { s with deprecated := v }

/-- The text of a record called `name` in which a search looks. -/
def searchableText (s : Shared) (name : String) : String :=
  "\n".intercalate
    [name, s.description, "\n".intercalate s.warnings, s.plugin, s.group, s.deprecated]

end Shared

/-! ## Events -/

/-- An event. The name is the first one given, the aliases are the others. -/
structure Event where
  name : String
  aliases : List String
  switches : List String
  pattern : Option Pattern
  triggers : String
  context : List String
  determinations : List String
  player : String
  npc : String
  cancellable : Bool
  hasLocation : Bool
  shared : Shared

/-- The name of a switch in its declaration: what is before the first space and the first colon. -/
def switchName (declaration : String) : String :=
  Unicode.lowercase <| String.ofList <|
    (declaration.toList.takeWhile (· != ' ')).takeWhile (· != ':')

namespace Event

/-- All names of an event as they are written. -/
def declaredNames (e : Event) : List String := e.name :: e.aliases

/-- All names of an event, lowercased. -/
def names (e : Event) : List String := e.declaredNames.map Unicode.lowercase

/-- The names of the switches that an event declares. -/
def switchNames (e : Event) : List String := e.switches.map switchName

/-- Whether a line of a script is matched by the pattern of an event. -/
def isMatch (e : Event) (line : String) : Bool := e.pattern.any (·.isMatch line)

def hasPlayer (e : Event) : Bool := !Text.isBlank e.player

def hasNpc (e : Event) : Bool := !Text.isBlank e.npc

/-- The switches that every event has. -/
def universalSwitches : List String := ["priority", "bukkit_priority", "server_flagged"]

/-- Whether an event has a switch: one that it declares, or one that goes with what it has. -/
def isValidSwitch (e : Event) (switch : String) : Bool :=
  e.switchNames.contains switch ||
  (["flagged", "permission"].contains switch && e.hasPlayer) ||
  (["in", "location_flagged"].contains switch && e.hasLocation) ||
  (["cancelled", "ignorecancelled"].contains switch && e.cancellable) ||
  universalSwitches.contains switch

/-- The text of an event in which a search looks. -/
def searchableText (e : Event) : String :=
  "\n".intercalate
    [e.shared.searchableText e.name, "\n".intercalate e.declaredNames, e.triggers, e.player, e.npc,
      (e.pattern.map Pattern.text).getD "", "\n".intercalate e.context,
      "\n".intercalate e.determinations]

end Event

/-! ## Records -/

/-- A record of any category but events. -/
structure Entity where
  category : Category
  notEvent : category ≠ .event
  name : String
  shared : Shared
  deriving DecidableEq

/-- A documented thing. -/
inductive Record
  | event (e : Event)
  | entity (e : Entity)

namespace Record

def category : Record → Category
  | event _ => .event
  | entity e => e.category

/-- The name of a record as it is written. -/
def name : Record → String
  | event e => e.name
  | entity e => e.name

/-- The lowercased names by which a record is found, the one of `name` first. -/
def names : Record → List String
  | event e => e.names
  | entity e => [Unicode.lowercase e.name]

/-- The first of the names by which a record is found. -/
def mainName (r : Record) : String := Unicode.lowercase r.name

/-- The other names by which a record is found. -/
def synonyms (r : Record) : List String := r.names.tail

def hasSynonyms (r : Record) : Bool := !r.synonyms.isEmpty

def shared : Record → Shared
  | event e => e.shared
  | entity e => e.shared

/-- The text of a record in which a search looks. -/
def searchableText : Record → String
  | event e => e.searchableText
  | entity e => e.shared.searchableText e.name

theorem names_eq (r : Record) : r.names = r.mainName :: r.synonyms := by
  cases r <;> rfl

end Record

end DocLint

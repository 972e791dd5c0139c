import DocLint.Category

/-!
# Tag keys

A tag has a key and a value. Events have keys of their own, all other categories have the key
`name`, and some keys are shared. The keys `switch` and `warning` may be given any number of times;
a `KeyLog` notes which others were given more than once.
-/

namespace DocLint

/-- The keys of events. -/
inductive EventKey
  | events
  | triggers
  | player
  | npc
  | regex
  | switch
  | context
  | determine
  | cancellable
  | location
  deriving DecidableEq, Repr

namespace EventKey

def all : List EventKey :=
  [.events, .triggers, .player, .npc, .regex, .switch, .context, .determine, .cancellable,
   .location]

def text : EventKey → String
  | events => "events"
  | triggers => "triggers"
  | player => "player"
  | npc => "npc"
  | regex => "regex"
  | switch => "switch"
  | context => "context"
  | determine => "determine"
  | cancellable => "cancellable"
  | location => "location"

end EventKey

/-- The keys that all categories have. -/
inductive SharedKey
  | description
  | group
  | plugin
  | warning
  | deprecated
  deriving DecidableEq, Repr

namespace SharedKey

def all : List SharedKey := [.description, .group, .plugin, .warning, .deprecated]

def text : SharedKey → String
  | description => "description"
  | group => "group"
  | plugin => "plugin"
  | warning => "warning"
  | deprecated => "deprecated"

end SharedKey

/-- The keys of tags. -/
inductive Key
  | event (k : EventKey)
  | name
  | shared (k : SharedKey)
  deriving DecidableEq, Repr

namespace Key

/-- The text of a key. -/
def text : Key → String
  | event k => k.text
  | name => "name"
  | shared k => k.text

/-- Whether a key may be given any number of times. -/
def repeatable : Key → Bool
  | event .switch | shared .warning => true
  | _ => false

/-- The keys of events. -/
def ofEvents : List Key := EventKey.all.map event

/-- The keys of all categories but events. -/
def ofEntities : List Key := [name]

/-- The keys that all categories share. -/
def ofAll : List Key := SharedKey.all.map shared

end Key

namespace Category

/-- The keys of a category, its own first. -/
def keys : Category → List Key
  | event => Key.ofEvents ++ Key.ofAll
  | _ => Key.ofEntities ++ Key.ofAll

/-- The key of a category with a text. -/
def key? (c : Category) (text : String) : Option Key := c.keys.find? fun k => k.text == text

end Category

/-- Which keys were given, and which of them more than once, in the order in which they were given
for the second time. Repeatable keys are not noted. -/
structure KeyLog where
  given : List Key := []
  repeated : List Key := []
  deriving DecidableEq, Repr

/-- Notes that a key is given. -/
def KeyLog.note (log : KeyLog) (k : Key) : KeyLog :=
  if k.repeatable then log
  else if k ∈ log.given then
    if k ∈ log.repeated then log else { log with repeated := log.repeated ++ [k] }
  else { log with given := k :: log.given }

end DocLint

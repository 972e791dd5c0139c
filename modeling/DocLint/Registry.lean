import DocLint.Draft
import DocLint.Text.Quoted

/-!
# The registry

Records are registered under all their names, each category having names of its own. Registering
comes first and looking things up for checks comes after: a registry is open while records are
registered, and sealed when all of them are there. A record is known by a number, because the same
record may be registered again, which changes nothing, while an equal record that is another one
finds its names taken.

The names of all categories are in one list, under the category and the name; the last owner of a
name stands first.
-/

namespace DocLint

/-- A record with the number by which it is told from equal ones. -/
structure Entry where
  id : Nat
  record : Record

namespace Entry

def category (e : Entry) : Category := e.record.category

def name (e : Entry) : String := e.record.name

def names (e : Entry) : List String := e.record.names

end Entry

/-- Whether records may still be registered. -/
inductive Phase
  | collecting
  | complete
  deriving DecidableEq, Repr

/-- The registered records in order, and who owns which name of which category. -/
structure Registry (phase : Phase) where
  entries : List Entry
  owners : List ((Category × String) × Entry)

namespace Registry

variable {phase : Phase}

/-- The registry without records. -/
def empty : Registry .collecting := ⟨[], []⟩

/-- The owner of a lowercased name. -/
def owner? (r : Registry phase) (c : Category) (name : String) : Option Entry :=
  r.owners.lookup (c, name)

/-! ## Registering -/

/-- A step of registering. It may fail, and in either case leaves a registry. -/
abbrev Registering := EStateM Finding (Registry .collecting)

/-- Fails if another record than `e` owns the name. -/
def checkFree (e : Entry) (n : String) : Registering Unit := do
  match (← get).owner? e.category n with
  | some o => if o.id ≠ e.id then throw (.duplicateName e.category n o.name)
  | none => return ()

/-- Makes `e` the owner of a name. -/
def bindName (e : Entry) (n : String) : Registering Unit :=
  modify fun r => { r with owners := ((e.category, n), e) :: r.owners }

/-- Puts `e` at the end of the list, unless it is listed already. -/
def enlist (e : Entry) : Registering Unit :=
  modify fun r =>
    if r.entries.any (·.id == e.id) then r else { r with entries := r.entries ++ [e] }

/-- The steps of registering a record. All names are checked before the first one is bound. -/
def registering (e : Entry) : Registering Unit := do
  forM e.names (checkFree e)
  forM e.names (bindName e)
  enlist e

/-- Registers a record under all its names, if no other record owns any of them. There is a registry
afterwards whether this succeeds or fails. -/
def register (r : Registry .collecting) (e : Entry) :
    EStateM.Result Finding (Registry .collecting) Unit :=
  (registering e).run r

/-- The registry after an attempt to register a record. -/
def offer (r : Registry .collecting) (e : Entry) : Registry .collecting :=
  match r.register e with
  | .ok _ r' => r'
  | .error _ r' => r'

/-- Ends the registering. -/
def complete (r : Registry .collecting) : Registry .complete := ⟨r.entries, r.owners⟩

/-! ## Looking up -/

/-- The record of a category with a name, in any case. -/
def lookup (r : Registry phase) (c : Category) (name : String) : Option Entry :=
  r.owner? c (Unicode.lowercase name)

def contains (r : Registry phase) (c : Category) (name : String) : Bool := (r.lookup c name).isSome

/-- The event with a name, in any case. -/
def event? (r : Registry phase) (name : String) : Option Event :=
  match (r.lookup .event name).map Entry.record with
  | some (.event e) => some e
  | _ => none

/-- The registered records of one category, in order. -/
def entriesOf (r : Registry phase) (c : Category) : List Entry :=
  r.entries.filter (·.category == c)

def size (r : Registry phase) : Nat := r.entries.length

def isEmpty (r : Registry phase) : Bool := r.entries.isEmpty

/-- The registered records by category and name, for a reader's eye. -/
def text (r : Registry phase) : String :=
  "MetaDocs \x7b entries: [" ++
    ", ".intercalate (r.entries.map fun e => Text.quoted (e.category.name ++ ":" ++ e.name)) ++
    "] \x7d"

end Registry

end DocLint

import DocLint.Finding
import DocLint.Record

/-!
# Drafts

A draft takes in the tags of one fragment, one after the other, and is then built into a record.
A value replaces the one that was given before for its key, but switches and warnings are collected.
A pattern that cannot be used leaves no pattern.
-/

namespace DocLint

/-- What is known of an event while its tags come in. -/
structure EventDraft where
  names : List String := []
  switches : List String := []
  pattern : Option Pattern := none
  triggers : String := ""
  context : List String := []
  determinations : List String := []
  player : String := ""
  npc : String := ""
  cancellable : Bool := false
  hasLocation : Bool := false

/-- Takes in the value of a tag. -/
def EventDraft.set (d : EventDraft) : EventKey → String → EventDraft
  | .events, v => { d with names := Text.entries v }
  | .triggers, v => { d with triggers := v }
  | .player, v => { d with player := v }
  | .npc, v => { d with npc := v }
  | .regex, v => { d with pattern := (Pattern.compile v).toOption }
  | .switch, v => { d with switches := d.switches ++ Text.entries v }
  | .context, v => { d with context := Text.entries v }
  | .determine, v => { d with determinations := Text.entries v }
  | .cancellable, v => { d with cancellable := Text.isTrue v }
  | .location, v => { d with hasLocation := Text.isTrue v }

/-- What is known of the thing itself: an event, or an entity of another category by its name. -/
inductive Form
  | event (d : EventDraft)
  | entity (c : Category) (notEvent : c ≠ .event) (name : String)

/-- What is known of a record while its tags come in. -/
structure Draft where
  form : Form
  shared : Shared := {}
  log : KeyLog := {}

/-- What became of a tag. -/
inductive Applied
  | accepted
  | unrecognized
  | refused (f : Finding)
  deriving DecidableEq, Repr

/-- What is wrong with the value of a tag by itself. -/
def Key.complaint? : Key → String → Option Finding
  | .event .regex, v =>
    match Pattern.compile v with
    | .error e => some (.invalidPattern e)
    | .ok _ => none
  | _, _ => none

namespace Draft

/-- The draft before the first tag. -/
def ofCategory (c : Category) : Draft :=
  if h : c = .event then ⟨.event {}, {}, {}⟩ else ⟨.entity c h "", {}, {}⟩

def category (d : Draft) : Category :=
  match d.form with
  | .event _ => .event
  | .entity c _ _ => c

/-- Takes in the value for a key; keys of other categories change nothing. -/
def set (d : Draft) (k : Key) (v : String) : Draft :=
  match k, d.form with
  | .event k, .event e => { d with form := .event (e.set k v) }
  | .name, .entity c h _ => { d with form := .entity c h (Text.trim v) }
  | .shared k, _ => { d with shared := d.shared.set k v }
  | _, _ => d

/-- Takes in a tag, and tells what became of it. A tag counts as given even if it is refused. -/
def apply (d : Draft) (key value : String) : Draft × Applied :=
  match d.category.key? key with
  | none => (d, .unrecognized)
  | some k =>
    ({ d.set k value with log := d.log.note k },
      match k.complaint? value with
      | none => .accepted
      | some f => .refused f)

/-- Takes in tags, and tells what became of each. -/
def applyAll (d : Draft) : List (String × String) → Draft × List Applied
  | [] => (d, [])
  | (k, v) :: rest =>
    let (d, a) := d.apply k v
    let (d, as) := d.applyAll rest
    (d, a :: as)

/-- The name that the record will have, if there is one. -/
def provisionalName? (d : Draft) : Option String :=
  match d.form with
  | .event e => e.names.head?
  | .entity _ _ name => if name = "" then none else some name

/-- Builds the record; it must have a name. -/
def build (d : Draft) : Except Finding Record :=
  match d.form with
  | .event e =>
    match e.names with
    | [] => .error (.missingField EventKey.events.text)
    | name :: aliases =>
      .ok <| .event
        { name, aliases
          switches := e.switches
          pattern := e.pattern
          triggers := e.triggers
          context := e.context
          determinations := e.determinations
          player := e.player
          npc := e.npc
          cancellable := e.cancellable
          hasLocation := e.hasLocation
          shared := d.shared }
  | .entity category notEvent name =>
    if name = "" then .error (.missingField Key.name.text)
    else .ok (.entity { category, notEvent, name, shared := d.shared })

end Draft

/-- Takes in a tag with one of the shared keys, where these stand alone; none if it has another
key. -/
def Shared.apply (s : Shared) (log : KeyLog) (key value : String) : Option (Shared × KeyLog) :=
  (SharedKey.all.find? fun k => k.text == key).map fun k => (s.set k value, log.note (.shared k))

end DocLint

import DocLint.Proofs.Draft
import DocLint.Proofs.Notices
import DocLint.Proofs.Trim

/-!
# Loading a fragment

What loading gives is read off the category and the tags of a fragment (`Fragment.load_eq`). The
names that it declares are those in the last value of one key, `events` for events and `name` for
all else (`Fragment.declared`). A record comes of it exactly if it declares a name
(`Fragment.record?_eq_none_iff`), and is found by the lowercased names (`Fragment.of_record?`). What
is found is what is wrong with the tags one by one, then the repeated keys, then the missing name
(`Fragment.faults`).
-/

namespace DocLint

/-! ## Names -/

namespace Category

/-- The key under which records of a category give their names. -/
def nameKey : Category → Key
  | event => .event .events
  | _ => .name

/-- The names in a value of that key, as they are written: the lines of an event, else one name. -/
def namesIn (c : Category) (value : String) : List String :=
  if c = .event then Text.entries value
  else if Text.isBlank value then [] else [Text.trim value]

/-- The names that values declare, as they are written: those in the last value of the name key. -/
def declared (c : Category) (v : Key → List String) : List String :=
  (v c.nameKey).getLast?.elim [] c.namesIn

theorem nameKey_of_ne {c : Category} (h : c ≠ .event) : c.nameKey = .name := by
  unfold nameKey
  split
  · exact absurd rfl h
  · rfl

/-- No name is declared exactly if there is none in the last value of the name key. -/
theorem declared_eq_nil_iff {c : Category} {tags : Tags} : c.declared tags.valuesOf = [] ↔
    ∀ v, tags.last? c.nameKey = some v → c.namesIn v = [] := by
  rw [declared, Tags.last?]
  cases (tags.valuesOf c.nameKey).getLast? <;> simp

theorem declared_event (v : Key → List String) :
    declared .event v = (EventDraft.ofValues v).names := rfl

end Category

/-! ## Building -/

/-- The record that values make, with the names that they declare. -/
def Record.ofValues (c : Category) (v : Key → List String) (name : String)
    (aliases : List String) : Record :=
  if h : c = .event then
    let d := EventDraft.ofValues v
    .event
      { name, aliases
        switches := d.switches
        pattern := d.pattern
        triggers := d.triggers
        context := d.context
        determinations := d.determinations
        player := d.player
        npc := d.npc
        cancellable := d.cancellable
        hasLocation := d.hasLocation
        shared := Shared.ofValues v }
  else .entity { category := c, notEvent := h, name, shared := Shared.ofValues v }

namespace Draft

variable (c : Category) (v : Key → List String) (log : KeyLog)

/-- **A draft is built exactly if its values declare a name.** -/
theorem build_ofValues : (ofValues c v log).build =
    match c.declared v with
    | [] => .error (.missingField c.nameKey.text)
    | name :: aliases => .ok (Record.ofValues c v name aliases) := by
  by_cases hc : c = .event
  · subst hc
    rw [Category.declared_event]
    rfl
  · simp only [ofValues, Form.ofValues, dif_neg hc, build, Category.declared,
      Category.nameKey_of_ne hc, Record.ofValues]
    cases (v .name).getLast? with
    | none => rfl
    | some x =>
      simp only [Option.elim, Category.namesIn, if_neg hc, Text.trim_eq_empty_iff]
      cases Text.isBlank x <;> rfl

/-- The name of a draft before it is built is the first that its values declare. -/
theorem provisionalName?_ofValues :
    (ofValues c v log).provisionalName? = (c.declared v).head? := by
  by_cases hc : c = .event
  · subst hc
    rw [Category.declared_event]
    rfl
  · simp only [ofValues, Form.ofValues, dif_neg hc, provisionalName?, Category.declared,
      Category.nameKey_of_ne hc]
    cases (v .name).getLast? with
    | none => rfl
    | some x =>
      simp only [Option.elim, Category.namesIn, if_neg hc, Text.trim_eq_empty_iff]
      cases Text.isBlank x <;> rfl

end Draft

/-! ## Records from values -/

namespace Record

variable (c : Category) (v : Key → List String) (name : String) (aliases : List String)

@[simp] theorem category_ofValues : (ofValues c v name aliases).category = c := by
  unfold ofValues
  split
  · rename_i hc
    exact hc.symm
  · rfl

@[simp] theorem name_ofValues : (ofValues c v name aliases).name = name := by
  unfold ofValues
  split <;> rfl

/-- A record has the lowercased names that its values declare. -/
theorem names_ofValues (h : c.declared v = name :: aliases) :
    (ofValues c v name aliases).names = (c.declared v).map Unicode.lowercase := by
  unfold ofValues
  split
  · rw [h]
    rfl
  · rename_i hc
    -- an entity has one name, so there are no aliases
    unfold Category.declared at h ⊢
    cases hv : (v c.nameKey).getLast? with
    | none => simp [hv] at h
    | some x =>
      simp only [hv, Option.elim, Category.namesIn, if_neg hc] at h ⊢
      by_cases hb : Text.isBlank x = true
      · rw [if_pos hb] at h
        cases h
      · rw [if_neg hb] at h ⊢
        obtain ⟨rfl, -⟩ := List.cons.inj h
        rfl

end Record

/-! ## What a fragment gives -/

/-- What is wrong with a tag by itself, if anything. -/
def Category.fault? (c : Category) (t : String × String) : Option Finding :=
  match c.key? t.1 with
  | none => some (.unrecognizedKey c t.1)
  | some k => k.complaint? t.2

namespace Fragment

/-- The category that a fragment names, if it exists. -/
def category? (f : Fragment) : Option Category := (Category.read f.category).toOption

/-- The names that a fragment declares, as they are written. -/
def declared (f : Fragment) : List String :=
  f.category?.elim [] fun c => c.declared (Tags.valuesOf f.tags)

/-- The names that a fragment claims in its category. -/
def names (f : Fragment) : List String := f.declared.map Unicode.lowercase

/-- The name under which the findings of a fragment are reported. -/
def reportName (f : Fragment) (index : Nat) : String := f.declared.head?.getD (f.placeholder index)

/-- The record that a fragment makes, if it declares a name. -/
def record? (f : Fragment) : Option Record :=
  match f.category?, f.declared with
  | some c, name :: aliases => some (.ofValues c (Tags.valuesOf f.tags) name aliases)
  | _, _ => none

/-- What is wrong with the tags of a fragment: each by itself, then the repeated keys. -/
def tagFaults (f : Fragment) (c : Category) : List Finding :=
  f.tags.filterMap c.fault? ++ (KeyLog.ofKeys (Tags.keysIn f.tags c)).repeated.map .duplicateTag

/-- All that loading finds in a fragment. -/
def faults (f : Fragment) : List Finding :=
  match f.category? with
  | none => [.unknownCategory ⟨f.category⟩]
  | some c => f.tagFaults c ++ if f.declared = [] then [.missingField c.nameKey.text] else []

theorem declared_of_category? {f : Fragment} {c : Category} (h : f.category? = some c) :
    f.declared = c.declared (Tags.valuesOf f.tags) := by
  simp [declared, h]

theorem declared_eq_nil {f : Fragment} (h : f.category? = none) : f.declared = [] := by
  simp [declared, h]

theorem declared_eq {f : Fragment} {c : Category} (h : f.category? = some c) :
    f.declared = (Tags.last? f.tags c.nameKey).elim [] c.namesIn :=
  declared_of_category? h

/-- A fragment declares no name exactly if there is none in the last value of the name key. -/
theorem declared_eq_nil_iff {f : Fragment} {c : Category} (h : f.category? = some c) :
    f.declared = [] ↔ ∀ v, Tags.last? f.tags c.nameKey = some v → c.namesIn v = [] := by
  rw [declared_of_category? h]
  exact Category.declared_eq_nil_iff

theorem category?_eq_some_iff {f : Fragment} {c : Category} :
    f.category? = some c ↔ Category.read f.category = .ok c := by
  unfold category?
  cases Category.read f.category <;> simp [Except.toOption]

theorem category?_eq_none_iff {f : Fragment} :
    f.category? = none ↔ Category.read f.category = .error ⟨f.category⟩ := by
  unfold category? Category.read
  cases Category.ofWord? (Unicode.lowercase (Text.trim f.category)) <;> simp [Except.toOption]

theorem filterMap_verdict (c : Category) (tags : Tags) :
    ((tags.zip (tags.map c.verdict)).filterMap fun (t, a) => tagFinding? c t.1 a) =
      tags.filterMap c.fault? := by
  induction tags with
  | nil => rfl
  | cons t rest ih =>
    have ht : tagFinding? c t.1 (c.verdict t) = c.fault? t := by
      unfold Category.verdict Category.fault?
      cases c.key? t.1 with
      | none => rfl
      | some k => cases hk : k.complaint? t.2 <;> simp [tagFinding?, hk]
    simp only [List.map_cons, List.zip_cons_cons, List.filterMap_cons, ht, ih]

theorem record?_eq_none {f : Fragment} (hd : f.declared = []) : f.record? = none := by
  unfold record?
  rw [hd]
  cases f.category? <;> rfl

theorem record?_eq_some {f : Fragment} {c : Category} (h : f.category? = some c) {name : String}
    {aliases : List String} (hd : f.declared = name :: aliases) :
    f.record? = some (.ofValues c (Tags.valuesOf f.tags) name aliases) := by
  unfold record?
  rw [h, hd]

theorem faults_of_category?_eq_none {f : Fragment} (h : f.category? = none) :
    f.faults = [.unknownCategory ⟨f.category⟩] := by
  unfold faults
  rw [h]

theorem faults_of_category? {f : Fragment} {c : Category} (h : f.category? = some c) :
    f.faults = f.tagFaults c ++ if f.declared = [] then [.missingField c.nameKey.text] else [] := by
  unfold faults
  rw [h]

/-- **What loading a fragment gives** is read off its category and its tags; the place in the batch
only goes into the name under which the findings are reported. -/
theorem load_eq (f : Fragment) (i : Nat) :
    f.load i = ⟨f.record?, f.faults.map fun x => ⟨f.reportName i, f.category?, x⟩⟩ := by
  unfold load reportName
  cases h : f.category? with
  | none =>
    have hd := declared_eq_nil h
    rw [category?_eq_none_iff.1 h, record?_eq_none hd, faults_of_category?_eq_none h, hd]
    rfl
  | some c =>
    rw [category?_eq_some_iff.1 h, faults_of_category? h]
    simp only [Draft.applyAll_ofCategory, tagFindings, filterMap_verdict, Draft.ofTags,
      Draft.build_ofValues, Draft.provisionalName?_ofValues, ← declared_of_category? h]
    cases hd : f.declared with
    | nil => simp [record?_eq_none hd, tagFaults, Draft.ofValues]
    | cons name aliases => simp [record?_eq_some h hd, tagFaults, Draft.ofValues]

theorem load_record (f : Fragment) (i : Nat) : (f.load i).record = f.record? := by
  rw [load_eq]

theorem load_notices (f : Fragment) (i : Nat) :
    (f.load i).notices = f.faults.map fun x => ⟨f.reportName i, f.category?, x⟩ := by
  rw [load_eq]

theorem record?_eq_some_iff {f : Fragment} {c : Category} (h : f.category? = some c) {r : Record} :
    f.record? = some r ↔ ∃ name aliases, f.declared = name :: aliases ∧
      r = .ofValues c (Tags.valuesOf f.tags) name aliases := by
  cases hd : f.declared with
  | nil => simp [record?_eq_none hd]
  | cons name aliases =>
    rw [record?_eq_some h hd, Option.some.injEq]
    constructor
    · rintro rfl
      exact ⟨name, aliases, rfl, rfl⟩
    · rintro ⟨_, _, heq, rfl⟩
      cases heq
      rfl

/-- A fragment makes a record exactly if it declares a name. -/
theorem record?_eq_none_iff {f : Fragment} : f.record? = none ↔ f.declared = [] := by
  refine ⟨fun hx => ?_, record?_eq_none⟩
  cases hc : f.category? with
  | none => exact declared_eq_nil hc
  | some c =>
    cases hd : f.declared with
    | nil => rfl
    | cons name aliases => simp [record?_eq_some hc hd] at hx

/-- A record that a fragment makes is of its category and is found by its names; it is called by the
first of them. -/
theorem of_record? {f : Fragment} {r : Record} (h : f.record? = some r) :
    f.category? = some r.category ∧ r.names = f.names ∧ f.declared.head? = some r.name := by
  cases hc : f.category? with
  | none =>
    rw [record?_eq_none (declared_eq_nil hc)] at h
    cases h
  | some c =>
    obtain ⟨name, aliases, hd, rfl⟩ := (record?_eq_some_iff hc).1 h
    have hn := declared_of_category? hc
    refine ⟨by simp, ?_, by simp [hd]⟩
    rw [Record.names_ofValues _ _ _ _ (hn ▸ hd), names, hn]

end Fragment

end DocLint

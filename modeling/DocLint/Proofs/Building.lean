import DocLint.Proofs.Loading

/-!
# Records by the values of their keys

A record is made of the values that its tags give for each key: the last value for most fields, all
values for switches and warnings (`Record.Given`). So neither the order of tags with different keys
has a part in it, nor tags with keys that the category does not have; and what all records share
comes out the same in every category. A record comes of it unless the last value for the name holds
no name. The main statement is `Category.madeFromValues`.
-/

namespace DocLint

/-! ## What tags give -/

/-- The shared fields are what tags give for them. -/
structure Shared.Given (s : Shared) (tags : Tags) : Prop where
  description : s.description = (tags.last? (.shared .description)).getD ""
  group : s.group = (tags.last? (.shared .group)).getD ""
  plugin : s.plugin = (tags.last? (.shared .plugin)).getD ""
  warnings : s.warnings = tags.valuesOf (.shared .warning)
  deprecated : s.deprecated = (tags.last? (.shared .deprecated)).getD ""

/-- An event is what tags give for it. -/
structure Event.Given (e : Event) (tags : Tags) : Prop where
  names : e.declaredNames = (tags.last? (.event .events)).elim [] Text.entries
  switches : e.switches = (tags.valuesOf (.event .switch)).flatMap Text.entries
  /-- A last value that is no usable pattern leaves none, whatever was given before. -/
  pattern : e.pattern = (tags.last? (.event .regex)).bind fun v => (Pattern.compile v).toOption
  triggers : e.triggers = (tags.last? (.event .triggers)).getD ""
  context : e.context = (tags.last? (.event .context)).elim [] Text.entries
  determinations : e.determinations = (tags.last? (.event .determine)).elim [] Text.entries
  player : e.player = (tags.last? (.event .player)).getD ""
  npc : e.npc = (tags.last? (.event .npc)).getD ""
  cancellable : e.cancellable = (tags.last? (.event .cancellable)).elim false Text.isTrue
  hasLocation : e.hasLocation = (tags.last? (.event .location)).elim false Text.isTrue
  shared : e.shared.Given tags

/-- An entity is what tags give for it. -/
structure Entity.Given (e : Entity) (tags : Tags) : Prop where
  name : (tags.last? .name).map Text.trim = some e.name
  shared : e.shared.Given tags

/-- A record is what tags give for it. -/
def Record.Given : Record → Tags → Prop
  | .event e, tags => e.Given tags
  | .entity e, tags => e.Given tags

theorem Shared.given_ofValues (tags : Tags) : (Shared.ofValues tags.valuesOf).Given tags :=
  ⟨rfl, rfl, rfl, rfl, rfl⟩

/-- **The record that values make is what the tags give.** -/
theorem Record.given_ofValues {c : Category} {tags : Tags} {name : String} {aliases : List String}
    (h : c.declared tags.valuesOf = name :: aliases) :
    (Record.ofValues c tags.valuesOf name aliases).Given tags := by
  by_cases hc : c = .event
  · subst hc
    exact ⟨h.symm, rfl, rfl, rfl, rfl, rfl, rfl, rfl, rfl, rfl, Shared.given_ofValues tags⟩
  · rw [Record.ofValues, dif_neg hc]
    refine ⟨?_, Shared.given_ofValues tags⟩
    rw [Category.declared, Category.nameKey_of_ne hc] at h
    rw [Tags.last?]
    cases hv : (tags.valuesOf .name).getLast? with
    | none => simp [hv] at h
    | some x =>
      simp only [hv, Option.elim, Category.namesIn, if_neg hc] at h
      split at h
      · cases h
      · exact congrArg some (List.cons.inj h).1

/-! ## Tags that give the same -/

namespace Tags

variable {tags tags' : Tags} {c : Category} {k : Key}

/-- The same tags in another order, those of each key in the same order. -/
structure Reorders (tags tags' : Tags) : Prop where
  perm : tags.Perm tags'
  keys : ∀ key : String, tags.filter (·.1 == key) = tags'.filter (·.1 == key)

/-- The tags with keys that a category has. -/
def recognized (tags : Tags) (c : Category) : Tags := tags.filter (·.1 ∈ c.keys.map Key.text)

theorem valuesOf_eq_map (tags : Tags) (k : Key) :
    tags.valuesOf k = (tags.filter (·.1 == k.text)).map Prod.snd := by
  rw [valuesOf, ← List.filterMap_eq_map, List.filterMap_filter]
  simp only [beq_iff_eq, Function.comp_apply]

theorem valuesOf_recognized (tags : Tags) (hk : k ∈ c.keys) :
    (tags.recognized c).valuesOf k = tags.valuesOf k := by
  rw [valuesOf_eq_map, valuesOf_eq_map, recognized, List.filter_filter]
  refine congrArg _ (List.filter_congr fun t _ => ?_)
  rw [Bool.and_eq_left_iff_imp]
  intro ht
  rw [beq_iff_eq.1 ht]
  exact decide_eq_true (List.mem_map_of_mem hk)

end Tags

/-! ## Building -/

namespace Category

variable {c : Category} {tags tags' : Tags}

/-- What comes of taking in tags one after the other, whatever becomes of each, and of building the
record. -/
def build (c : Category) (tags : Tags) : Except Finding Record :=
  ((Draft.ofCategory c).applyAll tags).1.build

theorem build_eq_build_ofValues (c : Category) (tags : Tags) :
    c.build tags = (Draft.ofValues c tags.valuesOf {}).build := by
  rw [build, Draft.applyAll_ofCategory]
  rfl

theorem build_eq (c : Category) (tags : Tags) : c.build tags =
    match c.declared tags.valuesOf with
    | [] => .error (.missingField c.nameKey.text)
    | name :: aliases => .ok (Record.ofValues c tags.valuesOf name aliases) := by
  rw [build_eq_build_ofValues]
  exact Draft.build_ofValues c _ _

theorem build_eq_ok_iff {x : Record} : c.build tags = .ok x ↔ ∃ name aliases,
    c.declared tags.valuesOf = name :: aliases ∧
      x = .ofValues c tags.valuesOf name aliases := by
  rw [build_eq]
  cases c.declared tags.valuesOf with
  | nil => simp
  | cons name aliases =>
    simp only [Except.ok.injEq, List.cons.injEq]
    constructor
    · rintro rfl
      exact ⟨name, aliases, ⟨rfl, rfl⟩, rfl⟩
    · rintro ⟨_, _, ⟨rfl, rfl⟩, rfl⟩
      rfl

theorem build_eq_error_iff {f : Finding} : c.build tags = .error f ↔
    c.declared tags.valuesOf = [] ∧ f = .missingField c.nameKey.text := by
  rw [build_eq]
  cases c.declared tags.valuesOf <;> simp [eq_comm]

theorem build_fails_iff : (∃ f, c.build tags = .error f) ↔
    ∀ v, tags.last? c.nameKey = some v → c.namesIn v = [] := by
  simp only [build_eq_error_iff, exists_and_left, exists_eq, and_true, declared_eq_nil_iff]

/-- **Only the values of each key matter.** -/
theorem build_congr (h : ∀ k ∈ c.keys, tags.valuesOf k = tags'.valuesOf k) :
    c.build tags = c.build tags' := by
  rw [build_eq_build_ofValues, build_eq_build_ofValues, Draft.ofValues_congr h]

theorem shared_applyAll (c : Category) (tags : Tags) :
    ((Draft.ofCategory c).applyAll tags).1.shared = Shared.ofValues tags.valuesOf := by
  rw [Draft.applyAll_ofCategory]
  rfl

theorem shared_of_build {x : Record} (h : c.build tags = .ok x) :
    x.shared = Shared.ofValues tags.valuesOf := by
  obtain ⟨name, aliases, -, rfl⟩ := build_eq_ok_iff.1 h
  unfold Record.ofValues
  split <;> rfl

/-- What comes of tags in a category. -/
structure MadeFromValues (c : Category) (tags : Tags) : Prop where
  /-- The record is of the category and is what the tags give. -/
  record : ∀ x, c.build tags = .ok x → x.category = c ∧ x.Given tags
  /-- There is no event exactly if the last value for its names, if any, has no line. -/
  event_fails_iff : c = .event → ((∃ f, c.build tags = .error f) ↔
    ∀ v, tags.last? (.event .events) = some v → Text.entries v = [])
  /-- There is no entity exactly if the last value for its name, if any, is blank. -/
  entity_fails_iff : c ≠ .event → ((∃ f, c.build tags = .error f) ↔
    ∀ v, tags.last? .name = some v → Text.isBlank v = true)
  /-- The only thing that can be wrong is that the name is missing. -/
  failure : ∀ f, c.build tags = .error f → f = .missingField c.nameKey.text
  /-- Tags that give the same values for each key of the category make the same. -/
  values : ∀ tags' : Tags, (∀ k ∈ c.keys, tags.valuesOf k = tags'.valuesOf k) →
    c.build tags = c.build tags'
  /-- Another order makes the same, if it is the same for each key. -/
  reorders : ∀ tags', tags.Reorders tags' → c.build tags = c.build tags'
  /-- Tags with keys that the category does not have may be put in or left out anywhere. -/
  recognized : ∀ tags', Tags.recognized tags c = Tags.recognized tags' c →
    c.build tags = c.build tags'
  /-- The shared fields come out the same in all categories, of the draft and of the record. -/
  shared : ∀ c' : Category,
    ((Draft.ofCategory c).applyAll tags).1.shared =
      ((Draft.ofCategory c').applyAll tags).1.shared ∧
    ∀ x x', c.build tags = .ok x → c'.build tags = .ok x' → x.shared = x'.shared

/-- **A record is made of the values of its keys**, each key for itself. -/
theorem madeFromValues (c : Category) (tags : Tags) : MadeFromValues c tags where
  record x hx := by
    obtain ⟨name, aliases, hd, rfl⟩ := build_eq_ok_iff.1 hx
    exact ⟨Record.category_ofValues _ _ _ _, Record.given_ofValues hd⟩
  event_fails_iff hc := by
    subst hc
    exact build_fails_iff
  entity_fails_iff hc := by
    rw [build_fails_iff, nameKey_of_ne hc]
    simp only [namesIn, if_neg hc, ite_eq_left_iff, List.cons_ne_nil, imp_false, not_not]
  failure f hf := (build_eq_error_iff.1 hf).2
  values tags' h := build_congr h
  reorders tags' h := build_congr fun k _ => by
    rw [Tags.valuesOf_eq_map, Tags.valuesOf_eq_map, h.keys]
  recognized tags' h := build_congr fun k hk => by
    rw [← Tags.valuesOf_recognized tags hk, ← Tags.valuesOf_recognized tags' hk, h]
  shared c' := by
    refine ⟨by rw [shared_applyAll, shared_applyAll], fun x x' hx hx' => ?_⟩
    rw [shared_of_build hx, shared_of_build hx']

end Category

end DocLint

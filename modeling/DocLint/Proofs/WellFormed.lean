import DocLint.Proofs.Loading
import DocLint.Proofs.Review

/-!
# Well-formed fragments

What must hold of a fragment by itself, said of its category and its tags and not of what is made of
them (`Fragment.WellFormed`). It holds exactly if loading the fragment finds nothing and its record
has the required fields (`Fragment.wellFormed_iff`). No key of a well-formed fragment has two
values, but switches and warnings, so that it does not matter which of them counts.
-/

namespace DocLint

namespace Tags

variable {tags : Tags} {k : Key} {v w : String}

theorem mem_valuesOf : v ∈ tags.valuesOf k ↔ (k.text, v) ∈ tags := by
  rw [valuesOf, List.mem_filterMap]
  constructor
  · rintro ⟨⟨key, x⟩, ht, hv⟩
    split at hv
    · rename_i hk
      cases hv
      exact hk ▸ ht
    · cases hv
  · exact fun h => ⟨(k.text, v), h, by simp⟩

theorem length_valuesOf (tags : Tags) (k : Key) :
    (tags.valuesOf k).length = (tags.map Prod.fst).count k.text := by
  induction tags with
  | nil => rfl
  | cons t rest ih =>
    rw [List.map_cons, List.count_cons, ← ih, valuesOf, List.filterMap_cons]
    by_cases h : t.1 = k.text
    · simp [h, valuesOf]
    · simp [h, valuesOf]

theorem mem_of_last? (h : tags.last? k = some v) : (k.text, v) ∈ tags :=
  mem_valuesOf.1 (List.mem_of_getLast? h)

/-- The values of a key that is not given twice. -/
theorem valuesOf_eq_toList (h : (tags.map Prod.fst).count k.text ≤ 1) :
    tags.valuesOf k = (tags.last? k).toList := by
  rw [← length_valuesOf] at h
  unfold last?
  match hv : tags.valuesOf k, h with
  | [], _ => rfl
  | [v], _ => rfl

theorem last?_of_mem (h : (tags.map Prod.fst).count k.text ≤ 1) (hv : (k.text, v) ∈ tags) :
    tags.last? k = some v := by
  rw [← mem_valuesOf, valuesOf_eq_toList h, Option.mem_toList] at hv
  exact hv

end Tags

/-! ## Keys -/

theorem Key.repeatable_iff {k : Key} :
    k.repeatable = true ↔ k.text = "switch" ∨ k.text = "warning" := by
  cases k with
  | event k => cases k <;> decide
  | name => decide
  | shared k => cases k <;> decide

theorem Key.complaint?_eq_none_iff {k : Key} {v : String} :
    k.complaint? v = none ↔ (k = .event .regex → ∃ p, Pattern.compile v = .ok p) := by
  unfold complaint?
  split
  · cases h : Pattern.compile v <;> simp
  · rename_i hk
    simp only [true_iff]
    intro h
    exact absurd h (by simpa using hk)

theorem Category.fault?_eq_none_iff {c : Category} {t : String × String} :
    c.fault? t = none ↔ ∃ k ∈ c.keys, k.text = t.1 ∧ k.complaint? t.2 = none := by
  unfold fault?
  cases h : c.key? t.1 with
  | none =>
    rw [key?_eq_none_iff] at h
    simp only [reduceCtorEq, false_iff, not_exists, not_and]
    exact fun k hk ht => absurd ht (h k hk)
  | some k =>
    obtain ⟨hk, ht⟩ := key?_eq_some_iff.1 h
    constructor
    · exact fun hc => ⟨k, hk, ht, hc⟩
    · rintro ⟨j, -, hj, hc⟩
      rwa [Key.text_injective (hj.trans ht.symm)] at hc

theorem Tags.count_keysIn (tags : Tags) {c : Category} {k : Key} (hk : k ∈ c.keys) :
    (tags.keysIn c).count k = (tags.map Prod.fst).count k.text := by
  induction tags with
  | nil => rfl
  | cons t rest ih =>
    have hkey : c.key? t.1 = some k ↔ t.1 = k.text := by
      rw [Category.key?_eq_some_iff, eq_comm (a := t.1)]
      exact and_iff_right hk
    rw [List.map_cons, List.count_cons, ← ih, keysIn, List.filterMap_cons]
    cases h : c.key? t.1 with
    | none =>
      have hne : t.1 ≠ k.text := fun ht => by simp [hkey.2 ht] at h
      simp [hne, keysIn]
    | some j =>
      rw [h, Option.some.injEq] at hkey
      simp [List.count_cons, hkey, keysIn]

/-! ## Well-formed fragments -/

namespace Fragment

/-- A fragment gives a value with a property for a key. -/
def Gives (f : Fragment) (k : Key) (p : String → Prop) : Prop := ∃ v, (k.text, v) ∈ f.tags ∧ p v

/-- What must hold of a fragment by itself. -/
structure WellFormed (f : Fragment) : Prop where
  /-- Its category exists. -/
  category : ∃ c, f.category? = some c
  /-- All its keys are keys of its category. -/
  keys : ∀ c, f.category? = some c → ∀ t ∈ f.tags, ∃ k ∈ c.keys, k.text = t.1
  /-- No key is given twice, but switches and warnings. -/
  once : ∀ key, key ≠ "switch" → key ≠ "warning" → (f.tags.map Prod.fst).count key ≤ 1
  /-- An event gives a name that is not blank, triggers that are not, and a usable pattern. -/
  event : f.category? = some .event →
    f.Gives (.event .events) (fun v => ∃ n rest, Text.entries v = n :: rest ∧
      Text.isBlank n = false) ∧
    f.Gives (.event .triggers) (fun v => Text.isBlank v = false) ∧
    f.Gives (.event .regex) (fun v => ∃ p, Pattern.compile v = .ok p)
  /-- All else gives a name and a description that are not blank. -/
  entity : ∀ c, f.category? = some c → c ≠ .event →
    f.Gives .name (fun v => Text.isBlank v = false) ∧
    f.Gives (.shared .description) (fun v => Text.isBlank v = false)

/-- The texts of a fragment in which references are looked for. -/
def linkedTexts (f : Fragment) : List String :=
  let values := Tags.valuesOf f.tags
  if f.category? = some .event then
    values (.event .triggers) ++
      (values (.event .context) ++ values (.event .determine)).flatMap Text.entries
  else values (.shared .description)

variable {f : Fragment} {c : Category}

theorem tagFaults_eq_nil_iff : f.tagFaults c = [] ↔
    (∀ t ∈ f.tags, ∃ k ∈ c.keys, k.text = t.1 ∧ k.complaint? t.2 = none) ∧
      ∀ k, k.repeatable = false → (Tags.keysIn f.tags c).count k ≤ 1 := by
  rw [tagFaults, List.append_eq_nil_iff, List.filterMap_eq_nil_iff, List.map_eq_nil_iff,
    KeyLog.repeated_ofKeys_eq_nil_iff]
  simp only [Category.fault?_eq_none_iff]

theorem faults_eq_nil_iff : f.faults = [] ↔
    ∃ c, f.category? = some c ∧ f.tagFaults c = [] ∧ f.declared ≠ [] := by
  cases h : f.category? with
  | none => simp [faults_of_category?_eq_none h]
  | some c => simp [faults_of_category? h, List.append_eq_nil_iff]

/-- Whether a key is given twice shows in the log, if all keys are keys of the category. -/
theorem once_iff (hkeys : ∀ t ∈ f.tags, ∃ k ∈ c.keys, k.text = t.1) :
    (∀ k, k.repeatable = false → (Tags.keysIn f.tags c).count k ≤ 1) ↔
      ∀ key, key ≠ "switch" → key ≠ "warning" → (f.tags.map Prod.fst).count key ≤ 1 := by
  constructor
  · intro h key hs hw
    by_cases hmem : key ∈ f.tags.map Prod.fst
    · obtain ⟨t, ht, rfl⟩ := List.mem_map.1 hmem
      obtain ⟨k, hk, hkt⟩ := hkeys t ht
      have hrep : k.repeatable = false := by
        rw [← Bool.not_eq_true, Key.repeatable_iff, hkt]
        exact not_or.2 ⟨hs, hw⟩
      rw [← hkt, ← Tags.count_keysIn f.tags hk]
      exact h k hrep
    · rw [List.count_eq_zero_of_not_mem hmem]
      exact Nat.zero_le 1
  · intro h k hrep
    by_cases hk : k ∈ c.keys
    · rw [← Bool.not_eq_true, Key.repeatable_iff, not_or] at hrep
      rw [Tags.count_keysIn f.tags hk]
      exact h k.text hrep.1 hrep.2
    · have hmem : k ∉ Tags.keysIn f.tags c := fun hmem => by
        obtain ⟨t, -, ht⟩ := List.mem_filterMap.1 hmem
        exact hk (Category.key?_eq_some_iff.1 ht).1
      rw [List.count_eq_zero_of_not_mem hmem]
      exact Nat.zero_le 1

/-- For a key that is not given twice, it is the value that counts that must have the property. -/
theorem gives_iff {k : Key} {p : String → Prop} (h : (f.tags.map Prod.fst).count k.text ≤ 1) :
    f.Gives k p ↔ ∃ v, Tags.last? f.tags k = some v ∧ p v := by
  constructor
  · rintro ⟨v, hv, hp⟩
    exact ⟨v, Tags.last?_of_mem h hv, hp⟩
  · rintro ⟨v, hv, hp⟩
    exact ⟨v, Tags.mem_of_last? hv, hp⟩

/-- The record of an event has the required fields exactly if the values that count are usable. -/
theorem hasRequired_event_iff (v : Key → List String) (name : String) (aliases : List String) :
    (Record.ofValues .event v name aliases).HasRequired ↔ Text.isBlank name = false ∧
      (∃ x, (v (.event .triggers)).getLast? = some x ∧ Text.isBlank x = false) ∧
      ∃ x, (v (.event .regex)).getLast? = some x ∧ ∃ p, Pattern.compile x = .ok p := by
  change (_ ∧ Text.isBlank ((v (.event .triggers)).getLast?.getD "") = false ∧
    ((v (.event .regex)).getLast?.bind fun p => (Pattern.compile p).toOption).isSome) ↔ _
  refine and_congr_right' (and_congr ?_ ?_)
  · cases (v (.event .triggers)).getLast? with
    | none => simp [Text.isBlank]
    | some x => simp
  · cases (v (.event .regex)).getLast? with
    | none => simp
    | some x => cases h : Pattern.compile x <;> simp [h, Except.toOption]

/-- The record of anything else has the required fields exactly if the description that counts is
not blank. -/
theorem hasRequired_entity_iff (hc : c ≠ .event) (v : Key → List String) (name : String)
    (aliases : List String) : (Record.ofValues c v name aliases).HasRequired ↔
      ∃ x, (v (.shared .description)).getLast? = some x ∧ Text.isBlank x = false := by
  rw [Record.ofValues, dif_neg hc]
  change Text.isBlank ((v (.shared .description)).getLast?.getD "") = false ↔ _
  cases (v (.shared .description)).getLast? with
  | none => simp [Text.isBlank]
  | some x => simp

theorem WellFormed.count_le (hw : f.WellFormed) {k : Key} (hk : k.repeatable = false) :
    (f.tags.map Prod.fst).count k.text ≤ 1 := by
  rw [← Bool.not_eq_true, Key.repeatable_iff, not_or] at hk
  exact hw.once k.text hk.1 hk.2

/-- The names of a well-formed event are the lines of the value that it gives for them. -/
theorem WellFormed.declared_event (hw : f.WellFormed) (hc : f.category? = some .event) :
    ∃ n rest, f.declared = n :: rest ∧ Text.isBlank n = false := by
  obtain ⟨v, hv, n, rest, hn, hb⟩ := (gives_iff (hw.count_le rfl)).1 (hw.event hc).1
  refine ⟨n, rest, ?_, hb⟩
  rw [declared_eq hc, show Category.nameKey .event = .event .events from rfl, hv, ← hn]
  rfl

/-- The name of any other well-formed fragment is the value that it gives for it. -/
theorem WellFormed.declared_entity (hw : f.WellFormed) (hc : f.category? = some c)
    (hne : c ≠ .event) : f.declared ≠ [] := by
  obtain ⟨v, hv, hb⟩ := (gives_iff (hw.count_le rfl)).1 (hw.entity c hc hne).1
  rw [declared_eq hc, Category.nameKey_of_ne hne, hv]
  simp [Category.namesIn, hne, hb]

theorem WellFormed.faults_eq_nil (hw : f.WellFormed) : f.faults = [] := by
  obtain ⟨c, hc⟩ := hw.category
  have hkeys := hw.keys c hc
  refine faults_eq_nil_iff.2 ⟨c, hc, tagFaults_eq_nil_iff.2 ⟨fun t ht => ?_, ?_⟩, ?_⟩
  · obtain ⟨k, hk, hkt⟩ := hkeys t ht
    refine ⟨k, hk, hkt, Key.complaint?_eq_none_iff.2 ?_⟩
    rintro rfl
    obtain rfl := Category.event_mem_keys_iff.1 hk
    -- the pattern that is given is the value of this tag
    obtain ⟨v, hv, hp⟩ := (gives_iff (hw.count_le rfl)).1 (hw.event hc).2.2
    have ht' : (Key.text (.event .regex), t.2) ∈ f.tags := hkt ▸ ht
    rw [Tags.last?_of_mem (hw.count_le rfl) ht', Option.some.injEq] at hv
    exact hv ▸ hp
  · exact (once_iff hkeys).2 hw.once
  · by_cases hne : c = .event
    · subst hne
      obtain ⟨n, rest, hd, -⟩ := hw.declared_event hc
      simp [hd]
    · exact hw.declared_entity hc hne

theorem WellFormed.hasRequired (hw : f.WellFormed) {x : Record} (hx : f.record? = some x) :
    x.HasRequired := by
  obtain ⟨c, hc⟩ := hw.category
  obtain ⟨name, aliases, hd, rfl⟩ := (record?_eq_some_iff hc).1 hx
  by_cases hne : c = .event
  · subst hne
    obtain ⟨n, rest, hd', hb⟩ := hw.declared_event hc
    obtain ⟨rfl, -⟩ := List.cons.inj (hd.symm.trans hd')
    obtain ⟨-, ht, hp⟩ := hw.event hc
    exact (hasRequired_event_iff _ _ _).2 ⟨hb, (gives_iff (hw.count_le rfl)).1 ht,
      (gives_iff (hw.count_le rfl)).1 hp⟩
  · exact (hasRequired_entity_iff hne _ _ _).2
      ((gives_iff (hw.count_le rfl)).1 (hw.entity c hc hne).2)

/-- **A fragment is well-formed** exactly if loading it finds nothing and its record has the
required fields. -/
theorem wellFormed_iff :
    f.WellFormed ↔ f.faults = [] ∧ ∀ x, f.record? = some x → x.HasRequired := by
  refine ⟨fun hw => ⟨hw.faults_eq_nil, fun x => hw.hasRequired⟩, ?_⟩
  rintro ⟨hfaults, hreq⟩
  obtain ⟨c, hc, htags, hd⟩ := faults_eq_nil_iff.1 hfaults
  obtain ⟨htags, hlog⟩ := tagFaults_eq_nil_iff.1 htags
  have hkeys : ∀ t ∈ f.tags, ∃ k ∈ c.keys, k.text = t.1 := fun t ht => by
    obtain ⟨k, hk, hkt, -⟩ := htags t ht
    exact ⟨k, hk, hkt⟩
  have heq : ∀ {c'}, f.category? = some c' → c' = c := fun h => Option.some.inj (h.symm.trans hc)
  obtain ⟨name, aliases, hname⟩ := List.exists_cons_of_ne_nil hd
  have hreq := hreq _ ((record?_eq_some_iff hc).2 ⟨name, aliases, hname, rfl⟩)
  refine ⟨⟨c, hc⟩, fun c' hc' => heq hc' ▸ hkeys, (once_iff hkeys).1 hlog, fun he => ?_,
    fun c' hc' hne => ?_⟩
  · obtain rfl := heq he
    obtain ⟨hb, ⟨x, hx, hxb⟩, y, hy, hyp⟩ := (hasRequired_event_iff _ _ _).1 hreq
    refine ⟨?_, ⟨x, Tags.mem_of_last? hx, hxb⟩, y, Tags.mem_of_last? hy, hyp⟩
    rw [declared_eq hc] at hname
    cases hv : Tags.last? f.tags (Category.nameKey .event) with
    | none => simp [hv] at hname
    | some v =>
      rw [hv] at hname
      exact ⟨v, Tags.mem_of_last? hv, name, aliases, hname, hb⟩
  · obtain rfl := heq hc'
    obtain ⟨x, hx, hxb⟩ := (hasRequired_entity_iff hne _ _ _).1 hreq
    refine ⟨?_, x, Tags.mem_of_last? hx, hxb⟩
    rw [declared_eq hc, Category.nameKey_of_ne hne] at hd
    cases hv : Tags.last? f.tags .name with
    | none => simp [hv] at hd
    | some v =>
      refine ⟨v, Tags.mem_of_last? hv, ?_⟩
      simpa [hv, Category.namesIn, hne] using hd

/-- The record of a well-formed fragment has its texts. -/
theorem WellFormed.linkedTexts_eq (hw : f.WellFormed) {x : Record} (hx : f.record? = some x) :
    x.linkedTexts = f.linkedTexts := by
  obtain ⟨c, hc⟩ := hw.category
  obtain ⟨name, aliases, -, rfl⟩ := (record?_eq_some_iff hc).1 hx
  have values : ∀ k : Key, k.repeatable = false →
      Tags.valuesOf f.tags k = (Tags.last? f.tags k).toList :=
    fun _ hk => Tags.valuesOf_eq_toList (hw.count_le hk)
  by_cases hne : c = .event
  · subst hne
    obtain ⟨t, ht, -⟩ := (gives_iff (hw.count_le rfl)).1 (hw.event hc).2.1
    have lines : ∀ o : Option String, o.elim [] Text.entries = o.toList.flatMap Text.entries := by
      intro o
      cases o <;> simp
    have hx : (Record.ofValues .event (Tags.valuesOf f.tags) name aliases).linkedTexts =
        (Tags.last? f.tags (.event .triggers)).getD "" ::
          (Tags.last? f.tags (.event .context)).elim [] Text.entries ++
          (Tags.last? f.tags (.event .determine)).elim [] Text.entries := rfl
    rw [hx, linkedTexts, if_pos hc, values (.event .triggers) rfl, values (.event .context) rfl,
      values (.event .determine) rfl, lines, lines, ht, List.flatMap_append]
    rfl
  · obtain ⟨d, hd, -⟩ := (gives_iff (hw.count_le rfl)).1 (hw.entity c hc hne).2
    have hce : f.category? ≠ some .event := fun h => hne (Option.some.inj (hc.symm.trans h))
    have hx : (Record.ofValues c (Tags.valuesOf f.tags) name aliases).linkedTexts =
        [(Tags.last? f.tags (.shared .description)).getD ""] := by
      rw [Record.ofValues, dif_neg hne]
      rfl
    rw [hx, linkedTexts, if_neg hce, values (.shared .description) rfl, hd]
    rfl

end Fragment

end DocLint

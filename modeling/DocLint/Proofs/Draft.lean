import DocLint.Draft
import Mathlib.Data.List.Induction
import Mathlib.Data.List.Nodup

/-!
# Drafts by the values of their keys

A draft hangs only on which values were given for which key, each key for itself: `valuesOf` are the
values of a key in order, and `Draft.ofValues` is the draft that they make, by the last value of
every key, by all values for switches and warnings. Taking in a tag adds its value to those of its
key (`Draft.set_ofValues`), so taking in tags one after the other makes the draft of their values
(`Draft.applyAll_ofCategory`). What becomes of a tag hangs on the category and the tag alone
(`Category.verdict`), and the log holds the keys that were given at least twice
(`KeyLog.mem_repeated_ofKeys`).
-/

namespace DocLint

/-! ## Keys and their texts -/

namespace Key

/-- All keys. -/
def all : List Key := ofEvents ++ ofEntities ++ ofAll

theorem mem_all (k : Key) : k ∈ all := by
  cases k with
  | event k => cases k <;> decide
  | name => decide
  | shared k => cases k <;> decide

theorem nodup_texts : (all.map text).Nodup := by decide +kernel

theorem text_injective : Function.Injective text := fun a b h =>
  List.inj_on_of_nodup_map nodup_texts (mem_all a) (mem_all b) h

end Key

namespace Category

theorem key?_eq_some_iff {c : Category} {text : String} {k : Key} :
    c.key? text = some k ↔ k ∈ c.keys ∧ k.text = text := by
  unfold key?
  constructor
  · intro h
    exact ⟨List.mem_of_find?_eq_some h, by simpa using List.find?_some h⟩
  · rintro ⟨hk, rfl⟩
    cases h : c.keys.find? fun j => j.text == k.text with
    | none =>
      rw [List.find?_eq_none] at h
      exact absurd (by simp) (h k hk)
    | some j =>
      have : j.text = k.text := by simpa using List.find?_some h
      rw [Key.text_injective this]

theorem key?_eq_none_iff {c : Category} {text : String} :
    c.key? text = none ↔ ∀ k ∈ c.keys, k.text ≠ text := by
  simp [key?]

theorem event_mem_keys_iff {c : Category} {k : EventKey} : .event k ∈ c.keys ↔ c = .event := by
  cases c <;> cases k <;> decide

theorem name_mem_keys_iff {c : Category} : .name ∈ c.keys ↔ c ≠ .event := by
  cases c <;> decide

theorem shared_mem_keys (c : Category) (k : SharedKey) : .shared k ∈ c.keys := by
  cases c <;> cases k <;> decide

end Category

/-! ## Values by key -/

/-- Tags, each a key and a value. -/
abbrev Tags := List (String × String)

namespace Tags

/-- The values that tags give for a key, in order. -/
def valuesOf (tags : Tags) (k : Key) : List String :=
  tags.filterMap fun t => if t.1 = k.text then some t.2 else none

/-- The value that counts for a key: the last one given. -/
def last? (tags : Tags) (k : Key) : Option String := (tags.valuesOf k).getLast?

/-- The keys that tags give, in order, without those that a category does not have. -/
def keysIn (tags : Tags) (c : Category) : List Key := tags.filterMap fun t => c.key? t.1

theorem valuesOf_concat (tags : Tags) (k : Key) (v : String) :
    valuesOf (tags ++ [(k.text, v)]) =
      Function.update (valuesOf tags) k (valuesOf tags k ++ [v]) := by
  funext j
  by_cases h : j = k
  · subst h
    simp [valuesOf]
  · have ht : k.text ≠ j.text := fun ht => h (Key.text_injective ht).symm
    simp [valuesOf, h, ht]

theorem keysIn_concat (tags : Tags) (t : String × String) (c : Category) :
    keysIn (tags ++ [t]) c = tags.keysIn c ++ (c.key? t.1).toList := by
  simp only [keysIn, List.filterMap_append, List.filterMap_cons, List.filterMap_nil]
  cases c.key? t.1 <;> rfl

theorem valuesOf_concat_of_ne {tags : Tags} {key v : String} {k : Key} (h : k.text ≠ key) :
    valuesOf (tags ++ [(key, v)]) k = valuesOf tags k := by
  simp [valuesOf, h.symm]

end Tags

/-! ## Drafts from values -/

/-- What values make of an event. -/
def EventDraft.ofValues (v : Key → List String) : EventDraft where
  names := (v (.event .events)).getLast?.elim [] Text.entries
  switches := (v (.event .switch)).flatMap Text.entries
  pattern := (v (.event .regex)).getLast?.bind fun p => (Pattern.compile p).toOption
  triggers := (v (.event .triggers)).getLast?.getD ""
  context := (v (.event .context)).getLast?.elim [] Text.entries
  determinations := (v (.event .determine)).getLast?.elim [] Text.entries
  player := (v (.event .player)).getLast?.getD ""
  npc := (v (.event .npc)).getLast?.getD ""
  cancellable := (v (.event .cancellable)).getLast?.elim false Text.isTrue
  hasLocation := (v (.event .location)).getLast?.elim false Text.isTrue

/-- What values make of the fields that all records have. -/
def Shared.ofValues (v : Key → List String) : Shared where
  description := (v (.shared .description)).getLast?.getD ""
  group := (v (.shared .group)).getLast?.getD ""
  plugin := (v (.shared .plugin)).getLast?.getD ""
  warnings := v (.shared .warning)
  deprecated := (v (.shared .deprecated)).getLast?.getD ""

/-- What values make of the thing itself. -/
def Form.ofValues (c : Category) (v : Key → List String) : Form :=
  if h : c = .event then .event (EventDraft.ofValues v)
  else .entity c h ((v .name).getLast?.elim "" Text.trim)

/-- The draft that values make. -/
def Draft.ofValues (c : Category) (v : Key → List String) (log : KeyLog) : Draft :=
  ⟨Form.ofValues c v, Shared.ofValues v, log⟩

theorem Draft.ofValues_congr {c : Category} {v w : Key → List String} {log : KeyLog}
    (h : ∀ k ∈ c.keys, v k = w k) : ofValues c v log = ofValues c w log := by
  have hs (k : SharedKey) := h (.shared k) (Category.shared_mem_keys c k)
  have hf : Form.ofValues c v = Form.ofValues c w := by
    unfold Form.ofValues
    split
    · rename_i hc
      have he (k : EventKey) := h (.event k) (Category.event_mem_keys_iff.2 hc)
      simp only [EventDraft.ofValues, he]
    · rename_i hc
      rw [h .name (Category.name_mem_keys_iff.2 hc)]
  simp only [ofValues, hf, Shared.ofValues, hs]

theorem EventDraft.set_ofValues (v : Key → List String) (k : EventKey) (x : String) :
    (EventDraft.ofValues v).set k x =
      EventDraft.ofValues (Function.update v (.event k) (v (.event k) ++ [x])) := by
  cases k <;> simp [EventDraft.ofValues, EventDraft.set]

theorem EventDraft.ofValues_update {v : Key → List String} {k : Key} {l : List String}
    (h : ∀ j, k ≠ .event j) :
    EventDraft.ofValues (Function.update v k l) = EventDraft.ofValues v := by
  have hv (j : EventKey) : Function.update v k l (.event j) = v (.event j) :=
    Function.update_of_ne (h j).symm l v
  simp only [EventDraft.ofValues, hv]

theorem Shared.set_ofValues (v : Key → List String) (k : SharedKey) (x : String) :
    (Shared.ofValues v).set k x =
      Shared.ofValues (Function.update v (.shared k) (v (.shared k) ++ [x])) := by
  cases k <;> simp [Shared.ofValues, Shared.set]

theorem Shared.ofValues_update {v : Key → List String} {k : Key} {l : List String}
    (h : ∀ j, k ≠ .shared j) : Shared.ofValues (Function.update v k l) = Shared.ofValues v := by
  have hv (j : SharedKey) : Function.update v k l (.shared j) = v (.shared j) :=
    Function.update_of_ne (h j).symm l v
  simp only [Shared.ofValues, hv]

namespace Draft

theorem category_ofValues (c : Category) (v : Key → List String) (log : KeyLog) :
    (ofValues c v log).category = c := by
  by_cases h : c = .event
  · subst h
    rfl
  · simp [ofValues, category, Form.ofValues, h]

theorem ofCategory_eq (c : Category) : ofCategory c = ofValues c (fun _ => []) {} := by
  unfold ofCategory ofValues Form.ofValues
  split <;> rfl

/-- **A value for a key of the category is added to those of the key.** -/
theorem set_ofValues {c : Category} {k : Key} (hk : k ∈ c.keys) (v : Key → List String)
    (log : KeyLog) (x : String) :
    (ofValues c v log).set k x = ofValues c (Function.update v k (v k ++ [x])) log := by
  cases k with
  | event k =>
    obtain rfl := Category.event_mem_keys_iff.1 hk
    change Draft.mk (.event ((EventDraft.ofValues v).set k x)) (Shared.ofValues v) log = _
    rw [EventDraft.set_ofValues, ← Shared.ofValues_update (k := .event k) (l := v (.event k) ++ [x])
      (by simp)]
    rfl
  | name =>
    have hc := Category.name_mem_keys_iff.1 hk
    have hs : Shared.ofValues (Function.update v .name (v .name ++ [x])) = Shared.ofValues v :=
      Shared.ofValues_update (by simp)
    simp [ofValues, Form.ofValues, hc, set, hs]
  | shared k =>
    have hf : Form.ofValues c (Function.update v (.shared k) (v (.shared k) ++ [x])) =
        Form.ofValues c v := by
      unfold Form.ofValues
      split
      · rw [EventDraft.ofValues_update (by simp)]
      · rw [Function.update_of_ne (by simp)]
    simp [ofValues, set, hf, Shared.set_ofValues]

end Draft

/-! ## The log of keys -/

namespace KeyLog

theorem given_note (log : KeyLog) (k : Key) : (log.note k).given =
    if k.repeatable = false ∧ k ∉ log.given then k :: log.given else log.given := by
  unfold note
  cases k.repeatable
  · by_cases hg : k ∈ log.given <;> by_cases hr : k ∈ log.repeated <;> simp [hg, hr]
  · simp

theorem repeated_note (log : KeyLog) (k : Key) : (log.note k).repeated =
    if k.repeatable = false ∧ k ∈ log.given ∧ k ∉ log.repeated then log.repeated ++ [k]
    else log.repeated := by
  unfold note
  cases k.repeatable
  · by_cases hg : k ∈ log.given <;> by_cases hr : k ∈ log.repeated <;> simp [hg, hr]
  · simp

/-- The log after keys were given. -/
def ofKeys (ks : List Key) : KeyLog := ks.foldl note {}

theorem ofKeys_concat (ks : List Key) (k : Key) : ofKeys (ks ++ [k]) = (ofKeys ks).note k := by
  rw [ofKeys, List.foldl_append]
  rfl

theorem mem_given_ofKeys {ks : List Key} {k : Key} :
    k ∈ (ofKeys ks).given ↔ k.repeatable = false ∧ k ∈ ks := by
  induction ks using List.reverseRecOn with
  | nil => simp [ofKeys]
  | append_singleton ks j ih =>
    rw [ofKeys_concat, given_note, List.mem_append, List.mem_singleton]
    by_cases hj : k = j
    · subst hj
      split
      · rename_i h
        simp [h.1]
      · rename_i h
        rw [ih] at h ⊢
        tauto
    · split
      · rw [List.mem_cons, ih]
        tauto
      · rw [ih]
        tauto

/-- The keys noted as repeated are those that were given at least twice and may not be. -/
theorem mem_repeated_ofKeys {ks : List Key} {k : Key} :
    k ∈ (ofKeys ks).repeated ↔ k.repeatable = false ∧ 2 ≤ ks.count k := by
  induction ks using List.reverseRecOn with
  | nil => simp [ofKeys]
  | append_singleton ks j ih =>
    rw [ofKeys_concat, repeated_note, List.count_append, List.count_singleton]
    by_cases hj : j = k
    · subst hj
      have hg : j ∈ (ofKeys ks).given ↔ j.repeatable = false ∧ 1 ≤ ks.count j := by
        rw [mem_given_ofKeys, List.one_le_count_iff]
      simp only [BEq.rfl, if_true]
      split
      · rename_i h
        have := (hg.1 h.2.1).2
        simp only [List.mem_append, List.mem_singleton, or_true, true_iff]
        exact ⟨h.1, by omega⟩
      · rename_i h
        rw [hg, ih] at h
        rw [ih]
        constructor
        · exact fun h => ⟨h.1, by omega⟩
        · rintro ⟨hr, hc⟩
          refine ⟨hr, ?_⟩
          by_contra hn
          exact h ⟨hr, ⟨hr, by omega⟩, fun h => hn h.2⟩
    · have hj' : (j == k) = false := beq_eq_false_iff_ne.2 hj
      simp only [hj', Bool.false_eq_true, if_false, Nat.add_zero]
      rw [← ih]
      split
      · rw [List.mem_append, List.mem_singleton, or_iff_left (Ne.symm hj)]
      · rfl

theorem repeated_ofKeys_eq_nil_iff {ks : List Key} :
    (ofKeys ks).repeated = [] ↔ ∀ k, k.repeatable = false → ks.count k ≤ 1 := by
  rw [List.eq_nil_iff_forall_not_mem]
  refine forall_congr' fun k => ?_
  rw [mem_repeated_ofKeys, not_and, Nat.not_le, Nat.lt_succ_iff]

end KeyLog

/-! ## Taking in tags -/

/-- What becomes of a tag. -/
def Category.verdict (c : Category) (t : String × String) : Applied :=
  match c.key? t.1 with
  | none => .unrecognized
  | some k =>
    match k.complaint? t.2 with
    | none => .accepted
    | some f => .refused f

/-- The draft that tags make, by the values and the keys that they give. -/
def Draft.ofTags (c : Category) (tags : Tags) : Draft :=
  ofValues c tags.valuesOf (KeyLog.ofKeys (tags.keysIn c))

namespace Draft

theorem apply_snd (d : Draft) (key value : String) :
    (d.apply key value).2 = d.category.verdict (key, value) := by
  unfold apply Category.verdict
  cases d.category.key? key <;> rfl

/-- **A tag adds its value to those of its key.** A tag that the category does not have changes
nothing. -/
theorem apply_ofTags (c : Category) (tags : Tags) (t : String × String) :
    ((ofTags c tags).apply t.1 t.2).1 = ofTags c (tags ++ [t]) := by
  obtain ⟨key, value⟩ := t
  have hafter : ofTags c (tags ++ [(key, value)]) =
      ofValues c (Tags.valuesOf (tags ++ [(key, value)]))
        (KeyLog.ofKeys (tags.keysIn c ++ (c.key? key).toList)) := by
    rw [ofTags, Tags.keysIn_concat]
  rw [hafter, apply, show (ofTags c tags).category = c from category_ofValues c _ _]
  cases hk : c.key? key with
  | none =>
    have hv : ∀ k ∈ c.keys, Tags.valuesOf (tags ++ [(key, value)]) k = tags.valuesOf k :=
      fun k hk' => Tags.valuesOf_concat_of_ne (Category.key?_eq_none_iff.1 hk k hk')
    rw [Option.toList_none, List.append_nil, ofValues_congr hv]
    rfl
  | some k =>
    obtain ⟨hmem, rfl⟩ := Category.key?_eq_some_iff.1 hk
    change { (ofTags c tags).set k value with log := (KeyLog.ofKeys (tags.keysIn c)).note k } = _
    rw [Tags.valuesOf_concat, Option.toList_some, KeyLog.ofKeys_concat, ofTags,
      set_ofValues hmem]
    rfl

theorem applyAll_ofTags (c : Category) (tags rest : Tags) :
    ((ofTags c tags).applyAll rest).1 = ofTags c (tags ++ rest) ∧
      ((ofTags c tags).applyAll rest).2 = rest.map c.verdict := by
  induction rest generalizing tags with
  | nil => simp [applyAll]
  | cons t rest ih =>
    have hsnd := apply_snd (ofTags c tags) t.1 t.2
    rw [show (ofTags c tags).category = c from category_ofValues c _ _] at hsnd
    obtain ⟨ih₁, ih₂⟩ := ih (tags ++ [t])
    rw [List.append_assoc, List.singleton_append, ← apply_ofTags] at ih₁
    rw [← apply_ofTags] at ih₂
    exact ⟨ih₁, congrArg₂ List.cons hsnd ih₂⟩

/-- **Tags make the draft of their values**, and what becomes of each hangs on it alone. -/
theorem applyAll_ofCategory (c : Category) (tags : Tags) :
    (ofCategory c).applyAll tags = (ofTags c tags, tags.map c.verdict) := by
  obtain ⟨h₁, h₂⟩ := applyAll_ofTags c [] tags
  rw [show ofTags c [] = ofCategory c from (ofCategory_eq c).symm] at h₁ h₂
  exact Prod.ext h₁ h₂

end Draft

end DocLint

import DocLint.Proofs.Synonyms
import Mathlib.Data.List.Flatten

/-!
# Growing a batch

Fragments that are put behind a batch have their turns when the others are registered, and no turn
takes anything out of the registry. So all names that led to a record lead to it still
(`Registry.Extends`). This lets reviews find fewer dangling references and more synonyms that are
names elsewhere, and nothing else: a reference that is dangling in the larger registry was dangling
in the smaller one, and a synonym that was a name elsewhere still is one, of the same record. The
main statement is `Batch.grows`, which compares the two runs.
-/

namespace DocLint

/-- A list picks less than another one if it picks the same wherever it picks anything. -/
theorem filterMap_sublist_filterMap {α β : Type} {f g : α → Option β} {l : List α}
    (h : ∀ a ∈ l, ∀ b, f a = some b → g a = some b) : (l.filterMap f).Sublist (l.filterMap g) := by
  rw [List.filterMap_eq_flatMap_toList, List.filterMap_eq_flatMap_toList]
  refine List.Sublist.flatMap_right l fun a ha => ?_
  cases hf : f a with
  | none => exact List.nil_sublist _
  | some b => rw [h a ha b hf]

namespace Registry

variable {r r' : Registry .complete} {c : Category} {s : String} {e : Entry}

/-! ## Larger registries -/

/-- What a name leads to in `r`, it leads to in `r'` as well. -/
def Extends (r r' : Registry .complete) : Prop :=
  ∀ c s e, r.lookup c s = some e → r'.lookup c s = some e

/-- A registry that lists more extends the one that lists less. -/
theorem Coherent.extends_of_entries (h : r.Coherent) (h' : r'.Coherent)
    (hlist : r.entries <+: r'.entries) : r.Extends r' := by
  intro c s e he
  obtain ⟨hmem, hc, hs⟩ := h.lookup_iff.1 he
  exact h'.lookup_iff.2 ⟨hlist.subset hmem, hc, hs⟩

namespace Extends

theorem contains (h : r.Extends r') (hc : r.contains c s = true) : r'.contains c s = true := by
  obtain ⟨e, he⟩ := Option.isSome_iff_exists.1 hc
  exact Option.isSome_iff_exists.2 ⟨e, h c s e he⟩

/-- **A reference that is dangling in the larger registry** is dangling in the smaller one, for the
same reason. -/
theorem danglingReason? (h : r.Extends r') {ref : Reference} {reason : DanglingReason}
    (hr : r'.danglingReason? ref = some reason) : r.danglingReason? ref = some reason := by
  cases ref with
  | incomplete raw => exact hr
  | unterminated raw => exact hr
  | link raw category name =>
    cases hc : Category.read category with
    | error e =>
      rw [danglingReason?_of_error hc] at hr ⊢
      exact hr
    | ok c =>
      rw [danglingReason?_of_ok hc] at hr ⊢
      split at hr
      · cases hr
      · rename_i hnone
        rw [if_neg fun hsome => hnone (h.contains hsome)]
        exact hr

theorem danglingReferences (h : r.Extends r') (text : String) :
    (r'.danglingReferences text).Sublist (r.danglingReferences text) := by
  refine filterMap_sublist_filterMap fun ref _ x hx => ?_
  obtain ⟨reason, hreason, rfl⟩ := Option.map_eq_some_iff.1 hx
  exact Option.map_eq_some_iff.2 ⟨reason, h.danglingReason? hreason, rfl⟩

/-- **A synonym that is a name elsewhere** is one in the larger registry, of the same record. -/
theorem synonymShadows (h : r.Extends r') (c : Category) (s : String) :
    (r.synonymShadows c s).Sublist (r'.synonymShadows c s) := by
  refine filterMap_sublist_filterMap fun other _ x hx => ?_
  obtain ⟨o, ho, rfl⟩ := Option.map_eq_some_iff.1 hx
  exact Option.map_eq_some_iff.2 ⟨o, h other s o ho, rfl⟩

end Extends

end Registry

namespace Batch

variable (batch more : List Fragment)

/-- The records of a batch come first when more fragments are put behind it. -/
theorem entries_registry_append :
    (registry batch).entries <+: (registry (batch ++ more)).entries := by
  rw [registry_eq_before, registry_eq_before]
  change (before batch batch.length).entries <+: (before (batch ++ more) _).entries
  rw [← before_append le_rfl more]
  exact entries_before_prefix _ (by simp)

theorem extends_registry_append : (registry batch).Extends (registry (batch ++ more)) :=
  (coherent_registry batch).extends_of_entries (coherent_registry (batch ++ more))
    (entries_registry_append batch more)

/-- What becomes of the registry `r` of a batch when more fragments are put behind it, so that it is
`r'`. -/
structure Grows (r r' : Registry .complete) : Prop where
  /-- The registered records stay where they are. -/
  entries : r.entries <+: r'.entries
  /-- No name is taken over. -/
  lookup : ∀ c s e, r.lookup c s = some e → r'.lookup c s = some e
  /-- References that are dangling were dangling before. -/
  danglingReferences : ∀ e ∈ r.entries,
    (r'.findingsOf .danglingReference e.record).Sublist (r.findingsOf .danglingReference e.record)
  /-- Synonyms that were names of records of other categories still are. -/
  synonymShadows : ∀ e ∈ r.entries,
    (r.findingsOf .synonymShadow e.record).Sublist (r'.findingsOf .synonymShadow e.record)
  /-- No synonym leads to another record of its category, before or after. -/
  synonymConflicts : ∀ e ∈ r.entries, r.findingsOf .synonymConflict e.record = [] ∧
    r'.findingsOf .synonymConflict e.record = []
  /-- The same fields are missing. -/
  missingFields : ∀ e ∈ r.entries,
    r'.findingsOf .missingRequiredField e.record = r.findingsOf .missingRequiredField e.record

theorem grows_registry : Grows (registry batch) (registry (batch ++ more)) where
  entries := entries_registry_append batch more
  lookup := extends_registry_append batch more
  danglingReferences e _ := by
    rw [Registry.findingsOf_danglingReference, Registry.findingsOf_danglingReference]
    exact List.Sublist.flatMap_right _ fun text _ =>
      (extends_registry_append batch more).danglingReferences text
  synonymShadows e he := by
    have he' := (entries_registry_append batch more).subset he
    rw [(coherent_registry batch).findingsOf_synonymShadow he,
      (coherent_registry batch).synonymFindings_eq he,
      (coherent_registry (batch ++ more)).findingsOf_synonymShadow he',
      (coherent_registry (batch ++ more)).synonymFindings_eq he']
    exact List.Sublist.flatMap_right _ fun s _ =>
      (extends_registry_append batch more).synonymShadows e.category s
  synonymConflicts e he :=
    ⟨(coherent_registry batch).findingsOf_synonymConflict he,
      (coherent_registry (batch ++ more)).findingsOf_synonymConflict
        ((entries_registry_append batch more).subset he)⟩
  missingFields e _ := by
    rw [Registry.findingsOf_missingRequiredField, Registry.findingsOf_missingRequiredField]

/-- **Growing a batch is monotone**, whatever the configurations: what is put behind it can only
resolve references and be called like synonyms, and changes nothing else for the records that are
there. -/
theorem grows (config config' : Config) :
    Grows (check batch config).registry (check (batch ++ more) config').registry := by
  rw [registry_check, registry_check]
  exact grows_registry batch more

/-- An event that refers to a command and has its name as a synonym. -/
def jumpOrPause : Fragment :=
  { category := "event"
    tags := [("events", "player jumps\npause"), ("triggers", "see <@link command pause>."),
      ("regex", "^player jumps$")] }

/-- That command. -/
def pause : Fragment :=
  { category := "command", tags := [("name", "Pause"), ("description", "Pauses.")] }

example : (check [jumpOrPause] {}).registry.reviewAll.map Prod.snd =
      [[.danglingReference .unresolved "<@link command pause>" "see <@link command pause>."]] ∧
    (check ([jumpOrPause] ++ [pause]) {}).registry.reviewAll.map Prod.snd =
      [[.synonymShadow "pause" .command "Pause"], []] := by decide +kernel

end Batch

end DocLint

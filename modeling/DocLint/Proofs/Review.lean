import DocLint.Proofs.Registry
import DocLint.Review

/-!
# What reviews find

A review looks at the synonyms of a record, at its required fields and at the references in its
texts (`Registry.review_eq`), and each of the three makes findings of kinds of its own. Nothing is
found if the required fields are there (`Record.HasRequired`), all references lead to records
(`Registry.Resolves`), and none of the synonyms is the name of a record of another category
(`Registry.Coherent.review_eq_nil_iff`). That a synonym leads to another record than its own cannot
happen in a coherent registry (`Registry.Coherent.synonymConflict?_eq_none`).
-/

namespace DocLint

namespace Record

/-- The fields that a review requires are not blank, and an event has a pattern. -/
def HasRequired : Record → Prop
  | event e => Text.isBlank e.name = false ∧ Text.isBlank e.triggers = false ∧ e.pattern.isSome
  | entity e => Text.isBlank e.shared.description = false

/-- The texts of a record in which references are looked for. -/
def linkedTexts : Record → List String
  | event e => e.triggers :: e.context ++ e.determinations
  | entity e => [e.shared.description]

/-- The fields that a review requires, each with whether it is there. -/
def requiredFields : Record → List (String × Bool)
  | event e =>
    [(EventKey.events.text, !Text.isBlank e.name),
     (EventKey.triggers.text, !Text.isBlank e.triggers),
     (EventKey.regex.text, e.pattern.isSome)]
  | entity e => [(SharedKey.description.text, !Text.isBlank e.shared.description)]

theorem lowercase_of_mem_names {r : Record} {s : String} (h : s ∈ r.names) :
    Unicode.lowercase s = s := by
  have fixed : ∀ {l : List String}, s ∈ l.map Unicode.lowercase → Unicode.lowercase s = s := by
    intro l hs
    obtain ⟨n, -, rfl⟩ := List.mem_map.1 hs
    exact Unicode.lowercase_lowercase n
  cases r with
  | event e => exact fixed h
  | entity e => exact fixed (l := [e.name]) h

end Record

theorem missingFields_eq_nil_iff {fields : List (String × Bool)} :
    missingFields fields = [] ↔ ∀ f ∈ fields, f.2 = true := by
  simp [missingFields, List.filter_eq_nil_iff]

theorem missingFields_requiredFields_eq_nil_iff {record : Record} :
    missingFields record.requiredFields = [] ↔ record.HasRequired := by
  rw [missingFields_eq_nil_iff]
  cases record <;> simp [Record.requiredFields, Record.HasRequired]

/-! ## Findings by kind -/

/-- The kinds of issues that reviews make. -/
def IssueKind.ofReviews : List IssueKind :=
  [.synonymConflict, .synonymShadow, .missingRequiredField, .danglingReference]

theorem kind_of_mem_missingFields {fields : List (String × Bool)} {x : Finding}
    (h : x ∈ missingFields fields) : x.kind = .missingRequiredField := by
  obtain ⟨f, -, rfl⟩ := List.mem_map.1 h
  rfl

namespace Registry

variable {r : Registry .complete} {record : Record} {x : Finding}

theorem kind_of_mem_danglingReferences {text : String} (h : x ∈ r.danglingReferences text) :
    x.kind = .danglingReference := by
  obtain ⟨ref, -, h⟩ := List.mem_filterMap.1 h
  obtain ⟨reason, -, rfl⟩ := Option.map_eq_some_iff.1 h
  rfl

theorem kind_of_mem_synonymShadows {c : Category} {s : String} (h : x ∈ r.synonymShadows c s) :
    x.kind = .synonymShadow := by
  obtain ⟨c, -, h⟩ := List.mem_filterMap.1 h
  obtain ⟨o, -, rfl⟩ := Option.map_eq_some_iff.1 h
  rfl

theorem kind_of_mem_synonymFindings (h : x ∈ r.synonymFindings record) :
    x.kind = .synonymConflict ∨ x.kind = .synonymShadow := by
  obtain ⟨s, -, h⟩ := List.mem_flatMap.1 h
  rcases List.mem_append.1 h with h | h
  · left
    rw [Option.mem_toList, synonymConflict?] at h
    split at h
    · split at h
      · cases h
      · cases h
        rfl
    · cases h
      rfl
  · exact .inr (kind_of_mem_synonymShadows h)

/-- Only events have synonyms. -/
theorem synonymFindings_entity (e : Entity) : r.synonymFindings (.entity e) = [] := rfl

/-- **A review looks at synonyms, required fields and references**, in this order, whatever the
record is. -/
theorem review_eq (record : Record) : r.review record = r.synonymFindings record ++
    missingFields record.requiredFields ++ record.linkedTexts.flatMap r.danglingReferences := by
  cases record with
  | event e => rfl
  | entity e =>
    rw [synonymFindings_entity, List.nil_append]
    exact congrArg (_ ++ ·) (List.flatMap_singleton _ _).symm

theorem kind_of_mem_flatMap_danglingReferences {texts : List String}
    (h : x ∈ texts.flatMap r.danglingReferences) : x.kind = .danglingReference := by
  obtain ⟨text, -, h⟩ := List.mem_flatMap.1 h
  exact kind_of_mem_danglingReferences h

theorem kind_of_mem_review (h : x ∈ r.review record) : x.kind ∈ IssueKind.ofReviews := by
  rw [review_eq, List.mem_append, List.mem_append] at h
  rcases h with (h | h) | h
  · rcases kind_of_mem_synonymFindings h with h | h <;> simp [h, IssueKind.ofReviews]
  · rw [kind_of_mem_missingFields h]
    decide
  · rw [kind_of_mem_flatMap_danglingReferences h]
    decide

/-- What a review finds of one kind. -/
def findingsOf (r : Registry .complete) (k : IssueKind) (record : Record) : List Finding :=
  (r.review record).filter (·.kind == k)

theorem filter_kind {l : List Finding} {k : IssueKind} (h : ∀ x ∈ l, x.kind = k) (j : IssueKind) :
    l.filter (·.kind == j) = if j = k then l else [] := by
  split
  · rename_i hj
    exact List.filter_eq_self.2 fun x hx => beq_iff_eq.2 ((h x hx).trans hj.symm)
  · rename_i hj
    exact List.filter_eq_nil_iff.2 fun x hx hk => hj ((beq_iff_eq.1 hk).symm.trans (h x hx))

/-- **Each of the three parts of a review has its own kinds of findings.** -/
theorem findingsOf_eq (k : IssueKind) (record : Record) : r.findingsOf k record =
    (r.synonymFindings record).filter (·.kind == k) ++
      (if k = .missingRequiredField then missingFields record.requiredFields else []) ++
      if k = .danglingReference then record.linkedTexts.flatMap r.danglingReferences else [] := by
  rw [findingsOf, review_eq, List.filter_append, List.filter_append,
    filter_kind fun _ => kind_of_mem_missingFields,
    filter_kind fun _ => kind_of_mem_flatMap_danglingReferences]

theorem filter_synonymFindings_eq_nil {k : IssueKind} (hc : k ≠ .synonymConflict)
    (hs : k ≠ .synonymShadow) : (r.synonymFindings record).filter (·.kind == k) = [] := by
  refine List.filter_eq_nil_iff.2 fun x hx hk => ?_
  obtain rfl := beq_iff_eq.1 hk
  exact (kind_of_mem_synonymFindings hx).elim hc hs

theorem findingsOf_missingRequiredField (record : Record) :
    r.findingsOf .missingRequiredField record = missingFields record.requiredFields := by
  rw [findingsOf_eq, filter_synonymFindings_eq_nil (by decide) (by decide)]
  simp

theorem findingsOf_danglingReference (record : Record) :
    r.findingsOf .danglingReference record = record.linkedTexts.flatMap r.danglingReferences := by
  rw [findingsOf_eq, filter_synonymFindings_eq_nil (by decide) (by decide)]
  simp

/-! ## Reviews that find nothing -/

/-- A reference leads to a record. -/
def Resolves (r : Registry .complete) (ref : Reference) : Prop :=
  ∃ raw category name c, ref = .link raw category name ∧ Category.read category = .ok c ∧
    ∃ o ∈ r.entries, o.category = c ∧ Unicode.lowercase name ∈ o.names

theorem danglingReason?_of_error {raw category name : String} {e : UnknownCategory}
    (hc : Category.read category = .error e) :
    r.danglingReason? (.link raw category name) = some .unknownCategory := by
  unfold danglingReason?
  simp only [hc]

theorem danglingReason?_of_ok {raw category name : String} {c : Category}
    (hc : Category.read category = .ok c) : r.danglingReason? (.link raw category name) =
      if r.contains c name then none else some .unresolved := by
  unfold danglingReason?
  simp only [hc]

namespace Coherent

theorem lookup_eq_none_iff (h : r.Coherent) {c : Category} {s : String} :
    r.lookup c s = none ↔ ∀ o ∈ r.entries, o.category = c → Unicode.lowercase s ∉ o.names := by
  simp only [Option.eq_none_iff_forall_ne_some, ne_eq, h.lookup_iff, not_and]

theorem contains_iff (h : r.Coherent) {c : Category} {name : String} :
    r.contains c name = true ↔
      ∃ o ∈ r.entries, o.category = c ∧ Unicode.lowercase name ∈ o.names := by
  rw [contains, Option.isSome_iff_exists]
  simp only [h.lookup_iff]

theorem danglingReason?_eq_none_iff (h : r.Coherent) {ref : Reference} :
    r.danglingReason? ref = none ↔ r.Resolves ref := by
  cases ref with
  | link raw category name =>
    cases hc : Category.read category with
    | error e =>
      rw [danglingReason?_of_error hc]
      simp only [reduceCtorEq, false_iff]
      rintro ⟨_, _, _, c, heq, hc', -⟩
      cases heq
      rw [hc] at hc'
      cases hc'
    | ok c =>
      rw [danglingReason?_of_ok hc]
      simp only [ite_eq_left_iff, reduceCtorEq, imp_false, not_not, h.contains_iff]
      constructor
      · exact fun ho => ⟨raw, category, name, c, rfl, hc, ho⟩
      · rintro ⟨_, _, _, c', heq, hc', ho⟩
        cases heq
        rw [hc, Except.ok.injEq] at hc'
        exact hc' ▸ ho
  | incomplete raw =>
    unfold danglingReason?
    simp [Resolves]
  | unterminated raw =>
    unfold danglingReason?
    simp [Resolves]

theorem danglingReferences_eq_nil_iff (h : r.Coherent) {text : String} :
    r.danglingReferences text = [] ↔ ∀ ref ∈ Reference.scan text, r.Resolves ref := by
  rw [danglingReferences, List.filterMap_eq_nil_iff]
  refine forall₂_congr fun ref _ => ?_
  rw [Option.map_eq_none_iff, h.danglingReason?_eq_none_iff]

/-- **A synonym of a listed record leads back to it.** -/
theorem synonymConflict?_eq_none (h : r.Coherent) {e : Entry} (he : e ∈ r.entries) {s : String}
    (hs : s ∈ e.names) : r.synonymConflict? e.category e.record.mainName s = none := by
  have hl : r.lookup e.category s = some e :=
    h.lookup_iff.2 ⟨he, rfl, (Record.lowercase_of_mem_names hs).symm ▸ hs⟩
  simp [synonymConflict?, hl]

theorem synonymShadows_eq_nil_iff (h : r.Coherent) {c : Category} {s : String}
    (hs : Unicode.lowercase s = s) :
    r.synonymShadows c s = [] ↔ ∀ o ∈ r.entries, o.category ≠ c → s ∉ o.names := by
  rw [synonymShadows, List.filterMap_eq_nil_iff]
  simp only [Option.map_eq_none_iff, h.lookup_eq_none_iff, hs]
  constructor
  · intro hnone o ho hoc
    refine hnone o.category ?_ o ho rfl
    simpa [Category.mem_all] using hoc
  · rintro hfree c' hc' o ho rfl
    exact hfree o ho (by simpa using (List.mem_filter.1 hc').2)

/-- **Only names elsewhere are found wrong with the synonyms of a listed record.** -/
theorem synonymFindings_eq (h : r.Coherent) {e : Entry} (he : e ∈ r.entries) :
    r.synonymFindings e.record = (e.record.synonyms.filter (· != e.record.mainName)).flatMap
      (r.synonymShadows e.category) := by
  refine List.flatMap_congr fun s hs => ?_
  have hmem : s ∈ e.names := by
    rw [Entry.names, Record.names_eq]
    exact List.mem_cons_of_mem _ (List.mem_filter.1 hs).1
  have hconflict : r.synonymConflict? e.record.category e.record.mainName s = none :=
    h.synonymConflict?_eq_none he hmem
  rw [hconflict, Option.toList_none, List.nil_append]
  rfl

/-- Nothing is wrong with the synonyms of a listed record exactly if no name of it but the main one
is a name in another category. -/
theorem synonymFindings_eq_nil_iff (h : r.Coherent) {e : Entry} (he : e ∈ r.entries) :
    r.synonymFindings e.record = [] ↔ ∀ s ∈ e.names, s ≠ e.record.mainName →
      ∀ o ∈ r.entries, o.category ≠ e.category → s ∉ o.names := by
  have hnames : ∀ s, s ∈ e.names ↔ s = e.record.mainName ∨ s ∈ e.record.synonyms := fun s => by
    rw [Entry.names, Record.names_eq, List.mem_cons]
  rw [h.synonymFindings_eq he, List.flatMap_eq_nil_iff]
  simp only [List.mem_filter, bne_iff_ne, and_imp]
  constructor
  · intro hnil s hs hne
    have hsyn := ((hnames s).1 hs).resolve_left hne
    exact (h.synonymShadows_eq_nil_iff (Record.lowercase_of_mem_names hs)).1 (hnil s hsyn hne)
  · intro hfree s hsyn hne
    have hs := (hnames s).2 (.inr hsyn)
    exact (h.synonymShadows_eq_nil_iff (Record.lowercase_of_mem_names hs)).2 (hfree s hs hne)

/-- **A review finds nothing** exactly if the required fields are there, all references lead to
records, and no synonym is a name in another category. -/
theorem review_eq_nil_iff (h : r.Coherent) {e : Entry} (he : e ∈ r.entries) :
    r.review e.record = [] ↔ e.record.HasRequired ∧
      (∀ text ∈ e.record.linkedTexts, ∀ ref ∈ Reference.scan text, r.Resolves ref) ∧
      ∀ s ∈ e.names, s ≠ e.record.mainName →
        ∀ o ∈ r.entries, o.category ≠ e.category → s ∉ o.names := by
  rw [review_eq, List.append_eq_nil_iff, List.append_eq_nil_iff, h.synonymFindings_eq_nil_iff he,
    missingFields_requiredFields_eq_nil_iff, List.flatMap_eq_nil_iff]
  simp only [h.danglingReferences_eq_nil_iff]
  constructor
  · rintro ⟨⟨hsyn, hreq⟩, hrefs⟩
    exact ⟨hreq, hrefs, hsyn⟩
  · rintro ⟨hreq, hrefs, hsyn⟩
    exact ⟨⟨hsyn, hreq⟩, hrefs⟩

end Coherent

end Registry

end DocLint

import DocLint.Proofs.Reference
import DocLint.Proofs.Review

/-!
# Texts with references written in them

A reference is written as a sign, a category and a name with white space between them
(`WrittenLink`). A text of such references has gaps around them in which the sign may stand too, if
what follows it there keeps it from opening a reference (`Gap`). The scanner takes such a text
(`LinkedText`) apart as it was put together (`LinkedText.scan_text`), so checking it against a
registry reports exactly those references that lead to none of the registered records
(`Registry.noteReferences_text`).
-/

namespace DocLint

/-- A reference as it is written: the sign, white space, a category, white space, a trimmed name,
and perhaps white space in front of the closing bracket. -/
structure WrittenLink where
  left : List Char
  category : String
  middle : List Char
  name : String
  right : List Char
  left_ne : left ≠ []
  left_space : ∀ c ∈ left, Text.isSpace c = true
  category_ne : category ≠ ""
  category_word : ∀ c ∈ category.toList, Text.isSpace c = false ∧ c ≠ '>'
  middle_ne : middle ≠ []
  middle_space : ∀ c ∈ middle, Text.isSpace c = true
  name_ne : name ≠ ""
  name_trimmed : Text.trim name = name
  name_open : '>' ∉ name.toList
  right_space : ∀ c ∈ right, Text.isSpace c = true

/-- A text in which, wherever the sign of references stands, a character follows that is neither
white space nor a closing bracket. -/
structure Gap where
  chars : List Char
  guarded : ∀ i < chars.length, Reference.sign <+: chars.drop i →
    (chars.drop (i + Reference.sign.length)).head?.any (fun c => !Text.isSpace c && c != '>') = true

/-- References with gaps around them. -/
structure LinkedText where
  first : Gap
  items : List (WrittenLink × Gap)

namespace WrittenLink

/-- What stands between the sign and the closing bracket. -/
def body (w : WrittenLink) : List Char :=
  w.left ++ w.category.toList ++ w.middle ++ w.name.toList ++ w.right

/-- The text of a reference. -/
def text (w : WrittenLink) : String := String.ofList (Reference.sign ++ w.body ++ ['>'])

/-- What the reference refers to. -/
def reference (w : WrittenLink) : Reference := .link w.text w.category w.name

/-- What is wrong with a reference by a list of records, if anything: its category does not exist,
or there is no record of that category with the name in lower case. -/
def fault? (w : WrittenLink) (entries : List Entry) : Option DanglingReason :=
  match Category.read w.category with
  | .error _ => some .unknownCategory
  | .ok c =>
    if ∃ e ∈ entries, e.category = c ∧ Unicode.lowercase w.name ∈ e.names then none
    else some .unresolved

/-! ## One reference -/

theorem category_toList_ne (w : WrittenLink) : w.category.toList ≠ [] :=
  mt String.toList_eq_nil_iff.1 w.category_ne

theorem name_toList_ne (w : WrittenLink) : w.name.toList ≠ [] :=
  mt String.toList_eq_nil_iff.1 w.name_ne

/-- White space is no bracket. -/
theorem bracket_not_mem_of_isSpace {s : List Char} (h : ∀ c ∈ s, Text.isSpace c = true) :
    '>' ∉ s := fun hs => absurd (h _ hs) (by decide)

theorem bracket_not_mem_body (w : WrittenLink) : '>' ∉ w.body := by
  have hcategory : '>' ∉ w.category.toList := fun h => (w.category_word _ h).2 rfl
  simp only [body, List.mem_append, not_or]
  exact ⟨⟨⟨⟨bracket_not_mem_of_isSpace w.left_space, hcategory⟩,
    bracket_not_mem_of_isSpace w.middle_space⟩, w.name_open⟩,
    bracket_not_mem_of_isSpace w.right_space⟩

/-- Without the white space at the ends, the category comes first and the name last. -/
theorem trimChars_body (w : WrittenLink) :
    Text.trimChars w.body = w.category.toList ++ w.middle ++ w.name.toList := by
  have htrimmed : Text.trimChars (w.category.toList ++ w.middle ++ w.name.toList) =
      w.category.toList ++ w.middle ++ w.name.toList := by
    rw [Text.trimChars_eq_self_iff]
    constructor
    · intro c hc
      rw [List.append_assoc, List.head?_append_of_ne_nil _ w.category_toList_ne] at hc
      exact (w.category_word c (List.mem_of_mem_head? hc)).1
    · intro c hc
      rw [List.getLast?_append_of_ne_nil _ w.name_toList_ne] at hc
      exact (Text.trimChars_eq_self_iff.1 (Text.trimChars_of_trim w.name_trimmed)).2 c hc
  have hbody : w.body = w.left ++ (w.category.toList ++ w.middle ++ w.name.toList) ++ w.right := by
    simp only [body, List.append_assoc]
  rw [hbody, Text.trimChars_around w.left_space w.right_space, htrimmed]

/-- A written reference fits the grammar, whatever comes behind it. -/
theorem fits (w : WrittenLink) (rest : List Char) : w.reference.Fits rest := by
  obtain ⟨space, spaces, hmiddle⟩ := List.exists_cons_of_ne_nil w.middle_ne
  have hspace : ∀ c ∈ space :: spaces, Text.isSpace c = true := hmiddle ▸ w.middle_space
  have hsplit : Text.trimChars w.body =
      w.category.toList ++ space :: (spaces ++ w.name.toList) := by
    rw [trimChars_body, hmiddle, List.append_assoc, List.cons_append]
  have hname : Text.trimChars (spaces ++ w.name.toList) = w.name.toList := by
    have hblank : ∀ c ∈ ([] : List Char), Text.isSpace c = true := List.forall_mem_nil _
    have haround := Text.trimChars_around (List.forall_mem_cons.1 hspace).2 hblank w.name.toList
    rwa [List.append_nil, Text.trimChars_of_trim w.name_trimmed] at haround
  have hfits := @Reference.Fits.link w.body _ _ rest space w.bracket_not_mem_body hsplit
    (hspace space List.mem_cons_self) (fun c hc => (w.category_word c hc).1)
    w.category_toList_ne (by rw [hname]; exact w.name_toList_ne)
  rwa [hname, String.ofList_toList, String.ofList_toList] at hfits

/-- A reference opens where one is written. -/
theorem opens (w : WrittenLink) (rest : List Char) :
    Reference.Opens (w.text.toList ++ rest) := by
  obtain ⟨space, spaces, hleft⟩ := List.exists_cons_of_ne_nil w.left_ne
  refine ⟨w.body ++ '>' :: rest, ?_, fun c hc => .inr ?_⟩
  · rw [text, String.toList_ofList, List.append_assoc, List.append_assoc, List.singleton_append]
  · rw [body, hleft] at hc
    obtain rfl : space = c := Option.some.inj hc
    exact w.left_space space (hleft ▸ List.mem_cons_self)

end WrittenLink

/-! ## Gaps -/

/-- The sign starts with an opening bracket and has no other one. -/
theorem eq_nil_of_sign {front back : List Char}
    (h : Reference.sign = front ++ '<' :: back) : front = [] := by
  cases front with
  | nil => rfl
  | cons c front =>
    have hmem : '<' ∈ Reference.sign.tail := by
      rw [h, List.cons_append, List.tail_cons]
      exact List.mem_append_right _ List.mem_cons_self
    exact absurd hmem (by decide)

/-- **No reference opens in a gap**, neither at the end of the text nor in front of another one. -/
theorem Gap.isClear (g : Gap) {rest : List Char} (hrest : ∀ c ∈ rest.head?, c = '<') :
    Reference.Division.IsClear g.chars rest := by
  rintro i hi ⟨after, hsign, hopens⟩
  -- the character behind a sign in the gap keeps it from opening
  have hguard : ∀ t, g.chars.drop i = Reference.sign ++ t → after = t ++ rest → False := by
    intro t ht hafter
    have hnext := g.guarded i hi ⟨t, ht.symm⟩
    rw [← List.drop_drop, ht, List.drop_left] at hnext
    cases t with
    | nil => cases hnext
    | cons c t =>
      have hc : Text.isSpace c = false ∧ c ≠ '>' := by simpa using hnext
      rcases hopens c (hafter ▸ rfl) with h | h
      · exact hc.2 h
      · rw [hc.1] at h
        cases h
  rw [List.drop_append_of_le_length (Nat.le_of_lt hi)] at hsign
  rcases List.append_eq_append_iff.1 hsign with ⟨t, ht, hback⟩ | ⟨t, ht, hafter⟩
  · cases t with
    | nil =>
      exact hguard [] (by rw [ht, List.append_nil, List.append_nil]) (by simpa using hback.symm)
    | cons c t =>
      -- the sign would go on behind the gap with its first character
      obtain rfl : c = '<' := hrest c (hback ▸ rfl)
      have hnil := eq_nil_of_sign ht
      rw [List.drop_eq_nil_iff] at hnil
      omega
  · exact hguard t ht hafter

namespace LinkedText

/-- The text with all that is in it. -/
def chars (t : LinkedText) : List Char :=
  t.first.chars ++ t.items.flatMap fun p => p.1.text.toList ++ p.2.chars

def text (t : LinkedText) : String := String.ofList t.chars

/-- The references that are written in a text, in order. -/
def links (t : LinkedText) : List WrittenLink := t.items.map Prod.fst

/-- A text divided as it was put together. -/
def division (t : LinkedText) : Reference.Division :=
  ⟨t.first.chars, t.items.map fun p => (p.1.reference, p.2.chars)⟩

theorem text_division (t : LinkedText) : t.division.text = t.chars := by
  rw [Reference.Division.text, Reference.Division.join, division, List.flatMap_map]
  rfl

/-- What comes behind a gap is nothing or a reference. -/
theorem head?_join (items : List (WrittenLink × Gap)) :
    ∀ c ∈ (Reference.Division.join (items.map fun p => (p.1.reference, p.2.chars))).head?,
      c = '<' := by
  intro c hc
  cases items with
  | nil => cases hc
  | cons p items =>
    have hstart : (p.1.text.toList).head? = some '<' := by
      rw [WrittenLink.text, String.toList_ofList]
      rfl
    rw [List.map_cons, Reference.Division.join_cons, List.head?_append, WrittenLink.reference,
      Reference.raw, hstart, Option.some_or] at hc
    exact (Option.some.inj hc).symm

theorem exact_division (t : LinkedText) : t.division.Exact := by
  obtain ⟨first, items⟩ := t
  induction items generalizing first with
  | nil => exact Reference.Division.exact_nil.2 (first.isClear (head?_join []))
  | cons p items ih =>
    obtain ⟨w, gap⟩ := p
    have hfirst := first.isClear (head?_join ((w, gap) :: items))
    rw [List.map_cons, Reference.Division.join_cons] at hfirst
    have hgap := gap.isClear (head?_join items)
    exact Reference.Division.exact_cons.2 ⟨hfirst, ⟨w.opens _, w.fits _, hgap⟩, ih gap⟩

/-- **The references of a text are those that are written in it.** -/
theorem scan_text (t : LinkedText) : Reference.scan t.text = t.links.map WrittenLink.reference := by
  rw [Reference.scan, text, String.toList_ofList, ← text_division, t.exact_division.scanChars_text]
  simp only [Reference.Division.references, division, links, List.map_map]
  rfl

end LinkedText

namespace Registry

variable {r : Registry .complete}

theorem noteReferences_eq (r : Registry .complete) (record text : String)
    (log : List (String × Finding)) : r.noteReferences record text log =
      log ++ (r.danglingReferences text).map (record, ·) := by
  unfold noteReferences danglingReferences
  generalize Reference.scan text = refs
  induction refs generalizing log with
  | nil => rw [List.foldl_nil, List.filterMap_nil, List.map_nil, List.append_nil]
  | cons ref refs ih =>
    rw [List.foldl_cons, ih, List.filterMap_cons]
    cases r.danglingReason? ref with
    | none => rfl
    | some reason => rw [List.append_assoc]; rfl

/-- In a coherent registry, the list of records tells what is wrong with a reference. -/
theorem Coherent.danglingReason?_reference (h : r.Coherent) (w : WrittenLink) :
    r.danglingReason? w.reference = w.fault? r.entries := by
  unfold WrittenLink.fault? WrittenLink.reference
  cases hc : Category.read w.category with
  | error e => exact danglingReason?_of_error hc
  | ok c =>
    rw [danglingReason?_of_ok hc]
    exact if_congr h.contains_iff rfl rfl

/-- **Exactly the references that lead to no record are reported.** -/
theorem noteReferences_text (records : Nat → Record) (calls : List Nat) (record : String)
    (log : List (String × Finding)) (t : LinkedText) :
    (offerAll records calls).complete.noteReferences record t.text log =
      log ++ t.links.filterMap fun w =>
        (w.fault? (offerAll records calls).entries).map fun reason =>
          (record, .danglingReference reason w.text t.text) := by
  have hcoherent := (coherent_offerAll records calls).1.complete
  rw [noteReferences_eq, danglingReferences, LinkedText.scan_text, List.map_filterMap,
    List.filterMap_map]
  refine congrArg (log ++ ·) (List.filterMap_congr fun w _ => ?_)
  rw [Function.comp_apply, hcoherent.danglingReason?_reference, Option.map_map]
  rfl

/-- A sign that goes on to a longer word is a part of a gap. -/
def seeItem : LinkedText where
  first := ⟨"see <@linked ".toList, by decide⟩
  items :=
    [({ left := [' '], category := "Type", middle := [' ', '\t'], name := "the Item", right := [' ']
        left_ne := by decide, left_space := List.all_eq_true.1 rfl, category_ne := by decide
        category_word := by simp [Text.isSpace], middle_ne := by decide
        middle_space := List.all_eq_true.1 rfl, name_ne := by decide, name_trimmed := by decide
        name_open := by decide, right_space := List.all_eq_true.1 rfl },
      ⟨['.'], by decide⟩)]

example : seeItem.text = "see <@linked <@link Type \tthe Item >." ∧
    empty.complete.noteReferences "x" seeItem.text [] =
      [("x", .danglingReference .unresolved "<@link Type \tthe Item >" seeItem.text)] := by
  decide +kernel

end Registry

end DocLint

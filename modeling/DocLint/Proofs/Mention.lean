import DocLint.Proofs.Building
import DocLint.Proofs.LinkedText

/-!
# Referring to registered names

A name of a record is mentioned by the text of a reference to it (`Category.mention`). The scanner
ends such a text at its first closing bracket, and it trims the names of references; a name of a
record may have closing brackets in it and, if it is one of an event, white space at its ends. So a
mention leads to records only under a condition (`Registry.LeadsOn`), which every name meets that
references can have at all (`Reference.IsNameable`); other names are in no reference of any text
(`Registry.mentions_offerAll`). Lowercasing does not matter to this, because it makes neither white
space nor brackets.
-/

namespace DocLint

namespace Unicode

/-! ## Lower case where references end names -/

/-- Whether a character is white space or the closing bracket of references. -/
def endsName (c : Char) : Bool := Text.isSpace c || c == '>'

/-- The code points of these characters, each stretch with its first and its last one. -/
def Table.nameEnds : List (Nat × Nat) :=
  [(0x9, 0xD), (0x20, 0x20), (0x3E, 0x3E), (0x85, 0x85), (0xA0, 0xA0), (0x1680, 0x1680),
   (0x2000, 0x200A), (0x2028, 0x2029), (0x202F, 0x202F), (0x205F, 0x205F), (0x3000, 0x3000)]

theorem exists_nameEnds {c : Char} (h : endsName c = true) :
    ∃ p ∈ Table.nameEnds, p.1 ≤ c.toNat ∧ c.toNat ≤ p.2 := by
  rw [endsName, Bool.or_eq_true, beq_iff_eq] at h
  rcases h with h | rfl
  · simp only [Text.isSpace, Bool.or_eq_true, Bool.and_eq_true, decide_eq_true_eq, beq_iff_eq] at h
    simp only [Table.nameEnds, List.exists_mem_cons_iff, List.not_mem_nil, false_and, exists_false,
      or_false]
    omega
  · exact ⟨(0x3E, 0x3E), by decide, le_rfl, le_rfl⟩

/-- No image of the table is one of them. -/
theorem Table.nameEnds_lowercase : Table.lowercase.all (fun r => Table.nameEnds.all fun p =>
    Nat.blt p.2 r.2.2.2 || Nat.blt (r.2.2.2 + (r.2.1 - r.1)) p.1) = true := by decide +kernel

/-- A character is none of them if its code point is apart from all of them. -/
theorem endsName_ofNat {n : Nat} (h : ∀ p ∈ Table.nameEnds, p.2 < n ∨ n < p.1) :
    endsName (Char.ofNat n) = false := by
  rw [← Bool.not_eq_true]
  intro hends
  obtain ⟨p, hp, hfirst, hlast⟩ := exists_nameEnds hends
  have hpositive : 0 < p.1 := (by decide : ∀ p ∈ Table.nameEnds, 0 < p.1) p hp
  have hn := h p hp
  rw [Char.toNat_ofNat] at hfirst hlast
  split at hfirst
  · rename_i hvalid
    rw [if_pos hvalid] at hlast
    omega
  · omega

theorem endsName_ofNat_image {c : Char} {n : Nat} (h : Table.lowercase.image? c.toNat = some n) :
    endsName (Char.ofNat n) = false := by
  obtain ⟨r, hr, hn, rfl⟩ := RunMap.image?_eq_some h
  refine endsName_ofNat fun p hp => ?_
  have hapart := List.all_eq_true.1 (List.all_eq_true.1 Table.nameEnds_lowercase r hr) p hp
  simp only [inRun, Bool.and_eq_true, decide_eq_true_eq] at hn
  rw [Bool.or_eq_true, Nat.blt_eq, Nat.blt_eq] at hapart
  omega

/-- The small letter for a capital letter of ASCII is none of them. -/
theorem endsName_toLower {c : Char} (h : c.isUpper = true) : endsName c.toLower = false := by
  rw [Char.toLower_eq_of_isUpper h]
  refine endsName_ofNat fun p hp => ?_
  have hletters : ∀ p ∈ Table.nameEnds, p.2 < 97 ∨ 122 < p.1 := by decide
  have hapart := hletters p hp
  have hfirst : 'A'.toNat = 65 := rfl
  have hlast : 'Z'.toNat = 90 := rfl
  simp only [Char.isUpper, decide_eq_true_eq, UInt32.le_iff_toNat_le, Char.toNat_val] at h
  omega

theorem lowerChar_eq_of_endsName {c : Char} (h : endsName (lowerChar c) = true) :
    lowerChar c = c := by
  unfold lowerChar at h ⊢
  split at h
  · rename_i hc
    rw [if_pos hc]
    by_cases hupper : c.isUpper
    · rw [endsName_toLower hupper] at h
      cases h
    · exact Char.toLower_eq_of_not_isUpper hupper
  · rename_i hc
    rw [if_neg hc]
    cases himage : Table.lowercase.image? c.toNat with
    | none => rfl
    | some n =>
      rw [himage] at h
      rw [endsName_ofNat_image himage] at h
      cases h

/-- Only such a character becomes one when it is lowercased, and it stays as it is. -/
theorem eq_of_mem_lowerBetween {before after : List Char} {c d : Char}
    (h : d ∈ lowerBetween before c after) (hd : endsName d = true) : d = c := by
  unfold lowerBetween at h
  split at h
  · split at h
    all_goals
      rw [List.mem_singleton.1 h] at hd
      exact absurd hd (by decide)
  · split at h
    · simp only [List.mem_cons, List.not_mem_nil, or_false] at h
      rcases h with rfl | rfl
      all_goals exact absurd hd (by decide)
    · rw [List.mem_singleton.1 h] at hd ⊢
      exact lowerChar_eq_of_endsName hd

theorem lowerBetween_ne_nil (before : List Char) (c : Char) (after : List Char) :
    lowerBetween before c after ≠ [] := by
  unfold lowerBetween
  split
  · exact List.cons_ne_nil _ _
  · split <;> exact List.cons_ne_nil _ _

theorem mem_of_mem_lowercaseAfter {before s : List Char} {d : Char}
    (h : d ∈ lowercaseAfter before s) (hd : endsName d = true) : d ∈ s := by
  induction s generalizing before with
  | nil => cases h
  | cons c rest ih =>
    rcases List.mem_append.1 h with h | h
    · rw [eq_of_mem_lowerBetween h hd]
      exact List.mem_cons_self
    · exact List.mem_cons_of_mem c (ih h)

theorem head?_of_lowercaseAfter {before s : List Char} {d : Char}
    (h : d ∈ (lowercaseAfter before s).head?) (hd : endsName d = true) : d ∈ s.head? := by
  cases s with
  | nil => cases h
  | cons c rest =>
    rw [lowercaseAfter, List.head?_append_of_ne_nil _ (lowerBetween_ne_nil before c rest)] at h
    rw [eq_of_mem_lowerBetween (List.mem_of_mem_head? h) hd]
    rfl

theorem getLast?_of_lowercaseAfter {before s : List Char} {d : Char}
    (h : d ∈ (lowercaseAfter before s).getLast?) (hd : endsName d = true) : d ∈ s.getLast? := by
  induction s generalizing before with
  | nil => cases h
  | cons c rest ih =>
    cases rest with
    | nil =>
      rw [lowercaseAfter, lowercaseAfter, List.append_nil] at h
      rw [eq_of_mem_lowerBetween (List.mem_of_mem_getLast? h) hd]
      rfl
    | cons c' rest =>
      have hne : lowercaseAfter (c :: before) (c' :: rest) ≠ [] := by
        rw [lowercaseAfter]
        exact List.append_ne_nil_of_left_ne_nil (lowerBetween_ne_nil _ _ _) _
      rw [lowercaseAfter, List.getLast?_append_of_ne_nil _ hne] at h
      rw [List.getLast?_cons_cons]
      exact ih h

end Unicode

namespace Reference

/-! ## Names that references can have -/

/-- Whether a reference can have a name: it is trimmed and there is no closing bracket in it. -/
def IsNameable (name : String) : Prop := Text.trim name = name ∧ '>' ∉ name.toList

instance (name : String) : Decidable (IsNameable name) := inferInstanceAs (Decidable (_ ∧ _))

/-- Lowercasing keeps a name as one that references can have. -/
theorem IsNameable.lowercase {name : String} (h : IsNameable name) :
    IsNameable (Unicode.lowercase name) := by
  obtain ⟨htrim, hbracket⟩ := h
  have hends := Text.trimChars_eq_self_iff.1 (Text.trimChars_of_trim htrim)
  have hspace : ∀ c, Text.isSpace c = true → Unicode.endsName c = true := fun c hc => by
    rw [Unicode.endsName, hc, Bool.true_or]
  have htrimmed : Text.trimChars (Unicode.lowercaseChars name.toList) =
      Unicode.lowercaseChars name.toList := by
    rw [Text.trimChars_eq_self_iff]
    constructor
    · intro c hc
      by_contra hc'
      rw [Bool.not_eq_false] at hc'
      have hfirst := hends.1 c (Unicode.head?_of_lowercaseAfter hc (hspace c hc'))
      exact Bool.false_ne_true (hfirst.symm.trans hc')
    · intro c hc
      by_contra hc'
      rw [Bool.not_eq_false] at hc'
      have hlast := hends.2 c (Unicode.getLast?_of_lowercaseAfter hc (hspace c hc'))
      exact Bool.false_ne_true (hlast.symm.trans hc')
  constructor
  · rw [Text.trim, Unicode.toList_lowercase, htrimmed]
    rfl
  · rw [Unicode.toList_lowercase]
    exact fun hc => hbracket (Unicode.mem_of_mem_lowercaseAfter hc rfl)

theorem Fits.isNameable {raw word name : String} {rest : List Char}
    (h : Fits (.link raw word name) rest) : IsNameable name := by
  cases h with
  | @link body category name rest space hbody hsplit =>
    constructor
    · rw [Text.trim, String.toList_ofList, Text.trimChars_trimChars]
    · rw [String.toList_ofList]
      intro hc
      apply hbody
      apply Text.mem_of_mem_trimChars
      rw [hsplit]
      exact List.mem_append_right _ (List.mem_cons_of_mem _ (Text.mem_of_mem_trimChars hc))

/-- The name of a reference in a text is trimmed and has no closing bracket. -/
theorem isNameable_of_mem_scan {text raw word name : String} (h : .link raw word name ∈ scan text) :
    IsNameable name := by
  obtain ⟨d, -, href, hd⟩ := Division.exists_exact text.toList
  rw [scan, ← href] at h
  obtain ⟨⟨r, gap⟩, hmem, rfl⟩ := List.mem_map.1 h
  obtain ⟨before, after, hitems⟩ := List.append_of_mem hmem
  exact (hd.stands before _ gap after hitems).fits.isNameable

end Reference

namespace Category

/-! ## Mentions -/

/-- The text that mentions a name of a category. -/
def mention (c : Category) (name : String) : String := "<@link " ++ c.name ++ " " ++ name ++ ">"

theorem read_name (c : Category) : read c.name = .ok c := by
  cases c <;> decide +kernel

theorem name_ne_empty (c : Category) : c.name ≠ "" := by
  cases c <;> decide

theorem name_word (c : Category) {ch : Char} (h : ch ∈ c.name.toList) :
    Text.isSpace ch = false ∧ ch ≠ '>' := by
  have hword : c.name.toList.all (fun ch => !Text.isSpace ch && ch != '>') = true := by
    cases c <;> decide
  simpa using List.all_eq_true.1 hword ch h

end Category

/-- The part of a name before the first closing bracket in it. -/
def beforeBracket (name : String) : String := String.ofList (name.toList.takeWhile (· != '>'))

/-- What a mention of a name has behind its first closing bracket. -/
def behindBracket (name : String) : String :=
  String.ofList ((name.toList ++ ['>']).dropWhile (· != '>')).tail

theorem append_bracket_eq (name : String) : name.toList ++ ['>'] =
    (beforeBracket name).toList ++ '>' :: (behindBracket name).toList := by
  rw [beforeBracket, behindBracket, String.toList_ofList, String.toList_ofList]
  induction name.toList with
  | nil => rfl
  | cons c cs ih =>
    by_cases hc : c = '>'
    · subst hc
      rfl
    · have hc' : (c != '>') = true := bne_iff_ne.2 hc
      rw [List.cons_append, List.takeWhile_cons, if_pos hc', List.dropWhile_cons, if_pos hc']
      exact congrArg (c :: ·) ih

theorem bracket_not_mem_beforeBracket (name : String) : '>' ∉ (beforeBracket name).toList := by
  rw [beforeBracket, String.toList_ofList]
  intro h
  exact absurd (List.mem_takeWhile_imp h) (by decide)

/-- A name without a closing bracket is mentioned up to the one that ends the mention. -/
theorem beforeBracket_of_not_mem {name : String} (h : '>' ∉ name.toList) :
    beforeBracket name = name ∧ behindBracket name = "" := by
  have hne : ∀ c ∈ name.toList, (c != '>') = true := fun c hc => by
    rw [bne_iff_ne]
    rintro rfl
    exact h hc
  constructor
  · rw [beforeBracket, List.takeWhile_eq_self_iff.2 hne, String.ofList_toList]
  · rw [behindBracket, List.dropWhile_append_of_pos hne]
    rfl

/-- What a mention of a name has between the sign and the first closing bracket. -/
def Category.mentionBody (c : Category) (name : String) : List Char :=
  [' '] ++ c.name.toList ++ [' '] ++ (beforeBracket name).toList

theorem toList_mention (c : Category) (name : String) : (c.mention name).toList =
    Reference.sign ++ c.mentionBody name ++ ['>'] ++ (behindBracket name).toList := by
  have hstart : "<@link ".toList = Reference.sign ++ [' '] := by decide
  have htext : (c.mention name).toList =
      Reference.sign ++ ([' '] ++ c.name.toList ++ [' ']) ++ (name.toList ++ ['>']) := by
    simp [Category.mention, hstart]
  rw [htext, append_bracket_eq, Category.mentionBody]
  simp only [List.append_assoc, List.cons_append, List.nil_append]

/-- A mention is scanned up to its first closing bracket, and behind that. -/
theorem scan_mention_of_fits {c : Category} {name : String} {ref : Reference}
    (hraw : ref.raw.toList = Reference.sign ++ c.mentionBody name ++ ['>'])
    (hfits : ref.Fits (behindBracket name).toList) :
    Reference.scan (c.mention name) = ref :: Reference.scan (behindBracket name) := by
  have htext : (c.mention name).toList = ref.raw.toList ++ (behindBracket name).toList := by
    rw [toList_mention, hraw]
  have hopens : Reference.Opens (c.mention name).toList := by
    refine ⟨c.mentionBody name ++ (['>'] ++ (behindBracket name).toList), ?_, fun ch hch => .inr ?_⟩
    · rw [toList_mention, List.append_assoc, List.append_assoc]
    · rw [← Option.some.inj hch]
      rfl
  have hstands : Reference.Division.Stands ref [] (behindBracket name).toList := by
    refine ⟨?_, ?_, fun i hi => absurd hi (Nat.not_lt_zero i)⟩
    · rwa [List.nil_append, ← htext]
    · rwa [List.nil_append]
  have hscan := Reference.Division.scanChars_of_stands hstands
  rw [List.nil_append] at hscan
  rw [Reference.scan, htext, hscan, Reference.scan]

theorem bracket_not_mem_mentionBody (c : Category) (name : String) :
    '>' ∉ c.mentionBody name := by
  have hspace : '>' ∉ [' '] := by decide
  simp only [Category.mentionBody, List.mem_append, not_or]
  exact ⟨⟨⟨hspace, fun h => (c.name_word h).2 rfl⟩, hspace⟩, bracket_not_mem_beforeBracket name⟩

/-- If there is nothing before the first closing bracket, a mention starts with a reference without
a name. -/
theorem scan_mention_of_isBlank (c : Category) {name : String}
    (h : Text.isBlank (beforeBracket name) = true) :
    ∃ raw, Reference.scan (c.mention name) =
      .incomplete raw :: Reference.scan (behindBracket name) := by
  have hblank : ∀ ch ∈ [' '] ++ (beforeBracket name).toList, Text.isSpace ch = true := by
    rw [Text.isBlank, List.all_eq_true] at h
    exact List.forall_mem_cons.2 ⟨rfl, h⟩
  have hbody : Text.trimChars (c.mentionBody name) = c.name.toList := by
    rw [Category.mentionBody, List.append_assoc _ [' '],
      Text.trimChars_around (List.forall_mem_singleton.2 rfl) hblank, Text.trimChars_eq_self_iff]
    exact ⟨fun ch hch => (c.name_word (List.mem_of_mem_head? hch)).1,
      fun ch hch => (c.name_word (List.mem_of_mem_getLast? hch)).1⟩
  exact ⟨_, scan_mention_of_fits String.toList_ofList
    (.incomplete (bracket_not_mem_mentionBody c name) fun ch hch => (c.name_word (hbody ▸ hch)).1)⟩

/-- If there is something, a mention starts with a reference to that. -/
theorem scan_mention_of_not_isBlank (c : Category) {name : String}
    (h : Text.isBlank (beforeBracket name) = false) :
    ∃ raw, Reference.scan (c.mention name) =
      .link raw c.name (Text.trim (beforeBracket name)) :: Reference.scan (behindBracket name) := by
  obtain ⟨left, right, hbefore, hleft, hright⟩ :=
    Text.exists_trimChars_around (beforeBracket name).toList
  have hspace : ∀ ch ∈ [' '], Text.isSpace ch = true := List.forall_mem_singleton.2 rfl
  have hbracket := bracket_not_mem_beforeBracket name
  let w : WrittenLink :=
    { left := [' '], category := c.name, middle := ' ' :: left
      name := Text.trim (beforeBracket name), right := right
      left_ne := List.cons_ne_nil _ _, left_space := hspace, category_ne := c.name_ne_empty
      category_word := fun _ => c.name_word, middle_ne := List.cons_ne_nil _ _
      middle_space := List.forall_mem_cons.2 ⟨rfl, hleft⟩
      name_ne := by
        rw [Ne, Text.trim_eq_empty_iff, h]
        exact Bool.false_ne_true
      name_trimmed := by rw [Text.trim, Text.toList_trim, Text.trimChars_trimChars, Text.trim]
      name_open := fun hmem => hbracket (Text.mem_of_mem_trimChars (Text.toList_trim _ ▸ hmem))
      right_space := hright }
  have hbody : w.body = c.mentionBody name := by
    rw [Category.mentionBody, hbefore]
    simp [WrittenLink.body, w]
  have hraw : w.reference.raw.toList = Reference.sign ++ c.mentionBody name ++ ['>'] := by
    rw [← hbody]
    exact String.toList_ofList
  exact ⟨w.text, scan_mention_of_fits hraw (w.fits _)⟩

namespace Registry

variable {r : Registry .complete}

theorem resolves_link_iff {raw word name : String} {c : Category}
    (hc : Category.read word = .ok c) : r.Resolves (.link raw word name) ↔
      ∃ o ∈ r.entries, o.category = c ∧ Unicode.lowercase name ∈ o.names := by
  constructor
  · rintro ⟨_, _, _, c', heq, hc', ho⟩
    cases heq
    rw [hc, Except.ok.injEq] at hc'
    exact hc' ▸ ho
  · exact fun ho => ⟨raw, word, name, c, rfl, hc, ho⟩

theorem not_resolves_incomplete (raw : String) : ¬r.Resolves (.incomplete raw) := by
  rintro ⟨_, _, _, _, heq, -⟩
  cases heq

/-- A mention leads on as far as the registered names and the text of the mention let it: what
stands before its first closing bracket must be a name, and the references behind must lead to
records. -/
structure LeadsOn (r : Registry .complete) (c : Category) (name : String) : Prop where
  named : Text.isBlank (beforeBracket name) = false
  found : ∃ o ∈ r.entries, o.category = c ∧
    Unicode.lowercase (Text.trim (beforeBracket name)) ∈ o.names
  behind : ∀ ref ∈ Reference.scan (behindBracket name), r.Resolves ref

/-- **When nothing is wrong with a mention of a name.** -/
theorem Coherent.danglingReferences_mention_eq_nil_iff (h : r.Coherent) {c : Category}
    {name : String} : r.danglingReferences (c.mention name) = [] ↔ r.LeadsOn c name := by
  rw [h.danglingReferences_eq_nil_iff]
  cases hblank : Text.isBlank (beforeBracket name) with
  | true =>
    obtain ⟨raw, hscan⟩ := scan_mention_of_isBlank c hblank
    rw [hscan, List.forall_mem_cons]
    constructor
    · exact fun hall => absurd hall.1 (not_resolves_incomplete raw)
    · intro hleads
      rw [hleads.named] at hblank
      cases hblank
  | false =>
    obtain ⟨raw, hscan⟩ := scan_mention_of_not_isBlank c hblank
    rw [hscan, List.forall_mem_cons, resolves_link_iff c.read_name]
    exact ⟨fun hall => ⟨hblank, hall.1, hall.2⟩, fun hleads => ⟨hleads.found, hleads.behind⟩⟩

/-- A name that a reference can have is found by its mention. -/
theorem leadsOn_of_isNameable {e : Entry} (he : e ∈ r.entries) {n : String} (hn : n ∈ e.names)
    (hblank : Text.isBlank n = false) (h : Reference.IsNameable n) : r.LeadsOn e.category n := by
  obtain ⟨htrim, hbracket⟩ := h
  obtain ⟨hbefore, hbehind⟩ := beforeBracket_of_not_mem hbracket
  have hlower : Unicode.lowercase n = n := Record.lowercase_of_mem_names hn
  refine ⟨hbefore.symm ▸ hblank, ⟨e, he, rfl, ?_⟩, ?_⟩
  · rwa [hbefore, htrim, hlower]
  · rw [hbehind, Reference.scan]
    simp [Reference.scanChars]

/-- **Which registered names can be referenced.** Nothing is wrong with the mention of a name if
what stands before its first closing bracket is a name of the category, and what stands behind
refers to records. If the name is trimmed and has no closing bracket, this is so; if not, no
reference in any text has the name. -/
theorem mentions_offerAll (records : Nat → Record) (calls : List Nat) {e : Entry}
    (he : e ∈ (offerAll records calls).entries) {n : String} (hn : n ∈ e.names)
    (hblank : Text.isBlank n = false) :
    ((offerAll records calls).complete.danglingReferences (e.category.mention n) = [] ↔
      (offerAll records calls).complete.LeadsOn e.category n) ∧
    (Reference.IsNameable n → (offerAll records calls).complete.LeadsOn e.category n) ∧
    (Reference.IsNameable n ↔ ∃ text raw word name, .link raw word name ∈ Reference.scan text ∧
      Category.read word = .ok e.category ∧ Unicode.lowercase name = n) := by
  have hcoherent := (coherent_offerAll records calls).1.complete
  have hleads := @leadsOn_of_isNameable (offerAll records calls).complete e he n hn hblank
  refine ⟨hcoherent.danglingReferences_mention_eq_nil_iff, hleads, ?_, ?_⟩
  · intro hname
    obtain ⟨hbefore, -⟩ := beforeBracket_of_not_mem hname.2
    obtain ⟨raw, hscan⟩ := scan_mention_of_not_isBlank e.category (hbefore.symm ▸ hblank)
    rw [hbefore, hname.1] at hscan
    exact ⟨_, raw, _, n, hscan ▸ List.mem_cons_self, e.category.read_name,
      Record.lowercase_of_mem_names hn⟩
  · rintro ⟨text, raw, word, name, hmem, -, rfl⟩
    exact (Reference.isNameable_of_mem_scan hmem).lowercase

/-- An event one of whose names has a closing bracket. -/
def breaksMaterial : Record := .event
  { name := "player breaks <material>", aliases := ["block breaks"], switches := []
    pattern := none, triggers := "", context := [], determinations := [], player := "", npc := ""
    cancellable := false, hasLocation := false, shared := {} }

/-- The alias is found by its mention. -/
theorem mentions_breaksMaterial :
    ⟨0, breaksMaterial⟩ ∈ (offerAll (fun _ => breaksMaterial) [0]).entries ∧
      "block breaks" ∈ breaksMaterial.names ∧ Text.isBlank "block breaks" = false ∧
      (offerAll (fun _ => breaksMaterial) [0]).complete.danglingReferences
        (Category.event.mention "block breaks") = [] := by
  have hentry : (⟨0, breaksMaterial⟩ : Entry) ∈ (offerAll (fun _ => breaksMaterial) [0]).entries :=
    List.mem_cons_self
  have hname : "block breaks" ∈ breaksMaterial.names := by decide +kernel
  have hblank : Text.isBlank "block breaks" = false := by decide
  have hmentions := mentions_offerAll (fun _ => breaksMaterial) [0] hentry hname hblank
  exact ⟨hentry, hname, hblank, hmentions.1.2 (hmentions.2.1 (by decide +kernel))⟩

/-- The name is registered, but its mention is reported. -/
theorem dangling_breaksMaterial :
    Category.event.build [("events", "player breaks <material>\nblock breaks")] =
        .ok breaksMaterial ∧
      (offerAll (fun _ => breaksMaterial) [0]).entries = [⟨0, breaksMaterial⟩] ∧
      "player breaks <material>" ∈ breaksMaterial.names ∧
      Text.isBlank "player breaks <material>" = false ∧
      (offerAll (fun _ => breaksMaterial) [0]).complete.danglingReferences
          (Category.event.mention "player breaks <material>") =
        [.danglingReference .unresolved "<@link event player breaks <material>"
          "<@link event player breaks <material>>"] :=
  ⟨rfl, rfl, by decide +kernel, by decide, by decide +kernel⟩

end Registry

end DocLint

import DocLint.Category
import DocLint.Proofs.AsciiCase
import DocLint.Proofs.Trim

/-!
# Words for categories

A text names a category if it is, white space around it aside, one of the words for that category,
up to the case of the letters of ASCII (`Category.Names`). A category is read by way of the lower
case of all letters there are, but that makes no difference: no letter outside ASCII becomes a
letter of one of the words. So a text is read as the category that it names, and as none if it names
none (`Category.readAsNamed`).
-/

namespace DocLint

/-- Whether two texts are the same up to the case of the letters of ASCII. -/
def Text.SameUpToCase (s t : String) : Prop :=
  s.toList.map Char.toLower = t.toList.map Char.toLower

namespace Category

variable {c c' : Category} {word text : String}

/-! ## Words -/

/-- The words for a category: its name, and a second word for object types and guides. -/
inductive IsWord : Category → String → Prop
  | name (c : Category) : IsWord c c.name
  | type : IsWord .objectType "type"
  | guidepage : IsWord .guide "guidepage"

theorem mem_words_iff : word ∈ c.words ↔ IsWord c word := by
  constructor
  · intro h
    rcases List.mem_cons.1 h with rfl | halias
    · exact .name c
    · cases c with
      | objectType => exact List.mem_singleton.1 halias ▸ .type
      | guide => exact List.mem_singleton.1 halias ▸ .guidepage
      | _ => cases halias
  · rintro (_ | _ | _)
    · exact List.mem_cons_self
    · decide
    · decide

/-- What is to be known of the words, checked one by one: each is found, it has no `k` in it, so
that only letters of ASCII become its letters, and it is in lower case. -/
theorem words_checked : ∀ c ∈ all, ∀ w ∈ c.words, ofWord? w = some c ∧
    w.toList.all (fun d => Unicode.IsPlain d) = true ∧
    w.toList.map Char.toLower = w.toList := by
  decide

theorem IsWord.checked (h : IsWord c word) : ofWord? word = some c ∧
    word.toList.all (fun d => Unicode.IsPlain d) = true ∧
    word.toList.map Char.toLower = word.toList :=
  words_checked c c.mem_all word (mem_words_iff.2 h)

theorem ofWord?_eq_some_iff : ofWord? word = some c ↔ IsWord c word := by
  refine ⟨fun h => ?_, fun h => h.checked.1⟩
  have hcontains := List.find?_some h
  exact mem_words_iff.1 (List.contains_iff_mem.1 hcontains)

theorem IsWord.lowercase_eq_iff (h : IsWord c word) :
    Unicode.lowercase text = word ↔ Text.SameUpToCase text word := by
  obtain ⟨-, hplain, hlower⟩ := h.checked
  rw [Unicode.lowercase_eq_iff hplain, Text.SameUpToCase, hlower]

/-! ## Texts that name a category -/

/-- A text names a category if it is a word for it, up to ASCII case and white space around it. -/
def Names (text : String) (c : Category) : Prop :=
  ∃ word, IsWord c word ∧ Text.SameUpToCase (Text.trim text) word

theorem names_iff_ofWord? :
    Names text c ↔ ofWord? (Unicode.lowercase (Text.trim text)) = some c := by
  rw [ofWord?_eq_some_iff]
  constructor
  · rintro ⟨word, hword, hsame⟩
    rwa [hword.lowercase_eq_iff.2 hsame]
  · exact fun hword => ⟨_, hword, hword.lowercase_eq_iff.1 rfl⟩

/-- No text names two categories, since no word is for two. -/
theorem Names.unique (h : Names text c) (h' : Names text c') : c = c' :=
  Option.some.inj ((names_iff_ofWord?.1 h).symm.trans (names_iff_ofWord?.1 h'))

/-- What names a category is in ASCII, white space around it aside. -/
theorem Names.isAscii_or_isSpace (h : Names text c) {d : Char} (hd : d ∈ text.toList) :
    Unicode.IsAscii d ∨ Text.isSpace d = true := by
  obtain ⟨word, hword, hsame⟩ := h
  obtain ⟨-, hplain, hlower⟩ := hword.checked
  obtain ⟨left, right, htext, hleft, hright⟩ := Text.exists_trimChars_around text.toList
  rw [htext, List.mem_append, List.mem_append] at hd
  -- only what trimming leaves is compared with the word
  rcases hd with (hd | hd) | hd
  · exact .inr (hleft d hd)
  · rw [Text.SameUpToCase, Text.toList_trim, hlower] at hsame
    have hmem : d.toLower ∈ word.toList := hsame ▸ List.mem_map_of_mem hd
    have hd' : Unicode.IsPlain d.toLower := of_decide_eq_true (List.all_eq_true.1 hplain _ hmem)
    exact .inl (Unicode.isAscii_toLower_iff.1 hd'.1)
  · exact .inr (hright d hd)

/-- How a text is read as a category. -/
structure ReadAsNamed (text : String) : Prop where
  /-- It is read as the category that it names. -/
  ok_iff : ∀ c, read text = .ok c ↔ Names text c
  /-- If it names none, it is handed back as it is. -/
  error_iff : ∀ e, read text = .error e ↔ e = ⟨text⟩ ∧ ∀ c, ¬Names text c
  /-- It names one category at most. -/
  unique : ∀ c c', Names text c → Names text c' → c = c'
  /-- A letter outside ASCII keeps it from naming one. -/
  ascii : ∀ c, read text = .ok c → ∀ d ∈ text.toList, Unicode.IsAscii d ∨ Text.isSpace d = true

theorem read_eq_ok_iff : read text = .ok c ↔ Names text c := by
  rw [names_iff_ofWord?]
  unfold read
  cases ofWord? (Unicode.lowercase (Text.trim text)) <;> simp

theorem read_eq_error_iff {e : UnknownCategory} :
    read text = .error e ↔ e = ⟨text⟩ ∧ ∀ c, ¬Names text c := by
  simp only [names_iff_ofWord?]
  unfold read
  cases ofWord? (Unicode.lowercase (Text.trim text)) <;> simp [eq_comm]

/-- **A text is read as the category that it names.** -/
theorem readAsNamed (text : String) : ReadAsNamed text where
  ok_iff _ := read_eq_ok_iff
  error_iff _ := read_eq_error_iff
  unique _ _ := Names.unique
  ascii _ h _ := (read_eq_ok_iff.1 h).isAscii_or_isSpace

/-- White space around a word may be outside ASCII. -/
example : read "\u2003GuidePage\u00A0\n" = .ok .guide := by decide +kernel

/-- The lower case of `İ` is an `i` with a dot behind it. -/
example : read "gu\u0130de" = .error ⟨"gu\u0130de"⟩ := by decide +kernel

end Category

end DocLint

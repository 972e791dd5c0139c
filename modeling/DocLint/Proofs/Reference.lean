import DocLint.Proofs.Trim
import DocLint.Reference

/-!
# Taking a text apart at its references

A text is divided by its references: there is a gap before the first one and after each
(`Reference.Division`). A division is exact if each reference stands where one opens and fits the
grammar of references (`Reference.Fits`), and none opens in a gap. A text has one exact division,
whose references are those that `Reference.scan` lists (`Reference.scan_eq_iff`); so the scanner
skips nothing, and every place where a reference opens is inside of exactly one that it lists.
-/

namespace DocLint

namespace Reference

variable {s inner body rest : List Char}

/-! ## Where references open -/

/-- A reference opens at the start of a text: the sign is there, and what comes after it, if
anything, is white space or the closing bracket. -/
def Opens (s : List Char) : Prop :=
  ∃ after, s = sign ++ after ∧ ∀ c ∈ after.head?, c = '>' ∨ Text.isSpace c = true

theorem opensBefore_iff :
    opensBefore s = true ↔ ∀ c ∈ s.head?, c = '>' ∨ Text.isSpace c = true := by
  cases s <;> simp [opensBefore]

theorem afterOpener?_eq_some_iff :
    afterOpener? s = some inner ↔ s = sign ++ inner ∧ opensBefore inner = true := by
  unfold afterOpener?
  constructor
  · intro h
    split at h
    · rename_i ho
      obtain ⟨after, rfl⟩ := List.isPrefixOf_iff_prefix.1 (Bool.and_eq_true _ _ ▸ ho).1
      simp_all
    · cases h
  · rintro ⟨rfl, ho⟩
    simp [ho]

theorem opens_iff : Opens s ↔ ∃ inner, afterOpener? s = some inner := by
  simp only [Opens, afterOpener?_eq_some_iff, opensBefore_iff]

theorem not_opens_iff : ¬Opens s ↔ afterOpener? s = none := by
  rw [opens_iff, ← Option.ne_none_iff_exists', not_not]

theorem not_opens_nil : ¬Opens [] := by
  rintro ⟨after, h, -⟩
  simp [sign] at h

theorem Opens.sign_prefix (h : Opens s) : sign <+: s := by
  obtain ⟨after, rfl, -⟩ := h
  exact List.prefix_append sign after

theorem bracket_not_mem_sign : '>' ∉ sign := by decide

theorem ne_bracket_of_not_mem (h : '>' ∉ body) : ∀ c ∈ body, (c != '>') = true := by
  intro c hc
  rw [bne_iff_ne]
  rintro rfl
  exact h hc

/-! ## The grammar of references -/

/-- A reference with its markup, in front of the text `rest`. A closed reference has one closing
bracket, the last character. It is a link if there is white space in what stands between the sign
and the bracket, apart from the ends; the category is what comes before the first white space, and
the name is what comes after it. A reference that is not closed has no bracket and nothing behind
it. -/
inductive Fits : Reference → List Char → Prop
  | link {body category name rest : List Char} {space : Char} (hbody : '>' ∉ body)
      (hsplit : Text.trimChars body = category ++ space :: name)
      (hspace : Text.isSpace space = true) (hword : ∀ c ∈ category, Text.isSpace c = false)
      (hcategory : category ≠ []) (hname : Text.trimChars name ≠ []) :
      Fits (.link (String.ofList (sign ++ body ++ ['>'])) (String.ofList category)
        (String.ofList (Text.trimChars name))) rest
  | incomplete {body rest : List Char} (hbody : '>' ∉ body)
      (hword : ∀ c ∈ Text.trimChars body, Text.isSpace c = false) :
      Fits (.incomplete (String.ofList (sign ++ body ++ ['>']))) rest
  | unterminated {inner : List Char} (hinner : '>' ∉ inner) :
      Fits (.unterminated (String.ofList (sign ++ inner))) []

theorem raw_ofBody (raw body : List Char) : (ofBody raw body).raw = String.ofList raw := by
  unfold ofBody
  dsimp only
  split <;> rfl

/-- What the text between sign and bracket says, if there is white space in it. -/
theorem ofBody_of_split {raw category name : List Char} {space : Char}
    (hsplit : Text.trimChars body = category ++ space :: name)
    (hspace : Text.isSpace space = true) (hword : ∀ c ∈ category, Text.isSpace c = false) :
    ofBody raw body = .link (String.ofList raw) (String.ofList category)
      (String.ofList (Text.trimChars name)) := by
  have hword' : ∀ c ∈ category, (!Text.isSpace c) = true := by simpa using hword
  have hname := (Text.trimChars_split hsplit hspace).2
  have htake : (space :: name).takeWhile (fun c => !Text.isSpace c) = [] := by simp [hspace]
  have hdrop : (space :: name).dropWhile (fun c => !Text.isSpace c) = space :: name := by
    simp [hspace]
  unfold ofBody
  dsimp only
  rw [hsplit, List.takeWhile_append_of_pos hword', List.dropWhile_append_of_pos hword', htake,
    hdrop, List.append_nil, Text.trimChars_cons_of_isSpace hspace, if_neg (by simpa using hname)]

theorem ofBody_of_word {raw : List Char}
    (hword : ∀ c ∈ Text.trimChars body, Text.isSpace c = false) :
    ofBody raw body = .incomplete (String.ofList raw) := by
  have hdrop : (Text.trimChars body).dropWhile (fun c => !Text.isSpace c) = [] := by
    simpa [List.dropWhile_eq_nil_iff] using hword
  unfold ofBody
  dsimp only
  rw [hdrop]
  rfl

/-- A closed reference fits the grammar. -/
theorem fits_ofBody (h : '>' ∉ body) : Fits (ofBody (sign ++ body ++ ['>']) body) rest := by
  by_cases hword : ∀ c ∈ Text.trimChars body, Text.isSpace c = false
  · rw [ofBody_of_word hword]
    exact .incomplete h hword
  · -- the first white space in the trimmed text
    have hne : (Text.trimChars body).dropWhile (fun c => !Text.isSpace c) ≠ [] := by
      simpa [List.dropWhile_eq_nil_iff] using hword
    obtain ⟨space, name, hdrop⟩ := List.exists_cons_of_ne_nil hne
    have hspace : Text.isSpace space = true := by
      have := List.head_dropWhile_not _ hne
      simpa [hdrop] using this
    have hsplit := (List.takeWhile_append_dropWhile (p := fun c => !Text.isSpace c)
      (l := Text.trimChars body)).symm
    rw [hdrop] at hsplit
    have hcategory : ∀ c ∈ (Text.trimChars body).takeWhile (fun c => !Text.isSpace c),
        Text.isSpace c = false := fun c hc => by simpa using List.mem_takeWhile_imp hc
    obtain ⟨hfront, hback⟩ := Text.trimChars_split hsplit hspace
    rw [ofBody_of_split hsplit hspace hcategory]
    exact .link h hsplit hspace hcategory hfront hback

/-! ## Steps of the scanner -/

theorem scanChars_of_not_opens {c : Char} (h : ¬Opens (c :: s)) :
    scanChars (c :: s) = scanChars s := by
  rw [not_opens_iff] at h
  rw [scanChars]
  split
  · rfl
  · simp_all

theorem scanChars_of_opens (h : Opens s) : ∃ inner, s = sign ++ inner ∧ scanChars s =
    match inner.dropWhile (· != '>') with
    | [] => [unterminated (String.ofList s)]
    | close :: after => ofBody (sign ++ inner.takeWhile (· != '>') ++ [close])
        (inner.takeWhile (· != '>')) :: scanChars after := by
  obtain ⟨inner, ho⟩ := opens_iff.1 h
  refine ⟨inner, (afterOpener?_eq_some_iff.1 ho).1, ?_⟩
  cases s with
  | nil => exact absurd h not_opens_nil
  | cons c rest =>
    rw [scanChars]
    split
    · simp_all
    · rename_i inner' ho'
      obtain rfl : inner = inner' := by simpa [ho] using ho'
      split
      · rename_i hclose
        simp [hclose]
      · rename_i hclose
        simp [hclose]

/-- Where a reference opens that has a closing bracket, it is taken up to that. -/
theorem scanChars_closed {after : List Char} (h : Opens (sign ++ body ++ '>' :: after))
    (hbody : '>' ∉ body) : scanChars (sign ++ body ++ '>' :: after) =
      ofBody (sign ++ body ++ ['>']) body :: scanChars after := by
  have hne := ne_bracket_of_not_mem hbody
  obtain ⟨inner, hs, hscan⟩ := scanChars_of_opens h
  rw [List.append_assoc, List.append_cancel_left_eq] at hs
  rw [hscan, ← hs, List.takeWhile_append_of_pos hne, List.dropWhile_append_of_pos hne]
  simp

/-- Where a reference opens that has none, it takes all of the text. -/
theorem scanChars_unterminated (h : Opens (sign ++ inner)) (hinner : '>' ∉ inner) :
    scanChars (sign ++ inner) = [unterminated (String.ofList (sign ++ inner))] := by
  obtain ⟨inner', hs, hscan⟩ := scanChars_of_opens h
  have hdrop : inner.dropWhile (· != '>') = [] :=
    List.dropWhile_eq_nil_iff.2 (ne_bracket_of_not_mem hinner)
  rw [hscan, ← List.append_cancel_left hs, hdrop]

/-! ## Divisions -/

/-- A text divided: what comes before the first reference, and the references in order, each with
what comes between it and the next one or the end. -/
structure Division where
  first : List Char
  items : List (Reference × List Char)

namespace Division

/-- References put together again, each with what comes behind it. -/
def join (items : List (Reference × List Char)) : List Char :=
  items.flatMap fun p => p.1.raw.toList ++ p.2

/-- The text that is divided. -/
def text (d : Division) : List Char := d.first ++ join d.items

def references (d : Division) : List Reference := d.items.map Prod.fst

/-- No reference opens at a place in `gap`, if `rest` comes behind it. -/
def IsClear (gap rest : List Char) : Prop := ∀ i < gap.length, ¬Opens ((gap ++ rest).drop i)

/-- A reference stands where it opens, fits the grammar, and has a clear gap behind it. -/
structure Stands (r : Reference) (gap rest : List Char) : Prop where
  opens : Opens (r.raw.toList ++ (gap ++ rest))
  fits : r.Fits (gap ++ rest)
  clear : IsClear gap rest

/-- References stand where they open, and none opens in between. -/
structure Exact (d : Division) : Prop where
  clear : IsClear d.first (join d.items)
  stands : ∀ before r gap after, d.items = before ++ (r, gap) :: after → Stands r gap (join after)

/-- The places that references take up, each from its start to its end, if the first of them starts
at `start`. -/
def spansFrom (start : Nat) : List (Reference × List Char) → List (Nat × Nat)
  | [] => []
  | (r, gap) :: rest =>
    (start, start + r.raw.length) :: spansFrom (start + r.raw.length + gap.length) rest

/-- The places that the references of a divided text take up. -/
def spans (d : Division) : List (Nat × Nat) := spansFrom d.first.length d.items

variable {first gap : List Char} {r : Reference} {after : List (Reference × List Char)}
  {d : Division}

@[simp] theorem join_nil : join [] = [] := rfl

@[simp] theorem join_cons :
    join ((r, gap) :: after) = r.raw.toList ++ (gap ++ join after) := by
  simp [join]

theorem isClear_cons {c : Char} :
    IsClear (c :: gap) rest ↔ ¬Opens (c :: (gap ++ rest)) ∧ IsClear gap rest := by
  constructor
  · intro h
    exact ⟨h 0 (by simp), fun i hi => h (i + 1) (by simpa using hi)⟩
  · rintro ⟨hc, h⟩ i hi
    cases i with
    | zero => exact hc
    | succ i => exact h i (by simpa using hi)

theorem exact_nil : Exact ⟨first, []⟩ ↔ IsClear first [] :=
  ⟨fun h => h.clear, fun h => ⟨h, by simp⟩⟩

theorem exact_cons : Exact ⟨first, (r, gap) :: after⟩ ↔
    IsClear first (r.raw.toList ++ (gap ++ join after)) ∧ Stands r gap (join after) ∧
      Exact ⟨gap, after⟩ := by
  constructor
  · intro h
    have hr := h.stands [] r gap after rfl
    exact ⟨by simpa using h.clear, hr, hr.clear, fun before r' gap' after' heq =>
      h.stands ((r, gap) :: before) r' gap' after' (congrArg _ heq)⟩
  · rintro ⟨hfirst, hr, h⟩
    refine ⟨by simpa using hfirst, fun before r' gap' after' heq => ?_⟩
    cases before with
    | nil =>
      obtain ⟨⟨rfl, rfl⟩, rfl⟩ : (r = r' ∧ gap = gap') ∧ after = after' := by simpa using heq
      exact hr
    | cons p before => exact h.stands before r' gap' after' (List.cons.inj heq).2

/-! ### The references of an exact division are scanned -/

/-- The scanner skips a clear gap. -/
theorem scanChars_of_isClear (h : IsClear gap rest) : scanChars (gap ++ rest) = scanChars rest := by
  induction gap with
  | nil => rfl
  | cons c gap ih =>
    obtain ⟨hc, hgap⟩ := isClear_cons.1 h
    rw [List.cons_append, scanChars_of_not_opens hc, ih hgap]

/-- The scanner takes a reference that stands at the start as a whole. -/
theorem scanChars_of_stands (h : Stands r gap rest) :
    scanChars (r.raw.toList ++ (gap ++ rest)) = r :: scanChars (gap ++ rest) := by
  obtain ⟨hopens, hfits, -⟩ := h
  generalize gap ++ rest = t at hopens hfits
  have hraw : ∀ body : List Char, (String.ofList (sign ++ body ++ ['>'])).toList ++ t =
      sign ++ body ++ '>' :: t := by simp
  cases hfits with
  | link hbody hsplit hspace hword =>
    simp only [raw, hraw] at hopens ⊢
    rw [scanChars_closed hopens hbody, ofBody_of_split hsplit hspace hword]
  | incomplete hbody hword =>
    simp only [raw, hraw] at hopens ⊢
    rw [scanChars_closed hopens hbody, ofBody_of_word hword]
  | unterminated hinner =>
    simp only [raw, String.toList_ofList, List.append_nil] at hopens ⊢
    rw [scanChars_unterminated hopens hinner, scanChars]

/-- **The references of an exact division are those that the scanner lists.** -/
theorem Exact.scanChars_text (h : d.Exact) : scanChars d.text = d.references := by
  obtain ⟨first, items⟩ := d
  induction items generalizing first with
  | nil =>
    have hfirst := scanChars_of_isClear (exact_nil.1 h)
    rw [scanChars] at hfirst
    exact hfirst
  | cons p after ih =>
    obtain ⟨r, gap⟩ := p
    obtain ⟨hfirst, hr, hafter⟩ := exact_cons.1 h
    have hrest := ih gap hafter
    simp only [text, references, join_cons, List.map_cons] at hrest ⊢
    rw [scanChars_of_isClear hfirst, scanChars_of_stands hr, hrest]

/-! ### Every text has an exact division -/

theorem Exact.skip (h : d.Exact) {c : Char} (hc : ¬Opens (c :: d.text)) :
    Exact ⟨c :: d.first, d.items⟩ :=
  ⟨isClear_cons.2 ⟨hc, h.clear⟩, h.stands⟩

theorem Exact.take (h : d.Exact) (hopens : Opens (r.raw.toList ++ d.text)) (hfits : r.Fits d.text) :
    Exact ⟨[], (r, d.first) :: d.items⟩ :=
  exact_cons.2 ⟨by simp [IsClear], ⟨hopens, hfits, h.clear⟩, h⟩

theorem exists_exact (s : List Char) :
    ∃ d : Division, d.text = s ∧ d.references = scanChars s ∧ d.Exact := by
  induction hn : s.length using Nat.strong_induction_on generalizing s with
  | _ n ih =>
    subst hn
    by_cases hopens : Opens s
    · obtain ⟨inner, rfl⟩ := hopens.sign_prefix
      by_cases hclose : '>' ∈ inner
      · -- closed: the division of what comes behind the first bracket gets one more reference
        obtain ⟨body, after, rfl, hbody⟩ := List.eq_append_cons_of_mem hclose
        obtain ⟨d, rfl, href, h⟩ := ih after.length (by simp; omega) after rfl
        have hraw : (ofBody (sign ++ body ++ ['>']) body).raw.toList ++ d.text =
            sign ++ (body ++ '>' :: d.text) := by simp [raw_ofBody]
        refine ⟨⟨[], (ofBody (sign ++ body ++ ['>']) body, d.first) :: d.items⟩, ?_, ?_,
          h.take (hraw ▸ hopens) (fits_ofBody hbody)⟩
        · rw [← hraw]
          simp [text]
        · rw [← List.append_assoc] at hopens ⊢
          rw [scanChars_closed hopens hbody, ← href]
          rfl
      · -- not closed: it takes all of the text
        refine ⟨⟨[], [(unterminated (String.ofList (sign ++ inner)), [])]⟩, ?_, ?_, ?_⟩
        · simp [text, raw]
        · rw [scanChars_unterminated hopens hclose]
          rfl
        · have hempty : Exact ⟨[], []⟩ := exact_nil.2 (by simp [IsClear])
          exact hempty.take (by simpa [text, raw] using hopens) (.unterminated hclose)
    · cases s with
      | nil =>
        refine ⟨⟨[], []⟩, rfl, ?_, exact_nil.2 (by simp [IsClear])⟩
        rw [scanChars]
        rfl
      | cons c rest =>
        obtain ⟨d, rfl, href, h⟩ := ih rest.length (by simp) rest rfl
        refine ⟨⟨c :: d.first, d.items⟩, rfl, ?_, h.skip hopens⟩
        rw [scanChars_of_not_opens hopens, ← href]
        rfl

/-! ### Openers lie in one reference each -/

theorem le_of_mem_spansFrom {start : Nat} {items : List (Reference × List Char)} {p : Nat × Nat}
    (h : p ∈ spansFrom start items) : start ≤ p.1 := by
  induction items generalizing start with
  | nil => cases h
  | cons q after ih =>
    obtain ⟨r, gap⟩ := q
    rcases List.mem_cons.1 h with rfl | h
    · exact le_rfl
    · have := ih h
      omega

/-- No reference takes up a place in front of the first one. -/
theorem countP_spansFrom_eq_zero {start i : Nat} (h : i < start)
    (items : List (Reference × List Char)) :
    (spansFrom start items).countP (fun p => p.1 ≤ i ∧ i + sign.length ≤ p.2) = 0 := by
  rw [List.countP_eq_zero]
  intro p hp
  have := le_of_mem_spansFrom hp
  simp only [decide_eq_true_eq]
  omega

end Division

/-- A closing bracket ends the text in which a sign in front of it may be. -/
theorem sign_prefix_of_append {front back : List Char} (h : sign <+: front ++ '>' :: back) :
    sign <+: front := by
  obtain ⟨after, h⟩ := h
  rcases List.append_eq_append_iff.1 h with ⟨t, ht, -⟩ | ⟨t, ht, hback⟩
  · exact ⟨t, ht.symm⟩
  · cases t with
    | nil => simp [ht]
    | cons c t =>
      -- otherwise the bracket would be a character of the sign
      obtain ⟨rfl, -⟩ := List.cons.inj hback
      exact absurd (ht ▸ by simp) bracket_not_mem_sign

/-- The sign of a reference that opens within another one is a part of it. -/
theorem Fits.sign_inside {r : Reference} (h : r.Fits rest) {i : Nat} (hi : i < r.raw.length)
    (ho : Opens ((r.raw.toList ++ rest).drop i)) : i + sign.length ≤ r.raw.length := by
  rw [← String.length_toList] at hi ⊢
  have closed : ∀ body : List Char, r.raw.toList = sign ++ body ++ ['>'] →
      i + sign.length ≤ r.raw.toList.length := by
    intro body hraw
    rw [hraw, List.length_append, List.length_singleton] at hi ⊢
    have hsign := ho.sign_prefix
    rw [hraw, List.append_assoc, List.drop_append_of_le_length (by omega)] at hsign
    have := (sign_prefix_of_append hsign).length_le
    rw [List.length_drop] at this
    omega
  cases h with
  | link => exact closed _ String.toList_ofList
  | incomplete => exact closed _ String.toList_ofList
  | unterminated =>
    have := ho.sign_prefix.length_le
    rw [List.append_nil, List.length_drop] at this
    omega

namespace Division

/-- A reference that opens in a text opens behind a clear gap at its start. -/
theorem IsClear.opens_behind {gap : List Char} (h : IsClear gap rest) {i : Nat}
    (ho : Opens ((gap ++ rest).drop i)) : gap.length ≤ i ∧ Opens (rest.drop (i - gap.length)) := by
  have hge : gap.length ≤ i := by
    by_contra hlt
    exact h i (Nat.lt_of_not_le hlt) ho
  rw [List.drop_append, List.drop_of_length_le hge, List.nil_append] at ho
  exact ⟨hge, ho⟩

/-- Where a reference opens in an exact division, one of its references has the sign inside. The
text may stand at any place of a longer one. -/
theorem Exact.countP_spansFrom {items : List (Reference × List Char)} {first : List Char}
    (h : Exact ⟨first, items⟩) (start : Nat) {i : Nat} (ho : Opens ((first ++ join items).drop i)) :
    (spansFrom (start + first.length) items).countP
      (fun p => p.1 ≤ start + i ∧ start + i + sign.length ≤ p.2) = 1 := by
  induction items generalizing first start i with
  | nil => exact absurd (h.clear.opens_behind ho).2 (by simpa using not_opens_nil)
  | cons p after ih =>
    obtain ⟨r, gap⟩ := p
    obtain ⟨-, hr, hafter⟩ := exact_cons.1 h
    have hfirst : IsClear first (join ((r, gap) :: after)) := h.clear
    obtain ⟨hge, ho⟩ := hfirst.opens_behind ho
    rw [join_cons] at ho
    rw [spansFrom, List.countP_cons]
    by_cases hi : i - first.length < r.raw.length
    · -- it opens in the first reference, and all others start behind that
      have hinside := hr.fits.sign_inside hi ho
      have hbehind : start + i < start + first.length + r.raw.length + gap.length := by omega
      rw [countP_spansFrom_eq_zero hbehind, if_pos (by simp only [decide_eq_true_eq]; omega)]
    · -- it opens behind the first reference
      have hlen : r.raw.toList.length = r.raw.length := String.length_toList
      rw [List.drop_append, List.drop_of_length_le (by omega), List.nil_append, hlen] at ho
      have hrest := ih hafter (start + first.length + r.raw.length) ho
      have hplace : start + first.length + r.raw.length + (i - first.length - r.raw.length) =
          start + i := by omega
      rw [hplace] at hrest
      have hsign : 0 < sign.length := by decide
      rw [hrest, if_neg (by simp only [decide_eq_true_eq]; omega)]

theorem Exact.countP_spans {d : Division} (h : d.Exact) {i : Nat} (ho : Opens (d.text.drop i)) :
    d.spans.countP (fun p => p.1 ≤ i ∧ i + sign.length ≤ p.2) = 1 := by
  simpa [spans] using countP_spansFrom h 0 ho

end Division

/-- **The scanner takes every text apart in the one exact way.** What it lists are the references of
a division of the text in which each of them starts where one opens and fits the grammar, and none
opens in a gap; no other list comes from such a division. Each place of the text where a reference
opens is inside of exactly one that is listed. -/
theorem scan_eq_iff (s : String) (refs : List Reference) : scan s = refs ↔
    ∃ d : Division, d.text = s.toList ∧ d.references = refs ∧ d.Exact ∧
      ∀ i, Opens (s.toList.drop i) →
        d.spans.countP (fun p => p.1 ≤ i ∧ i + sign.length ≤ p.2) = 1 := by
  constructor
  · rintro rfl
    obtain ⟨d, htext, href, h⟩ := Division.exists_exact s.toList
    exact ⟨d, htext, href, h, fun i ho => h.countP_spans (htext ▸ ho)⟩
  · rintro ⟨d, htext, rfl, h, -⟩
    rw [scan, ← htext, h.scanChars_text]

/-- A word that only begins with the sign opens nothing, and a reference that opens inside of
another one is a part of that. -/
example : scan "<@linked> <@link command <@link a> <@link" =
    [link "<@link command <@link a>" "command" "<@link a", unterminated "<@link"] := by
  decide +kernel

end Reference

end DocLint

import DocLint.Block
import DocLint.Proofs.Lines

/-!
# Closed blocks

Of a text only the closed blocks count: those that open at a line and close at a later one, with no
line in between that opens or closes blocks (`Block.Closed`). An open block has a part in one
fragment at most, that which the next of these lines completes, and in nothing that comes behind
(`Block.ofLines_some`). So each closed block gives the fragment that its own lines give, and all
else gives nothing. The main statement is `Block.parse_local`.
-/

namespace DocLint

/-! ## Kinds of lines -/

namespace BlockLine

variable {line category rest : List Char}

theorem openerCategory?_eq_some_iff :
    openerCategory? line = some category ↔ line = openSign ++ category ++ [']'] := by
  rw [openerCategory?]
  constructor
  · intro h
    split at h
    · rename_i hopen
      rw [Bool.and_eq_true, beq_iff_eq] at hopen
      obtain ⟨hsign, hlast⟩ := hopen
      obtain ⟨rest, rfl⟩ := List.isPrefixOf_iff_prefix.1 hsign
      rw [List.drop_left] at h hlast
      obtain ⟨front, rfl⟩ := List.getLast?_eq_some_iff.1 hlast
      rw [List.dropLast_concat, Option.some.injEq] at h
      rw [h, List.append_assoc]
    · cases h
  · rintro rfl
    simp [List.append_assoc]

/-- A trimmed line has the form of an opener. -/
def HasOpenForm (line : List Char) : Prop := ∃ category, line = openSign ++ category ++ [']']

theorem openerCategory?_eq_none_iff : openerCategory? line = none ↔ ¬HasOpenForm line := by
  simp only [HasOpenForm, ← openerCategory?_eq_some_iff, Option.eq_none_iff_forall_ne_some, ne_eq,
    not_exists]

theorem not_hasOpenForm_closeSign : ¬HasOpenForm closeSign :=
  openerCategory?_eq_none_iff.1 (by decide)

theorem not_hasOpenForm_cons (rest : List Char) : ¬HasOpenForm ('@' :: rest) := by
  rintro ⟨category, h⟩
  simp [openSign] at h

theorem read_opener (h : Text.trimChars line = openSign ++ category ++ [']']) :
    read line = .opener category := by
  unfold read ofTrimmed
  rw [openerCategory?_eq_some_iff.2 h]

theorem read_closer (h : Text.trimChars line = closeSign) : read line = .closer := by
  unfold read ofTrimmed
  rw [h, openerCategory?_eq_none_iff.2 not_hasOpenForm_closeSign, if_pos rfl]

theorem read_tag (h : Text.trimChars line = '@' :: rest) : read line =
    .tag (rest.takeWhile (· != ' ')) (Text.trimChars ((rest.dropWhile (· != ' ')).drop 1)) := by
  have hclose : '@' :: rest ≠ closeSign := by simp [closeSign]
  unfold read ofTrimmed
  rw [h, openerCategory?_eq_none_iff.2 (not_hasOpenForm_cons rest)]
  dsimp only
  rw [if_neg hclose]
  rfl

theorem read_other (hopen : ¬HasOpenForm (Text.trimChars line))
    (hclose : Text.trimChars line ≠ closeSign) (htag : (Text.trimChars line).head? ≠ some '@') :
    read line = .other (Text.trimChars line) := by
  unfold read ofTrimmed
  rw [openerCategory?_eq_none_iff.2 hopen]
  dsimp only
  rw [if_neg hclose]
  split
  · rename_i rest heq
    rw [heq] at htag
    exact absurd rfl htag
  · rfl

/-- A line that starts a tag or is of no special kind. -/
theorem read_of_plain (hopen : ¬HasOpenForm (Text.trimChars line))
    (hclose : Text.trimChars line ≠ closeSign) :
    (∃ key first, read line = .tag key first) ∨ ∃ l, read line = .other l := by
  by_cases htag : (Text.trimChars line).head? = some '@'
  · obtain ⟨rest, h⟩ := List.head?_eq_some_iff.1 htag
    exact .inl ⟨_, _, read_tag h⟩
  · exact .inr ⟨_, read_other hopen hclose htag⟩

theorem hasOpenForm_iff :
    HasOpenForm (Text.trimChars line) ↔ ∃ category, read line = .opener category := by
  constructor
  · rintro ⟨category, h⟩
    exact ⟨category, read_opener h⟩
  · rintro ⟨category, h⟩
    by_contra hopen
    by_cases hclose : Text.trimChars line = closeSign
    · rw [read_closer hclose] at h
      cases h
    · rcases read_of_plain hopen hclose with ⟨key, first, hread⟩ | ⟨l, hread⟩
      all_goals
        rw [hread] at h
        cases h

theorem read_eq_closer_iff : read line = .closer ↔ Text.trimChars line = closeSign := by
  refine ⟨fun h => ?_, read_closer⟩
  by_contra hclose
  by_cases hopen : HasOpenForm (Text.trimChars line)
  · obtain ⟨category, hread⟩ := hasOpenForm_iff.1 hopen
    rw [hread] at h
    cases h
  · rcases read_of_plain hopen hclose with ⟨key, first, hread⟩ | ⟨l, hread⟩
    all_goals
      rw [hread] at h
      cases h

end BlockLine

namespace Block

/-- A line that opens a block, white space around it aside. -/
def IsOpener (line : String) : Prop :=
  ∃ category : String, Text.trim line = "<--[" ++ category ++ "]"

/-- A line that closes blocks, white space around it aside. -/
def IsCloser (line : String) : Prop := Text.trim line = "-->"

variable {line : String}

theorem isOpener_iff_hasOpenForm :
    IsOpener line ↔ BlockLine.HasOpenForm (Text.trimChars line.toList) := by
  constructor
  · rintro ⟨category, h⟩
    refine ⟨category.toList, ?_⟩
    rw [← Text.toList_trim, h, String.toList_append, String.toList_append]
    rfl
  · rintro ⟨category, h⟩
    refine ⟨String.ofList category, ?_⟩
    rw [← String.toList_inj, Text.toList_trim, h]
    simp [BlockLine.openSign]

theorem isOpener_iff :
    IsOpener line ↔ ∃ category, BlockLine.read line.toList = .opener category := by
  rw [isOpener_iff_hasOpenForm, BlockLine.hasOpenForm_iff]

theorem isCloser_iff_closeSign :
    IsCloser line ↔ Text.trimChars line.toList = BlockLine.closeSign := by
  rw [IsCloser, ← String.toList_inj, Text.toList_trim]
  rfl

theorem isCloser_iff : IsCloser line ↔ BlockLine.read line.toList = .closer := by
  rw [isCloser_iff_closeSign, BlockLine.read_eq_closer_iff]

instance : DecidablePred IsOpener := fun line =>
  decidable_of_iff (BlockLine.openerCategory? (Text.trimChars line.toList) ≠ none) <| by
    rw [Ne, BlockLine.openerCategory?_eq_none_iff, not_not, isOpener_iff_hasOpenForm]

instance : DecidablePred IsCloser := fun line =>
  inferInstanceAs (Decidable (Text.trim line = "-->"))

/-- No line both opens and closes blocks. -/
theorem not_isOpener_of_isCloser (h : IsCloser line) : ¬IsOpener line := by
  rw [isCloser_iff] at h
  rw [isOpener_iff, h]
  simp

end Block

/-! ## What an open block may still give -/

/-- The same fragment from another source. -/
def Fragment.withSource (f : Fragment) (source : String) : Fragment :=
  { f with source := some source }

namespace OpenBlock

variable {b : OpenBlock} {lines : List (List Char)} {f : Fragment}

/-- The fragment of an open block, if the lines that follow close it. -/
def closing? (b : OpenBlock) : List (List Char) → Option Fragment
  | [] => none
  | line :: rest =>
    match BlockLine.read line with
    | .opener _ => none
    | .closer => some b.close
    | .tag key first => (b.startTag key first).closing? rest
    | .other line => (b.addLine line).closing? rest

/-- The same block from another source. -/
def withSource (b : OpenBlock) (source : String) : OpenBlock :=
  { b with fragment := b.fragment.withSource source }

theorem close_withSource (b : OpenBlock) (source : String) :
    (b.withSource source).close = b.close.withSource source := by
  obtain ⟨f, current⟩ := b
  cases current <;> rfl

theorem startTag_withSource (b : OpenBlock) (source : String) (key first : List Char) :
    (b.withSource source).startTag key first = (b.startTag key first).withSource source := by
  rw [startTag, close_withSource]
  rfl

/-- The source of a fragment has no part in the rest of it. -/
theorem closing?_withSource (b : OpenBlock) (source : String) (lines : List (List Char)) :
    (b.withSource source).closing? lines = (b.closing? lines).map (·.withSource source) := by
  induction lines generalizing b with
  | nil => rfl
  | cons line rest ih =>
    rw [closing?, closing?]
    cases BlockLine.read line with
    | opener category => rfl
    | closer => exact congrArg some (close_withSource b source)
    | tag key first =>
      dsimp only
      rw [startTag_withSource]
      exact ih _
    | other line => exact ih (b.addLine line)

theorem source_close (b : OpenBlock) : b.close.source = b.fragment.source := by
  obtain ⟨f, current⟩ := b
  cases current <;> rfl

/-- A fragment has the source of the line at which its block opens. -/
theorem source_of_closing? (h : b.closing? lines = some f) : f.source = b.fragment.source := by
  induction lines generalizing b with
  | nil => cases h
  | cons line rest ih =>
    cases hline : BlockLine.read line with
    | opener category => simp only [closing?, hline, reduceCtorEq] at h
    | closer =>
      simp only [closing?, hline, Option.some.injEq] at h
      rw [← h, source_close]
    | tag key first =>
      simp only [closing?, hline] at h
      rw [ih h, startTag, source_close]
    | other line =>
      simp only [closing?, hline] at h
      have hrest := ih h
      exact hrest

end OpenBlock

namespace Block

variable {lines rest : List String} {line : String} {b : OpenBlock} {i j : Nat}

/-! ### What one line does -/

section Step

variable {origin : String} {number : Nat} {current : Option OpenBlock} {l : List Char}
  {rest : List (List Char)}

theorem ofLines_opener {category : List Char} (h : BlockLine.read l = .opener category) :
    ofLines origin number current (l :: rest) =
      ofLines origin (number + 1) (some (.start origin number category)) rest := by
  simp only [ofLines, h]

theorem ofLines_closer (h : BlockLine.read l = .closer) :
    ofLines origin number (some b) (l :: rest) =
      b.close :: ofLines origin (number + 1) none rest := by
  simp only [ofLines, h]

theorem ofLines_tag {key first : List Char} (h : BlockLine.read l = .tag key first) :
    ofLines origin number (some b) (l :: rest) =
      ofLines origin (number + 1) (some (b.startTag key first)) rest := by
  simp only [ofLines, h]

theorem ofLines_other {line : List Char} (h : BlockLine.read l = .other line) :
    ofLines origin number (some b) (l :: rest) =
      ofLines origin (number + 1) (some (b.addLine line)) rest := by
  simp only [ofLines, h]

/-- If no block is open, only a line that opens one does anything. -/
theorem ofLines_none (h : ¬BlockLine.HasOpenForm (Text.trimChars l)) :
    ofLines origin number none (l :: rest) = ofLines origin (number + 1) none rest := by
  cases hline : BlockLine.read l with
  | opener category => exact absurd (BlockLine.hasOpenForm_iff.2 ⟨category, hline⟩) h
  | closer => simp only [ofLines, hline]
  | tag key first => simp only [ofLines, hline]
  | other line => simp only [ofLines, hline]

end Step

/-- **An open block is on its own**: apart from the fragment that it may give, lines give what they
would give if no block were open. -/
theorem ofLines_some (origin : String) (number : Nat) (b : OpenBlock) (lines : List (List Char)) :
    ofLines origin number (some b) lines =
      (b.closing? lines).toList ++ ofLines origin number none lines := by
  induction lines generalizing number b with
  | nil => rfl
  | cons line rest ih =>
    unfold ofLines OpenBlock.closing?
    cases BlockLine.read line with
    | opener category => rfl
    | closer => rfl
    | tag key first => exact ih _ _
    | other line => exact ih _ _

/-- White space at the ends of lines does not matter. -/
theorem ofLines_congr {origin : String} {number : Nat} {current : Option OpenBlock}
    {lines lines' : List (List Char)}
    (h : List.Forall₂ (fun l l' => Text.trimChars l' = Text.trimChars l) lines lines') :
    ofLines origin number current lines' = ofLines origin number current lines := by
  induction h generalizing number current with
  | nil => rfl
  | @cons l l' rest rest' hl _ ih =>
    have hread : BlockLine.read l' = BlockLine.read l := congrArg BlockLine.ofTrimmed hl
    unfold ofLines
    rw [hread]
    split <;> simp only [ih]

/-- The fragment of the block that opens at a line, if one does and the lines behind close it. -/
def fragmentAt? (origin : String) (number : Nat) (line : List Char) (rest : List (List Char)) :
    Option Fragment :=
  (BlockLine.openerCategory? (Text.trimChars line)).bind fun category =>
    (OpenBlock.start origin number category).closing? rest

/-- **Lines are read one by one**: each gives the fragment of the block that opens at it. -/
theorem ofLines_cons (origin : String) (number : Nat) (line : List Char)
    (rest : List (List Char)) : ofLines origin number none (line :: rest) =
      (fragmentAt? origin number line rest).toList ++ ofLines origin (number + 1) none rest := by
  cases hcategory : BlockLine.openerCategory? (Text.trimChars line) with
  | some category =>
    have hline := BlockLine.read_opener (BlockLine.openerCategory?_eq_some_iff.1 hcategory)
    rw [ofLines_opener hline, fragmentAt?, hcategory]
    exact ofLines_some ..
  | none =>
    rw [ofLines_none (BlockLine.openerCategory?_eq_none_iff.1 hcategory), fragmentAt?, hcategory]
    rfl

/-- The number of a line has a part in the source alone. -/
theorem fragmentAt?_eq_map (origin : String) (number : Nat) (line : List Char)
    (rest : List (List Char)) : fragmentAt? origin number line rest =
      (fragmentAt? origin 1 line rest).map (·.withSource (origin ++ ":" ++ number.repr)) := by
  unfold fragmentAt?
  rw [Option.map_bind]
  refine congrArg _ (funext fun category => ?_)
  exact OpenBlock.closing?_withSource (.start origin 1 category) _ rest

theorem source_of_fragmentAt? {origin : String} {number : Nat} {line : List Char}
    {rest : List (List Char)} {f : Fragment} (h : fragmentAt? origin number line rest = some f) :
    f.source = some (origin ++ ":" ++ number.repr) := by
  obtain ⟨category, -, h⟩ := Option.bind_eq_some_iff.1 h
  exact OpenBlock.source_of_closing? h

/-! ## Closed blocks -/

/-- Lines from the place `i` to the place `j` that are a block: the first opens it, the last closes
it, and none in between opens or closes one. -/
structure Closed (lines : List String) (i j : Nat) : Prop where
  lt : i < j
  opener : ∃ line, lines[i]? = some line ∧ IsOpener line
  closer : ∃ line, lines[j]? = some line ∧ IsCloser line
  between : ∀ k, i < k → k < j → ∀ line, lines[k]? = some line → ¬IsOpener line ∧ ¬IsCloser line

/-- The text of the lines from the place `i` to the place `j`. -/
def excerpt (lines : List String) (i j : Nat) : String :=
  "\n".intercalate ((lines.drop i).take (j + 1 - i))

/-- What follows an opening line ends its block at the place `j`. -/
structure EndsAt (lines : List String) (j : Nat) : Prop where
  closer : ∃ line, lines[j]? = some line ∧ IsCloser line
  before : ∀ k < j, ∀ line, lines[k]? = some line → ¬IsOpener line ∧ ¬IsCloser line

theorem endsAt_zero : EndsAt (line :: rest) 0 ↔ IsCloser line := by
  constructor
  · rintro ⟨⟨l, hl, hclose⟩, -⟩
    rwa [Option.some.inj hl]
  · exact fun h => ⟨⟨line, rfl, h⟩, by simp⟩

theorem endsAt_succ :
    EndsAt (line :: rest) (j + 1) ↔ (¬IsOpener line ∧ ¬IsCloser line) ∧ EndsAt rest j := by
  constructor
  · rintro ⟨hcloser, hbefore⟩
    exact ⟨hbefore 0 (by omega) line rfl, hcloser, fun k hk => hbefore (k + 1) (by omega)⟩
  · rintro ⟨hline, hcloser, hbefore⟩
    refine ⟨hcloser, fun k hk l hl => ?_⟩
    cases k with
    | zero => rwa [← Option.some.inj hl]
    | succ k => exact hbefore k (by omega) l hl

theorem closed_zero : Closed (line :: rest) 0 (j + 1) ↔ IsOpener line ∧ EndsAt rest j := by
  constructor
  · rintro ⟨-, ⟨l, hl, hopen⟩, hcloser, hbetween⟩
    refine ⟨?_, hcloser, fun k hk => hbetween (k + 1) (by omega) (by omega)⟩
    rwa [Option.some.inj hl]
  · rintro ⟨hopen, hcloser, hbefore⟩
    refine ⟨by omega, ⟨line, rfl, hopen⟩, hcloser, fun k hk hkj l hl => ?_⟩
    obtain ⟨k, rfl⟩ := Nat.exists_eq_add_one.2 hk
    exact hbefore k (by omega) l hl

theorem closed_succ : Closed (line :: rest) (i + 1) (j + 1) ↔ Closed rest i j := by
  constructor
  · rintro ⟨hlt, hopener, hcloser, hbetween⟩
    exact ⟨by omega, hopener, hcloser, fun k hik hkj => hbetween (k + 1) (by omega) (by omega)⟩
  · rintro ⟨hlt, hopener, hcloser, hbetween⟩
    refine ⟨by omega, hopener, hcloser, fun k hik hkj l hl => ?_⟩
    obtain ⟨k, rfl⟩ := Nat.exists_eq_add_one.2 (Nat.zero_lt_of_lt hik)
    exact hbetween k (by omega) (by omega) l hl

/-- Closed blocks do not overlap. -/
theorem Closed.lt_of_lt {i' j' : Nat} (h : Closed lines i j) (h' : Closed lines i' j')
    (hlt : i < i') : j < i' := by
  obtain ⟨l, hl, hopen⟩ := h'.opener
  by_contra hle
  rcases Nat.lt_or_eq_of_le (Nat.le_of_not_lt hle) with hin | rfl
  · exact (h.between i' hlt hin l hl).1 hopen
  · obtain ⟨l', hl', hclose⟩ := h.closer
    obtain rfl : l = l' := Option.some.inj (hl.symm.trans hl')
    exact not_isOpener_of_isCloser hclose hopen

/-- A block ends at one place. -/
theorem Closed.unique {j' : Nat} (h : Closed lines i j) (h' : Closed lines i j') : j = j' := by
  have hle : ∀ {j j'}, Closed lines i j → Closed lines i j' → j' ≤ j := by
    intro j j' h h'
    obtain ⟨l, hl, hclose⟩ := h.closer
    by_contra hlt
    exact (h'.between j h.lt (Nat.lt_of_not_le hlt) l hl).2 hclose
  exact Nat.le_antisymm (hle h' h) (hle h h')

/-! ### The fragment of a closed block -/

/-- An open block that ends has a fragment, which hangs on the lines up to its end. -/
theorem EndsAt.closing? (h : EndsAt lines j) (b : OpenBlock) :
    ∃ f, b.closing? (lines.map String.toList) = some f ∧
      b.closing? ((lines.take (j + 1)).map String.toList) = some f := by
  induction lines generalizing b j with
  | nil =>
    obtain ⟨l, hl, -⟩ := h.closer
    cases hl
  | cons line rest ih =>
    rw [List.take_succ_cons, List.map_cons, List.map_cons, OpenBlock.closing?, OpenBlock.closing?]
    cases j with
    | zero =>
      rw [isCloser_iff.1 (endsAt_zero.1 h)]
      exact ⟨b.close, rfl, rfl⟩
    | succ j =>
      obtain ⟨⟨hopen, hclose⟩, h⟩ := endsAt_succ.1 h
      cases hline : BlockLine.read line.toList with
      | opener category => exact absurd (isOpener_iff.2 ⟨category, hline⟩) hopen
      | closer => exact absurd (isCloser_iff.2 hline) hclose
      | tag key first => exact ih h _
      | other l => exact ih h _

/-- An open block that does not end has none. -/
theorem closing?_eq_none (h : ∀ j, ¬EndsAt lines j) (b : OpenBlock) :
    b.closing? (lines.map String.toList) = none := by
  induction lines generalizing b with
  | nil => rfl
  | cons line rest ih =>
    rw [List.map_cons, OpenBlock.closing?]
    have hrest : ¬IsOpener line → ¬IsCloser line → ∀ j, ¬EndsAt rest j := fun hopen hclose j hj =>
      h (j + 1) (endsAt_succ.2 ⟨⟨hopen, hclose⟩, hj⟩)
    have hclose : ¬IsCloser line := fun hclose => h 0 (endsAt_zero.2 hclose)
    by_cases hopen : IsOpener line
    · obtain ⟨category, hline⟩ := isOpener_iff.1 hopen
      rw [hline]
    · cases hline : BlockLine.read line.toList with
      | opener category => rfl
      | closer => exact absurd (isCloser_iff.2 hline) hclose
      | tag key first => exact ih (hrest hopen hclose) _
      | other l => exact ih (hrest hopen hclose) _

/-- Lines that open nothing give nothing. -/
theorem ofLines_eq_nil {origin : String} {number : Nat} (h : ∀ l ∈ lines, ¬IsOpener l) :
    ofLines origin number none (lines.map String.toList) = [] := by
  induction lines generalizing number with
  | nil => rfl
  | cons line rest ih =>
    obtain ⟨hline, hrest⟩ := List.forall_mem_cons.1 h
    rw [List.map_cons, ofLines_none (isOpener_iff_hasOpenForm.not.1 hline)]
    exact ih hrest

theorem excerpt_zero : excerpt (line :: rest) 0 (j + 1) =
    "\n".intercalate (line :: rest.take (j + 1)) := rfl

theorem excerpt_succ : excerpt (line :: rest) (i + 1) (j + 1) = excerpt rest i j := by
  rw [excerpt, excerpt, List.drop_succ_cons, Nat.succ_sub_succ]

/-- Written line by line, lines give what they are given as. -/
theorem parse_intercalate (origin : String) (hlines : ∀ l ∈ lines, '\n' ∉ l.toList)
    (hlast : ∀ l ∈ lines.getLast?, l ≠ "") : parse ("\n".intercalate lines) origin =
      ofLines origin 1 none (lines.map String.toList) := by
  have hreads := (Text.spelled_intercalate hlast).reads hlines
  exact ofLines_congr (hreads.imp fun _ _ h => h.trim)

/-- What a block gives that opens at the first line. -/
theorem parse_excerpt_zero (origin : String) (hlines : ∀ l ∈ line :: rest, '\n' ∉ l.toList)
    (h : EndsAt rest j) : parse (excerpt (line :: rest) 0 (j + 1)) origin =
      (fragmentAt? origin 1 line.toList (rest.map String.toList)).toList := by
  obtain ⟨l, hl, hclose⟩ := h.closer
  have hnext : ∀ k < j + 1, ∀ l, rest[k]? = some l → ¬IsOpener l := by
    intro k hk l' hl'
    rcases Nat.lt_or_eq_of_le (Nat.le_of_lt_succ hk) with hlt | rfl
    · exact (h.before k hlt l' hl').1
    · rw [← Option.some.inj (hl.symm.trans hl')]
      exact not_isOpener_of_isCloser hclose
  have hplain : ∀ l ∈ rest.take (j + 1), ¬IsOpener l := by
    intro l' hl'
    obtain ⟨k, hk⟩ := List.mem_iff_getElem?.1 hl'
    rw [List.getElem?_take] at hk
    split at hk
    · rename_i hlt
      exact hnext k hlt l' hk
    · cases hk
  -- the last line closes the block, so it is not empty
  have hne : l ≠ "" := by
    rintro rfl
    rw [isCloser_iff] at hclose
    exact absurd hclose (by decide)
  have hlast : ∀ l' ∈ (line :: rest.take (j + 1)).getLast?, l' ≠ "" := by
    rw [List.getLast?_cons, List.getLast?_take, if_neg (by omega), Nat.add_sub_cancel, hl]
    simpa using hne
  have hsub : ∀ l' ∈ line :: rest.take (j + 1), '\n' ∉ l'.toList := fun l' hl' =>
    hlines l' (List.cons_subset_cons line (List.take_subset _ _) hl')
  rw [excerpt_zero, parse_intercalate origin hsub hlast, List.map_cons, ofLines_cons,
    ofLines_eq_nil hplain, List.append_nil]
  congr 1
  -- the block hangs on the lines up to its end
  refine Option.bind_congr fun category _ => ?_
  obtain ⟨f, hall, htake⟩ := h.closing? (.start origin 1 category)
  rw [hall, htake]

/-- **A closed block gives one fragment.** -/
theorem parse_excerpt (origin : String) (hlines : ∀ l ∈ lines, '\n' ∉ l.toList)
    (h : Closed lines i j) :
    ∃ f, parse (excerpt lines i j) origin = [f] ∧ f.source = some (origin ++ ":1") := by
  induction lines generalizing i j with
  | nil =>
    obtain ⟨l, hl, -⟩ := h.opener
    cases hl
  | cons line rest ih =>
    obtain ⟨j, rfl⟩ := Nat.exists_eq_add_one.2 (Nat.zero_lt_of_lt h.lt)
    cases i with
    | zero =>
      obtain ⟨hopen, hends⟩ := closed_zero.1 h
      obtain ⟨category, hcategory⟩ := isOpener_iff_hasOpenForm.1 hopen
      obtain ⟨f, hf, -⟩ := hends.closing? (.start origin 1 category)
      have hat : fragmentAt? origin 1 line.toList (rest.map String.toList) = some f := by
        rw [fragmentAt?, BlockLine.openerCategory?_eq_some_iff.2 hcategory, Option.bind_some, hf]
      refine ⟨f, ?_, ?_⟩
      · rw [parse_excerpt_zero origin hlines hends, hat]
        rfl
      · rw [source_of_fragmentAt? hat, String.append_assoc]
        rfl
    | succ i =>
      rw [excerpt_succ]
      exact ih (fun l hl => hlines l (List.mem_cons_of_mem _ hl)) (closed_succ.1 h)

/-! ### All closed blocks -/

/-- The closed blocks of lines, in the order in which they open. -/
structure AreClosed (lines : List String) (blocks : List (Nat × Nat)) : Prop where
  ordered : blocks.Pairwise (fun p q => p.1 < q.1)
  mem_iff : ∀ i j, (i, j) ∈ blocks ↔ Closed lines i j

/-- The place of a block if one more line comes in front. -/
def behind (p : Nat × Nat) : Nat × Nat := (p.1 + 1, p.2 + 1)

theorem areClosed_nil : AreClosed [] [] where
  ordered := .nil
  mem_iff i j := by
    refine ⟨fun h => absurd h List.not_mem_nil, fun h => ?_⟩
    obtain ⟨l, hl, -⟩ := h.opener
    cases hl

namespace AreClosed

variable {blocks : List (Nat × Nat)}

theorem ordered_map_behind (h : AreClosed rest blocks) :
    (blocks.map behind).Pairwise (fun p q => p.1 < q.1) :=
  List.pairwise_map.2 (h.ordered.imp fun hlt => Nat.succ_lt_succ hlt)

theorem mem_map_behind (h : AreClosed rest blocks) (line : String) (i j : Nat) :
    (i, j) ∈ blocks.map behind ↔ 0 < i ∧ Closed (line :: rest) i j := by
  constructor
  · intro hij
    obtain ⟨⟨i', j'⟩, hp, heq⟩ := List.mem_map.1 hij
    obtain ⟨rfl, rfl⟩ := Prod.mk.inj heq
    exact ⟨Nat.succ_pos i', closed_succ.2 ((h.mem_iff i' j').1 hp)⟩
  · rintro ⟨hi, hclosed⟩
    obtain ⟨i', rfl⟩ := Nat.exists_eq_add_one.2 hi
    obtain ⟨j', rfl⟩ := Nat.exists_eq_add_one.2 (Nat.zero_lt_of_lt hclosed.lt)
    exact List.mem_map.2 ⟨(i', j'), (h.mem_iff i' j').2 (closed_succ.1 hclosed), rfl⟩

/-- A line at which a closed block opens adds that block. -/
theorem cons_closed (h : AreClosed rest blocks) (hfirst : Closed (line :: rest) 0 j) :
    AreClosed (line :: rest) ((0, j) :: blocks.map behind) where
  ordered := by
    refine List.pairwise_cons.2 ⟨fun p hp => ?_, h.ordered_map_behind⟩
    exact ((h.mem_map_behind line p.1 p.2).1 hp).1
  mem_iff i j' := by
    rw [List.mem_cons, h.mem_map_behind line, Prod.mk.injEq]
    constructor
    · rintro (⟨rfl, rfl⟩ | ⟨-, hclosed⟩)
      · exact hfirst
      · exact hclosed
    · intro hclosed
      rcases Nat.eq_zero_or_pos i with rfl | hi
      · exact .inl ⟨rfl, hclosed.unique hfirst⟩
      · exact .inr ⟨hi, hclosed⟩

/-- Any other line adds none. -/
theorem cons (h : AreClosed rest blocks) (hfirst : ∀ j, ¬Closed (line :: rest) 0 j) :
    AreClosed (line :: rest) (blocks.map behind) where
  ordered := h.ordered_map_behind
  mem_iff i j := by
    rw [h.mem_map_behind line]
    refine ⟨fun hij => hij.2, fun hclosed => ⟨Nat.pos_of_ne_zero ?_, hclosed⟩⟩
    rintro rfl
    exact hfirst j hclosed

end AreClosed

/-- What lines give, the first of them having the given number: the fragments of the closed blocks
in their order. -/
theorem exists_areClosed (origin : String) (number : Nat)
    (hlines : ∀ l ∈ lines, '\n' ∉ l.toList) : ∃ blocks, AreClosed lines blocks ∧
      ofLines origin number none (lines.map String.toList) = blocks.flatMap fun p =>
        (parse (excerpt lines p.1 p.2) origin).map
          (·.withSource (origin ++ ":" ++ (number + p.1).repr)) := by
  induction lines generalizing number with
  | nil => exact ⟨[], areClosed_nil, rfl⟩
  | cons line rest ih =>
    obtain ⟨blocks, hblocks, heq⟩ :=
      ih (number + 1) fun l hl => hlines l (List.mem_cons_of_mem _ hl)
    have hbehind : ofLines origin (number + 1) none (rest.map String.toList) =
        (blocks.map behind).flatMap fun p =>
          (parse (excerpt (line :: rest) p.1 p.2) origin).map
            (·.withSource (origin ++ ":" ++ (number + p.1).repr)) := by
      rw [heq, List.flatMap_map]
      refine List.flatMap_congr fun p _ => ?_
      rw [behind, excerpt_succ, Nat.add_assoc, Nat.add_comm 1]
    rw [List.map_cons, ofLines_cons, hbehind, fragmentAt?_eq_map]
    by_cases hfirst : ∃ j, Closed (line :: rest) 0 (j + 1)
    · obtain ⟨j, hj⟩ := hfirst
      refine ⟨(0, j + 1) :: blocks.map behind, hblocks.cons_closed hj, ?_⟩
      rw [List.flatMap_cons, parse_excerpt_zero origin hlines (closed_zero.1 hj).2, Nat.add_zero,
        Option.toList_map]
    · have hnone : ∀ j, ¬Closed (line :: rest) 0 j := by
        intro j hj
        obtain ⟨j', rfl⟩ := Nat.exists_eq_add_one.2 hj.lt
        exact hfirst ⟨j', hj⟩
      refine ⟨blocks.map behind, hblocks.cons hnone, ?_⟩
      have hat : fragmentAt? origin 1 line.toList (rest.map String.toList) = none := by
        refine Option.bind_eq_none_iff.2 fun category hcategory => ?_
        have hopen : IsOpener line := isOpener_iff_hasOpenForm.2
          ⟨category, BlockLine.openerCategory?_eq_some_iff.1 hcategory⟩
        exact closing?_eq_none (fun j hj => hfirst ⟨j, closed_zero.2 ⟨hopen, hj⟩⟩) _
      rw [hat]
      rfl

/-- **Blocks are read each on its own.** The closed blocks of a text do not overlap. The lines of
each one, taken alone, give one fragment, and the text gives these fragments in order, but for the
number of the line in their sources; lines outside of closed blocks give nothing. -/
theorem parse_local (text origin : String) : ∃ blocks : List (Nat × Nat),
    blocks.Pairwise (fun p q => p.2 < q.1) ∧
      (∀ i j, (i, j) ∈ blocks ↔ Closed (Text.lines text) i j) ∧
      (∀ p ∈ blocks, ∃ f, parse (excerpt (Text.lines text) p.1 p.2) origin = [f] ∧
        f.source = some (origin ++ ":1")) ∧
      parse text origin = blocks.flatMap fun p =>
        (parse (excerpt (Text.lines text) p.1 p.2) origin).map
          (·.withSource (origin ++ ":" ++ (p.1 + 1).repr)) := by
  have hlines : ∀ l ∈ Text.lines text, '\n' ∉ l.toList := fun _ => Text.not_mem_of_mem_lines
  obtain ⟨blocks, hblocks, heq⟩ := exists_areClosed origin 1 hlines
  refine ⟨blocks, ?_, hblocks.mem_iff, ?_, ?_⟩
  · refine hblocks.ordered.imp_of_mem fun hp hq hlt => ?_
    exact ((hblocks.mem_iff _ _).1 hp).lt_of_lt ((hblocks.mem_iff _ _).1 hq) hlt
  · exact fun p hp => parse_excerpt origin hlines ((hblocks.mem_iff p.1 p.2).1 hp)
  · rw [parse, ← Text.map_toList_lines, heq]
    exact List.flatMap_congr fun p _ => by rw [Nat.add_comm]

/-- A block that another one abandons leaves nothing behind, and neither does a tag outside. -/
example : parse "@a 1\n<--[event]\n@b 2\n <--[tag]\n@C 3\n4\n-->\n-->\n" "x" =
    [{ category := "tag", source := some "x:4", tags := [("c", "3\n4")] }] := by
  decide +kernel

end Block

end DocLint

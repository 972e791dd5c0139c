import DocLint.Proofs.Attribution
import DocLint.Proofs.Block
import DocLint.Proofs.Entries
import DocLint.Proofs.WellFormed

/-!
# Names of what blocks give

The values in blocks are trimmed, categories stand on one line, and a source is the origin of the
text with the number of a line (`Fragment.IsFromBlock`). No line takes this from an open block, so
all that a text gives has it (`Block.isFromBlock_of_mem_parse`). The names under which such
fragments are reported start with something else than white space, and they have no line feed unless
they are names of entities (`Fragment.IsFromBlock.exists_entity`): an entity has a whole value as
its name, but an event has names on single lines.
-/

namespace DocLint

/-- What a fragment is like that a block gives, in a text of some origin. -/
structure Fragment.IsFromBlock (f : Fragment) (origin : String) : Prop where
  values : ∀ t ∈ f.tags, Text.trim t.2 = t.2
  category : '\n' ∉ f.category.toList
  source : ∃ number : Nat, f.source = some (origin ++ ":" ++ number.repr)

/-! ## Reading blocks -/

namespace OpenBlock

variable {origin : String} {b : OpenBlock}

theorem isFromBlock_start {number : Nat} {category : List Char} (h : '\n' ∉ category) :
    (start origin number category).fragment.IsFromBlock origin where
  values := List.forall_mem_nil _
  category := by rwa [start, String.toList_ofList]
  source := ⟨number, rfl⟩

theorem isFromBlock_close (h : b.fragment.IsFromBlock origin) : b.close.IsFromBlock origin := by
  obtain ⟨f, current⟩ := b
  cases current with
  | none => exact h
  | some t =>
    refine ⟨?_, h.category, h.source⟩
    change ∀ t' ∈ f.tags ++ [t.close], Text.trim t'.2 = t'.2
    refine List.forall_mem_append.2 ⟨h.values, List.forall_mem_singleton.2 ?_⟩
    simp only [OpenTag.close, Text.trim, String.toList_ofList, Text.trimChars_trimChars]

/-- **Every line keeps what is known of an open block.** -/
theorem isFromBlock_of_closing? {lines : List (List Char)} {f : Fragment}
    (hb : b.fragment.IsFromBlock origin) (h : b.closing? lines = some f) :
    f.IsFromBlock origin := by
  induction lines generalizing b with
  | nil => cases h
  | cons line rest ih =>
    cases hline : BlockLine.read line with
    | opener category => simp only [closing?, hline, reduceCtorEq] at h
    | closer =>
      simp only [closing?, hline, Option.some.injEq] at h
      exact h ▸ isFromBlock_close hb
    | tag key first =>
      simp only [closing?, hline] at h
      have hstart : (b.startTag key first).fragment.IsFromBlock origin := isFromBlock_close hb
      exact ih hstart h
    | other line =>
      simp only [closing?, hline] at h
      have hadd : (b.addLine line).fragment.IsFromBlock origin := hb
      exact ih hadd h

end OpenBlock

namespace Block

variable {origin : String} {f : Fragment}

theorem isFromBlock_of_mem_ofLines {number : Nat} {lines : List (List Char)}
    (hlines : ∀ l ∈ lines, '\n' ∉ l) (h : f ∈ ofLines origin number none lines) :
    f.IsFromBlock origin := by
  induction lines generalizing number with
  | nil => cases h
  | cons line rest ih =>
    obtain ⟨hline, hrest⟩ := List.forall_mem_cons.1 hlines
    rw [ofLines_cons, List.mem_append, Option.mem_toList] at h
    rcases h with h | h
    · obtain ⟨category, hcategory, hclosing⟩ := Option.bind_eq_some_iff.1 h
      rw [BlockLine.openerCategory?_eq_some_iff] at hcategory
      have hopen : '\n' ∉ category := by
        intro hc
        apply hline
        apply Text.mem_of_mem_trimChars
        rw [hcategory]
        exact List.mem_append_left _ (List.mem_append_right _ hc)
      exact OpenBlock.isFromBlock_of_closing? (OpenBlock.isFromBlock_start hopen) hclosing
    · exact ih hrest h

theorem isFromBlock_of_mem_parse {text : String} (h : f ∈ parse text origin) :
    f.IsFromBlock origin :=
  isFromBlock_of_mem_ofLines (fun _ hl => Text.not_mem_of_mem_lineChars hl) h

/-- A text gives something if it has a closed block. -/
theorem parse_ne_nil {text : String} {i j : Nat} (h : Closed (Text.lines text) i j) :
    parse text origin ≠ [] := by
  have hlines : ∀ l ∈ Text.lines text, '\n' ∉ l.toList := fun _ => Text.not_mem_of_mem_lines
  obtain ⟨blocks, hblocks, heq⟩ := exists_areClosed origin 1 hlines
  obtain ⟨f, hf, -⟩ := parse_excerpt origin hlines h
  rw [parse, ← Text.map_toList_lines, heq]
  intro hnil
  have hempty := List.flatMap_eq_nil_iff.1 hnil (i, j) ((hblocks.mem_iff i j).2 h)
  simp [hf] at hempty

end Block

/-! ## How texts start -/

namespace Text

/-- A text that starts with something else than white space. -/
def StartsInk (s : List Char) : Prop := ∃ c ∈ s.head?, isSpace c = false

theorem startsInk_of_trimChars {s : List Char} (h : trimChars s = s) (hne : s ≠ []) :
    StartsInk s := by
  obtain ⟨c, rest, rfl⟩ := List.exists_cons_of_ne_nil hne
  exact ⟨c, rfl, isSpace_head_of_trimChars h⟩

/-- The first line of a trimmed value starts where the value does. -/
theorem startsInk_of_entryChars {s line : List Char} {rest : List (List Char)}
    (h : trimChars s = s) (hentries : entryChars s = line :: rest) : StartsInk line := by
  have hne : s ≠ [] := by
    rintro rfl
    cases hentries
  obtain ⟨c, t, rfl⟩ := List.exists_cons_of_ne_nil hne
  have hc : isSpace c = false := isSpace_head_of_trimChars h
  have hfeed : c ≠ '\n' := by
    rintro rfl
    cases hc
  obtain ⟨p, ps, hp⟩ := List.exists_cons_of_ne_nil (pieces_ne_nil '\n' t)
  have hfirst : ∃ p', dropReturn (c :: p) = c :: p' := by
    cases p with
    | nil =>
      refine ⟨[], dropReturn_of_getLast? ?_⟩
      rw [List.getLast?_singleton, Ne, Option.some.injEq]
      rintro rfl
      cases hc
    | cons d p =>
      unfold dropReturn
      split
      · exact ⟨_, rfl⟩
      · exact ⟨_, rfl⟩
  obtain ⟨p', hp'⟩ := hfirst
  have hhead : entryChars (c :: t) = (c :: p') :: (ps.map dropReturn).filter (· ≠ []) := by
    rw [entryChars, pieces, hp]
    simp [hfeed, hp']
  rw [hhead, List.cons.injEq] at hentries
  exact ⟨c, hentries.1 ▸ rfl, hc⟩

end Text

/-! ## Names of records -/

namespace Category

variable {c : Category} {v name : String} {aliases : List String}

theorem startsInk_of_namesIn (hv : Text.trim v = v) (h : c.namesIn v = name :: aliases) :
    Text.StartsInk name.toList := by
  unfold namesIn at h
  split at h
  · rw [Text.entries, List.map_eq_cons_iff] at h
    obtain ⟨line, rest, hentries, rfl, -⟩ := h
    rw [String.toList_ofList]
    exact Text.startsInk_of_entryChars (Text.trimChars_of_trim hv) hentries
  · split at h
    · cases h
    · rename_i hblank
      obtain ⟨rfl, -⟩ := List.cons.inj h
      rw [Text.toList_trim]
      refine Text.startsInk_of_trimChars (Text.trimChars_trimChars _) fun hnil => hblank ?_
      rw [← Text.trim_eq_empty_iff, Text.trim, hnil]

/-- The names of events stand on single lines. -/
theorem not_mem_of_namesIn_event (h : namesIn .event v = name :: aliases) : '\n' ∉ name.toList := by
  rw [namesIn, if_pos rfl, Text.entries, List.map_eq_cons_iff] at h
  obtain ⟨line, rest, hentries, rfl, -⟩ := h
  rw [String.toList_ofList]
  exact (Text.of_mem_entryChars (hentries ▸ List.mem_cons_self)).2

end Category

namespace Fragment

variable {f : Fragment} {origin name : String} {aliases : List String} {i : Nat}

/-- The names that a fragment declares are those in one value. -/
theorem exists_namesIn (h : f.declared = name :: aliases) : ∃ c v, f.category? = some c ∧
    Tags.last? f.tags c.nameKey = some v ∧ c.namesIn v = name :: aliases := by
  cases hc : f.category? with
  | none => simp [declared_eq_nil hc] at h
  | some c =>
    rw [declared_eq hc] at h
    cases hv : Tags.last? f.tags c.nameKey with
    | none => simp [hv] at h
    | some v =>
      rw [hv, Option.elim_some] at h
      exact ⟨c, v, rfl, hv, h⟩

theorem startsInk_placeholder : Text.StartsInk (f.placeholder i).toList := by
  unfold placeholder
  split <;> exact ⟨'<', by simp, rfl⟩

namespace IsFromBlock

theorem trim_of_last? (h : f.IsFromBlock origin) {k : Key} {v : String}
    (hv : Tags.last? f.tags k = some v) : Text.trim v = v :=
  h.values (k.text, v) (Tags.mem_of_last? hv)

theorem not_mem_placeholder (h : f.IsFromBlock origin) (horigin : '\n' ∉ origin.toList) :
    '\n' ∉ (f.placeholder i).toList := by
  obtain ⟨number, hsource⟩ := h.source
  have hnumber : '\n' ∉ Nat.toDigits 10 number := by
    intro hc
    exact absurd (Nat.isDigit_of_mem_toDigits (by decide) (by decide) hc) (by decide)
  rw [placeholder, hsource]
  simp [h.category, horigin, hnumber]

/-- The name under which a fragment is reported starts with something else than white space. -/
theorem startsInk_reportName (h : f.IsFromBlock origin) :
    Text.StartsInk (f.reportName i).toList := by
  rw [reportName]
  cases hd : f.declared with
  | nil => exact startsInk_placeholder
  | cons name aliases =>
    obtain ⟨c, v, -, hv, hnames⟩ := exists_namesIn hd
    exact Category.startsInk_of_namesIn (h.trim_of_last? hv) hnames

/-- **Only names of entities have line feeds.** -/
theorem exists_entity (h : f.IsFromBlock origin) (horigin : '\n' ∉ origin.toList)
    (hfeed : '\n' ∈ (f.reportName i).toList) :
    ∃ x, f.record? = some (.entity x) ∧ x.name = f.reportName i := by
  rw [reportName] at hfeed ⊢
  cases hd : f.declared with
  | nil =>
    rw [hd] at hfeed
    exact absurd hfeed (h.not_mem_placeholder horigin)
  | cons name aliases =>
    rw [hd] at hfeed
    obtain ⟨c, v, hc, -, hnames⟩ := exists_namesIn hd
    have hevent : c ≠ .event := by
      rintro rfl
      exact Category.not_mem_of_namesIn_event hnames hfeed
    have hrecord := record?_eq_some hc hd
    rw [Record.ofValues, dif_neg hevent] at hrecord
    exact ⟨_, hrecord, rfl⟩

end IsFromBlock

end Fragment

end DocLint

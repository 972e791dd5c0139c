import DocLint.Proofs.Block

/-!
# Writing blocks

A fragment is written as a block: a line with its category, for each tag a line with the key and
the first line of the value and then the other lines of that, and the line that closes the block
(`Block.blockLines`). Lines may be indented, line ends may be of both kinds, and any lines that open
no block may stand between the blocks (`Block.Written`). If no line of a value would be read as
something else (`Block.Writable`), the fragments are read back as they were. The main statement is
`Block.parse_written`.
-/

namespace DocLint

namespace Block

/-! ## What is written -/

/-- A value that can stand in a block: it is empty, or all its lines are trimmed, the first and the
last are not empty, and no line after the first would start a tag, close the block or open one. -/
def IsWritableValue (value : String) : Prop :=
  value = "" ∨
    (∀ row ∈ Text.rows value, Text.trim row = row) ∧
      (Text.rows value).head? ≠ some "" ∧ (Text.rows value).getLast? ≠ some "" ∧
      ∀ row ∈ (Text.rows value).tail,
        row.toList.head? ≠ some '@' ∧ ¬IsCloser row ∧ ¬IsOpener row

/-- A fragment that can be written as a block. -/
structure Writable (f : Fragment) : Prop where
  category : '\n' ∉ f.category.toList
  noSpace : ∀ t ∈ f.tags, ∀ c ∈ t.1.toList, Text.isSpace c = false
  lowercase : ∀ t ∈ f.tags, Unicode.lowercase t.1 = t.1
  value : ∀ t ∈ f.tags, IsWritableValue t.2

instance : DecidablePred IsWritableValue := fun _ => inferInstanceAs (Decidable (_ ∨ _))

/-- The line on which a tag starts. -/
def tagLine (key first : String) : String :=
  if first = "" then "@" ++ key else "@" ++ key ++ " " ++ first

/-- The lines of a tag: the key with the first line of the value, if that is not empty, and then
the other lines. -/
def tagLines (t : String × String) : List String :=
  match Text.rows t.2 with
  | [] => []
  | first :: rest => tagLine t.1 first :: rest

/-- The lines of a fragment. -/
def blockLines (f : Fragment) : List String :=
  ("<--[" ++ f.category ++ "]") :: (f.tags.flatMap tagLines ++ ["-->"])

/-- Lines in which fragments are written one after the other, each as a block. The first line has
the given number, and each fragment has the number of its first line in its source. -/
inductive Written (origin : String) : Nat → List Fragment → List String → Prop
  | nil {number : Nat} : Written origin number [] []
  | other {number : Nat} {line : String} {lines : List String} {fs : List Fragment}
      (hline : '\n' ∉ line.toList) (hopen : ¬IsOpener line)
      (h : Written origin (number + 1) fs lines) : Written origin number fs (line :: lines)
  | block {number : Nat} {f : Fragment} {block lines : List String} {fs : List Fragment}
      (hf : Writable f) (hsource : f.source = some (origin ++ ":" ++ number.repr))
      (hblock : List.Forall₂ Text.IsPadded (blockLines f) block)
      (h : Written origin (number + block.length) fs lines) :
      Written origin number (f :: fs) (block ++ lines)

/-! ## No line of a block has a line feed in it -/

theorem not_mem_of_mem_tagLines {t : String × String} {line : String}
    (hkey : ∀ c ∈ t.1.toList, Text.isSpace c = false) (h : line ∈ tagLines t) :
    '\n' ∉ line.toList := by
  have hrows : ∀ row ∈ Text.rows t.2, '\n' ∉ row.toList := fun _ => Text.not_mem_of_mem_rows
  have hkey' : '\n' ∉ t.1.toList := fun hc => by simpa [Text.isSpace] using hkey '\n' hc
  rw [tagLines] at h
  cases hs : Text.rows t.2 with
  | nil =>
    rw [hs] at h
    cases h
  | cons first rest =>
    rw [hs] at h hrows
    rcases List.mem_cons.1 h with rfl | h
    · have hfirst : '\n' ∉ first.toList := hrows first List.mem_cons_self
      rw [tagLine]
      split <;> simp [hkey', hfirst]
    · exact hrows line (List.mem_cons_of_mem _ h)

theorem Writable.not_mem {f : Fragment} (hf : Writable f) {line : String}
    (h : line ∈ blockLines f) : '\n' ∉ line.toList := by
  rcases List.mem_cons.1 h with rfl | h
  · simp [hf.category]
  rcases List.mem_append.1 h with h | h
  · obtain ⟨t, ht, h⟩ := List.mem_flatMap.1 h
    exact not_mem_of_mem_tagLines (hf.noSpace t ht) h
  · rw [List.mem_singleton.1 h]
    simp

theorem Written.not_mem {origin : String} {number : Nat} {fs : List Fragment}
    {lines : List String} (h : Written origin number fs lines) :
    ∀ line ∈ lines, '\n' ∉ line.toList := by
  induction h with
  | nil => exact fun line hline => absurd hline List.not_mem_nil
  | other hline _ _ ih => exact List.forall_mem_cons.2 ⟨hline, ih⟩
  | block hf _ hblock _ ih =>
    have hlines := Text.not_mem_of_forall₂_isPadded hblock fun line => hf.not_mem
    exact List.forall_mem_append.2 ⟨hlines, ih⟩

/-! ## Reading the lines of a tag -/

variable {origin : String} {number : Nat}

/-- A line of a value that is not the first. -/
theorem read_row {row : String} (htrim : Text.trim row = row) (htag : row.toList.head? ≠ some '@')
    (hclose : ¬IsCloser row) (hopen : ¬IsOpener row) :
    BlockLine.read row.toList = .other row.toList := by
  have htrim' : Text.trimChars row.toList = row.toList := Text.trimChars_of_trim htrim
  rw [isOpener_iff_hasOpenForm] at hopen
  rw [isCloser_iff_closeSign] at hclose
  rw [BlockLine.read_other hopen hclose (htrim'.symm ▸ htag), htrim']

/-- The line on which a tag starts. -/
theorem read_tagLine {key first : String} (hkey : ∀ c ∈ key.toList, Text.isSpace c = false)
    (hfirst : Text.trim first = first) : BlockLine.read (tagLine key first).toList =
      .tag key.toList first.toList := by
  have htrim : Text.trimChars first.toList = first.toList := Text.trimChars_of_trim hfirst
  have hne : ∀ c ∈ key.toList, (c != ' ') = true := by
    intro c hc
    rw [bne_iff_ne]
    rintro rfl
    exact absurd (hkey ' ' hc) (by decide)
  have hat : Text.isSpace '@' = false := rfl
  rw [tagLine]
  split
  · rename_i hempty
    subst hempty
    have hline : ("@" ++ key).toList = '@' :: key.toList := by simp
    have hself : Text.trimChars ('@' :: key.toList) = '@' :: key.toList := by
      refine Text.trimChars_eq_self_iff.2 ⟨by simpa using hat, fun c hc => ?_⟩
      rcases List.mem_cons.1 (List.mem_of_getLast? hc) with rfl | hc
      · exact hat
      · exact hkey c hc
    rw [hline, BlockLine.read_tag hself, List.takeWhile_eq_self_iff.2 hne,
      List.dropWhile_eq_nil_iff.2 hne]
    rfl
  · rename_i hempty
    have hempty' : first.toList ≠ [] := fun h => hempty (String.toList_eq_nil_iff.1 h)
    have hline : ("@" ++ key ++ " " ++ first).toList =
        '@' :: (key.toList ++ ' ' :: first.toList) := by simp
    have hself : Text.trimChars ('@' :: (key.toList ++ ' ' :: first.toList)) =
        '@' :: (key.toList ++ ' ' :: first.toList) := by
      refine Text.trimChars_eq_self_iff.2 ⟨by simpa using hat, fun c hc => ?_⟩
      obtain ⟨l, hl⟩ := Option.ne_none_iff_exists'.1 (List.getLast?_eq_none_iff.not.2 hempty')
      have hlast : c ∈ first.toList.getLast? := by
        have hsplit : '@' :: (key.toList ++ ' ' :: first.toList) =
            ('@' :: key.toList ++ [' ']) ++ first.toList := by simp
        rw [hsplit, List.getLast?_append, hl] at hc
        rw [hl]
        exact hc
      exact (Text.trimChars_eq_self_iff.1 htrim).2 c hlast
    have hsep : ∀ rest, (' ' :: rest).takeWhile (· != ' ') = [] := by simp
    have hsep' : ∀ rest, (' ' :: rest).dropWhile (· != ' ') = ' ' :: rest := by simp
    rw [hline, BlockLine.read_tag hself, List.takeWhile_append_of_pos hne,
      List.dropWhile_append_of_pos hne, hsep, hsep', List.append_nil, List.drop_one, List.tail_cons,
      htrim]

/-- Lines of a value belong to the tag whose value they go on with. -/
theorem ofLines_rows {rows : List String} {f : Fragment} {key : String}
    {ls : List (List Char)} (hrows : ∀ row ∈ rows, BlockLine.read row.toList = .other row.toList)
    (lines : List (List Char)) :
    ofLines origin number (some ⟨f, some ⟨key, ls⟩⟩) (rows.map String.toList ++ lines) =
      ofLines origin (number + rows.length)
        (some ⟨f, some ⟨key, ls ++ rows.map String.toList⟩⟩) lines := by
  induction rows generalizing number ls with
  | nil => simp
  | cons row rows ih =>
    obtain ⟨hrow, hrows⟩ := List.forall_mem_cons.1 hrows
    have hstep : (⟨f, some ⟨key, ls⟩⟩ : OpenBlock).addLine row.toList =
        ⟨f, some ⟨key, ls ++ [row.toList]⟩⟩ := rfl
    rw [List.map_cons, List.cons_append, ofLines_other hrow, hstep, ih hrows, List.length_cons,
      List.append_assoc, Nat.add_assoc, Nat.add_comm 1]
    rfl

/-! ## Reading tags -/

/-- A value that can stand in a block is trimmed. -/
theorem trimChars_of_isWritableValue {value : String} (h : IsWritableValue value) :
    Text.trimChars value.toList = value.toList := by
  rcases h with rfl | ⟨htrim, hfirst, hlast, -⟩
  · rfl
  have hpieces := Text.map_toList_rows value
  have hvalue : ['\n'].intercalate ((Text.rows value).map String.toList) = value.toList := by
    rw [hpieces, Text.intercalate_pieces]
  have hself : ∀ row ∈ Text.rows value, Text.trimChars row.toList = row.toList :=
    fun row hrow => Text.trimChars_of_trim (htrim row hrow)
  have hne : Text.rows value ≠ [] := by
    intro h
    rw [h] at hpieces
    exact Text.pieces_ne_nil _ _ hpieces.symm
  refine Text.trimChars_eq_self_iff.2 ⟨fun c hc => ?_, fun c hc => ?_⟩
  · obtain ⟨first, rest, hrows⟩ := List.exists_cons_of_ne_nil hne
    have hempty : first.toList ≠ [] := by
      intro h
      rw [hrows, String.toList_eq_nil_iff.1 h] at hfirst
      exact hfirst rfl
    rw [← hvalue, hrows, List.map_cons, Text.head?_intercalate hempty] at hc
    exact (Text.trimChars_eq_self_iff.1 (hself first (hrows ▸ List.mem_cons_self))).1 c hc
  · obtain ⟨last, hrows⟩ := Option.ne_none_iff_exists'.1 (List.getLast?_eq_none_iff.not.2 hne)
    have hempty : last.toList ≠ [] := by
      intro h
      rw [hrows, String.toList_eq_nil_iff.1 h] at hlast
      exact hlast rfl
    have hmap : ((Text.rows value).map String.toList).getLast? = some last.toList := by
      rw [List.getLast?_map, hrows]
      rfl
    rw [← hvalue, Text.getLast?_intercalate hmap hempty] at hc
    exact (Text.trimChars_eq_self_iff.1 (hself last (List.mem_of_getLast? hrows))).2 c hc

theorem rows_empty : Text.rows "" = [""] := rfl

/-- The lines of a value that can stand in a block, and what they come to if they are read. -/
theorem rows_of_isWritableValue {value : String} (h : IsWritableValue value) :
    ∃ first rest, Text.rows value = first :: rest ∧ Text.trim first = first ∧
      (∀ row ∈ rest, BlockLine.read row.toList = .other row.toList) ∧
      Text.trimChars (['\n'].intercalate ((if first.toList.isEmpty then [] else [first.toList]) ++
        rest.map String.toList)) = value.toList := by
  have hvalue := trimChars_of_isWritableValue h
  rcases h with rfl | ⟨htrim, hfirst, -, hplain⟩
  · exact ⟨"", [], rows_empty, rfl, fun row hrow => absurd hrow List.not_mem_nil, rfl⟩
  have hpieces := Text.map_toList_rows value
  cases hrows : Text.rows value with
  | nil =>
    rw [hrows] at hpieces
    exact absurd hpieces.symm (Text.pieces_ne_nil _ _)
  | cons first rest =>
    rw [hrows] at htrim hfirst hplain hpieces
    have hempty : first.toList.isEmpty = false := by
      rw [List.isEmpty_eq_false_iff]
      intro hnil
      exact hfirst (congrArg some (String.toList_eq_nil_iff.1 hnil))
    refine ⟨first, rest, rfl, htrim first List.mem_cons_self, fun row hrow => ?_, ?_⟩
    · obtain ⟨htag, hclose, hopen⟩ := hplain row hrow
      exact read_row (htrim row (List.mem_cons_of_mem _ hrow)) htag hclose hopen
    · have hjoin : ['\n'].intercalate (first.toList :: rest.map String.toList) = value.toList := by
        rw [← List.map_cons, hpieces, Text.intercalate_pieces]
      rw [hempty, if_neg Bool.false_ne_true, List.singleton_append, hjoin, hvalue]

/-- **A tag is read as it was written.** What matters of an open block is the fragment that comes of
it if it is closed. -/
theorem ofLines_tagLines (origin : String) (number : Nat) {t : String × String} (b : OpenBlock)
    (hkey : ∀ c ∈ t.1.toList, Text.isSpace c = false) (hlower : Unicode.lowercase t.1 = t.1)
    (hvalue : IsWritableValue t.2) (lines : List (List Char)) :
    ∃ b' : OpenBlock, b'.close = b.close.tag t.1 t.2 ∧
      ofLines origin number (some b) ((tagLines t).map String.toList ++ lines) =
        ofLines origin (number + (tagLines t).length) (some b') lines := by
  obtain ⟨first, rest, hrows, hfirst, hrest, hread⟩ := rows_of_isWritableValue hvalue
  have hlines : tagLines t = tagLine t.1 first :: rest := by
    rw [tagLines, hrows]
  have hstart : b.startTag t.1.toList first.toList =
      ⟨b.close, some ⟨t.1, if first.toList.isEmpty then [] else [first.toList]⟩⟩ := by
    rw [OpenBlock.startTag, String.ofList_toList, hlower]
  have hclose : ∀ (f : Fragment) (ls : List (List Char)),
      (⟨f, some ⟨t.1, ls⟩⟩ : OpenBlock).close =
        f.tag t.1 (String.ofList (Text.trimChars (['\n'].intercalate ls))) := fun _ _ => rfl
  refine ⟨⟨b.close, some ⟨t.1, (if first.toList.isEmpty then [] else [first.toList]) ++
    rest.map String.toList⟩⟩, ?_, ?_⟩
  · rw [hclose, hread, String.ofList_toList]
  · rw [hlines, List.map_cons, List.cons_append, ofLines_tag (read_tagLine hkey hfirst), hstart,
      ofLines_rows hrest, List.length_cons, Nat.add_assoc, Nat.add_comm 1]

/-- Tags are read as they were written. -/
theorem ofLines_flatMap_tagLines (origin : String) (number : Nat) {tags : List (String × String)}
    (b : OpenBlock) (hkey : ∀ t ∈ tags, ∀ c ∈ t.1.toList, Text.isSpace c = false)
    (hlower : ∀ t ∈ tags, Unicode.lowercase t.1 = t.1) (hvalue : ∀ t ∈ tags, IsWritableValue t.2)
    (lines : List (List Char)) :
    ∃ b' : OpenBlock, b'.close = { b.close with tags := b.close.tags ++ tags } ∧
      ofLines origin number (some b) ((tags.flatMap tagLines).map String.toList ++ lines) =
        ofLines origin (number + (tags.flatMap tagLines).length) (some b') lines := by
  induction tags generalizing number b with
  | nil => exact ⟨b, by rw [List.append_nil], rfl⟩
  | cons t tags ih =>
    obtain ⟨hkey, hkeys⟩ := List.forall_mem_cons.1 hkey
    obtain ⟨hlower, hlowers⟩ := List.forall_mem_cons.1 hlower
    obtain ⟨hvalue, hvalues⟩ := List.forall_mem_cons.1 hvalue
    obtain ⟨b₁, hb₁, h₁⟩ := ofLines_tagLines origin number b hkey hlower hvalue
      ((tags.flatMap tagLines).map String.toList ++ lines)
    obtain ⟨b₂, hb₂, h₂⟩ := ih (number + (tagLines t).length) b₁ hkeys hlowers hvalues
    refine ⟨b₂, ?_, ?_⟩
    · rw [hb₂, hb₁, Fragment.tag, List.append_assoc, List.singleton_append]
    · rw [List.flatMap_cons, List.map_append, List.append_assoc, h₁, h₂, List.length_append,
        Nat.add_assoc]

/-! ## Reading blocks -/

/-- **A block is read as it was written**, with the number of its first line in the source. -/
theorem ofLines_blockLines {f : Fragment} (hf : Writable f)
    (hsource : f.source = some (origin ++ ":" ++ number.repr)) (lines : List (List Char)) :
    ofLines origin number none ((blockLines f).map String.toList ++ lines) =
      f :: ofLines origin (number + (blockLines f).length) none lines := by
  have hopen : Text.trimChars ("<--[" ++ f.category ++ "]").toList =
      BlockLine.openSign ++ f.category.toList ++ [']'] := by
    have hline : ("<--[" ++ f.category ++ "]").toList =
        BlockLine.openSign ++ f.category.toList ++ [']'] := by simp [BlockLine.openSign]
    rw [hline, Text.trimChars_eq_self_iff]
    constructor
    · simp [BlockLine.openSign, Text.isSpace]
    · simp [Text.isSpace]
  have hclose : BlockLine.read "-->".toList = .closer := by decide
  obtain ⟨b, hb, htags⟩ := ofLines_flatMap_tagLines origin (number + 1)
    (.start origin number f.category.toList) hf.noSpace hf.lowercase hf.value
    ("-->".toList :: lines)
  have hfragment : b.close = f := by
    rw [hb]
    obtain ⟨category, source, tags⟩ := f
    dsimp only at hsource
    simp [OpenBlock.start, OpenBlock.close, hsource]
  rw [blockLines, List.map_cons, List.map_append, List.cons_append, List.append_assoc,
    ofLines_opener (BlockLine.read_opener hopen), List.map_singleton, List.singleton_append, htags,
    ofLines_closer hclose, hfragment, List.length_cons, List.length_append, List.length_singleton]
  congr 2
  omega

/-- Fragments are read as they were written. -/
theorem Written.ofLines {fs : List Fragment} {lines : List String}
    (h : Written origin number fs lines) :
    Block.ofLines origin number none (lines.map String.toList) = fs := by
  induction h with
  | nil => rfl
  | other _ hopen _ ih =>
    rw [List.map_cons, ofLines_none (isOpener_iff_hasOpenForm.not.1 hopen)]
    exact ih
  | @block number f block lines fs hf hsource hblock _ ih =>
    have hsame : List.Forall₂ (fun l l' => Text.trimChars l' = Text.trimChars l)
        (lines.map String.toList) (lines.map String.toList) := List.forall₂_same.2 fun _ _ => rfl
    rw [List.map_append, ofLines_congr (List.rel_append (Text.trim_of_isPadded hblock) hsame),
      ofLines_blockLines hf hsource, hblock.length_eq, ih]

/-- **Fragments are read back as they were written.** -/
theorem parse_written {fs : List Fragment} {lines : List String} {text : String}
    (h : Written origin 1 fs lines) (htext : Text.Spelled lines text) : parse text origin = fs := by
  have hreads := htext.reads h.not_mem
  rw [parse, ofLines_congr (hreads.imp fun _ _ hline => hline.trim)]
  exact h.ofLines

/-- A value with an empty line, a tag without a value, and one without a key. -/
def serverStart : Fragment where
  category := "event"
  source := some "x:2"
  tags := [("events", "server start\n\nstart"), ("cancellable", ""), ("", "@c")]

/-- Indented lines, both kinds of line ends, and lines around that are not part of a block. -/
theorem parse_written_serverStart :
    Written "x" 1 [serverStart]
        ["-->", "\t<--[event] ", "@events server start", "", "  start", "@cancellable", "@ @c",
          "-->", "@d e"] ∧
      Text.Spelled
        ["-->", "\t<--[event] ", "@events server start", "", "  start", "@cancellable", "@ @c",
          "-->", "@d e"]
        ("-->\r\n\t<--[event] \n@events server start\n\r\n  start\n@cancellable\r\n@ @c\n" ++
          "-->\n@d e") ∧
      parse ("-->\r\n\t<--[event] \n@events server start\n\r\n  start\n@cancellable\r\n@ @c\n" ++
        "-->\n@d e") "x" = [serverStart] := by
  have hspace : ∀ t ∈ serverStart.tags, t.1.toList.all (fun c => !Text.isSpace c) = true := by
    decide +kernel
  have hwritable : Writable serverStart := by
    refine ⟨by decide +kernel, fun t ht c hc => ?_, by decide +kernel, by decide +kernel⟩
    have hc' := List.all_eq_true.1 (hspace t ht) c hc
    rwa [Bool.not_eq_true'] at hc'
  have hblock : List.Forall₂ Text.IsPadded (blockLines serverStart)
      ["\t<--[event] ", "@events server start", "", "  start", "@cancellable", "@ @c", "-->"] := by
    have hlines : blockLines serverStart =
        ["<--[event]", "@events server start", "", "start", "@cancellable", "@ @c", "-->"] := by
      decide +kernel
    rw [hlines]
    have hopener : Text.IsPadded "<--[event]" ("\t" ++ "<--[event]" ++ " ") :=
      Text.isPadded_of_all _ (by decide)
    have hrow : Text.IsPadded "start" ("  " ++ "start" ++ "") := Text.isPadded_of_all _ (by decide)
    exact .cons hopener (.cons (Text.isPadded_self _) (.cons (Text.isPadded_self _)
      (.cons hrow (List.forall₂_same.2 fun _ _ => Text.isPadded_self _))))
  have hwritten : Written "x" 1 [serverStart] ("-->" :: (_ ++ ["@d e"])) :=
    .other (by decide) (by decide) (.block hwritable rfl hblock
      (.other (by decide) (by decide) .nil))
  have htext : Text.Spelled
      ["-->", "\t<--[event] ", "@events server start", "", "  start", "@cancellable", "@ @c", "-->",
        "@d e"] _ :=
    .cons (.inr rfl) (.cons (.inl rfl) (.cons (.inl rfl) (.cons (.inr rfl) (.cons (.inl rfl)
      (.cons (.inr rfl) (.cons (.inl rfl) (.cons (.inl rfl) (.last (by decide)))))))))
  exact ⟨hwritten, htext, parse_written hwritten htext⟩

end Block

end DocLint

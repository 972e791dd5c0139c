import DocLint.Proofs.Trim
import DocLint.Text.Lines
import Mathlib.Data.List.Forall2

/-!
# Written lines

A text is written by writing lines one after the other, each with a line feed behind it or with a
carriage return and a line feed (`Text.Spelled`). Its lines are read back as they were written, but
for a carriage return at the end of a line, which counts as a part of the line end
(`Text.Spelled.reads`); white space at the ends aside, they are always read back as they were
(`Text.Reads.trim`).
-/

namespace DocLint.Text

/-! ## Pieces -/

/-- Pieces are what the library's function for lists gives. -/
theorem pieces_eq_splitOn (sep : Char) (s : List Char) : pieces sep s = s.splitOn sep := by
  induction s with
  | nil => rfl
  | cons c s ih =>
    obtain ⟨p, ps, hs⟩ := List.exists_cons_of_ne_nil (List.splitOn_ne_nil sep s)
    rw [List.splitOn_cons_eq_if_modifyHead, pieces, ih, hs]
    simp only [beq_iff_eq, List.modifyHead_cons]

theorem pieces_ne_nil (sep : Char) (s : List Char) : pieces sep s ≠ [] := by
  rw [pieces_eq_splitOn]
  exact List.splitOn_ne_nil sep s

variable {sep : Char} {s line rest : List Char}

theorem pieces_of_not_mem (h : sep ∉ line) : pieces sep line = [line] := by
  rw [pieces_eq_splitOn]
  exact List.splitOn_eq_singleton h

theorem pieces_append_cons (h : sep ∉ line) (rest : List Char) :
    pieces sep (line ++ sep :: rest) = line :: pieces sep rest := by
  rw [pieces_eq_splitOn, pieces_eq_splitOn]
  exact List.splitOn_append_cons_self_of_not_mem h rest

/-- No piece has the separator in it. -/
theorem not_mem_of_mem_pieces {piece : List Char} (h : piece ∈ pieces sep s) : sep ∉ piece := by
  induction s generalizing piece with
  | nil =>
    rw [List.mem_singleton.1 h]
    exact List.not_mem_nil
  | cons c s ih =>
    obtain ⟨p, ps, hs⟩ := List.exists_cons_of_ne_nil (pieces_ne_nil sep s)
    have hp : sep ∉ p := ih (hs ▸ List.mem_cons_self)
    have hps : ∀ q ∈ ps, sep ∉ q := fun q hq => ih (hs ▸ List.mem_cons_of_mem p hq)
    rw [pieces, hs] at h
    dsimp only at h
    split at h
    · rcases List.mem_cons.1 h with rfl | h
      · exact List.not_mem_nil
      · rcases List.mem_cons.1 h with rfl | h
        · exact hp
        · exact hps piece h
    · rename_i hc
      rcases List.mem_cons.1 h with rfl | h
      · rw [List.mem_cons, not_or]
        exact ⟨fun heq => hc heq.symm, hp⟩
      · exact hps piece h

/-- Pieces with the separator between them are the text again. -/
theorem intercalate_pieces (sep : Char) (s : List Char) : [sep].intercalate (pieces sep s) = s := by
  rw [pieces_eq_splitOn]
  exact List.intercalate_splitOn sep

theorem head?_intercalate {sep p : List Char} (hp : p ≠ []) (ps : List (List Char)) :
    (sep.intercalate (p :: ps)).head? = p.head? := by
  cases ps with
  | nil => rw [List.intercalate_singleton]
  | cons q ps =>
    rw [List.intercalate_cons_cons, List.append_assoc, List.head?_append_of_ne_nil _ hp]

theorem getLast?_intercalate {sep : List Char} {ps : List (List Char)} {p : List Char}
    (h : ps.getLast? = some p) (hp : p ≠ []) :
    (sep.intercalate ps).getLast? = p.getLast? := by
  induction ps with
  | nil => cases h
  | cons q ps ih =>
    cases ps with
    | nil =>
      obtain rfl : q = p := Option.some.inj h
      rw [List.intercalate_singleton]
    | cons r ps =>
      have hlast := ih h
      obtain ⟨c, hc⟩ := Option.ne_none_iff_exists'.1 (List.getLast?_eq_none_iff.not.2 hp)
      rw [List.intercalate_cons_cons, List.getLast?_append, hlast, hc]
      rfl

/-! ## Carriage returns -/

theorem dropReturn_append_return (line : List Char) : dropReturn (line ++ ['\r']) = line := by
  simp [dropReturn]

theorem dropReturn_of_getLast? (h : line.getLast? ≠ some '\r') : dropReturn line = line := by
  rw [dropReturn, if_neg h]

theorem trimChars_dropReturn (line : List Char) : trimChars (dropReturn line) = trimChars line := by
  by_cases h : line.getLast? = some '\r'
  · obtain ⟨front, rfl⟩ := List.getLast?_eq_some_iff.1 h
    have hspace : ∀ c ∈ ['\r'], isSpace c = true := List.forall_mem_singleton.2 rfl
    rw [dropReturn_append_return, trimChars_append_of_isSpace hspace]
  · rw [dropReturn_of_getLast? h]

theorem not_mem_dropReturn {c : Char} (h : c ∉ line) : c ∉ dropReturn line := by
  rw [dropReturn]
  split
  · exact fun hc => h (List.dropLast_subset line hc)
  · exact h

/-! ## Lines of a file -/

theorem lineChars_of_not_mem (h : '\n' ∉ line) (hne : line ≠ []) : lineChars line = [line] := by
  rw [lineChars, pieces_of_not_mem h, linesOfPieces, if_neg hne]

theorem lineChars_append_cons (h : '\n' ∉ line) (rest : List Char) :
    lineChars (line ++ '\n' :: rest) = dropReturn line :: lineChars rest := by
  rw [lineChars, pieces_append_cons h, lineChars]
  obtain ⟨p, ps, hs⟩ := List.exists_cons_of_ne_nil (pieces_ne_nil '\n' rest)
  rw [hs, linesOfPieces]

theorem not_mem_of_mem_linesOfPieces {ps : List (List Char)} (h : ∀ p ∈ ps, '\n' ∉ p) :
    ∀ l ∈ linesOfPieces ps, '\n' ∉ l := by
  induction ps with
  | nil => simp [linesOfPieces]
  | cons p ps ih =>
    have hp : '\n' ∉ p := h p List.mem_cons_self
    cases ps with
    | nil =>
      intro l hl
      rw [linesOfPieces] at hl
      split at hl
      · cases hl
      · rw [List.mem_singleton.1 hl]
        exact hp
    | cons q ps =>
      intro l hl
      rw [linesOfPieces] at hl
      rcases List.mem_cons.1 hl with rfl | hl
      · exact not_mem_dropReturn hp
      · exact ih (fun p' hp' => h p' (List.mem_cons_of_mem _ hp')) l hl

/-- No line has a line feed in it. -/
theorem not_mem_of_mem_lineChars (h : line ∈ lineChars s) : '\n' ∉ line :=
  not_mem_of_mem_linesOfPieces (fun _ hp => not_mem_of_mem_pieces hp) line h

theorem map_toList_map_ofList (ls : List (List Char)) :
    (ls.map String.ofList).map String.toList = ls := by
  rw [List.map_map]
  exact List.map_id'' (fun _ => String.toList_ofList) ls

theorem map_toList_lines (s : String) : (lines s).map String.toList = lineChars s.toList :=
  map_toList_map_ofList _

theorem not_mem_of_mem_lines {s line : String} (h : line ∈ lines s) : '\n' ∉ line.toList := by
  have hline : line.toList ∈ (lines s).map String.toList := List.mem_map_of_mem h
  rw [map_toList_lines] at hline
  exact not_mem_of_mem_lineChars hline

/-! ## Rows -/

/-- The rows of a text: its pieces between line feeds. -/
def rows (s : String) : List String := (pieces '\n' s.toList).map String.ofList

theorem map_toList_rows (s : String) : (rows s).map String.toList = pieces '\n' s.toList :=
  map_toList_map_ofList _

/-- No row has a line feed in it. -/
theorem not_mem_of_mem_rows {s row : String} (h : row ∈ rows s) : '\n' ∉ row.toList := by
  have hrow : row.toList ∈ (rows s).map String.toList := List.mem_map_of_mem h
  rw [map_toList_rows] at hrow
  exact not_mem_of_mem_pieces hrow

/-! ## Writing lines -/

/-- A text that is written line by line: behind each line comes a line feed, or a carriage return
and a line feed. Nothing need come behind the last line, unless that is empty. -/
inductive Spelled : List String → String → Prop
  | nil : Spelled [] ""
  | last {line : String} (h : line ≠ "") : Spelled [line] line
  | cons {line ending rest : String} {lines : List String} (hend : ending = "\n" ∨ ending = "\r\n")
      (hrest : Spelled lines rest) : Spelled (line :: lines) (line ++ ending ++ rest)

/-- Lines with a line feed between each and the next one are a text of these lines. -/
theorem spelled_intercalate {lines : List String} (h : ∀ l ∈ lines.getLast?, l ≠ "") :
    Spelled lines ("\n".intercalate lines) := by
  induction lines with
  | nil => exact .nil
  | cons line lines ih =>
    cases lines with
    | nil =>
      rw [String.intercalate_singleton]
      exact .last (h line rfl)
    | cons next lines =>
      rw [String.intercalate_cons_cons]
      exact .cons (.inl rfl) (ih h)

/-- How a written line is read: as it is, if there is no carriage return at its end; else some white
space may be missing at the end. -/
structure Reads (written read : List Char) : Prop where
  trim : trimChars read = trimChars written
  exact : written.getLast? ≠ some '\r' → read = written

theorem Reads.ofList_trimChars {written : String} {read : List Char}
    (h : Reads written.toList read) : String.ofList (trimChars read) = Text.trim written := by
  rw [h.trim]
  rfl

theorem Reads.refl (line : List Char) : Reads line line := ⟨rfl, fun _ => rfl⟩

/-- A line is read as it was written, with each of the line ends. -/
theorem reads_dropReturn {ending : String} (hend : ending = "\n" ∨ ending = "\r\n")
    (hline : '\n' ∉ line) (rest : List Char) :
    ∃ read, Reads line read ∧
      lineChars (line ++ ending.toList ++ rest) = read :: lineChars rest := by
  rcases hend with rfl | rfl
  · refine ⟨dropReturn line, ⟨trimChars_dropReturn line, dropReturn_of_getLast?⟩, ?_⟩
    have htext : line ++ "\n".toList ++ rest = line ++ '\n' :: rest := by simp
    rw [htext, lineChars_append_cons hline]
  · refine ⟨line, .refl line, ?_⟩
    have htext : line ++ "\r\n".toList ++ rest = (line ++ ['\r']) ++ '\n' :: rest := by simp
    have hreturn : '\n' ∉ line ++ ['\r'] := by simp [hline]
    rw [htext, lineChars_append_cons hreturn, dropReturn_append_return]

/-- **Lines are read as they were written.** -/
theorem Spelled.reads {lines : List String} {text : String} (h : Spelled lines text)
    (hlines : ∀ l ∈ lines, '\n' ∉ l.toList) :
    List.Forall₂ Reads (lines.map String.toList) (lineChars text.toList) := by
  induction h with
  | nil => exact .nil
  | @last line hne =>
    have hne' : line.toList ≠ [] := fun heq => hne (String.toList_eq_nil_iff.1 heq)
    rw [lineChars_of_not_mem (hlines line List.mem_cons_self) hne']
    exact .cons (.refl _) .nil
  | @cons line ending rest lines hend _ ih =>
    obtain ⟨read, hread, htext⟩ :=
      reads_dropReturn hend (hlines line List.mem_cons_self) rest.toList
    rw [String.toList_append, String.toList_append, htext]
    exact .cons hread (ih fun l hl => hlines l (List.mem_cons_of_mem _ hl))

/-- The first lines are read as they were written, whatever lines come behind. -/
theorem Spelled.reads_front {front back : List String} {text : String}
    (h : Spelled (front ++ back) text) (hback : back ≠ []) (hfront : ∀ l ∈ front, '\n' ∉ l.toList) :
    ∃ reads rest, lineChars text.toList = reads ++ rest ∧
      List.Forall₂ Reads (front.map String.toList) reads := by
  induction front generalizing text with
  | nil => exact ⟨[], _, rfl, .nil⟩
  | cons line front ih =>
    obtain ⟨hline, hfront⟩ := List.forall_mem_cons.1 hfront
    rw [List.cons_append] at h
    generalize hlines : front ++ back = lines at h
    cases h with
    | last hne => exact absurd hlines (List.append_ne_nil_of_right_ne_nil _ hback)
    | @cons _ ending text _ hend hrest =>
      subst hlines
      obtain ⟨reads, rest, htext, hreads⟩ := ih hrest hfront
      obtain ⟨read, hread, hsplit⟩ := reads_dropReturn hend hline text.toList
      refine ⟨read :: reads, rest, ?_, .cons hread hreads⟩
      rw [String.toList_append, String.toList_append, hsplit, htext, List.cons_append]

/-- Lines with no carriage return at the end are read as they are. -/
theorem eq_of_forall₂_reads {written reads : List (List Char)}
    (h : List.Forall₂ Reads written reads)
    (hwritten : ∀ l ∈ written, l.getLast? ≠ some '\r') : reads = written := by
  induction h with
  | nil => rfl
  | cons hline _ ih =>
    obtain ⟨hlast, hrest⟩ := List.forall_mem_cons.1 hwritten
    rw [hline.exact hlast, ih hrest]

/-- What is read of lines that come after others comes after what is read of those. -/
theorem exists_append_of_forall₂ {α β : Type} {R : α → β → Prop} {front back : List α}
    {reads : List β} (h : List.Forall₂ R (front ++ back) reads) :
    ∃ frontReads backReads, reads = frontReads ++ backReads ∧
      List.Forall₂ R front frontReads ∧ List.Forall₂ R back backReads := by
  have hsplit : reads = reads.take front.length ++ reads.drop front.length :=
    (List.take_append_drop _ _).symm
  refine ⟨_, _, hsplit, ?_, ?_⟩
  · have htake := List.forall₂_take front.length h
    rwa [List.take_left] at htake
  · have hdrop := List.forall₂_drop front.length h
    rwa [List.drop_left] at hdrop

/-- A line with some content, and with blanks and tabs around it. -/
def IsPadded (content line : String) : Prop :=
  ∃ left right : String, (∀ c ∈ left.toList ++ right.toList, c = ' ' ∨ c = '\t') ∧
    line = left ++ content ++ right

theorem isPadded_self (line : String) : IsPadded line line := ⟨"", "", by simp, by simp⟩

theorem isPadded_of_all {left right : String} (content : String)
    (h : (left.toList ++ right.toList).all (fun c => c == ' ' || c == '\t') = true) :
    IsPadded content (left ++ content ++ right) := by
  refine ⟨left, right, fun c hc => ?_, rfl⟩
  have hblank := List.all_eq_true.1 h c hc
  rwa [Bool.or_eq_true, beq_iff_eq, beq_iff_eq] at hblank

theorem IsPadded.trim {content line : String} (h : IsPadded content line) :
    trimChars line.toList = trimChars content.toList := by
  obtain ⟨left, right, hblank, rfl⟩ := h
  have hspace : ∀ c ∈ left.toList ++ right.toList, isSpace c = true := by
    intro c hc
    rcases hblank c hc with rfl | rfl <;> rfl
  rw [String.toList_append, String.toList_append]
  exact trimChars_around (fun c hc => hspace c (List.mem_append_left _ hc))
    (fun c hc => hspace c (List.mem_append_right _ hc)) _

theorem IsPadded.trim_eq {content line : String} (h : IsPadded content line)
    (hcontent : Text.trim content = content) : Text.trim line = content := by
  rw [Text.trim, h.trim]
  exact hcontent

theorem IsPadded.not_mem {content line : String} (h : IsPadded content line)
    (hcontent : '\n' ∉ content.toList) : '\n' ∉ line.toList := by
  obtain ⟨left, right, hblank, rfl⟩ := h
  have hpad : '\n' ∉ left.toList ++ right.toList := fun hc => by simpa using hblank '\n' hc
  rw [List.mem_append, not_or] at hpad
  simp only [String.toList_append, List.mem_append, not_or]
  exact ⟨⟨hpad.1, hcontent⟩, hpad.2⟩

theorem trim_of_isPadded {contents lines : List String} (h : List.Forall₂ IsPadded contents lines) :
    List.Forall₂ (fun l l' => trimChars l' = trimChars l) (contents.map String.toList)
      (lines.map String.toList) := by
  rw [List.forall₂_map_left_iff, List.forall₂_map_right_iff]
  exact h.imp fun _ _ hline => hline.trim

/-- Padding adds no line feed. -/
theorem not_mem_of_forall₂_isPadded {contents lines : List String}
    (h : List.Forall₂ IsPadded contents lines) (hcontents : ∀ l ∈ contents, '\n' ∉ l.toList) :
    ∀ l ∈ lines, '\n' ∉ l.toList := by
  induction h with
  | nil => exact fun l hl => absurd hl List.not_mem_nil
  | cons hline _ ih =>
    obtain ⟨hcontent, hrest⟩ := List.forall_mem_cons.1 hcontents
    exact List.forall_mem_cons.2 ⟨hline.not_mem hcontent, ih hrest⟩

end DocLint.Text

import DocLint.Proofs.Lines

/-!
# Entries of a value

A value lists its entries on lines of their own, with as many empty lines between and around them as
one likes (`Text.Spaced`). Taking a text apart at a line feed takes its entries apart
(`Text.entryChars_append_cons`), from which all else follows: entries are read as they were written
if they have no line feed in them and no carriage return at the end, and what is read of any text,
written with line ends of two characters, is read again (`Text.entries_recovers`). The carriage
return in those line ends is needed, since what is read may itself end with a carriage return.
-/

namespace DocLint.Text

variable {line s t : List Char}

/-! ## Texts taken apart -/

/-- **A text is taken apart at each line feed.** -/
theorem entryChars_append_cons (s t : List Char) :
    entryChars (s ++ '\n' :: t) = entryChars s ++ entryChars t := by
  simp only [entryChars, pieces_eq_splitOn]
  rw [List.splitOn_append_cons_self, List.map_append, List.filter_append]

/-- A line with a carriage return behind it is an entry, if it is not empty. -/
theorem entryChars_append_return (hfeed : '\n' ∉ line) (hne : line ≠ []) :
    entryChars (line ++ ['\r']) = [line] := by
  have hreturn : '\n' ∉ line ++ ['\r'] := by simp [hfeed]
  rw [entryChars, pieces_of_not_mem hreturn, List.map_singleton, dropReturn_append_return]
  simp [hne]

/-- A line that can be an entry, whatever line end comes behind it. -/
structure IsListable (line : String) : Prop where
  nonempty : line ≠ ""
  feed : '\n' ∉ line.toList
  last : line.toList.getLast? ≠ some '\r'

variable {lines : List String} {ending text : String}

theorem IsListable.entryChars {line : String} (h : IsListable line) :
    Text.entryChars line.toList = [line.toList] := by
  have hne : line.toList ≠ [] := String.toList_eq_nil_iff.not.2 h.nonempty
  rw [Text.entryChars, pieces_of_not_mem h.feed, List.map_singleton, dropReturn_of_getLast? h.last]
  simp [hne]

/-! ## Entries that are written -/

/-- What ends a line. -/
def IsLineEnd (ending : String) : Prop := ending = "\n" ∨ ending = "\r\n"

/-- A line end alone has no entry. -/
theorem IsLineEnd.entryChars_append (h : IsLineEnd ending) (rest : List Char) :
    entryChars (ending.toList ++ rest) = entryChars rest := by
  rcases h with rfl | rfl
  · exact entryChars_append_cons [] rest
  · exact entryChars_append_cons ['\r'] rest

/-- An entry is read with each of the line ends behind it. -/
theorem IsListable.entryChars_append {line : String} (h : IsListable line)
    (hend : IsLineEnd ending) (rest : List Char) :
    Text.entryChars (line.toList ++ ending.toList ++ rest) =
      line.toList :: Text.entryChars rest := by
  rcases hend with rfl | rfl
  · have htext : line.toList ++ "\n".toList ++ rest = line.toList ++ '\n' :: rest := by simp
    rw [htext, entryChars_append_cons, h.entryChars, List.singleton_append]
  · have htext : line.toList ++ "\r\n".toList ++ rest =
        (line.toList ++ ['\r']) ++ '\n' :: rest := by simp
    have hne : line.toList ≠ [] := String.toList_eq_nil_iff.not.2 h.nonempty
    rw [htext, entryChars_append_cons, entryChars_append_return h.feed hne, List.singleton_append]

/-- A text that lists entries: it has one line end or more between an entry and the next one, and
any number of them before the first entry and behind the last. -/
inductive Spaced : List String → String → Prop
  | nil : Spaced [] ""
  | ending {ending text : String} {lines : List String} (hend : IsLineEnd ending)
      (h : Spaced lines text) : Spaced lines (ending ++ text)
  | last (line : String) : Spaced [line] line
  | entry {ending text : String} {lines : List String} (line : String) (hend : IsLineEnd ending)
      (h : Spaced lines text) : Spaced (line :: lines) (line ++ ending ++ text)

theorem Spaced.entryChars (h : Spaced lines text) (hlines : ∀ l ∈ lines, IsListable l) :
    Text.entryChars text.toList = lines.map String.toList := by
  induction h with
  | nil => rfl
  | ending hend _ ih => rw [String.toList_append, hend.entryChars_append, ih hlines]
  | last line => exact (hlines line List.mem_cons_self).entryChars
  | entry line hend _ ih =>
    obtain ⟨hline, hrest⟩ := List.forall_mem_cons.1 hlines
    rw [String.toList_append, String.toList_append, hline.entryChars_append hend, ih hrest,
      List.map_cons]

/-! ## Entries that are read -/

theorem map_toList_entries (s : String) : (entries s).map String.toList = entryChars s.toList :=
  map_toList_map_ofList _

theorem entries_eq_iff :
    entries text = lines ↔ entryChars text.toList = lines.map String.toList := by
  rw [← map_toList_entries]
  exact (List.map_inj_right fun _ _ => String.toList_inj.1).symm

/-- No entry is empty, and none has a line feed in it. -/
theorem of_mem_entryChars (h : line ∈ entryChars s) : line ≠ [] ∧ '\n' ∉ line := by
  obtain ⟨hline, hne⟩ := List.mem_filter.1 h
  obtain ⟨piece, hpiece, rfl⟩ := List.mem_map.1 hline
  exact ⟨of_decide_eq_true hne, not_mem_dropReturn (not_mem_of_mem_pieces hpiece)⟩

theorem of_mem_entries {line : String} (h : line ∈ entries text) :
    line ≠ "" ∧ '\n' ∉ line.toList := by
  have hline : line.toList ∈ (entries text).map String.toList := List.mem_map_of_mem h
  rw [map_toList_entries] at hline
  obtain ⟨hne, hfeed⟩ := of_mem_entryChars hline
  exact ⟨String.toList_eq_nil_iff.not.1 hne, hfeed⟩

/-- The text in which each line has a carriage return and a line feed behind it. -/
def ended (lines : List String) : String := String.join (lines.map (· ++ "\r\n"))

theorem toList_ended_cons (line : String) (lines : List String) :
    (ended (line :: lines)).toList = (line.toList ++ ['\r']) ++ '\n' :: (ended lines).toList := by
  simp [ended]

/-- Such a text has its lines as entries, even those that end with a carriage return. -/
theorem entryChars_ended (h : ∀ l ∈ lines, l ≠ "" ∧ '\n' ∉ l.toList) :
    entryChars (ended lines).toList = lines.map String.toList := by
  induction lines with
  | nil => rfl
  | cons line lines ih =>
    obtain ⟨⟨hne, hfeed⟩, hrest⟩ := List.forall_mem_cons.1 h
    -- the line need not be listable, but one carriage return of its line end is always dropped
    have hne' : line.toList ≠ [] := String.toList_eq_nil_iff.not.2 hne
    rw [toList_ended_cons, entryChars_append_cons, entryChars_append_return hfeed hne', ih hrest,
      List.singleton_append, List.map_cons]

/-- **Entries are read as they were written**, and what is read can be written and read again. -/
theorem entries_recovers (text : String) :
    (∀ lines, Spaced lines text → (∀ l ∈ lines, IsListable l) → entries text = lines) ∧
      (∀ l ∈ entries text, l ≠ "" ∧ '\n' ∉ l.toList) ∧
      entries (ended (entries text)) = entries text := by
  refine ⟨fun lines h hlines => ?_, fun l => of_mem_entries, ?_⟩
  · exact entries_eq_iff.2 (h.entryChars hlines)
  · exact entries_eq_iff.2 (entryChars_ended fun l => of_mem_entries)

/-- Both line ends, one after the other and at the start, a carriage return inside an entry, and
nothing behind the last entry. -/
theorem entries_recovers_mixed :
    Spaced ["player jumps", "player\rleaps", " "] "\r\n\nplayer jumps\n\r\n\nplayer\rleaps\r\n " ∧
      (∀ l ∈ ["player jumps", "player\rleaps", " "], IsListable l) ∧
      entries "\r\n\nplayer jumps\n\r\n\nplayer\rleaps\r\n " =
        ["player jumps", "player\rleaps", " "] := by
  have hspaced : Spaced ["player jumps", "player\rleaps", " "]
      "\r\n\nplayer jumps\n\r\n\nplayer\rleaps\r\n " :=
    .ending (.inr rfl) (.ending (.inl rfl) (.entry "player jumps" (.inl rfl) (.ending (.inr rfl)
      (.ending (.inl rfl) (.entry "player\rleaps" (.inr rfl) (.last " "))))))
  have hlines : ∀ l ∈ ["player jumps", "player\rleaps", " "], IsListable l := by
    simp only [List.forall_mem_cons]
    exact ⟨⟨by decide, by decide, by decide⟩, ⟨by decide, by decide, by decide⟩,
      ⟨by decide, by decide, by decide⟩, List.forall_mem_nil _⟩
  exact ⟨hspaced, hlines, (entries_recovers _).1 _ hspaced hlines⟩

/-- An entry that is read may end with a carriage return, and may be nothing else. -/
example : entries "player leaps\r\r\n\r\r" = ["player leaps\r", "\r"] := by decide +kernel

end DocLint.Text

import DocLint.Case
import DocLint.Proofs.Lines

/-!
# Writing cases

A case is written as a line with its name, any remarks, a divider, the rows of its input, a
divider, lines that list the issues that are expected, and the line that ends it
(`Case.caseLines`). The list may have blank lines and lines `ok` in it, and any lines that start no
case may stand between the cases (`Case.Written`). If no part of a case would be taken for the line
that ends the part (`Case.Writable`), the cases are read back as they were. The main statement is
`Case.parse_caseFile`.
-/

namespace DocLint

namespace Case

/-! ## What is written -/

/-- Whether a line starts a case: trimmed, it starts with `# test:`. -/
def IsStart (line : String) : Prop := "# test:".toList <+: (Text.trim line).toList

instance : DecidablePred IsStart := fun line =>
  inferInstanceAs (Decidable ("# test:".toList <+: (Text.trim line).toList))

/-- A text that can stand for an expected issue. -/
structure IsEntry (entry : String) : Prop where
  row : '\n' ∉ entry.toList
  trim : Text.trim entry = entry
  ne_empty : entry ≠ ""
  ne_ok : entry ≠ "ok"
  ne_ending : entry ≠ "==="

/-- A case that can be written. -/
structure Writable (c : Case) : Prop where
  row : '\n' ∉ c.name.toList
  trim : Text.trim c.name = c.name
  input : ∀ row ∈ Text.rows c.input, Text.trim row ≠ "---" ∧ row.toList.getLast? ≠ some '\r'
  expected : ∀ entry ∈ c.expected, IsEntry entry

/-- Lines that list expected issues, with blanks and tabs around each. Between them there may be
blank lines and lines `ok`. -/
inductive Lists : List String → List String → Prop
  | nil : Lists [] []
  | skip {entries lines : List String} {line : String} (hline : '\n' ∉ line.toList)
      (htrim : Text.trim line = "" ∨ Text.trim line = "ok") (h : Lists entries lines) :
      Lists entries (line :: lines)
  | entry {entries lines : List String} {entry line : String} (hline : Text.IsPadded entry line)
      (h : Lists entries lines) : Lists (entry :: entries) (line :: lines)

/-- The lines of a case. -/
def caseLines (c : Case) (remarks expected : List String) : List String :=
  ("# test: " ++ c.name) ::
    (remarks ++ "---" :: (Text.rows c.input ++ "---" :: (expected ++ ["==="])))

/-- The lines of a case up to those that list expected issues. -/
def frontLines (c : Case) (remarks : List String) : List String :=
  ("# test: " ++ c.name) :: (remarks ++ "---" :: (Text.rows c.input ++ ["---"]))

theorem caseLines_eq (c : Case) (remarks expected : List String) :
    caseLines c remarks expected = frontLines c remarks ++ (expected ++ ["==="]) := by
  simp [caseLines, frontLines]

/-- Lines in which cases are written one after the other. The first line has the given number, and
each case has the number of its first line. -/
inductive Written : Nat → List Case → List String → Prop
  | nil {number : Nat} : Written number [] []
  | other {number : Nat} {line : String} {lines : List String} {cs : List Case}
      (hline : '\n' ∉ line.toList) (hstart : ¬IsStart line) (h : Written (number + 1) cs lines) :
      Written number cs (line :: lines)
  | case {number : Nat} {c : Case} {remarks expected lines : List String} {cs : List Case}
      (hc : Writable c) (hnumber : c.line = number)
      (hremarks : ∀ line ∈ remarks, '\n' ∉ line.toList ∧ Text.trim line ≠ "---")
      (hexpected : Lists c.expected expected)
      (h : Written (number + (caseLines c remarks expected).length) cs lines) :
      Written number (c :: cs) (caseLines c remarks expected ++ lines)

/-! ## No line of a case has a line feed in it -/

theorem Lists.not_mem {entries lines : List String} (h : Lists entries lines)
    (hentries : ∀ entry ∈ entries, IsEntry entry) : ∀ line ∈ lines, '\n' ∉ line.toList := by
  induction h with
  | nil => exact fun line hline => absurd hline List.not_mem_nil
  | skip hline _ _ ih => exact List.forall_mem_cons.2 ⟨hline, ih hentries⟩
  | entry hline _ ih =>
    obtain ⟨hentry, hrest⟩ := List.forall_mem_cons.1 hentries
    exact List.forall_mem_cons.2 ⟨hline.not_mem hentry.row, ih hrest⟩

theorem not_mem_of_mem_frontLines {c : Case} (hrow : '\n' ∉ c.name.toList)
    {remarks : List String} (hremarks : ∀ line ∈ remarks, '\n' ∉ line.toList) {line : String}
    (h : line ∈ frontLines c remarks) : '\n' ∉ line.toList := by
  rcases List.mem_cons.1 h with rfl | h
  · simp [hrow]
  rcases List.mem_append.1 h with h | h
  · exact hremarks line h
  rcases List.mem_cons.1 h with rfl | h
  · decide
  rcases List.mem_append.1 h with h | h
  · exact Text.not_mem_of_mem_rows h
  · rw [List.mem_singleton.1 h]
    decide

theorem Writable.not_mem {c : Case} (hc : Writable c) {remarks expected : List String}
    (hremarks : ∀ line ∈ remarks, '\n' ∉ line.toList ∧ Text.trim line ≠ "---")
    (hexpected : Lists c.expected expected) {line : String}
    (h : line ∈ caseLines c remarks expected) : '\n' ∉ line.toList := by
  rw [caseLines_eq, List.mem_append, List.mem_append, List.mem_singleton] at h
  rcases h with h | h | rfl
  · exact not_mem_of_mem_frontLines hc.row (fun line hline => (hremarks line hline).1) h
  · exact hexpected.not_mem hc.expected line h
  · decide

theorem Written.not_mem {number : Nat} {cs : List Case} {lines : List String}
    (h : Written number cs lines) : ∀ line ∈ lines, '\n' ∉ line.toList := by
  induction h with
  | nil => exact fun line hline => absurd hline List.not_mem_nil
  | other hline _ _ ih => exact List.forall_mem_cons.2 ⟨hline, ih⟩
  | case hc _ hremarks hexpected _ ih =>
    exact List.forall_mem_append.2 ⟨fun line => hc.not_mem hremarks hexpected, ih⟩

/-! ## Reading single lines -/

variable {read : List Char} {written : String} {k : Nat}

theorem startName?_eq_none (hread : Text.Reads written.toList read) (h : ¬IsStart written) :
    startName? read = none := by
  have hstart : startWord.isPrefixOf (Text.trimChars read) = false := by
    rw [hread.trim, ← Bool.not_eq_true, List.isPrefixOf_iff_prefix, ← Text.toList_trim]
    exact h
  rw [startName?, hstart, if_neg Bool.false_ne_true]

/-- The name is what comes behind the start word, white space around it aside. -/
theorem startName?_eq_some {rest : List Char} (h : Text.trimChars read = startWord ++ rest) :
    startName? read = some (Text.trimChars rest) := by
  have hstart : startWord.isPrefixOf (startWord ++ rest) = true :=
    List.isPrefixOf_iff_prefix.2 (List.prefix_append _ _)
  rw [startName?, h, hstart, if_pos rfl, List.drop_left]

/-- The name of a case is read from the line on which the case starts. -/
theorem startName?_name {name : String} (hname : Text.trim name = name)
    (hread : Text.Reads ("# test: " ++ name).toList read) : startName? read = some name.toList := by
  have htrim : Text.trimChars name.toList = name.toList := Text.trimChars_of_trim hname
  have hword : "# test: ".toList = startWord ++ [' '] := by decide
  have hline : ("# test: " ++ name).toList = startWord ++ ' ' :: name.toList := by
    rw [String.toList_append, hword, List.append_assoc, List.singleton_append]
  have hblank : Text.isSpace ' ' = true := rfl
  have hself : Text.trimChars startWord = startWord := by decide
  by_cases hempty : name.toList = []
  · have hread' : Text.trimChars read = startWord ++ [] := by
      rw [hread.trim, hline, hempty,
        Text.trimChars_append_of_isSpace (List.forall_mem_singleton.2 hblank), hself,
        List.append_nil]
    rw [startName?_eq_some hread', hempty]
    rfl
  · have hread' : Text.trimChars read = startWord ++ ' ' :: name.toList := by
      rw [hread.trim, hline, Text.trimChars_eq_self_iff]
      refine ⟨(Text.trimChars_eq_self_iff.1 hself).1, fun c hc => ?_⟩
      refine (Text.trimChars_eq_self_iff.1 htrim).2 c ?_
      have hsplit : startWord ++ ' ' :: name.toList = (startWord ++ [' ']) ++ name.toList := by simp
      rwa [hsplit, List.getLast?_append_of_ne_nil _ hempty] at hc
    rw [startName?_eq_some hread', Text.trimChars_cons_of_isSpace hblank, htrim]

theorem isLine_iff (stop : String) (hread : Text.Reads written.toList read) :
    isLine stop.toList (read, k) = true ↔ Text.trim written = stop := by
  rw [isLine, hread.trim, ← Text.toList_trim, beq_iff_eq, String.toList_inj]

/-! ## Reading the parts of a case -/

variable {lines : List String} {reads : List (List Char)}

/-- No line of a part is taken for the one that ends it. -/
theorem not_isLine_of_reads (stop : String)
    (hreads : List.Forall₂ Text.Reads (lines.map String.toList) reads)
    (hlines : ∀ line ∈ lines, Text.trim line ≠ stop) :
    ∀ l ∈ reads.zipIdx k, isLine stop.toList l = false := by
  induction lines generalizing reads k with
  | nil =>
    cases hreads
    exact fun l hl => absurd hl List.not_mem_nil
  | cons line lines ih =>
    obtain ⟨hline, hlines⟩ := List.forall_mem_cons.1 hlines
    obtain ⟨read, reads, hread, hrest, rfl⟩ := List.forall₂_cons_left_iff.1 hreads
    rw [List.zipIdx_cons, List.forall_mem_cons]
    refine ⟨?_, ih hrest hlines⟩
    rw [← Bool.not_eq_true, isLine_iff stop hread]
    exact hline

/-- The expected issues are read from lines that list them. -/
theorem expectedOf_lists {entries : List String} (h : Lists entries lines)
    (hentries : ∀ entry ∈ entries, IsEntry entry)
    (hreads : List.Forall₂ Text.Reads (lines.map String.toList) reads) :
    expectedOf (reads.zipIdx k) = entries := by
  have hcons : ∀ (read : List Char) (reads : List (List Char)) (k : Nat),
      expectedOf ((read :: reads).zipIdx k) =
        ([String.ofList (Text.trimChars read)].filter fun s => s != "" && s != "ok") ++
          expectedOf (reads.zipIdx (k + 1)) := by
    intro read reads k
    rw [expectedOf, List.zipIdx_cons, List.map_cons, ← List.singleton_append, List.filter_append]
    rfl
  induction h generalizing reads k with
  | nil =>
    cases hreads
    rfl
  | @skip entries lines line _ htrim _ ih =>
    obtain ⟨read, reads, hread, hrest, rfl⟩ := List.forall₂_cons_left_iff.1 hreads
    rw [hcons, hread.ofList_trimChars, ih hentries hrest]
    rcases htrim with htrim | htrim <;> rw [htrim] <;> rfl
  | @entry entries lines entry line hline _ ih =>
    obtain ⟨hentry, hentries⟩ := List.forall_mem_cons.1 hentries
    obtain ⟨read, reads, hread, hrest, rfl⟩ := List.forall₂_cons_left_iff.1 hreads
    have hkeep : (entry != "" && entry != "ok") = true := by
      simp [hentry.ne_empty, hentry.ne_ok]
    rw [hcons, hread.ofList_trimChars, hline.trim_eq hentry.trim, ih hentries hrest,
      List.filter_singleton, hkeep]
    rfl

/-- No line of the list ends it. -/
theorem Lists.trim_ne {entries : List String} (h : Lists entries lines)
    (hentries : ∀ entry ∈ entries, IsEntry entry) : ∀ line ∈ lines, Text.trim line ≠ "===" := by
  induction h with
  | nil => exact fun line hline => absurd hline List.not_mem_nil
  | skip _ htrim _ ih =>
    refine List.forall_mem_cons.2 ⟨?_, ih hentries⟩
    rcases htrim with htrim | htrim <;> rw [htrim] <;> decide
  | @entry entries lines entry line hline _ ih =>
    obtain ⟨hentry, hentries⟩ := List.forall_mem_cons.1 hentries
    refine List.forall_mem_cons.2 ⟨?_, ih hentries⟩
    rw [hline.trim_eq hentry.trim]
    exact hentry.ne_ending

/-! ## Reading cases -/

theorem cutAt_append {stop : List Char} {before after : List (List Char × Nat)}
    {line : List Char × Nat} (hbefore : ∀ l ∈ before, isLine stop l = false)
    (hline : isLine stop line = true) :
    cutAt stop (before ++ line :: after) = (before, after) := by
  have hkeep : ∀ l ∈ before, (!isLine stop l) = true := fun l hl => by rw [hbefore l hl]; rfl
  have hstop : (!isLine stop line) = false := by rw [hline]; rfl
  rw [cutAt, List.takeWhile_append_of_pos hkeep, List.dropWhile_append_of_pos hkeep,
    List.takeWhile_cons, List.dropWhile_cons, hstop]
  simp only [Bool.false_eq_true, if_false, List.append_nil, List.drop_one, List.tail_cons]

/-- A case is read part by part, each up to the line that ends it. -/
theorem ofLines_case {name : List Char} {start first second : List Char × Nat}
    {remarks input rest : List (List Char × Nat)} (hstart : startName? start.1 = some name)
    (hremarks : ∀ l ∈ remarks, isLine divider l = false) (hfirst : isLine divider first = true)
    (hinput : ∀ l ∈ input, isLine divider l = false) (hsecond : isLine divider second = true) :
    ofLines (start :: (remarks ++ first :: (input ++ second :: rest))) =
      { name := String.ofList name
        line := start.2
        input := String.ofList (['\n'].intercalate (input.map Prod.fst))
        expected := expectedOf (cutAt ending rest).1 } :: ofLines (cutAt ending rest).2 := by
  obtain ⟨line, number⟩ := start
  rw [ofLines]
  dsimp only at hstart
  rw [hstart]
  dsimp only
  rw [cutAt_append hremarks hfirst]
  dsimp only
  rw [cutAt_append hinput hsecond]

/-- A line that starts no case is passed over. -/
theorem ofLines_other {line : List Char} {rest : List (List Char × Nat)}
    (h : startName? line = none) : ofLines ((line, k) :: rest) = ofLines rest := by
  rw [ofLines, h]

/-- The name and the input of a case are read as they were written, whatever comes behind. -/
theorem ofLines_frontLines {c : Case} (htrim : Text.trim c.name = c.name)
    (hinput : ∀ row ∈ Text.rows c.input, Text.trim row ≠ "---" ∧ row.toList.getLast? ≠ some '\r')
    {remarks : List String} (hremarks : ∀ line ∈ remarks, Text.trim line ≠ "---")
    (hreads : List.Forall₂ Text.Reads ((frontLines c remarks).map String.toList) reads)
    (rest : List (List Char × Nat)) : ofLines (reads.zipIdx c.line ++ rest) =
      { c with expected := expectedOf (cutAt ending rest).1 } ::
        ofLines (cutAt ending rest).2 := by
  have hdash : ∀ {read : List Char} {k : Nat}, Text.Reads "---".toList read →
      isLine divider (read, k) = true := fun hread => (isLine_iff "---" hread).2 rfl
  simp only [frontLines, List.map_cons, List.map_append, List.map_nil] at hreads
  -- each part of the case is read as a part of its own
  obtain ⟨start, _, hstart, h₁, rfl⟩ := List.forall₂_cons_left_iff.1 hreads
  obtain ⟨remarkReads, _, rfl, hremarkReads, h₂⟩ := Text.exists_append_of_forall₂ h₁
  obtain ⟨first, _, hfirst, h₃, rfl⟩ := List.forall₂_cons_left_iff.1 h₂
  obtain ⟨inputReads, _, rfl, hinputReads, h₄⟩ := Text.exists_append_of_forall₂ h₃
  obtain ⟨second, _, hsecond, hnil, rfl⟩ := List.forall₂_cons_left_iff.1 h₄
  obtain rfl := List.forall₂_nil_left_iff.1 hnil
  have hrows : inputReads = (Text.rows c.input).map String.toList := by
    refine Text.eq_of_forall₂_reads hinputReads (List.forall_mem_map.2 fun row hrow => ?_)
    exact (hinput row hrow).2
  simp only [List.zipIdx_cons, List.zipIdx_append, List.zipIdx_nil, List.cons_append,
    List.append_assoc, List.nil_append]
  rw [ofLines_case (startName?_name htrim hstart)
    (not_isLine_of_reads "---" hremarkReads hremarks) (hdash hfirst)
    (not_isLine_of_reads "---" hinputReads fun row hrow => (hinput row hrow).1) (hdash hsecond)]
  rw [List.zipIdx_map_fst, hrows, Text.map_toList_rows, Text.intercalate_pieces,
    String.ofList_toList, String.ofList_toList]

/-- **A case is read as it was written.** -/
theorem ofLines_caseLines {c : Case} (hc : Writable c) {remarks expected : List String}
    (hremarks : ∀ line ∈ remarks, '\n' ∉ line.toList ∧ Text.trim line ≠ "---")
    (hexpected : Lists c.expected expected)
    (hreads : List.Forall₂ Text.Reads ((caseLines c remarks expected).map String.toList) reads)
    (rest : List (List Char × Nat)) :
    ofLines (reads.zipIdx c.line ++ rest) = c :: ofLines rest := by
  simp only [caseLines_eq, List.map_cons, List.map_append, List.map_nil] at hreads
  obtain ⟨frontReads, _, rfl, hfrontReads, h₁⟩ := Text.exists_append_of_forall₂ hreads
  obtain ⟨expectedReads, _, rfl, hexpectedReads, h₂⟩ := Text.exists_append_of_forall₂ h₁
  obtain ⟨last, _, hlast, hnil, rfl⟩ := List.forall₂_cons_left_iff.1 h₂
  obtain rfl := List.forall₂_nil_left_iff.1 hnil
  simp only [List.zipIdx_cons, List.zipIdx_append, List.zipIdx_nil, List.cons_append,
    List.append_assoc, List.nil_append]
  have hlisted : ∀ {k : Nat}, ∀ l ∈ expectedReads.zipIdx k, isLine ending l = false :=
    not_isLine_of_reads "===" hexpectedReads (hexpected.trim_ne hc.expected)
  have hend : ∀ {k : Nat}, isLine ending (last, k) = true := (isLine_iff "===" hlast).2 rfl
  rw [ofLines_frontLines hc.trim hc.input (fun line hline => (hremarks line hline).2) hfrontReads,
    cutAt_append hlisted hend, expectedOf_lists hexpected hc.expected hexpectedReads]

/-- Cases are read as they were written. -/
theorem Written.ofLines {number : Nat} {cs : List Case} (h : Written number cs lines)
    (hreads : List.Forall₂ Text.Reads (lines.map String.toList) reads) :
    Case.ofLines (reads.zipIdx number) = cs := by
  induction h generalizing reads with
  | nil =>
    cases hreads
    exact Case.ofLines.eq_1
  | other _ hstart _ ih =>
    obtain ⟨read, reads, hread, hrest, rfl⟩ := List.forall₂_cons_left_iff.1 hreads
    rw [List.zipIdx_cons, ofLines_other (startName?_eq_none hread hstart), ih hrest]
  | case hc hnumber hremarks hexpected _ ih =>
    rw [List.map_append] at hreads
    obtain ⟨caseReads, reads, rfl, hcase, hrest⟩ := Text.exists_append_of_forall₂ hreads
    have hlength := hcase.length_eq
    rw [List.length_map] at hlength
    subst hnumber
    rw [List.zipIdx_append, ofLines_caseLines hc hremarks hexpected hcase, ← hlength, ih hrest]

/-- **Cases are read back as they were written**, each with the number of its first line. -/
theorem parse_caseFile {cs : List Case} {lines : List String} {text : String}
    (h : Written 1 cs lines) (htext : Text.Spelled lines text) : parse text = cs := by
  rw [parse]
  exact h.ofLines (htext.reads h.not_mem)

/-- A case whose input looks like other parts of a case file, with one expected issue. -/
def lookalike : Case where
  name := "unknown key"
  line := 2
  input := "# test: no\n==="
  expected := ["stop: unknown_key"]

/-- A case without a name, input or expected issues. -/
def bare : Case where
  name := ""
  line := 12
  input := ""
  expected := []

/-- Remarks, a padded issue, lines `ok` and blank lines, a divider between the cases, and both kinds
of line ends. -/
theorem parse_caseFile_lookalike :
    Written 1 [lookalike, bare]
        ["// # test:", "# test: unknown key", "===", "---", "# test: no", "===", "---", " ok",
          "\tstop: unknown_key ", "===", "---", "# test: ", "---", "", "---", "", "==="] ∧
      Text.Spelled
        ["// # test:", "# test: unknown key", "===", "---", "# test: no", "===", "---", " ok",
          "\tstop: unknown_key ", "===", "---", "# test: ", "---", "", "---", "", "==="]
        ("// # test:\r\n# test: unknown key\n===\n---\n# test: no\r\n===\n---\n ok\n" ++
          "\tstop: unknown_key \n===\n---\n# test: \r\n---\n\n---\n\r\n===") ∧
      parse ("// # test:\r\n# test: unknown key\n===\n---\n# test: no\r\n===\n---\n ok\n" ++
        "\tstop: unknown_key \n===\n---\n# test: \r\n---\n\n---\n\r\n===") =
          [lookalike, bare] := by
  have hentry : IsEntry "stop: unknown_key" :=
    ⟨by decide, by decide +kernel, by decide, by decide, by decide⟩
  have hlookalike : Writable lookalike :=
    ⟨by decide, by decide +kernel, by decide +kernel, List.forall_mem_singleton.2 hentry⟩
  have hbare : Writable bare :=
    ⟨by decide, by decide +kernel, by decide +kernel, List.forall_mem_nil _⟩
  have hpadded : Text.IsPadded "stop: unknown_key" ("\t" ++ "stop: unknown_key" ++ " ") :=
    Text.isPadded_of_all _ (by decide)
  have hlists : Lists lookalike.expected [" ok", "\tstop: unknown_key "] :=
    .skip (by decide) (.inr (by decide)) (.entry hpadded .nil)
  have hblank : Lists bare.expected [""] := .skip (by decide) (.inl (by decide)) .nil
  have hlines : caseLines lookalike ["==="] [" ok", "\tstop: unknown_key "] ++
      ("---" :: (caseLines bare [] [""] ++ [])) =
        ["# test: unknown key", "===", "---", "# test: no", "===", "---", " ok",
          "\tstop: unknown_key ", "===", "---", "# test: ", "---", "", "---", "", "==="] := by
    decide +kernel
  have hwritten : Written 1 [lookalike, bare] ("// # test:" ::
      (caseLines lookalike ["==="] [" ok", "\tstop: unknown_key "] ++
        ("---" :: (caseLines bare [] [""] ++ [])))) :=
    .other (by decide) (by decide +kernel) (.case hlookalike rfl (by decide +kernel) hlists
      (.other (by decide) (by decide +kernel)
        (.case hbare (by decide +kernel) (List.forall_mem_nil _) hblank .nil)))
  rw [hlines] at hwritten
  have htext : Text.Spelled
      ["// # test:", "# test: unknown key", "===", "---", "# test: no", "===", "---", " ok",
        "\tstop: unknown_key ", "===", "---", "# test: ", "---", "", "---", "", "==="] _ :=
    .cons (.inr rfl) (.cons (.inl rfl) (.cons (.inl rfl) (.cons (.inl rfl) (.cons (.inr rfl)
      (.cons (.inl rfl) (.cons (.inl rfl) (.cons (.inl rfl) (.cons (.inl rfl) (.cons (.inl rfl)
      (.cons (.inl rfl) (.cons (.inr rfl) (.cons (.inl rfl) (.cons (.inl rfl) (.cons (.inl rfl)
      (.cons (.inr rfl) (.last (by decide)))))))))))))))))
  exact ⟨hwritten, htext, parse_caseFile hwritten htext⟩

end Case

end DocLint

import DocLint.Pattern
import DocLint.Pattern.Thread
import DocLint.Proofs.Reference

/-!
# References as the matches of a pattern

References can be described by a pattern with two groups (`Reference.pattern`): the sign, a body
which is empty or starts with white space and has no closing bracket, and the closing bracket or the
end of the text. The scanner lists what the matches of this pattern stand for, found from left to
right and without overlaps (`Reference.exists_scan_eq`).
-/

namespace DocLint

namespace Pattern

variable {behind ahead : List Char} {groups : List (List Char)} {isFit : Char → Bool}

/-! ## Threads -/

theorem Thread.textTo_of_eq {p q : Thread} {cs : List Char} (h : p.ahead = cs ++ q.ahead) :
    p.textTo q = cs := by
  simp [textTo, h]

/-- The preferred thread goes on as it is preferred there, if it goes on at all. -/
theorem head?_flatMap_of_head? {α β : Type} {l : List α} {f : α → List β} {a : α} {b : β}
    (hl : l.head? = some a) (hf : (f a).head? = some b) : (l.flatMap f).head? = some b := by
  obtain ⟨rest, rfl⟩ := List.head?_eq_some_iff.1 hl
  rw [List.flatMap_cons, List.head?_append, hf, Option.some_or]

/-- Greedy rounds through the characters of a kind go on as long as there are such. -/
theorem Thread.head?_roundsUpTo_step? (behind : List Char) {k : Nat} (hk : ahead.length ≤ k) :
    (roundsUpTo true (fun p => (p.step? isFit).toList) k ⟨behind, ahead, groups⟩).head? =
      some ⟨(ahead.takeWhile isFit).reverse ++ behind, ahead.dropWhile isFit, groups⟩ := by
  induction ahead generalizing k behind with
  | nil => cases k <;> rfl
  | cons c s ih =>
    obtain ⟨k, rfl⟩ : ∃ n, k = n + 1 := Nat.exists_eq_succ_of_ne_zero (by simp at hk; omega)
    by_cases hc : isFit c = true
    · have hmore := ih (c :: behind) (Nat.le_of_succ_le_succ hk)
      simp [roundsUpTo, hc, hmore]
    · simp [roundsUpTo, hc]

/-- Greedy repetitions of a set go on as long as there are members of it. -/
theorem Node.head?_threads_star (bytes : Bool) (set : CharSet) :
    ((Node.rep 0 none true (.set bytes set)).threads ⟨behind, ahead, groups⟩).head? =
      some ⟨(ahead.takeWhile set.contains).reverse ++ behind, ahead.dropWhile set.contains,
        groups⟩ := by
  simpa [threads, Thread.rounds] using
    Thread.head?_roundsUpTo_step? behind (Nat.le_succ ahead.length)

/-- What is optional is rather read than left out. -/
theorem Node.threads_optional (a : Node) (p : Thread) :
    (Node.rep 0 (some 1) true a).threads p = a.threads p ++ [p] := by
  simp [threads, Thread.rounds, Thread.roundsUpTo]

/-- A word, written character by character, is read where it comes next. -/
theorem Node.threadsOfAll_word (cs : List Char) (rest : List Node) :
    threadsOfAll (cs.map (fun c => .literal [c]) ++ rest) ⟨behind, cs ++ ahead, groups⟩ =
      threadsOfAll rest ⟨cs.reverse ++ behind, ahead, groups⟩ := by
  induction cs generalizing behind with
  | nil => rfl
  | cons c cs ih => simp [threadsOfAll, threads, ih]

theorem Node.threadsOfAll_word_eq_nil {cs : List Char} (rest : List Node)
    (h : ¬cs <+: ahead) :
    threadsOfAll (cs.map (fun c => .literal [c]) ++ rest) ⟨behind, ahead, groups⟩ = [] := by
  induction cs generalizing behind ahead with
  | nil => exact absurd List.nil_prefix h
  | cons c cs ih =>
    cases ahead with
    | nil => rfl
    | cons d s =>
      by_cases hd : d = c
      · subst hd
        have hs : ¬cs <+: s := by simpa [List.cons_prefix_cons] using h
        simp [threadsOfAll, threads, ih hs]
      · simp [threadsOfAll, threads, hd]

end Pattern

namespace Reference

open Pattern (CharSet Node Thread)

variable {behind s body inner after : List Char} {groups : List (List Char)}

theorem opens_sign_append_iff : Opens (sign ++ inner) ↔ opensBefore inner = true := by
  rw [opensBefore_iff]
  constructor
  · rintro ⟨after, h, hnext⟩
    rwa [List.append_cancel_left h]
  · exact fun hnext => ⟨inner, rfl, hnext⟩

/-! ## The pattern -/

/-- The pattern of references: its groups are the body and the close. -/
def pattern : String := "<@link(?P<body>(?:\\s[^>]*)?)(?P<close>>|\\z)"

/-- Any character but the closing bracket. -/
def noBracket : CharSet := .complement CharSet.maxCode ⟨[('>'.toNat, '>'.toNat)]⟩

/-- White space, and what comes behind it up to the closing bracket. -/
def spacedNode : Node :=
  .seq [.set false (.letterClass .space), .rep 0 none true (.set false noBracket)]

/-- The group of the body. -/
def bodyNode : Node := .capture (.rep 0 (some 1) true spacedNode)

/-- The group of the close. -/
def closeNode : Node := .capture (.alt [.literal ['>'], .look .textEnd])

/-- What the pattern means. -/
def node : Node := .seq (sign.map (fun c => .literal [c]) ++ [bodyNode, closeNode])

theorem ofText_pattern : Node.ofText pattern = .ok node := by decide +kernel

/-- The reference that a match stands for. The first group has its body, and it is closed if the
second one has the bracket. -/
def ofMatch (m : Pattern.Match) : Reference :=
  if m.groups[1]? = some ['>'] then ofBody m.text (m.groups[0]?.getD [])
  else unterminated (String.ofList m.text)

theorem contains_noBracket : noBracket.contains = (· != '>') := by
  funext c
  have hranges : noBracket.ranges = [(0, 61), (63, 0x10FFFF)] := by decide
  have hmax : c.toNat ≤ 0x10FFFF := by
    have hvalid : c.toNat < 0xD800 ∨ 0xDFFF < c.toNat ∧ c.toNat < 0x110000 := c.valid
    omega
  have hc : c = '>' ↔ c.toNat = 62 := Char.toNat_inj.symm
  rw [Bool.eq_iff_iff, bne_iff_ne, Ne, hc]
  simp only [CharSet.contains, CharSet.containsCode, hranges, List.any_cons, List.any_nil,
    Bool.or_false, Bool.or_eq_true, Bool.and_eq_true, decide_eq_true_eq]
  omega

theorem contains_space : (CharSet.letterClass .space).contains = Text.isSpace := by
  funext c
  have hranges : (CharSet.letterClass .space).ranges =
      [(0x9, 0xD), (0x20, 0x20), (0x85, 0x85), (0xA0, 0xA0), (0x1680, 0x1680), (0x2000, 0x200A),
        (0x2028, 0x2029), (0x202F, 0x202F), (0x205F, 0x205F), (0x3000, 0x3000)] := by
    decide +kernel
  rw [Bool.eq_iff_iff]
  simp only [CharSet.contains, CharSet.containsCode, hranges, Text.isSpace, List.any_cons,
    List.any_nil, Bool.or_false, Bool.or_eq_true, Bool.and_eq_true, decide_eq_true_eq, beq_iff_eq]
  omega

/-! ## What its groups read -/

theorem threads_spacedNode_nil : spacedNode.threads ⟨behind, [], groups⟩ = [] := rfl

theorem threads_spacedNode_of_not_space {c : Char} (hc : Text.isSpace c = false) :
    spacedNode.threads ⟨behind, c :: s, groups⟩ = [] := by
  simp [spacedNode, Node.threads, Node.threadsOfAll, contains_space, hc]

theorem head?_threads_spacedNode {c : Char} (hc : Text.isSpace c = true) :
    (spacedNode.threads ⟨behind, c :: s, groups⟩).head? =
      some ⟨(s.takeWhile (· != '>')).reverse ++ c :: behind, s.dropWhile (· != '>'), groups⟩ := by
  have hrest : ((Node.rep 0 none true (.set false noBracket)).threads
      ⟨c :: behind, s, groups⟩).head? =
        some ⟨(s.takeWhile (· != '>')).reverse ++ c :: behind, s.dropWhile (· != '>'), groups⟩ := by
    rw [Node.head?_threads_star, contains_noBracket]
  simpa [spacedNode, Node.threads, Node.threadsOfAll, contains_space, hc] using hrest

theorem threads_bodyNode (p : Thread) :
    bodyNode.threads p = (spacedNode.threads p ++ [p]).map p.endGroup := by
  rw [bodyNode, Node.threads, Node.threads_optional]

/-- The body that is preferred goes on up to the closing bracket. -/
theorem head?_threads_bodyNode (h : opensBefore s = true) :
    (bodyNode.threads ⟨behind, s, groups⟩).head? =
      some ⟨(s.takeWhile (· != '>')).reverse ++ behind, s.dropWhile (· != '>'),
        groups ++ [s.takeWhile (· != '>')]⟩ := by
  rw [threads_bodyNode]
  cases s with
  | nil => simp [threads_spacedNode_nil, Thread.endGroup, Thread.textTo]
  | cons c s =>
    by_cases hc : Text.isSpace c = true
    · have hne : (c != '>') = true := by
        rw [bne_iff_ne]
        rintro rfl
        exact absurd hc (by decide)
      have htext : Thread.textTo ⟨behind, c :: s, groups⟩
          ⟨(s.takeWhile (· != '>')).reverse ++ c :: behind, s.dropWhile (· != '>'), groups⟩ =
            c :: s.takeWhile (· != '>') :=
        Thread.textTo_of_eq (by simp)
      rw [List.head?_map, List.head?_append, head?_threads_spacedNode hc, Option.some_or,
        Option.map_some, Thread.endGroup, htext]
      simp [hne]
    · rw [Bool.not_eq_true] at hc
      obtain rfl : c = '>' := by simpa [opensBefore, hc] using h
      simp [threads_spacedNode_of_not_space hc, Thread.endGroup, Thread.textTo]

/-- Where the body ends, the close is the bracket or the end of the text. -/
theorem threads_closeNode_bracket :
    closeNode.threads ⟨behind, '>' :: s, groups⟩ =
      [⟨'>' :: behind, s, groups ++ [['>']]⟩] := by
  simp [closeNode, Node.threads, Node.threadsOfAny, Pattern.Look.holds, Thread.endGroup,
    Thread.textTo]

theorem threads_closeNode_end :
    closeNode.threads ⟨behind, [], groups⟩ = [⟨behind, [], groups ++ [[]]⟩] := by
  simp [closeNode, Node.threads, Node.threadsOfAny, Pattern.Look.holds, Thread.endGroup,
    Thread.textTo]

theorem threads_closeNode_of_ne {c : Char} (hc : c ≠ '>') :
    closeNode.threads ⟨behind, c :: s, groups⟩ = [] := by
  simp [closeNode, Node.threads, Node.threadsOfAny, Pattern.Look.holds, hc]

/-! ## Its first match at a place -/

/-- Where a reference opens, the body that is preferred is taken if a close follows it. -/
theorem first?_of_opens {q : Thread} (h : Opens (sign ++ s))
    (hclose : (closeNode.threads ⟨(s.takeWhile (· != '>')).reverse ++ (sign.reverse ++ behind),
      s.dropWhile (· != '>'), [s.takeWhile (· != '>')]⟩).head? = some q) :
    node.first? behind (sign ++ s) = some q := by
  rw [Node.first?, node, Node.threads, Node.threadsOfAll_word]
  refine Pattern.head?_flatMap_of_head? (head?_threads_bodyNode (opens_sign_append_iff.1 h)) ?_
  exact Pattern.head?_flatMap_of_head? hclose rfl

theorem first?_closed (h : Opens (sign ++ (body ++ '>' :: after))) (hbody : '>' ∉ body) :
    node.first? behind (sign ++ (body ++ '>' :: after)) =
      some ⟨'>' :: (body.reverse ++ (sign.reverse ++ behind)), after, [body, ['>']]⟩ := by
  have hne := ne_bracket_of_not_mem hbody
  refine first?_of_opens h ?_
  simp [List.takeWhile_append_of_pos hne, List.dropWhile_append_of_pos hne,
    threads_closeNode_bracket]

theorem first?_unterminated (h : Opens (sign ++ inner)) (hinner : '>' ∉ inner) :
    node.first? behind (sign ++ inner) =
      some ⟨inner.reverse ++ (sign.reverse ++ behind), [], [inner, []]⟩ := by
  have hne := ne_bracket_of_not_mem hinner
  refine first?_of_opens h ?_
  rw [List.takeWhile_eq_self_iff.2 hne, List.dropWhile_eq_nil_iff.2 hne, threads_closeNode_end]
  rfl

theorem first?_of_not_opens (h : ¬Opens s) : node.first? behind s = none := by
  rw [Node.first?, node, Node.threads]
  by_cases hsign : sign <+: s
  · -- what comes behind the sign is another character, so that no close follows the body
    obtain ⟨after, rfl⟩ := hsign
    rw [opens_sign_append_iff, Bool.not_eq_true] at h
    cases after with
    | nil => cases h
    | cons c after =>
      obtain ⟨hc, hspace⟩ : c ≠ '>' ∧ Text.isSpace c = false := by simpa [opensBefore] using h
      rw [Node.threadsOfAll_word]
      simp [Node.threadsOfAll, threads_bodyNode, threads_spacedNode_of_not_space hspace,
        Thread.endGroup, threads_closeNode_of_ne hc]
  · rw [Node.threadsOfAll_word_eq_nil _ hsign]
    rfl

/-! ## Its matches -/

theorem ofMatch_closed {raw : List Char} :
    ofMatch ⟨raw, [body, ['>']]⟩ = ofBody raw body := rfl

theorem ofMatch_unterminated {raw : List Char} :
    ofMatch ⟨raw, [inner, []]⟩ = unterminated (String.ofList raw) := rfl

theorem map_ofMatch_matchesFrom (s behind : List Char) (afterMatch : Bool) :
    (node.matchesFrom afterMatch behind s).map ofMatch = scanChars s := by
  induction hn : s.length using Nat.strong_induction_on generalizing s behind afterMatch with
  | _ n ih =>
    subst hn
    by_cases hopens : Opens s
    · obtain ⟨inner, rfl⟩ := hopens.sign_prefix
      by_cases hclose : '>' ∈ inner
      · -- closed: the match ends behind the first bracket, and the others come from there on
        obtain ⟨body, after, rfl, hbody⟩ := List.eq_append_cons_of_mem hclose
        have hscan := scanChars_closed ((List.append_assoc sign body _).symm ▸ hopens) hbody
        have htext : Thread.textTo ⟨behind, sign ++ (body ++ '>' :: after), []⟩
            ⟨'>' :: (body.reverse ++ (sign.reverse ++ behind)), after, [body, ['>']]⟩ =
              sign ++ body ++ ['>'] :=
          Thread.textTo_of_eq (by simp)
        have hrest := ih after.length (by simp; omega) after
        rw [Node.matchesFrom_of_some (first?_closed hopens hbody) (by simp; omega), htext,
          List.map_cons, ofMatch_closed, hrest _ true rfl, ← List.append_assoc, hscan]
      · -- not closed: the match takes all of the text
        have htext : Thread.textTo ⟨behind, sign ++ inner, []⟩
            ⟨inner.reverse ++ (sign.reverse ++ behind), [], [inner, []]⟩ = sign ++ inner :=
          Thread.textTo_of_eq (by simp)
        have hrest := ih 0 (by simp [sign]) []
        rw [Node.matchesFrom_of_some (first?_unterminated hopens hclose) (by simp [sign]), htext,
          List.map_cons, ofMatch_unterminated, hrest _ true rfl,
          scanChars_unterminated hopens hclose, scanChars]
    · cases s with
      | nil => rw [Node.matchesFrom_nil (first?_of_not_opens hopens), scanChars, List.map_nil]
      | cons c s =>
        rw [Node.matchesFrom_of_none (first?_of_not_opens hopens), scanChars_of_not_opens hopens]
        exact ih s.length (by simp) s (c :: behind) false rfl

/-- **The references of a text are what the matches of their pattern stand for.** -/
theorem exists_scan_eq : ∃ node, Node.ofText pattern = .ok node ∧
    ∀ s, scan s = (node.matchesIn s).map ofMatch :=
  ⟨node, ofText_pattern, fun s => (map_ofMatch_matchesFrom s.toList [] false).symm⟩

end Reference

end DocLint

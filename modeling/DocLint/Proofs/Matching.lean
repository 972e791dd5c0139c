import DocLint.Pattern.Thread
import DocLint.Proofs.Leads
import Mathlib.Data.Nat.Bitwise

/-!
# What matching finds

Matches are found in two ways: a walk moves sets of places along a line and tells whether there is a
match, and threads list the matches from a place in order of preference. Both go where the pattern
leads (`Node.steps_walk`, `Node.follows_threads`). So a line is found to match exactly if there is
something in the list of its matches (`Node.isMatch_iff`).
-/

namespace DocLint.Pattern

variable {cs : List Char} {R S : Nat → Nat → Prop}

/-! ## Sets of places -/

section Places

variable {f g : Places → Places} {s : Places} {i j k : Nat}

theorem testBit_ite_shiftLeft (b : Bool) (k i : Nat) :
    (if b then 1 <<< k else 0 : Nat).testBit i = (decide (i = k) && b) := by
  cases b with
  | true => simp [Nat.one_shiftLeft, Nat.testBit_two_pow, eq_comm]
  | false => simp

theorem testBit_placesWhere (p : Nat → Bool) (last i : Nat) :
    (placesWhere p last).testBit i = true ↔ i ≤ last ∧ p i = true := by
  induction last with
  | zero =>
    have hzero := testBit_ite_shiftLeft (p 0) 0 i
    rw [Nat.shiftLeft_zero] at hzero
    rw [placesWhere, hzero]
    by_cases hi : i = 0 <;> simp [hi]
  | succ last ih =>
    rw [placesWhere, Nat.testBit_or, Bool.or_eq_true, ih, testBit_ite_shiftLeft]
    by_cases hi : i = last + 1
    · simp [hi]
    · have hle : i ≤ last + 1 ↔ i ≤ last := by omega
      simp [hi, hle]

theorem testBit_charPlaces {d : Char} :
    (charPlaces cs.toArray d).testBit i = true ↔ cs[i]? = some d := by
  rw [charPlaces, testBit_placesWhere, List.getElem?_toArray, List.size_toArray, beq_iff_eq]
  exact and_iff_right_of_imp fun hd => (List.getElem?_eq_some_iff.1 hd).1.le

theorem testBit_setPlaces {set : CharSet} :
    (set.places cs.toArray).testBit i = true ↔ cs[i]?.any set.contains = true := by
  rw [CharSet.places, testBit_placesWhere, List.getElem?_toArray, List.size_toArray]
  exact and_iff_right_of_imp fun hc => (lt_length_of_any hc).le

theorem testBit_lookPlaces {l : Look} : (l.places cs.toArray).testBit i = true ↔
    i ≤ cs.length ∧ l.holds (cs.take i).getLast? cs[i]? = true := by
  rw [Look.places, testBit_placesWhere, List.getElem?_toArray, List.getElem?_toArray,
    List.size_toArray]
  refine and_congr_right fun hi => ?_
  rw [List.getLast?_take]
  split
  · rfl
  · rw [List.getElem?_eq_getElem (by omega), Option.some_or]

/-- A function on sets of places goes one step of a relation. -/
def Steps (f : Places → Places) (R : Nat → Nat → Prop) : Prop :=
  ∀ s j, (f s).testBit j = true ↔ ∃ i, s.testBit i = true ∧ R i j

namespace Steps

theorem congr (h : Steps f R) (hRS : ∀ i j, R i j ↔ S i j) : Steps f S := by
  intro s j
  rw [h]
  simp only [hRS]

theorem comp (hf : Steps f R) (hg : Steps g S) :
    Steps (fun s => g (f s)) fun i j => ∃ m, R i m ∧ S m j := by
  intro s j
  rw [hg]
  constructor
  · rintro ⟨m, hm, hmj⟩
    obtain ⟨i, hi, him⟩ := (hf s m).1 hm
    exact ⟨i, hi, m, him, hmj⟩
  · rintro ⟨i, hi, m, him, hmj⟩
    exact ⟨m, (hf s m).2 ⟨i, hi, him⟩, hmj⟩

/-- Where a step adds and takes away nothing, neither do any more of them. -/
theorem rounds_of_fixed (h : Steps f R) (hs : f s = s) (k j : Nat) :
    s.testBit j = true ↔ ∃ i, s.testBit i = true ∧ Rounds R k i j := by
  have hstep : ∀ j, s.testBit j = true ↔ ∃ i, s.testBit i = true ∧ R i j := fun j => by
    rw [← h s j, hs]
  induction k generalizing j with
  | zero => simp [rounds_zero_iff]
  | succ k ih =>
    refine (ih j).trans ⟨?_, ?_⟩
    · rintro ⟨m, hm, hrest⟩
      obtain ⟨i, hi, him⟩ := (hstep m).1 hm
      exact ⟨i, hi, .step him hrest⟩
    · rintro ⟨i, hi, hrounds⟩
      obtain ⟨m, him, hrest⟩ := rounds_succ_iff.1 hrounds
      exact ⟨m, (hstep m).2 ⟨i, hi, him⟩, hrest⟩

theorem applyTimes (h : Steps f R) (k : Nat) : Steps (applyTimes f k) (Rounds R k) := by
  induction k with
  | zero =>
    intro s j
    simp [Pattern.applyTimes, rounds_zero_iff]
  | succ k ih =>
    intro s j
    rw [Pattern.applyTimes]
    split
    · rename_i hs
      exact h.rounds_of_fixed hs (k + 1) j
    · exact (h.comp ih).congr (fun i j => rounds_succ_iff.symm) s j

/-- Places that no step leaves are not left by any number of them. -/
theorem rounds_of_closed (h : Steps f R) (hs : s ||| f s = s) (hi : s.testBit i = true)
    (hrounds : Rounds R k i j) : s.testBit j = true := by
  induction hrounds with
  | done => exact hi
  | @step k i m j hstep _ ih =>
    refine ih ?_
    rw [← hs, Nat.testBit_or, (h s m).2 ⟨i, hi, hstep⟩, Bool.or_true]

theorem or_self (h : Steps f R) : Steps (fun s => s ||| f s) fun i j => j = i ∨ R i j := by
  intro s j
  rw [Nat.testBit_or, Bool.or_eq_true, h]
  constructor
  · rintro (hj | ⟨i, hi, hij⟩)
    · exact ⟨j, hj, .inl rfl⟩
    · exact ⟨i, hi, .inr hij⟩
  · rintro ⟨i, hi, rfl | hij⟩
    · exact .inl hi
    · exact .inr ⟨i, hi, hij⟩

theorem applyUpTo (h : Steps f R) (k : Nat) :
    Steps (applyUpTo f k) fun i j => ∃ e ≤ k, Rounds R e i j := by
  induction k with
  | zero =>
    intro s j
    simp [Pattern.applyUpTo, rounds_zero_iff]
  | succ k ih =>
    intro s j
    rw [Pattern.applyUpTo]
    split
    · rename_i hs
      constructor
      · exact fun hj => ⟨j, hj, 0, Nat.zero_le _, .done⟩
      · rintro ⟨i, hi, e, -, hrounds⟩
        exact h.rounds_of_closed hs hi hrounds
    · refine (h.or_self.comp ih).congr (S := fun i j => ∃ e ≤ k + 1, Rounds R e i j) ?_ s j
      intro i j
      constructor
      · rintro ⟨m, rfl | him, e, he, hrounds⟩
        · exact ⟨e, by omega, hrounds⟩
        · exact ⟨e + 1, by omega, .step him hrounds⟩
      · rintro ⟨e, he, hrounds⟩
        cases hrounds with
        | done => exact ⟨_, .inl rfl, 0, Nat.zero_le _, .done⟩
        | @step e _ m _ him hrest => exact ⟨m, .inr him, e, by omega, hrest⟩

theorem step (p : Places) : Steps (Walk.step p).ends fun i j => j = i + 1 ∧ p.testBit i = true := by
  intro s j
  rw [Walk.ends, Nat.testBit_shiftLeft]
  cases j <;> simp

theorem stay (p : Places) : Steps (Walk.stay p).ends fun i j => j = i ∧ p.testBit i = true := by
  intro s j
  rw [Walk.ends, Nat.testBit_and]
  simp

/-- The walk along a word. -/
theorem word (ds : List Char) :
    Steps (Walk.endsAfterAll (ds.map fun d => .step (charPlaces cs.toArray d))) fun i j =>
      j = i + ds.length ∧ ds <+: cs.drop i := by
  induction ds with
  | nil =>
    intro s j
    simp [Walk.endsAfterAll]
  | cons d ds ih =>
    refine ((step _).comp ih).congr fun i j => ?_
    simp only [testBit_charPlaces]
    exact exists_leads_word_iff

end Steps

end Places

/-! ## Walks -/

mutual

/-- **The walk of a node on a line** goes where the node leads. -/
theorem Node.steps_walk (a : Node) : Steps (a.walk cs.toArray).ends (a.Leads cs) := by
  cases a with
  | literal ds => exact .word ds
  | set bytes s => exact (Steps.step _).congr fun i j => and_congr_right fun _ => testBit_setPlaces
  | look l => exact (Steps.stay _).congr fun i j => and_congr_right fun _ => testBit_lookPlaces
  | capture a => exact a.steps_walk
  | rep least most greedy a =>
    have ha : Steps (a.walk cs.toArray).ends (a.Leads cs) := a.steps_walk
    refine ((ha.applyTimes _).comp (ha.applyUpTo _)).congr fun i j => ?_
    -- the walk makes at most one round more than there are characters, of either kind
    rw [Leads, List.size_toArray]
    refine exists_congr fun m => and_congr (rounds_min_iff (Leads.isAhead a)) ?_
    have hlimit : IsAhead cs m j → j - m ≤ cs.length + 1 := fun h => h.sub_le.trans (Nat.le_succ _)
    rw [← exists_rounds_iff (Leads.isAhead a) least most hlimit]
    refine exists_congr fun e => ?_
    cases most <;> simp [and_assoc]
  | seq items => exact Node.steps_walks items
  | alt branches => exact Node.steps_anyWalk branches

theorem Node.steps_walks (items : List Node) :
    Steps (Walk.endsAfterAll (Node.walks cs.toArray items)) (Node.LeadThrough cs items) := by
  cases items with
  | nil =>
    intro s j
    simp [Node.walks, Walk.endsAfterAll, Node.LeadThrough]
  | cons a rest => exact (a.steps_walk).comp (Node.steps_walks rest)

theorem Node.steps_anyWalk (branches : List Node) :
    Steps (Walk.endsAfterAny (Node.walks cs.toArray branches)) (Node.AnyLeads cs branches) := by
  cases branches with
  | nil =>
    intro s j
    simp [Node.walks, Walk.endsAfterAny, Node.AnyLeads]
  | cons a rest =>
    intro s j
    have ha : Steps (a.walk cs.toArray).ends (a.Leads cs) := a.steps_walk
    have hrest : Steps _ (Node.AnyLeads cs rest) := Node.steps_anyWalk rest
    simp only [Node.walks, Walk.endsAfterAny, Node.AnyLeads, Nat.testBit_or, Bool.or_eq_true,
      ha s j, hrest s j, and_or_left, exists_or]

end

/-! ## Threads -/

/-- A thread at a place of a text. -/
def Thread.atPlace (cs : List Char) (i : Nat) (groups : List (List Char)) : Thread :=
  ⟨(cs.take i).reverse, cs.drop i, groups⟩

/-- Threads are at places of a text that satisfy `P`, and at all of them. -/
structure Covers (cs : List Char) (ps : List Thread) (P : Nat → Prop) : Prop where
  sound : ∀ p ∈ ps, ∃ j groups, p = .atPlace cs j groups ∧ P j
  complete : ∀ j, P j → ∃ groups, .atPlace cs j groups ∈ ps

namespace Covers

variable {ps qs : List Thread} {P Q : Nat → Prop} {f : Thread → List Thread}

theorem congr (h : Covers cs ps P) (hPQ : ∀ j, P j ↔ Q j) : Covers cs ps Q := by
  obtain rfl : P = Q := funext fun j => propext (hPQ j)
  exact h

theorem singleton (i : Nat) (groups : List (List Char)) :
    Covers cs [.atPlace cs i groups] (· = i) where
  sound p hp := ⟨i, groups, List.mem_singleton.1 hp, rfl⟩
  complete j hj := ⟨groups, by rw [hj, List.mem_singleton]⟩

theorem nil : Covers cs [] fun _ => False where
  sound p hp := by cases hp
  complete j hj := hj.elim

theorem append (h : Covers cs ps P) (h' : Covers cs qs Q) :
    Covers cs (ps ++ qs) fun j => P j ∨ Q j where
  sound p hp := by
    rcases List.mem_append.1 hp with hp | hp
    · obtain ⟨j, groups, hj, hP⟩ := h.sound p hp
      exact ⟨j, groups, hj, .inl hP⟩
    · obtain ⟨j, groups, hj, hQ⟩ := h'.sound p hp
      exact ⟨j, groups, hj, .inr hQ⟩
  complete j hj := by
    rcases hj with hj | hj
    · obtain ⟨groups, hp⟩ := h.complete j hj
      exact ⟨groups, List.mem_append_left _ hp⟩
    · obtain ⟨groups, hp⟩ := h'.complete j hj
      exact ⟨groups, List.mem_append_right _ hp⟩

theorem flatMap (h : Covers cs ps P)
    (hf : ∀ j, P j → ∀ groups, Covers cs (f (.atPlace cs j groups)) (R j)) :
    Covers cs (ps.flatMap f) fun l => ∃ j, P j ∧ R j l where
  sound q hq := by
    obtain ⟨p, hp, hq⟩ := List.mem_flatMap.1 hq
    obtain ⟨j, groups, rfl, hj⟩ := h.sound p hp
    obtain ⟨l, later, rfl, hl⟩ := (hf j hj groups).sound q hq
    exact ⟨l, later, rfl, j, hj, hl⟩
  complete l hl := by
    obtain ⟨j, hj, hl⟩ := hl
    obtain ⟨groups, hp⟩ := h.complete j hj
    obtain ⟨later, hq⟩ := (hf j hj groups).complete l hl
    exact ⟨later, List.mem_flatMap.2 ⟨_, hp, hq⟩⟩

theorem map_endGroup (h : Covers cs ps P) (p : Thread) : Covers cs (ps.map p.endGroup) P where
  sound q hq := by
    obtain ⟨q, hmem, rfl⟩ := List.mem_map.1 hq
    obtain ⟨j, groups, rfl, hj⟩ := h.sound q hmem
    exact ⟨j, _, rfl, hj⟩
  complete j hj := by
    obtain ⟨groups, hq⟩ := h.complete j hj
    exact ⟨_, List.mem_map.2 ⟨_, hq, rfl⟩⟩

end Covers

/-- From each place of a text, a function lists threads at the places to which a relation leads. -/
def Follows (cs : List Char) (f : Thread → List Thread) (R : Nat → Nat → Prop) : Prop :=
  ∀ i ≤ cs.length, ∀ groups, Covers cs (f (.atPlace cs i groups)) (R i)

namespace Follows

variable {f g : Thread → List Thread} {i j k : Nat}

theorem congr (h : Follows cs f R) (hRS : ∀ i j, R i j ↔ S i j) : Follows cs f S :=
  fun i hi groups => (h i hi groups).congr (hRS i)

theorem comp (hf : Follows cs f R) (hR : ∀ i j, R i j → IsAhead cs i j) (hg : Follows cs g S) :
    Follows cs (fun p => (f p).flatMap g) fun i j => ∃ m, R i m ∧ S m j := by
  intro i hi groups
  exact (hf i hi groups).flatMap fun m hm later => hg m ((hR i m hm).le_length hi) later

theorem rounds (h : Follows cs f R) (hR : ∀ i j, R i j → IsAhead cs i j) (k : Nat) :
    Follows cs (Thread.rounds f k) (Rounds R k) := by
  induction k with
  | zero => exact fun i _ groups => (Covers.singleton i groups).congr fun j => rounds_zero_iff.symm
  | succ k ih => exact (h.comp hR ih).congr fun i j => rounds_succ_iff.symm

theorem ahead_atPlace_eq_iff {groups later : List (List Char)} (hj : j ≤ cs.length)
    (hi : i ≤ cs.length) :
    (Thread.atPlace cs j later).ahead = (Thread.atPlace cs i groups).ahead ↔ j = i := by
  constructor
  · intro h
    have hlength := congrArg List.length h
    simp only [Thread.atPlace, List.length_drop] at hlength
    omega
  · rintro rfl
    rfl

theorem roundsUpTo (h : Follows cs f R) (hR : ∀ i j, R i j → IsAhead cs i j) (greedy : Bool)
    (k : Nat) : Follows cs (Thread.roundsUpTo greedy f k) fun i j => ∃ e ≤ k, Rounds R e i j := by
  induction k with
  | zero =>
    intro i hi groups
    refine (Covers.singleton i groups).congr fun j => ?_
    simp [rounds_zero_iff]
  | succ k ih =>
    intro i hi groups
    have hstop : Covers cs [.atPlace cs i groups] (· = i) := .singleton i groups
    have hmore : Covers cs ((f (.atPlace cs i groups)).flatMap fun q =>
        if q.ahead = (Thread.atPlace cs i groups).ahead then [q]
        else Thread.roundsUpTo greedy f k q)
        fun l => ∃ j, R i j ∧ if j = i then l = i else ∃ e ≤ k, Rounds R e j l := by
      refine (h i hi groups).flatMap fun j hj later => ?_
      have hle := (hR i j hj).le_length hi
      simp only [ahead_atPlace_eq_iff hle hi]
      split
      · subst j
        exact .singleton i later
      · exact ih j hle later
    rw [Thread.roundsUpTo]
    cases greedy with
    | true => exact (hmore.append hstop).congr fun l => exists_rounds_succ_iff.symm
    | false => exact (hstop.append hmore).congr fun l => or_comm.trans exists_rounds_succ_iff.symm

theorem step (isFit : Char → Bool) : Follows cs (fun p => (p.step? isFit).toList) fun i j =>
    j = i + 1 ∧ cs[i]?.any isFit = true := by
  intro i hi groups
  dsimp only
  by_cases hlt : i < cs.length
  · have hat : Thread.atPlace cs i groups =
        ⟨(cs.take i).reverse, cs[i] :: cs.drop (i + 1), groups⟩ := by
      rw [Thread.atPlace, List.drop_eq_getElem_cons hlt]
    have hnext : Thread.atPlace cs (i + 1) groups =
        ⟨cs[i] :: (cs.take i).reverse, cs.drop (i + 1), groups⟩ := by
      rw [Thread.atPlace, List.take_succ_eq_append_getElem hlt, List.reverse_append]
      rfl
    rw [hat, Thread.step?_cons, List.getElem?_eq_getElem hlt, ← hnext]
    split
    · rename_i hc
      exact (Covers.singleton (i + 1) groups).congr fun j => by simp [hc]
    · rename_i hc
      exact Covers.nil.congr fun j => by simp [hc]
  · have hat : Thread.atPlace cs i groups = ⟨(cs.take i).reverse, [], groups⟩ := by
      rw [Thread.atPlace, List.drop_of_length_le (Nat.le_of_not_lt hlt)]
    rw [hat, Thread.step?_nil, List.getElem?_eq_none (Nat.le_of_not_lt hlt)]
    exact Covers.nil.congr fun j => by simp

theorem word (ds : List Char) : Follows cs (fun p => (p.word? ds).toList) fun i j =>
    j = i + ds.length ∧ ds <+: cs.drop i := by
  induction ds with
  | nil => exact fun i _ groups => (Covers.singleton i groups).congr fun j => by simp
  | cons d ds ih =>
    have hword : (fun p : Thread => (p.word? (d :: ds)).toList) = fun p =>
        (p.step? (· == d)).toList.flatMap fun q => (q.word? ds).toList := by
      funext p
      rw [Thread.word?_cons]
      cases p.step? (· == d) <;> simp
    have hany : ∀ o : Option Char, o.any (· == d) = true ↔ o = some d := fun o => by
      cases o <;> simp
    rw [hword]
    refine ((step (· == d)).comp (fun i j => IsAhead.of_any) ih).congr fun i j => ?_
    simp only [hany]
    exact exists_leads_word_iff

theorem look (l : Look) :
    Follows cs (fun p => if l.holds p.behind.head? p.ahead.head? then [p] else []) fun i j =>
      j = i ∧ i ≤ cs.length ∧ l.holds (cs.take i).getLast? cs[i]? = true := by
  intro i hi groups
  have hbehind : (Thread.atPlace cs i groups).behind.head? = (cs.take i).getLast? :=
    List.head?_reverse
  have hahead : (Thread.atPlace cs i groups).ahead.head? = cs[i]? := List.head?_drop
  dsimp only
  rw [hbehind, hahead]
  split
  · rename_i hl
    exact (Covers.singleton i groups).congr fun j => by simp [hi, hl]
  · rename_i hl
    exact Covers.nil.congr fun j => by simp [hl]

end Follows

mutual

/-- **The threads of a node** are at the places to which it leads. -/
theorem Node.follows_threads (a : Node) : Follows cs a.threads (a.Leads cs) := by
  cases a with
  | literal ds => exact .word ds
  | set bytes s => exact .step s.contains
  | look l => exact .look l
  | capture a => exact fun i hi groups => (Node.follows_threads a i hi groups).map_endGroup _
  | rep least most greedy a =>
    have ha : Follows cs a.threads (a.Leads cs) := Node.follows_threads a
    refine (ha.rounds (Leads.isAhead a) least).comp (fun i j h => h.isAhead (Leads.isAhead a)) ?_
    intro i hi groups
    refine (ha.roundsUpTo (Leads.isAhead a) greedy _ i hi groups).congr fun j => ?_
    cases most with
    | some k => simp
    | none =>
      -- without an upper bound, the characters ahead limit the rounds
      have hlimit : IsAhead cs i j → j - i ≤ (Thread.atPlace cs i groups).ahead.length + 1 := by
        intro h
        have hj := h.le_length hi
        rw [Thread.atPlace, List.length_drop]
        omega
      refine Iff.trans ?_ (exists_rounds_iff (Leads.isAhead a) least none hlimit)
      simp
  | seq items => exact Node.follows_threadsOfAll items
  | alt branches => exact Node.follows_threadsOfAny branches

theorem Node.follows_threadsOfAll (items : List Node) :
    Follows cs (Node.threadsOfAll items) (Node.LeadThrough cs items) := by
  cases items with
  | nil => exact fun i _ groups => .singleton i groups
  | cons a rest =>
    exact (Node.follows_threads a).comp (Node.Leads.isAhead a) (Node.follows_threadsOfAll rest)

theorem Node.follows_threadsOfAny (branches : List Node) :
    Follows cs (Node.threadsOfAny branches) (Node.AnyLeads cs branches) := by
  cases branches with
  | nil => exact fun _ _ _ => .nil
  | cons a rest =>
    exact fun i hi groups =>
      (Node.follows_threads a i hi groups).append (Node.follows_threadsOfAny rest i hi groups)

end

/-! ## Matches -/

namespace Node

variable {a : Node} {behind ahead : List Char}

/-- **A line is found to match** if the node leads from any place of it to another. -/
theorem isMatch_iff_leads (line : String) : a.isMatch line = true ↔
    ∃ i ≤ line.toList.length, ∃ j, a.Leads line.toList i j := by
  have hwalk : Steps (a.walk line.toList.toArray).ends (a.Leads line.toList) := a.steps_walk
  have hplaces : ∀ i, (Nat.pow 2 (line.toList.length + 1) - 1).testBit i = true ↔
      i ≤ line.toList.length := fun i => by
    rw [Nat.pow_eq, Nat.testBit_two_pow_sub_one, decide_eq_true_eq, Nat.lt_succ_iff]
  rw [isMatch, bne_iff_ne, List.size_toArray]
  constructor
  · intro h
    obtain ⟨j, hj⟩ := Nat.exists_testBit_of_ne_zero h
    obtain ⟨i, hi, hij⟩ := (hwalk _ j).1 hj
    exact ⟨i, (hplaces i).1 hi, j, hij⟩
  · rintro ⟨i, hi, j, hij⟩ h
    have hj := (hwalk _ j).2 ⟨i, (hplaces i).2 hi, hij⟩
    rw [h, Nat.zero_testBit] at hj
    cases hj

/-- There is a match at a place if the node leads from there to any place. -/
theorem isSome_first?_iff : (a.first? behind ahead).isSome = true ↔
    ∃ j, a.Leads (behind.reverse ++ ahead) behind.length j := by
  have hat : Thread.atPlace (behind.reverse ++ ahead) behind.length [] = ⟨behind, ahead, []⟩ := by
    simp [Thread.atPlace]
  have hfollows : Follows (behind.reverse ++ ahead) a.threads (a.Leads _) := a.follows_threads
  have hcovers := hfollows behind.length (by simp) []
  rw [hat] at hcovers
  rw [first?, List.isSome_head?]
  constructor
  · intro h
    obtain ⟨p, hp⟩ := List.exists_mem_of_ne_nil _ h
    obtain ⟨j, -, -, hj⟩ := hcovers.sound p hp
    exact ⟨j, hj⟩
  · rintro ⟨j, hj⟩
    obtain ⟨groups, hp⟩ := hcovers.complete j hj
    exact List.ne_nil_of_mem hp

theorem matchesFrom_ne_nil (h : (a.first? behind ahead).isSome = true) :
    a.matchesFrom false behind ahead ≠ [] := by
  obtain ⟨q, hq⟩ := Option.isSome_iff_exists.1 h
  rw [matchesFrom.eq_def, hq]
  dsimp only
  split <;> simp

/-- Matches are listed if there is one at any place. -/
theorem matchesFrom_ne_nil_iff : a.matchesFrom false behind ahead ≠ [] ↔
    ∃ read rest, ahead = read ++ rest ∧
      (a.first? (read.reverse ++ behind) rest).isSome = true := by
  induction ahead generalizing behind with
  | nil =>
    by_cases h : (a.first? behind []).isSome = true
    · exact ⟨fun _ => ⟨[], [], rfl, h⟩, fun _ => matchesFrom_ne_nil h⟩
    · rw [matchesFrom_nil (by simpa using h)]
      refine ⟨fun hne => absurd rfl hne, ?_⟩
      rintro ⟨read, rest, hnil, hsome⟩
      obtain ⟨rfl, rfl⟩ := List.append_eq_nil_iff.1 hnil.symm
      exact absurd hsome h
  | cons c s ih =>
    by_cases h : (a.first? behind (c :: s)).isSome = true
    · exact ⟨fun _ => ⟨[], c :: s, rfl, h⟩, fun _ => matchesFrom_ne_nil h⟩
    · rw [matchesFrom_of_none (by simpa using h), ih]
      constructor
      · rintro ⟨read, rest, rfl, hsome⟩
        exact ⟨c :: read, rest, rfl, by simpa using hsome⟩
      · rintro ⟨read, rest, hs, hsome⟩
        cases read with
        | nil =>
          obtain rfl : c :: s = rest := hs
          exact absurd hsome h
        | cons d read =>
          obtain ⟨rfl, rfl⟩ := List.cons.inj hs
          exact ⟨read, rest, rfl, by simpa using hsome⟩

/-- **The test of a line agrees with the list of its matches**: it tells whether there is any. -/
theorem isMatch_iff (line : String) : a.isMatch line = true ↔ a.matchesIn line ≠ [] := by
  rw [isMatch_iff_leads, matchesIn, matchesFrom_ne_nil_iff]
  constructor
  · rintro ⟨i, hi, j, hij⟩
    refine ⟨line.toList.take i, line.toList.drop i, (List.take_append_drop i _).symm, ?_⟩
    rw [isSome_first?_iff]
    exact ⟨j, by simpa [hi] using hij⟩
  · rintro ⟨read, rest, hline, hsome⟩
    obtain ⟨j, hj⟩ := isSome_first?_iff.1 hsome
    exact ⟨read.length, by simp [hline], j, by simpa [hline] using hj⟩

end Node

end DocLint.Pattern

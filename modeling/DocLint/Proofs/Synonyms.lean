import DocLint.Proofs.Account

/-!
# Synonyms that are names elsewhere

A registered record owns all its names, so none of its synonyms leads to another record of its
category. What is found wrong with its synonyms is that some of them are names of records of other
categories. A `Shadowing` is one such find: a place among the names, and the record that has the
name there. A review tells each of them once, by place and then by category, and nothing else of
the synonyms. The main statement, for every registry that registrations lead to, is
`Registry.synonyms_exact`.
-/

namespace DocLint

/-- A synonym that is a name of a record of another category. -/
structure Shadowing where
  /-- The place of the synonym among the names, the main name being at the place 0. -/
  place : Nat
  synonym : String
  /-- The record of the other category. -/
  other : Entry

namespace Shadowing

/-- What a review tells of a shadowing. -/
def finding (s : Shadowing) : Finding := .synonymShadow s.synonym s.other.category s.other.name

/-- A shadowing comes before another one if its place does, or its category at the same place. -/
def Precedes (s t : Shadowing) : Prop :=
  s.place < t.place ∨
    s.place = t.place ∧ Category.all.idxOf s.other.category < Category.all.idxOf t.other.category

/-- The names of `e` have the synonym at that place, and a registered record of another category has
it as a name. A synonym that equals the main name does not count. -/
structure Occurs {phase : Phase} (s : Shadowing) (r : Registry phase) (e : Entry) : Prop where
  place_pos : 1 ≤ s.place
  name : e.names[s.place]? = some s.synonym
  ne_main : e.names.head? ≠ some s.synonym
  listed : s.other ∈ r.entries
  category_ne : s.other.category ≠ e.category
  named : s.synonym ∈ s.other.names

end Shadowing

theorem Category.pairwise_all : all.Pairwise fun a b => all.idxOf a < all.idxOf b := by decide

namespace Registry

variable {r : Registry .complete} {e : Entry}

/-- All shadowings of the synonyms of an entry, by place and then by category. -/
def shadowings (r : Registry .complete) (e : Entry) : List Shadowing :=
  ((e.record.synonyms.zipIdx 1).filter (·.1 != e.record.mainName)).flatMap fun p =>
    (Category.all.filter (· != e.category)).filterMap fun c =>
      (r.lookup c p.1).map fun o => ⟨p.2, p.1, o⟩

theorem place_of_mem_shadowings_at {n : String} {k : Nat} {cs : List Category} {s : Shadowing}
    (h : s ∈ cs.filterMap fun c => (r.lookup c n).map fun o => (⟨k, n, o⟩ : Shadowing)) :
    s.place = k := by
  obtain ⟨c, -, h⟩ := List.mem_filterMap.1 h
  obtain ⟨o, -, rfl⟩ := Option.map_eq_some_iff.1 h
  rfl

namespace Coherent

/-- The shadowings of a synonym are told in the order of the categories. -/
theorem map_finding_shadowings (h : r.Coherent) : (r.shadowings e).map Shadowing.finding =
    (e.record.synonyms.filter (· != e.record.mainName)).flatMap (r.synonymShadows e.category) := by
  have at_place : ∀ (n : String) (k : Nat),
      ((Category.all.filter (· != e.category)).filterMap fun c =>
        (r.lookup c n).map fun o => (⟨k, n, o⟩ : Shadowing)).map Shadowing.finding =
      r.synonymShadows e.category n := by
    intro n k
    rw [List.map_filterMap]
    refine List.filterMap_congr fun c _ => ?_
    rw [Option.map_map]
    cases hl : r.lookup c n with
    | none => rfl
    | some o =>
      obtain ⟨-, rfl, -⟩ := h.lookup_iff.1 hl
      rfl
  conv_rhs => rw [← List.zipIdx_map_fst 1 e.record.synonyms, List.filter_map, List.flatMap_map]
  rw [shadowings, List.map_flatMap]
  exact List.flatMap_congr fun p _ => at_place p.1 p.2

theorem mem_shadowings_iff (h : r.Coherent) {s : Shadowing} :
    s ∈ r.shadowings e ↔ s.Occurs r e := by
  have hnames : e.names = e.record.mainName :: e.record.synonyms := e.record.names_eq
  have hplace : ∀ k n, (n, k) ∈ e.record.synonyms.zipIdx 1 ↔ 1 ≤ k ∧ e.names[k]? = some n := by
    intro k n
    rw [List.mk_mem_zipIdx_iff_le_and_getElem?_sub]
    refine and_congr_right fun hk => ?_
    obtain ⟨j, rfl⟩ := Nat.exists_eq_add_of_le' hk
    simp [hnames]
  have hmain : ∀ n, e.names.head? ≠ some n ↔ n ≠ e.record.mainName := by
    intro n
    rw [hnames, List.head?_cons, ne_eq, Option.some.injEq]
    exact ne_comm
  simp only [shadowings, List.mem_flatMap, List.mem_filter, List.mem_filterMap, bne_iff_ne]
  constructor
  · rintro ⟨⟨n, k⟩, ⟨hp, hne⟩, c, ⟨-, hc⟩, hs⟩
    obtain ⟨o, hl, rfl⟩ := Option.map_eq_some_iff.1 hs
    obtain ⟨hk, hn⟩ := (hplace k n).1 hp
    obtain ⟨ho, rfl, hon⟩ := h.lookup_iff.1 hl
    have hn' : n ∈ e.names := List.mem_of_getElem? hn
    rw [Record.lowercase_of_mem_names hn'] at hon
    exact ⟨hk, hn, (hmain n).2 hne, ho, hc, hon⟩
  · obtain ⟨k, n, o⟩ := s
    rintro ⟨hk, hn, hne, ho, hc, hon⟩
    refine ⟨(n, k), ⟨(hplace k n).2 ⟨hk, hn⟩, (hmain n).1 hne⟩, o.category,
      ⟨Category.mem_all _, hc⟩, Option.map_eq_some_iff.2 ⟨o, h.lookup_iff.2 ⟨ho, rfl, ?_⟩, rfl⟩⟩
    rwa [Record.lowercase_of_mem_names hon]

theorem pairwise_shadowings (h : r.Coherent) :
    (r.shadowings e).Pairwise Shadowing.Precedes := by
  rw [shadowings, List.pairwise_flatMap]
  constructor
  · -- at one place, the categories ascend
    intro p _
    rw [List.pairwise_filterMap]
    refine (Category.pairwise_all.filter _).imp fun {c c'} hlt s hs t ht => ?_
    obtain ⟨o, hl, rfl⟩ := Option.map_eq_some_iff.1 hs
    obtain ⟨o', hl', rfl⟩ := Option.map_eq_some_iff.1 ht
    obtain ⟨-, rfl, -⟩ := h.lookup_iff.1 hl
    obtain ⟨-, rfl, -⟩ := h.lookup_iff.1 hl'
    exact .inr ⟨rfl, hlt⟩
  · have hplaces : (e.record.synonyms.zipIdx 1).Pairwise fun p q => p.2 < q.2 := by
      rw [← List.pairwise_map (f := Prod.snd) (R := (· < ·)), List.zipIdx_map_snd]
      exact List.pairwise_lt_range'
    refine (hplaces.filter _).imp fun {p q} hlt s hs t ht => .inl ?_
    rwa [place_of_mem_shadowings_at hs, place_of_mem_shadowings_at ht]

theorem kind_of_mem_synonymFindings (h : r.Coherent) (he : e ∈ r.entries) {x : Finding}
    (hx : x ∈ r.synonymFindings e.record) : x.kind = .synonymShadow := by
  rw [h.synonymFindings_eq he] at hx
  obtain ⟨s, -, hx⟩ := List.mem_flatMap.1 hx
  exact kind_of_mem_synonymShadows hx

theorem findingsOf_synonymShadow (h : r.Coherent) (he : e ∈ r.entries) :
    r.findingsOf .synonymShadow e.record = r.synonymFindings e.record := by
  rw [findingsOf_eq, filter_kind fun _ => h.kind_of_mem_synonymFindings he]
  simp

theorem findingsOf_synonymConflict (h : r.Coherent) (he : e ∈ r.entries) :
    r.findingsOf .synonymConflict e.record = [] := by
  rw [findingsOf_eq, filter_kind fun _ => h.kind_of_mem_synonymFindings he]
  simp

end Coherent

/-- What is found wrong with the synonyms of a registered record. -/
structure SynonymsExact (r : Registry .complete) (e : Entry) : Prop where
  /-- No synonym leads to another record of the category, or to none. -/
  no_conflict : ∀ x ∈ r.synonymFindings e.record, x.kind ≠ .synonymConflict
  /-- Each shadowing is told once, by place and then in the order of the categories. -/
  shadowings : ∃ hits : List Shadowing, r.synonymFindings e.record = hits.map Shadowing.finding ∧
    hits.Pairwise Shadowing.Precedes ∧ ∀ s, s ∈ hits ↔ s.Occurs r e
  /-- This is all that the review of the record tells of synonyms. -/
  review : r.findingsOf .synonymConflict e.record = [] ∧
    r.findingsOf .synonymShadow e.record = r.synonymFindings e.record
  /-- Only events have something wrong with their synonyms. -/
  event : e.category ≠ .event → r.synonymFindings e.record = []

theorem Coherent.synonymsExact (h : r.Coherent) (he : e ∈ r.entries) : r.SynonymsExact e where
  no_conflict x hx := by
    rw [h.kind_of_mem_synonymFindings he hx]
    decide
  shadowings := by
    refine ⟨r.shadowings e, ?_, h.pairwise_shadowings, fun s => h.mem_shadowings_iff⟩
    rw [h.map_finding_shadowings, h.synonymFindings_eq he]
  review := ⟨h.findingsOf_synonymConflict he, h.findingsOf_synonymShadow he⟩
  event hc := by
    obtain ⟨i, x⟩ := e
    cases x with
    | event d => exact absurd rfl hc
    | entity d => exact synonymFindings_entity d

end Registry

/-! ## Checks -/

namespace Batch

/-- A check finds no synonym that leads to another record of its category. -/
theorem kind_of_mem_notices {batch : List Fragment} {n : Notice} (h : n ∈ notices batch) :
    n.finding.kind ≠ .synonymConflict := by
  rcases mem_notices.1 h with ⟨f, i, -, h⟩ | ⟨e, he, x, hx, rfl⟩
  · rcases (of_mem_turnNotices h).2.2 with ⟨-, hk⟩ | ⟨-, hk⟩
    · simp [hk]
    · exact fun hconflict => absurd (hconflict ▸ hk) (by decide)
  · intro hk
    have hmem : x ∈ (registry batch).findingsOf .synonymConflict e.record :=
      List.mem_filter.2 ⟨hx, beq_iff_eq.2 hk⟩
    rw [(coherent_registry batch).findingsOf_synonymConflict he] at hmem
    cases hmem

end Batch

namespace Registry

/-- **What is found wrong with synonyms is exactly that they are names elsewhere.** Let records be
registered in any sequence, with success or not. Then of every registered record, a review tells
each of its synonyms that is a name in another category, by place and then by category, with the
record that has it there, and nothing else of its synonyms. In particular no check finds a synonym
that leads to another record of its own category. -/
theorem synonyms_exact (records : Nat → Record) (calls : List Nat) :
    (∀ e ∈ (offerAll records calls).complete.entries,
      (offerAll records calls).complete.SynonymsExact e) ∧
    ∀ (batch : List Fragment) (config : Config),
      ∀ i ∈ (Batch.check batch config).report.issues, i.kind ≠ .synonymConflict := by
  refine ⟨fun e he => (coherent_offerAll records calls).1.complete.synonymsExact he,
    fun batch config i hi => ?_⟩
  rw [(Batch.issues_check batch config).mem_iff, List.mem_filterMap] at hi
  obtain ⟨n, hn, hi⟩ := hi
  obtain ⟨s, -, rfl⟩ := Notice.issue?_eq_some_iff.1 hi
  exact Batch.kind_of_mem_notices hn

/-- An event with one synonym given twice and one that is its name, and others called like these. -/
def jumpsAndPauses : List Fragment :=
  [{ category := "guide", tags := [("name", "pause"), ("description", "On pauses.")] },
   { category := "event"
     tags := [("events", "player jumps\nPause\nPlayer Jumps\nplayer leaps\nPAUSE"),
       ("triggers", "when a player jumps"), ("regex", "^player jumps$")] },
   { category := "command", tags := [("name", "Pause"), ("description", "Pauses.")] },
   { category := "tag", tags := [("name", "player jumps"), ("description", "Whether.")] }]

example : (Batch.registry jumpsAndPauses).reviewAll.map Prod.snd =
    [[],
     [.synonymShadow "pause" .command "Pause", .synonymShadow "pause" .guide "pause",
      .synonymShadow "pause" .command "Pause", .synonymShadow "pause" .guide "pause"],
     [], []] := by decide +kernel

end Registry

end DocLint

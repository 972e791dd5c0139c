import DocLint.Proofs.Loading
import DocLint.Proofs.Registry

/-!
# The intake of a batch

The fragments of a batch have their turns one after the other: `Batch.before` is the registry when a
fragment has its turn, and `Batch.before_succ` is what a turn does to it. Whatever becomes of the
others, every fragment has one `Fate`. It is registered exactly if it makes a record and clashes
with no earlier fragment that is registered (`Batch.fate_eq_registered_iff`); one that is refused
stands in nobody's way.
-/

namespace DocLint

/-- Two fragments clash if they claim the same name in the same category. -/
def Fragment.Clashes (f g : Fragment) : Prop :=
  f.category? = g.category? ∧ ∃ n ∈ f.names, n ∈ g.names

namespace Fragment

instance (f g : Fragment) : Decidable (f.Clashes g) := inferInstanceAs (Decidable (_ ∧ _))

theorem Clashes.symm {f g : Fragment} : f.Clashes g → g.Clashes f := by
  rintro ⟨hc, n, hf, hg⟩
  exact ⟨hc.symm, n, hg, hf⟩

instance : Std.Symm fun f g : Fragment => ¬f.Clashes g := ⟨fun _ _ h h' => h h'.symm⟩

end Fragment

/-- What becomes of a fragment. -/
inductive Fate
  /-- Its category does not exist. -/
  | unknownCategory
  /-- It makes no record, because it declares no name. -/
  | nameless
  /-- Its record is not registered, because one of its names is taken. -/
  | refused
  /-- Its record is registered. -/
  | registered
  deriving DecidableEq, Repr

namespace Batch

/-! ## Turns -/

theorem intake_append (r : Registry .collecting) (index : Nat) (batch rest : List Fragment) :
    intake r index (batch ++ rest) =
      ((intake (intake r index batch).1 (index + batch.length) rest).1,
        (intake r index batch).2 ++
          (intake (intake r index batch).1 (index + batch.length) rest).2) := by
  induction batch generalizing r index with
  | nil => simp [intake]
  | cons f batch ih =>
    simp only [List.cons_append, intake, ih, List.length_cons, List.append_assoc]
    rw [Nat.add_right_comm index 1, Nat.add_assoc]

/-- The registry when the fragment at a place has its turn. -/
def before (batch : List Fragment) (i : Nat) : Registry .collecting :=
  (intake .empty 0 (batch.take i)).1

/-- It is the registry that a check has come to by then, under any configuration. -/
theorem before_eq_turns (batch : List Fragment) (i : Nat) (config : Config) :
    before batch i = (turns config 0 (batch.take i) ⟨.empty, .empty⟩).registry := by
  rw [turns_eq]
  rfl

/-- The notices of the turn of a fragment: those of loading it, then that of registering it. -/
def turnNotices (batch : List Fragment) (f : Fragment) (i : Nat) : List Notice :=
  (f.load i).notices ++ (enroll (before batch i) i (f.load i).record).2

theorem before_zero (batch : List Fragment) : before batch 0 = .empty := by
  rw [before, List.take_zero]
  rfl

theorem intake_take_succ {batch : List Fragment} {i : Nat} {f : Fragment}
    (h : batch[i]? = some f) : intake .empty 0 (batch.take (i + 1)) =
      ((enroll (before batch i) i f.record?).1,
        (intake .empty 0 (batch.take i)).2 ++ turnNotices batch f i) := by
  have hi : i < batch.length := (List.getElem?_eq_some_iff.1 h).1
  rw [List.take_add_one, h, intake_append, List.length_take_of_le hi.le, Nat.zero_add]
  simp [intake, before, turnNotices, Fragment.load_record]

/-- **What a turn does to the registry.** -/
theorem before_succ {batch : List Fragment} {i : Nat} {f : Fragment} (h : batch[i]? = some f) :
    before batch (i + 1) = (enroll (before batch i) i f.record?).1 := by
  rw [before, intake_take_succ h]

theorem before_succ_of_none {batch : List Fragment} {i : Nat} (h : batch[i]? = none) :
    before batch (i + 1) = before batch i := by
  rw [before, before, List.take_add_one, h, Option.toList_none, List.append_nil]

/-- What comes later has no part in the turns before it. -/
theorem before_append {batch : List Fragment} {i : Nat} (h : i ≤ batch.length)
    (more : List Fragment) : before (batch ++ more) i = before batch i := by
  rw [before, before, List.take_append_of_le_length h]

/-- A turn takes one more fragment with its place. -/
theorem take_zipIdx_succ (batch : List Fragment) (i : Nat) :
    batch.zipIdx.take (i + 1) = batch.zipIdx.take i ++ (batch[i]?.map (·, i)).toList := by
  rw [List.take_add_one, List.getElem?_zipIdx, Nat.zero_add]

theorem registry_eq_before (batch : List Fragment) :
    registry batch = (before batch batch.length).complete := by
  rw [registry, before, List.take_length]

/-- The notices of the intake are those of the turns. -/
theorem intake_notices (batch : List Fragment) :
    (intake .empty 0 batch).2 = batch.zipIdx.flatMap fun p => turnNotices batch p.1 p.2 := by
  have upTo : ∀ i, (intake .empty 0 (batch.take i)).2 =
      (batch.zipIdx.take i).flatMap fun p => turnNotices batch p.1 p.2 := by
    intro i
    induction i with
    | zero => simp [intake]
    | succ i ih =>
      rw [take_zipIdx_succ, List.flatMap_append, ← ih]
      cases h : batch[i]? with
      | none => simp [List.take_add_one, h]
      | some f => simp [intake_take_succ h]
  simpa [List.take_of_length_le] using upTo batch.length

/-! ## The registry between turns -/

theorem enroll_of_ok {r r' : Registry .collecting} {i : Nat} {x : Record}
    (h : r.register ⟨i, x⟩ = .ok () r') : enroll r i (some x) = (r', []) := by
  simp only [enroll, h]

/-- A record that is refused leaves the registry as it was. -/
theorem enroll_of_error {r r' : Registry .collecting} {i : Nat} {x : Record} {e : Finding}
    (h : r.register ⟨i, x⟩ = .error e r') :
    enroll r i (some x) = (r, [⟨x.name, some x.category, e⟩]) := by
  obtain ⟨rfl, -⟩ := Registry.register_eq_error_iff.1 h
  simp only [enroll, h]

/-- A record with a new number is listed at the end when it is registered. -/
theorem entries_of_register {r r' : Registry .collecting} {i : Nat} {x : Record}
    (hlt : ∀ o ∈ r.entries, o.id < i) (h : r.register ⟨i, x⟩ = .ok () r') :
    r'.entries = r.entries ++ [⟨i, x⟩] := by
  rw [(Registry.of_register_eq_ok h).2.1, if_neg]
  intro hid
  obtain ⟨o, ho, hoi⟩ := List.mem_map.1 hid
  exact absurd hoi (hlt o ho).ne

/-- A turn keeps the registry coherent, and the numbers of its records below that of the next
turn. -/
theorem enroll_coherent {r : Registry .collecting} {i : Nat} (hc : r.Coherent)
    (hlt : ∀ o ∈ r.entries, o.id < i) (x? : Option Record) :
    (enroll r i x?).1.Coherent ∧ ∀ o ∈ (enroll r i x?).1.entries, o.id < i + 1 := by
  have hlt' : ∀ o ∈ r.entries, o.id < i + 1 := fun o ho => Nat.lt_succ_of_lt (hlt o ho)
  cases x? with
  | none => exact ⟨hc, hlt'⟩
  | some x =>
    cases hr : r.register ⟨i, x⟩ with
    | error e r' =>
      rw [enroll_of_error hr]
      exact ⟨hc, hlt'⟩
    | ok _ r' =>
      rw [enroll_of_ok hr]
      refine ⟨hc.of_register (fun o ho hid => absurd hid (hlt o ho).ne) hr, fun o ho => ?_⟩
      rw [entries_of_register hlt hr, List.mem_append, List.mem_singleton] at ho
      rcases ho with ho | rfl
      · exact hlt' o ho
      · exact Nat.lt_succ_self i

/-- **The registry before a turn is coherent**, and no record in it has the number of that turn. -/
theorem coherent_before (batch : List Fragment) (i : Nat) :
    (before batch i).Coherent ∧ ∀ o ∈ (before batch i).entries, o.id < i := by
  induction i with
  | zero =>
    rw [before_zero]
    exact ⟨Registry.coherent_empty, by simp [Registry.empty]⟩
  | succ i ih =>
    cases h : batch[i]? with
    | none =>
      rw [before_succ_of_none h]
      exact ⟨ih.1, fun o ho => Nat.lt_succ_of_lt (ih.2 o ho)⟩
    | some f =>
      rw [before_succ h]
      exact enroll_coherent ih.1 ih.2 f.record?

/-! ## Fates -/

/-- What becomes of the fragment at a place. -/
def fate (batch : List Fragment) (f : Fragment) (i : Nat) : Fate :=
  match Category.read f.category with
  | .error _ => .unknownCategory
  | .ok _ =>
    match (f.load i).record with
    | none => .nameless
    | some x =>
      match (before batch i).register ⟨i, x⟩ with
      | .error _ _ => .refused
      | .ok _ _ => .registered

variable {batch : List Fragment} {f : Fragment} {i : Nat}

theorem fate_of_category?_eq_none (h : f.category? = none) : fate batch f i = .unknownCategory := by
  unfold fate
  rw [Fragment.category?_eq_none_iff.1 h]

theorem fate_of_category? {c : Category} (h : f.category? = some c) : fate batch f i =
    match f.record? with
    | none => .nameless
    | some x =>
      match (before batch i).register ⟨i, x⟩ with
      | .error _ _ => .refused
      | .ok _ _ => .registered := by
  unfold fate
  rw [Fragment.category?_eq_some_iff.1 h]
  simp only [Fragment.load_record]

theorem fate_of_record? (batch : List Fragment) (i : Nat) {x : Record} (h : f.record? = some x) :
    fate batch f i =
      match (before batch i).register ⟨i, x⟩ with
      | .error _ _ => .refused
      | .ok _ _ => .registered := by
  rw [fate_of_category? (Fragment.of_record? h).1, h]

theorem fate_eq_unknownCategory_iff : fate batch f i = .unknownCategory ↔ f.category? = none := by
  constructor
  · intro h
    cases hc : f.category? with
    | none => rfl
    | some c =>
      rw [fate_of_category? hc] at h
      split at h
      · cases h
      · split at h <;> cases h
  · exact fate_of_category?_eq_none

theorem fate_eq_nameless_iff :
    fate batch f i = .nameless ↔ f.category? ≠ none ∧ f.record? = none := by
  cases hc : f.category? with
  | none => simp [fate_of_category?_eq_none hc]
  | some c =>
    rw [fate_of_category? hc]
    cases f.record? with
    | none => simp
    | some x => cases h : (before batch i).register ⟨i, x⟩ <;> simp [h]

theorem fate_of_record?_eq_none (batch : List Fragment) (i : Nat) (h : f.record? = none) :
    fate batch f i ≠ .registered ∧ fate batch f i ≠ .refused := by
  cases hc : f.category? with
  | none => simp [fate_of_category?_eq_none hc]
  | some c => simp [fate_of_category? hc, h]

theorem fate_eq_registered_iff_register : fate batch f i = .registered ↔
    ∃ x r', f.record? = some x ∧ (before batch i).register ⟨i, x⟩ = .ok () r' := by
  cases hx : f.record? with
  | none => simp [fate_of_record?_eq_none batch i hx]
  | some x =>
    rw [fate_of_record? batch i hx]
    cases h : (before batch i).register ⟨i, x⟩ <;> simp [h]

theorem fate_eq_refused_iff_register : fate batch f i = .refused ↔
    ∃ x e r', f.record? = some x ∧ (before batch i).register ⟨i, x⟩ = .error e r' := by
  cases hx : f.record? with
  | none => simp [fate_of_record?_eq_none batch i hx]
  | some x =>
    rw [fate_of_record? batch i hx]
    cases h : (before batch i).register ⟨i, x⟩ <;> simp [h]

/-- A fragment that makes a record is registered or refused. -/
theorem fate_of_record?_ne_none (batch : List Fragment) (i : Nat) (h : f.record? ≠ none) :
    fate batch f i = .registered ∨ fate batch f i = .refused := by
  obtain ⟨x, hx⟩ := Option.ne_none_iff_exists'.1 h
  rw [fate_of_record? batch i hx]
  split
  · exact .inr rfl
  · exact .inl rfl

/-- The entry that a fragment is registered as, if it is. -/
def enrolled? (batch : List Fragment) (p : Fragment × Nat) : Option Entry :=
  if fate batch p.1 p.2 = .registered then p.1.record?.map (⟨p.2, ·⟩) else none

theorem enrolled?_eq_some_iff {e : Entry} : enrolled? batch (f, i) = some e ↔
    fate batch f i = .registered ∧ f.record? = some e.record ∧ e.id = i := by
  obtain ⟨id, x⟩ := e
  unfold enrolled?
  split
  · rename_i h
    simp only [Option.map_eq_some_iff, Entry.mk.injEq]
    constructor
    · rintro ⟨x, hx, rfl, rfl⟩
      exact ⟨h, hx, rfl⟩
    · rintro ⟨-, hx, rfl⟩
      exact ⟨x, hx, rfl, rfl⟩
  · rename_i h
    simp [h]

/-- What a turn adds to the list of the registry. -/
theorem entries_before_succ (h : batch[i]? = some f) : (before batch (i + 1)).entries =
    (before batch i).entries ++ (enrolled? batch (f, i)).toList := by
  rw [before_succ h]
  cases hx : f.record? with
  | none =>
    have : enrolled? batch (f, i) = none := by simp [enrolled?, hx]
    rw [this]
    simp [enroll]
  | some x =>
    have hf := fate_of_record? batch i hx
    cases hr : (before batch i).register ⟨i, x⟩ with
    | error e r' =>
      rw [hr] at hf
      rw [enroll_of_error hr, enrolled?, if_neg (by simp [hf])]
      simp
    | ok _ r' =>
      rw [hr] at hf
      rw [enroll_of_ok hr, entries_of_register (coherent_before batch i).2 hr, enrolled?, if_pos hf,
        hx]
      rfl

/-- **The registry lists the registered fragments before a turn, in the order of the batch.** -/
theorem entries_before (batch : List Fragment) (i : Nat) :
    (before batch i).entries = (batch.zipIdx.take i).filterMap (enrolled? batch) := by
  induction i with
  | zero =>
    rw [before_zero]
    rfl
  | succ i ih =>
    rw [take_zipIdx_succ, List.filterMap_append, ← ih]
    cases h : batch[i]? with
    | none => simp [before_succ_of_none h]
    | some f =>
      rw [entries_before_succ h, Option.map_some, Option.toList_some, List.filterMap_cons,
        List.filterMap_nil]
      cases enrolled? batch (f, i) <;> rfl

theorem entries_registry (batch : List Fragment) :
    (registry batch).entries = batch.zipIdx.filterMap (enrolled? batch) := by
  rw [registry_eq_before]
  change (before batch batch.length).entries = _
  rw [entries_before, List.take_of_length_le (by simp)]

/-- A turn never takes a record out of the registry. -/
theorem entries_before_prefix (batch : List Fragment) {i j : Nat} (h : i ≤ j) :
    (before batch i).entries <+: (before batch j).entries := by
  rw [entries_before, entries_before]
  exact (List.take_prefix_take_left h).filterMap _

theorem mem_take_zipIdx {p : Fragment × Nat} :
    p ∈ batch.zipIdx.take i ↔ p.2 < i ∧ batch[p.2]? = some p.1 := by
  rw [List.mem_iff_getElem?]
  constructor
  · rintro ⟨k, hk⟩
    rw [List.getElem?_take] at hk
    split at hk
    · rename_i hlt
      simp only [List.getElem?_zipIdx, Option.map_eq_some_iff, Nat.zero_add] at hk
      obtain ⟨g, hg, rfl⟩ := hk
      exact ⟨hlt, hg⟩
    · cases hk
  · rintro ⟨hlt, hg⟩
    refine ⟨p.2, ?_⟩
    rw [List.getElem?_take_of_lt hlt, List.getElem?_zipIdx, hg]
    simp

theorem mem_entries_before {e : Entry} : e ∈ (before batch i).entries ↔
    ∃ g, e.id < i ∧ batch[e.id]? = some g ∧ fate batch g e.id = .registered ∧
      g.record? = some e.record := by
  rw [entries_before, List.mem_filterMap]
  constructor
  · rintro ⟨⟨g, j⟩, hp, he⟩
    obtain ⟨hf, hx, rfl⟩ := enrolled?_eq_some_iff.1 he
    obtain ⟨hlt, hg⟩ := mem_take_zipIdx.1 hp
    exact ⟨g, hlt, hg, hf, hx⟩
  · rintro ⟨g, hlt, hg, hf, hx⟩
    exact ⟨(g, e.id), mem_take_zipIdx.2 ⟨hlt, hg⟩, enrolled?_eq_some_iff.2 ⟨hf, hx, rfl⟩⟩

/-- Whether a name of a record is taken when its fragment has its turn. -/
theorem register_fails_iff {x : Record} (hx : f.record? = some x) :
    (∃ e r', (before batch i).register ⟨i, x⟩ = .error e r') ↔
      ∃ g j, j < i ∧ batch[j]? = some g ∧ fate batch g j = .registered ∧ g.Clashes f := by
  obtain ⟨hc, hn, -⟩ := Fragment.of_record? hx
  have hco := (coherent_before batch i).1
  constructor
  · rintro ⟨e, r', he⟩
    obtain ⟨-, _, n, _, o, hnames, -, ho, -⟩ := Registry.register_eq_error_iff.1 he
    obtain ⟨⟨ho, hoc, hon⟩, -⟩ := hco.other?_eq_some_iff.1 ho
    obtain ⟨g, hlt, hg, hf, hgx⟩ := mem_entries_before.1 ho
    obtain ⟨hgc, hgn, -⟩ := Fragment.of_record? hgx
    have hnx : n ∈ x.names := by
      change (Entry.mk i x).names = _ at hnames
      change n ∈ (Entry.mk i x).names
      simp [hnames]
    refine ⟨g, o.id, hlt, hg, hf, ?_, n, hgn ▸ hon, hn ▸ hnx⟩
    rw [hgc, hc]
    exact congrArg some hoc
  · rintro ⟨g, j, hlt, hg, hf, hgc, n, hgn, hfn⟩
    obtain ⟨y, r', hy, hr⟩ := fate_eq_registered_iff_register.1 hf
    obtain ⟨hyc, hyn, -⟩ := Fragment.of_record? hy
    have ho : (⟨j, y⟩ : Entry) ∈ (before batch i).entries :=
      mem_entries_before.2 ⟨g, hlt, hg, hf, hy⟩
    cases hreg : (before batch i).register ⟨i, x⟩ with
    | error e r' => exact ⟨e, r', rfl⟩
    | ok _ r' =>
      have hfree := (Registry.of_register_eq_ok hreg).1 n (hn ▸ hfn : n ∈ x.names)
      have hcat : y.category = x.category := by
        rw [hyc, hc, Option.some.injEq] at hgc
        exact hgc
      have hid : j = i := hco.other?_eq_none_iff.1 hfree _ ho hcat (hyn ▸ hgn : n ∈ y.names)
      omega

/-- **A fragment is refused** exactly if it makes a record and clashes with an earlier fragment that
is registered. -/
theorem fate_eq_refused_iff : fate batch f i = .refused ↔ f.record? ≠ none ∧
    ∃ g j, j < i ∧ batch[j]? = some g ∧ fate batch g j = .registered ∧ g.Clashes f := by
  rw [fate_eq_refused_iff_register]
  constructor
  · rintro ⟨x, e, r', hx, he⟩
    exact ⟨by simp [hx], (register_fails_iff hx).1 ⟨e, r', he⟩⟩
  · rintro ⟨hx, hg⟩
    obtain ⟨x, hx⟩ := Option.ne_none_iff_exists'.1 hx
    obtain ⟨e, r', he⟩ := (register_fails_iff hx).2 hg
    exact ⟨x, e, r', hx, he⟩

/-- **A fragment is registered** exactly if it makes a record and clashes with no earlier fragment
that is registered. -/
theorem fate_eq_registered_iff : fate batch f i = .registered ↔ f.record? ≠ none ∧
    ∀ g j, j < i → batch[j]? = some g → fate batch g j = .registered → ¬g.Clashes f := by
  constructor
  · intro h
    obtain ⟨x, r', hx, -⟩ := fate_eq_registered_iff_register.1 h
    refine ⟨by simp [hx], fun g j hlt hg hf hclash => ?_⟩
    have := fate_eq_refused_iff.2 ⟨by simp [hx], g, j, hlt, hg, hf, hclash⟩
    rw [h] at this
    cases this
  · rintro ⟨hx, hfree⟩
    rcases fate_of_record?_ne_none batch i hx with h | h
    · exact h
    · obtain ⟨-, g, j, hlt, hg, hf, hclash⟩ := fate_eq_refused_iff.1 h
      exact absurd hclash (hfree g j hlt hg hf)

/-- In a batch without clashes, a fragment is registered exactly if it makes a record. -/
theorem fate_eq_registered_iff_of_pairwise (h : batch.Pairwise fun f g => ¬f.Clashes g)
    (hf : batch[i]? = some f) : fate batch f i = .registered ↔ f.record? ≠ none := by
  rw [fate_eq_registered_iff, and_iff_left_iff_imp]
  intro _ g j hlt hg _
  obtain ⟨hi, rfl⟩ := List.getElem?_eq_some_iff.1 hf
  obtain ⟨hj, rfl⟩ := List.getElem?_eq_some_iff.1 hg
  exact List.pairwise_iff_getElem.1 h j i hj hi hlt

/-- The notice of registering, if there is one, is that a name is taken. -/
theorem enroll_notices (batch : List Fragment) (f : Fragment) (i : Nat) :
    (fate batch f i ≠ .refused ∧ (enroll (before batch i) i f.record?).2 = []) ∨
      (fate batch f i = .refused ∧
        ∃ n, (enroll (before batch i) i f.record?).2 = [n] ∧ n.finding.kind = .duplicateName) := by
  cases hx : f.record? with
  | none =>
    refine .inl ⟨fun h => ?_, rfl⟩
    exact (fate_eq_refused_iff.1 h).1 hx
  | some x =>
    rw [fate_of_record? batch i hx]
    cases hr : (before batch i).register ⟨i, x⟩ with
    | ok _ r' => exact .inl ⟨by simp, by rw [enroll_of_ok hr]⟩
    | error e r' =>
      obtain ⟨-, _, n, _, o, -, -, -, rfl⟩ := Registry.register_eq_error_iff.1 hr
      exact .inr ⟨rfl, _, by rw [enroll_of_error hr], rfl⟩

/-! ## The registry of a batch -/

theorem coherent_registry (batch : List Fragment) : (registry batch).Coherent := by
  rw [registry_eq_before]
  exact (coherent_before batch batch.length).1.complete

theorem mem_entries_registry {e : Entry} : e ∈ (registry batch).entries ↔
    ∃ g, batch[e.id]? = some g ∧ fate batch g e.id = .registered ∧ g.record? = some e.record := by
  rw [registry_eq_before]
  change e ∈ (before batch batch.length).entries ↔ _
  rw [mem_entries_before]
  constructor
  · rintro ⟨g, -, h⟩
    exact ⟨g, h⟩
  · rintro ⟨g, hg, h⟩
    exact ⟨g, (List.getElem?_eq_some_iff.1 hg).1, hg, h⟩

theorem filter_id_eq {l : List Entry} (h : (l.map Entry.id).Nodup) {e : Entry} (he : e ∈ l) :
    l.filter (·.id == e.id) = [e] := by
  induction l with
  | nil => cases he
  | cons o rest ih =>
    rw [List.map_cons, List.nodup_cons] at h
    rcases List.mem_cons.1 he with rfl | he
    · have hrest : rest.filter (·.id == e.id) = [] := by
        rw [List.filter_eq_nil_iff]
        intro o ho hid
        exact h.1 (List.mem_map.2 ⟨o, ho, beq_iff_eq.1 hid⟩)
      rw [List.filter_cons_of_pos (by simp), hrest]
    · have hne : o.id ≠ e.id := fun hid => h.1 (List.mem_map.2 ⟨e, he, hid.symm⟩)
      rw [List.filter_cons_of_neg (by simpa using hne), ih h.2 he]

/-- A fragment has at most one entry in the registry. -/
theorem filter_entries_registry (h : batch[i]? = some f) :
    (registry batch).entries.filter (·.id == i) = (enrolled? batch (f, i)).toList := by
  cases he : enrolled? batch (f, i) with
  | none =>
    rw [Option.toList_none, List.filter_eq_nil_iff]
    intro e hmem hid
    obtain rfl := beq_iff_eq.1 hid
    obtain ⟨g, hg, hf, hx⟩ := mem_entries_registry.1 hmem
    obtain rfl := Option.some.inj (h.symm.trans hg)
    rw [enrolled?_eq_some_iff.2 ⟨hf, hx, rfl⟩] at he
    cases he
  | some e =>
    obtain ⟨hf, hx, rfl⟩ := enrolled?_eq_some_iff.1 he
    rw [Option.toList_some]
    exact filter_id_eq (coherent_registry batch).nodup_ids (mem_entries_registry.2 ⟨f, h, hf, hx⟩)

end Batch

end DocLint

import DocLint.Proofs.Lowercase
import DocLint.Registry

/-!
# The registry and its list of records

A registry says twice who has which name: by its list of entries, and by the owners of names, which
every look-up reads. The two never disagree. `Coherent` is the invariant: no record is listed twice,
and the owner of a name is the one entry of the category that has it. One registration keeps it
(`Coherent.of_register`), so every sequence of registrations does, whether they succeed or fail
(`coherent_offerAll`).

* `agrees_offerAll` says what look-ups may be relied on for, while records are registered and when
  all of them are there.
* The records of a sequence of registrations are taken from a table, `records i` being the record
  with the number `i`: the same number twice is the same record, and two numbers are two records,
  however equal.
-/

namespace DocLint

namespace Registry

variable {phase : Phase}

/-! ## The loops of registering -/

/-- The owner of a name of `e`, unless that is `e` itself. -/
def other? (r : Registry phase) (e : Entry) (n : String) : Option Entry :=
  (r.owner? e.category n).filter (·.id != e.id)

theorem other?_eq_some {r : Registry phase} {e o : Entry} {n : String} :
    r.other? e n = some o ↔ r.owner? e.category n = some o ∧ o.id ≠ e.id := by
  simp [other?, Option.filter_eq_some_iff]

/-- The first of some names that another record owns, with that record. -/
def taken? (r : Registry phase) (e : Entry) (names : List String) : Option (String × Entry) :=
  names.findSome? fun n => (r.other? e n).map (n, ·)

theorem taken?_eq_some_iff {r : Registry phase} {e o : Entry} {names : List String} {n : String} :
    r.taken? e names = some (n, o) ↔
      ∃ before after, names = before ++ n :: after ∧ r.other? e n = some o ∧
        ∀ m ∈ before, r.other? e m = none := by
  rw [taken?, List.findSome?_eq_some_iff]
  constructor
  · rintro ⟨before, m, after, rfl, hm, hb⟩
    simp only [Option.map_eq_some_iff, Prod.mk.injEq] at hm
    obtain ⟨o', ho, rfl, rfl⟩ := hm
    exact ⟨before, after, rfl, ho, fun m hm => by simpa using hb m hm⟩
  · rintro ⟨before, after, rfl, ho, hb⟩
    exact ⟨before, n, after, rfl, by simp [ho], fun m hm => by simp [hb m hm]⟩

theorem taken?_eq_none_iff {r : Registry phase} {e : Entry} {names : List String} :
    r.taken? e names = none ↔ ∀ n ∈ names, r.other? e n = none := by
  simp [taken?, List.findSome?_eq_none_iff]

section Loops

variable (r : Registry .collecting) (e : Entry)

theorem run_checkFree (n : String) : (checkFree e n).run r =
    match r.other? e n with
    | some o => .error (.duplicateName e.category n o.name) r
    | none => .ok () r := by
  change (match r.owner? e.category n with
    | some o => if o.id ≠ e.id then throw (.duplicateName e.category n o.name) else pure ()
    | none => pure () : Registering Unit).run r = _
  rw [other?]
  cases r.owner? e.category n with
  | none => rfl
  | some o => by_cases hid : o.id = e.id <;> simp [Option.filter_some, hid]

/-- **The first loop leaves the registry as it is**, and stops at the first name that is taken. -/
theorem run_forM_checkFree (names : List String) : (forM names (checkFree e)).run r =
    match r.taken? e names with
    | none => .ok () r
    | some (n, o) => .error (.duplicateName e.category n o.name) r := by
  induction names with
  | nil => rfl
  | cons n rest ih =>
    rw [List.forM_cons, EStateM.run_bind, run_checkFree, taken?, List.findSome?_cons]
    cases r.other? e n with
    | none => exact ih
    | some o => rfl

/-- The second loop always succeeds. It makes `e` the owner of the names, and does nothing else. -/
theorem run_forM_bindName (names : List String) :
    ∃ r', (forM names (bindName e)).run r = .ok () r' ∧ r'.entries = r.entries ∧
      ∀ c n, r'.owner? c n = if c = e.category ∧ n ∈ names then some e else r.owner? c n := by
  induction names generalizing r with
  | nil => exact ⟨r, rfl, rfl, by simp⟩
  | cons m rest ih =>
    obtain ⟨r', hrun, hentries, howner⟩ := ih { r with owners := ((e.category, m), e) :: r.owners }
    refine ⟨r', ?_, hentries, fun c n => ?_⟩
    · rw [List.forM_cons, EStateM.run_bind]
      exact hrun
    · rw [howner, owner?, List.lookup_cons]
      by_cases hm : (c, n) = (e.category, m)
      · obtain ⟨rfl, rfl⟩ := Prod.mk.inj hm
        simp
      · have hb : ((c, n) == (e.category, m)) = false := beq_eq_false_iff_ne.2 hm
        simp only [Prod.mk.injEq, not_and] at hm
        have hiff : (c = e.category ∧ n ∈ m :: rest) ↔ c = e.category ∧ n ∈ rest := by
          rw [List.mem_cons]
          tauto
        simp only [hb, hiff]
        rfl

/-- Listing a record has no part in who owns which name. -/
theorem run_enlist : ∃ r', (enlist e).run r = .ok () r' ∧
    r'.entries = (if e.id ∈ r.entries.map Entry.id then r.entries else r.entries ++ [e]) ∧
    ∀ c n, r'.owner? c n = r.owner? c n := by
  have hany : r.entries.any (·.id == e.id) = true ↔ e.id ∈ r.entries.map Entry.id := by
    simp only [List.any_eq_true, beq_iff_eq, List.mem_map]
  refine ⟨_, rfl, ?_, fun c n => ?_⟩
  · simp only [← hany]
    split <;> rfl
  · dsimp only
    split <;> rfl

end Loops

/-- What registering does if no name is taken: all names lead to the record, and it is listed unless
it was before. -/
theorem register_of_free {r : Registry .collecting} {e : Entry}
    (h : ∀ n ∈ e.names, r.other? e n = none) :
    ∃ r', r.register e = .ok () r' ∧
      r'.entries = (if e.id ∈ r.entries.map Entry.id then r.entries else r.entries ++ [e]) ∧
      ∀ c n, r'.owner? c n = if c = e.category ∧ n ∈ e.names then some e else r.owner? c n := by
  obtain ⟨r₁, hbind, hentries₁, howner₁⟩ := run_forM_bindName r e e.names
  obtain ⟨r₂, hlist, hentries₂, howner₂⟩ := run_enlist r₁ e
  refine ⟨r₂, ?_, by rw [hentries₂, hentries₁], fun c n => by rw [howner₂, howner₁]⟩
  rw [register, registering, EStateM.run_bind, run_forM_checkFree, taken?_eq_none_iff.2 h]
  simp only [EStateM.run_bind, hbind, hlist]

/-- What registering does if a name is taken: it stops there, before it has changed anything. -/
theorem register_of_taken {r : Registry .collecting} {e o : Entry} {n : String}
    (h : r.taken? e e.names = some (n, o)) :
    r.register e = .error (.duplicateName e.category n o.name) r := by
  rw [register, registering, EStateM.run_bind, run_forM_checkFree, h]

/-- What a successful registration does: no name of the record is another's, all of them lead to it,
and it is listed unless it was before. -/
theorem of_register_eq_ok {r r' : Registry .collecting} {e : Entry} (h : r.register e = .ok () r') :
    (∀ n ∈ e.names, r.other? e n = none) ∧
      r'.entries = (if e.id ∈ r.entries.map Entry.id then r.entries else r.entries ++ [e]) ∧
      ∀ c n, r'.owner? c n = if c = e.category ∧ n ∈ e.names then some e else r.owner? c n := by
  cases ht : r.taken? e e.names with
  | some p =>
    rw [register_of_taken ht] at h
    cases h
  | none =>
    have hfree := taken?_eq_none_iff.1 ht
    obtain ⟨r₁, hr, hr'⟩ := register_of_free hfree
    rw [h] at hr
    cases hr
    exact ⟨hfree, hr'⟩

/-- What a failed registration says: whose name the first taken one is. **It leaves the registry as
it was.** -/
theorem register_eq_error_iff {r r' : Registry .collecting} {e : Entry} {f : Finding} :
    r.register e = .error f r' ↔ r' = r ∧ ∃ before n after o, e.names = before ++ n :: after ∧
      (∀ m ∈ before, r.other? e m = none) ∧ r.other? e n = some o ∧
      f = .duplicateName e.category n o.name := by
  constructor
  · intro h
    cases ht : r.taken? e e.names with
    | none =>
      obtain ⟨r₁, hr, -⟩ := register_of_free (taken?_eq_none_iff.1 ht)
      rw [h] at hr
      cases hr
    | some p =>
      obtain ⟨n, o⟩ := p
      obtain ⟨before, after, hn, ho, hb⟩ := taken?_eq_some_iff.1 ht
      rw [register_of_taken ht] at h
      cases h
      exact ⟨rfl, before, n, after, o, hn, hb, ho, rfl⟩
  · rintro ⟨rfl, before, n, after, o, hn, hb, ho, rfl⟩
    exact register_of_taken (taken?_eq_some_iff.2 ⟨before, after, hn, ho, hb⟩)

/-! ## The invariant -/

/-- No record is listed twice, and the owners of names are as the list has them. -/
structure Coherent (r : Registry phase) : Prop where
  nodup_ids : (r.entries.map Entry.id).Nodup
  owner?_iff : ∀ {c n e}, r.owner? c n = some e ↔ e ∈ r.entries ∧ e.category = c ∧ n ∈ e.names

theorem coherent_empty : empty.Coherent := ⟨.nil, by simp [empty, owner?]⟩

namespace Coherent

theorem other?_eq_some_iff {r : Registry phase} (h : r.Coherent) {e o : Entry} {n : String} :
    r.other? e n = some o ↔
      (o ∈ r.entries ∧ o.category = e.category ∧ n ∈ o.names) ∧ o.id ≠ e.id := by
  rw [other?_eq_some, h.owner?_iff]

theorem other?_eq_none_iff {r : Registry phase} (h : r.Coherent) {e : Entry} {n : String} :
    r.other? e n = none ↔
      ∀ o ∈ r.entries, o.category = e.category → n ∈ o.names → o.id = e.id := by
  rw [Option.eq_none_iff_forall_ne_some]
  simp only [ne_eq, h.other?_eq_some_iff, not_and, not_not, and_imp]

/-- An entry with the number of a listed one is listed, if equal numbers mean the same record. -/
theorem mem_entries_iff {r : Registry phase} {e : Entry}
    (he : ∀ o ∈ r.entries, o.id = e.id → o = e) :
    e.id ∈ r.entries.map Entry.id ↔ e ∈ r.entries := by
  rw [List.mem_map]
  constructor
  · rintro ⟨o, ho, hid⟩
    rwa [← he o ho hid]
  · exact fun h => ⟨e, h, rfl⟩

/-- **A registration keeps the registry coherent**, if the record is none that the registry knows
by another content. -/
theorem of_register {r r' : Registry .collecting} (h : r.Coherent) {e : Entry}
    (he : ∀ o ∈ r.entries, o.id = e.id → o = e) (hr : r.register e = .ok () r') :
    r'.Coherent := by
  obtain ⟨hfree, hentries, howner⟩ := of_register_eq_ok hr
  split at hentries
  · -- the record is listed already: it owns all its names, and binding them again changes nothing
    rename_i hid
    have hmem : e ∈ r.entries := (mem_entries_iff he).1 hid
    refine ⟨hentries ▸ h.nodup_ids, fun {c n o} => ?_⟩
    rw [howner, hentries, ← h.owner?_iff]
    split
    · rename_i hn
      rw [h.owner?_iff.2 ⟨hmem, hn.1.symm, hn.2⟩]
    · rfl
  · rename_i hid
    have hmem : e ∉ r.entries := fun h => hid ((mem_entries_iff he).2 h)
    refine ⟨?_, fun {c n o} => ?_⟩
    · rw [hentries, List.map_append, List.nodup_append]
      refine ⟨h.nodup_ids, List.nodup_singleton _, ?_⟩
      intro i hi j hj hij
      rw [List.map_singleton, List.mem_singleton] at hj
      exact hid (hj ▸ hij ▸ hi)
    · rw [howner, hentries, List.mem_append, List.mem_singleton]
      split
      · rename_i hn
        simp only [Option.some.injEq]
        constructor
        · rintro rfl
          exact ⟨.inr rfl, hn.1.symm, hn.2⟩
        · rintro ⟨ho | rfl, hc, ho'⟩
          · -- no other record may have a name of the new one
            have := h.other?_eq_none_iff.1 (hfree n hn.2) o ho (hc.trans hn.1) ho'
            exact absurd (he o ho this ▸ ho) hmem
          · rfl
      · rename_i hn
        rw [h.owner?_iff]
        constructor
        · exact fun ho => ⟨.inl ho.1, ho.2⟩
        · rintro ⟨ho | rfl, hc, ho'⟩
          · exact ⟨ho, hc, ho'⟩
          · exact absurd ⟨hc.symm, ho'⟩ hn

end Coherent

/-! ## Sequences of registrations -/

/-- The registry after registering the records with the given numbers, one after the other. -/
def offerAll (records : Nat → Record) (calls : List Nat) : Registry .collecting :=
  calls.foldl (fun r i => r.offer ⟨i, records i⟩) empty

theorem offer_of_ok {r r' : Registry .collecting} {e : Entry} (h : r.register e = .ok () r') :
    r.offer e = r' := by
  rw [offer, h]

theorem offer_of_error {r r' : Registry .collecting} {e : Entry} {f : Finding}
    (h : r.register e = .error f r') : r.offer e = r := by
  rw [offer, h]
  exact (register_eq_error_iff.1 h).1

/-- The listed entries are records of the table. -/
def ListsFrom (records : Nat → Record) (r : Registry phase) : Prop :=
  ∀ o ∈ r.entries, o.record = records o.id

theorem ListsFrom.eq_of_id {records : Nat → Record} {r : Registry phase} (h : r.ListsFrom records)
    {i : Nat} : ∀ o ∈ r.entries, o.id = i → o = ⟨i, records i⟩ := by
  rintro ⟨j, record⟩ ho rfl
  rw [← h _ ho]

theorem ListsFrom.of_register {records : Nat → Record} {r r' : Registry .collecting}
    (h : r.ListsFrom records) {i : Nat} (hr : r.register ⟨i, records i⟩ = .ok () r') :
    r'.ListsFrom records := by
  intro o ho
  rw [(of_register_eq_ok hr).2.1] at ho
  split at ho
  · exact h o ho
  · rcases List.mem_append.1 ho with ho | ho
    · exact h o ho
    · rw [List.mem_singleton.1 ho]

/-- **Every sequence of registrations leaves the registry coherent.** -/
theorem coherent_offerAll (records : Nat → Record) (calls : List Nat) :
    (offerAll records calls).Coherent ∧ (offerAll records calls).ListsFrom records := by
  have run : ∀ (calls : List Nat) (r : Registry .collecting), r.Coherent → r.ListsFrom records →
      (calls.foldl (fun r i => r.offer ⟨i, records i⟩) r).Coherent ∧
        (calls.foldl (fun r i => r.offer ⟨i, records i⟩) r).ListsFrom records := by
    intro calls
    induction calls with
    | nil => exact fun r h h' => ⟨h, h'⟩
    | cons i rest ih =>
      intro r h h'
      rw [List.foldl_cons]
      cases hr : r.register ⟨i, records i⟩ with
      | ok _ r' =>
        rw [offer_of_ok hr]
        exact ih r' (h.of_register h'.eq_of_id hr) (h'.of_register hr)
      | error f r' =>
        rw [offer_of_error hr]
        exact ih r h h'
  exact run calls empty coherent_empty (by simp [ListsFrom, empty])

/-! ## Look-ups -/

/-- Look-ups in a registry and its list of entries tell the same. -/
structure Agrees (r : Registry phase) : Prop where
  /-- No record is listed twice. -/
  nodup : (r.entries.map Entry.id).Nodup
  /-- A look-up finds the entry of the category that has the lowercased name. -/
  lookup_iff : ∀ c s e, r.lookup c s = some e ↔
    e ∈ r.entries ∧ e.category = c ∧ Unicode.lowercase s ∈ e.names
  /-- There is at most one such entry. -/
  unique : ∀ c s, ∀ e ∈ r.entries, ∀ e' ∈ r.entries, e.category = c → e'.category = c →
    Unicode.lowercase s ∈ e.names → Unicode.lowercase s ∈ e'.names → e = e'
  /-- Names are looked up in any case. -/
  lookup_lowercase : ∀ c s, r.lookup c (Unicode.lowercase s) = r.lookup c s
  /-- An event is there exactly when its name leads to a record of that category. -/
  event?_isSome : ∀ s, (r.event? s).isSome = (r.lookup .event s).isSome
  /-- It is the event that the name leads to. -/
  event?_iff : ∀ s d, r.event? s = some d ↔ ∃ e, r.lookup .event s = some e ∧ e.record = .event d

theorem exists_event_of_category {x : Record} (h : x.category = .event) : ∃ d, x = .event d := by
  cases x with
  | event d => exact ⟨d, rfl⟩
  | entity d => exact absurd h d.notEvent

theorem Coherent.lookup_iff {r : Registry phase} (h : r.Coherent) {c : Category} {s : String}
    {e : Entry} : r.lookup c s = some e ↔
      e ∈ r.entries ∧ e.category = c ∧ Unicode.lowercase s ∈ e.names := h.owner?_iff

theorem Coherent.event?_iff {r : Registry phase} (h : r.Coherent) {s : String} {d : Event} :
    r.event? s = some d ↔ ∃ e, r.lookup .event s = some e ∧ e.record = .event d := by
  unfold event?
  cases hl : r.lookup .event s with
  | none => simp
  | some e =>
    obtain ⟨d', hd'⟩ := exists_event_of_category (h.lookup_iff.1 hl).2.1
    simp [hd']

theorem Coherent.agrees {r : Registry phase} (h : r.Coherent) : r.Agrees where
  nodup := h.nodup_ids
  lookup_iff _ _ _ := h.lookup_iff
  unique c s e he e' he' hc hc' hs hs' := by
    have h₁ : r.lookup c s = some e := h.lookup_iff.2 ⟨he, hc, hs⟩
    have h₂ : r.lookup c s = some e' := h.lookup_iff.2 ⟨he', hc', hs'⟩
    exact Option.some.inj (h₁.symm.trans h₂)
  lookup_lowercase c s := by rw [lookup, lookup, Unicode.lowercase_lowercase]
  event?_isSome s := by
    rw [Bool.eq_iff_iff, Option.isSome_iff_exists, Option.isSome_iff_exists]
    constructor
    · rintro ⟨d, hd⟩
      obtain ⟨e, he, -⟩ := h.event?_iff.1 hd
      exact ⟨e, he⟩
    · rintro ⟨e, he⟩
      obtain ⟨d, hd⟩ := exists_event_of_category (h.lookup_iff.1 he).2.1
      exact ⟨d, h.event?_iff.2 ⟨e, he, hd⟩⟩
  event?_iff _ _ := h.event?_iff

theorem Coherent.complete {r : Registry .collecting} (h : r.Coherent) : r.complete.Coherent :=
  ⟨h.nodup_ids, h.owner?_iff⟩

/-- **The look-ups of a registry and its list of entries never disagree**, after any sequence of
registrations, while records are registered and when all of them are there. -/
theorem agrees_offerAll (records : Nat → Record) (calls : List Nat) :
    (offerAll records calls).Agrees ∧ (offerAll records calls).complete.Agrees :=
  have h := (coherent_offerAll records calls).1
  ⟨h.agrees, h.complete.agrees⟩

end Registry

end DocLint

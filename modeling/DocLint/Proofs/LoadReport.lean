import DocLint.Proofs.Attribution
import DocLint.Proofs.WellFormed

/-!
# What loading reports

Loading a fragment of a category adds to a report what is wrong with the tags one by one, then the
keys that were given more than once and should not, then the name if it is missing; all of it under
one name, and nothing else (`Fragment.reports_load`). The keys come in the order of the tags that
give them for the second time (`Tags.areRepeated`): the log of a draft notes a key at that tag and
never again, so with each tag the list stays the one of the tags so far. That a pattern is refused
does not matter to the log, and neither do keys that the category does not have, though they count
as places.
-/

namespace DocLint

/-! ## Repeated keys -/

namespace Tags

variable {tags : Tags} {c : Category} {j k : Key} {p : Nat}

/-- The places of the tags that have a key, in order. -/
def places (tags : Tags) (k : Key) : List Nat :=
  (tags.zipIdx.filter (·.1.1 == k.text)).map Prod.snd

/-- The place of the second tag that has a key. -/
def secondPlace? (tags : Tags) (k : Key) : Option Nat := (tags.places k)[1]?

theorem places_concat (tags : Tags) (t : String × String) (k : Key) :
    places (tags ++ [t]) k = tags.places k ++ if t.1 = k.text then [tags.length] else [] := by
  by_cases h : t.1 = k.text <;> simp [places, List.zipIdx_append, h]

theorem length_places (tags : Tags) (k : Key) :
    (tags.places k).length = (tags.map Prod.fst).count k.text := by
  induction tags using List.reverseRecOn with
  | nil => rfl
  | append_singleton tags t ih =>
    rw [places_concat, List.length_append, ih]
    by_cases h : t.1 = k.text <;> simp [h]

theorem lt_of_mem_places (h : p ∈ tags.places k) : p < tags.length := by
  simp only [places, List.mem_map, List.mem_filter] at h
  obtain ⟨⟨t, q⟩, ⟨hmem, -⟩, rfl⟩ := h
  exact (List.getElem?_eq_some_iff.1 (List.mem_zipIdx_iff_getElem?.1 hmem)).1

/-- More tags do not move the second place of a key. -/
theorem secondPlace?_concat (h : tags.secondPlace? k = some p) (t : String × String) :
    secondPlace? (tags ++ [t]) k = some p := by
  obtain ⟨hlt, -⟩ := List.getElem?_eq_some_iff.1 h
  rw [secondPlace?, places_concat, List.getElem?_append_left hlt]
  exact h

theorem exists_secondPlace? (h : 2 ≤ (tags.places k).length) :
    ∃ p < tags.length, tags.secondPlace? k = some p :=
  ⟨_, lt_of_mem_places (List.getElem_mem h), List.getElem?_eq_getElem h⟩

/-- The tag that gives a key for the second time is at its second place. -/
theorem secondPlace?_concat_self (h : (tags.places k).length = 1) (v : String) :
    secondPlace? (tags ++ [(k.text, v)]) k = some tags.length := by
  rw [secondPlace?, places_concat, if_pos rfl, ← h, List.getElem?_concat_length]

/-- A key is given for the second time before another one is. -/
def SecondBefore (tags : Tags) (j k : Key) : Prop :=
  ∃ p q, tags.secondPlace? j = some p ∧ tags.secondPlace? k = some q ∧ p < q

theorem SecondBefore.concat (h : tags.SecondBefore j k) (t : String × String) :
    SecondBefore (tags ++ [t]) j k := by
  obtain ⟨p, q, hp, hq, hlt⟩ := h
  exact ⟨p, q, secondPlace?_concat hp t, secondPlace?_concat hq t, hlt⟩

/-- The keys of a category that tags give more than once and should not, each once, in the order in
which the tags give them for the second time. -/
structure AreRepeated (tags : Tags) (c : Category) (ks : List Key) : Prop where
  nodup : ks.Nodup
  mem_iff : ∀ k, k ∈ ks ↔ k ∈ c.keys ∧ k ≠ .event .switch ∧ k ≠ .shared .warning ∧
    2 ≤ (tags.places k).length
  ordered : ks.Pairwise tags.SecondBefore

theorem mem_keys_of_mem_keysIn (h : k ∈ tags.keysIn c) : k ∈ c.keys := by
  obtain ⟨t, -, ht⟩ := List.mem_filterMap.1 h
  exact (Category.key?_eq_some_iff.1 ht).1

theorem repeatable_eq_false_iff :
    k.repeatable = false ↔ k ≠ .event .switch ∧ k ≠ .shared .warning := by
  cases k with
  | event k => cases k <;> decide
  | name => decide
  | shared k => cases k <;> decide

/-- The log of a draft has the keys that are given at least twice and should not. -/
theorem mem_repeated_iff : k ∈ (KeyLog.ofKeys (tags.keysIn c)).repeated ↔ k ∈ c.keys ∧
    k ≠ .event .switch ∧ k ≠ .shared .warning ∧ 2 ≤ (tags.places k).length := by
  rw [KeyLog.mem_repeated_ofKeys, repeatable_eq_false_iff, length_places]
  constructor
  · rintro ⟨⟨hswitch, hwarning⟩, hcount⟩
    have hmem : k ∈ tags.keysIn c := List.count_pos_iff.1 (Nat.zero_lt_two.trans_le hcount)
    have hk := mem_keys_of_mem_keysIn hmem
    exact ⟨hk, hswitch, hwarning, tags.count_keysIn hk ▸ hcount⟩
  · rintro ⟨hk, hswitch, hwarning, hcount⟩
    exact ⟨⟨hswitch, hwarning⟩, tags.count_keysIn hk ▸ hcount⟩

/-- A key that is noted as repeated at a tag has been given once before. -/
theorem length_places_of_note (hgiven : k ∈ (KeyLog.ofKeys (tags.keysIn c)).given)
    (hrepeated : k ∉ (KeyLog.ofKeys (tags.keysIn c)).repeated) :
    (tags.places k).length = 1 := by
  obtain ⟨hrepeatable, hmem⟩ := KeyLog.mem_given_ofKeys.1 hgiven
  have hk := mem_keys_of_mem_keysIn hmem
  have hone : 1 ≤ (tags.places k).length := by
    rw [length_places, ← tags.count_keysIn hk]
    exact List.one_le_count_iff.2 hmem
  obtain ⟨hswitch, hwarning⟩ := repeatable_eq_false_iff.1 hrepeatable
  have htwo : ¬2 ≤ (tags.places k).length :=
    fun h => hrepeated (mem_repeated_iff.2 ⟨hk, hswitch, hwarning, h⟩)
  omega

/-- **The log notes a key at the second tag that has it.** -/
theorem pairwise_repeated (c : Category) (tags : Tags) :
    (KeyLog.ofKeys (tags.keysIn c)).repeated.Pairwise tags.SecondBefore := by
  induction tags using List.reverseRecOn with
  | nil => exact .nil
  | append_singleton tags t ih =>
    have hold := ih.imp fun h => SecondBefore.concat h t
    rw [keysIn_concat]
    cases hkey : c.key? t.1 with
    | none =>
      rw [Option.toList_none, List.append_nil]
      exact hold
    | some k =>
      rw [Option.toList_some, KeyLog.ofKeys_concat, KeyLog.repeated_note]
      split
      · rename_i hnote
        obtain ⟨key, v⟩ := t
        obtain ⟨-, rfl⟩ := Category.key?_eq_some_iff.1 hkey
        rw [List.pairwise_append]
        refine ⟨hold, List.pairwise_singleton _ _, fun j hj k' hk' => ?_⟩
        obtain rfl := List.mem_singleton.1 hk'
        -- the keys noted before have their second places among the tags before
        obtain ⟨-, -, -, htwice⟩ := mem_repeated_iff.1 hj
        obtain ⟨p, hp, hsecond⟩ := exists_secondPlace? htwice
        have hone := length_places_of_note hnote.2.1 hnote.2.2
        exact ⟨p, tags.length, secondPlace?_concat hsecond _, secondPlace?_concat_self hone v, hp⟩
      · exact hold

theorem SecondBefore.ne (h : tags.SecondBefore j k) : j ≠ k := by
  rintro rfl
  obtain ⟨p, q, hp, hq, hlt⟩ := h
  rw [hp, Option.some.injEq] at hq
  omega

/-- **The log of a draft holds the repeated keys** of its tags. -/
theorem areRepeated (c : Category) (tags : Tags) :
    tags.AreRepeated c (KeyLog.ofKeys (tags.keysIn c)).repeated where
  nodup := (pairwise_repeated c tags).imp SecondBefore.ne
  mem_iff _ := mem_repeated_iff
  ordered := pairwise_repeated c tags

end Tags

/-! ## Single tags -/

namespace Category

/-- What a tag is reported for by itself: the category does not have its key, or it should be the
pattern of an event and cannot be used. -/
def misuse? (c : Category) (t : String × String) : Option Finding :=
  if t.1 ∉ c.keys.map Key.text then some (.unrecognizedKey c t.1)
  else if c = .event ∧ t.1 = "regex" then
    match Pattern.compile t.2 with
    | .error e => some (.invalidPattern e)
    | .ok _ => none
  else none

theorem fault?_eq_misuse? (c : Category) (t : String × String) : c.fault? t = c.misuse? t := by
  unfold fault? misuse?
  cases hkey : c.key? t.1 with
  | none =>
    rw [key?_eq_none_iff] at hkey
    rw [if_pos (by simpa using hkey)]
  | some k =>
    obtain ⟨hk, htext⟩ := key?_eq_some_iff.1 hkey
    rw [if_neg (not_not.2 (List.mem_map.2 ⟨k, hk, htext⟩))]
    have hregex : (c = .event ∧ t.1 = "regex") ↔ k = .event .regex := by
      constructor
      · rintro ⟨-, ht⟩
        exact Key.text_injective (htext.trans ht)
      · rintro rfl
        exact ⟨event_mem_keys_iff.1 hk, htext.symm⟩
    by_cases h : k = .event .regex
    · rw [if_pos (hregex.2 h), h]
      rfl
    · rw [if_neg (mt hregex.1 h)]
      exact Key.complaint?_eq_none_iff.2 fun heq => absurd heq h

end Category

/-! ## Reports -/

namespace Folders

/-- Filing an issue leaves those that are there in place. -/
theorem sublist_alter (fs : Folders) (name : String) (i : Issue) :
    (fs.flatMap Prod.snd).Sublist ((alter name (· ++ [i]) fs).flatMap Prod.snd) := by
  induction fs with
  | nil => exact List.nil_sublist _
  | cons p fs ih =>
    obtain ⟨n, is⟩ := p
    unfold alter
    split
    · exact List.sublist_append_right _ _
    · split
      · exact (List.sublist_append_left is [i]).append (List.Sublist.refl _)
      · exact (List.Sublist.refl is).append ih

end Folders

namespace Report

/-- Filing issues leaves those that are there in place. -/
theorem sublist_pushAll (r : Report) (is : List Issue) :
    r.issues.Sublist (r.pushAll is).issues := by
  induction is generalizing r with
  | nil => exact List.Sublist.refl _
  | cons i is ih => exact (Folders.sublist_alter r.folders i.record i).trans (ih (r.push i))

end Report

/-- The issues that findings make under a name and a category, without those that a configuration
drops. -/
def Finding.issues (config : Config) (name : String) (c : Category) (xs : List Finding) :
    List Issue :=
  xs.filterMap fun x => (config.severity? x.kind).map (x.toIssue name (some c))

namespace Fragment

/-- What loading a fragment reports: first what is wrong with single tags, in their order, then the
repeated keys, then that the name is missing if no record comes of it. -/
def reported (f : Fragment) (c : Category) (repeated : List Key) (record : Option Record) :
    List Finding :=
  f.tags.filterMap c.misuse? ++ repeated.map .duplicateTag ++
    record.elim [.missingField c.nameKey.text] fun _ => []

/-- What loading a fragment of a category at a place in a batch gives, and what it adds to a report
under a configuration. -/
structure Reports (f : Fragment) (c : Category) (i : Nat) (config : Config) (r : Report) :
    Prop where
  /-- There is a record exactly if the last value for the name holds one. -/
  record_iff : (f.loadInto i config r).1.isSome ↔
    ∃ v, Tags.last? f.tags c.nameKey = some v ∧ c.namesIn v ≠ []
  /-- What is added, all of it under the name of the record or the placeholder. -/
  added : ∃ repeated, Tags.AreRepeated f.tags c repeated ∧
    (f.loadInto i config r).2 = r.pushAll (Finding.issues config
      (((f.loadInto i config r).1.map Record.name).getD (f.placeholder i)) c
      (f.reported c repeated (f.loadInto i config r).1))
  recordsChecked : (f.loadInto i config r).2.recordsChecked = r.recordsChecked
  /-- The issues that were there before stay in their order. -/
  kept : r.issues.Sublist (f.loadInto i config r).2.issues
  /-- Under each name what is added comes behind, and nothing is added under other names. -/
  behind : ∀ name, ∃ new, (f.loadInto i config r).2.issuesFor name = r.issuesFor name ++ new ∧
    (name ≠ ((f.loadInto i config r).1.map Record.name).getD (f.placeholder i) → new = [])

variable {f : Fragment} {c : Category}

/-- The name under which a fragment is reported is that of its record, if there is one. -/
theorem reportName_eq (f : Fragment) (i : Nat) :
    f.reportName i = (f.record?.map Record.name).getD (f.placeholder i) := by
  cases h : f.record? with
  | none => rw [reportName_of_record?_eq_none h, Option.map_none, Option.getD_none]
  | some x => rw [reportName_of_record? h, Option.map_some, Option.getD_some]

theorem faults_eq_reported (h : f.category? = some c) :
    f.faults = f.reported c (KeyLog.ofKeys (Tags.keysIn f.tags c)).repeated f.record? := by
  have htags : f.tags.filterMap c.fault? = f.tags.filterMap c.misuse? :=
    List.filterMap_congr fun t _ => c.fault?_eq_misuse? t
  have hname : (if f.declared = [] then [.missingField c.nameKey.text] else []) =
      f.record?.elim [Finding.missingField c.nameKey.text] fun _ => [] := by
    cases hrecord : f.record? with
    | none => exact if_pos (record?_eq_none_iff.1 hrecord)
    | some x =>
      have hd : f.declared ≠ [] := fun hd => by simp [record?_eq_none hd] at hrecord
      exact if_neg hd
  rw [faults_of_category? h, tagFaults, htags, hname]
  rfl

theorem loadInto_record (f : Fragment) (i : Nat) (config : Config) (r : Report) :
    (f.loadInto i config r).1 = f.record? := by
  rw [loadInto_eq, load_record]

theorem loadInto_report (h : f.category? = some c) (i : Nat) (config : Config) (r : Report) :
    (f.loadInto i config r).2 =
      r.pushAll (Finding.issues config (f.reportName i) c f.faults) := by
  simp only [loadInto_eq, Report.noteAll_eq_pushAll, load_notices, h, List.filterMap_map,
    Finding.issues, Notice.issue?, Function.comp_def]

/-- **What loading a fragment reports**, and that it leaves the rest of a report as it was. -/
theorem reports_load (h : Category.read f.category = .ok c) (i : Nat) (config : Config)
    (r : Report) : f.Reports c i config r := by
  have hc := category?_eq_some_iff.2 h
  have hrecord := loadInto_record f i config r
  have hreport := loadInto_report hc i config r
  rw [reportName_eq, faults_eq_reported hc] at hreport
  refine ⟨?_, ?_, ?_, ?_, ?_⟩
  · rw [hrecord, Option.isSome_iff_ne_none, Ne, record?_eq_none_iff, declared_eq_nil_iff hc]
    simp only [not_forall, exists_prop]
  · rw [hrecord]
    exact ⟨_, Tags.areRepeated c f.tags, hreport⟩
  · rw [hreport]
    exact Report.recordsChecked_pushAll _ _
  · rw [hreport]
    exact Report.sublist_pushAll _ _
  · intro name
    rw [hrecord, hreport, Report.issuesFor_pushAll]
    refine ⟨_, rfl, fun hne => ?_⟩
    rw [List.filter_eq_nil_iff]
    intro y hy
    obtain ⟨x, -, hx⟩ := List.mem_filterMap.1 hy
    obtain ⟨s, -, rfl⟩ := Option.map_eq_some_iff.1 hx
    simpa [Finding.toIssue] using Ne.symm hne

/-- An event with tags of all sorts: one key given twice and a pattern given three times, one of
them twice refused, a switch given twice, and a key that events do not have. -/
def cluttered : Fragment where
  category := "event"
  tags := [("name", "player jumps"), ("regex", "("), ("events", "player jumps"), ("regex", "["),
    ("triggers", "a jump"), ("switch", "in"), ("events", "player leaps"), ("switch", "in"),
    ("regex", "jumps")]

/-- The pattern was given for the second time before the names were, and a third time does not
matter; it is reported although it was refused both times. -/
theorem reports_cluttered :
    Category.read cluttered.category = .ok .event ∧ cluttered.Reports .event 0 {} .empty ∧
      (cluttered.reported .event [.event .regex, .event .events]
          (cluttered.loadInto 0 {} .empty).1).map Finding.kind =
        [.unrecognizedKey, .invalidPattern, .invalidPattern, .duplicateTag, .duplicateTag] ∧
      (cluttered.loadInto 0 {} .empty).2.issues.map (fun i => (i.record, i.kind)) =
        [("player leaps", .unrecognizedKey), ("player leaps", .invalidPattern),
          ("player leaps", .invalidPattern), ("player leaps", .duplicateTag),
          ("player leaps", .duplicateTag)] := by
  have hread : Category.read cluttered.category = .ok .event := by decide +kernel
  exact ⟨hread, reports_load hread 0 {} .empty, by decide +kernel, by decide +kernel⟩

end Fragment

end DocLint

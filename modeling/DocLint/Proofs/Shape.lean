import DocLint.Json.Shape
import DocLint.Proofs.Json

/-!
# Finding data in JSON values

A number, a list and a record are found again in the values that stand for them. What is found of an
object whose known keys are distinct is told by looking up these keys
(`Json.fields?_record_of_perm`): neither the order of its members nor members with other keys
matter.
-/

namespace DocLint.Json

/-! ## Numbers -/

theorem nat?_ofNat {n : Nat} (h : n < Nat.pow 2 64) : (ofNat n).nat? = some n := by
  have hdigit : n.repr.toList.all Char.isDigit = true := by
    rw [List.all_eq_true]
    exact fun _ => isDigit_of_mem_repr
  have hvalue : n.repr.toList.foldl (fun n d => 10 * n + (d.toNat - 48)) 0 = n := by
    rw [toList_repr]
    exact Nat.ofDigitChars_ten_toDigits
  rw [ofNat, nat?, if_pos hdigit, hvalue]
  exact if_pos h

theorem legible_ofNat (n : Nat) : Legible (ofNat n) := .number (isNumber_repr n)

/-! ## Lists -/

/-- What was written item by item is read item by item. -/
theorem mapM_map_eq_some {α β : Type} {f : α → β} {g : β → Option α} {xs : List α}
    (h : ∀ x ∈ xs, g (f x) = some x) : (xs.map f).mapM g = some xs := by
  induction xs with
  | nil => rfl
  | cons x xs ih =>
    obtain ⟨hx, hxs⟩ := List.forall_mem_cons.1 h
    rw [List.map_cons, List.mapM_cons, hx, ih hxs]
    rfl

theorem list?_array_map {α : Type} {f : α → Json} {g : Json → Option α} {xs : List α}
    (h : ∀ x ∈ xs, g (f x) = some x) : (array (xs.map f)).list? g = some xs :=
  mapM_map_eq_some h

/-! ## Records -/

theorem members?_record (ms : List (String × Json)) : (record ms).members? = some ms :=
  mapM_map_eq_some fun _ _ => rfl

theorem legible_record {ms : List (String × Json)} (h : ∀ m ∈ ms, Legible m.2) :
    Legible (record ms) :=
  .object (List.forall_mem_map.2 h)

/-- Of distinct keys, the value of one is what is found by looking it up. -/
theorem field?_eq_lookup {ms : List (String × Json)} (h : (ms.map Prod.fst).Nodup) (name : String) :
    field? ms name = some (ms.lookup name) := by
  have hfilter : ms.filter (fun m => m.1 == name) =
      ((ms.lookup name).map fun v => (name, v)).toList := by
    induction ms with
    | nil => rfl
    | cons m ms ih =>
      obtain ⟨k, v⟩ := m
      obtain ⟨hk, hms⟩ := List.nodup_cons.1 h
      have hrest := ih hms
      by_cases hname : name = k
      · subst hname
        have hnone : ms.lookup name = none := by
          rw [List.lookup_eq_none_iff]
          intro m hm
          rw [bne_iff_ne]
          rintro rfl
          exact hk (List.mem_map.2 ⟨m, hm, rfl⟩)
        rw [hnone] at hrest
        rw [List.filter_cons, hrest, List.lookup_cons]
        simp
      · have hkey : (k == name) = false := beq_eq_false_iff_ne.2 (Ne.symm hname)
        have hkey' : (name == k) = false := beq_eq_false_iff_ne.2 hname
        rw [List.filter_cons, hkey, List.lookup_cons, hkey']
        exact hrest
  rw [field?, hfilter]
  cases ms.lookup name <;> rfl

/-- The order of members does not matter. -/
theorem field?_of_perm {ms ms' : List (String × Json)} (h : ms.Perm ms') (name : String) :
    field? ms name = field? ms' name := by
  have hfilter := h.filter fun m => m.1 == name
  rw [field?, field?]
  generalize ms.filter (fun m => m.1 == name) = l at hfilter
  generalize ms'.filter (fun m => m.1 == name) = l' at hfilter
  match l' with
  | [] => rw [hfilter.eq_nil]
  | [m] => rw [hfilter.eq_singleton]
  | m :: n :: rest =>
    -- there are as many on the other side, so at least two
    have hlength := hfilter.length_eq
    match l with
    | [] => simp at hlength
    | [m'] => simp at hlength
    | m' :: n' :: rest' => rfl

/-- Members with other keys do not matter. -/
theorem field?_append_of_ne {others : List (String × Json)} {name : String}
    (h : ∀ m ∈ others, m.1 ≠ name) (ms : List (String × Json)) :
    field? (ms ++ others) name = field? ms name := by
  have hnone : others.filter (fun m => m.1 == name) = [] := by
    rw [List.filter_eq_nil_iff]
    intro m hm
    rw [beq_iff_eq]
    exact h m hm
  rw [field?, List.filter_append, hnone, List.append_nil, field?]

/-- **The fields of an object are found by looking up their names** among members with distinct
keys, whatever the order of the members, and whatever other members stand in the object. -/
theorem fields?_record_of_perm {ms others members : List (String × Json)} {names : List String}
    (hkeys : (ms.map Prod.fst).Nodup) (hothers : ∀ m ∈ others, m.1 ∉ names)
    (h : members.Perm (ms ++ others)) :
    (record members).fields? false names = some (names.map fun n => ms.lookup n) := by
  have hfield : ∀ n ∈ names, field? members n = some (ms.lookup n) := by
    intro n hn
    have hne : ∀ m ∈ others, m.1 ≠ n := fun m hm heq => hothers m hm (heq ▸ hn)
    rw [field?_of_perm h, field?_append_of_ne hne, field?_eq_lookup hkeys]
  have hfields : names.mapM (field? members) = some (names.map fun n => ms.lookup n) := by
    clear hothers
    induction names with
    | nil => rfl
    | cons n ns ih =>
      obtain ⟨hn, hns⟩ := List.forall_mem_cons.1 hfield
      rw [List.mapM_cons, hn, ih hns]
      rfl
  have hrecord : (record members).fields? false names =
      (record members).members?.bind fun ms => names.mapM (field? ms) := rfl
  rw [hrecord, members?_record]
  exact hfields

theorem fields?_record (ms : List (String × Json)) (h : (ms.map Prod.fst).Nodup)
    (names : List String) :
    (record ms).fields? false names = some (names.map fun n => ms.lookup n) := by
  have hperm : ms.Perm (ms ++ []) := by rw [List.append_nil]
  exact fields?_record_of_perm h (List.forall_mem_nil _) hperm

end DocLint.Json

import DocLint.Proofs.Json

/-!
# The length of an array

The text of an array has at least as many characters as the array has items
(`Json.length_le_of_parse`). Each token that is read adds one item at most to those that the machine
holds (`Json.Machine.count_feed`), and each token has a character.
-/

namespace DocLint.Json

/-- The number of items of an array; any other value counts as one item. -/
def count : Json → Nat
  | .array vs => max 1 vs.length
  | _ => 1

theorem one_le_count (v : Json) : 1 ≤ v.count := by
  cases v with
  | array vs => exact le_max_left 1 vs.length
  | _ => exact le_rfl

theorem count_array (vs : List Json) : (array vs).count = max 1 vs.length := rfl

theorem count_object (ms : List (Option String × Json)) : (object ms).count = 1 := rfl

namespace Machine

/-- The number of items of the open arrays. -/
def stackCount : List Frame → Nat
  | [] => 0
  | .array items :: rest => items.length + stackCount rest
  | .object _ _ :: rest => stackCount rest

/-- The number of items of the value that was read last. -/
def modeCount : Mode → Nat
  | .after v => v.count
  | _ => 0

/-- The number of items of the open arrays and of the value that was read last. -/
def count (m : Machine) : Nat := stackCount m.stack + modeCount m.mode

theorem count_feedValue {stack : List Frame} {mayClose : Bool} {t : Token} {m : Machine}
    (h : feedValue stack mayClose t = some m) : m.count ≤ stackCount stack + 1 := by
  cases t with
  | closeBracket =>
    unfold feedValue at h
    dsimp only at h
    split at h
    · cases h
      simp [count, modeCount, count_array, stackCount]
    · cases h
  | closeBrace => cases h
  | colon => cases h
  | comma => cases h
  | openBracket =>
    cases h
    simp [count, modeCount, stackCount]
  | openBrace =>
    cases h
    exact Nat.le_add_right _ _
  | _ =>
    -- a value without parts
    cases h
    exact le_rfl

theorem count_feedAfter {stack : List Frame} {v : Json} {t : Token} {m : Machine}
    (h : feedAfter stack v t = some m) : m.count ≤ stackCount stack + v.count := by
  have hv := v.one_le_count
  unfold feedAfter at h
  split at h <;> cases h
  · simp only [count, modeCount, stackCount, List.length_cons]
    omega
  · simp only [count, modeCount, stackCount, count_array, List.length_reverse, List.length_cons]
    omega
  · simp only [count, modeCount, stackCount]
    omega
  · simp only [count, modeCount, stackCount, count_object]
    omega

/-- A token adds one item at most. -/
theorem count_feed {m m' : Machine} {t : Token} (h : m.feed t = some m') :
    m'.count ≤ m.count + 1 := by
  obtain ⟨stack, mode⟩ := m
  unfold feed at h
  dsimp only at h
  split at h
  · exact count_feedValue h
  · cases h
    simp [count, modeCount]
  · cases h
    simp [count, modeCount, count_object]
  · cases h
  · cases h
    simp [count, modeCount, stackCount]
  · cases h
  · exact Nat.le_succ_of_le (count_feedAfter h)

/-- The tokens of a text add one item for each character at most. -/
theorem count_run {m m' : Machine} {s : List Char} (h : m.run s = some m') :
    m'.count ≤ m.count + s.length := by
  induction hn : s.length using Nat.strong_induction_on generalizing m s with
  | _ n ih =>
    subst hn
    rw [run] at h
    split at h
    · cases h
    · cases h
      exact Nat.le_add_right _ _
    · rename_i t rest hrest hnext
      split at h
      · cases h
      · rename_i m₁ hfeed
        have hone := count_feed hfeed
        have hmore := ih rest.length hrest h rfl
        omega

end Machine

/-- **An array has no more items than its text has characters.** -/
theorem length_le_of_parse {vs : List Json} {text : String} (h : parse text = some (.array vs)) :
    vs.length ≤ text.length := by
  rw [parse, parseChars, Option.bind_eq_some_iff] at h
  obtain ⟨m, hrun, hresult⟩ := h
  have hcount := Machine.count_run hrun
  unfold Machine.result? at hresult
  split at hresult
  · rename_i v hstack hmode
    cases hresult
    have hvs : vs.length ≤ m.count := by
      rw [Machine.count, hmode]
      exact Nat.le_trans (le_max_right 1 vs.length) (Nat.le_add_left _ _)
    have hstart : Machine.start.count = 0 := rfl
    rw [← String.length_toList]
    omega
  · cases hresult

end DocLint.Json

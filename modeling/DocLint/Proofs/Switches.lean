import DocLint.Proofs.AsciiCase
import DocLint.Proofs.Building
import DocLint.Proofs.Lines

/-!
# Switches by the tags of an event

Which switches are valid for an event is told by its tags (`Event.Allows`): there is one rule for
the switches that it declares, one for each of the fields that bring switches with them, and one for
the switches of all events. All values that declare switches count, but only the last value of a
field. The rules are sound and complete (`Event.isValidSwitch_iff_allows`).
-/

namespace DocLint

namespace Text

/-- A line of a value is not empty, and stands between line feeds or the ends of the value, with or
without one carriage return behind it. -/
structure IsLineOf (line value : List Char) : Prop where
  nonempty : line ≠ []
  written : line ++ ['\r'] ∈ value.splitOn '\n' ∨
    line ∈ value.splitOn '\n' ∧ line.getLast? ≠ some '\r'

theorem mem_entryChars_iff {line value : List Char} :
    line ∈ entryChars value ↔ IsLineOf line value := by
  simp only [entryChars, pieces_eq_splitOn, List.mem_filter, List.mem_map, decide_eq_true_eq]
  constructor
  · rintro ⟨⟨piece, hpiece, rfl⟩, hne⟩
    refine ⟨hne, ?_⟩
    by_cases hreturn : piece.getLast? = some '\r'
    · obtain ⟨front, rfl⟩ := List.getLast?_eq_some_iff.1 hreturn
      rw [dropReturn_append_return]
      exact .inl hpiece
    · rw [dropReturn_of_getLast? hreturn]
      exact .inr ⟨hpiece, hreturn⟩
  · rintro ⟨hne, hwritten | ⟨hwritten, hreturn⟩⟩
    · exact ⟨⟨_, hwritten, dropReturn_append_return line⟩, hne⟩
    · exact ⟨⟨_, hwritten, dropReturn_of_getLast? hreturn⟩, hne⟩

end Text

/-- What a declaration of a switch starts with: all that stands before its first space or colon. -/
structure IsHead (head line : List Char) : Prop where
  starts : head <+: line
  free : ∀ c ∈ head, c ≠ ' ' ∧ c ≠ ':'
  longest : ∀ start, start <+: line → (∀ c ∈ start, c ≠ ' ' ∧ c ≠ ':') → start <+: head

/-- Cutting at the first space and then at the first colon leaves what is before either. -/
theorem isHead_takeWhile (line : List Char) :
    IsHead ((line.takeWhile (· != ' ')).takeWhile (· != ':')) line := by
  rw [List.takeWhile_takeWhile]
  refine ⟨List.takeWhile_prefix _, fun c hc => ?_, fun start hstart hfree => ?_⟩
  · simpa [and_comm] using List.mem_takeWhile_imp hc
  · obtain ⟨rest, rfl⟩ := hstart
    rw [List.takeWhile_append_of_pos fun c hc => by simpa [and_comm] using hfree c hc]
    exact List.prefix_append start _

theorem IsHead.unique {head head' line : List Char} (h : IsHead head line)
    (h' : IsHead head' line) : head = head' :=
  (h'.longest head h.starts h.free).eq_of_length_le
    (h.longest head' h'.starts h'.free).length_le

theorem switchName_of_isHead {head : List Char} {line : String} (h : IsHead head line.toList) :
    switchName line = Unicode.lowercase (String.ofList head) := by
  rw [switchName, h.unique (isHead_takeWhile _)]

namespace Event

/-- The switches that are valid for the event that tags make. -/
inductive Allows (tags : Tags) : String → Prop
  /-- A switch that one of the values declares on one of its lines. -/
  | declared (v : String) (line head : List Char) (given : v ∈ tags.valuesOf (.event .switch))
      (listed : Text.IsLineOf line v.toList) (named : IsHead head line) :
      Allows tags (Unicode.lowercase (String.ofList head))
  | ofPlayer (s v : String) (known : s = "flagged" ∨ s = "permission")
      (given : tags.last? (.event .player) = some v) (present : Text.isBlank v = false) :
      Allows tags s
  | ofLocation (s v : String) (known : s = "in" ∨ s = "location_flagged")
      (given : tags.last? (.event .location) = some v)
      (raised : Unicode.lowercase (Text.trim v) = "true") : Allows tags s
  | ofCancellable (s v : String) (known : s = "cancelled" ∨ s = "ignorecancelled")
      (given : tags.last? (.event .cancellable) = some v)
      (raised : Unicode.lowercase (Text.trim v) = "true") : Allows tags s
  | universal (s : String)
      (known : s = "priority" ∨ s = "bukkit_priority" ∨ s = "server_flagged") : Allows tags s

variable {tags : Tags} {e : Event} {s : String}

/-- The switches that an event declares are those on the lines of the values for them. -/
theorem Given.mem_switchNames_iff (h : e.Given tags) : s ∈ e.switchNames ↔
    ∃ v line head, v ∈ tags.valuesOf (.event .switch) ∧ Text.IsLineOf line v.toList ∧
      IsHead head line ∧ s = Unicode.lowercase (String.ofList head) := by
  simp only [switchNames, h.switches, List.mem_map, List.mem_flatMap, Text.entries]
  constructor
  · rintro ⟨_, ⟨v, hv, line, hline, rfl⟩, rfl⟩
    have hhead := isHead_takeWhile line
    refine ⟨v, line, _, hv, Text.mem_entryChars_iff.1 hline, hhead, ?_⟩
    exact switchName_of_isHead (String.toList_ofList.symm ▸ hhead)
  · rintro ⟨v, line, head, hv, hline, hhead, rfl⟩
    refine ⟨_, ⟨v, hv, line, Text.mem_entryChars_iff.2 hline, rfl⟩, ?_⟩
    exact switchName_of_isHead (String.toList_ofList.symm ▸ hhead)

theorem Given.hasPlayer_iff (h : e.Given tags) : e.hasPlayer = true ↔
    ∃ v, tags.last? (.event .player) = some v ∧ Text.isBlank v = false := by
  rw [hasPlayer, h.player]
  cases tags.last? (.event .player) with
  | none => simp [Text.isBlank]
  | some v => simp

/-- A flag is set if its last value raises it. -/
theorem elim_isTrue_iff {v? : Option String} : v?.elim false Text.isTrue = true ↔
    ∃ v, v? = some v ∧ Unicode.lowercase (Text.trim v) = "true" := by
  cases v? with
  | none => simp
  | some v => simp [Text.isTrue_iff]

/-- **The valid switches of an event are those that its tags allow.** -/
theorem isValidSwitch_iff_allows (h : Category.event.build tags = .ok (.event e)) (s : String) :
    e.isValidSwitch s = true ↔ Allows tags s := by
  obtain ⟨name, aliases, hdeclared, heq⟩ := Category.build_eq_ok_iff.1 h
  have hgiven : e.Given tags := by
    have := Record.given_ofValues hdeclared
    rwa [← heq] at this
  simp only [isValidSwitch, universalSwitches, Bool.or_eq_true, Bool.and_eq_true,
    List.contains_iff_mem, List.mem_cons, List.not_mem_nil, or_false, hgiven.mem_switchNames_iff,
    hgiven.hasPlayer_iff, hgiven.hasLocation, hgiven.cancellable, elim_isTrue_iff, or_assoc]
  constructor
  · rintro (⟨v, line, head, hv, hline, hhead, rfl⟩ | ⟨hs, v, hv, hpresent⟩ | ⟨hs, v, hv, hraised⟩ |
      ⟨hs, v, hv, hraised⟩ | hs)
    · exact .declared v line head hv hline hhead
    · exact .ofPlayer s v hs hv hpresent
    · exact .ofLocation s v hs hv hraised
    · exact .ofCancellable s v hs hv hraised
    · exact .universal s hs
  · intro hallows
    cases hallows with
    | declared v line head hv hline hhead => exact .inl ⟨v, line, head, hv, hline, hhead, rfl⟩
    | ofPlayer _ v hs hv hpresent => exact .inr (.inl ⟨hs, v, hv, hpresent⟩)
    | ofLocation _ v hs hv hraised => exact .inr (.inr (.inl ⟨hs, v, hv, hraised⟩))
    | ofCancellable _ v hs hv hraised => exact .inr (.inr (.inr (.inl ⟨hs, v, hv, hraised⟩)))
    | universal _ hs => exact .inr (.inr (.inr (.inr hs)))

/-- Tags that declare switches in two values, and that first have a location and then have none. -/
def leapTags : Tags :=
  [("events", "player leaps"), ("switch", "From:<place> or here\r\n\r\nOver <block>: any"),
    ("location", "true"), ("player", "always"), ("switch", "alone"), ("location", "no"),
    ("cancellable", " True\n")]

/-- The event that they make. -/
def leap : Event where
  name := "player leaps"
  aliases := []
  switches := ["From:<place> or here", "Over <block>: any", "alone"]
  pattern := none
  triggers := ""
  context := []
  determinations := []
  player := "always"
  npc := ""
  cancellable := true
  hasLocation := false
  shared := {}

/-- Only the lower case of a declared switch is valid, and of the two locations the last counts. -/
theorem allows_leapTags :
    Category.event.build leapTags = .ok (.event leap) ∧ Allows leapTags "from" ∧
      Allows leapTags "over" ∧ Allows leapTags "alone" ∧ Allows leapTags "permission" ∧
      Allows leapTags "cancelled" ∧ ¬Allows leapTags "Over" ∧ ¬Allows leapTags "in" := by
  have hbuild : Category.event.build leapTags = .ok (.event leap) := rfl
  have hallows := isValidSwitch_iff_allows hbuild
  refine ⟨hbuild, (hallows _).1 ?_, (hallows _).1 ?_, (hallows _).1 ?_, (hallows _).1 ?_,
    (hallows _).1 ?_, mt (hallows _).2 ?_, mt (hallows _).2 ?_⟩
  all_goals decide +kernel

end Event

end DocLint

import DocLint.Fragment.Json
import DocLint.Proofs.JsonGrammar
import DocLint.Proofs.Shape
import Mathlib.Data.List.Forall2

/-!
# Fragments written as JSON

Several values stand for a fragment (`Fragment.Presents`): an object with its members in any order,
in which an absent source may be `null` or left out, empty tags may be left out and members with
other keys may stand; and an array of its three fields. Each of them is read as the fragment, so a
batch is read from every text of an array of such values (`Fragment.parseBatch_of_presents`).
-/

namespace DocLint

namespace Fragment

/-! ## Values that stand for a fragment -/

/-- The members for a source: an absent one is `null` or left out. -/
inductive SourceMembers : Option String → List (String × Json) → Prop
  | given (source : String) : SourceMembers (some source) [("source", .ofText source)]
  | null : SourceMembers none [("source", .null)]
  | leftOut : SourceMembers none []

/-- The members for tags: empty ones may be left out. -/
inductive TagsMembers : List (String × String) → List (String × Json) → Prop
  | given (tags : List (String × String)) : TagsMembers tags [("tags", .array (tags.map tagJson))]
  | leftOut : TagsMembers [] []

/-- A value that stands for a fragment. -/
inductive Presents (f : Fragment) : Json → Prop
  | object {source tags others members : List (String × Json)}
      (hsource : SourceMembers f.source source) (htags : TagsMembers f.tags tags)
      (hothers : ∀ m ∈ others, m.1 ∉ ["category", "source", "tags"])
      (hmembers : members.Perm
        (("category", .ofText f.category) :: (source ++ tags) ++ others)) :
      Presents f (.record members)
  | array : Presents f (.array [.ofText f.category, (f.source.map Json.ofText).getD .null,
      .array (f.tags.map tagJson)])

theorem presents_toJson (f : Fragment) : Presents f f.toJson := by
  obtain ⟨category, source, tags⟩ := f
  have hnone : ∀ m ∈ ([] : List (String × Json)), m.1 ∉ ["category", "source", "tags"] :=
    List.forall_mem_nil _
  cases source with
  | none => exact .object .leftOut (.given tags) hnone (.refl _)
  | some source => exact .object (.given source) (.given tags) hnone (.refl _)

theorem tagOfJson?_tagJson (t : String × String) : tagOfJson? (tagJson t) = some t := rfl

theorem SourceMembers.read {source : Option String} {members : List (String × Json)}
    (h : SourceMembers source members) :
    ((members.lookup "source").getD .null).nullable? Json.text? = some source := by
  cases h <;> rfl

theorem TagsMembers.read {tags : List (String × String)} {members : List (String × Json)}
    (h : TagsMembers tags members) :
    ((members.lookup "tags").getD (.array [])).list? tagOfJson? = some tags := by
  cases h with
  | given => exact Json.list?_array_map fun t _ => tagOfJson?_tagJson t
  | leftOut => rfl

/-- Among the members for the fields, each is found by its name. -/
theorem lookup_members {source : Option String} {tags : List (String × String)}
    {sources tagss : List (String × Json)} (category : Json)
    (hsource : SourceMembers source sources) (htags : TagsMembers tags tagss) :
    ((("category", category) :: (sources ++ tagss)).map Prod.fst).Nodup ∧
      ["category", "source", "tags"].map
          (fun n => (("category", category) :: (sources ++ tagss)).lookup n) =
        [some category, sources.lookup "source", tagss.lookup "tags"] := by
  cases hsource <;> cases htags <;> simp [List.lookup_cons]

/-- The fields of a fragment are found in each value that stands for it. -/
theorem Presents.fields? {f : Fragment} {v : Json} (h : Presents f v) :
    ∃ source tags, v.fields? false ["category", "source", "tags"] =
        some [some (.ofText f.category), source, tags] ∧
      (source.getD .null).nullable? Json.text? = some f.source ∧
      (tags.getD (.array [])).list? tagOfJson? = some f.tags := by
  cases h with
  | array =>
    refine ⟨_, _, rfl, ?_, Json.list?_array_map fun t _ => tagOfJson?_tagJson t⟩
    cases f.source <;> rfl
  | @object source tags others members hsource htags hothers hmembers =>
    obtain ⟨hkeys, hlookups⟩ := lookup_members (.ofText f.category) hsource htags
    refine ⟨source.lookup "source", tags.lookup "tags", ?_, hsource.read, htags.read⟩
    rw [Json.fields?_record_of_perm hkeys hothers hmembers, hlookups]

/-- **A fragment is read from every value that stands for it.** -/
theorem Presents.ofJson? {f : Fragment} {v : Json} (h : Presents f v) :
    Fragment.ofJson? v = some f := by
  obtain ⟨source, tags, hfields, hsource, htags⟩ := h.fields?
  rw [Fragment.ofJson?, hfields]
  dsimp only [Option.bind_eq_bind, Option.bind_some]
  rw [hsource, htags]
  rfl

theorem mapM_ofJson?_of_presents {batch : List Fragment} {vs : List Json}
    (h : List.Forall₂ Presents batch vs) : vs.mapM Fragment.ofJson? = some batch := by
  induction h with
  | nil => rfl
  | cons hf _ ih =>
    rw [List.mapM_cons, hf.ofJson?, ih]
    rfl

theorem legible_tagJson (t : String × String) : (tagJson t).Legible := by
  apply Json.Legible.array
  intro v hv
  rcases List.mem_cons.1 hv with rfl | hv
  · exact .string _
  · rw [List.mem_singleton.1 hv]
    exact .string _

theorem legible_toJson (f : Fragment) : f.toJson.Legible := by
  apply Json.legible_record
  intro m hm
  simp only [List.mem_append, List.mem_singleton, Option.mem_toList, Option.map_eq_some_iff] at hm
  rcases hm with (rfl | ⟨source, -, rfl⟩) | rfl
  · exact .string _
  · exact .string _
  · exact .array (List.forall_mem_map.2 fun t _ => legible_tagJson t)

theorem legible_batchJson (batch : List Fragment) : (batchJson batch).Legible :=
  .array (List.forall_mem_map.2 fun f _ => f.legible_toJson)

/-- **A batch is read from its JSON**, be it on one line or on many, **and from every text of an
array of values that stand for its fragments.** -/
theorem parseBatch_of_presents (batch : List Fragment) :
    (parseBatch (batchJson batch).compact = some batch ∧
      parseBatch (batchJson batch).pretty = some batch) ∧
    ∀ (vs : List Json) (text : String), List.Forall₂ Presents batch vs →
      Json.Written (.array vs) text.toList → parseBatch text = some batch := by
  have hread : ∀ (vs : List Json) (text : String), List.Forall₂ Presents batch vs →
      Json.parse text = some (.array vs) → parseBatch text = some batch := by
    intro vs text hvs htext
    rw [parseBatch, htext]
    exact mapM_ofJson?_of_presents hvs
  have hself : List.Forall₂ Presents batch (batch.map toJson) := by
    rw [List.forall₂_map_right_iff]
    exact List.forall₂_same.2 fun f _ => f.presents_toJson
  have hcompact : Json.parse ("" ++ (batchJson batch).compact ++ "") = some (batchJson batch) :=
    (legible_batchJson batch).parse_compact (List.forall_mem_nil _) (List.forall_mem_nil _)
  have hpretty : Json.parse ("" ++ (batchJson batch).pretty ++ "") = some (batchJson batch) :=
    (legible_batchJson batch).parse_pretty (List.forall_mem_nil _) (List.forall_mem_nil _)
  rw [String.empty_append, String.append_empty] at hcompact hpretty
  refine ⟨⟨hread _ _ hself hcompact, hread _ _ hself hpretty⟩, fun vs text hvs htext => ?_⟩
  exact hread vs text hvs (Json.parse_of_written htext)

/-- A fragment without a source, and one without tags. -/
def eventAndGuide : List Fragment :=
  [{ category := "event", tags := [("events", "a😀")] },
   { category := "guide", source := some "g:1" }]

/-- A text of the two fragments. The first is an object whose source is left out and which has one
more member in front, the second is an array; one character is written as a surrogate pair. -/
def eventAndGuideText : String :=
  "[\x7b\"x\": -0.5E+3 ,\"tags\":[[\"events\",\"a\\uD83D\\ude00\"]],\"category\":\"event\"\x7d," ++
    "[\"guide\",\"g:1\",[ ]]]\n"

/-- The values in that text. -/
def eventAndGuideValues : List Json :=
  [.record [("x", .number "-0.5E+3".toList),
    ("tags", .array [.array [.ofText "events", .ofText "a😀"]]), ("category", .ofText "event")],
   .array [.ofText "guide", .ofText "g:1", .array []]]

theorem written_pairedHalves :
    Json.Written (.ofText "a😀") ('"' :: ("a\\uD83D\\ude00".toList ++ ['"'])) := by
  have hfirst : Json.UnitWritten 97 ['a'] :=
    @Json.UnitWritten.plain 'a' (by decide) (by decide) (by decide)
  have hhigh : Json.IsHexUnit 0xD83D "D83D".toList :=
    @Json.IsHexUnit.mk 'D' '8' '3' 'D' 13 8 3 13 (by decide) (by decide) (by decide) (by decide)
  have hlow : Json.IsHexUnit 0xDE00 "de00".toList :=
    @Json.IsHexUnit.mk 'd' 'e' '0' '0' 13 14 0 0 (by decide) (by decide) (by decide) (by decide)
  have hunits : Json.UnitsWritten [97, 0xD83D, 0xDE00] "a\\uD83D\\ude00".toList :=
    .cons hfirst (.cons (.hex hhigh) (.cons (.hex hlow) .nil))
  exact .string (.text hunits (.one 'a' (.pair '😀' (by decide) .nil)))

theorem isLiteral_exponent :
    Json.IsLiteral ("-".toList ++ "0".toList ++ ".5".toList ++ "E+3".toList) := by
  have hdigit : ∀ d, d.isDigit = true → Json.IsDigits [d] :=
    fun d hd => ⟨List.cons_ne_nil d [], List.forall_mem_singleton.2 hd⟩
  have hexponent : Json.IsExponent "E+3".toList :=
    @Json.IsExponent.digits 'E' ['+'] ['3'] (.inr rfl) (.inr (.inl rfl)) (hdigit '3' rfl)
  exact .mk (.inr rfl) (hdigit '0' rfl) (fun _ => rfl) (.digits (hdigit '5' rfl)) hexponent

theorem written_eventAndGuideText :
    Json.Written (.array eventAndGuideValues) eventAndGuideText.toList := by
  have hnone : ∀ c ∈ ([] : List Char), Json.isGap c = true := List.forall_mem_nil _
  have hspace : ∀ c ∈ [' '], Json.isGap c = true := List.forall_mem_singleton.2 rfl
  have hline : ∀ c ∈ ['\n'], Json.isGap c = true := List.forall_mem_singleton.2 rfl
  have hkey : ∀ s : String, s.toList.all Json.isPlain = true →
      Json.KeyWritten (some s) ('"' :: (s.toList ++ ['"'])) :=
    fun s hs => .of_string (Json.stringWritten_of_isPlain (List.all_eq_true.1 hs))
  have htext : ∀ s : String, s.toList.all Json.isPlain = true →
      Json.Written (.ofText s) ('"' :: (s.toList ++ ['"'])) :=
    fun s hs => .string (Json.stringWritten_of_isPlain (List.all_eq_true.1 hs))
  have harray : ∀ items : List (Json × List Char), (∀ p ∈ items, Json.Written p.1 p.2) →
      Json.Written (.array (items.map Prod.fst))
        ('[' :: ([] ++ [','].intercalate (items.map Prod.snd) ++ [']'])) :=
    fun _ hitems => .array hnone hitems
  have htag := harray [(.ofText "events", _), (.ofText "a😀", _)] <| List.forall_mem_cons.2
    ⟨htext "events" (by decide), List.forall_mem_singleton.2 written_pairedHalves⟩
  have htags := harray [(_, _)] (List.forall_mem_singleton.2 htag)
  have hevent := @Json.Written.object [] [((_, _), _, _), ((_, _), _, _), ((_, _), _, _)] hnone
    (by
      simp only [List.forall_mem_cons]
      exact ⟨hkey "x" (by decide), hkey "tags" (by decide), hkey "category" (by decide),
        List.forall_mem_nil _⟩)
    (by
      simp only [List.forall_mem_cons]
      exact ⟨.gaps hspace hspace (.number isLiteral_exponent), htags, htext "event" (by decide),
        List.forall_mem_nil _⟩)
  have hempty : Json.Written (.array []) ('[' :: ([' '] ++ [','].intercalate [] ++ [']'])) :=
    .array hspace (List.forall_mem_nil _)
  have hguide := harray [(.ofText "guide", _), (.ofText "g:1", _), (.array [], _)] <| by
    simp only [List.forall_mem_cons]
    exact ⟨htext "guide" (by decide), htext "g:1" (by decide), hempty, List.forall_mem_nil _⟩
  have hall := harray [(_, _), (_, _)]
    (List.forall_mem_cons.2 ⟨hevent, List.forall_mem_singleton.2 hguide⟩)
  exact cast (congrArg (Json.Written _) (by decide +kernel)) (Json.Written.gaps hnone hline hall)

theorem parseBatch_of_presents_eventAndGuide :
    List.Forall₂ Presents eventAndGuide eventAndGuideValues ∧
      Json.Written (.array eventAndGuideValues) eventAndGuideText.toList ∧
      parseBatch eventAndGuideText = some eventAndGuide := by
  have hevent : Presents ⟨"event", none, [("events", "a😀")]⟩ (.record
      [("x", .number "-0.5E+3".toList),
        ("tags", .array [.array [.ofText "events", .ofText "a😀"]]),
        ("category", .ofText "event")]) := by
    refine @Presents.object _ [] _ [("x", .number "-0.5E+3".toList)] _ .leftOut (.given _) ?_ ?_
    · exact List.forall_mem_singleton.2 (by decide)
    · exact (List.reverse_perm _).symm
  have hvs : List.Forall₂ Presents eventAndGuide eventAndGuideValues :=
    .cons hevent (.cons .array .nil)
  have htext := written_eventAndGuideText
  exact ⟨hvs, htext, (parseBatch_of_presents eventAndGuide).2 _ _ hvs htext⟩

end Fragment

end DocLint

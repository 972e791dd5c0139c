import DocLint.Proofs.Tokens

/-!
# Reading and writing JSON

Of a text with the tokens of a value, that value is read, whatever the gaps between the tokens
(`Json.parse_of_holds`). Both ways to write a value give such a text, if all its numbers are written
as numbers are (`Json.Legible`); so a value is read back from what was written for it
(`Json.Legible.parse_compact`, `Json.Legible.parse_pretty`).
-/

namespace DocLint.Json

/-- A statement holds of all values if it does of those without parts, of an array if it does of the
items, and of an object if it does of the values of the members. -/
@[induction_eliminator]
theorem induction {P : Json → Prop} (null : P .null) (bool : ∀ b, P (.bool b))
    (number : ∀ literal, P (.number literal)) (string : ∀ text, P (.string text))
    (array : ∀ items, (∀ v ∈ items, P v) → P (.array items))
    (object : ∀ members, (∀ m ∈ members, P m.2) → P (.object members)) (v : Json) : P v :=
  @Json.rec P (fun items => ∀ v ∈ items, P v) (fun members => ∀ m ∈ members, P m.2)
    (fun m => P m.2) null bool number string array object (List.forall_mem_nil _)
    (fun _ _ hv hvs => List.forall_mem_cons.2 ⟨hv, hvs⟩) (List.forall_mem_nil _)
    (fun _ _ hm hms => List.forall_mem_cons.2 ⟨hm, hms⟩) (fun _ _ hv => hv) v

/-! ## The tokens of a value -/

mutual

/-- The tokens of a value. -/
def tokens : Json → List Token
  | .null => [.null]
  | .bool b => [.bool b]
  | .number literal => [.number literal]
  | .string text => [.string text]
  | .array items => .openBracket :: (itemTokens items ++ [.closeBracket])
  | .object members => .openBrace :: (memberTokens members ++ [.closeBrace])

/-- The tokens of items, with commas between them. -/
def itemTokens : List Json → List Token
  | [] => []
  | [v] => tokens v
  | v :: w :: vs => tokens v ++ .comma :: itemTokens (w :: vs)

/-- The tokens of members, with commas between them. -/
def memberTokens : List (Option String × Json) → List Token
  | [] => []
  | [(k, v)] => .string k :: .colon :: tokens v
  | (k, v) :: m :: ms => .string k :: .colon :: (tokens v ++ .comma :: memberTokens (m :: ms))

end

/-! ## Reading a value -/

/-- A value is read from its tokens, wherever a value may come. -/
def IsRead (v : Json) : Prop :=
  ∀ stack mayClose, Machine.feedAll ⟨stack, .value mayClose⟩ (tokens v) = some ⟨stack, .after v⟩

/-- Behind the tokens of a value, the machine goes on after the value. -/
theorem IsRead.feedAll {v : Json} (h : IsRead v) (stack : List Frame) (mayClose : Bool)
    (ts : List Token) : Machine.feedAll ⟨stack, .value mayClose⟩ (tokens v ++ ts) =
      Machine.feedAll ⟨stack, .after v⟩ ts := by
  rw [Machine.feedAll_append, h stack mayClose]
  rfl

theorem reverse_append_cons {α : Type} (a : α) (as bs : List α) :
    as.reverse ++ a :: bs = (a :: as).reverse ++ bs := by
  rw [List.reverse_cons, List.append_assoc, List.singleton_append]

theorem feedAll_items {v : Json} {vs : List Json} (h : ∀ w ∈ v :: vs, IsRead w)
    (stack : List Frame) (items : List Json) (mayClose : Bool) :
    Machine.feedAll ⟨.array items :: stack, .value mayClose⟩
        (itemTokens (v :: vs) ++ [.closeBracket]) =
      some ⟨stack, .after (.array (items.reverse ++ v :: vs))⟩ := by
  have hv := h v List.mem_cons_self
  -- the items that were read lie reversed on the stack, and each step moves one more there
  induction vs generalizing v items mayClose with
  | nil =>
    rw [itemTokens, hv.feedAll, reverse_append_cons, List.append_nil]
    rfl
  | cons w vs ih =>
    have hvs : ∀ u ∈ w :: vs, IsRead u := fun u hu => h u (List.mem_cons_of_mem v hu)
    rw [itemTokens, List.append_assoc, hv.feedAll, reverse_append_cons]
    exact ih hvs (v :: items) false (hvs w List.mem_cons_self)

theorem feedAll_members {m : Option String × Json} {ms : List (Option String × Json)}
    (h : ∀ n ∈ m :: ms, IsRead n.2) (stack : List Frame) (members : List (Option String × Json))
    (mayClose : Bool) :
    Machine.feedAll ⟨stack, .key members mayClose⟩ (memberTokens (m :: ms) ++ [.closeBrace]) =
      some ⟨stack, .after (.object (members.reverse ++ m :: ms))⟩ := by
  have hkey : ∀ (members : List (Option String × Json)) (mayClose : Bool) (k : Option String)
      (ts : List Token), Machine.feedAll ⟨stack, .key members mayClose⟩
          (.string k :: .colon :: ts) =
        Machine.feedAll ⟨.object members k :: stack, .value false⟩ ts := fun _ _ _ _ => rfl
  induction ms generalizing m members mayClose with
  | nil =>
    obtain ⟨k, v⟩ := m
    have hv : IsRead v := h (k, v) List.mem_cons_self
    rw [memberTokens, List.cons_append, List.cons_append, hkey, hv.feedAll, reverse_append_cons,
      List.append_nil]
    rfl
  | cons n ms ih =>
    obtain ⟨k, v⟩ := m
    have hv : IsRead v := h (k, v) List.mem_cons_self
    have hms : ∀ u ∈ n :: ms, IsRead u.2 := fun u hu => h u (List.mem_cons_of_mem _ hu)
    rw [memberTokens, List.cons_append, List.cons_append, hkey, List.append_assoc, hv.feedAll,
      reverse_append_cons]
    exact ih hms ((k, v) :: members) false

/-- **Every value is read from its tokens.** -/
theorem isRead (v : Json) : IsRead v := by
  induction v with
  | null => exact fun stack mayClose => rfl
  | bool b => exact fun stack mayClose => rfl
  | number literal => exact fun stack mayClose => rfl
  | string text => exact fun stack mayClose => rfl
  | array items ih =>
    intro stack mayClose
    rw [tokens]
    cases items with
    | nil => rfl
    | cons v vs => exact feedAll_items ih stack [] true
  | object members ih =>
    intro stack mayClose
    rw [tokens]
    cases members with
    | nil => rfl
    | cons m ms => exact feedAll_members ih stack [] true

/-- **Of a text with the tokens of a value, that value is read.** -/
theorem parse_of_holds {v : Json} {text : String} (h : Holds (tokens v) text.toList) :
    parse text = some v := by
  rw [parse, parseChars, h.run, Machine.start, isRead v]
  rfl

/-! ## Writing tokens -/

/-- Characters of which tokens are read, whatever comes behind them, as long as it does not go on
with a number. -/
def Carries (ts : List Token) (cs : List Char) : Prop :=
  ∀ (us : List Token) (rest : List Char), Stops rest → Holds us rest → Holds (ts ++ us) (cs ++ rest)

/-- Characters that are tokens on their own. -/
inductive IsMark : Char → Token → Prop
  | openBrace : IsMark '{' .openBrace
  | closeBrace : IsMark '}' .closeBrace
  | openBracket : IsMark '[' .openBracket
  | closeBracket : IsMark ']' .closeBracket
  | colon : IsMark ':' .colon
  | comma : IsMark ',' .comma

theorem IsMark.token? {c : Char} {t : Token} (h : IsMark c t) (rest : List Char) :
    Json.token? (c :: rest) = some (t, rest) := by
  cases h <;> rfl

/-- A mark ends a number. -/
theorem IsMark.stops {c : Char} {t : Token} (h : IsMark c t) (rest : List Char) :
    Stops (c :: rest) := by
  rw [stops_cons]
  cases h <;> decide

variable {ts us : List Token} {cs ds blanks : List Char}

theorem Stops.gap {rest : List Char} (h : Stops rest) (hgap : ∀ c ∈ blanks, isGap c = true) :
    Stops (blanks ++ rest) := by
  cases blanks with
  | nil => exact h
  | cons c blanks =>
    rw [List.cons_append, stops_cons]
    rcases isGap_iff.1 (hgap c List.mem_cons_self) with rfl | rfl | rfl | rfl <;> decide

theorem Carries.nil : Carries [] [] := fun _ _ _ h => h

theorem Carries.gap_append (h : Carries ts cs) (hgap : ∀ c ∈ blanks, isGap c = true) :
    Carries ts (blanks ++ cs) := by
  intro us rest hrest hus
  rw [List.append_assoc]
  exact (h us rest hrest hus).gap hgap

theorem Carries.append_gap (h : Carries ts cs) (hgap : ∀ c ∈ blanks, isGap c = true) :
    Carries ts (cs ++ blanks) := by
  intro us rest hrest hus
  rw [List.append_assoc]
  exact h us _ (hrest.gap hgap) (hus.gap hgap)

theorem Carries.mark {c : Char} {t : Token} (hc : IsMark c t) (h : Carries ts cs)
    (h' : Carries us ds) : Carries (ts ++ t :: us) (cs ++ c :: ds) := by
  intro vs rest hrest hvs
  rw [List.append_assoc, List.append_assoc]
  exact h _ _ (hc.stops _) (.token (hc.token? _) (h' vs rest hrest hvs))

theorem carries_null : Carries [.null] ['n', 'u', 'l', 'l'] :=
  fun _ rest _ h => .token (token?_null rest) h

theorem carries_bool (b : Bool) : Carries [.bool b] (boolChars b) :=
  fun _ rest _ h => .token (token?_boolChars b rest) h

theorem IsNumber.carries {literal : List Char} (hl : IsNumber literal) :
    Carries [.number literal] literal :=
  fun _ _ hrest h => .token (token?_of_number? (hl.read hrest)) h

theorem carries_string (text : Option String) : Carries [.string text] (stringChars text) :=
  fun _ rest _ h => .token (token?_stringChars text rest) h

/-- What stands between brackets or braces. -/
theorem Carries.between {c d : Char} {t u : Token} (hc : IsMark c t) (hd : IsMark d u)
    (h : Carries ts cs) : Carries (t :: (ts ++ [u])) (c :: (cs ++ [d])) :=
  Carries.mark hc .nil (.mark hd h .nil)

/-- Parts with commas between them. -/
theorem carries_intercalate {α : Type} {f : α → List Token} {g : α → List Char} {xs : List α}
    (h : ∀ x ∈ xs, Carries (f x) (g x)) :
    Carries ([Token.comma].intercalate (xs.map f)) ([','].intercalate (xs.map g)) := by
  induction xs with
  | nil => exact .nil
  | cons x xs ih =>
    have hx : Carries (f x) (g x) := h x List.mem_cons_self
    cases xs with
    | nil =>
      rw [List.map_singleton, List.map_singleton, List.intercalate_singleton,
        List.intercalate_singleton]
      exact hx
    | cons y ys =>
      have hxs := ih fun z hz => h z (List.mem_cons_of_mem x hz)
      simp only [List.map_cons, List.intercalate_cons_cons, List.append_assoc,
        List.singleton_append] at hxs ⊢
      exact .mark .comma hx hxs

/-! ## Writing values -/

/-- What a function does that puts separators between the parts of a list. -/
theorem eq_intercalate {α β : Type} {F : List α → List β} {f : α → List β} {sep : β}
    (nil : F [] = []) (one : ∀ x, F [x] = f x)
    (cons : ∀ x y ys, F (x :: y :: ys) = f x ++ sep :: F (y :: ys)) (xs : List α) :
    F xs = [sep].intercalate (xs.map f) := by
  induction xs with
  | nil => exact nil
  | cons x xs ih =>
    cases xs with
    | nil => rw [one, List.map_singleton, List.intercalate_singleton]
    | cons y ys =>
      rw [cons, ih]
      simp only [List.map_cons, List.intercalate_cons_cons, List.append_assoc,
        List.singleton_append]

theorem itemTokens_eq : ∀ items : List Json,
    itemTokens items = [Token.comma].intercalate (items.map tokens) :=
  eq_intercalate rfl (fun _ => rfl) fun _ _ _ => rfl

theorem memberTokens_eq : ∀ members : List (Option String × Json),
    memberTokens members =
      [Token.comma].intercalate (members.map fun m => .string m.1 :: .colon :: tokens m.2) :=
  eq_intercalate rfl (fun _ => rfl) fun _ _ _ => rfl

theorem compactItems_eq : ∀ items : List Json,
    compactItems items = [','].intercalate (items.map compactChars) :=
  eq_intercalate rfl (fun _ => rfl) fun _ _ _ => rfl

theorem compactMembers_eq : ∀ members : List (Option String × Json),
    compactMembers members =
      [','].intercalate (members.map fun m => stringChars m.1 ++ ':' :: compactChars m.2) :=
  eq_intercalate rfl (fun _ => rfl) fun _ _ _ => rfl

theorem prettyItems_eq (depth : Nat) : ∀ items : List Json,
    prettyItems depth items =
      [','].intercalate (items.map fun v => newLine depth ++ prettyChars depth v) :=
  eq_intercalate rfl (fun _ => rfl) fun _ _ _ => rfl

theorem prettyMembers_eq (depth : Nat) : ∀ members : List (Option String × Json),
    prettyMembers depth members = [','].intercalate (members.map fun m =>
      newLine depth ++ (stringChars m.1 ++ ':' :: ([' '] ++ prettyChars depth m.2))) :=
  eq_intercalate rfl (fun m => by simp [prettyMembers]) fun m n ms => by simp [prettyMembers]

/-- A value whose numbers are all written as numbers are. -/
inductive Legible : Json → Prop
  | null : Legible .null
  | bool (b : Bool) : Legible (.bool b)
  | number {literal : List Char} (h : IsNumber literal) : Legible (.number literal)
  | string (text : Option String) : Legible (.string text)
  | array {items : List Json} (h : ∀ v ∈ items, Legible v) : Legible (.array items)
  | object {members : List (Option String × Json)} (h : ∀ m ∈ members, Legible m.2) :
      Legible (.object members)

theorem Legible.carries_compactChars {v : Json} (h : Legible v) :
    Carries (tokens v) (compactChars v) := by
  induction h with
  | null => exact carries_null
  | bool b => exact carries_bool b
  | number h => exact h.carries
  | string text => exact carries_string text
  | @array items _ ih =>
    rw [tokens, compactChars, itemTokens_eq, compactItems_eq]
    exact .between .openBracket .closeBracket (carries_intercalate ih)
  | @object members _ ih =>
    rw [tokens, compactChars, memberTokens_eq, compactMembers_eq]
    refine .between .openBrace .closeBrace (carries_intercalate fun m hm => ?_)
    exact .mark .colon (carries_string m.1) (ih m hm)

theorem isGap_newLine (depth : Nat) : ∀ c ∈ newLine depth, isGap c = true := by
  intro c hc
  rcases List.mem_cons.1 hc with rfl | hc
  · rfl
  · rw [List.eq_of_mem_replicate hc]
    rfl

theorem Legible.carries_prettyChars {v : Json} (h : Legible v) (depth : Nat) :
    Carries (tokens v) (prettyChars depth v) := by
  -- parts stand one level deeper, so the depth is left open
  induction h generalizing depth with
  | null => exact carries_null
  | bool b => exact carries_bool b
  | number h => exact h.carries
  | string text => exact carries_string text
  | @array items _ ih =>
    cases items with
    | nil => exact .between .openBracket .closeBracket .nil
    | cons v vs =>
      rw [tokens, prettyChars, itemTokens_eq, prettyItems_eq, List.cons_append]
      refine .between .openBracket .closeBracket (.append_gap ?_ (isGap_newLine depth))
      exact carries_intercalate fun w hw => (ih w hw (depth + 1)).gap_append (isGap_newLine _)
  | @object members _ ih =>
    cases members with
    | nil => exact .between .openBrace .closeBrace .nil
    | cons m ms =>
      rw [tokens, prettyChars, memberTokens_eq, prettyMembers_eq, List.cons_append]
      refine .between .openBrace .closeBrace (.append_gap ?_ (isGap_newLine depth))
      refine carries_intercalate fun n hn => .gap_append ?_ (isGap_newLine _)
      have hvalue : Carries (tokens n.2) ([' '] ++ prettyChars (depth + 1) n.2) :=
        (ih n hn (depth + 1)).gap_append (List.forall_mem_singleton.2 rfl)
      exact .mark .colon (carries_string n.1) hvalue

/-! ## Values are read back -/

theorem Carries.parse {v : Json} (h : Carries (tokens v) cs) {before after : String}
    (hbefore : ∀ c ∈ before.toList, isGap c = true) (hafter : ∀ c ∈ after.toList, isGap c = true) :
    Json.parse (before ++ String.ofList cs ++ after) = some v := by
  have hstops : Stops after.toList := by
    have hnil := stops_nil.gap hafter
    rwa [List.append_nil] at hnil
  have hholds := (h [] after.toList hstops (.nil hafter)).gap hbefore
  apply parse_of_holds
  rwa [String.toList_append, String.toList_append, String.toList_ofList, List.append_assoc,
    ← List.append_nil (tokens v)]

/-- **A value is read back from what was written for it on one line**, with any gaps around it. -/
theorem Legible.parse_compact {v : Json} (h : Legible v) {before after : String}
    (hbefore : ∀ c ∈ before.toList, isGap c = true) (hafter : ∀ c ∈ after.toList, isGap c = true) :
    parse (before ++ v.compact ++ after) = some v :=
  h.carries_compactChars.parse hbefore hafter

/-- **A value is read back from what was written for it on many lines**, with any gaps around it. -/
theorem Legible.parse_pretty {v : Json} (h : Legible v) {before after : String}
    (hbefore : ∀ c ∈ before.toList, isGap c = true) (hafter : ∀ c ∈ after.toList, isGap c = true) :
    parse (before ++ v.pretty ++ after) = some v :=
  (h.carries_prettyChars 0).parse hbefore hafter

end DocLint.Json

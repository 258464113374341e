import FinderQuery.Proofs.Json.Tokens

namespace FinderQuery.Json

@[elab_as_elim]
theorem induction {motive : Json → Prop} (null : motive .null)
    (bool : ∀ value, motive (.bool value))
    (number : ∀ numeral, motive (.number numeral)) (string : ∀ text, motive (.string text))
    (array : ∀ items, (∀ item ∈ items, motive item) → motive (.array items))
    (object : ∀ members, (∀ member ∈ members, motive member.2) → motive (.object members)) :
    ∀ json, motive json
  | .null => null
  | .bool value => bool value
  | .number numeral => number numeral
  | .string text => string text
  | .array items => array items fun item _ =>
    induction null bool number string array object item
  | .object members => object members fun member _ =>
    induction null bool number string array object member.2
termination_by json => sizeOf json
decreasing_by
  · have smaller := List.sizeOf_lt_of_mem ‹item ∈ items›
    simp only [Json.array.sizeOf_spec]
    omega
  · have smaller := List.sizeOf_lt_of_mem ‹member ∈ members›
    obtain ⟨key, value⟩ := member
    simp only [Json.object.sizeOf_spec, Prod.mk.sizeOf_spec] at smaller ⊢
    omega

mutual

def depth : Json → Nat
  | .array items => itemsDepth items + 1
  | .object members => membersDepth members + 1
  | _ => 0

def itemsDepth : List Json → Nat
  | [] => 0
  | item :: items => max (depth item) (itemsDepth items)

def membersDepth : List (Text × Json) → Nat
  | [] => 0
  | (_, value) :: members => max (depth value) (membersDepth members)

end

theorem itemsDepth_le {levels : Nat} {items : List Json} :
    itemsDepth items ≤ levels ↔ ∀ item ∈ items, item.depth ≤ levels := by
  induction items with
  | nil => simp [itemsDepth]
  | cons item items ih => rw [itemsDepth, Nat.max_le, ih, List.forall_mem_cons]

theorem membersDepth_le {levels : Nat} {members : List (Text × Json)} :
    membersDepth members ≤ levels ↔ ∀ member ∈ members, member.2.depth ≤ levels := by
  induction members with
  | nil => simp [membersDepth]
  | cons member members ih => rw [membersDepth, Nat.max_le, ih, List.forall_mem_cons]

theorem depth_array_le {levels : Nat} {items : List Json} :
    (array items).depth ≤ levels ↔
      ∃ inner, levels = inner + 1 ∧ ∀ item ∈ items, item.depth ≤ inner := by
  rw [depth]
  cases levels with
  | zero => simp
  | succ inner => simp [itemsDepth_le]

theorem depth_object_le {levels : Nat} {members : List (Text × Json)} :
    (object members).depth ≤ levels ↔
      ∃ inner, levels = inner + 1 ∧ ∀ member ∈ members, member.2.depth ≤ inner := by
  rw [depth]
  cases levels with
  | zero => simp
  | succ inner => simp [membersDepth_le]

def WellFormed (json : Json) : Prop := ∀ token ∈ json.tokens, token.WellFormed

theorem wellFormed_null : null.WellFormed := by
  simp [WellFormed, tokens, Token.WellFormed]

theorem wellFormed_bool (value : Bool) : (bool value).WellFormed := by
  simp [WellFormed, tokens, Token.WellFormed]

theorem wellFormed_number {n : Numeral} : (number n).WellFormed ↔ n.WellFormed := by
  simp [WellFormed, tokens, Token.WellFormed]

theorem wellFormed_string (text : String) : (string (some text)).WellFormed := by
  simp [WellFormed, tokens, Token.WellFormed]

theorem itemTokens_eq_flatMap (items : List Json) :
    itemTokens items = items.flatMap fun item => .comma :: tokens item := by
  induction items with
  | nil => rfl
  | cons item items ih => rw [itemTokens, ih, List.flatMap_cons]

theorem memberTokens_eq_flatMap (members : List (Text × Json)) :
    memberTokens members = members.flatMap fun member => .comma :: memberToken member := by
  induction members with
  | nil => rfl
  | cons member members ih => rw [memberTokens, ih, List.flatMap_cons]

theorem tokens_array_cons (item : Json) (items : List Json) :
    (array (item :: items)).tokens =
      .leftBracket :: (item.tokens ++
        (items.flatMap (fun item => .comma :: tokens item) ++ [.rightBracket])) := by
  rw [tokens, itemTokens_eq_flatMap, List.cons_append, List.cons_append, List.append_assoc]

theorem tokens_object_cons (member : Text × Json) (members : List (Text × Json)) :
    (object (member :: members)).tokens =
      .leftBrace :: (memberToken member ++
        (members.flatMap (fun member => .comma :: memberToken member) ++ [.rightBrace])) := by
  rw [tokens, memberTokens_eq_flatMap, List.cons_append, List.cons_append, List.append_assoc]

theorem wellFormed_array {items : List Json} :
    (array items).WellFormed ↔ ∀ item ∈ items, item.WellFormed := by
  cases items with
  | nil => simp [WellFormed, tokens, Token.WellFormed]
  | cons item items =>
    simp only [WellFormed, tokens_array_cons, List.forall_mem_cons, List.forall_mem_append,
      List.forall_mem_flatMap, Token.WellFormed, true_and]
    simp

theorem wellFormed_memberToken (member : Text × Json) :
    (∀ token ∈ memberToken member, token.WellFormed) ↔
      member.1 ≠ none ∧ member.2.WellFormed := by
  obtain ⟨key, value⟩ := member
  simp [memberToken, Token.WellFormed, WellFormed]

theorem wellFormed_object {members : List (Text × Json)} :
    (object members).WellFormed ↔
      ∀ member ∈ members, member.1 ≠ none ∧ member.2.WellFormed := by
  cases members with
  | nil => simp [WellFormed, tokens, Token.WellFormed]
  | cons member members =>
    have fixed : ∀ token ∈ [Token.leftBrace, .comma, .rightBrace], token.WellFormed := by
      simp [Token.WellFormed]
    simp only [List.forall_mem_cons] at fixed
    rw [WellFormed]
    simp only [tokens_object_cons, List.forall_mem_cons, List.forall_mem_append,
      List.forall_mem_flatMap, wellFormed_memberToken, fixed, true_and]
    simp

theorem exists_tokens_eq_cons (json : Json) :
    ∃ first others, json.tokens = first :: others ∧ first ≠ .rightBracket := by
  cases json with
  | array items => cases items <;> exact ⟨_, _, rfl, nofun⟩
  | object members => cases members <;> exact ⟨_, _, rfl, nofun⟩
  | _ => exact ⟨_, _, rfl, nofun⟩

theorem ofTokens?_itemOrEnd {token : Token} (other : token ≠ .rightBracket) (frames : List Frame)
    (rest : List Token) :
    ofTokens? .itemOrEnd frames (token :: rest) =
      ofTokens? .value (.array [] :: frames) (token :: rest) := by
  simp only [ofTokens?, if_neg other]

/-- The tokens of a tree take the reader from asking for a value to having this one. -/
def Reads (json : Json) : Prop :=
  ∀ frames rest, ofTokens? .value frames (json.tokens ++ rest) =
    ofTokens? (.continuation json) frames rest

theorem ofTokens?_items {items : List Json} (each : ∀ item ∈ items, item.Reads) (item : Json)
    (done : List Json) (frames : List Frame) (rest : List Token) :
    ofTokens? (.continuation item) (.array done :: frames)
        (itemTokens items ++ .rightBracket :: rest) =
      ofTokens? (.continuation (.array (done.reverse ++ item :: items))) frames rest := by
  induction items generalizing item done with
  | nil =>
    rw [itemTokens, List.nil_append, ofTokens?, List.reverse_cons]
  | cons next items ih =>
    rw [List.forall_mem_cons] at each
    rw [itemTokens, List.cons_append, List.cons_append, List.append_assoc, ofTokens?, each.1,
      ih each.2, List.reverse_cons, List.append_assoc, List.singleton_append]

theorem ofTokens?_members {members : List (Text × Json)}
    (each : ∀ member ∈ members, member.2.Reads) (value : Json) (done : List (Text × Json))
    (key : Text) (frames : List Frame) (rest : List Token) :
    ofTokens? (.continuation value) (.object done key :: frames)
        (memberTokens members ++ .rightBrace :: rest) =
      ofTokens? (.continuation (.object (done.reverse ++ (key, value) :: members))) frames
        rest := by
  induction members generalizing value done key with
  | nil => rw [memberTokens, List.nil_append, ofTokens?, List.reverse_cons]
  | cons next members ih =>
    rw [List.forall_mem_cons] at each
    rw [memberTokens, memberToken, List.cons_append, List.cons_append, List.append_assoc]
    simp only [List.cons_append]
    rw [ofTokens?, ofTokens?, ofTokens?, if_pos rfl, each.1, ih each.2, List.reverse_cons,
      List.append_assoc, List.singleton_append]

theorem reads (json : Json) : json.Reads := by
  induction json using induction with
  | array items each =>
    intro frames rest
    cases items with
    | nil => rfl
    | cons item items =>
      rw [List.forall_mem_cons] at each
      obtain ⟨first, others, shape, other⟩ := exists_tokens_eq_cons item
      -- The first item decides that the array is not at its end, the others follow commas.
      have inside := each.1 (.array [] :: frames) (itemTokens items ++ .rightBracket :: rest)
      rw [ofTokens?_items each.2] at inside
      rw [shape, List.cons_append, ← ofTokens?_itemOrEnd other] at inside
      rw [tokens, shape]
      simp only [List.cons_append, List.append_assoc, List.nil_append] at inside ⊢
      exact inside
  | object members each =>
    intro frames rest
    cases members with
    | nil => rfl
    | cons member members =>
      rw [List.forall_mem_cons] at each
      have inside := each.1 (.object [] member.1 :: frames)
        (memberTokens members ++ .rightBrace :: rest)
      rw [ofTokens?_members each.2] at inside
      rw [tokens, memberToken]
      simp only [List.cons_append, List.append_assoc, List.nil_append] at inside ⊢
      exact inside
  | _ =>
    intro frames rest
    rfl

theorem ofTokens?_tokens (json : Json) : ofTokens? .value [] json.tokens = some json := by
  have read := json.reads [] []
  rw [List.append_nil] at read
  exact read

theorem parse?_of_lex? {text : String} {json : Json} (read : lex? text.toList = some json.tokens) :
    parse? text = some json := by
  rw [parse?, read]
  exact ofTokens?_tokens json

/-- A text in front of any other is read as these tokens. -/
def Splits (text : List Char) (tokens : List Token) : Prop :=
  ∀ rest, lex? (text ++ rest) = (lex? rest).map (tokens ++ ·)

def SplitsOff (text : List Char) (tokens : List Token) : Prop :=
  ∀ rest, Numeral.EndsBefore rest → lex? (text ++ rest) = (lex? rest).map (tokens ++ ·)

def Ends (text : List Char) : Prop := ∀ rest, Numeral.EndsBefore (text ++ rest)

theorem Splits.append {front back : List Char} {first second : List Token}
    (splits : Splits front first) (others : Splits back second) :
    Splits (front ++ back) (first ++ second) := by
  intro rest
  rw [List.append_assoc, splits, others, Option.map_map]
  simp only [Function.comp_def, List.append_assoc]

theorem SplitsOff.append {front back : List Char} {first second : List Token}
    (splits : SplitsOff front first) (ends : Ends back) (others : Splits back second) :
    Splits (front ++ back) (first ++ second) := by
  intro rest
  rw [List.append_assoc, splits _ (ends rest), others, Option.map_map]
  simp only [Function.comp_def, List.append_assoc]

theorem Splits.splitsOff {text : List Char} {tokens : List Token} (splits : Splits text tokens) :
    SplitsOff text tokens := fun rest _ => splits rest

theorem isBlank_nil : ∀ c ∈ ([] : List Char), isBlank c := nofun

theorem isBlank_space : ∀ c ∈ [' '], isBlank c := List.forall_mem_singleton.mpr rfl

theorem splits_blanks {gap : List Char} (blank : ∀ c ∈ gap, isBlank c) : Splits gap [] := by
  intro rest
  induction gap with
  | nil => simp
  | cons c gap ih =>
    rw [List.forall_mem_cons] at blank
    rw [List.cons_append, lex?_blank blank.1, ih blank.2]

theorem splits_token {token : Token} (wellFormed : token.WellFormed)
    (other : ∀ n, token ≠ .number n) : Splits token.toList [token] := by
  intro rest
  exact lex?_append_token wellFormed fun n same => absurd same (other n)

theorem splitsOff_token (token : Token) (wellFormed : token.WellFormed) :
    SplitsOff token.toList [token] := by
  intro rest ends
  exact lex?_append_token wellFormed fun _ _ => ends

theorem endsBefore_blanks {gap : List Char} (blank : ∀ c ∈ gap, isBlank c) :
    Numeral.EndsBefore gap := by
  intro c head
  have here := blank c (List.mem_of_mem_head? head)
  simp only [isBlank, Bool.or_eq_true, decide_eq_true_eq] at here
  rcases here with ((rfl | rfl) | rfl) | rfl <;> decide

theorem ends_blanks_append {gap text : List Char} (blank : ∀ c ∈ gap, isBlank c)
    (ends : Ends text) : Ends (gap ++ text) := by
  cases gap with
  | nil => exact ends
  | cons c gap =>
    intro rest first head
    cases head
    exact endsBefore_blanks blank c rfl

theorem ends_cons {c : Char} (ending : ¬ c.isDigit ∧ c ≠ '.' ∧ c ≠ 'e' ∧ c ≠ 'E')
    (text : List Char) : Ends (c :: text) := by
  intro rest first head
  cases head
  exact ending

section

variable {α : Type} {text : α → List Char} {tokensOf : α → List Token} {items : List α}

theorem splits_items {gap tail : List Char} {closing : List Token}
    (blank : ∀ c ∈ gap, isBlank c)
    (each : ∀ item ∈ items, SplitsOff (text item) (tokensOf item))
    (ends : Ends tail) (closed : Splits tail closing) :
    Ends (items.flatMap (fun item => ',' :: (gap ++ text item)) ++ tail) ∧
      Splits (items.flatMap (fun item => ',' :: (gap ++ text item)) ++ tail)
        (items.flatMap (fun item => .comma :: tokensOf item) ++ closing) := by
  induction items with
  | nil => exact ⟨ends, closed⟩
  | cons item items ih =>
    rw [List.forall_mem_cons] at each
    obtain ⟨endsBehind, behind⟩ := ih each.2
    have comma : Splits Token.comma.toList [Token.comma] := splits_token trivial nofun
    have all := comma.append ((splits_blanks blank).append (each.1.append endsBehind behind))
    simp only [List.flatMap_cons, List.append_assoc, List.cons_append]
    exact ⟨ends_cons (by decide) _, all⟩

theorem splits_bracketed {opening closing : Token} {inner outer : List Char} {item : α}
    (opens : Splits opening.toList [opening]) (closes : Splits closing.toList [closing])
    (ends : Ends closing.toList) (blankInner : ∀ c ∈ inner, isBlank c)
    (blankOuter : ∀ c ∈ outer, isBlank c)
    (each : ∀ other ∈ item :: items, SplitsOff (text other) (tokensOf other)) :
    Splits (opening.toList ++ (inner ++ (text item ++
        (items.flatMap (fun other => ',' :: (inner ++ text other)) ++
          (outer ++ closing.toList)))))
      (opening :: (tokensOf item ++
        (items.flatMap (fun other => .comma :: tokensOf other) ++ [closing]))) := by
  rw [List.forall_mem_cons] at each
  have last := (splits_blanks blankOuter).append closes
  obtain ⟨endsBehind, behind⟩ :=
    splits_items blankInner each.2 (ends_blanks_append blankOuter ends) last
  exact opens.append ((splits_blanks blankInner).append (each.1.append endsBehind behind))

end

theorem splitsOff_member {key : Text} {gap text : List Char} {value : Json} (known : key ≠ none)
    (blank : ∀ c ∈ gap, isBlank c) (splits : SplitsOff text value.tokens) :
    SplitsOff ((Token.string key).toList ++ (Token.colon.toList ++ (gap ++ text)))
      (memberToken (key, value)) := by
  have name : Splits (Token.string key).toList [.string key] := splits_token known nofun
  have colon : Splits Token.colon.toList [.colon] := splits_token trivial nofun
  have front := name.append (colon.append (splits_blanks blank))
  intro rest ends
  have all := front (text ++ rest)
  rw [splits rest ends, Option.map_map] at all
  simp only [List.append_assoc] at all ⊢
  exact all

theorem splits_leftBracket : Splits Token.leftBracket.toList [.leftBracket] :=
  splits_token trivial nofun

theorem splits_rightBracket : Splits Token.rightBracket.toList [.rightBracket] :=
  splits_token trivial nofun

theorem splits_leftBrace : Splits Token.leftBrace.toList [.leftBrace] :=
  splits_token trivial nofun

theorem splits_rightBrace : Splits Token.rightBrace.toList [.rightBrace] :=
  splits_token trivial nofun

theorem splitsOff_compact {json : Json} (wellFormed : json.WellFormed) :
    SplitsOff (json.tokens.flatMap Token.toList) json.tokens := by
  have leaf : ∀ token : Token, token.WellFormed →
      SplitsOff ([token].flatMap Token.toList) [token] := by
    intro token wellFormed
    rw [List.flatMap_singleton]
    exact splitsOff_token token wellFormed
  induction json using induction with
  | null => exact leaf _ trivial
  | bool value => exact leaf _ trivial
  | number numeral => exact leaf _ (wellFormed _ List.mem_cons_self)
  | string text => exact leaf _ (wellFormed _ List.mem_cons_self)
  | array items ih =>
    rw [wellFormed_array] at wellFormed
    cases items with
    | nil =>
      rw [tokens, List.flatMap_cons, List.flatMap_singleton]
      exact (splits_leftBracket.append splits_rightBracket).splitsOff
    | cons item items =>
      have each := fun item member => ih item member (wellFormed item member)
      have all := splits_bracketed splits_leftBracket splits_rightBracket
        (ends_cons (by decide) _) isBlank_nil isBlank_nil each
      rw [tokens_array_cons, List.flatMap_cons, List.flatMap_append, List.flatMap_append,
        List.flatMap_assoc, List.flatMap_singleton]
      exact all.splitsOff
  | object members ih =>
    rw [wellFormed_object] at wellFormed
    have each : ∀ member ∈ members,
        SplitsOff ((memberToken member).flatMap Token.toList) (memberToken member) := by
      rintro ⟨key, value⟩ member
      have found := wellFormed _ member
      have all := splitsOff_member found.1 isBlank_nil (ih _ member found.2)
      rw [memberToken, List.flatMap_cons, List.flatMap_cons]
      exact all
    cases members with
    | nil =>
      rw [tokens, List.flatMap_cons, List.flatMap_singleton]
      exact (splits_leftBrace.append splits_rightBrace).splitsOff
    | cons member members =>
      have all := splits_bracketed splits_leftBrace splits_rightBrace
        (ends_cons (by decide) _) isBlank_nil isBlank_nil each
      rw [tokens_object_cons, List.flatMap_cons, List.flatMap_append, List.flatMap_append,
        List.flatMap_assoc, List.flatMap_singleton]
      exact all.splitsOff

theorem isBlank_newline (level : Nat) : ∀ c ∈ newline level, isBlank c := by
  intro c member
  rcases List.mem_cons.mp member with rfl | space
  · rfl
  · rw [List.eq_of_mem_replicate space]
    rfl

theorem itemLines_eq_flatMap (level : Nat) (items : List Json) :
    itemLines level items =
      items.flatMap fun item => ',' :: (newline level ++ lines level item) := by
  induction items with
  | nil => rfl
  | cons item items ih =>
    rw [itemLines, ih, List.flatMap_cons, List.cons_append, List.cons_append]

theorem memberLines_eq_flatMap (level : Nat) (members : List (Text × Json)) :
    memberLines level members =
      members.flatMap fun member => ',' :: (newline level ++ memberLine level member) := by
  induction members with
  | nil => rfl
  | cons member members ih =>
    rw [memberLines, ih, List.flatMap_cons, List.cons_append, List.cons_append]

theorem splitsOff_lines {json : Json} (wellFormed : json.WellFormed) (level : Nat) :
    SplitsOff (lines level json) json.tokens := by
  induction json using induction generalizing level with
  | null => exact splitsOff_token .null trivial
  | bool value => exact splitsOff_token (.bool value) trivial
  | number numeral =>
    exact splitsOff_token (.number numeral) (wellFormed _ List.mem_cons_self)
  | string text => exact splitsOff_token (.string text) (wellFormed _ List.mem_cons_self)
  | array items ih =>
    rw [wellFormed_array] at wellFormed
    cases items with
    | nil => exact (splits_leftBracket.append splits_rightBracket).splitsOff
    | cons item items =>
      have each := fun item member => ih item member (wellFormed item member) (level + 1)
      have all := splits_bracketed splits_leftBracket splits_rightBracket
        (ends_cons (by decide) _) (isBlank_newline (level + 1)) (isBlank_newline level) each
      rw [lines, itemLines_eq_flatMap, tokens_array_cons]
      simp only [List.cons_append, List.append_assoc] at all ⊢
      exact all.splitsOff
  | object members ih =>
    rw [wellFormed_object] at wellFormed
    have each : ∀ member ∈ members,
        SplitsOff (memberLine (level + 1) member) (memberToken member) := by
      rintro ⟨key, value⟩ member
      have found := wellFormed _ member
      have all := splitsOff_member found.1 isBlank_space
        (ih _ member found.2 (level + 1))
      rw [memberLine, List.append_assoc]
      exact all
    cases members with
    | nil => exact (splits_leftBrace.append splits_rightBrace).splitsOff
    | cons member members =>
      have all := splits_bracketed splits_leftBrace splits_rightBrace
        (ends_cons (by decide) _) (isBlank_newline (level + 1)) (isBlank_newline level) each
      rw [lines, memberLines_eq_flatMap, tokens_object_cons]
      simp only [List.cons_append, List.append_assoc] at all ⊢
      exact all.splitsOff

theorem lex?_nil : lex? [] = some [] := by
  rw [lex?_eq]
  rfl

theorem SplitsOff.parse? {text : List Char} {json : Json} (splits : SplitsOff text json.tokens)
    {gap : List Char} (blank : ∀ c ∈ gap, isBlank c) :
    Json.parse? (String.ofList (text ++ gap)) = some json := by
  have behind : lex? gap = some [] := by
    have all := splits_blanks blank []
    rw [List.append_nil, lex?_nil] at all
    exact all
  have read := splits gap (endsBefore_blanks blank)
  rw [behind, Option.map_some, List.append_nil] at read
  refine parse?_of_lex? ?_
  rw [String.toList_ofList]
  exact read

theorem parse?_compact {json : Json} (wellFormed : json.WellFormed) :
    parse? json.compact = some json := by
  have all := (splitsOff_compact wellFormed).parse? isBlank_nil
  rw [List.append_nil] at all
  exact all

theorem parse?_pretty_append {json : Json} (wellFormed : json.WellFormed) {gap : String}
    (blank : ∀ c ∈ gap.toList, isBlank c) : parse? (json.pretty ++ gap) = some json := by
  have all := (splitsOff_lines wellFormed 0).parse? blank
  rw [String.ofList_append, String.ofList_toList] at all
  exact all

end FinderQuery.Json

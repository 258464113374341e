import FinderQuery.Encoding.Trees
import FinderQuery.Proofs.Json.Records
import FinderQuery.Proofs.Json.Texts

namespace FinderQuery

open Json (SpellsRecord SpellsList FieldSpelling enter? fields? asList? asName? asString? asBool?
  asBinary64? asUInt64? orNull decode? nestingLimit)

def doubleFields (first second : String) (x y : Binary64) : List FieldSpelling :=
  [.required first (asBinary64? · = some x), .required second (asBinary64? · = some y)]

def Point.fields (point : Point) : List FieldSpelling := doubleFields "x" "y" point.x point.y

def Point.Spells (levels : Nat) (point : Point) : Json → Prop :=
  SpellsRecord (fun _ => point.fields) levels

def Range.fields (range : Range) : List FieldSpelling :=
  doubleFields "lower" "upper" range.lower range.upper

def Range.Spells (levels : Nat) (range : Range) : Json → Prop :=
  SpellsRecord (fun _ => range.fields) levels

def Part.fields (part : Part) (levels : Nat) : List FieldSpelling :=
  [.required "property" (PropertyPath.ofJson? · = some part.property),
    .required "operator" (Operator.ofJson? levels · = some part.operator),
    { name := "ignore_case"
      spells := (CaseRequest.ofJson? levels · = some part.caseRequest)
      isDefault := part.caseRequest = .never }]

def Part.Spells (levels : Nat) (part : Part) : Json → Prop := SpellsRecord part.fields levels

def PartTree.fields (tree : PartTree) (levels : Nat) : List FieldSpelling :=
  [{ name := "groups"
     spells := SpellsList (SpellsList Part.Spells) levels tree.groups
     isDefault := tree.groups = [] },
    { name := "distinct"
      spells := (asBool? · = some tree.distinct)
      isDefault := tree.distinct = false },
    { name := "count_projection"
      spells := (asBool? · = some tree.countProjection)
      isDefault := tree.countProjection = false },
    { name := "delete"
      spells := (asBool? · = some tree.delete)
      isDefault := tree.delete = false },
    { name := "max_results"
      spells := (orNull asUInt64? · = some tree.maxResults)
      isDefault := tree.maxResults = none }]

def PartTree.Spells (levels : Nat) (tree : PartTree) : Json → Prop :=
  SpellsRecord tree.fields levels

def SortKey.fields (key : SortKey) (levels : Nat) : List FieldSpelling :=
  [.required "property" (asString? · = some key.property),
    { name := "direction"
      spells := (Direction.ofJson? levels · = some key.direction)
      isDefault := key.direction = .ascending }]

def SortKey.Spells (levels : Nat) (key : SortKey) : Json → Prop := SpellsRecord key.fields levels

def Sorting.Spells (levels : Nat) (sorting : Sorting) : Json → Prop :=
  SpellsList SortKey.Spells levels sorting.keys

namespace Argument

def SpellsContent (levels : Nat) : Argument → Json → Prop
  | scalar value => fun json => Value.ofJson? levels json = some value
  | sequence items => fun json => asList? levels Value.ofJson? json = some items
  | geoPoint point => point.Spells levels
  | geoRange range => range.Spells levels

def fields (argument : Argument) (levels : Nat) : List FieldSpelling :=
  [.required "t" (asName? levels Shape.ofTag? · = some argument.shape),
    .required "v" (argument.SpellsContent levels)]

def Spells (levels : Nat) (argument : Argument) : Json → Prop :=
  SpellsRecord argument.fields levels

end Argument

section

variable {levels : Nat} {json : Json}

theorem ofDoubles?_of_spells {α : Type} {first second : String} (apart : first ≠ second)
    {x y : Binary64}
    (spelled : SpellsRecord (fun _ => doubleFields first second x y) levels json)
    (make : Binary64 → Binary64 → α) :
    ofDoubles? first second make levels json = some (make x y) := by
  obtain ⟨inner, values, entered, found, admitted⟩ := spelled.exists_fields? fun _ => by
    simp [doubleFields, FieldSpelling.required, apart]
  obtain _ | ⟨one, _ | ⟨other, _ | _⟩⟩ := admitted
  have names : fields? [first, second] json = _ := found
  rw [ofDoubles?]
  simp [entered, names, one.required fun _ => id, other.required fun _ => id]

theorem Point.ofJson?_of_spells {point : Point} (spelled : point.Spells levels json) :
    Point.ofJson? levels json = some point :=
  ofDoubles?_of_spells (by decide) spelled Point.mk

theorem Range.ofJson?_of_spells {range : Range} (spelled : range.Spells levels json) :
    Range.ofJson? levels json = some range :=
  ofDoubles?_of_spells (by decide) spelled Range.mk

theorem Part.ofJson?_of_spells {part : Part} (spelled : part.Spells levels json) :
    Part.ofJson? levels json = some part := by
  obtain ⟨inner, values, entered, found, admitted⟩ := spelled.exists_fields? fun _ => by
    simp [Part.fields, FieldSpelling.required]
  obtain _ | ⟨property, _ | ⟨operator, _ | ⟨caseRequest, _ | _⟩⟩⟩ := admitted
  have names : fields? ["property", "operator", "ignore_case"] json = _ := found
  rw [Part.ofJson?]
  simp [entered, names, property.required fun _ => id, operator.required fun _ => id,
    caseRequest.withDefault (fun _ => id) id]

theorem PartTree.ofJson?_of_spells {tree : PartTree} (spelled : tree.Spells levels json) :
    PartTree.ofJson? levels json = some tree := by
  obtain ⟨inner, values, entered, found, admitted⟩ := spelled.exists_fields? fun _ => by
    simp [PartTree.fields]
  obtain _ | ⟨groups, _ | ⟨distinct, _ | ⟨counts, _ | ⟨delete, _ | ⟨limit, _ | _⟩⟩⟩⟩⟩ := admitted
  have names : fields? ["groups", "distinct", "count_projection", "delete", "max_results"] json =
    _ := found
  have readGroups : ∀ json, SpellsList (SpellsList Part.Spells) inner tree.groups json →
      asList? inner (asList? · Part.ofJson?) json = some tree.groups := fun _ each =>
    each.asList? fun _ _ _ group => group.asList? fun _ _ _ => Part.ofJson?_of_spells
  rw [PartTree.ofJson?]
  simp [entered, names, groups.withDefault readGroups id, distinct.withDefault (fun _ => id) id,
    counts.withDefault (fun _ => id) id, delete.withDefault (fun _ => id) id,
    limit.withDefault (fun _ => id) id]

theorem SortKey.ofJson?_of_spells {key : SortKey} (spelled : key.Spells levels json) :
    SortKey.ofJson? levels json = some key := by
  obtain ⟨inner, values, entered, found, admitted⟩ := spelled.exists_fields? fun _ => by
    simp [SortKey.fields, FieldSpelling.required]
  obtain _ | ⟨property, _ | ⟨direction, _ | _⟩⟩ := admitted
  have names : fields? ["property", "direction"] json = _ := found
  rw [SortKey.ofJson?]
  simp [entered, names, property.required fun _ => id, direction.withDefault (fun _ => id) id]

theorem Sorting.ofJson?_of_spells {sorting : Sorting} (spelled : sorting.Spells levels json) :
    Sorting.ofJson? levels json = some sorting := by
  have keys : asList? levels SortKey.ofJson? json = some sorting.keys :=
    SpellsList.asList? (fun _ _ _ => SortKey.ofJson?_of_spells) spelled
  rw [Sorting.ofJson?, keys]
  rfl

theorem Value.isSound_of_ofJson? {value : Value} (read : Value.ofJson? levels json = some value) :
    json.isSound levels := by
  induction json using Json.induction generalizing levels value with
  | number n =>
    have present := congrArg Option.isSome read
    rw [Value.ofJson?, Option.isSome_map] at present
    rw [Json.isSound, present, Option.isSome_some]
  | string text =>
    have present := congrArg Option.isSome read
    rw [Value.ofJson?, Option.isSome_map] at present
    rw [Json.isSound, present, Option.isSome_some]
  | array items ih =>
    cases levels with
    | zero => cases read
    | succ levels =>
      rw [Value.ofJson?, Option.map_eq_some_iff] at read
      obtain ⟨values, each, -⟩ := read
      rw [Json.isSound, List.all_eq_true]
      intro item listed
      obtain ⟨value, -, found⟩ := exists_of_mem_right (Json.mapM_eq_some_iff.mp each).flip listed
      exact ih item listed found
  | object members =>
    rw [Value.ofJson?] at read
    cases read
  | _ => rw [Json.isSound]

theorem Json.isSound_of_asBinary64? {x : Binary64} (read : asBinary64? json = some x) :
    json.isSound levels := by
  cases json with
  | number n =>
    rw [asBinary64?, Option.map_eq_some_iff] at read
    obtain ⟨number, found, -⟩ := read
    rw [Json.isSound, found]
    rfl
  | _ => cases read

theorem isSound_of_doubleFields {first second : String} {x y : Binary64}
    (spelled : SpellsRecord (fun _ => doubleFields first second x y) levels json) :
    json.isSound levels := by
  refine spelled.isSound fun _ field known tree read => ?_
  simp only [doubleFields, List.mem_cons, List.not_mem_nil, or_false] at known
  rcases known with rfl | rfl
  · exact Json.isSound_of_asBinary64? read
  · exact Json.isSound_of_asBinary64? read

theorem Value.ofJson?_array (levels : Nat) (items : List Json) :
    Value.ofJson? levels (.array items) =
      (asList? levels Value.ofJson? (.array items)).map .array := by
  cases levels <;> rfl

theorem Argument.isSound_of_spellsContent {argument : Argument}
    (spelled : argument.SpellsContent levels json) : json.isSound levels := by
  cases argument with
  | scalar value => exact Value.isSound_of_ofJson? spelled
  | sequence items =>
    -- A list of values is the array value with these items.
    cases json with
    | array trees =>
      have array : Value.ofJson? levels (.array trees) = some (.array items) := by
        rw [Value.ofJson?_array]
        exact congrArg (Option.map Value.array) spelled
      exact Value.isSound_of_ofJson? array
    | _ => cases spelled
  | geoPoint point => exact isSound_of_doubleFields spelled
  | geoRange range => exact isSound_of_doubleFields spelled

theorem Argument.ofContent?_of_spells {argument : Argument}
    (spelled : argument.SpellsContent levels json) :
    Argument.ofContent? levels argument.shape json = some argument := by
  cases argument with
  | scalar value => exact congrArg (Option.map scalar) spelled
  | sequence items => exact congrArg (Option.map sequence) spelled
  | geoPoint point => exact congrArg (Option.map geoPoint) (Point.ofJson?_of_spells spelled)
  | geoRange range => exact congrArg (Option.map geoRange) (Range.ofJson?_of_spells spelled)

theorem Argument.ofJson?_of_spells {argument : Argument} (spelled : argument.Spells levels json) :
    Argument.ofJson? levels json = some argument := by
  obtain ⟨inner, values, entered, found, admitted⟩ := spelled.exists_fields? fun _ => by
    simp [Argument.fields, FieldSpelling.required]
  obtain _ | ⟨tag, _ | ⟨content, _ | _⟩⟩ := admitted
  have names : fields? ["t", "v"] json = _ := found
  cases tag with
  | leftOut none => exact none.elim
  | given named =>
    cases content with
    | leftOut none => exact none.elim
    | @given content spelled =>
      have sound : content.isSound inner := Argument.isSound_of_spellsContent spelled
      have shape : asName? inner Shape.ofTag? _ = some argument.shape := named
      rw [Argument.ofJson?]
      simp [entered, names, shape, sound, Argument.ofContent?_of_spells spelled]

end

/-- Every text that spells a value is read as this value, and an object that gives one of the names
twice is not read, be it the whole text or a part of it. -/
structure DecodesSpellings {α : Type} (read : (levels : Nat) → Json → Option α)
    (spells : (levels : Nat) → α → Json → Prop) (names : List String) : Prop where
  decodes : ∀ {text : String} {json : Json} {value : α}, Json.parse? text = some json →
    spells nestingLimit value json → decode? read text = some value
  refuses : ∀ {text : String} {members : List (Json.Text × Json)} {name : String},
    Json.parse? text = some (.object members) → name ∈ names →
    2 ≤ (members.filter (·.1 = some name)).length → decode? read text = none
  refusesInside : ∀ {levels : Nat} {members : List (Json.Text × Json)} {name : String},
    name ∈ names → 2 ≤ (members.filter (·.1 = some name)).length →
    read levels (.object members) = none

theorem DecodesSpellings.of_read {α : Type} {read : Nat → Json → Option α}
    {spells : Nat → α → Json → Prop} {names : List String}
    (reads : ∀ {json value}, spells nestingLimit value json → read nestingLimit json = some value)
    (refuses : ∀ {levels json}, fields? names json = none → read levels json = none) :
    DecodesSpellings read spells names where
  decodes parsed spelled := by
    rw [decode?, parsed]
    exact reads spelled
  refuses parsed known repeated := by
    rw [decode?, parsed]
    exact refuses (Json.fields?_eq_none_of_repeated known repeated)
  refusesInside known repeated := refuses (Json.fields?_eq_none_of_repeated known repeated)

/-- The order of the members, members with other names, fields left out and the array form make no
difference to any kind of record, and a field given twice is refused. -/
theorem records_decode_spellings :
    DecodesSpellings PartTree.ofJson? PartTree.Spells
        ["groups", "distinct", "count_projection", "delete", "max_results"] ∧
      DecodesSpellings Part.ofJson? Part.Spells ["property", "operator", "ignore_case"] ∧
      DecodesSpellings SortKey.ofJson? SortKey.Spells ["property", "direction"] ∧
      DecodesSpellings Point.ofJson? Point.Spells ["x", "y"] ∧
      DecodesSpellings Range.ofJson? Range.Spells ["lower", "upper"] ∧
      DecodesSpellings Argument.ofJson? Argument.Spells ["t", "v"] := by
  refine ⟨.of_read PartTree.ofJson?_of_spells ?_, .of_read Part.ofJson?_of_spells ?_,
    .of_read SortKey.ofJson?_of_spells ?_, .of_read Point.ofJson?_of_spells ?_,
    .of_read Range.ofJson?_of_spells ?_, .of_read Argument.ofJson?_of_spells ?_⟩
  · intro levels json repeated
    simp [PartTree.ofJson?, repeated]
  · intro levels json repeated
    simp [Part.ofJson?, repeated]
  · intro levels json repeated
    simp [SortKey.ofJson?, repeated]
  · intro levels json repeated
    simp [Point.ofJson?, ofDoubles?, repeated]
  · intro levels json repeated
    simp [Range.ofJson?, ofDoubles?, repeated]
  · intro levels json repeated
    simp [Argument.ofJson?, repeated]

/-- A tree with its members in reverse behind an unknown one, and with a part written as an array
without its default. A point that gives a coordinate twice is refused. -/
theorem records_decode_spellings_reversed :
    decode? PartTree.ofJson?
        ("\x7b\"zone\":[1.5,null],\"delete\":true," ++
          "\"groups\":[[[\"address.city\",\"near\"]]]\x7d") =
      some { groups := [[⟨⟨["address", "city"]⟩, .near, .never⟩]], delete := true } ∧
    decode? Point.ofJson? "\x7b\"x\":1,\"y\":2,\"x\":1\x7d" = none := by
  have path : PropertyPath.ofJson? (.string (some "address.city")) =
      some ⟨["address", "city"]⟩ := by decide
  have part : Part.Spells 124 ⟨⟨["address", "city"]⟩, .near, .never⟩
      (.array [.string (some "address.city"), .string (some "near")]) :=
    .positions 1 (.cons (.given path) (.cons (.given (Operator.ofName?_name .near))
      (.cons (.leftOut rfl) .nil)))
  have groups := SpellsList.items (.cons (SpellsList.items (.cons part .nil)) .nil)
  have spelled : PartTree.Spells nestingLimit
      { groups := [[⟨⟨["address", "city"]⟩, .near, .never⟩]], delete := true }
      (.record [("zone", .array [.number ⟨false, ['1'], ['5'], none⟩, .null]),
        ("delete", .bool true),
        ("groups", .array [.array [.array [.string (some "address.city"),
          .string (some "near")]]])]) := by
    refine .members [some _, none, none, some (.bool true), none]
      [("zone", .array [.number ⟨false, ['1'], ['5'], none⟩, .null])]
      (.cons (.given groups) (.cons (.leftOut rfl) (.cons (.leftOut rfl)
        (.cons (.given rfl) (.cons (.leftOut rfl) .nil))))) ?_ ?_
      (List.reverse_perm [("groups", _), ("delete", _), ("zone", _)])
    · simp [PartTree.fields]
    · rw [List.forall_mem_singleton]
      decide +kernel
  have twice : Json.parse? "\x7b\"x\":1,\"y\":2,\"x\":1\x7d" =
      some (.object [(some "x", .ofNat 1), (some "y", .ofNat 2), (some "x", .ofNat 1)]) :=
    Json.parse?_of_lex? (by decide +kernel)
  have known : "x" ∈ ["x", "y"] := List.mem_cons_self
  constructor
  · exact records_decode_spellings.1.decodes (Json.parse?_of_lex? (by decide +kernel)) spelled
  · exact records_decode_spellings.2.2.2.1.refuses twice known (by simp)

end FinderQuery

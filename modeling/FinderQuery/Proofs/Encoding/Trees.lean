import FinderQuery.Proofs.Encoding.Values

namespace FinderQuery

open Json (SpellsRecord SpellsList asString? asUInt64? asList? orNull decode? nestingLimit)

theorem not_mem_of_mem_splitOn {char : Char} {text piece : List Char}
    (listed : piece ∈ text.splitOn char) : char ∉ piece := by
  induction text generalizing piece with
  | nil => simp_all [List.splitOn_nil]
  | cons first rest ih =>
    rw [List.splitOn_cons_eq_if_modifyHead] at listed
    by_cases same : first = char
    · simp only [same, BEq.rfl, if_true, List.mem_cons] at listed
      rcases listed with rfl | later
      · exact List.not_mem_nil
      · exact ih later
    · cases pieces : rest.splitOn char with
      | nil => simp [pieces, same] at listed
      | cons head others =>
        simp only [pieces, beq_iff_eq, if_neg same, List.modifyHead_cons, List.mem_cons] at listed
        rcases listed with rfl | later
        · simp [Ne.symm same, ih (pieces ▸ List.mem_cons_self)]
        · exact ih (pieces ▸ List.mem_cons_of_mem _ later)

namespace PropertyPath

/-- The names can be told apart when they are joined by dots. -/
def IsCanonical (path : PropertyPath) : Prop :=
  ∀ segment ∈ path.segments, segment ≠ "" ∧ '.' ∉ segment.toList

instance (path : PropertyPath) : Decidable path.IsCanonical :=
  inferInstanceAs (Decidable (∀ segment ∈ path.segments, segment ≠ "" ∧ '.' ∉ segment.toList))

theorem isCanonical_parse (dotted : String) : (parse dotted).IsCanonical := by
  intro segment listed
  obtain ⟨piece, found, rfl⟩ := List.mem_map.mp listed
  rw [List.mem_filter] at found
  rw [String.toList_ofList]
  constructor
  · rintro empty
    have nothing : piece = [] := String.ofList_eq_empty_iff.mp empty
    simp [nothing] at found
  · exact not_mem_of_mem_splitOn found.1

theorem parse_display {path : PropertyPath} (canonical : path.IsCanonical) :
    parse path.display = path := by
  obtain ⟨segments⟩ := path
  by_cases none : segments = []
  · rw [none]
    rfl
  · have apart : ∀ piece ∈ segments.map String.toList, '.' ∉ piece := by
      rw [List.forall_mem_map]
      exact fun segment listed => (canonical segment listed).2
    have filled : ∀ piece ∈ segments.map String.toList, (! piece.isEmpty) = true := by
      rw [List.forall_mem_map]
      intro segment listed
      simpa using (canonical segment listed).1
    have split : (display ⟨segments⟩).toList.splitOn '.' = segments.map String.toList := by
      rw [display, String.toList_intercalate]
      exact List.splitOn_intercalate '.' apart (by simpa using none)
    rw [parse, split, List.filter_eq_self.mpr filled, List.map_map]
    simp [Function.comp_def]

end PropertyPath

theorem PropertyPath.isCanonical_of_ofJson? {json : Json} {path : PropertyPath}
    (read : PropertyPath.ofJson? json = some path) : path.IsCanonical := by
  obtain ⟨dotted, -, rfl⟩ := Option.map_eq_some_iff.mp read
  exact isCanonical_parse dotted

theorem PropertyPath.ofJson?_toJson {path : PropertyPath} (canonical : path.IsCanonical) :
    PropertyPath.ofJson? path.toJson = some path :=
  congrArg some (parse_display canonical)

theorem Json.orNull_asUInt64?_ofNat (count : UInt64) :
    orNull asUInt64? (.ofNat count.toNat) = some (some count) := by
  have fits : count.toNat < UInt64.size := count.toNat_lt
  simp [orNull, Json.ofNat, asUInt64?, Number.ofNumeral?_ofNat fits]

theorem Part.wellFormed_toJson (part : Part) : part.toJson.WellFormed := by
  simp [Part.toJson, Json.wellFormed_record, PropertyPath.toJson, Operator.toJson,
    CaseRequest.toJson, Json.wellFormed_string]

theorem Part.spells_toJson {part : Part} (canonical : part.property.IsCanonical) (levels : Nat) :
    part.Spells (levels + 1) part.toJson := by
  have operator : Operator.ofJson? levels part.operator.toJson = some part.operator :=
    Operator.ofName?_name _
  have caseRequest : CaseRequest.ofJson? levels part.caseRequest.toJson = some part.caseRequest :=
    CaseRequest.ofName?_name _
  exact SpellsRecord.record part.fields
    (.cons (PropertyPath.ofJson?_toJson canonical) (.cons operator (.cons caseRequest .nil)))

namespace PartTree

def IsCanonical (tree : PartTree) : Prop := ∀ part ∈ tree.parts, part.property.IsCanonical

instance (tree : PartTree) : Decidable tree.IsCanonical :=
  inferInstanceAs (Decidable (∀ part ∈ tree.parts, part.property.IsCanonical))

theorem wellFormed_toJson (tree : PartTree) : tree.toJson.WellFormed := by
  have groups : (Json.array (tree.groups.map fun group =>
      .array (group.map Part.toJson))).WellFormed := by
    simp only [Json.wellFormed_array, List.forall_mem_map]
    exact fun _ _ part _ => part.wellFormed_toJson
  have limit :
      ((tree.maxResults.map fun count => Json.ofNat count.toNat).getD .null).WellFormed := by
    cases tree.maxResults with
    | none => exact Json.wellFormed_null
    | some count => exact Json.wellFormed_number.mpr (Numeral.wellFormed_ofNat _)
  simp [toJson, Json.wellFormed_record, groups, limit, Json.wellFormed_bool]

theorem spells_toJson {tree : PartTree} (canonical : tree.IsCanonical) (levels : Nat) :
    tree.Spells (levels + 4) tree.toJson := by
  have groups : SpellsList (SpellsList Part.Spells) (levels + 3) tree.groups
      (.array (tree.groups.map fun group => .array (group.map Part.toJson))) := by
    refine .items (List.forall₂_map_right_iff.mpr (List.forall₂_same.mpr fun group listed => ?_))
    refine .items (List.forall₂_map_right_iff.mpr (List.forall₂_same.mpr fun part inside => ?_))
    exact Part.spells_toJson (canonical part (List.mem_flatten_of_mem listed inside)) levels
  have limit : orNull asUInt64?
      ((tree.maxResults.map fun count => Json.ofNat count.toNat).getD .null) =
        some tree.maxResults := by
    cases tree.maxResults with
    | none => rfl
    | some count => exact Json.orNull_asUInt64?_ofNat count
  exact SpellsRecord.record tree.fields
    (.cons groups (.cons rfl (.cons rfl (.cons rfl (.cons limit .nil)))))

end PartTree

theorem Sorting.wellFormed_toJson (sorting : Sorting) : sorting.toJson.WellFormed := by
  rw [Sorting.toJson, Json.wellFormed_array, List.forall_mem_map]
  intro key _
  simp [SortKey.toJson, Json.wellFormed_record, Direction.toJson, Json.wellFormed_string]

theorem Sorting.spells_toJson (sorting : Sorting) (levels : Nat) :
    sorting.Spells (levels + 2) sorting.toJson := by
  refine .items (List.forall₂_map_right_iff.mpr (List.forall₂_same.mpr fun key _ => ?_))
  have direction : Direction.ofJson? levels key.direction.toJson = some key.direction :=
    Direction.ofName?_keyword _
  have property : asString? (.string (some key.property)) = some key.property := rfl
  exact SpellsRecord.record key.fields (.cons property (.cons direction .nil))

theorem Json.exists_of_mem_asList? {α : Type} {read : Nat → Json → Option α} {levels : Nat}
    {json : Json} {values : List α} (found : asList? levels read json = some values) {value : α}
    (listed : value ∈ values) : ∃ inner item, read inner item = some value := by
  cases json with
  | array items =>
    obtain ⟨inner, -, each⟩ := Option.bind_eq_some_iff.mp found
    obtain ⟨item, -, same⟩ := exists_of_mem_right (mapM_eq_some_iff.mp each) listed
    exact ⟨inner, item, same⟩
  | _ => cases found

theorem Part.isCanonical_of_ofJson? {levels : Nat} {json : Json} {part : Part}
    (read : Part.ofJson? levels json = some part) : part.property.IsCanonical := by
  simp only [Part.ofJson?, Option.bind_eq_bind, Option.bind_eq_some_iff] at read
  obtain ⟨inner, -, values, -, rest⟩ := read
  split at rest
  · simp only [Option.bind_eq_some_iff, Option.some.injEq] at rest
    obtain ⟨property, given, operator, -, caseRequest, -, rfl⟩ := rest
    obtain ⟨tree, -, named⟩ := Option.bind_eq_some_iff.mp given
    exact PropertyPath.isCanonical_of_ofJson? named
  · cases rest

theorem PartTree.isCanonical_of_ofJson? {levels : Nat} {json : Json} {tree : PartTree}
    (read : PartTree.ofJson? levels json = some tree) : tree.IsCanonical := by
  simp only [PartTree.ofJson?, Option.bind_eq_bind, Option.bind_eq_some_iff] at read
  obtain ⟨inner, -, values, -, rest⟩ := read
  split at rest
  next given _ _ _ _ =>
    simp only [Option.bind_eq_some_iff, Option.some.injEq] at rest
    obtain ⟨groups, found, _, -, _, -, _, -, _, -, rfl⟩ := rest
    intro part listed
    obtain ⟨group, inGroups, inGroup⟩ := List.mem_flatten.mp listed
    cases given with
    | none =>
      cases found
      cases inGroups
    | some array =>
      obtain ⟨_, row, rowRead⟩ := Json.exists_of_mem_asList? found inGroups
      obtain ⟨_, item, itemRead⟩ := Json.exists_of_mem_asList? rowRead inGroup
      exact Part.isCanonical_of_ofJson? itemRead
  · cases rest

theorem PartTree.decode?_compact {tree : PartTree} (canonical : tree.IsCanonical) :
    decode? PartTree.ofJson? tree.toJson.compact = some tree :=
  FinderQuery.decode?_compact tree.wellFormed_toJson
    (PartTree.ofJson?_of_spells (PartTree.spells_toJson canonical 123))

theorem Sorting.decode?_compact (sorting : Sorting) :
    decode? Sorting.ofJson? sorting.toJson.compact = some sorting :=
  FinderQuery.decode?_compact sorting.wellFormed_toJson
    (Sorting.ofJson?_of_spells (sorting.spells_toJson 125))

/-- The text of a tree with canonical paths, and of any sort, is read as the same. A text that was
read need not be the one that is written, but is from then on. -/
theorem trees_survive_encoding :
    (∀ tree : PartTree, tree.IsCanonical →
      decode? PartTree.ofJson? tree.toJson.compact = some tree) ∧
    (∀ sorting : Sorting, decode? Sorting.ofJson? sorting.toJson.compact = some sorting) ∧
    (∀ (text : String) (tree : PartTree), decode? PartTree.ofJson? text = some tree →
      ∃ again, decode? PartTree.ofJson? tree.toJson.compact = some again ∧ again = tree ∧
        again.toJson.compact = tree.toJson.compact) ∧
    ∀ (text : String) (sorting : Sorting), decode? Sorting.ofJson? text = some sorting →
      ∃ again, decode? Sorting.ofJson? sorting.toJson.compact = some again ∧ again = sorting ∧
        again.toJson.compact = sorting.toJson.compact := by
  refine ⟨fun tree => PartTree.decode?_compact, Sorting.decode?_compact, ?_, ?_⟩
  · intro text tree read
    obtain ⟨json, -, found⟩ := Option.bind_eq_some_iff.mp read
    have canonical := PartTree.isCanonical_of_ofJson? found
    exact ⟨tree, PartTree.decode?_compact canonical, rfl, rfl⟩
  · intro text sorting _
    exact ⟨sorting, sorting.decode?_compact, rfl, rfl⟩

theorem trees_survive_encoding_at_limits :
    decode? PartTree.ofJson?
        (PartTree.toJson ⟨[[⟨⟨["address", "city"]⟩, .near, .always⟩], []], true, false, true,
          some 18446744073709551615⟩).compact =
      some ⟨[[⟨⟨["address", "city"]⟩, .near, .always⟩], []], true, false, true,
        some 18446744073709551615⟩ ∧
    ∃ again, decode? PartTree.ofJson?
        (PartTree.toJson { groups := [[⟨⟨["a", "b"]⟩, .like, .never⟩]] }).compact = some again ∧
      again = { groups := [[⟨⟨["a", "b"]⟩, .like, .never⟩]] } ∧ again.toJson.compact =
        (PartTree.toJson { groups := [[⟨⟨["a", "b"]⟩, .like, .never⟩]] }).compact := by
  constructor
  · exact trees_survive_encoding.1 _ (by decide)
  · exact trees_survive_encoding.2.2.1 "\x7b\"groups\":[[[\"..a..b.\",\"like\"]]]\x7d" _
      (by decide +kernel)

end FinderQuery

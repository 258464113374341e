import FinderQuery.Proofs.Encoding.Spellings
import FinderQuery.Proofs.Json.Numerals

namespace FinderQuery

open Json (SpellsRecord FieldSpelling asList? asBinary64? decode? nestingLimit)

namespace Value

mutual

def floats : Value → List Binary64
  | float x => [x]
  | array items => floatsOfAll items
  | _ => []

def floatsOfAll : List Value → List Binary64
  | [] => []
  | item :: items => floats item ++ floatsOfAll items

end

@[simp] theorem floatsOfAll_eq_flatMap (items : List Value) :
    floatsOfAll items = items.flatMap floats := by
  induction items with
  | nil => rfl
  | cons item items ih => rw [floatsOfAll, ih, List.flatMap_cons]

mutual

def nonFiniteToNull : Value → Value
  | float x => if x.isFinite then float x else null
  | array items => array (allNonFiniteToNull items)
  | value => value

def allNonFiniteToNull : List Value → List Value
  | [] => []
  | item :: items => nonFiniteToNull item :: allNonFiniteToNull items

end

@[simp] theorem allNonFiniteToNull_eq_map (items : List Value) :
    allNonFiniteToNull items = items.map nonFiniteToNull := by
  induction items with
  | nil => rfl
  | cons item items ih => rw [allNonFiniteToNull, ih, List.map_cons]

theorem nonFiniteToNull_eq_self {value : Value} (finite : ∀ x ∈ value.floats, x.isFinite) :
    value.nonFiniteToNull = value := by
  induction value using induction with
  | float x => rw [nonFiniteToNull, if_pos (finite x (by simp [floats]))]
  | array items ih =>
    rw [floats, floatsOfAll_eq_flatMap, List.forall_mem_flatMap] at finite
    rw [nonFiniteToNull, allNonFiniteToNull_eq_map,
      List.map_congr_left fun item listed => ih item listed (finite item listed), List.map_id']
  | _ => rw [nonFiniteToNull]; all_goals nofun

end Value

namespace Json

variable {x : Binary64} {levels : Nat}

theorem wellFormed_ofBinary64 (x : Binary64) : (ofBinary64 x).WellFormed := by
  rw [ofBinary64]
  split
  next n found => exact wellFormed_number.mpr (Binary64.wellFormed_numeral? found)
  next => exact wellFormed_null

theorem asBinary64?_ofBinary64 (finite : x.isFinite) (back : x.ReadsBack) :
    asBinary64? (ofBinary64 x) = some x := by
  obtain ⟨n, found⟩ := Binary64.exists_numeral?_iff.mpr finite
  rw [ofBinary64, found]
  exact congrArg (Option.map Number.toBinary64) (back.ofNumeral? found)

end Json

theorem Value.ofJson?_ofBinary64 {x : Binary64} (back : x.ReadsBack) (levels : Nat) :
    Value.ofJson? levels (.ofBinary64 x) = some (if x.isFinite then .float x else .null) := by
  rw [Json.ofBinary64]
  split
  next n found =>
    have finite := Binary64.exists_numeral?_iff.mp ⟨n, found⟩
    rw [Value.ofJson?, back.ofNumeral? found, Option.map_some, Value.ofNumber, if_pos finite]
  next absent =>
    have infinite : ¬ x.isFinite := by
      rw [← Binary64.exists_numeral?_iff, absent]
      simp
    rw [Value.ofJson?, if_neg infinite]

theorem Value.ofJson?_ofInt (value : Int64) (levels : Nat) :
    Value.ofJson? levels (.ofInt value.toInt) = some (.int value) := by
  have low : -(Numeral.signedBound : Int) ≤ value.toInt := value.le_toInt
  have high : value.toInt < Numeral.signedBound := value.toInt_lt
  rw [Json.ofInt, Value.ofJson?, Json.Number.ofNumeral?_ofInt low high, Option.map_some,
    Value.ofNumber, if_pos high, Int64.ofInt_toInt]

theorem Value.wellFormed_toJson (value : Value) : value.toJson.WellFormed := by
  induction value using Value.induction with
  | int value => exact Json.wellFormed_number.mpr (Numeral.wellFormed_ofInt _)
  | float x => exact Json.wellFormed_ofBinary64 x
  | array items ih =>
    rw [Value.toJson, Value.listToJson_eq_map, Json.wellFormed_array, List.forall_mem_map]
    exact ih
  | null => exact Json.wellFormed_null
  | bool value => exact Json.wellFormed_bool value
  | string text => exact Json.wellFormed_string text

theorem Value.ofJson?_toJson {value : Value} {levels : Nat} (shallow : value.toJson.depth ≤ levels)
    (back : ∀ x ∈ value.floats, x.ReadsBack) :
    Value.ofJson? levels value.toJson = some value.nonFiniteToNull := by
  -- The items of an array have one level less, so the induction is over all levels at once.
  induction value using Value.induction generalizing levels with
  | int value => exact Value.ofJson?_ofInt value levels
  | float x => exact Value.ofJson?_ofBinary64 (back x (by simp [floats])) levels
  | array items ih =>
    rw [Value.toJson, Value.listToJson_eq_map, Json.depth_array_le] at shallow
    obtain ⟨inner, rfl, each⟩ := shallow
    rw [floats, floatsOfAll_eq_flatMap, List.forall_mem_flatMap] at back
    have read : (items.map Value.toJson).mapM (Value.ofJson? inner) =
        some (items.map nonFiniteToNull) := by
      rw [Json.mapM_eq_some_iff, List.forall₂_map_left_iff, List.forall₂_map_right_iff,
        List.forall₂_same]
      intro item listed
      exact ih item listed (each _ (List.mem_map_of_mem listed)) (back item listed)
    rw [Value.toJson, Value.listToJson_eq_map, Value.ofJson?, read, nonFiniteToNull,
      allNonFiniteToNull_eq_map, Option.map_some]
  | _ => rw [Value.toJson, Value.ofJson?]; rfl

theorem Value.ofJson?_toJson_of_finite {value : Value} {levels : Nat}
    (shallow : value.toJson.depth ≤ levels)
    (floats : ∀ x ∈ value.floats, x.isFinite ∧ x.ReadsBack) :
    Value.ofJson? levels value.toJson = some value := by
  rw [ofJson?_toJson shallow fun x listed => (floats x listed).2,
    nonFiniteToNull_eq_self fun x listed => (floats x listed).1]

namespace Json

theorem wellFormed_record {members : List (String × Json)} :
    (record members).WellFormed ↔ ∀ member ∈ members, member.2.WellFormed := by
  rw [record, wellFormed_object, List.forall_mem_map]
  simp

theorem depth_record_le {levels : Nat} {members : List (String × Json)} :
    (record members).depth ≤ levels ↔
      ∃ inner, levels = inner + 1 ∧ ∀ member ∈ members, member.2.depth ≤ inner := by
  simp only [record, depth_object_le, List.forall_mem_map]

end Json

theorem spellsRecord_doubles {first second : String} {x y : Binary64}
    (floats : ∀ z ∈ [x, y], z.isFinite ∧ z.ReadsBack) {levels : Nat}
    (shallow : (Json.record [(first, .ofBinary64 x), (second, .ofBinary64 y)]).depth ≤ levels) :
    SpellsRecord (fun _ => doubleFields first second x y) levels
      (.record [(first, .ofBinary64 x), (second, .ofBinary64 y)]) := by
  obtain ⟨inner, rfl, -⟩ := Json.depth_record_le.mp shallow
  have readX := floats x (by simp)
  have readY := floats y (by simp)
  exact SpellsRecord.record (fun _ => doubleFields first second x y)
    (.cons (Json.asBinary64?_ofBinary64 readX.1 readX.2)
      (.cons (Json.asBinary64?_ofBinary64 readY.1 readY.2) .nil))

namespace Argument

def floats : Argument → List Binary64
  | scalar value => value.floats
  | sequence items => items.flatMap Value.floats
  | geoPoint point => [point.x, point.y]
  | geoRange range => [range.lower, range.upper]

variable {argument : Argument} {levels : Nat}

theorem wellFormed_toJson (argument : Argument) : argument.toJson.WellFormed := by
  have content : argument.contentToJson.WellFormed := by
    cases argument with
    | scalar value => exact value.wellFormed_toJson
    | sequence items =>
      rw [contentToJson, Json.wellFormed_array, List.forall_mem_map]
      exact fun item _ => item.wellFormed_toJson
    | geoPoint point =>
      simp [contentToJson, Point.toJson, Json.wellFormed_record, Json.wellFormed_ofBinary64]
    | geoRange range =>
      simp [contentToJson, Range.toJson, Json.wellFormed_record, Json.wellFormed_ofBinary64]
  simp [toJson, Json.wellFormed_record, Json.wellFormed_string, content]

theorem spellsContent_contentToJson (shallow : argument.contentToJson.depth ≤ levels)
    (floats : ∀ x ∈ argument.floats, x.isFinite ∧ x.ReadsBack) :
    argument.SpellsContent levels argument.contentToJson := by
  cases argument with
  | scalar value => exact Value.ofJson?_toJson_of_finite shallow floats
  | sequence items =>
    -- The content is the text of the array value with the same items.
    have shape : (Value.array items).toJson = .array (items.map Value.toJson) := by
      rw [Value.toJson, Value.listToJson_eq_map]
    have read : Value.ofJson? levels (Value.array items).toJson = some (.array items) := by
      refine Value.ofJson?_toJson_of_finite ?_ ?_
      · rw [shape]
        exact shallow
      · rw [Value.floats, Value.floatsOfAll_eq_flatMap]
        exact floats
    rw [shape, Value.ofJson?_array, Option.map_eq_some_iff] at read
    obtain ⟨values, found, same⟩ := read
    cases same
    exact found
  | geoPoint point => exact spellsRecord_doubles floats shallow
  | geoRange range => exact spellsRecord_doubles floats shallow

theorem spells_toJson (shallow : argument.toJson.depth ≤ levels)
    (floats : ∀ x ∈ argument.floats, x.isFinite ∧ x.ReadsBack) :
    argument.Spells levels argument.toJson := by
  obtain ⟨inner, rfl, each⟩ := Json.depth_record_le.mp shallow
  have tag : Json.asName? inner Shape.ofTag? (.string (some argument.shape.tag)) =
      some argument.shape := by
    cases argument <;> rfl
  have content : argument.SpellsContent inner argument.contentToJson :=
    spellsContent_contentToJson (each ("v", argument.contentToJson) (by simp)) floats
  exact SpellsRecord.record argument.fields (.cons tag (.cons content .nil))

end Argument

theorem decode?_compact {α : Type} {read : Nat → Json → Option α} {json : Json} {value : α}
    (wellFormed : json.WellFormed) (found : read nestingLimit json = some value) :
    decode? read json.compact = some value := by
  rw [decode?, Json.parse?_compact wellFormed]
  exact found

/-- The text of a value or argument within the nesting limit is read as the same, but for doubles
that are not finite, provided that each double's own text is read as this double. -/
theorem values_survive_encoding :
    (∀ value : Value, value.toJson.depth ≤ nestingLimit → (∀ x ∈ value.floats, x.ReadsBack) →
      decode? Value.ofJson? value.toJson.compact = some value.nonFiniteToNull) ∧
    ∀ argument : Argument, argument.toJson.depth ≤ nestingLimit →
      (∀ x ∈ argument.floats, x.isFinite ∧ x.ReadsBack) →
      decode? Argument.ofJson? argument.toJson.compact = some argument := by
  constructor
  · intro value shallow back
    exact decode?_compact value.wellFormed_toJson (Value.ofJson?_toJson shallow back)
  · intro argument shallow floats
    exact decode?_compact argument.wellFormed_toJson
      (Argument.ofJson?_of_spells (Argument.spells_toJson shallow floats))

/-- An integer and the double equal to it stay apart, as do the two zeros; what is not a number is
null. -/
theorem values_survive_encoding_mixed :
    decode? Value.ofJson? (Value.array [.int 1, .float (.finite false .one),
        .array [.float (.finite true .zero), .int (-9223372036854775808)], .float .nan,
        .string "\"\n\u00e9"]).toJson.compact =
      some (.array [.int 1, .float (.finite false .one),
        .array [.float (.finite true .zero), .int (-9223372036854775808)], .null,
        .string "\"\n\u00e9"]) ∧
    decode? Argument.ofJson?
        (Argument.geoRange ⟨.finite false .zero, .finite false .one⟩).toJson.compact =
      some (.geoRange ⟨.finite false .zero, .finite false .one⟩) := by
  have one : (Binary64.finite false .one).ReadsBack := by decide +kernel
  have zero : (Binary64.finite false .zero).ReadsBack := by decide +kernel
  have negativeZero : (Binary64.finite true .zero).ReadsBack := by decide +kernel
  have nan : Binary64.nan.ReadsBack := by decide +kernel
  constructor
  · refine values_survive_encoding.1 _ (by decide +kernel) ?_
    simp [Value.floats, one, negativeZero, nan]
  · refine values_survive_encoding.2 _ (by decide +kernel) ?_
    simp [Argument.floats, one, zero, Binary64.isFinite]

end FinderQuery

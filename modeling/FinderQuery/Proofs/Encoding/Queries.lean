import FinderQuery.Cli.Report
import FinderQuery.Proofs.BinderRuns
import FinderQuery.Proofs.Closed
import FinderQuery.Proofs.Encoding.Values
import Mathlib.Data.List.Nodup

namespace FinderQuery

open Json (nestingLimit)

namespace CompiledQuery

/-- A tree within the nesting limit that holds the text of a query and its variables, each under its
number and in the order of the numbers. -/
structure IsHeldBy (query : CompiledQuery) (json : Json) (vars : List (Json.Text × Json)) :
    Prop where
  shape : json =
    .object [(some "query", .string (some query.text)), (some "bind_vars", .object vars)]
  sound : json.isSound nestingLimit
  numbered : vars.map Prod.fst =
    (List.range query.bindVars.size).map fun key => some (keyText key)
  distinct : (vars.map Prod.fst).Nodup
  values : List.Forall₂ (fun var value => Value.ofJson? nestingLimit var.2 = some value) vars
    query.bindVars.values

def IsCarriedBy (query : CompiledQuery) (text : String) : Prop :=
  ∃ json vars, Json.parse? text = some json ∧ query.IsHeldBy json vars

end CompiledQuery

theorem Json.isSound_record {levels : Nat} {members : List (String × Json)} :
    (record members).isSound (levels + 1) ↔ ∀ member ∈ members, member.2.isSound levels := by
  simp [record, isSound]

theorem BindVars.toJson_eq (vars : BindVars) :
    vars.toJson = .object (vars.entries.map fun (name, value) => (some name, value.toJson)) := by
  rw [toJson, Json.record, List.map_map]
  rfl

theorem BindVars.depth_toJson_le {vars : BindVars} {levels : Nat} :
    vars.toJson.depth ≤ levels ↔
      ∃ inner, levels = inner + 1 ∧ ∀ value ∈ vars.values, value.toJson.depth ≤ inner := by
  simp only [toJson, Json.depth_record_le, values, List.forall_mem_map]

theorem nodup_map_keyText (count : Nat) :
    ((List.range count).map fun key => some (keyText key)).Nodup := by
  refine List.Nodup.map (fun first second same => ?_) List.nodup_range
  exact keyText_injective (congrArg String.toList (Option.some.inj same))

namespace CompiledQuery

variable {query : CompiledQuery}

theorem wellFormed_toJson (query : CompiledQuery) : query.toJson.WellFormed := by
  have vars : query.bindVars.toJson.WellFormed := by
    rw [BindVars.toJson, Json.wellFormed_record, List.forall_mem_map]
    exact fun entry _ => entry.2.wellFormed_toJson
  simp [toJson, Json.wellFormed_record, Json.wellFormed_string, vars]

theorem isHeldBy_toJson
    (keys : query.bindVars.keys = (List.range query.bindVars.size).map keyText)
    (floats : ∀ value ∈ query.bindVars.values, ∀ x ∈ value.floats, x.isFinite ∧ x.ReadsBack)
    (shallow : query.toJson.depth ≤ nestingLimit) :
    query.IsHeldBy query.toJson
      (query.bindVars.entries.map fun (name, value) => (some name, value.toJson)) := by
  obtain ⟨outer, limit, each⟩ := Json.depth_record_le.mp shallow
  obtain ⟨inner, rfl, within⟩ := BindVars.depth_toJson_le.mp
    (each ("bind_vars", query.bindVars.toJson) (by simp))
  have read : ∀ levels, inner ≤ levels → ∀ value ∈ query.bindVars.values,
      Value.ofJson? levels value.toJson = some value := fun levels enough value listed =>
    Value.ofJson?_toJson_of_finite (Nat.le_trans (within value listed) enough)
      (floats value listed)
  have numbered : (query.bindVars.entries.map fun (name, value) =>
      ((some name : Json.Text), value.toJson)).map Prod.fst =
        (List.range query.bindVars.size).map fun key => some (keyText key) := by
    have names := congrArg (List.map some) keys
    simp only [BindVars.keys, List.map_map] at names
    rw [List.map_map]
    exact names
  refine ⟨?_, ?_, numbered, ?_, ?_⟩
  · rw [toJson, BindVars.toJson_eq]
    rfl
  · have vars : query.bindVars.toJson.isSound (inner + 1) := by
      rw [BindVars.toJson, Json.isSound_record, List.forall_mem_map]
      intro entry listed
      exact Value.isSound_of_ofJson? (read inner (Nat.le_refl _) _ (List.mem_map_of_mem listed))
    have text : (Json.string (some query.text)).isSound (inner + 1) := by rw [Json.isSound]; rfl
    rw [limit, toJson, Json.isSound_record]
    simp [text, vars]
  · rw [numbered]
    exact nodup_map_keyText _
  · rw [BindVars.values, List.forall₂_map_left_iff, List.forall₂_map_right_iff, List.forall₂_same]
    exact fun entry listed => read nestingLimit (by omega) _ (List.mem_map_of_mem listed)

end CompiledQuery

/-- Whatever query is compiled, the compact text and the printed one carry it with its variables,
provided that the doubles among them are finite and their own texts are read as them. -/
theorem compiled_query_survives_encoding {metadata : Metadata} {entity : String} {tree : PartTree}
    {arguments : List Argument} {sorting : Option Sorting} {query : CompiledQuery}
    (compiled : (compile metadata entity tree arguments sorting).result = .ok query)
    (floats : ∀ value ∈ query.bindVars.values, ∀ x ∈ value.floats, x.isFinite ∧ x.ReadsBack)
    (shallow : query.toJson.depth ≤ nestingLimit) :
    query.IsCarriedBy query.toJson.compact ∧ query.IsCarriedBy (Cli.jsonReport query.toJson) := by
  have keys : query.bindVars.keys = (List.range query.bindVars.size).map keyText := by
    obtain ⟨_, contributions, -, -, rfl⟩ := compile_eq_ok_iff.mp compiled
    rw [BindVars.keys_ofValues, BindVars.size_ofValues]
  have held := CompiledQuery.isHeldBy_toJson keys floats shallow
  have lineEnd : ∀ c ∈ "\n".toList, Json.isBlank c := by simp [Json.isBlank]
  constructor
  · exact ⟨_, _, Json.parse?_compact query.wellFormed_toJson, held⟩
  · exact ⟨_, _, Json.parse?_pretty_append query.wellFormed_toJson lineEnd, held⟩

theorem nearQuery_survives_encoding :
    nearQuery.IsCarriedBy nearQuery.toJson.compact ∧
      nearQuery.IsCarriedBy (Cli.jsonReport nearQuery.toJson) := by
  have compiled : (compile placeCatalog "Place" { groups := [[placePart "location" .near]] }
    [.geoPoint origin] none).result = .ok nearQuery := rfl
  refine compiled_query_survives_encoding compiled ?_ (by decide +kernel)
  decide +kernel

/-- The last double before `10 ^ 15`. -/
def beforeRound : Binary64 := .finite false ⟨0x430C6BF52633FFFF, by decide⟩

example : (Json.ofBinary64 beforeRound).compact = "999999999999999.9" := by decide +kernel

theorem not_readsBack_beforeRound : ¬ beforeRound.ReadsBack := by decide +kernel

theorem Value.readsBack_of_ofJson? {x : Binary64} {levels : Nat}
    (read : Value.ofJson? levels (.ofBinary64 x) = some (.float x)) : x.ReadsBack := by
  intro n found
  have fraction := Binary64.isInteger_numeral? found
  rw [Option.mem_def] at found
  rw [Json.ofBinary64, found, Value.ofJson?] at read
  cases scaled : n.scaled? with
  | none => simp [Json.Number.ofNumeral?, fraction, scaled] at read
  | some magnitude => simpa [Json.Number.ofNumeral?, fraction, scaled, Value.ofNumber] using read

/-- The digits `9999999999999999` are rounded to a double before the point is moved, so the last
double before `10 ^ 15` is read back as `10 ^ 15`. -/
theorem not_all_compiled_queries_survive_encoding :
    ¬ ∀ (catalog : Catalog) (entity : String) (tree : PartTree) (arguments : List Argument)
      (sorting : Option Sorting) (query : CompiledQuery),
      (compile catalog entity tree arguments sorting).result = .ok query →
        (∀ value ∈ query.bindVars.values, ∀ x ∈ value.floats, x.isFinite) →
          query.toJson.depth ≤ nestingLimit →
            query.IsCarriedBy query.toJson.compact ∧
              query.IsCarriedBy (Cli.jsonReport query.toJson) := by
  intro all
  have carried := all placeCatalog "Place" { groups := [[placePart "location" .near]] }
    [.geoPoint ⟨beforeRound, beforeRound⟩] none
    ⟨nearQuery.text, .ofValues [.float beforeRound, .float beforeRound]⟩ rfl
    (by decide +kernel) (by decide +kernel)
  -- The compact text is read as the tree of the query and nothing else, so its first variable
  -- is the numeral of the double.
  obtain ⟨json, vars, parsed, held⟩ := carried.1
  rw [Json.parse?_compact (CompiledQuery.wellFormed_toJson _)] at parsed
  have shape := held.shape
  rw [← Option.some.inj parsed] at shape
  cases shape
  obtain _ | ⟨first, -⟩ := held.values
  exact not_readsBack_beforeRound (Value.readsBack_of_ofJson? first)

end FinderQuery

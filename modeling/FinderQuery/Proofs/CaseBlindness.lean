import FinderQuery.Proofs.CaseContext
import FinderQuery.Proofs.Consumption

namespace FinderQuery

namespace Argument

variable (ignoreCase : Bool)

@[simp] theorem isPoint_lowercaseIf (argument : Argument) :
    (argument.lowercaseIf ignoreCase).isPoint = argument.isPoint := by
  cases ignoreCase <;> cases argument <;> rfl

@[simp] theorem isRange_lowercaseIf (argument : Argument) :
    (argument.lowercaseIf ignoreCase).isRange = argument.isRange := by
  cases ignoreCase <;> cases argument <;> rfl

@[simp] theorem lowercaseIf_eq_geoPoint_iff {argument : Argument} {point : Point} :
    argument.lowercaseIf ignoreCase = geoPoint point ↔ argument = geoPoint point := by
  cases ignoreCase <;> cases argument <;> simp [lowercaseIf, Argument.lowercase]

@[simp] theorem lowercaseIf_eq_geoRange_iff {argument : Argument} {range : Range} :
    argument.lowercaseIf ignoreCase = geoRange range ↔ argument = geoRange range := by
  cases ignoreCase <;> cases argument <;> simp [lowercaseIf, Argument.lowercase]

theorem slotsOf_map_lowercase (arguments : List Argument) :
    slotsOf (arguments.map Argument.lowercase) = slotsOf arguments := by
  induction arguments with
  | nil => rfl
  | cons argument rest ih =>
    rw [List.map_cons, slotsOf_cons, slotsOf_cons, ih]
    exact congrArg (· + slotsOf rest) (slots_lowercaseIf true argument)

end Argument

open Argument

namespace BindRequest

variable (request : BindRequest) (ignoreCase : Bool)

theorem fault?_lowercaseIf (earlier : List Argument) (argument : Argument) :
    request.fault? (earlier.map (·.lowercaseIf ignoreCase)) (argument.lowercaseIf ignoreCase) =
      request.fault? earlier argument := by
  have last : (earlier.map (·.lowercaseIf ignoreCase)).getLast?.any isPoint =
      earlier.getLast?.any isPoint := by
    rw [List.getLast?_map]
    cases earlier.getLast? <;> simp
  have ranged : (earlier.map (·.lowercaseIf ignoreCase)).any isRange = earlier.any isRange := by
    rw [List.any_map]
    exact congrArg earlier.any (funext (isRange_lowercaseIf ignoreCase))
  rcases argument with value | items | point | range
  · cases value <;> cases ignoreCase <;> rfl
  · cases ignoreCase <;> rfl
  · cases ignoreCase <;> rfl
  · have plain : (geoRange range).lowercaseIf ignoreCase = geoRange range := by
      cases ignoreCase <;> rfl
    simp only [plain, fault?, last, ranged]

theorem firstFault?_map_lowercaseIf (earlier share : List Argument) :
    request.firstFault? (earlier.map (·.lowercaseIf ignoreCase))
        (share.map (·.lowercaseIf ignoreCase)) =
      request.firstFault? earlier share := by
  induction share generalizing earlier with
  | nil => rfl
  | cons argument rest ih =>
    have later := ih (earlier ++ [argument])
    rw [List.map_append, List.map_singleton] at later
    rw [List.map_cons, firstFault?_cons, firstFault?_cons, fault?_lowercaseIf, later]

theorem error?_map_lowercaseIf (share : List Argument) :
    request.error? (share.map (·.lowercaseIf ignoreCase)) = request.error? share := by
  have same := request.firstFault?_map_lowercaseIf ignoreCase [] share
  rw [List.map_nil] at same
  rw [error?, error?, same, List.length_map]

theorem flatMap_valuesOf (share : List Argument) :
    share.flatMap request.valuesOf =
      (share.map (·.lowercaseIf request.ignoreCase)).flatMap (Argument.values request.mode) := by
  rw [List.flatMap_map, funext request.valuesOf_eq]

end BindRequest

theorem isDonut_map_lowercaseIf (operator : Operator) (ignoreCase : Bool) (share : List Argument) :
    isDonut operator (share.map (·.lowercaseIf ignoreCase)) = isDonut operator share := by
  rw [Bool.eq_iff_iff, isDonut_iff, isDonut_iff]
  simp only [List.map_eq_cons_iff, lowercaseIf_eq_geoPoint_iff, lowercaseIf_eq_geoRange_iff,
    List.map_eq_nil_iff, exists_eq_right_right, exists_eq_right]

variable {target : Compile.Target} {first second : List Argument}

theorem Placement.offer_of_lowered {place : Placement}
    (key : place.firstKey first = place.firstKey second)
    (share : ∀ property,
      target.metadata.property target.entity place.part.property = .ok property →
        (place.share first).map (·.lowercaseIf (place.part.ignoresCase property.leaf)) =
          (place.share second).map (·.lowercaseIf (place.part.ignoresCase property.leaf))) :
    place.offer target first = place.offer target second := by
  rw [offer_eq, offer_eq]
  cases known : target.metadata.property target.entity place.part.property with
  | error error => rfl
  | ok property =>
    cases Compile.templateOf place.part.operator with
    | error error => rfl
    | ok template =>
      have lowered := share property known
      have verdict : (place.part.request property.leaf).error? (place.share first) =
          (place.part.request property.leaf).error? (place.share second) := by
        rw [← BindRequest.error?_map_lowercaseIf _ (place.part.ignoresCase property.leaf), lowered,
          BindRequest.error?_map_lowercaseIf]
      have values :
          (place.share first).flatMap (place.part.request property.leaf).valuesOf =
            (place.share second).flatMap (place.part.request property.leaf).valuesOf := by
        rw [BindRequest.flatMap_valuesOf, BindRequest.flatMap_valuesOf, Part.request_ignoreCase]
        exact congrArg _ lowered
      have donut : isDonut place.part.operator (place.share first) =
          isDonut place.part.operator (place.share second) := by
        rw [← isDonut_map_lowercaseIf _ (place.part.ignoresCase property.leaf), lowered,
          isDonut_map_lowercaseIf]
      simp only [bind, Except.bind, verdict, values, fragment, donut, key]

/-- Whether the argument at a position is consumed by a part that ignores case. -/
def IsLoweredAt (metadata : Metadata) (entity : String) (parts : List Part) (position : Nat) :
    Prop :=
  ∃ front part back, parts = front ++ part :: back ∧ arities front ≤ position ∧
    position < arities front + part.operator.arity ∧
    ∃ property, metadata.property entity part.property = .ok property ∧
      part.ignoresCase property.leaf

variable {metadata : Metadata} {entity : String}

theorem IsLoweredAt.ignoresCase {parts front back : List Part} {part : Part} {position : Nat}
    (lowered : IsLoweredAt metadata entity parts position)
    (split : parts = front ++ part :: back) (lower : arities front ≤ position)
    (upper : position < arities front + part.operator.arity) {property : Metadata.Property}
    (known : metadata.property entity part.property = .ok property) :
    part.ignoresCase property.leaf := by
  obtain ⟨otherFront, other, otherBack, otherSplit, otherLower, otherUpper, found, named,
    ignores⟩ := lowered
  rcases before_or_same_or_behind (split.symm.trans otherSplit) with before | same | behind
  · have reached := arities_le_of_prefix before
    rw [arities_append, arities_cons, arities_nil] at reached
    omega
  · obtain ⟨rfl, rfl⟩ := same
    rw [known] at named
    cases named
    exact ignores
  · have reached := arities_le_of_prefix behind
    rw [arities_append, arities_cons, arities_nil] at reached
    omega

/-- Arguments that are the same, or are the same once lowered if a part that ignores case consumes
them. -/
def AlikeFor (metadata : Metadata) (entity : String) (parts : List Part)
    (first second : List Argument) : Prop :=
  ∀ position, first[position]? = second[position]? ∨
    (IsLoweredAt metadata entity parts position ∧
      first[position]?.map Argument.lowercase = second[position]?.map Argument.lowercase)

namespace AlikeFor

variable {parts : List Part} (alike : AlikeFor metadata entity parts first second)

include alike

theorem map_lowercase : first.map Argument.lowercase = second.map Argument.lowercase := by
  refine List.ext_getElem? fun position => ?_
  rw [List.getElem?_map, List.getElem?_map]
  rcases alike position with same | ⟨-, same⟩
  · rw [same]
  · exact same

theorem slotsOf_take (count : Nat) : slotsOf (first.take count) = slotsOf (second.take count) := by
  rw [← slotsOf_map_lowercase, List.map_take, alike.map_lowercase, ← List.map_take,
    slotsOf_map_lowercase]

theorem share {front back : List Part} {part : Part} (split : parts = front ++ part :: back)
    {property : Metadata.Property}
    (known : metadata.property entity part.property = .ok property) :
    ((first.drop (arities front)).take part.operator.arity).map
        (·.lowercaseIf (part.ignoresCase property.leaf)) =
      ((second.drop (arities front)).take part.operator.arity).map
        (·.lowercaseIf (part.ignoresCase property.leaf)) := by
  refine List.ext_getElem? fun offset => ?_
  simp only [List.getElem?_map, List.getElem?_take, List.getElem?_drop]
  split
  next inside =>
    rcases alike (arities front + offset) with same | ⟨lowered, same⟩
    · rw [same]
    · have ignores := lowered.ignoresCase split (by omega) (by omega) known
      simpa only [lowercaseIf, ignores, if_true] using same
  · rfl

end AlikeFor

/-- Calls with arguments that differ in nothing but the case of those consumed by parts that ignore
case come to the same query, or fail for the same reason. -/
theorem compile_eq_of_alike {tree : PartTree} {sorting : Option Sorting}
    (alike : AlikeFor metadata entity tree.parts first second) :
    (compile metadata entity tree first sorting).result =
      (compile metadata entity tree second sorting).result := by
  refine compile_eq_of_offers fun collection place member => ?_
  obtain ⟨back, split⟩ := forall_placements_iff.mpr
    (fun front part back split => (⟨back, split⟩ : ∃ back, _ = front ++ part :: back)) place member
  exact Placement.offer_of_lowered (alike.slotsOf_take _) fun property known =>
    alike.share split known

def prefixAndNameTree : PartTree where
  groups := [[caselessNamePart .startingWith], [placePart "name" .simpleProperty]]

theorem prefix_alike_but_for_case :
    AlikeFor placeCatalog "Place" prefixAndNameTree.parts
      [scalar (.string "Ab"), scalar (.string "x")]
      [scalar (.string "aB"), scalar (.string "x")] ∧
    (compile placeCatalog "Place" prefixAndNameTree
        [scalar (.string "Ab"), scalar (.string "x")] none).result =
      (compile placeCatalog "Place" prefixAndNameTree
        [scalar (.string "aB"), scalar (.string "x")] none).result := by
  have lowered : IsLoweredAt placeCatalog "Place" prefixAndNameTree.parts 0 :=
    ⟨[], caselessNamePart .startingWith, [placePart "name" .simpleProperty], rfl, Nat.le_refl 0,
      by decide, ⟨"name", { kind := .string }⟩, rfl, rfl⟩
  have same : Text.lowercase "Ab" = Text.lowercase "aB" := by decide +kernel
  have alike : AlikeFor placeCatalog "Place" prefixAndNameTree.parts
      [scalar (.string "Ab"), scalar (.string "x")]
      [scalar (.string "aB"), scalar (.string "x")] := by
    intro position
    rcases position with _ | position
    · exact Or.inr ⟨lowered, congrArg (fun text => some (scalar (.string text))) same⟩
    · exact Or.inl rfl
  exact ⟨alike, compile_eq_of_alike alike⟩

end FinderQuery

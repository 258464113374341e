import FinderQuery.Proofs.Lowering
import FinderQuery.Proofs.LikeEscapes
import FinderQuery.Proofs.PatternVariables

namespace FinderQuery

namespace Text

theorem opensWithCased_cons (c : Char) (rest : List Char) :
    opensWithCased (c :: rest) = if isCaseIgnorable c then opensWithCased rest else isCased c := by
  unfold opensWithCased
  by_cases ignorable : isCaseIgnorable c <;> simp [ignorable]

section

variable {sign : Char} (special : isLikeSpecial sign)

include special

theorem opensWithCased_sign (rest : List Char) : opensWithCased (sign :: rest) = false := by
  have between : isCaseIgnorable sign = false ∧ isCased sign = false := by
    rcases isLikeSpecial_iff.mp special with rfl | rfl | rfl <;> decide +kernel
  simp [opensWithCased_cons, between.1, between.2]

theorem lowerAt_sign (before after : List Char) : lowerAt before sign after = [sign] := by
  rw [lowerAt_eq_self_iff]
  rcases isLikeSpecial_iff.mp special with rfl | rfl | rfl <;> decide +kernel

theorem sign_lt_letters : sign.toNat < 'a'.toNat := by
  rcases isLikeSpecial_iff.mp special with rfl | rfl | rfl <;> decide

end

theorem opensWithCased_flatMap {spell : Char → List Char}
    (each : ∀ c, spell c = [c] ∨
      isLikeSpecial c ∧ ∃ first rest, spell c = first :: rest ∧ isLikeSpecial first)
    (text : List Char) : opensWithCased (text.flatMap spell) = opensWithCased text := by
  induction text with
  | nil => rfl
  | cons c text ih =>
    rw [List.flatMap_cons]
    rcases each c with plain | ⟨special, first, rest, spelled, sign⟩
    · rw [plain, List.singleton_append, opensWithCased_cons, opensWithCased_cons, ih]
    · rw [spelled, List.cons_append, opensWithCased_sign sign, opensWithCased_sign special]

theorem opensWithCased_escaped (text : List Char) :
    opensWithCased (text.flatMap escapeLikeChar) = opensWithCased text := by
  refine opensWithCased_flatMap (fun c => ?_) text
  by_cases special : isLikeSpecial c
  · exact Or.inr ⟨special, '\\', [c], escapeLikeChar_of_special special, rfl⟩
  · exact Or.inl (escapeLikeChar_of_plain special)

theorem opensWithCased_escaped_reverse (text : List Char) :
    opensWithCased (text.flatMap escapeLikeChar).reverse = opensWithCased text.reverse := by
  rw [List.reverse_flatMap]
  refine opensWithCased_flatMap (fun c => ?_) text.reverse
  by_cases special : isLikeSpecial c
  · exact Or.inr ⟨special, c, ['\\'], by simp [escapeLikeChar_of_special special], special⟩
  · exact Or.inl (by simp [escapeLikeChar_of_plain special])

theorem lowerAt_congr {before after otherBefore otherAfter : List Char}
    (front : opensWithCased before = opensWithCased otherBefore)
    (back : opensWithCased after = opensWithCased otherAfter) (c : Char) :
    lowerAt before c after = lowerAt otherBefore c otherAfter := by
  unfold lowerAt lowerSigma
  rw [front, back]

theorem not_special_of_mem_lowerAt {before after : List Char} {c form : Char}
    (plain : ¬ isLikeSpecial c) (listed : form ∈ lowerAt before c after) :
    ¬ isLikeSpecial form := by
  unfold lowerAt lowerSigma at listed
  split at listed
  · split at listed <;> rw [List.mem_singleton] at listed <;> subst listed <;> decide
  · intro special
    rcases lowerChar_cases listed with ⟨rfl, -⟩ | ⟨letter, -⟩
    · exact plain special
    · exact absurd letter (Nat.not_le_of_lt (sign_lt_letters special))

theorem escaped_of_plain {text : List Char} (plain : ∀ c ∈ text, ¬ isLikeSpecial c) :
    text.flatMap escapeLikeChar = text := by
  induction text with
  | nil => rfl
  | cons c text ih =>
    rw [List.forall_mem_cons] at plain
    rw [List.flatMap_cons, escapeLikeChar_of_plain plain.1, ih plain.2, List.singleton_append]

theorem lowerAfter_escaped (before rest : List Char) :
    lowerAfter (before.flatMap escapeLikeChar).reverse (rest.flatMap escapeLikeChar) =
      (lowerAfter before.reverse rest).flatMap escapeLikeChar := by
  induction rest generalizing before with
  | nil => rfl
  | cons c rest ih =>
    have next := ih (before ++ [c])
    rw [List.flatMap_append, List.reverse_append, List.flatMap_singleton, List.reverse_append,
      List.reverse_singleton, List.singleton_append] at next
    rw [List.flatMap_cons, lowerAfter_append, next, lowerAfter, ← lowerAt, List.flatMap_append]
    refine congrArg (· ++ _) ?_
    by_cases special : isLikeSpecial c
    · have backslash : isLikeSpecial '\\' := rfl
      rw [escapeLikeChar_of_special special, lowerWithin, lowerWithin, lowerWithin,
        lowerAt_sign backslash, lowerAt_sign special, lowerAt_sign special,
        List.flatMap_singleton, escapeLikeChar_of_special special]
      rfl
    · rw [escapeLikeChar_of_plain special, lowerWithin, lowerWithin, List.append_nil,
        List.nil_append, escaped_of_plain fun form => not_special_of_mem_lowerAt special]
      exact lowerAt_congr (opensWithCased_escaped_reverse before) (opensWithCased_escaped rest) c

theorem escapeLike_lowercase (text : String) :
    escapeLike (lowercase text) = lowercase (escapeLike text) := by
  rw [← String.toList_inj, toList_escapeLike, toList_lowercase, toList_lowercase, toList_escapeLike]
  exact (lowerAfter_escaped [] text.toList).symm

theorem lowerAfter_append_sign {sign : Char} (special : isLikeSpecial sign) (text : List Char) :
    lowerAfter [] (text ++ [sign]) = lowerAfter [] text ++ [sign] := by
  have kept := (lowerWithin_beginning_iff text [sign]).mpr
    (by simp [opensWithCased_sign special])
  rw [lowerAfter_append, kept, lowerAfter, ← lowerAt, lowerAt_sign special]
  rfl

theorem lowerAfter_sign_append {sign : Char} (special : isLikeSpecial sign) (text : List Char) :
    lowerAfter [] ([sign] ++ text) = [sign] ++ lowerAfter [] text := by
  have kept := (lowerWithin_end_iff [sign] text).mpr (by simp [opensWithCased_sign special])
  rw [lowerWithin_nil] at kept
  rw [List.singleton_append, lowerAfter, ← lowerAt, lowerAt_sign special, kept]

end Text

/-- The sign at the beginning or the end of a pattern does not change how its text is lowered. -/
theorem PatternMode.pattern_lowercase (mode : PatternMode) (text : String) :
    mode.pattern (Text.lowercase text) = Text.lowercase (mode.pattern text) := by
  have percent : Text.isLikeSpecial '%' := rfl
  cases mode with
  | exact => rfl
  | startsWith =>
    rw [pattern, pattern, Text.escapeLike_lowercase, ← String.toList_inj, String.toList_append,
      Text.toList_lowercase, Text.toList_lowercase, String.toList_append]
    exact (Text.lowerAfter_append_sign percent _).symm
  | endsWith =>
    rw [pattern, pattern, Text.escapeLike_lowercase, ← String.toList_inj, String.toList_append,
      Text.toList_lowercase, Text.toList_lowercase, String.toList_append]
    exact (Text.lowerAfter_sign_append percent _).symm

open Argument

theorem lowercase_of_mem_values {mode : PatternMode} {argument : Argument} {value : Value}
    (listed : value ∈ argument.lowercase.values mode) : value.lowercase = value := by
  cases argument with
  | scalar held =>
    cases held with
    | string text =>
      have same : value = .string (mode.pattern (Text.lowercase text)) :=
        List.mem_singleton.mp listed
      rw [same, PatternMode.pattern_lowercase, Value.lowercase, Text.lowercase_lowercase]
    | array items =>
      have same : value = (Value.array items).lowercase := List.mem_singleton.mp listed
      rw [same, Value.lowercase_lowercase]
    | null | bool | int | float =>
      cases List.mem_singleton.mp listed
      rfl
  | sequence items =>
    have same : value = (Value.array items).lowercase := by
      rw [Value.lowercase, Value.lowercaseAll_eq_map]
      exact List.mem_singleton.mp listed
    rw [same, Value.lowercase_lowercase]
  | geoPoint point =>
    have doubles : value = .float point.x ∨ value = .float point.y := by
      simpa [Argument.lowercase, values] using listed
    rcases doubles with rfl | rfl <;> rfl
  | geoRange range =>
    have doubles : value = .float range.lower ∨ value = .float range.upper := by
      simpa [Argument.lowercase, values] using listed
    rcases doubles with rfl | rfl <;> rfl

theorem BindRequest.lowercase_of_mem_valuesOf {request : BindRequest}
    (ignores : request.ignoreCase) {argument : Argument} {value : Value}
    (listed : value ∈ request.valuesOf argument) : value.lowercase = value := by
  rw [valuesOf_eq, lowercaseIf, if_pos ignores] at listed
  exact lowercase_of_mem_values listed

theorem Part.render_pattern {operator : Operator} {template : Template}
    (pattern : operator.IsPattern) (found : operator.template? = some template)
    (target : Compile.Target) (part : Part) (property : Metadata.Property) (taken : List Argument)
    (first : Nat) :
    (template.chosen (isDonut operator taken)).render (part.context target property) first =
      part.likeClause property first := by
  rcases pattern with rfl | rfl <;> cases found <;> exact Template.render_like _ _ _

/-- The pattern of a lowered text is the lowered pattern of the text, for it does not matter whether
a text is lowered or escaped first. So whatever a part that ignores case and asks for a beginning
or an end writes in a query that compiles is fixed by lowering, as what its clause compares it
with: the lowered property. -/
theorem lowered_patterns_stay :
    (∀ text, Text.escapeLike (Text.lowercase text) = Text.lowercase (Text.escapeLike text)) ∧
    (∀ stored, Text.lowercase (Text.lowercase stored) = Text.lowercase stored) ∧
    ∀ (metadata : Metadata) (entity : String) (tree : PartTree) (arguments : List Argument)
      (sorting : Option Sorting) (query : CompiledQuery) (place : Placement)
      (property : Metadata.Property),
      (compile metadata entity tree arguments sorting).result = .ok query →
      place ∈ placements [] tree.groups → place.part.operator.IsPattern →
      metadata.property entity place.part.property = .ok property →
      place.part.ignoresCase property.leaf →
        ∃ collection visit, metadata.collectionName entity = .ok collection ∧
          Compile.visit ⟨metadata, entity, collection⟩ arguments place = .ok visit ∧
          visit.fragment = .predicate
            (property.leaf.reference property.field true ++
              " LIKE @" ++ keyText visit.first) ∧
          (∀ key, visit.Wrote key → ∃ value,
            query.bindVars.get? (keyText key) = some value ∧ value.lowercase = value) ∧
          ∀ text, visit.taken = [scalar (.string text)] → ∃ pattern,
            query.bindVars.get? (keyText visit.first) = some (.string pattern) ∧
              pattern = place.part.operator.likePattern (Text.lowercase text) ∧
              pattern = Text.lowercase (place.part.operator.likePattern text) ∧
              Text.lowercase pattern = pattern := by
  refine ⟨Text.escapeLike_lowercase, Text.lowercase_lowercase, ?_⟩
  intro metadata entity tree arguments sorting query place property run member pattern known ignores
  obtain ⟨collection, found, template, visit, registered, again, chosen, visited, fragment, -, -,
    after, held⟩ := Compile.exists_rendered_visit run member
  have same : found = property := Except.ok.inj (again.symm.trans known)
  subst same
  have lowers : (place.part.request found.leaf).ignoreCase := by
    rw [Part.request_ignoreCase, ignores]
  refine ⟨collection, visit, registered, visited, ?_, ?_, ?_⟩
  · rw [fragment, Part.render_pattern pattern chosen, Part.likeClause, ignores]
  · intro key wrote
    obtain ⟨lower, upper⟩ := wrote
    rw [after, ← BindRequest.length_flatMap_valuesOf] at upper
    obtain ⟨offset, rfl⟩ := Nat.exists_eq_add_of_le lower
    have here := List.getElem?_eq_getElem (Nat.add_lt_add_iff_left.mp upper)
    obtain ⟨argument, -, listed⟩ := List.mem_flatMap.mp (List.mem_of_getElem? here)
    exact ⟨_, held offset _ here, BindRequest.lowercase_of_mem_valuesOf lowers listed⟩
  · intro text single
    have wrote := held 0 (.string (place.part.operator.likePattern (Text.lowercase text))) (by
      rw [single, List.flatMap_singleton, BindRequest.valuesOf_string, Text.lowercaseIf,
        if_pos lowers, ← pattern.mode_pattern]
      rfl)
    have order : place.part.operator.likePattern (Text.lowercase text) =
        Text.lowercase (place.part.operator.likePattern text) := by
      rw [← pattern.mode_pattern, PatternMode.pattern_lowercase]
    exact ⟨_, wrote, rfl, order, by rw [order, Text.lowercase_lowercase]⟩

def sigmaTree : PartTree where
  groups := [[placePart "location" .near, caselessNamePart .startingWith]]

def sigmaPlacement : Placement where
  groupsBefore := []
  partsBefore := [placePart "location" .near]
  part := caselessNamePart .startingWith

def sigmaArguments : List Argument := [geoPoint origin, scalar (.string "ΑΣ_\u0130")]

def sigmaQuery : CompiledQuery where
  text :=
    "FOR e IN (FOR e IN NEAR(places, @0, @1) RETURN UNSET(e, '_distance')) " ++
      "FILTER LOWER(e.name) LIKE @2 RETURN e"
  bindVars := .ofValues
    [.float origin.x, .float origin.y,
      .string (PatternMode.startsWith.pattern (Text.lowercase "ΑΣ_\u0130"))]

theorem sigma_pattern_stays :
    (compile placeCatalog "Place" sigmaTree sigmaArguments none).result = .ok sigmaQuery ∧
    sigmaPlacement ∈ placements [] sigmaTree.groups ∧
    sigmaPlacement.part.operator.IsPattern ∧
    placeCatalog.metadata.property "Place" sigmaPlacement.part.property =
      .ok ⟨"name", { kind := .string }⟩ ∧
    sigmaPlacement.part.ignoresCase { kind := .string } ∧
    ∃ pattern, sigmaQuery.bindVars.get? (keyText 2) = some (.string pattern) ∧
      pattern = "ας\\_i\u0307%" ∧ Text.lowercase pattern = pattern := by
  have run : (compile placeCatalog "Place" sigmaTree sigmaArguments none).result =
      .ok sigmaQuery := by exact rfl
  have member : sigmaPlacement ∈ placements [] sigmaTree.groups :=
    List.mem_cons_of_mem _ List.mem_cons_self
  have pattern : sigmaPlacement.part.operator.IsPattern := Or.inl rfl
  obtain ⟨collection, visit, registered, visited, -, -, bound⟩ :=
    lowered_patterns_stay.2.2 placeCatalog "Place" sigmaTree sigmaArguments none sigmaQuery
      sigmaPlacement ⟨"name", { kind := .string }⟩ run member pattern rfl rfl
  cases registered
  have visits : visit.taken = [scalar (.string "ΑΣ_\u0130")] ∧ visit.first = 2 := by
    cases visited
    exact ⟨rfl, rfl⟩
  obtain ⟨found, stored, lowered, -, stays⟩ := bound _ visits.1
  have text : Operator.startingWith.likePattern (Text.lowercase "ΑΣ_\u0130") =
      "ας\\_i\u0307%" := by
    decide +kernel
  exact ⟨run, member, pattern, rfl, rfl, found, visits.2 ▸ stored, lowered.trans text, stays⟩

end FinderQuery

import FinderQuery.Proofs.Closed

namespace FinderQuery

open Argument

namespace Compile

/-- What the compiler makes of a part: the binder as the part finds it, the fragment, and the binder
as the part leaves it. -/
structure Visit where
  before : Binder
  fragment : Fragment
  after : Binder

namespace Visit

variable (visit : Visit)

def first : Nat := visit.before.nextKey

def taken : List Argument :=
  visit.before.arguments.take (visit.before.remaining - visit.after.remaining)

def Wrote (key : Nat) : Prop := visit.before.nextKey ≤ key ∧ key < visit.after.nextKey

end Visit

def visit (target : Target) (arguments : List Argument) (place : Placement) :
    Except CompileError Visit := do
  let (_, outside) ← (groups target {} place.groupsBefore (.ofArguments arguments)).result
  let (_, before) ← (group target {} place.partsBefore outside).result
  let (fragment, after) ← (part target place.part before).result
  .ok ⟨before, fragment, after⟩

end Compile

variable {target : Compile.Target} {arguments : List Argument}

namespace Reference

variable {tree : List (List Part)} {contributions : List (List Contribution)} {place : Placement}

theorem exists_before_of_groups (run : groups target arguments [] tree = .ok contributions)
    (member : place ∈ placements [] tree) :
    (∃ outside, groups target arguments [] place.groupsBefore = .ok outside) ∧
      (∃ inside, parts target arguments place.groupsBefore [] place.partsBefore = .ok inside) ∧
      ∃ offered, place.offer target arguments = .ok offered := by
  obtain ⟨group, listed, within⟩ := mem_placements.mp member
  obtain ⟨groupsBefore, groupsAfter, split, front⟩ := mem_withEarlier.mp listed
  obtain ⟨partsBefore, partsAfter, inner, parts⟩ := mem_withEarlier.mp within
  rw [List.nil_append] at front parts
  have each := exists_mapM_eq_ok_iff.mp ⟨_, run⟩
  obtain ⟨added, here⟩ := each _ listed
  have eachPart := exists_mapM_eq_ok_iff.mp ⟨_, (group_eq_ok_iff.mp here).1⟩
  refine ⟨?_, ?_, ?_⟩
  · refine exists_mapM_eq_ok_iff.mpr fun entry earlier => each entry ?_
    rw [split, ← front, withEarlier_append]
    exact List.mem_append_left _ earlier
  · refine exists_mapM_eq_ok_iff.mpr fun entry earlier => eachPart entry ?_
    rw [inner, ← parts, withEarlier_append]
    exact List.mem_append_left _ earlier
  · obtain ⟨offered, added⟩ := eachPart _ within
    exact ⟨offered, (Placement.contribution_eq_ok_iff.mp added).1⟩

end Reference

namespace Compile

variable {tree : List (List Part)} {contributions : List (List Contribution)} {place : Placement}

def arrival (target : Target) (arguments : List Argument) (place : Placement) :
    Except CompileError Binder := do
  let (_, outside) ← (groups target {} place.groupsBefore (.ofArguments arguments)).result
  let (_, before) ← (group target {} place.partsBefore outside).result
  .ok before

theorem visit_eq (target : Target) (arguments : List Argument) (place : Placement) :
    visit target arguments place = arrival target arguments place >>= fun before =>
      (part target place.part before).result.map fun made => ⟨before, made.1, made.2⟩ := by
  unfold visit arrival
  cases (groups target {} place.groupsBefore (.ofArguments arguments)).result with
  | error error => rfl
  | ok outer =>
    simp only [bind, Except.bind]
    cases (group target {} place.partsBefore outer.2).result with
    | error error => rfl
    | ok inner => simp only [Except.map]

theorem arrival_eq_ok_iff {before : Binder} :
    arrival target arguments place = .ok before ↔
      ∃ outside inside, Reference.groups target arguments [] place.groupsBefore = .ok outside ∧
        Reference.parts target arguments place.groupsBefore [] place.partsBefore = .ok inside ∧
        before = ⟨arguments.drop (arities place.earlier),
          .ofValues ((outside.flatten ++ inside).flatMap Contribution.values)⟩ := by
  rw [arrival, groups_result]
  cases run : Reference.groups target arguments [] place.groupsBefore with
  | error error => simp [Except.map, bind, Except.bind]
  | ok outside =>
    have inner := group_result target (Reference.length_values run) place.partsBefore
    simp only [Except.map, bind, Except.bind, inner]
    cases Reference.parts target arguments place.groupsBefore [] place.partsBefore with
    | error error => simp
    | ok inside => simp [Placement.earlier, eq_comm]

theorem length_values_of_arrival {outside : List (List Contribution)} {inside : List Contribution}
    (groups : Reference.groups target arguments [] place.groupsBefore = .ok outside)
    (parts : Reference.parts target arguments place.groupsBefore [] place.partsBefore =
      .ok inside) :
    ((outside.flatten ++ inside).flatMap Contribution.values).length =
      place.firstKey arguments := by
  have outer := Reference.length_values groups
  have inner := Reference.length_values_of_parts parts
  rw [List.append_nil, List.nil_append] at inner
  rw [List.flatMap_append, List.length_append, outer, inner]
  rfl

theorem exists_visit (run : Reference.groups target arguments [] tree = .ok contributions)
    (member : place ∈ placements [] tree) :
    ∃ values offered, place.offer target arguments = .ok offered ∧
      values.length = place.firstKey arguments ∧
      visit target arguments place = .ok
        ⟨⟨arguments.drop (arities place.earlier), .ofValues values⟩, offered.fragment,
          ⟨arguments.drop (arities (place.earlier ++ [place.part])),
            .ofValues (values ++ offered.values)⟩⟩ := by
  obtain ⟨⟨outside, groups⟩, ⟨inside, parts⟩, offered, here⟩ :=
    Reference.exists_before_of_groups run member
  have aligned := length_values_of_arrival groups parts
  have arrived := arrival_eq_ok_iff.mpr ⟨outside, inside, groups, parts, rfl⟩
  have last := part_result target place _ aligned
  rw [here] at last
  refine ⟨_, offered, here, aligned, ?_⟩
  rw [visit_eq, arrived]
  simp only [bind, Except.bind, last, Except.map]

theorem visit_of_member (run : Reference.groups target arguments [] tree = .ok contributions)
    (member : place ∈ placements [] tree) :
    ∃ found offered, visit target arguments place = .ok found ∧
      place.offer target arguments = .ok offered ∧ found.fragment = offered.fragment ∧
      found.first = place.firstKey arguments ∧ found.taken = place.share arguments ∧
      found.after.nextKey = found.first + slotsOf found.taken := by
  obtain ⟨values, offered, here, aligned, visited⟩ := exists_visit run member
  have written := Placement.length_values_of_offer here
  have full := (Placement.fits_of_offer here).1
  have consumed : (arguments.drop (arities place.earlier)).length -
      (arguments.drop (arities (place.earlier ++ [place.part]))).length =
        place.part.operator.arity := by
    rw [Placement.share, List.length_take, List.length_drop] at full
    rw [List.length_drop, List.length_drop, arities_append, arities_cons, arities_nil]
    omega
  have taken : (arguments.drop (arities place.earlier)).take
      ((arguments.drop (arities place.earlier)).length -
        (arguments.drop (arities (place.earlier ++ [place.part]))).length) =
      place.share arguments := by
    rw [consumed]
    rfl
  refine ⟨_, offered, visited, here, rfl, ?_, taken, ?_⟩
  · rw [Visit.first, Binder.nextKey, BindVars.size_ofValues, aligned]
  · simp only [Visit.first, Visit.taken, Binder.remaining, Binder.nextKey, taken,
      BindVars.size_ofValues, List.length_append, written]

end Compile

def Template.keys (template : Template) (first : Nat) : List Nat :=
  (Clause.offsets template.pieces).map (first + ·)

theorem Template.mem_keys_chosen_iff {operator : Operator} {template : Template}
    (found : operator.template? = some template) {donut : Bool} {first key : Nat} :
    key ∈ (template.chosen donut).keys first ↔
      first ≤ key ∧ key < first + width operator donut := by
  rw [keys, List.mem_map]
  simp only [mem_offsets_chosen_iff found]
  apply Iff.intro
  · intro given
    rcases given with ⟨offset, small, rfl⟩
    omega
  · intro given
    exact ⟨key - first, by omega, by omega⟩

namespace Argument

theorem exists_geoPoint_mem_iff {taken : List Argument} :
    (∃ point, geoPoint point ∈ taken) ↔ 0 < taken.countP isPoint := by
  rw [List.countP_pos_iff]
  apply Iff.intro
  · intro given
    rcases given with ⟨point, member⟩
    exact ⟨_, member, rfl⟩
  · intro given
    rcases given with ⟨argument, member, point⟩
    cases argument with
    | geoPoint point => exact ⟨_, member⟩
    | _ => cases point

theorem forall_geoPoint_not_mem_iff {taken : List Argument} :
    (∀ point, geoPoint point ∉ taken) ↔ taken.countP isPoint = 0 := by
  rw [← not_exists, exists_geoPoint_mem_iff]
  omega

end Argument

namespace Operator

def templateFor? (operator : Operator) (taken : List Argument) : Option Template :=
  operator.template?.map (·.chosen (isDonut operator taken))

/-- Whether a part consumed the points that its clause has a place for, and no others. -/
def IsSuited (operator : Operator) (taken : List Argument) : Prop :=
  (operator = .near ∧ ∃ point, geoPoint point ∈ taken) ∨
    (operator = .within ∧ taken.countP isPoint = 1) ∨
    (¬ operator.isGeo ∧ ∀ point, geoPoint point ∉ taken)

theorem points_pos_iff {operator : Operator} : 0 < operator.points ↔ operator.isGeo := by
  unfold points
  split <;> simp_all

theorem isSuited_iff {operator : Operator} {taken : List Argument}
    (full : taken.length = operator.arity) :
    operator.IsSuited taken ↔ taken.countP isPoint = operator.points := by
  have few := List.countP_le_length (p := isPoint) (l := taken)
  rw [IsSuited, exists_geoPoint_mem_iff, forall_geoPoint_not_mem_iff]
  by_cases near : operator = .near
  · subst near
    have one : taken.length = 1 := full
    have place : points .near = 1 := rfl
    simp only [isGeo, place, not_true_eq_false, false_and, or_false, true_and, reduceCtorEq]
    omega
  · by_cases within : operator = .within
    · subst within
      simp [points, isGeo]
    · have filter : operator.isGeo = false := by
        cases operator <;> first | rfl | contradiction
      simp [points, near, within, filter]

end Operator

namespace Compile

/-- A visited part writes some variables and refers to some, both from its first one on. By how many
they differ is a matter of the points that it consumed. -/
structure Visit.Spans (visit : Visit) (operator : Operator) (template : Template)
    (slots width : Nat) : Prop where
  full : visit.taken.length = operator.arity
  wrote : ∀ key, visit.Wrote key ↔ visit.first ≤ key ∧ key < visit.first + slots
  refers : ∀ key, key ∈ template.keys visit.first ↔
    visit.first ≤ key ∧ key < visit.first + width
  balance : slots + operator.points = width + visit.taken.countP isPoint

namespace Visit.Spans

variable {visit : Visit} {operator : Operator} {template : Template} {slots width : Nat}

theorem exact_iff (spans : visit.Spans operator template slots width) :
    (∀ key, key ∈ template.keys visit.first ↔ visit.Wrote key) ↔
      operator.IsSuited visit.taken := by
  have balance := spans.balance
  simp only [spans.refers, spans.wrote]
  rw [Operator.isSuited_iff spans.full]
  apply Iff.intro
  · intro same
    have behindWritten := same (visit.first + slots)
    have behindReferred := same (visit.first + width)
    omega
  · intro points key
    have same : width = slots := by omega
    rw [same]

theorem missing_or_left_over (spans : visit.Spans operator template slots width)
    (unsuited : ¬ operator.IsSuited visit.taken) :
    (operator.isGeo ∧ (∀ point, geoPoint point ∉ visit.taken) ∧
        ∃ key ∈ template.keys visit.first, ¬ visit.Wrote key) ∨
      (operator.points < visit.taken.countP isPoint ∧
        ∃ key, visit.Wrote key ∧ key ∉ template.keys visit.first) := by
  have balance := spans.balance
  rw [Operator.isSuited_iff spans.full] at unsuited
  rcases Nat.lt_or_gt_of_ne unsuited with few | many
  -- The first variable behind those that the part wrote, then the first behind those it refers to.
  · have one := operator.points_le_one
    have zero : visit.taken.countP isPoint = 0 := by omega
    have geo := Operator.points_pos_iff.mp (Nat.zero_lt_of_lt few)
    have referred : visit.first + slots ∈ template.keys visit.first := by
      rw [spans.refers]
      omega
    have unwritten : ¬ visit.Wrote (visit.first + slots) := by
      rw [spans.wrote]
      omega
    exact Or.inl ⟨geo, forall_geoPoint_not_mem_iff.mpr zero, _, referred, unwritten⟩
  · have written : visit.Wrote (visit.first + width) := by
      rw [spans.wrote]
      omega
    have unreferred : visit.first + width ∉ template.keys visit.first := by
      rw [spans.refers]
      omega
    exact Or.inr ⟨many, _, written, unreferred⟩

end Visit.Spans

variable {tree : List (List Part)} {contributions : List (List Contribution)} {place : Placement}

theorem exists_spans (run : Reference.groups target arguments [] tree = .ok contributions)
    (member : place ∈ placements [] tree) :
    ∃ found property template slots width,
      visit target arguments place = .ok found ∧
      target.metadata.property target.entity place.part.property = .ok property ∧
      place.part.operator.templateFor? found.taken = some template ∧
      found.fragment = template.render (place.part.context target property) found.first ∧
      found.Spans place.part.operator template slots width := by
  obtain ⟨found, offered, visited, here, fragment, first, taken, after⟩ :=
    visit_of_member run member
  have full := (Placement.fits_of_offer here).1
  have balance : slotsOf (place.share arguments) + place.part.operator.points =
      Template.width place.part.operator (isDonut place.part.operator (place.share arguments)) +
        (place.share arguments).countP isPoint := Placement.slotsBehind_of_offer here
  obtain ⟨property, template, known, chosen, -, rfl⟩ := Placement.offer_eq_ok_iff.mp here
  have shown : place.part.operator.templateFor? found.taken =
      some (template.chosen (isDonut place.part.operator found.taken)) := by
    rw [Operator.templateFor?, chosen]
    rfl
  have rendered : found.fragment =
      (template.chosen (isDonut place.part.operator found.taken)).render
        (place.part.context target property) found.first := by
    rw [fragment, first, taken]
    rfl
  rw [← taken] at full balance
  refine ⟨found, property, _, _, _, visited, known, shown, rendered, full, fun key => ?_,
    fun key => Template.mem_keys_chosen_iff chosen, balance⟩
  rw [Visit.Wrote, after]
  rfl

end Compile

/-- In a query that compiles, the clause of a part refers to exactly the variables that the part
wrote if it consumed the points that the clause has a place for, and no others. With too few points
the clause refers to a variable that the part did not write; with too many the part wrote a variable
that the clause does not refer to. -/
theorem part_refers_to_its_own_iff {metadata : Metadata} {entity : String} {tree : PartTree}
    {sorting : Option Sorting} {query : CompiledQuery}
    (run : (compile metadata entity tree arguments sorting).result = .ok query)
    {place : Placement} (member : place ∈ placements [] tree.groups) :
    ∃ collection property template visit,
      metadata.collectionName entity = .ok collection ∧
      metadata.property entity place.part.property = .ok property ∧
      Compile.visit ⟨metadata, entity, collection⟩ arguments place = .ok visit ∧
      place.part.operator.templateFor? visit.taken = some template ∧
      visit.fragment =
        template.render (place.part.context ⟨metadata, entity, collection⟩ property) visit.first ∧
      ((∀ key, key ∈ template.keys visit.first ↔ visit.Wrote key) ↔
        place.part.operator.IsSuited visit.taken) ∧
      (¬ place.part.operator.IsSuited visit.taken →
        (place.part.operator.isGeo ∧ (∀ point, geoPoint point ∉ visit.taken) ∧
          ∃ key ∈ template.keys visit.first, ¬ visit.Wrote key) ∨
        (place.part.operator.points < visit.taken.countP isPoint ∧
          ∃ key, visit.Wrote key ∧ key ∉ template.keys visit.first)) ∧
      ('@' ∉ collection.toList →
        '@' ∉ property.field.toList →
          ∀ key, Mentions visit.fragment.text key ↔ key ∈ template.keys visit.first) := by
  obtain ⟨collection, contributions, registered, groups, -⟩ := compile_eq_ok_iff.mp run
  obtain ⟨visit, property, template, slots, width, visited, known, shown, rendered, spans⟩ :=
    Compile.exists_spans groups member
  refine ⟨collection, property, template, visit, registered, known, visited, shown, rendered,
    spans.exact_iff, spans.missing_or_left_over, fun plainCollection plainField key => ?_⟩
  have unmarked : (place.part.context ⟨metadata, entity, collection⟩ property).Unmarked :=
    ⟨plainCollection, Leaf.reference_unmarked plainField⟩
  obtain ⟨plain, chosen, rfl⟩ := Option.map_eq_some_iff.mp shown
  rw [rendered, Template.mentions_render_iff chosen unmarked, Template.mem_keys_chosen_iff chosen]

def namedNearTree : PartTree where
  groups := [[placePart "name" .simpleProperty, placePart "location" .near]]

def nearPlacement : Placement where
  groupsBefore := []
  partsBefore := [placePart "name" .simpleProperty]
  part := placePart "location" .near

theorem near_refers_to_its_point :
    (compile placeCatalog "Place" namedNearTree [scalar (.string "x"), geoPoint origin]
      none).result =
      .ok ⟨"FOR e IN (FOR e IN NEAR(places, @1, @2) RETURN UNSET(e, '_distance')) " ++
          "FILTER e.name == @0 RETURN e",
        .ofValues [.string "x", .float origin.x, .float origin.y]⟩ ∧
    nearPlacement ∈ placements [] namedNearTree.groups ∧
    ∃ visit, Compile.visit ⟨placeCatalog, "Place", "places"⟩
        [scalar (.string "x"), geoPoint origin] nearPlacement = .ok visit ∧
      visit.taken = [geoPoint origin] ∧
      ∀ key, Mentions visit.fragment.text key ↔ visit.Wrote key := by
  have run : (compile placeCatalog "Place" namedNearTree [scalar (.string "x"), geoPoint origin]
      none).result =
      .ok ⟨"FOR e IN (FOR e IN NEAR(places, @1, @2) RETURN UNSET(e, '_distance')) " ++
          "FILTER e.name == @0 RETURN e",
        .ofValues [.string "x", .float origin.x, .float origin.y]⟩ := by exact rfl
  have member : nearPlacement ∈ placements [] namedNearTree.groups :=
    List.mem_cons_of_mem _ List.mem_cons_self
  obtain ⟨collection, property, template, visit, registered, known, visited, -, -, exact, -,
    mentions⟩ := part_refers_to_its_own_iff run member
  cases registered
  cases known
  have taken : visit.taken = [geoPoint origin] := by
    cases visited
    rfl
  have suited : nearPlacement.part.operator.IsSuited visit.taken := by
    rw [taken]
    exact Or.inl ⟨rfl, origin, List.mem_singleton_self _⟩
  refine ⟨run, member, visit, visited, taken, fun key => ?_⟩
  rw [mentions (by decide) (by decide), exact.mpr suited]

end FinderQuery

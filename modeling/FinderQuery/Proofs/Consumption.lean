import FinderQuery.Proofs.Closed
import FinderQuery.Proofs.Renumbering
import Mathlib.Data.List.Infix

namespace FinderQuery

open Argument

def CompileError.IsShortage (error : CompileError) : Prop :=
  ∃ operator needed supplied, error = .insufficientArguments operator needed supplied

namespace BindRequest

variable {request : BindRequest}

/-- More arguments behind a share that is too short do not change what is wrong with it, unless it
was too short and nothing else. -/
theorem error?_of_short {share longer : List Argument} (short : share.length < request.arity)
    (front : share <+: longer) :
    ∃ error, request.error? share = some error ∧
      (error.IsShortage ∨ request.error? longer = some error) := by
  obtain ⟨more, rfl⟩ := front
  rw [error?, error?, firstFault?_append]
  cases request.firstFault? [] share with
  | none =>
    rw [Option.none_or, if_pos short]
    exact ⟨_, rfl, Or.inl ⟨_, _, _, rfl⟩⟩
  | some error => exact ⟨error, rfl, Or.inr rfl⟩

end BindRequest

variable {target : Compile.Target} {arguments first second : List Argument}
  {P : CompileError → Prop} {tree : List (List Part)}

theorem Operator.points_of_no_arity {operator : Operator} (none : operator.arity = 0) :
    operator.points = 0 := by
  revert none
  cases operator <;> decide

theorem Template.render_of_no_arity {operator : Operator} {template : Template}
    (found : operator.template? = some template) (none : operator.arity = 0)
    (context : ClauseContext) (first second : Nat) :
    (template.chosen false).render context first =
      (template.chosen false).render context second := by
  have keyless : Clause.offsets (template.chosen false).pieces = [] := by
    refine List.eq_nil_iff_forall_not_mem.mpr fun offset member => ?_
    rw [mem_offsets_chosen_iff found, width, none, Operator.points_of_no_arity none] at member
    exact absurd member (Nat.not_lt_zero _)
  have text : Clause.render context first (template.chosen false).pieces =
      Clause.render context second (template.chosen false).pieces := by
    rw [Clause.offsets, List.filterMap_eq_nil_iff] at keyless
    refine congrArg String.join (List.map_congr_left fun piece member => ?_)
    exact Clause.render_of_offset?_eq_none (keyless piece member) first second
  rw [render, render, text]

namespace Placement

theorem arities_le_of_mem {place : Placement} (member : place ∈ placements [] tree) :
    arities (place.earlier ++ [place.part]) ≤ arities tree.flatten := by
  have each : ∀ front part back, tree.flatten = front ++ part :: back →
      arities (front ++ [part]) ≤ arities tree.flatten := by
    intro front part back split
    exact arities_le_of_prefix ⟨back, by simp [split]⟩
  exact forall_placements_iff.mpr each place member

theorem offer_congr {place : Placement} (share : place.share first = place.share second)
    (key : place.firstKey first = place.firstKey second) :
    place.offer target first = place.offer target second := by
  simp only [offer, share, key]

theorem offer_take {place : Placement} {count : Nat}
    (enough : arities (place.earlier ++ [place.part]) ≤ count) :
    place.offer target (arguments.take count) = place.offer target arguments := by
  rw [arities_append, arities_cons, arities_nil] at enough
  have key : min (arities place.earlier) count = arities place.earlier := by omega
  have width : min place.part.operator.arity (count - arities place.earlier) =
      place.part.operator.arity := by omega
  refine offer_congr ?_ ?_
  · rw [share, List.drop_take, List.take_take, width]
    rfl
  · rw [firstKey, List.take_take, key]
    rfl

theorem offer_of_no_arity {place : Placement} (none : place.part.operator.arity = 0)
    (first second : List Argument) :
    place.offer target first = place.offer target second := by
  have empty (arguments : List Argument) : place.share arguments = [] := by
    rw [share, none, List.take_zero]
  have clause (property : Metadata.Property) {template : Template}
      (found : place.part.operator.template? = some template) :
      place.fragment target first property template =
        place.fragment target second property template := by
    have plain : isDonut place.part.operator [] = false := by
      cases place.part.operator <;> rfl
    rw [fragment, fragment, empty, empty, plain]
    exact Template.render_of_no_arity found none _ _ _
  rw [offer_eq, offer_eq]
  cases target.metadata.property target.entity place.part.property with
  | error error => rfl
  | ok property =>
    cases found : Compile.templateOf place.part.operator with
    | error error => rfl
    | ok template =>
      have same := clause property (Compile.templateOf_eq_ok_iff.mp found)
      simp only [bind, Except.bind, empty, same]

theorem offer_append (place : Placement) (arguments more : List Argument) :
    AgreesUnless CompileError.IsShortage (place.offer target arguments)
      (place.offer target (arguments ++ more)) := by
  by_cases full : arities (place.earlier ++ [place.part]) ≤ arguments.length
  · have same : place.offer target ((arguments ++ more).take arguments.length) =
        place.offer target (arguments ++ more) := offer_take full
    rw [List.take_left] at same
    exact Or.inl same.symm
  · by_cases none : place.part.operator.arity = 0
    · exact Or.inl (offer_of_no_arity none _ _)
    have front : place.share arguments <+: place.share (arguments ++ more) :=
      (List.IsPrefix.drop (List.prefix_append arguments more) _).take _
    rw [offer_eq, offer_eq]
    refine (AgreesUnless.refl _).bind fun property => ?_
    cases found : Compile.templateOf place.part.operator with
    | error error => exact AgreesUnless.refl _
    | ok template =>
      have arity := Operator.arity_of_template? (Compile.templateOf_eq_ok_iff.mp found)
      have short : (place.share arguments).length <
          (place.part.request property.leaf).arity := by
        change (place.share arguments).length < place.part.operator.arity
        rw [arities_append, arities_cons, arities_nil, arity] at full
        rw [arity] at none
        rw [share, List.length_take, List.length_drop, arity]
        omega
      obtain ⟨error, wrong, shortage | same⟩ := BindRequest.error?_of_short short front
      · exact Or.inr ⟨error, by simp [bind, Except.bind, wrong], shortage⟩
      · exact Or.inl (by simp [bind, Except.bind, wrong, same])

end Placement

theorem Reference.groups_agree
    (each : ∀ place ∈ placements [] tree,
      AgreesUnless P (place.offer target first) (place.offer target second)) :
    AgreesUnless P (groups target first [] tree) (groups target second [] tree) := by
  refine AgreesUnless.mapM fun entry listed => ?_
  refine AgreesUnless.bind (AgreesUnless.mapM fun inner within => ?_) fun _ => AgreesUnless.refl _
  have offers := each ⟨entry.1, inner.1, inner.2⟩ (mem_placements.mpr ⟨entry.2, listed, within⟩)
  exact offers.bind fun _ => AgreesUnless.refl _

section

variable {metadata : Metadata} {entity : String} {tree : PartTree} {sorting : Option Sorting}

theorem compile_agrees
    (each : ∀ collection, ∀ place ∈ placements [] tree.groups,
      AgreesUnless P (place.offer ⟨metadata, entity, collection⟩ first)
        (place.offer ⟨metadata, entity, collection⟩ second)) :
    AgreesUnless P (compile metadata entity tree first sorting).result
      (compile metadata entity tree second sorting).result := by
  cases registered : metadata.collectionName entity with
  | error error =>
    rw [compile_result_of_unregistered registered, compile_result_of_unregistered registered]
    exact AgreesUnless.refl _
  | ok collection =>
    rw [compile_result_of_collection registered, compile_result_of_collection registered]
    exact (Reference.groups_agree (each collection)).map _

theorem compile_eq_of_offers
    (each : ∀ collection, ∀ place ∈ placements [] tree.groups,
      place.offer ⟨metadata, entity, collection⟩ first =
        place.offer ⟨metadata, entity, collection⟩ second) :
    (compile metadata entity tree first sorting).result =
      (compile metadata entity tree second sorting).result := by
  have agrees : AgreesUnless (fun _ => False) (compile metadata entity tree first sorting).result
      (compile metadata entity tree second sorting).result :=
    compile_agrees fun collection place member => Or.inl (each collection place member).symm
  exact (agrees.eq_of_settled fun _ _ => not_false).symm

theorem compile_take_of_le {count : Nat} (enough : arities tree.parts ≤ count) :
    (compile metadata entity tree (arguments.take count) sorting).result =
      (compile metadata entity tree arguments sorting).result :=
  compile_eq_of_offers fun _ _ member =>
    Placement.offer_take (Nat.le_trans (Placement.arities_le_of_mem member) enough)

theorem compile_append_agrees (metadata : Metadata) (entity : String) (tree : PartTree)
    (sorting : Option Sorting) (arguments more : List Argument) :
    AgreesUnless CompileError.IsShortage (compile metadata entity tree arguments sorting).result
      (compile metadata entity tree (arguments ++ more) sorting).result :=
  compile_agrees fun _ place _ => place.offer_append arguments more

theorem arities_le_of_compile {query : CompiledQuery}
    (run : (compile metadata entity tree arguments sorting).result = .ok query) :
    arities tree.parts ≤ arguments.length := by
  obtain ⟨collection, contributions, -, groups, -⟩ := compile_eq_ok_iff.mp run
  exact Reference.arities_le groups

theorem compile_take_of_lt {query : CompiledQuery} {count : Nat}
    (run : (compile metadata entity tree arguments sorting).result = .ok query)
    (few : count < arities tree.parts) :
    ∃ error, (compile metadata entity tree (arguments.take count) sorting).result = .error error ∧
      error.IsShortage := by
  have agrees := compile_append_agrees metadata entity tree sorting (arguments.take count)
    (arguments.drop count)
  rw [List.take_append_drop, run] at agrees
  rcases agrees with same | shortage
  · have enough := arities_le_of_compile same.symm
    rw [List.length_take] at enough
    omega
  · exact shortage

end

/-- A call comes to the same whatever stands behind the arguments that are consumed, and fails for
want of arguments if one of those is missing. A call that fails for another reason goes on to do so
with more arguments. -/
theorem compile_uses_consumed (metadata : Metadata) (entity : String) (tree : PartTree)
    (arguments : List Argument) (sorting : Option Sorting) :
    (∀ query, (compile metadata entity tree arguments sorting).result = .ok query →
      (∀ more, (compile metadata entity tree (arguments ++ more) sorting).result = .ok query) ∧
      (compile metadata entity tree (arguments.take (arities tree.parts)) sorting).result =
        .ok query ∧
      ∀ count < arities tree.parts, ∃ operator needed supplied,
        (compile metadata entity tree (arguments.take count) sorting).result =
          .error (.insufficientArguments operator needed supplied)) ∧
    (∀ error, (compile metadata entity tree arguments sorting).result = .error error →
      (∀ operator needed supplied, error ≠ .insufficientArguments operator needed supplied) →
        ∀ more, (compile metadata entity tree (arguments ++ more) sorting).result =
          .error error) := by
  have agrees := compile_append_agrees metadata entity tree sorting arguments
  apply And.intro
  · intro query run
    refine ⟨fun more => ?_, ?_, fun count few => ?_⟩
    · have settled : ∀ error, (compile metadata entity tree arguments sorting).result =
          .error error → ¬ error.IsShortage := by
        intro error failed
        rw [run] at failed
        cases failed
      rw [(agrees more).eq_of_settled settled, run]
    · rw [compile_take_of_le (Nat.le_refl _), run]
    · obtain ⟨error, failed, operator, needed, supplied, rfl⟩ := compile_take_of_lt run few
      exact ⟨operator, needed, supplied, failed⟩
  · intro error failed other more
    have settled : ∀ found, (compile metadata entity tree arguments sorting).result =
        .error found → ¬ found.IsShortage := by
      intro found same shortage
      rw [failed] at same
      cases same
      obtain ⟨operator, needed, supplied, rfl⟩ := shortage
      exact other operator needed supplied rfl
    rw [(agrees more).eq_of_settled settled, failed]

theorem near_uses_its_point :
    (compile placeCatalog "Place" { groups := [[placePart "location" .near]] } [geoPoint origin]
      none).result = .ok nearQuery ∧
    (∀ more, (compile placeCatalog "Place" { groups := [[placePart "location" .near]] }
      ([geoPoint origin] ++ more) none).result = .ok nearQuery) ∧
    (∃ operator needed supplied,
      (compile placeCatalog "Place" { groups := [[placePart "location" .near]] } [] none).result =
        .error (.insufficientArguments operator needed supplied)) ∧
    (∀ more, (compile placeCatalog "Place" { groups := [[placePart "name" .startingWith]] }
      ([.sequence []] ++ more) none).result =
        .error (.invalidArgument .startingWith .sequenceAsPattern)) := by
  have near := compile_uses_consumed placeCatalog "Place"
    { groups := [[placePart "location" .near]] } [geoPoint origin] none
  have pattern := compile_uses_consumed placeCatalog "Place"
    { groups := [[placePart "name" .startingWith]] } [.sequence []] none
  obtain ⟨longer, -, shorter⟩ := near.1 nearQuery rfl
  exact ⟨rfl, longer, shorter 0 (by decide), pattern.2 _ rfl (by simp)⟩

end FinderQuery

import FinderQuery.Proofs.Agreement
import Mathlib.Tactic.MkIffOfInductiveProp

namespace FinderQuery

open Argument

namespace Catalog

variable {catalog : Catalog} {entity : String}

theorem exists_collectionName_iff :
    (∃ collection, catalog.collectionName entity = .ok collection) ↔
      ∃ record, catalog.entities.get? entity = some record := by
  unfold collectionName Catalog.entity
  cases catalog.entities.get? entity <;> simp [Except.map]

theorem exists_property_iff {path : PropertyPath} :
    (∃ property, catalog.metadata.property entity path = .ok property) ↔
      ∃ record, catalog.entities.get? entity = some record ∧
        ∃ property, record.properties.get? path.display = some property := by
  rw [property_metadata]
  unfold Catalog.property Catalog.entity
  cases catalog.entities.get? entity with
  | none => simp [Except.map]
  | some record => cases found : record.properties.get? path.display <;> simp [found, Except.map]

end Catalog

namespace Operator

def IsSupported (operator : Operator) : Prop :=
  operator ≠ .isEmpty ∧ operator ≠ .isNotEmpty ∧ operator ≠ .notContaining

def IsPattern (operator : Operator) : Prop := operator = .startingWith ∨ operator = .endingWith

theorem exists_template?_iff {operator : Operator} :
    (∃ template, operator.template? = some template) ↔ operator.IsSupported := by
  have absent := template?_eq_none_iff operator
  rw [← Option.isSome_iff_exists, Option.isSome_iff_ne_none, Ne, absent, IsSupported]
  simp only [not_or, Ne]

end Operator

/-- Whether an operator can take an argument that comes after others in its share: a list is no
scalar, a range comes right behind one point of a within part, and a pattern is made of a string. -/
@[mk_iff]
structure Operator.Accepts (operator : Operator) (earlier : List Argument) (argument : Argument) :
    Prop where
  noList : ∀ items, argument ≠ scalar (.array items)
  range : ∀ range, argument = geoRange range →
    operator = .within ∧ ∃ point, earlier = [geoPoint point]
  pattern : operator.IsPattern →
    (∃ text, argument = scalar (.string text)) ∨ ∃ point, argument = geoPoint point

theorem any_isPoint_iff {earlier : List Argument} (short : earlier.length ≤ 1) :
    (earlier.getLast?.any isPoint ∧ ¬ earlier.any isRange) ↔
      ∃ point, earlier = [geoPoint point] := by
  rcases earlier with _ | ⟨argument, _ | ⟨second, rest⟩⟩
  · simp
  · cases argument <;> simp [isPoint, isRange]
  · simp at short

namespace BindRequest

variable {request : BindRequest}

theorem fault?_eq_none_iff {earlier : List Argument} {argument : Argument}
    (exact : request.mode = .exact ↔ ¬ request.operator.IsPattern) (short : earlier.length ≤ 1) :
    request.fault? earlier argument = none ↔ request.operator.Accepts earlier argument := by
  rw [Operator.accepts_iff]
  rcases argument with value | items | point | range
  · cases value <;> simp [fault?, exact]
  · simp [fault?, exact]
  · simp [fault?]
  · have noPattern : request.operator = .within → ¬ request.operator.IsPattern := by
      intro within
      rw [within]
      simp [Operator.IsPattern]
    have fits : request.fault? earlier (geoRange range) = none ↔
        request.operator = .within ∧ ∃ point, earlier = [geoPoint point] := by
      rw [← any_isPoint_iff short]
      simp [fault?]
    rw [fits]
    simpa using fun within _ _ => noPattern within

theorem firstFault?_eq_none_iff {share : List Argument}
    (exact : request.mode = .exact ↔ ¬ request.operator.IsPattern) (short : share.length ≤ 2) :
    request.firstFault? [] share = none ↔
      ∀ front argument back, share = front ++ argument :: back →
        request.operator.Accepts front argument := by
  have few {front back : List Argument} {argument : Argument}
      (split : share = front ++ argument :: back) : front.length ≤ 1 := by
    simp only [split, List.length_append, List.length_cons] at short
    omega
  rw [firstFault?, List.findSome?_eq_none_iff]
  apply Iff.intro
  · intro fits front argument back split
    have listed : (front, argument) ∈ withEarlier [] share :=
      mem_withEarlier.mpr ⟨front, back, split, rfl⟩
    exact (fault?_eq_none_iff exact (few split)).mp (fits _ listed)
  · intro accepted given listed
    rcases given with ⟨earlier, argument⟩
    obtain ⟨front, back, split, rfl⟩ := mem_withEarlier.mp listed
    exact (fault?_eq_none_iff exact (few split)).mpr (accepted _ argument back split)

end BindRequest

variable {target : Compile.Target} {arguments : List Argument}

theorem Placement.exists_offer_iff {place : Placement} :
    (∃ offered, place.offer target arguments = .ok offered) ↔
      (∃ property, target.metadata.property target.entity place.part.property = .ok property) ∧
        place.part.operator.IsSupported ∧
        place.part.operator.arity ≤ (place.share arguments).length ∧
        ∀ front argument back, place.share arguments = front ++ argument :: back →
          place.part.operator.Accepts front argument := by
  have fits (property : Metadata.Property) :
      (place.part.request property.leaf).error? (place.share arguments) = none ↔
        (∀ front argument back, place.share arguments = front ++ argument :: back →
          place.part.operator.Accepts front argument) ∧
        place.part.operator.arity ≤ (place.share arguments).length := by
    rw [BindRequest.error?_eq_none_iff, BindRequest.firstFault?_eq_none_iff
      Operator.mode_eq_exact_iff (place.length_share_le arguments)]
    rfl
  simp only [offer_eq_ok_iff, ← Operator.exists_template?_iff]
  apply Iff.intro
  · intro given
    rcases given with ⟨_, property, template, known, found, none, rfl⟩
    obtain ⟨accepted, enough⟩ := (fits property).mp none
    exact ⟨⟨property, known⟩, ⟨template, found⟩, enough, accepted⟩
  · intro given
    rcases given with ⟨⟨property, known⟩, ⟨template, found⟩, enough, accepted⟩
    exact ⟨_, property, template, known, found, (fits property).mpr ⟨accepted, enough⟩, rfl⟩

namespace Placement

theorem forall_accepts_iff {place : Placement} :
    (∀ front argument back, place.share arguments = front ++ argument :: back →
      place.part.operator.Accepts front argument) ↔
      (∀ argument ∈ place.share arguments, ∀ items, argument ≠ scalar (.array items)) ∧
      (∀ front range back, place.share arguments = front ++ geoRange range :: back →
        place.part.operator = .within ∧ ∃ point, front = [geoPoint point]) ∧
      (place.part.operator.IsPattern → ∀ argument ∈ place.share arguments,
        (∃ text, argument = scalar (.string text)) ∨ ∃ point, argument = geoPoint point) := by
  apply Iff.intro
  · intro accepted
    refine ⟨fun argument member => ?_, fun front range back split => ?_,
      fun pattern argument member => ?_⟩
    · obtain ⟨front, back, split⟩ := List.append_of_mem member
      exact (accepted front argument back split).noList
    · exact (accepted front _ back split).range range rfl
    · obtain ⟨front, back, split⟩ := List.append_of_mem member
      exact (accepted front argument back split).pattern pattern
  · intro given front argument back split
    rcases given with ⟨noList, ranged, patterned⟩
    have member : argument ∈ place.share arguments := by simp [split]
    refine ⟨noList argument member, ?_, fun pattern => patterned pattern argument member⟩
    intro range same
    subst same
    exact ranged front range back split

end Placement

/-- What has to hold of a tree and the arguments of a call so that a query comes out. -/
structure Compilable (catalog : Catalog) (entity : String) (tree : PartTree)
    (arguments : List Argument) : Prop where
  registered : ∃ record, catalog.entities.get? entity = some record
  known : ∀ part ∈ tree.parts, ∃ record, catalog.entities.get? entity = some record ∧
    ∃ property, record.properties.get? part.property.display = some property
  supported : ∀ part ∈ tree.parts, part.operator.IsSupported
  single : tree.parts.countP (·.operator.isGeo) ≤ 1
  enough : arities tree.parts ≤ arguments.length
  noList : ∀ argument ∈ arguments.take (arities tree.parts), ∀ items,
    argument ≠ scalar (.array items)
  range : ∀ place ∈ placements [] tree.groups, ∀ front range back,
    place.share arguments = front ++ geoRange range :: back →
      place.part.operator = .within ∧ ∃ point, front = [geoPoint point]
  pattern : ∀ place ∈ placements [] tree.groups, place.part.operator.IsPattern →
    ∀ argument ∈ place.share arguments,
      (∃ text, argument = scalar (.string text)) ∨ ∃ point, argument = geoPoint point

theorem exists_compile_iff {metadata : Metadata} {entity : String} {tree : PartTree}
    {sorting : Option Sorting} :
    (∃ query, (compile metadata entity tree arguments sorting).result = .ok query) ↔
      ∃ collection, metadata.collectionName entity = .ok collection ∧
        ∃ contributions, Reference.groups ⟨metadata, entity, collection⟩ arguments [] tree.groups =
          .ok contributions := by
  simp only [compile_eq_ok_iff]
  apply Iff.intro
  · intro given
    rcases given with ⟨_, collection, contributions, registered, run, rfl⟩
    exact ⟨collection, registered, contributions, run⟩
  · intro given
    rcases given with ⟨collection, registered, contributions, run⟩
    exact ⟨_, collection, contributions, registered, run, rfl⟩

theorem compile_succeeds_iff (catalog : Catalog) (entity : String) (tree : PartTree)
    (arguments : List Argument) (sorting : Option Sorting) :
    (∃ query, (compile catalog entity tree arguments sorting).result = .ok query) ↔
      Compilable catalog entity tree arguments := by
  rw [exists_compile_iff]
  apply Iff.intro
  · intro given
    rcases given with ⟨collection, registered, contributions, run⟩
    have each := Reference.exists_groups_iff.mp ⟨contributions, run⟩
    simp only [Placement.exists_offer_iff, Catalog.exists_property_iff,
      Placement.forall_accepts_iff] at each
    refine ⟨Catalog.exists_collectionName_iff.mp ⟨collection, registered⟩,
      Placement.forall_part_iff.mp fun place member => ?known,
      Placement.forall_part_iff.mp fun place member => ?supported,
      countP_isGeo_le_one_iff.mpr (forall_placements_iff.mp fun place member => ?single),
      Placement.forall_arity_le_iff.mp fun place member => ?enough,
      Placement.forall_share_iff.mp fun place member => ?noList,
      fun place member => ?range, fun place member => ?pattern⟩
    all_goals
      obtain ⟨⟨known, supported, enough, noList, range, pattern⟩, single⟩ := each place member
      assumption
  · intro given
    rcases given with ⟨registered, known, supported, single, enough, noList, range, pattern⟩
    obtain ⟨collection, registered⟩ := Catalog.exists_collectionName_iff.mpr registered
    refine ⟨collection, registered, Reference.exists_groups_iff.mpr fun place member => ?_⟩
    rw [Placement.exists_offer_iff, Catalog.exists_property_iff, Placement.forall_accepts_iff]
    exact ⟨⟨Placement.forall_part_iff.mpr known place member,
      Placement.forall_part_iff.mpr supported place member,
      Placement.forall_arity_le_iff.mpr enough place member,
      Placement.forall_share_iff.mpr noList place member, range place member,
      pattern place member⟩,
      forall_placements_iff.mpr (countP_isGeo_le_one_iff.mp single) place member⟩

end FinderQuery

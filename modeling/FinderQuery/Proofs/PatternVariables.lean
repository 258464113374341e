import FinderQuery.Proofs.GeoVariables
import FinderQuery.Proofs.Patterns

namespace FinderQuery

open Argument

variable {target : Compile.Target} {arguments : List Argument} {place : Placement}

namespace Reference

variable {tree : List (List Part)} {error : CompileError}

theorem groups_eq_error_of_offer (member : place ∈ placements [] tree)
    (outside : ∃ contributions, groups target arguments [] place.groupsBefore = .ok contributions)
    (inside : ∃ contributions,
      parts target arguments place.groupsBefore [] place.partsBefore = .ok contributions)
    (fails : place.offer target arguments = .error error) :
    groups target arguments [] tree = .error error := by
  obtain ⟨parts, listed, within⟩ := mem_placements.mp member
  obtain ⟨groupsBefore, groupsAfter, split, outer⟩ := mem_withEarlier.mp listed
  obtain ⟨partsBefore, partsAfter, inner, front⟩ := mem_withEarlier.mp within
  rw [List.nil_append] at outer front
  rw [outer] at outside inside
  rw [front] at inside
  -- The part's error is that of its group, and the group's that of the tree.
  have refused : group target arguments groupsBefore parts = .error error := by
    have run : Reference.parts target arguments groupsBefore [] parts = .error error := by
      rw [Reference.parts, inner, withEarlier_append, withEarlier, List.nil_append]
      refine mapM_eq_error_of_front inside ?_
      have same : Placement.mk groupsBefore partsBefore place.part = place := by
        rw [← outer, ← front]
      show Placement.contribution target arguments ⟨groupsBefore, partsBefore, place.part⟩ = _
      rw [same, Placement.contribution, fails]
      rfl
    rw [group, run]
    rfl
  rw [groups, split, withEarlier_append, withEarlier, List.nil_append]
  exact mapM_eq_error_of_front outside refused

end Reference

namespace Operator

def likePattern : Operator → String → String
  | startingWith, text => Text.escapeLike text ++ "%"
  | endingWith, text => "%" ++ Text.escapeLike text
  | _, text => text

def refusal (operator : Operator) : Argument → CompileError
  | .geoRange _ => .misplacedGeoRange operator
  | .scalar (.array _) => .invalidArgument operator .listAsScalar
  | .sequence _ => .invalidArgument operator .sequenceAsPattern
  | _ => .invalidArgument operator .nonStringAsPattern

variable {operator : Operator} {template : Template}

theorem IsPattern.exists_template? (pattern : operator.IsPattern) :
    ∃ template, operator.template? = some template := by
  rcases pattern with rfl | rfl <;> exact ⟨_, rfl⟩

theorem IsPattern.arity_eq_one (pattern : operator.IsPattern) : operator.arity = 1 := by
  rcases pattern with rfl | rfl <;> rfl

theorem IsPattern.mode_pattern (pattern : operator.IsPattern) :
    operator.mode.pattern = operator.likePattern := by
  rcases pattern with rfl | rfl <;> rfl

end Operator

namespace BindRequest

variable {request : BindRequest}

theorem fault?_eq_refusal (needsString : request.mode ≠ .exact)
    (noWithin : request.operator ≠ .within) {argument : Argument}
    (noString : ∀ text, argument ≠ scalar (.string text))
    (noPoint : ∀ point, argument ≠ geoPoint point) (earlier : List Argument) :
    request.fault? earlier argument = some (request.operator.refusal argument) := by
  rcases argument with value | items | point | range
  · cases value with
    | string text => exact absurd rfl (noString text)
    | array items => rfl
    | _ => exact if_neg needsString
  · exact if_neg needsString
  · exact absurd rfl (noPoint point)
  · exact if_neg fun fits => noWithin fits.1

end BindRequest

theorem Placement.offer_eq_error_of_refused {property : Metadata.Property} {argument : Argument}
    (pattern : place.part.operator.IsPattern)
    (known : target.metadata.property target.entity place.part.property = .ok property)
    (share : place.share arguments = [argument])
    (noString : ∀ text, argument ≠ scalar (.string text))
    (noPoint : ∀ point, argument ≠ geoPoint point) :
    place.offer target arguments = .error (place.part.operator.refusal argument) := by
  obtain ⟨template, found⟩ := pattern.exists_template?
  have needsString : place.part.operator.mode ≠ .exact := fun exact =>
    Operator.mode_eq_exact_iff.mp exact pattern
  have noWithin : place.part.operator ≠ .within := by
    intro within
    rw [within] at pattern
    rcases pattern with same | same <;> cases same
  have refused : (place.part.request property.leaf).error? (place.share arguments) =
      some (place.part.operator.refusal argument) := by
    rw [share, BindRequest.error?, BindRequest.firstFault?_cons,
      BindRequest.fault?_eq_refusal needsString noWithin noString noPoint]
    rfl
  have loaded := Compile.templateOf_eq_ok_iff.mpr found
  simp only [offer_eq, known, loaded, bind, Except.bind, refused]

namespace Compile

/-- The part consumed one string and wrote one variable, which holds the pattern for it. -/
def Visit.BindsPattern (visit : Visit) (vars : BindVars) (operator : Operator)
    (ignoreCase : Bool) : Prop :=
  ∃ text, visit.taken = [scalar (.string text)] ∧ visit.after.nextKey = visit.first + 1 ∧
    vars.get? (keyText visit.first) =
      some (.string (operator.likePattern (Text.lowercaseIf ignoreCase text)))

def Visit.BindsPoint (visit : Visit) (vars : BindVars) : Prop :=
  ∃ point, visit.taken = [geoPoint point] ∧ visit.after.nextKey = visit.first + 2 ∧
    vars.HoldsFrom visit.first [.float point.x, .float point.y]

end Compile

section

variable {metadata : Metadata} {entity : String} {tree : PartTree} {sorting : Option Sorting}

theorem string_or_point_of_compile {query : CompiledQuery} {argument : Argument}
    (run : (compile metadata entity tree arguments sorting).result = .ok query)
    (member : place ∈ placements [] tree.groups) (pattern : place.part.operator.IsPattern)
    (share : place.share arguments = [argument]) :
    (∃ text, argument = scalar (.string text)) ∨ ∃ point, argument = geoPoint point := by
  obtain ⟨collection, registered, groups⟩ := exists_compile_iff.mp ⟨query, run⟩
  obtain ⟨offered, -⟩ := Reference.exists_groups_iff.mp groups place member
  obtain ⟨-, -, -, accepted⟩ := Placement.exists_offer_iff.mp offered
  obtain ⟨-, -, needsString⟩ := Placement.forall_accepts_iff.mp accepted
  refine needsString pattern argument ?_
  rw [share]
  exact List.mem_cons_self

theorem exists_pattern_visit {query : CompiledQuery}
    (run : (compile metadata entity tree arguments sorting).result = .ok query)
    (member : place ∈ placements [] tree.groups) (pattern : place.part.operator.IsPattern) :
    ∃ collection property visit, metadata.collectionName entity = .ok collection ∧
      metadata.property entity place.part.property = .ok property ∧
      Compile.visit ⟨metadata, entity, collection⟩ arguments place = .ok visit ∧
      visit.taken = place.share arguments ∧
      (visit.BindsPattern query.bindVars place.part.operator
          (place.part.ignoresCase property.leaf) ∨
        visit.BindsPoint query.bindVars) := by
  obtain ⟨collection, property, template, visit, registered, known, found, visited, -, taken, full,
    after, held⟩ := Compile.exists_rendered_visit run member
  rw [pattern.arity_eq_one] at full
  obtain ⟨argument, single⟩ := List.length_eq_one_iff.mp full
  have share : place.share arguments = [argument] := taken.symm.trans single
  rw [single] at after
  rw [single, List.flatMap_singleton] at held
  refine ⟨collection, property, visit, registered, known, visited, taken, ?_⟩
  rcases string_or_point_of_compile run member pattern share with ⟨text, rfl⟩ | ⟨point, rfl⟩
  · refine Or.inl ⟨text, single, after, ?_⟩
    rw [BindRequest.valuesOf_string, Part.request_ignoreCase] at held
    have first := held 0 _ rfl
    rw [← pattern.mode_pattern]
    exact first
  · refine Or.inr ⟨point, single, after, ?_⟩
    have kept : (place.part.request property.leaf).valuesOf (geoPoint point) =
        [.float point.x, .float point.y] := rfl
    rw [kept] at held
    exact held

theorem compile_eq_refusal {collection : String} {property : Metadata.Property} {before : Binder}
    {argument : Argument} (member : place ∈ placements [] tree.groups)
    (pattern : place.part.operator.IsPattern)
    (registered : metadata.collectionName entity = .ok collection)
    (known : metadata.property entity place.part.property = .ok property)
    (arrived : Compile.arrival ⟨metadata, entity, collection⟩ arguments place = .ok before)
    (share : place.share arguments = [argument])
    (noString : ∀ text, argument ≠ scalar (.string text))
    (noPoint : ∀ point, argument ≠ geoPoint point) :
    (compile metadata entity tree arguments sorting).result =
      .error (place.part.operator.refusal argument) := by
  obtain ⟨outside, inside, groups, parts, -⟩ := Compile.arrival_eq_ok_iff.mp arrived
  have refused : place.offer ⟨metadata, entity, collection⟩ arguments =
      .error (place.part.operator.refusal argument) :=
    Placement.offer_eq_error_of_refused pattern known share noString noPoint
  rw [compile_result_of_collection registered,
    Reference.groups_eq_error_of_offer member ⟨outside, groups⟩ ⟨inside, parts⟩ refused]
  rfl

example :
    (compile placeCatalog "Place" { groups := [[placePart "name" .startingWith]] }
      [sequence [.string "x"]] none).result =
        .error (.invalidArgument .startingWith .sequenceAsPattern) :=
  rfl

theorem compile_fails_of_no_pattern {argument : Argument}
    (member : place ∈ placements [] tree.groups) (pattern : place.part.operator.IsPattern)
    (share : place.share arguments = [argument])
    (noString : ∀ text, argument ≠ scalar (.string text))
    (noPoint : ∀ point, argument ≠ geoPoint point) :
    ∃ error, (compile metadata entity tree arguments sorting).result = .error error := by
  cases run : (compile metadata entity tree arguments sorting).result with
  | error error => exact ⟨error, rfl⟩
  | ok query =>
    rcases string_or_point_of_compile run member pattern share with ⟨text, same⟩ | ⟨point, same⟩
    · exact absurd same (noString text)
    · exact absurd same (noPoint point)

/-- In a query that compiles, a part that asks for a beginning or an end wrote one variable with the
pattern for its string, exactly if it consumed a string; else it consumed a point and wrote its
coordinates. With any other argument nothing compiles, and the error is that argument's if the
compiler comes to the part. -/
theorem pattern_part_binds_pattern_iff (member : place ∈ placements [] tree.groups)
    (pattern : place.part.operator.IsPattern) :
    (∀ query, (compile metadata entity tree arguments sorting).result = .ok query →
      ∃ collection property visit, metadata.collectionName entity = .ok collection ∧
        metadata.property entity place.part.property = .ok property ∧
        Compile.visit ⟨metadata, entity, collection⟩ arguments place = .ok visit ∧
        visit.taken = place.share arguments ∧
        (visit.BindsPattern query.bindVars place.part.operator
            (place.part.ignoresCase property.leaf) ↔
          ∃ text, visit.taken = [scalar (.string text)]) ∧
        ((¬ ∃ text, visit.taken = [scalar (.string text)]) → visit.BindsPoint query.bindVars)) ∧
    ∀ argument, place.share arguments = [argument] →
      (∀ text, argument ≠ scalar (.string text)) → (∀ point, argument ≠ geoPoint point) →
        (∃ error, (compile metadata entity tree arguments sorting).result = .error error) ∧
        ∀ collection property before, metadata.collectionName entity = .ok collection →
          metadata.property entity place.part.property = .ok property →
          Compile.arrival ⟨metadata, entity, collection⟩ arguments place = .ok before →
            (compile metadata entity tree arguments sorting).result =
              .error (place.part.operator.refusal argument) := by
  constructor
  · intro query run
    obtain ⟨collection, property, visit, registered, known, visited, taken, bound⟩ :=
      exists_pattern_visit run member pattern
    refine ⟨collection, property, visit, registered, known, visited, taken, ?_, ?_⟩
    · constructor
      · intro binds
        obtain ⟨text, single, -⟩ := binds
        exact ⟨text, single⟩
      · intro given
        obtain ⟨text, single⟩ := given
        rcases bound with binds | ⟨point, other, -⟩
        · exact binds
        · rw [single] at other
          cases other
    · intro noString
      rcases bound with ⟨text, single, -⟩ | binds
      · exact absurd ⟨text, single⟩ noString
      · exact binds
  · intro argument share noString noPoint
    exact ⟨compile_fails_of_no_pattern member pattern share noString noPoint,
      fun collection property before registered known arrived =>
        compile_eq_refusal member pattern registered known arrived share noString noPoint⟩

end

def endingTree : PartTree where
  groups := [[placePart "location" .near, placePart "name" .endingWith]]

def endingPlacement : Placement where
  groupsBefore := []
  partsBefore := [placePart "location" .near]
  part := placePart "name" .endingWith

def endingArguments : List Argument := [geoPoint origin, scalar (.string "5%")]

def endingQuery : CompiledQuery where
  text :=
    "FOR e IN (FOR e IN NEAR(places, @0, @1) RETURN UNSET(e, '_distance')) " ++
      "FILTER e.name LIKE @2 RETURN e"
  bindVars := .ofValues [.float origin.x, .float origin.y, .string "%5\\%"]

theorem ending_binds_pattern_of_string :
    (compile placeCatalog "Place" endingTree endingArguments none).result = .ok endingQuery ∧
    endingPlacement ∈ placements [] endingTree.groups ∧
    endingPlacement.part.operator.IsPattern ∧
    (∃ visit, Compile.visit ⟨placeCatalog, "Place", "places"⟩ endingArguments endingPlacement =
        .ok visit ∧
      visit.first = 2 ∧ visit.BindsPattern endingQuery.bindVars .endingWith false) ∧
    (compile placeCatalog "Place" endingTree [geoPoint origin, scalar (.int 5)] none).result =
      .error (.invalidArgument .endingWith .nonStringAsPattern) := by
  have run : (compile placeCatalog "Place" endingTree endingArguments none).result =
      .ok endingQuery := by exact rfl
  have member : endingPlacement ∈ placements [] endingTree.groups :=
    List.mem_cons_of_mem _ List.mem_cons_self
  have pattern : endingPlacement.part.operator.IsPattern := Or.inr rfl
  obtain ⟨collection, property, visit, registered, known, visited, taken, binds, -⟩ :=
    (pattern_part_binds_pattern_iff member pattern).1 endingQuery run
  cases registered
  cases known
  have first : visit.first = 2 := by
    cases visited
    rfl
  have share : endingPlacement.share [geoPoint origin, scalar (.int 5)] = [scalar (.int 5)] := rfl
  have failed : (compile placeCatalog "Place" endingTree [geoPoint origin, scalar (.int 5)]
      none).result = .error (.invalidArgument .endingWith .nonStringAsPattern) :=
    ((pattern_part_binds_pattern_iff member pattern).2 _ share (fun _ same => by cases same)
      (fun _ same => by cases same)).2 "places" ⟨"name", { kind := .string }⟩ _ rfl rfl rfl
  exact ⟨run, member, pattern, ⟨visit, visited, first, binds.mpr ⟨"5%", taken⟩⟩, failed⟩

/-- A point takes the place of the string, and two variables the place of its pattern. -/
theorem not_all_pattern_parts_bind_patterns :
    ¬ ∀ (catalog : Catalog) (entity : String) (tree : PartTree) (arguments : List Argument)
      (sorting : Option Sorting) (query : CompiledQuery),
      (compile catalog entity tree arguments sorting).result = .ok query →
        ∀ place ∈ placements [] tree.groups, place.part.operator.IsPattern →
          ∃ collection property visit, catalog.collectionName entity = .ok collection ∧
            catalog.metadata.property entity place.part.property = .ok property ∧
            Compile.visit ⟨catalog, entity, collection⟩ arguments place = .ok visit ∧
            visit.BindsPattern query.bindVars place.part.operator
              (place.part.ignoresCase property.leaf) := by
  intro all
  obtain ⟨collection, property, visit, -, -, visited, text, taken, -⟩ :=
    all placeCatalog "Place" { groups := [[placePart "name" .startingWith]] } [geoPoint origin]
      none ⟨"FOR e IN places FILTER e.name LIKE @0 RETURN e",
        .ofValues [.float origin.x, .float origin.y]⟩
      rfl ⟨[], [], placePart "name" .startingWith⟩ List.mem_cons_self (Or.inl rfl)
  have point : visit.taken = [geoPoint origin] := by
    cases visited
    rfl
  rw [point] at taken
  cases taken

end FinderQuery

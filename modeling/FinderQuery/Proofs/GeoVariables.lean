import FinderQuery.Proofs.OwnVariables
import FinderQuery.Proofs.Projection
import FinderQuery.Proofs.Success

namespace FinderQuery

open Argument

namespace BindVars

theorem get?_ofValues (values : List Value) (key : Nat) :
    (ofValues values).get? (keyText key) = values[key]? := by
  have run (start : Nat) :
      ((values.zipIdx start).map fun entry => (keyText entry.2, entry.1)).lookup
        (keyText (start + key)) = values[key]? := by
    induction values generalizing start key with
    | nil => rfl
    | cons value values ih =>
      rw [List.zipIdx_cons, List.map_cons, Table.lookup_cons_eq_ite]
      cases key with
      | zero => simp
      | succ key =>
        have apart : keyText (start + (key + 1)) ≠ keyText start := by
          intro same
          have number := keyText_injective (congrArg String.toList same)
          omega
        have later := ih key (start + 1)
        rw [Nat.add_right_comm, Nat.add_assoc] at later
        rw [if_neg apart, later, List.getElem?_cons_succ]
  have whole := run 0
  rw [Nat.zero_add] at whole
  exact whole

def HoldsFrom (vars : BindVars) (first : Nat) (values : List Value) : Prop :=
  ∀ offset value, values[offset]? = some value → vars.get? (keyText (first + offset)) = some value

theorem holdsFrom_of_append (front values back : List Value) :
    (ofValues (front ++ (values ++ back))).HoldsFrom front.length values := by
  intro offset value here
  have within := (List.getElem?_eq_some_iff.mp here).1
  rw [get?_ofValues, List.getElem?_append_right (Nat.le_add_right _ _), Nat.add_sub_cancel_left,
    List.getElem?_append_left within, here]

end BindVars

theorem exists_split_of_forall₂ {α β : Type} {R : α → β → Prop} {front back : List α} {item : α}
    {results : List β} (related : List.Forall₂ R (front ++ item :: back) results) :
    ∃ before result after, results = before ++ result :: after ∧
      List.Forall₂ R front before ∧ R item result := by
  induction front generalizing results with
  | nil =>
    cases related with
    | cons head tail => exact ⟨[], _, _, rfl, .nil, head⟩
  | cons first front ih =>
    cases related with
    | cons head tail =>
      obtain ⟨before, result, after, rfl, others, here⟩ := ih tail
      exact ⟨_ :: before, result, after, rfl, .cons head others, here⟩

variable {target : Compile.Target} {arguments : List Argument} {place : Placement}

namespace Reference

variable {tree : List (List Part)} {contributions : List (List Contribution)}

theorem exists_contributions_around (run : groups target arguments [] tree = .ok contributions)
    (member : place ∈ placements [] tree) :
    ∃ offered before after, place.offer target arguments = .ok offered ∧
      contributions.flatten = before ++ offered :: after ∧
      (before.flatMap Contribution.values).length = place.firstKey arguments := by
  obtain ⟨group, listed, within⟩ := mem_placements.mp member
  obtain ⟨groupsBefore, groupsAfter, split, outer⟩ := mem_withEarlier.mp listed
  obtain ⟨partsBefore, partsAfter, inner, parts⟩ := mem_withEarlier.mp within
  rw [List.nil_append] at outer parts
  rw [groups, split, withEarlier_append, withEarlier, List.nil_append] at run
  obtain ⟨outside, added, rest, rfl, groupsRun, here⟩ :=
    exists_split_of_forall₂ (mapM_eq_ok_iff.mp run)
  have partsRun := (group_eq_ok_iff.mp here).1
  rw [Reference.parts, inner, withEarlier_append, withEarlier, List.nil_append] at partsRun
  obtain ⟨inside, offered, others, rfl, earlierRun, offer⟩ :=
    exists_split_of_forall₂ (mapM_eq_ok_iff.mp partsRun)
  have outerLength := length_values (mapM_eq_ok_iff.mpr groupsRun)
  have innerLength := length_values_of_parts (mapM_eq_ok_iff.mpr earlierRun)
  rw [List.append_nil, List.nil_append] at innerLength
  rw [← outer, ← parts] at offer
  refine ⟨offered, outside.flatten ++ inside, others ++ rest.flatten,
    (Placement.contribution_eq_ok_iff.mp offer).1, ?_, ?_⟩
  · simp only [List.flatten_append, List.flatten_cons, List.append_assoc, List.cons_append]
  · rw [List.flatMap_append, List.length_append, outerLength, innerLength, ← outer, ← parts]
    rfl

end Reference

namespace Compile

theorem text_of_source {collection text : String} {tree : PartTree} {sorting : Option Sorting}
    {contributions : List (List Contribution)} {added : Contribution}
    (run : Reference.groups target arguments [] tree.groups = .ok contributions)
    (member : added ∈ contributions.flatten) (source : added.fragment = .source text) :
    ∃ rest, Query.assemble collection (Reference.outline contributions).selection tree sorting =
      "FOR e IN " ++ text ++ rest := by
  have single := Reference.countP_isSource_le_one run
  have chosen : text ∈ ((contributions.flatten.map Contribution.fragment).filterMap
      Fragment.source?).head? := by
    rw [Fragment.mem_head?_sources_iff single, ← source]
    exact List.mem_map_of_mem member
  rw [← Reference.flatten_fragments, Option.mem_def] at chosen
  have used : (Reference.outline contributions).selection.source = some text := chosen
  rw [Query.assemble_eq, Query.head, used, Option.getD_some, String.append_assoc]
  exact ⟨_, rfl⟩

theorem exists_visit_holding {metadata : Metadata} {entity : String} {tree : PartTree}
    {sorting : Option Sorting} {query : CompiledQuery}
    (run : (compile metadata entity tree arguments sorting).result = .ok query)
    (member : place ∈ placements [] tree.groups) :
    ∃ collection found offered, metadata.collectionName entity = .ok collection ∧
      visit ⟨metadata, entity, collection⟩ arguments place = .ok found ∧
      place.offer ⟨metadata, entity, collection⟩ arguments = .ok offered ∧
      found.fragment = offered.fragment ∧ found.first = place.firstKey arguments ∧
      found.taken = place.share arguments ∧
      found.after.nextKey = found.first + slotsOf found.taken ∧
      query.bindVars.HoldsFrom found.first offered.values ∧
      ∀ text, found.fragment = .source text → ∃ rest, query.text = "FOR e IN " ++ text ++ rest := by
  obtain ⟨collection, contributions, registered, groups, rfl⟩ := compile_eq_ok_iff.mp run
  obtain ⟨found, offered, visited, offer, fragment, first, taken, after⟩ :=
    visit_of_member groups member
  obtain ⟨same, before, behind, again, split, length⟩ :=
    Reference.exists_contributions_around groups member
  rw [offer] at again
  cases again
  refine ⟨collection, found, offered, registered, visited, offer, fragment, first, taken,
    after, ?_, ?_⟩
  · rw [split, List.flatMap_append, List.flatMap_cons, first, ← length]
    exact BindVars.holdsFrom_of_append _ offered.values _
  · intro text source
    have listed : offered ∈ contributions.flatten := by
      rw [split]
      exact List.mem_append_right before List.mem_cons_self
    exact text_of_source groups listed (fragment ▸ source)

theorem exists_rendered_visit {metadata : Metadata} {entity : String} {tree : PartTree}
    {sorting : Option Sorting} {query : CompiledQuery}
    (run : (compile metadata entity tree arguments sorting).result = .ok query)
    (member : place ∈ placements [] tree.groups) :
    ∃ collection property template found, metadata.collectionName entity = .ok collection ∧
      metadata.property entity place.part.property = .ok property ∧
      place.part.operator.template? = some template ∧
      visit ⟨metadata, entity, collection⟩ arguments place = .ok found ∧
      found.fragment = (template.chosen (isDonut place.part.operator found.taken)).render
        (place.part.context ⟨metadata, entity, collection⟩ property) found.first ∧
      found.taken = place.share arguments ∧
      found.taken.length = place.part.operator.arity ∧
      found.after.nextKey = found.first + slotsOf found.taken ∧
      query.bindVars.HoldsFrom found.first
        (found.taken.flatMap (place.part.request property.leaf).valuesOf) := by
  obtain ⟨collection, found, offered, registered, visited, offer, fragment, first, taken, after,
    held, -⟩ := exists_visit_holding run member
  have full := (Placement.fits_of_offer offer).1
  obtain ⟨property, template, known, chosen, -, rfl⟩ := Placement.offer_eq_ok_iff.mp offer
  rw [Placement.fragment, ← first, ← taken] at fragment
  rw [← taken] at full held
  exact ⟨collection, property, template, found, registered, known, chosen, visited, fragment, taken,
    full, after, held⟩

end Compile

namespace GeoClause

def withoutDistance (source : String) : String :=
  "(FOR e IN " ++ source ++ " RETURN UNSET(e, '_distance'))"

def reference (key : Nat) : String := "@" ++ keyText key

def nearText (collection : String) (first : Nat) : String :=
  withoutDistance
    ("NEAR(" ++ collection ++ ", " ++ reference first ++ ", " ++ reference (first + 1) ++ ")")

def withinText (collection : String) (first : Nat) : String :=
  withoutDistance
    ("WITHIN(" ++ collection ++ ", " ++ reference first ++ ", " ++ reference (first + 1) ++ ", " ++
      reference (first + 2) ++ ")")

def donutText (collection : String) (first : Nat) : String :=
  withoutDistance
    ("MINUS(WITHIN(" ++ collection ++ ", " ++ reference first ++ ", " ++ reference (first + 1) ++
        ", " ++ reference (first + 3) ++
      "), WITHIN(" ++ collection ++ ", " ++ reference first ++ ", " ++ reference (first + 1) ++
        ", " ++ reference (first + 2) ++ "))")

def text (operator : Operator) (taken : List Argument) (collection : String) (first : Nat) :
    String :=
  if isDonut operator taken then donutText collection first
  else if operator = .within then withinText collection first
  else nearText collection first

section

variable (context : ClauseContext) (first : Nat)

theorem render_piece_cons (piece : Clause.Piece) (pieces : List Clause.Piece) :
    Clause.render context first (piece :: pieces) =
      piece.render context first ++ Clause.render context first pieces := by
  rw [Clause.render, List.map_cons, String.join_cons, Clause.render]

theorem render_no_pieces : Clause.render context first [] = "" := rfl

theorem render_withoutDistance (source : List Clause.Piece) :
    Clause.render context first (Template.withoutDistance source) =
      withoutDistance (Clause.render context first source) := by
  simp [Clause.render, Template.withoutDistance, Clause.Piece.render, withoutDistance,
    String.append_assoc]

theorem render_eq {operator : Operator} {template : Template} (geo : operator.isGeo)
    (found : operator.template? = some template) (taken : List Argument) :
    (template.chosen (isDonut operator taken)).render context first =
      .source (text operator taken context.collection first) := by
  unfold Template.chosen text
  split
  · refine congrArg Fragment.source ((render_withoutDistance context first _).trans ?_)
    simp only [render_piece_cons, render_no_pieces, Clause.Piece.render, donutText, reference,
      keyText, Nat.add_zero, String.append_assoc, String.append_empty]
  · cases operator with
    | near =>
      cases found
      show _ = Fragment.source (nearText context.collection first)
      refine congrArg Fragment.source ((render_withoutDistance context first _).trans ?_)
      simp only [render_piece_cons, render_no_pieces, Clause.Piece.render, nearText, reference,
        keyText, Nat.add_zero, String.append_assoc, String.append_empty]
    | within =>
      cases found
      show _ = Fragment.source (withinText context.collection first)
      refine congrArg Fragment.source ((render_withoutDistance context first _).trans ?_)
      simp only [render_piece_cons, render_no_pieces, Clause.Piece.render, withinText, reference,
        keyText, Nat.add_zero, String.append_assoc, String.append_empty]
    | _ => cases geo

end

end GeoClause

open GeoClause

theorem Part.valuesOf_of_isGeo {part : Part} (geo : part.operator.isGeo) (leaf : Leaf) :
    (part.request leaf).valuesOf = Argument.values .exact := by
  have caseless : part.operator.isCaseless ∧ part.operator.mode = .exact := by
    cases same : part.operator <;> rw [same] at geo <;> cases geo <;> exact ⟨rfl, rfl⟩
  have kept : (part.request leaf).ignoreCase = false := by
    rw [request_ignoreCase, ignoresCase, not_canIgnoreCase_iff.mpr (Or.inr caseless.1),
      Bool.and_false]
  funext argument
  rw [BindRequest.valuesOf_eq, kept]
  exact congrArg (Argument.values · argument) caseless.2

def Value.IsNumber : Value → Prop
  | int _ | float _ => True
  | _ => False

/-- What geo clauses are made for: a point, and behind it for a within part a distance or a
range. -/
def Operator.IsGeoShare : Operator → List Argument → Prop
  | .near, [geoPoint _] => True
  | .within, [geoPoint _, scalar distance] => distance.IsNumber
  | .within, [geoPoint _, geoRange _] => True
  | _, _ => False

namespace Compile

/-- The variables that a geo clause names hold what it takes them for: the coordinates of a point
that the part consumed, and the distance or the bounds of the range that came behind the point. -/
def Visit.IsServed (visit : Visit) (vars : BindVars) (collection : String) : Operator → Prop
  | .near => ∃ point, geoPoint point ∈ visit.taken ∧
      visit.fragment = .source (nearText collection visit.first) ∧
      vars.HoldsFrom visit.first [.float point.x, .float point.y]
  | .within => ∃ point,
      (∃ distance : Value, distance.IsNumber ∧ [geoPoint point, scalar distance] <:+: visit.taken ∧
        visit.fragment = .source (withinText collection visit.first) ∧
        vars.HoldsFrom visit.first [.float point.x, .float point.y, distance]) ∨
      ∃ range, [geoPoint point, geoRange range] <:+: visit.taken ∧
        visit.fragment = .source (donutText collection visit.first) ∧
        vars.HoldsFrom visit.first
          [.float point.x, .float point.y, .float range.lower, .float range.upper]
  | _ => False

theorem Visit.isServed_iff {visit : Visit} {vars : BindVars} {collection : String}
    {operator : Operator} (full : visit.taken.length = operator.arity)
    (clause : visit.fragment = .source (text operator visit.taken collection visit.first))
    (held : vars.HoldsFrom visit.first (visit.taken.flatMap (Argument.values .exact))) :
    visit.IsServed vars collection operator ↔ operator.IsGeoShare visit.taken := by
  constructor
  · intro served
    cases operator with
    | near =>
      obtain ⟨point, member, -, -⟩ := served
      obtain ⟨only, single⟩ := List.length_eq_one_iff.mp full
      rw [single, List.mem_singleton] at member
      rw [single, ← member]
      exact True.intro
    | within =>
      obtain ⟨point, ⟨distance, number, behind, -, -⟩ | ⟨range, behind, -, -⟩⟩ := served
      · rw [← behind.eq_of_length full.symm]
        exact number
      · rw [← behind.eq_of_length full.symm]
        exact True.intro
    | _ => exact served.elim
  · intro share
    unfold Visit.IsServed
    generalize visit.taken = taken at *
    unfold Operator.IsGeoShare at share
    split at share
    next point => exact ⟨point, List.mem_singleton_self _, clause, held⟩
    next point distance =>
      refine ⟨point, Or.inl ⟨distance, share, List.infix_refl _, clause, ?_⟩⟩
      cases distance <;> exact held
    next point range => exact ⟨point, Or.inr ⟨range, List.infix_refl _, clause, held⟩⟩
    · exact share.elim

end Compile

/-- In a query that compiles, the clause of a geo part is what the query goes through, and from the
first variable of the part on the variables hold what the part consumed. They are what the clause
takes them for exactly if the part consumed such arguments; of the others, lists and misplaced
ranges are kept off. -/
theorem geo_part_is_served_iff {metadata : Metadata} {entity : String} {tree : PartTree}
    {sorting : Option Sorting} {query : CompiledQuery}
    (run : (compile metadata entity tree arguments sorting).result = .ok query)
    (member : place ∈ placements [] tree.groups) (geo : place.part.operator.isGeo) :
    ∃ collection visit,
      metadata.collectionName entity = .ok collection ∧
      Compile.visit ⟨metadata, entity, collection⟩ arguments place = .ok visit ∧
      (visit.IsServed query.bindVars collection place.part.operator ↔
        place.part.operator.IsGeoShare visit.taken) ∧
      visit.fragment =
        .source (text place.part.operator visit.taken collection visit.first) ∧
      (∃ rest, query.text =
        "FOR e IN " ++ text place.part.operator visit.taken collection visit.first ++ rest) ∧
      query.bindVars.HoldsFrom visit.first (visit.taken.flatMap (Argument.values .exact)) ∧
      visit.after.nextKey = visit.first + slotsOf visit.taken ∧
      ∀ front argument back, visit.taken = front ++ argument :: back →
        place.part.operator.Accepts front argument := by
  obtain ⟨collection, visit, offered, registered, visited, offer, fragment, first, taken, after,
    held, through⟩ := Compile.exists_visit_holding run member
  obtain ⟨-, -, -, accepted⟩ := Placement.exists_offer_iff.mp ⟨offered, offer⟩
  have full : visit.taken.length = place.part.operator.arity := by
    rw [taken]
    exact (Placement.fits_of_offer offer).1
  obtain ⟨property, template, known, found, -, rfl⟩ := Placement.offer_eq_ok_iff.mp offer
  have clause : visit.fragment =
      .source (text place.part.operator visit.taken collection visit.first) := by
    rw [fragment, first, taken, Placement.fragment, render_eq _ _ geo found]
    rfl
  rw [Part.valuesOf_of_isGeo geo, ← taken] at held
  rw [← taken] at accepted
  exact ⟨collection, visit, registered, visited, Compile.Visit.isServed_iff full clause held,
    clause, through _ clause, held, after, accepted⟩

def withinTree : PartTree where
  groups := [[placePart "location" .within, placePart "name" .simpleProperty]]

def withinPlacement : Placement where
  groupsBefore := []
  partsBefore := []
  part := placePart "location" .within

def belt : Range := ⟨.finite false .zero, .finite false .zero⟩

def withinArguments : List Argument := [geoPoint origin, geoRange belt, scalar (.string "x")]

def withinQuery : CompiledQuery where
  text :=
    "FOR e IN (FOR e IN MINUS(WITHIN(places, @0, @1, @3), WITHIN(places, @0, @1, @2)) " ++
      "RETURN UNSET(e, '_distance')) FILTER e.name == @4 RETURN e"
  bindVars := .ofValues
    [.float origin.x, .float origin.y, .float belt.lower, .float belt.upper, .string "x"]

theorem within_is_served :
    (compile placeCatalog "Place" withinTree withinArguments none).result = .ok withinQuery ∧
    withinPlacement ∈ placements [] withinTree.groups ∧ withinPlacement.part.operator.isGeo ∧
    ∃ visit, Compile.visit ⟨placeCatalog, "Place", "places"⟩ withinArguments withinPlacement =
        .ok visit ∧
      visit.taken = [geoPoint origin, geoRange belt] ∧
      visit.IsServed withinQuery.bindVars "places" .within := by
  have run : (compile placeCatalog "Place" withinTree withinArguments none).result =
      .ok withinQuery := by exact rfl
  have member : withinPlacement ∈ placements [] withinTree.groups := List.mem_cons_self
  obtain ⟨collection, visit, registered, visited, served, -⟩ :=
    geo_part_is_served_iff run member rfl
  cases registered
  have taken : visit.taken = [geoPoint origin, geoRange belt] := by
    cases visited
    rfl
  refine ⟨run, member, rfl, visit, visited, taken, served.mpr ?_⟩
  rw [taken]
  exact True.intro

/-- A near part is content with a value that is no point. -/
theorem not_all_geo_parts_served :
    ¬ ∀ (catalog : Catalog) (entity : String) (tree : PartTree) (arguments : List Argument)
      (sorting : Option Sorting) (query : CompiledQuery),
      (compile catalog entity tree arguments sorting).result = .ok query →
        ∀ place ∈ placements [] tree.groups, place.part.operator.isGeo →
          ∃ collection visit, catalog.collectionName entity = .ok collection ∧
            Compile.visit ⟨catalog, entity, collection⟩ arguments place = .ok visit ∧
            visit.IsServed query.bindVars collection place.part.operator := by
  intro all
  obtain ⟨collection, visit, -, visited, point, member, -⟩ :=
    all placeCatalog "Place" { groups := [[placePart "location" .near]] } [scalar (.string "x")]
      none ⟨"FOR e IN (FOR e IN NEAR(places, @0, @1) RETURN UNSET(e, '_distance')) RETURN e",
        .ofValues [.string "x"]⟩
      rfl ⟨[], [], placePart "location" .near⟩ List.mem_cons_self rfl
  have taken : visit.taken = [scalar (.string "x")] := by
    cases visited
    rfl
  rw [taken, List.mem_singleton] at member
  cases member

end FinderQuery

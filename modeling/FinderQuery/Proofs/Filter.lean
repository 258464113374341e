import FinderQuery.Proofs.Closed
import FinderQuery.Proofs.Splitting

namespace FinderQuery

open Argument

theorem Clause.render_append (context : ClauseContext) (first : Nat) (front back : List Piece) :
    render context first (front ++ back) =
      render context first front ++ render context first back := by
  rw [render, List.map_append, String.join_append]
  rfl

namespace Operator

open Clause.Piece in
/-- The conditions that an operator puts into a filter: one, but for between, which sets two. -/
def conditions : Operator → List (List Clause.Piece)
  | near | within => []
  | between => [[key 0, text " <= ", property], [property, text " <= ", key 1]]
  | operator => (operator.template?.map Template.pieces).toList

variable {operator : Operator} {template : Template}

theorem conditions_of_isGeo (geo : operator.isGeo) : operator.conditions = [] := by
  cases operator with
  | near => rfl
  | within => rfl
  | _ => cases geo

theorem conditions_ne_nil (found : operator.template? = some template) (filter : ¬ operator.isGeo) :
    operator.conditions ≠ [] := by
  unfold conditions
  split
  · exact absurd rfl filter
  · exact absurd rfl filter
  · exact List.cons_ne_nil _ _
  · simp [found]

theorem render_eq_intercalate (found : operator.template? = some template)
    (filter : ¬ operator.isGeo) (context : ClauseContext) (first : Nat) :
    Clause.render context first template.pieces =
      " AND ".intercalate (operator.conditions.map (Clause.render context first)) := by
  unfold conditions
  split
  · exact absurd rfl filter
  · exact absurd rfl filter
  · cases found
    have joined := Clause.render_append context first
      [.key 0, .text " <= ", .property] [.text " AND ", .property, .text " <= ", .key 1]
    have separated := Clause.render_append context first
      [.text " AND "] [.property, .text " <= ", .key 1]
    rw [List.map_cons, List.map_cons, List.map_nil, String.intercalate_cons_cons,
      String.intercalate_singleton, String.append_assoc]
    exact joined.trans (congrArg (_ ++ ·) separated)
  · rw [found, Option.map_some, Option.toList_some, List.map_singleton,
      String.intercalate_singleton]

end Operator

namespace Clause

/-- Whether a piece is sure to bring no word that starts with a letter. -/
def Piece.Avoids (letter : Char) : Piece → Prop
  | text content => Text.WordsAvoid letter content.toList
  | collection => False
  | _ => True

instance (letter : Char) : (piece : Piece) → Decidable (piece.Avoids letter)
  | .text content => inferInstanceAs (Decidable (Text.WordsAvoid letter content.toList))
  | .collection => inferInstanceAs (Decidable False)
  | .property | .ignoreCase | .key _ => inferInstanceAs (Decidable True)

variable {letter : Char}

theorem wordsAvoid_render (capital : letter = 'A' ∨ letter = 'O') {context : ClauseContext}
    (property : Text.WordsAvoid letter context.property.toList) (first : Nat) {pieces : List Piece}
    (each : ∀ piece ∈ pieces, piece.Avoids letter) :
    Text.WordsAvoid letter (render context first pieces).toList := by
  induction pieces with
  | nil => exact List.isChain_singleton _
  | cons piece rest ih =>
    rw [List.forall_mem_cons] at each
    rw [render_cons]
    refine Text.WordsAvoid.append ?_ (ih each.2)
    cases piece with
    | text content => exact each.1
    | property => exact property
    | collection => exact each.1.elim
    | ignoreCase =>
      rw [Piece.render]
      rcases capital with rfl | rfl <;> split <;> decide
    | key offset =>
      have blank : ' ' ∉ (keyText (first + offset)).toList := fun member =>
        absurd (isDigit_of_mem_keyText member) (by decide)
      rw [toList_render_key]
      refine Text.WordsAvoid.of_unspaced ?_ ?_
      · exact List.not_mem_cons_of_ne_of_not_mem (by decide) blank
      · rcases capital with rfl | rfl <;> simp

theorem avoids_of_mem_conditions (capital : letter = 'A' ∨ letter = 'O') (operator : Operator) :
    ∀ condition ∈ operator.conditions, ∀ piece ∈ condition, piece.Avoids letter := by
  rcases capital with rfl | rfl <;> cases operator <;> decide

end Clause

theorem Leaf.wordsAvoid_reference {letter : Char} (capital : letter = 'A' ∨ letter = 'O')
    (leaf : Leaf) {field : String} (unspaced : ' ' ∉ field.toList) (ignoreCase : Bool) :
    Text.WordsAvoid letter (leaf.reference field ignoreCase).toList := by
  have plain : Text.WordsAvoid letter ("e." ++ field).toList := by
    refine Text.WordsAvoid.of_unspaced (by simpa using unspaced) ?_
    rcases capital with rfl | rfl <;> simp
  have within {before behind : String} (first : Text.WordsAvoid letter before.toList)
      (second : Text.WordsAvoid letter behind.toList) :
      Text.WordsAvoid letter (before ++ "e." ++ field ++ behind).toList := by
    have letters : (before ++ "e." ++ field ++ behind).toList =
        before.toList ++ ("e." ++ field).toList ++ behind.toList := by
      simp only [String.toList_append, List.append_assoc]
    rw [letters]
    exact (first.append plain).append second
  have lower : Text.WordsAvoid letter "LOWER(".toList := by
    rcases capital with rfl | rfl <;> decide
  have closing : Text.WordsAvoid letter ")".toList := by
    rcases capital with rfl | rfl <;> decide
  have elements : Text.WordsAvoid letter "(FOR i IN TO_ARRAY(".toList := by
    rcases capital with rfl | rfl <;> decide
  have lowered : Text.WordsAvoid letter ") RETURN LOWER(i))".toList := by
    rcases capital with rfl | rfl <;> decide
  unfold reference
  split
  · split
    · rw [show "(FOR i IN TO_ARRAY(e." = "(FOR i IN TO_ARRAY(" ++ "e." from rfl]
      exact within elements lowered
    · rw [show "LOWER(e." = "LOWER(" ++ "e." from rfl]
      exact within lower closing
  · exact plain

theorem Template.predicate?_render (template : Template) (context : ClauseContext) (first : Nat) :
    (template.render context first).predicate? =
      if template.isSource then none else some (Clause.render context first template.pieces) := by
  unfold render
  split
  · rfl
  · rfl

section

variable (target : Compile.Target) (arguments : List Argument)

def Placement.conditions (place : Placement) : List String :=
  match target.metadata.property target.entity place.part.property with
  | .error _ => []
  | .ok property => place.part.operator.conditions.map
      (Clause.render (place.part.context target property) (place.firstKey arguments))

/-- The conditions of each group that is not of geo parts only, in the order of its parts. -/
def Reference.conditions (tree : List (List Part)) : List (List String) :=
  ((withEarlier [] tree).filter fun (_, group) => ! group.all (·.operator.isGeo)).map
    fun (groupsBefore, group) =>
      (placesIn groupsBefore group).flatMap (·.conditions target arguments)

end

variable {target : Compile.Target} {arguments : List Argument}

namespace Placement

theorem conditions_eq {place : Placement} {property : Metadata.Property}
    (known : target.metadata.property target.entity place.part.property = .ok property) :
    place.conditions target arguments = place.part.operator.conditions.map
      (Clause.render (place.part.context target property) (place.firstKey arguments)) := by
  rw [conditions, known]

theorem conditions_eq_nil_iff {place : Placement} {offered : Contribution}
    (run : place.offer target arguments = .ok offered) :
    place.conditions target arguments = [] ↔ place.part.operator.isGeo := by
  obtain ⟨property, template, known, found, -, -⟩ := offer_eq_ok_iff.mp run
  rw [conditions_eq known, List.map_eq_nil_iff]
  apply Iff.intro
  · intro none
    by_contra filter
    exact Operator.conditions_ne_nil found filter none
  · exact Operator.conditions_of_isGeo

theorem predicate?_of_offer {place : Placement} {offered : Contribution}
    (run : place.offer target arguments = .ok offered) :
    offered.fragment.predicate? =
      if place.part.operator.isGeo then none
      else some (" AND ".intercalate (place.conditions target arguments)) := by
  obtain ⟨property, template, known, found, -, rfl⟩ := offer_eq_ok_iff.mp run
  have source : (place.fragment target arguments property template).isSource =
      place.part.operator.isGeo := isSource_fragment found
  rw [fragment, Template.isSource_render] at source
  rw [fragment, Template.predicate?_render, source]
  split
  · rfl
  next filter =>
    -- Only within is given a donut, and that is a geo part.
    have single : isDonut place.part.operator (place.share arguments) = false := by
      rw [Bool.eq_false_iff]
      intro donut
      rw [(isDonut_iff.mp donut).1] at filter
      exact filter rfl
    rw [single, conditions_eq known]
    exact congrArg some (Operator.render_eq_intercalate found filter _ _)

theorem wordsAvoid_conditions {letter : Char} (capital : letter = 'A' ∨ letter = 'O')
    {place : Placement}
    (unspaced : target.FieldLacks ' ' place.part) :
    ∀ condition ∈ place.conditions target arguments, Text.WordsAvoid letter condition.toList := by
  intro condition member
  cases known : target.metadata.property target.entity place.part.property with
  | error error =>
    rw [conditions, known] at member
    cases member
  | ok property =>
    rw [conditions_eq known] at member
    obtain ⟨pieces, listed, rfl⟩ := List.mem_map.mp member
    exact Clause.wordsAvoid_render capital
      (property.leaf.wordsAvoid_reference capital (unspaced.of_property known) _) _
      (Clause.avoids_of_mem_conditions capital _ pieces listed)

end Placement

theorem intercalate_flatten {separator : String} {lists : List (List String)}
    (filled : ∀ list ∈ lists, list ≠ []) :
    separator.intercalate (lists.map separator.intercalate) =
      separator.intercalate lists.flatten := by
  induction lists with
  | nil => rfl
  | cons list rest ih =>
    rw [List.forall_mem_cons] at filled
    by_cases alone : rest = []
    · simp [alone]
    · have later : rest.flatten ≠ [] := by
        obtain ⟨other, member⟩ := List.exists_mem_of_ne_nil rest alone
        intro empty
        exact filled.2 other member (List.flatten_eq_nil_iff.mp empty other member)
      rw [List.map_cons, List.flatten_cons, String.intercalate_append_of_ne_nil filled.1 later,
        String.intercalate_cons_of_ne_nil (by simpa using alone), ih filled.2]

namespace Reference

section

variable {contributions : List Contribution} {places : List Placement}

theorem predicates_of_offers
    (offers : List.Forall₂ (fun place added => place.offer target arguments = .ok added)
      places contributions) :
    (contributions.map Contribution.fragment).filterMap Fragment.predicate? =
      ((places.map (·.conditions target arguments)).filter (! ·.isEmpty)).map
        (" AND ".intercalate ·) := by
  induction offers with
  | nil => rfl
  | @cons place _ _ _ offered _ ih =>
    have none := Placement.conditions_eq_nil_iff offered
    rw [List.map_cons, List.map_cons, List.filterMap_cons, List.filter_cons, ih,
      Placement.predicate?_of_offer offered]
    by_cases geo : place.part.operator.isGeo
    · rw [if_pos geo, none.mpr geo]
      rfl
    · have filled : place.conditions target arguments ≠ [] := fun empty => geo (none.mp empty)
      rw [if_neg geo, if_pos (by simpa using filled)]
      rfl

theorem all_isGeo_of_offers
    (offers : List.Forall₂ (fun place added => place.offer target arguments = .ok added)
      places contributions) :
    places.all (·.part.operator.isGeo) =
      ((contributions.map Contribution.fragment).filterMap Fragment.predicate?).isEmpty := by
  induction offers with
  | nil => rfl
  | @cons place _ _ _ offered _ ih =>
    rw [List.all_cons, List.map_cons, List.filterMap_cons, ih,
      Placement.predicate?_of_offer offered]
    by_cases geo : place.part.operator.isGeo
    · rw [if_pos geo, geo, Bool.true_and]
    · rw [if_neg geo, Bool.eq_false_iff.mpr geo, Bool.false_and]
      rfl

theorem intercalate_conditions
    (offers : List.Forall₂ (fun place added => place.offer target arguments = .ok added)
      places contributions) :
    " AND ".intercalate (places.flatMap (·.conditions target arguments)) =
      " AND ".intercalate
        ((contributions.map Contribution.fragment).filterMap Fragment.predicate?) := by
  have filled : ∀ list ∈ (places.map (·.conditions target arguments)).filter (! ·.isEmpty),
      list ≠ [] := by
    intro list member
    simpa using (List.mem_filter.mp member).2
  rw [predicates_of_offers offers, intercalate_flatten filled, List.flatten_filter_not_isEmpty,
    List.flatMap_def]

end

variable {tree : List (List Part)} {contributions : List (List Contribution)}

theorem alternatives_of_groups (run : groups target arguments [] tree = .ok contributions) :
    (outline contributions).alternatives.map (" AND ".intercalate ·) =
      (conditions target arguments tree).map (" AND ".intercalate ·) := by
  rw [outline, Outline.ofFragments, List.map_map, List.filter_map, List.map_map, conditions,
    List.map_map]
  refine (map_filter_eq_of_forall₂ ((mapM_eq_ok_iff.mp run).imp ?_)).symm
  intro entry added inner
  have offers := offers_of_group inner
  have none := all_isGeo_of_offers offers
  rw [all_isGeo_placesIn] at none
  exact ⟨congrArg Bool.not none, intercalate_conditions offers⟩

theorem predicate_of_groups (run : groups target arguments [] tree = .ok contributions) :
    (outline contributions).selection.predicate =
      if (conditions target arguments tree).isEmpty then none
      else some (" OR ".intercalate
        ((conditions target arguments tree).map (" AND ".intercalate ·))) := by
  have same := alternatives_of_groups run
  have empty : (outline contributions).alternatives.isEmpty =
      (conditions target arguments tree).isEmpty := by
    rw [← List.isEmpty_map, same, List.isEmpty_map]
  rw [Outline.selection, empty, same]

theorem conditions_isEmpty_iff :
    (conditions target arguments tree).isEmpty ↔ ∀ part ∈ tree.flatten, part.operator.isGeo := by
  rw [conditions, List.isEmpty_map, List.isEmpty_iff, List.filter_eq_nil_iff]
  apply Iff.intro
  · intro none part member
    obtain ⟨group, listed, inside⟩ := List.mem_flatten.mp member
    obtain ⟨before, within⟩ := exists_mem_withEarlier [] listed
    have all : group.all (·.operator.isGeo) := by simpa using none _ within
    exact List.all_eq_true.mp all part inside
  · intro each entry within
    have listed := mem_of_mem_withEarlier within
    have all : entry.2.all (·.operator.isGeo) := by
      rw [List.all_eq_true]
      exact fun part inside => each part (List.mem_flatten_of_mem listed inside)
    simp [all]

theorem ne_nil_of_mem_conditions (run : groups target arguments [] tree = .ok contributions) :
    ∀ alternative ∈ conditions target arguments tree, alternative ≠ [] := by
  intro alternative member empty
  obtain ⟨entry, kept, rfl⟩ := List.mem_map.mp member
  obtain ⟨listed, filter⟩ := List.mem_filter.mp kept
  have geo : entry.2.all (·.operator.isGeo) := by
    rw [← all_isGeo_placesIn entry.1, List.all_eq_true]
    intro place within
    have here := mem_placements_of_placesIn listed within
    obtain ⟨offered, offer⟩ := (exists_groups_iff.mp ⟨_, run⟩ place here).1
    exact (Placement.conditions_eq_nil_iff offer).mp (List.flatMap_eq_nil_iff.mp empty place within)
  simp [geo] at filter

theorem wordsAvoid_of_mem_conditions {letter : Char} (capital : letter = 'A' ∨ letter = 'O')
    (unspaced : ∀ part ∈ tree.flatten, target.FieldLacks ' ' part) :
    ∀ alternative ∈ conditions target arguments tree, ∀ condition ∈ alternative,
      Text.WordsAvoid letter condition.toList := by
  intro alternative member condition inside
  obtain ⟨entry, kept, rfl⟩ := List.mem_map.mp member
  obtain ⟨listed, -⟩ := List.mem_filter.mp kept
  obtain ⟨place, within, found⟩ := List.mem_flatMap.mp inside
  have fields := Placement.forall_part_iff.mpr unspaced place
    (mem_placements_of_placesIn listed within)
  exact Placement.wordsAvoid_conditions capital fields condition found

theorem split_conditions (run : groups target arguments [] tree = .ok contributions)
    (unspaced : ∀ part ∈ tree.flatten, target.FieldLacks ' ' part)
    (some : conditions target arguments tree ≠ []) :
    (Text.split " OR " (" OR ".intercalate
        ((conditions target arguments tree).map (" AND ".intercalate ·)))).map
      (Text.split " AND ") = conditions target arguments tree := by
  have apart : ∀ text ∈ (conditions target arguments tree).map (" AND ".intercalate ·),
      Text.WordsAvoid 'O' text.toList := by
    intro text member
    obtain ⟨alternative, listed, rfl⟩ := List.mem_map.mp member
    exact Text.WordsAvoid.intercalate (by decide)
      (wordsAvoid_of_mem_conditions (Or.inr rfl) unspaced alternative listed)
  have joined : (" OR " : String).toList = ' ' :: 'O' :: ['R', ' '] := rfl
  rw [Text.split_intercalate joined (by decide) (by simpa using some) apart, List.map_map]
  refine (List.map_congr_left fun alternative listed => ?_).trans (List.map_id _)
  have separate : (" AND " : String).toList = ' ' :: 'A' :: ['N', 'D', ' '] := rfl
  exact Text.split_intercalate separate (by decide) (ne_nil_of_mem_conditions run _ listed)
    (wordsAvoid_of_mem_conditions (Or.inl rfl) unspaced alternative listed)

theorem filterClause_of_groups (run : groups target arguments [] tree = .ok contributions) :
    Query.filterClause (outline contributions).selection.predicate =
      if (conditions target arguments tree).isEmpty then ""
      else " FILTER " ++ " OR ".intercalate
        ((conditions target arguments tree).map (" AND ".intercalate ·)) := by
  rw [predicate_of_groups run]
  split
  · rfl
  next some =>
    have nonempty := text_ne_empty run
    rw [← flatten_fragments] at nonempty
    have alternatives := Selection.Builder.alternatives_ne_empty nonempty
    rw [← outline, alternatives_of_groups run] at alternatives
    have text := Selection.intercalate_ne_empty " OR " (by simpa using some) alternatives
    exact if_neg (by simpa using text)

end Reference

/-- The filter of a query comes apart at OR into one text for each group that is not of geo parts
only, and each text at AND into the conditions of the group. So it holds where all conditions of one
group do. There is no filter exactly if all parts are geo parts. -/
theorem filter_splits_into_groups {metadata : Metadata} {entity : String} {tree : PartTree}
    {sorting : Option Sorting} {query : CompiledQuery}
    (run : (compile metadata entity tree arguments sorting).result = .ok query)
    (unspaced : ∀ part ∈ tree.parts, ∀ field,
      metadata.fieldPath entity part.property = .ok field → ' ' ∉ field.toList) :
    ∃ collection selection binder,
      metadata.collectionName entity = .ok collection ∧
      Compile.collected ⟨metadata, entity, collection⟩ tree.groups arguments =
        .ok (selection, binder) ∧
      query.text = "FOR e IN " ++ selection.source.getD collection ++
        Query.filterClause selection.predicate ++
        Query.spaced (tree.wording collection sorting) ∧
      (∀ place ∈ placements [] tree.groups, ∃ offered,
        place.offer ⟨metadata, entity, collection⟩ arguments = .ok offered ∧
        offered.fragment.predicate? =
          if place.part.operator.isGeo then none
          else some (" AND ".intercalate
            (place.conditions ⟨metadata, entity, collection⟩ arguments))) ∧
      (Query.filterClause selection.predicate = "" ↔ ∀ part ∈ tree.parts, part.operator.isGeo) ∧
      ((∃ part ∈ tree.parts, ¬ part.operator.isGeo) →
        ∃ predicate, Query.filterClause selection.predicate = " FILTER " ++ predicate ∧
          (Text.split " OR " predicate).map (Text.split " AND ") =
            Reference.conditions ⟨metadata, entity, collection⟩ arguments tree.groups ∧
          ∀ truth, Text.filterHolds truth predicate =
            (Reference.conditions ⟨metadata, entity, collection⟩ arguments tree.groups).any
              (·.all truth)) := by
  obtain ⟨collection, contributions, registered, groups, rfl⟩ := compile_eq_ok_iff.mp run
  have collected := Compile.collected_eq ⟨metadata, entity, collection⟩ tree.groups arguments
  have filter := Reference.filterClause_of_groups groups
  have none : (Reference.conditions ⟨metadata, entity, collection⟩ arguments
      tree.groups).isEmpty ↔ ∀ part ∈ tree.parts, part.operator.isGeo :=
    Reference.conditions_isEmpty_iff
  rw [groups] at collected
  refine ⟨collection, _, _, registered, collected, ?_, fun place member => ?_, ?_, ?_⟩
  · rw [Query.assemble_eq, Query.head, Query.tail_eq_spaced]
  · obtain ⟨offered, offer⟩ := (Reference.exists_groups_iff.mp ⟨_, groups⟩ place member).1
    exact ⟨offered, offer, Placement.predicate?_of_offer offer⟩
  · rw [filter, ← none]
    split
    next empty => exact iff_of_true rfl empty
    next some =>
      refine iff_of_false (fun blank => ?_) some
      exact absurd (String.append_eq_empty_iff.mp blank).1 (by decide)
  · intro given
    rcases given with ⟨part, member, other⟩
    have some := mt none.mp fun all => other (all part member)
    have split := Reference.split_conditions groups unspaced (by simpa using some)
    rw [if_neg some] at filter
    refine ⟨_, filter, split, fun truth => ?_⟩
    conv_rhs => rw [← split, List.any_map]
    rfl

def mixedTree : PartTree where
  groups := [[placePart "name" .between], [placePart "location" .near], [placePart "name" .isNull]]

def mixedArguments : List Argument :=
  [scalar (.string "a"), scalar (.string "b"), geoPoint origin]

theorem mixedTree_unspaced {part : Part} (member : part ∈ mixedTree.parts) {field : String}
    (found : placeCatalog.fieldPath "Place" part.property = .ok field) : ' ' ∉ field.toList := by
  simp only [mixedTree, PartTree.parts, List.flatten_cons, List.flatten_nil, List.append_nil,
    List.cons_append, List.nil_append, List.mem_cons, List.not_mem_nil, or_false] at member
  rcases member with rfl | rfl | rfl
  · cases found
    exact (by decide : ' ' ∉ "name".toList)
  · cases found
    exact (by decide : ' ' ∉ "location".toList)
  · cases found
    exact (by decide : ' ' ∉ "name".toList)

theorem near_is_left_out_of_filter :
    (compile placeCatalog "Place" mixedTree mixedArguments none).result =
      .ok ⟨"FOR e IN (FOR e IN NEAR(places, @2, @3) RETURN UNSET(e, '_distance')) FILTER " ++
          "@0 <= e.name AND e.name <= @1 OR e.name == null RETURN e",
        .ofValues [.string "a", .string "b", .float origin.x, .float origin.y]⟩ ∧
    (∀ part ∈ mixedTree.parts, ∀ field,
      placeCatalog.fieldPath "Place" part.property = .ok field → ' ' ∉ field.toList) ∧
    (Text.split " OR " "@0 <= e.name AND e.name <= @1 OR e.name == null").map
      (Text.split " AND ") = [["@0 <= e.name", "e.name <= @1"], ["e.name == null"]] := by
  have run : (compile placeCatalog "Place" mixedTree mixedArguments none).result =
      .ok ⟨"FOR e IN (FOR e IN NEAR(places, @2, @3) RETURN UNSET(e, '_distance')) FILTER " ++
          "@0 <= e.name AND e.name <= @1 OR e.name == null RETURN e",
        .ofValues [.string "a", .string "b", .float origin.x, .float origin.y]⟩ := by exact rfl
  have unspaced : ∀ part ∈ mixedTree.parts, ∀ field,
      placeCatalog.fieldPath "Place" part.property = .ok field → ' ' ∉ field.toList :=
    fun _ member _ found => mixedTree_unspaced member found
  refine ⟨run, unspaced, ?_⟩
  obtain ⟨collection, selection, binder, registered, collected, -, -, -, filter⟩ :=
    filter_splits_into_groups run unspaced
  have places : placeCatalog.collectionName "Place" = .ok "places" := rfl
  obtain rfl : "places" = collection := Except.ok.inj (places.symm.trans registered)
  have selected : (Compile.collected ⟨placeCatalog, "Place", "places"⟩ mixedTree.groups
      mixedArguments).map (·.1.predicate) =
      .ok (some "@0 <= e.name AND e.name <= @1 OR e.name == null") := by exact rfl
  rw [collected] at selected
  have predicate : selection.predicate =
      some "@0 <= e.name AND e.name <= @1 OR e.name == null" := Except.ok.inj selected
  have clause : Query.filterClause selection.predicate =
      " FILTER " ++ "@0 <= e.name AND e.name <= @1 OR e.name == null" := by
    rw [predicate]
    rfl
  obtain ⟨text, same, split, -⟩ := filter ⟨placePart "name" .isNull, by decide, by decide⟩
  rw [(String.append_right_inj " FILTER ").mp (clause.symm.trans same), split]
  rfl

end FinderQuery

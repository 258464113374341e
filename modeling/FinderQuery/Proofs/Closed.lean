import FinderQuery.Proofs.Agreement
import FinderQuery.Proofs.Numbering
import FinderQuery.Proofs.Placeholders

namespace FinderQuery

open Argument

/-- The names that a query is made of bring no mark of their own. -/
structure Unmarked (metadata : Metadata) (entity : String) (tree : PartTree)
    (sorting : Option Sorting) : Prop where
  collection : ∀ collection, metadata.collectionName entity = .ok collection →
    '@' ∉ collection.toList
  field : ∀ part ∈ tree.parts, ∀ field, metadata.fieldPath entity part.property = .ok field →
    '@' ∉ field.toList
  sorting : Sorting.Unmarked sorting

theorem Leaf.reference_unmarked {leaf : Leaf} {field : String} {ignoreCase : Bool}
    (unmarked : '@' ∉ field.toList) : '@' ∉ (leaf.reference field ignoreCase).toList := by
  unfold reference
  split
  · split <;> simp [unmarked]
  · simp [unmarked]

def widthBehind (arguments : List Argument) (front : List Part) (part : Part) : Nat :=
  Template.width part.operator
    (isDonut part.operator ((arguments.drop (arities front)).take part.operator.arity))

variable {target : Compile.Target} {arguments : List Argument}

theorem Placement.mentions_fragment_iff {place : Placement} {property : Metadata.Property}
    {template : Template} (found : place.part.operator.template? = some template)
    (collection : '@' ∉ target.collection.toList)
    (field : '@' ∉ property.field.toList) (key : Nat) :
    Mentions (place.fragment target arguments property template).text key ↔
      written arguments place.earlier ≤ key ∧
        key < written arguments place.earlier + widthBehind arguments place.earlier place.part := by
  have unmarked : (place.part.context target property).Unmarked :=
    ⟨collection, Leaf.reference_unmarked field⟩
  rw [fragment, Template.mentions_render_iff found unmarked]
  rfl

theorem Placement.mentions_of_offer {place : Placement} {offered : Contribution}
    (run : place.offer target arguments = .ok offered) (collection : '@' ∉ target.collection.toList)
    (named : target.FieldLacks '@' place.part) (key : Nat) :
    Mentions offered.fragment.text key ↔
      written arguments place.earlier ≤ key ∧
        key < written arguments place.earlier + widthBehind arguments place.earlier place.part := by
  obtain ⟨property, template, known, found, -, rfl⟩ := offer_eq_ok_iff.mp run
  exact mentions_fragment_iff found collection (named.of_property known) key

theorem Reference.mentions_iff {tree : List (List Part)} {contributions : List (List Contribution)}
    (run : groups target arguments [] tree = .ok contributions)
    (collection : '@' ∉ target.collection.toList)
    (named : ∀ part ∈ tree.flatten, target.FieldLacks '@' part) (key : Nat) :
    (∃ added ∈ contributions.flatten, Mentions added.fragment.text key) ↔
      IsClaimed arguments (widthBehind arguments) tree.flatten key := by
  have places := Placement.forall_part_iff.mpr named
  have each : List.Forall₂
      (fun (place : Placement) (added : Contribution) =>
        (written arguments place.earlier ≤ key ∧
          key < written arguments place.earlier + widthBehind arguments place.earlier place.part) ↔
        Mentions added.fragment.text key)
      (placements [] tree) contributions.flatten := by
    refine ((List.forall₂_and_left _ _).mpr ⟨places, forall₂_offer run⟩).imp ?_
    intro place added both
    exact (Placement.mentions_of_offer both.2 collection both.1 key).symm
  rw [← exists_iff_of_forall₂ each]
  exact exists_placements_iff (P := fun front part =>
    written arguments front ≤ key ∧
      key < written arguments front + widthBehind arguments front part)

theorem mentions_compiled_iff {metadata : Metadata} {entity : String} {tree : PartTree}
    {sorting : Option Sorting} {query : CompiledQuery}
    (run : (compile metadata entity tree arguments sorting).result = .ok query)
    (unmarked : Unmarked metadata entity tree sorting) (key : Nat) :
    Mentions query.text key ↔ IsClaimed arguments (widthBehind arguments) tree.parts key := by
  obtain ⟨collection, contributions, registered, groups, rfl⟩ := compile_eq_ok_iff.mp run
  have single := Reference.countP_isSource_le_one groups
  rw [← Reference.flatten_fragments] at single
  rw [Outline.mentions_assemble_iff (unmarked.collection collection registered) unmarked.sorting,
    Reference.outline, Outline.exists_source_or_clause_iff single, Reference.flatten_fragments]
  simp only [List.mem_map, exists_exists_and_eq_and]
  exact Reference.mentions_iff groups (unmarked.collection collection registered) unmarked.field key

theorem Placement.widthBehind_of_offer {place : Placement} {offered : Contribution}
    (run : place.offer target arguments = .ok offered) :
    widthBehind arguments place.earlier place.part =
      (place.share arguments).length + place.part.operator.points +
        (place.share arguments).countP isRange := by
  obtain ⟨full, ranged⟩ := fits_of_offer run
  have width : widthBehind arguments place.earlier place.part =
      Template.width place.part.operator
        (isDonut place.part.operator (place.share arguments)) := rfl
  rw [width]
  cases donut : isDonut place.part.operator (place.share arguments) with
  | false =>
    have none : (place.share arguments).countP isRange = 0 := by
      rw [donut, List.any_eq_true] at ranged
      rw [List.countP_eq_zero]
      intro argument member isRange
      exact absurd (ranged.mp ⟨argument, member, isRange⟩) (by simp)
    rw [none, full]
    rfl
  | true =>
    obtain ⟨within, point, range, share⟩ := isDonut_iff.mp donut
    rw [share, within]
    rfl

/-- What makes a query refer to all of its variables and to no others: no part has more points than
it has a place for, and one that has fewer is not the last to consume an argument. -/
structure IsClosed (tree : PartTree) (arguments : List Argument) : Prop where
  noExcess : ∀ place ∈ placements [] tree.groups,
    (place.share arguments).countP isPoint ≤ place.part.operator.points
  noGap : ∀ place ∈ placements [] tree.groups,
    (place.share arguments).countP isPoint < place.part.operator.points →
      arities (place.earlier ++ [place.part]) < arities tree.parts

theorem Placement.slotsBehind_of_offer {place : Placement} {offered : Contribution}
    (run : place.offer target arguments = .ok offered) :
    slotsBehind arguments place.earlier place.part + place.part.operator.points =
      widthBehind arguments place.earlier place.part +
        (place.share arguments).countP isPoint := by
  have slots := slotsOf_eq (place.share arguments)
  have width := widthBehind_of_offer run
  change slotsBehind arguments place.earlier place.part = _ at slots
  omega

theorem Placement.double_countP_isPoint_le (place : Placement) (arguments : List Argument) :
    2 * (place.share arguments).countP isPoint ≤
      slotsBehind arguments place.earlier place.part := by
  have slots := slotsOf_eq (place.share arguments)
  have bound := List.countP_le_length (p := isPoint) (l := place.share arguments)
  change slotsBehind arguments place.earlier place.part = _ at slots
  omega

namespace Reference

variable {tree : List (List Part)} {contributions : List (List Contribution)}

theorem arities_le (run : groups target arguments [] tree = .ok contributions) :
    arities tree.flatten ≤ arguments.length := by
  refine Placement.forall_arity_le_iff.mp fun place member => ?_
  obtain ⟨offered, run⟩ := (exists_groups_iff.mp ⟨_, run⟩ place member).1
  exact Nat.le_of_eq (Placement.fits_of_offer run).1.symm

theorem slotsBehind_of_groups (run : groups target arguments [] tree = .ok contributions) :
    ∀ place ∈ placements [] tree,
      slotsBehind arguments place.earlier place.part + place.part.operator.points =
        widthBehind arguments place.earlier place.part +
          (place.share arguments).countP isPoint := by
  intro place member
  obtain ⟨offered, run⟩ := (exists_groups_iff.mp ⟨_, run⟩ place member).1
  exact Placement.slotsBehind_of_offer run

theorem written_lt_of_groups (run : groups target arguments [] tree = .ok contributions) :
    ∀ front part back, tree.flatten = front ++ part :: back →
      (written arguments (front ++ [part]) < written arguments tree.flatten ↔
        arities (front ++ [part]) < arities tree.flatten) := by
  intro front part back split
  have joined : tree.flatten = (front ++ [part]) ++ back := by simp [split]
  have enough := arities_le run
  rw [joined] at enough
  rw [joined, written_lt_written_iff enough, arities_append (front ++ [part]) back]
  omega

theorem isClaimed_of_groups (run : groups target arguments [] tree = .ok contributions) :
    (∀ key, IsClaimed arguments (widthBehind arguments) tree.flatten key ↔
      key < written arguments tree.flatten) ↔
      ∀ place ∈ placements [] tree,
        (place.share arguments).countP isPoint ≤ place.part.operator.points ∧
          ((place.share arguments).countP isPoint < place.part.operator.points →
            arities (place.earlier ++ [place.part]) < arities tree.flatten) := by
  have balance := slotsBehind_of_groups run
  have later := forall_placements_iff.mpr (written_lt_of_groups run)
  have close : ∀ front part back, tree.flatten = front ++ part :: back →
      widthBehind arguments front part ≤ slotsBehind arguments front part + 1 := by
    refine forall_placements_iff.mp fun place member => ?_
    have balanced := balance place member
    have one := place.part.operator.points_le_one
    omega
  have several : ∀ front part back, tree.flatten = front ++ part :: back →
      widthBehind arguments front part < slotsBehind arguments front part →
        2 ≤ slotsBehind arguments front part := by
    refine forall_placements_iff.mp fun place member => ?_
    have balanced := balance place member
    have double := place.double_countP_isPoint_le arguments
    omega
  have places : (∀ front part back, tree.flatten = front ++ part :: back →
      slotsBehind arguments front part ≤ widthBehind arguments front part ∧
        (widthBehind arguments front part ≤ slotsBehind arguments front part ∨
          written arguments (front ++ [part]) < written arguments tree.flatten)) ↔ _ :=
    forall_placements_iff.symm
  rw [isClaimed_iff_lt_written_iff close several, places]
  refine forall_congr' fun place => forall_congr' fun member => ?_
  have balanced := balance place member
  rw [later place member]
  omega

end Reference

/-- A compiled query refers to all of its variables and to no others exactly if its tree and its
arguments are such that no point is too many or missing. -/
theorem compiled_is_closed_iff {metadata : Metadata} {entity : String} {tree : PartTree}
    {sorting : Option Sorting} {query : CompiledQuery}
    (run : (compile metadata entity tree arguments sorting).result = .ok query)
    (unmarked : Unmarked metadata entity tree sorting) :
    (∀ key, Mentions query.text key ↔ key < query.bindVars.size) ↔ IsClosed tree arguments := by
  have mentions := mentions_compiled_iff run unmarked
  obtain ⟨collection, contributions, registered, groups, rfl⟩ := compile_eq_ok_iff.mp run
  have size : (BindVars.ofValues (contributions.flatten.flatMap Contribution.values)).size =
      written arguments tree.parts := by
    rw [BindVars.size_ofValues, Reference.length_values groups]
    rfl
  simp only [mentions, size]
  rw [PartTree.parts, Reference.isClaimed_of_groups groups]
  apply Iff.intro
  · intro each
    exact ⟨fun place member => (each place member).1, fun place member => (each place member).2⟩
  · intro closed place member
    exact ⟨closed.noExcess place member, closed.noGap place member⟩

def placeCatalog : Catalog :=
  ((Catalog.empty.registerEntity "Place" "places").registerProperty "Place" "name"
    ⟨none, { kind := .string }⟩).registerProperty "Place" "location" ⟨none, { kind := .geo }⟩

def placePart (property : String) (operator : Operator) : Part := ⟨⟨[property]⟩, operator, .never⟩

def origin : Point := ⟨.finite false .zero, .finite false .zero⟩

theorem placeCatalog_unmarked {property : String}
    (known : property = "name" ∨ property = "location") (operator : Operator) :
    Unmarked placeCatalog "Place" { groups := [[placePart property operator]] } none := by
  refine ⟨?_, ?_, by simp [Sorting.Unmarked]⟩
  · intro collection registered
    cases registered
    decide
  · intro part member field found
    have single : part = placePart property operator := by simpa [PartTree.parts] using member
    subst single
    rcases known with rfl | rfl
    · cases found
      exact (by decide : '@' ∉ "name".toList)
    · cases found
      exact (by decide : '@' ∉ "location".toList)

def nearQuery : CompiledQuery where
  text := "FOR e IN (FOR e IN NEAR(places, @0, @1) RETURN UNSET(e, '_distance')) RETURN e"
  bindVars := .ofValues [.float origin.x, .float origin.y]

theorem near_is_closed_iff :
    (compile placeCatalog "Place" { groups := [[placePart "location" .near]] } [geoPoint origin]
      none).result = .ok nearQuery ∧
    Unmarked placeCatalog "Place" { groups := [[placePart "location" .near]] } none ∧
    ((∀ key, Mentions nearQuery.text key ↔ key < nearQuery.bindVars.size) ↔
      IsClosed { groups := [[placePart "location" .near]] } [geoPoint origin]) := by
  have unmarked := placeCatalog_unmarked (Or.inr (Eq.refl "location")) .near
  exact ⟨rfl, unmarked, compiled_is_closed_iff rfl unmarked⟩

/-- A pattern part that is given a point writes two variables and refers to one. -/
theorem not_all_compiled_are_closed :
    ¬ ∀ (catalog : Catalog) (entity : String) (tree : PartTree) (arguments : List Argument)
      (sorting : Option Sorting) (query : CompiledQuery),
      (compile catalog entity tree arguments sorting).result = .ok query →
        Unmarked catalog entity tree sorting →
          ∀ key, Mentions query.text key ↔ key < query.bindVars.size := by
  intro all
  have closed := all placeCatalog "Place" { groups := [[placePart "name" .startingWith]] }
    [geoPoint origin] none
    ⟨"FOR e IN places FILTER e.name LIKE @0 RETURN e",
      .ofValues [.float origin.x, .float origin.y]⟩
    rfl (placeCatalog_unmarked (Or.inl rfl) .startingWith) 1
  exact absurd (closed.mpr (by decide)) (by decide)

end FinderQuery

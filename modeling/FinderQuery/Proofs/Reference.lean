import FinderQuery.Compile
import FinderQuery.Proofs.Wording

namespace FinderQuery

open Argument

namespace Metadata

structure Property where
  field : String
  leaf : Leaf

def property (metadata : Metadata) (entity : String) (path : PropertyPath) :
    Except CompileError Property := do
  let leaf ← metadata.leafProperty entity path
  let field ← metadata.fieldPath entity path
  .ok ⟨field, leaf⟩

theorem property_eq_ok_iff {metadata : Metadata} {entity : String} {path : PropertyPath}
    {property : Property} :
    metadata.property entity path = .ok property ↔
      metadata.leafProperty entity path = .ok property.leaf ∧
        metadata.fieldPath entity path = .ok property.field := by
  obtain ⟨field, leaf⟩ := property
  simp [Metadata.property, bind_eq_ok_iff]

end Metadata

theorem Catalog.property_metadata (catalog : Catalog) (entity : String) (path : PropertyPath) :
    catalog.metadata.property entity path =
      (catalog.property entity path).map fun property =>
        ⟨property.field.getD path.display, property.leaf⟩ := by
  simp only [Metadata.property, metadata, leafProperty, fieldPath]
  cases catalog.property entity path <;> rfl

def Part.context (target : Compile.Target) (part : Part) (property : Metadata.Property) :
    ClauseContext :=
  ⟨target.collection, property.leaf.reference property.field (part.ignoresCase property.leaf),
    part.ignoresCase property.leaf⟩

/-- What a part asks of the arguments. -/
def Part.request (part : Part) (leaf : Leaf) : BindRequest :=
  ⟨part.operator, part.operator.arity, part.caseIsIgnored leaf, part.operator.mode⟩

/-- What a part says in a query; none if its operator is not supported. With a range it asks for
what lies between two circles, whatever its operator says of one. -/
def Part.wording? (target : Compile.Target) (part : Part) (property : Metadata.Property)
    (donut : Bool) (first : Nat) : Option Fragment :=
  let ignoreCase := part.caseIsIgnored property.leaf
  let context : ClauseContext :=
    ⟨target.collection, property.leaf.wording property.field ignoreCase, ignoreCase⟩
  let key (offset : Nat) := variableName (first + offset)
  if donut then some (Operator.donutWording context key) else part.operator.wording? context key

structure Contribution where
  fragment : Fragment
  values : List Value

section

variable (target : Compile.Target) (arguments : List Argument)

namespace Placement

/-- What a part offers, or the first thing that is wrong with it: its property is unknown, its
operator is not supported, or its share does not fit. -/
def offer (place : Placement) : Except CompileError Contribution := do
  let property ← target.metadata.property target.entity place.part.property
  let share := place.share arguments
  let request := place.part.request property.leaf
  match place.part.wording? target property (isDonut place.part.operator share)
    (place.firstKey arguments) with
  | none => .error (.unsupportedOperator place.part.operator)
  | some fragment =>
    match request.error? share with
    | some error => .error error
    | none => .ok ⟨fragment, share.flatMap request.valuesOf⟩

def contribution (place : Placement) : Except CompileError Contribution := do
  let offered ← place.offer target arguments
  if place.part.operator.isGeo ∧ anyGeo place.partsBefore then .error .multipleGeoSources
  else .ok offered

end Placement

namespace Reference

def parts (groupsBefore : List (List Part)) (partsBefore rest : List Part) :
    Except CompileError (List Contribution) :=
  (withEarlier partsBefore rest).mapM fun (partsBefore, part) =>
    (Placement.mk groupsBefore partsBefore part).contribution target arguments

/-- What a group adds to the query, which has not more than one geo part: a second one comes to
light when its group is complete. -/
def group (groupsBefore : List (List Part)) (group : List Part) :
    Except CompileError (List Contribution) := do
  let contributions ← parts target arguments groupsBefore [] group
  if anyGeo group ∧ anyGeo groupsBefore.flatten then .error .multipleGeoSources
  else .ok contributions

def groups (groupsBefore rest : List (List Part)) :
    Except CompileError (List (List Contribution)) :=
  (withEarlier groupsBefore rest).mapM fun (groupsBefore, parts) =>
    group target arguments groupsBefore parts

theorem parts_cons (groupsBefore : List (List Part)) (partsBefore rest : List Part) (part : Part) :
    parts target arguments groupsBefore partsBefore (part :: rest) =
      (do
        let first ← (Placement.mk groupsBefore partsBefore part).contribution target arguments
        let others ← parts target arguments groupsBefore (partsBefore ++ [part]) rest
        .ok (first :: others)) := by
  simp only [parts, withEarlier, List.mapM_cons]
  rfl

def outline (contributions : List (List Contribution)) : Outline :=
  .ofFragments (contributions.map (·.map Contribution.fragment))

def clauses (tree : List (List Part)) : Except CompileError (List (List Fragment)) :=
  (groups target arguments [] tree).map (·.map (·.map Contribution.fragment))

/-- The clauses of the query follow each other with blanks between them, and its variables are named
by their numbers in the order in which the parts write them. -/
def compile (metadata : Metadata) (entity : String) (tree : PartTree) (arguments : List Argument)
    (sorting : Option Sorting) : Except CompileError CompiledQuery := do
  let collection ← metadata.collectionName entity
  let contributions ← groups ⟨metadata, entity, collection⟩ arguments [] tree.groups
  let values := contributions.flatten.flatMap Contribution.values
  .ok
    { text := " ".intercalate
        ((outline contributions).wording collection ++ tree.wording collection sorting)
      bindVars := ⟨values.zipIdx.map fun (value, number) => (toString number, value)⟩ }

end Reference

end

variable {target : Compile.Target} {arguments : List Argument}

theorem Compile.templateOf_eq_ok_iff {operator : Operator} {template : Template} :
    Compile.templateOf operator = .ok template ↔ operator.template? = some template := by
  unfold Compile.templateOf
  cases operator.template? <;> simp

theorem Part.request_ignoreCase (part : Part) (leaf : Leaf) :
    (part.request leaf).ignoreCase = part.ignoresCase leaf := part.caseIsIgnored_eq leaf

theorem Part.request_of_template? {part : Part} {template : Template}
    (found : part.operator.template? = some template) (leaf : Leaf) :
    part.request leaf = ⟨part.operator, template.arity, part.ignoresCase leaf, template.mode⟩ := by
  rw [request, Operator.arity_of_template? found, Operator.mode_of_template? found,
    caseIsIgnored_eq]

namespace Placement

variable (target arguments) in
def fragment (place : Placement) (property : Metadata.Property) (template : Template) : Fragment :=
  (template.chosen (isDonut place.part.operator (place.share arguments))).render
    (place.part.context target property) (place.firstKey arguments)

theorem wording?_eq (place : Placement) (property : Metadata.Property) :
    place.part.wording? target property (isDonut place.part.operator (place.share arguments))
        (place.firstKey arguments) =
      place.part.operator.template?.map (place.fragment target arguments property) := by
  have context : ClauseContext.mk target.collection
      (property.leaf.wording property.field (place.part.caseIsIgnored property.leaf))
      (place.part.caseIsIgnored property.leaf) = place.part.context target property := by
    rw [Part.caseIsIgnored_eq, Leaf.wording_eq, Part.context]
  simp only [Part.wording?, context]
  unfold fragment Template.chosen
  cases donut : isDonut place.part.operator (place.share arguments) with
  | false => exact (Template.map_render_template? _ _ _).symm
  | true =>
    rw [(isDonut_iff.mp donut).1]
    exact congrArg some (Template.render_donut _ _).symm

theorem offer_eq (place : Placement) :
    place.offer target arguments = (do
      let property ← target.metadata.property target.entity place.part.property
      let template ← Compile.templateOf place.part.operator
      match (place.part.request property.leaf).error? (place.share arguments) with
      | some error => .error error
      | none =>
        .ok ⟨place.fragment target arguments property template,
          (place.share arguments).flatMap (place.part.request property.leaf).valuesOf⟩) := by
  refine bind_congr fun property => ?_
  dsimp only
  rw [wording?_eq, Compile.templateOf]
  cases place.part.operator.template? <;> rfl

end Placement

theorem Placement.offer_eq_ok_iff {place : Placement} {offered : Contribution} :
    place.offer target arguments = .ok offered ↔
      ∃ property template,
        target.metadata.property target.entity place.part.property = .ok property ∧
        place.part.operator.template? = some template ∧
        (place.part.request property.leaf).error? (place.share arguments) = none ∧
        offered = ⟨place.fragment target arguments property template,
          (place.share arguments).flatMap (place.part.request property.leaf).valuesOf⟩ := by
  simp only [offer_eq, bind_eq_ok_iff, Compile.templateOf_eq_ok_iff]
  apply Iff.intro
  · intro given
    rcases given with ⟨property, known, template, found, fits⟩
    refine ⟨property, template, known, found, ?_⟩
    split at fits
    · cases fits
    next none => exact ⟨none, (Except.ok.inj fits).symm⟩
  · intro given
    rcases given with ⟨property, template, known, found, fits, rfl⟩
    exact ⟨property, known, template, found, by rw [fits]⟩

namespace Placement

theorem isSource_fragment {place : Placement} {property : Metadata.Property} {template : Template}
    (found : place.part.operator.template? = some template) :
    (place.fragment target arguments property template).isSource = place.part.operator.isGeo := by
  rw [fragment, Template.isSource_render, Template.chosen]
  split
  next donut =>
    rw [(isDonut_iff.mp donut).1]
    rfl
  · exact Operator.isSource_of_template? found

theorem isSource_of_offer {place : Placement} {offered : Contribution}
    (run : place.offer target arguments = .ok offered) :
    offered.fragment.isSource = place.part.operator.isGeo := by
  obtain ⟨property, template, -, found, -, rfl⟩ := offer_eq_ok_iff.mp run
  exact isSource_fragment found

theorem text_of_offer_ne_empty {place : Placement} {offered : Contribution}
    (run : place.offer target arguments = .ok offered) : offered.fragment.text ≠ "" := by
  obtain ⟨property, template, -, found, -, rfl⟩ := offer_eq_ok_iff.mp run
  refine Template.render_ne_empty _ _ ?_
  unfold Template.chosen
  split
  · exact Template.donut_solid
  · exact Template.solid_of_template? found

theorem fits_of_offer {place : Placement} {offered : Contribution}
    (run : place.offer target arguments = .ok offered) :
    (place.share arguments).length = place.part.operator.arity ∧
      ((place.share arguments).any isRange ↔
        isDonut place.part.operator (place.share arguments)) := by
  obtain ⟨property, template, -, found, fits, -⟩ := offer_eq_ok_iff.mp run
  obtain ⟨faultless, enough⟩ := (BindRequest.error?_eq_none_iff _ _).mp fits
  have few := List.length_take_le place.part.operator.arity
    (arguments.drop (arities place.earlier))
  exact ⟨Nat.le_antisymm few enough,
    any_isRange_iff_isDonut (place.length_share_le arguments) faultless⟩

theorem length_values_of_offer {place : Placement} {offered : Contribution}
    (run : place.offer target arguments = .ok offered) :
    offered.values.length = slotsOf (place.share arguments) := by
  obtain ⟨property, template, -, -, -, rfl⟩ := offer_eq_ok_iff.mp run
  exact BindRequest.length_flatMap_valuesOf _ _

theorem contribution_eq_ok_iff {place : Placement} {added : Contribution} :
    place.contribution target arguments = .ok added ↔
      place.offer target arguments = .ok added ∧
        ¬ (place.part.operator.isGeo ∧ anyGeo place.partsBefore) := by
  rw [contribution]
  exact guarded_eq_ok_iff

end Placement

namespace Reference

theorem parts_cons_eq_ok_iff {groupsBefore : List (List Part)}
    {partsBefore rest : List Part} {part : Part} {contributions : List Contribution} :
    parts target arguments groupsBefore partsBefore (part :: rest) = .ok contributions ↔
      ∃ first others,
        (Placement.mk groupsBefore partsBefore part).contribution target arguments = .ok first ∧
        parts target arguments groupsBefore (partsBefore ++ [part]) rest = .ok others ∧
        contributions = first :: others := by
  simp only [parts_cons, bind_eq_ok_iff, Except.ok.injEq]
  apply Iff.intro
  · intro given
    rcases given with ⟨first, head, others, tail, rfl⟩
    exact ⟨first, others, head, tail, rfl⟩
  · intro given
    rcases given with ⟨first, others, head, tail, rfl⟩
    exact ⟨first, head, others, tail, rfl⟩

theorem any_isSource_of_parts {groupsBefore : List (List Part)}
    {partsBefore rest : List Part} {contributions : List Contribution}
    (run : parts target arguments groupsBefore partsBefore rest = .ok contributions) :
    (contributions.map Contribution.fragment).any Fragment.isSource = anyGeo rest := by
  induction rest generalizing partsBefore contributions with
  | nil =>
    cases run
    rfl
  | cons part rest ih =>
    obtain ⟨first, others, head, tail, rfl⟩ := parts_cons_eq_ok_iff.mp run
    have source := Placement.isSource_of_offer (Placement.contribution_eq_ok_iff.mp head).1
    rw [anyGeo, List.any_cons, ← anyGeo, ← ih tail, List.map_cons, List.any_cons, source]

theorem length_values_of_parts {groupsBefore : List (List Part)}
    {partsBefore rest : List Part} {contributions : List Contribution}
    (run : parts target arguments groupsBefore partsBefore rest = .ok contributions) :
    slotsOf (arguments.take (arities (groupsBefore.flatten ++ partsBefore))) +
        (contributions.flatMap Contribution.values).length =
      slotsOf (arguments.take (arities (groupsBefore.flatten ++ (partsBefore ++ rest)))) := by
  induction rest generalizing partsBefore contributions with
  | nil =>
    cases run
    simp
  | cons part rest ih =>
    obtain ⟨first, others, head, tail, rfl⟩ := parts_cons_eq_ok_iff.mp run
    let place : Placement := ⟨groupsBefore, partsBefore, part⟩
    have written : first.values.length = slotsOf (place.share arguments) :=
      Placement.length_values_of_offer (Placement.contribution_eq_ok_iff.mp head).1
    have next : slotsOf (arguments.take (arities (groupsBefore.flatten ++ partsBefore))) +
          slotsOf (place.share arguments) =
        slotsOf (arguments.take (arities (groupsBefore.flatten ++ (partsBefore ++ [part])))) := by
      rw [← List.append_assoc]
      exact place.firstKey_add_share arguments
    have later := ih tail
    rw [List.append_assoc partsBefore, List.singleton_append] at later
    rw [List.flatMap_cons, List.length_append, written]
    omega

theorem group_eq_ok_iff {groupsBefore : List (List Part)} {parts : List Part}
    {contributions : List Contribution} :
    group target arguments groupsBefore parts = .ok contributions ↔
      Reference.parts target arguments groupsBefore [] parts = .ok contributions ∧
        ¬ (anyGeo parts ∧ anyGeo groupsBefore.flatten) := by
  rw [group]
  exact guarded_eq_ok_iff

theorem exists_parts_iff {groupsBefore : List (List Part)} {group : List Part} :
    (∃ contributions, parts target arguments groupsBefore [] group = .ok contributions) ↔
      ∀ partsBefore part, (partsBefore, part) ∈ withEarlier [] group →
        (∃ offered, (Placement.mk groupsBefore partsBefore part).offer target arguments =
          .ok offered) ∧ ¬ (part.operator.isGeo ∧ anyGeo partsBefore) := by
  simp only [parts, exists_mapM_eq_ok_iff, Prod.forall, Placement.contribution_eq_ok_iff,
    exists_and_right]

theorem exists_group_iff {groupsBefore : List (List Part)} {parts : List Part} :
    (∃ contributions, group target arguments groupsBefore parts = .ok contributions) ↔
      (∃ contributions, Reference.parts target arguments groupsBefore [] parts =
        .ok contributions) ∧ ¬ (anyGeo parts ∧ anyGeo groupsBefore.flatten) := by
  simp only [group_eq_ok_iff, exists_and_right]

theorem exists_groups_iff {tree : List (List Part)} :
    (∃ contributions, groups target arguments [] tree = .ok contributions) ↔
      ∀ place ∈ placements [] tree, (∃ offered, place.offer target arguments = .ok offered) ∧
        ¬ (place.part.operator.isGeo ∧ anyGeo place.earlier) := by
  rw [groups, exists_mapM_eq_ok_iff]
  apply Iff.intro
  · intro each place member
    obtain ⟨group, listed, within⟩ := mem_placements.mp member
    obtain ⟨inner, apart⟩ := exists_group_iff.mp (each _ listed)
    obtain ⟨offered, free⟩ := exists_parts_iff.mp inner _ _ within
    refine ⟨offered, ?_⟩
    intro given
    rcases given with ⟨geo, second⟩
    rw [Placement.earlier, anyGeo_append, Bool.or_eq_true] at second
    rcases second with before | before
    · exact apart ⟨anyGeo_iff.mpr ⟨_, _, within, geo⟩, before⟩
    · exact free ⟨geo, before⟩
  · intro each given listed
    rcases given with ⟨groupsBefore, group⟩
    refine exists_group_iff.mpr ⟨exists_parts_iff.mpr fun partsBefore part within => ?_, ?_⟩
    · have member : Placement.mk groupsBefore partsBefore part ∈ placements [] tree :=
        mem_placements.mpr ⟨group, listed, within⟩
      obtain ⟨offered, free⟩ := each _ member
      refine ⟨offered, fun ⟨geo, before⟩ => free ⟨geo, ?_⟩⟩
      rw [Placement.earlier, anyGeo_append, before, Bool.or_true]
    · intro given
      rcases given with ⟨some, before⟩
      obtain ⟨partsBefore, part, within, geo⟩ := anyGeo_iff.mp some
      have member : Placement.mk groupsBefore partsBefore part ∈ placements [] tree :=
        mem_placements.mpr ⟨group, listed, within⟩
      refine (each _ member).2 ⟨geo, ?_⟩
      rw [Placement.earlier, anyGeo_append, before, Bool.true_or]

theorem flatten_fragments (contributions : List (List Contribution)) :
    (contributions.map (·.map Contribution.fragment)).flatten =
      contributions.flatten.map Contribution.fragment := List.map_flatten.symm

theorem forall₂_isSource {tree : List (List Part)} {contributions : List (List Contribution)}
    (run : groups target arguments [] tree = .ok contributions) :
    List.Forall₂
      (List.Forall₂ fun part added => added.fragment.isSource = part.operator.isGeo)
      tree contributions := by
  rw [← map_snd_withEarlier [] tree, List.forall₂_map_left_iff]
  refine (mapM_eq_ok_iff.mp run).imp ?_
  intro entry added inner
  rw [← map_snd_withEarlier [] entry.2, List.forall₂_map_left_iff]
  refine (mapM_eq_ok_iff.mp (group_eq_ok_iff.mp inner).1).imp ?_
  intro place added run
  exact Placement.isSource_of_offer (Placement.contribution_eq_ok_iff.mp run).1

theorem map_isSource {tree : List (List Part)} {contributions : List (List Contribution)}
    (run : groups target arguments [] tree = .ok contributions) :
    tree.flatten.map (·.operator.isGeo) = contributions.flatten.map (·.fragment.isSource) :=
  map_eq_of_forall₂ ((List.rel_flatten (forall₂_isSource run)).imp fun _ _ => Eq.symm)

theorem any_isSource {tree : List (List Part)} {contributions : List (List Contribution)}
    (run : groups target arguments [] tree = .ok contributions) :
    (contributions.flatten.map Contribution.fragment).any Fragment.isSource =
      anyGeo tree.flatten := by
  have same := congrArg (List.any · id) (map_isSource run)
  simp only [List.any_map, Function.comp_def, id] at same ⊢
  exact same.symm

theorem offers_of_group {groupsBefore : List (List Part)} {parts : List Part}
    {added : List Contribution}
    (run : group target arguments groupsBefore parts = .ok added) :
    List.Forall₂ (fun place added => place.offer target arguments = .ok added)
      (placesIn groupsBefore parts) added := by
  rw [placesIn, List.forall₂_map_left_iff]
  refine (mapM_eq_ok_iff.mp (group_eq_ok_iff.mp run).1).imp ?_
  intro place added run
  exact (Placement.contribution_eq_ok_iff.mp run).1

theorem forall₂_offer {tree : List (List Part)} {contributions : List (List Contribution)}
    (run : groups target arguments [] tree = .ok contributions) :
    List.Forall₂ (fun place added => place.offer target arguments = .ok added)
      (placements [] tree) contributions.flatten := by
  rw [placements, List.flatMap_def]
  refine List.rel_flatten ?_
  rw [List.forall₂_map_left_iff]
  exact (mapM_eq_ok_iff.mp run).imp fun _ _ inner => offers_of_group inner

theorem length_flatMap_values {places : List Placement} {contributions : List Contribution}
    (offers : List.Forall₂ (fun place added => place.offer target arguments = .ok added)
      places contributions) :
    (contributions.flatMap Contribution.values).length =
      slotsOf (places.flatMap (·.share arguments)) := by
  induction offers with
  | nil => rfl
  | cons offered _ ih =>
    rw [List.flatMap_cons, List.flatMap_cons, List.length_append, slotsOf_append, ih,
      Placement.length_values_of_offer offered]

theorem length_values {tree : List (List Part)} {contributions : List (List Contribution)}
    (run : groups target arguments [] tree = .ok contributions) :
    (contributions.flatten.flatMap Contribution.values).length =
      slotsOf (arguments.take (arities tree.flatten)) := by
  rw [length_flatMap_values (forall₂_offer run), flatMap_share]

theorem countP_isGeo_le_one {tree : List (List Part)} {contributions : List (List Contribution)}
    (run : groups target arguments [] tree = .ok contributions) :
    tree.flatten.countP (·.operator.isGeo) ≤ 1 :=
  countP_isGeo_le_one_iff.mpr (forall_placements_iff.mp fun place member =>
    (exists_groups_iff.mp ⟨_, run⟩ place member).2)

theorem countP_isSource_le_one {tree : List (List Part)} {contributions : List (List Contribution)}
    (run : groups target arguments [] tree = .ok contributions) :
    (contributions.flatten.map Contribution.fragment).countP Fragment.isSource ≤ 1 := by
  have single := countP_isGeo_le_one run
  have counted := congrArg (List.countP id) (map_isSource run)
  simp only [List.countP_map, Function.comp_def, id] at counted ⊢
  omega

theorem text_ne_empty {tree : List (List Part)} {contributions : List (List Contribution)}
    (run : groups target arguments [] tree = .ok contributions) :
    ∀ fragment ∈ contributions.flatten.map Contribution.fragment, fragment.text ≠ "" := by
  intro fragment member
  obtain ⟨added, listed, rfl⟩ := List.mem_map.mp member
  obtain ⟨place, -, offered⟩ := exists_of_mem_right (forall₂_offer run) listed
  exact Placement.text_of_offer_ne_empty offered

/-- No clause of a query is lost for being empty, so that its text is that of all its clauses. -/
theorem assemble_outline {groups : List (List Part)} {contributions : List (List Contribution)}
    (run : Reference.groups target arguments [] groups = .ok contributions) (collection : String)
    (tree : PartTree) (sorting : Option Sorting) :
    Query.assemble collection (outline contributions).selection tree sorting =
      " ".intercalate
        ((outline contributions).wording collection ++ tree.wording collection sorting) := by
  have nonempty := text_ne_empty run
  rw [← flatten_fragments] at nonempty
  have filled := Selection.Builder.alternatives_ne_empty nonempty
  rw [Query.assemble_selection, outline, Outline.wording_selection filled]

end Reference

end FinderQuery

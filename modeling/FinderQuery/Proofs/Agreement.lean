import FinderQuery.Proofs.Reference

namespace FinderQuery

open Argument

variable {arguments : List Argument}

def Compile.Target.FieldLacks (target : Compile.Target) (char : Char) (part : Part) : Prop :=
  ∀ field, target.metadata.fieldPath target.entity part.property = .ok field → char ∉ field.toList

theorem Compile.Target.FieldLacks.of_property {target : Compile.Target} {char : Char} {part : Part}
    (lacks : target.FieldLacks char part) {property : Metadata.Property}
    (known : target.metadata.property target.entity part.property = .ok property) :
    char ∉ property.field.toList :=
  lacks _ (Metadata.property_eq_ok_iff.mp known).2

theorem part_result (target : Compile.Target) (place : Placement) (values : List Value)
    (aligned : values.length = place.firstKey arguments) :
    (Compile.part target place.part
        ⟨arguments.drop (arities place.earlier), .ofValues values⟩).result =
      (place.offer target arguments).map fun offered =>
        (offered.fragment,
          ⟨arguments.drop (arities (place.earlier ++ [place.part])),
            .ofValues (values ++ offered.values)⟩) := by
  simp only [Compile.part, Traced.result_bind, Traced.result_ofExcept, Traced.result_report,
    Traced.result_pure, Placement.offer_eq, Metadata.property]
  -- The cases stand in the order in which the compiler comes to what can be wrong.
  cases target.metadata.leafProperty target.entity place.part.property with
  | error error => rfl
  | ok leaf =>
  cases target.metadata.fieldPath target.entity place.part.property with
  | error error => rfl
  | ok field =>
    cases found : Compile.templateOf place.part.operator with
    | error error => rfl
    | ok template =>
      have request := Part.request_of_template? (Compile.templateOf_eq_ok_iff.mp found) leaf
      have drop : arguments.drop (arities (place.earlier ++ [place.part])) =
          (arguments.drop (arities place.earlier)).drop place.part.operator.arity := by
        rw [List.drop_drop, arities_append, arities_cons, arities_nil, Nat.add_zero]
      cases verdict : (place.part.request leaf).error? (place.share arguments) with
      | some error =>
        have failed := Binder.bind_of_error (place.part.request leaf)
          (arguments.drop (arities place.earlier)) (.ofValues values) verdict
        rw [request] at failed
        simp only [bind, Except.bind, failed, Except.map, verdict]
      | none =>
        have bound := Binder.bind_of_fits (place.part.request leaf)
          (arguments.drop (arities place.earlier)) (.ofValues values) verdict
        have fits := (BindRequest.error?_eq_none_iff _ _).mp verdict
        have short : (place.share arguments).length ≤ 2 :=
          Nat.le_trans (List.length_take_le _ _) (Operator.arity_le_two _)
        have chosen : (if BindRequest.outcome (place.share arguments) = .geoDonut then .donut
              else template) =
            template.chosen (isDonut place.part.operator (place.share arguments)) := by
          simp only [outcome_eq_geoDonut_iff, any_isRange_iff_isDonut short fits.1, Template.chosen,
            Part.request]
        have first : (⟨arguments.drop (arities place.earlier), .ofValues values⟩ : Binder).nextKey =
            place.firstKey arguments := by
          rw [← aligned, Binder.nextKey, BindVars.size_ofValues]
        have arity : (place.part.request leaf).arity = place.part.operator.arity := rfl
        have share : (arguments.drop (arities place.earlier)).take place.part.operator.arity =
          place.share arguments := rfl
        rw [arity, ← drop, share] at bound
        rw [request] at bound verdict
        simp only [bind, Except.bind, request, bound, chosen, first, BindVars.pushAll_ofValues,
          Except.map, Placement.fragment, Part.context, verdict]

/-- A builder has a source as soon as one of the parts that it holds is a geo part, and the values
are those of all parts that the binder has come past. -/
structure Compile.Aligned (arguments : List Argument) (passed held : List Part)
    (builder : Selection.Builder) (values : List Value) : Prop where
  source : builder.source.isSome = anyGeo held
  written : values.length = slotsOf (arguments.take (arities passed))

section

variable {α β γ : Type} (compile : α → Binder → Traced (β × Binder)) (selection : β → Selection)
  (reference : List α → α → Except CompileError γ)
  (collect : Selection.Builder → List γ → Selection.Builder) (written : γ → List Value)
  (passed held : List α → List Part)

/-- A loop that adds item after item does what the reference does with each of them in its place, if
one step does so from an aligned state and leaves an aligned state. -/
theorem Compile.addAll_result
    (collect_nil : ∀ builder, collect builder [] = builder)
    (collect_cons : ∀ builder added others,
      collect builder (added :: others) = collect (collect builder [added]) others)
    (step : ∀ before item builder values,
      Aligned arguments (passed before) (held before) builder values →
        ((compile item ⟨arguments.drop (arities (passed before)), .ofValues values⟩).result >>=
          fun made => (builder.add (selection made.1)).map (·, made.2)) =
        (reference before item).map fun added =>
          (collect builder [added],
            ⟨arguments.drop (arities (passed (before ++ [item]))),
              .ofValues (values ++ written added)⟩))
    (next : ∀ before item builder values added,
      Aligned arguments (passed before) (held before) builder values →
      reference before item = .ok added →
        Aligned arguments (passed (before ++ [item])) (held (before ++ [item]))
          (collect builder [added]) (values ++ written added))
    (before items : List α) {builder : Selection.Builder} {values : List Value}
    (aligned : Aligned arguments (passed before) (held before) builder values) :
    (addAll compile selection builder items
        ⟨arguments.drop (arities (passed before)), .ofValues values⟩).result =
      ((withEarlier before items).mapM fun entry => reference entry.1 entry.2).map
        fun others =>
          (collect builder others,
            ⟨arguments.drop (arities (passed (before ++ items))),
              .ofValues (values ++ others.flatMap written)⟩) := by
  -- What came before grows with every step, so the induction is for all aligned states.
  induction items generalizing before builder values with
  | nil => simp [addAll, withEarlier, Except.map, pure, Except.pure, collect_nil]
  | cons item rest ih =>
    have first := step before item builder values aligned
    simp only [addAll, Traced.result_bind, Traced.result_ofExcept, withEarlier, List.mapM_cons]
    cases found : reference before item with
    | error error =>
      rw [found] at first
      cases made : (compile item
        ⟨arguments.drop (arities (passed before)), .ofValues values⟩).result with
      | error other =>
        rw [made] at first
        cases first
        rfl
      | ok pair =>
        rw [made] at first
        have failed := map_eq_error_iff.mp first
        simp only [bind, Except.bind, failed, Except.map]
    | ok added =>
      rw [found] at first
      obtain ⟨pair, made, placed⟩ := bind_eq_ok_iff.mp first
      obtain ⟨grown, put, same⟩ := map_eq_ok_iff.mp placed
      obtain ⟨rfl, after⟩ := Prod.mk.inj same
      have later := ih (before ++ [item]) (next before item builder values added aligned found)
      simp only [made, put, bind, Except.bind, ← after, later]
      cases (withEarlier (before ++ [item]) rest).mapM fun entry => reference entry.1 entry.2 with
      | error error => rfl
      | ok others => simp [Except.map, pure, Except.pure, collect_cons builder added others]

end

section

variable {target : Compile.Target} {builder : Selection.Builder} {values : List Value}

theorem part_step (target : Compile.Target) (place : Placement)
    (aligned : Compile.Aligned arguments place.earlier place.partsBefore builder values) :
    ((Compile.part target place.part
        ⟨arguments.drop (arities place.earlier), .ofValues values⟩).result >>=
      fun made => (builder.add made.1.selection).map (·, made.2)) =
      (place.contribution target arguments).map fun added =>
        (builder.collect [added.fragment],
          ⟨arguments.drop (arities (place.earlier ++ [place.part])),
            .ofValues (values ++ added.values)⟩) := by
  rw [part_result target place values aligned.written, Placement.contribution]
  cases offered : place.offer target arguments with
  | error error => rfl
  | ok contribution =>
    have source := Placement.isSource_of_offer offered
    by_cases taken : place.part.operator.isGeo ∧ anyGeo place.partsBefore
    · have clash := Selection.Builder.add_fragment_of_taken builder contribution.fragment
        ⟨by rw [aligned.source]; exact taken.2, by rw [source]; exact taken.1⟩
      simp only [Except.map, bind, Except.bind, clash, if_pos taken]
    · have added := Selection.Builder.add_fragment_of_free builder contribution.fragment
        (by rw [aligned.source, source]; exact fun both => taken both.symm)
      simp only [Except.map, bind, Except.bind, added, if_neg taken]

theorem Compile.Aligned.part (place : Placement) {added : Contribution}
    (aligned : Aligned arguments place.earlier place.partsBefore builder values)
    (run : place.contribution target arguments = .ok added) :
    Aligned arguments (place.earlier ++ [place.part]) (place.partsBefore ++ [place.part])
      (builder.collect [added.fragment]) (values ++ added.values) := by
  have offered := (Placement.contribution_eq_ok_iff.mp run).1
  apply Aligned.mk
  · rw [Selection.Builder.isSome_source_collect, aligned.source, anyGeo, anyGeo, List.any_append]
    simp [Placement.isSource_of_offer offered]
  · rw [List.length_append, aligned.written, Placement.length_values_of_offer offered]
    exact place.firstKey_add_share arguments

/-- The compiler goes through a group as the reference does. -/
theorem group_result (target : Compile.Target) {groupsBefore : List (List Part)}
    (written : values.length = slotsOf (arguments.take (arities groupsBefore.flatten)))
    (parts : List Part) :
    (Compile.group target {} parts
        ⟨arguments.drop (arities groupsBefore.flatten), .ofValues values⟩).result =
      (Reference.parts target arguments groupsBefore [] parts).map fun contributions =>
        (({} : Selection.Builder).collect (contributions.map Contribution.fragment),
          ⟨arguments.drop (arities (groupsBefore.flatten ++ parts)),
            .ofValues (values ++ contributions.flatMap Contribution.values)⟩) := by
  have start : Compile.Aligned arguments (groupsBefore.flatten ++ []) [] {} values :=
    ⟨rfl, by rw [List.append_nil]; exact written⟩
  have run := Compile.addAll_result (Compile.part target) Fragment.selection
    (fun before part => (Placement.mk groupsBefore before part).contribution target arguments)
    (fun builder added => builder.collect (added.map Contribution.fragment)) Contribution.values
    (groupsBefore.flatten ++ ·) id Selection.Builder.collect_nil
    (fun builder added others =>
      Selection.Builder.collect_append builder [added.fragment] (others.map _))
    ?step ?next [] parts start
  · rw [List.append_nil, List.nil_append] at run
    exact run
  case step =>
    intro before part builder values aligned
    have step := part_step target ⟨groupsBefore, before, part⟩ aligned
    rw [Placement.earlier, List.append_assoc] at step
    exact step
  case next =>
    intro before part builder values added aligned run
    have next := Compile.Aligned.part ⟨groupsBefore, before, part⟩ aligned run
    rw [Placement.earlier, List.append_assoc] at next
    exact next

theorem group_step (target : Compile.Target) {groupsBefore : List (List Part)}
    (aligned : Compile.Aligned arguments groupsBefore.flatten groupsBefore.flatten builder values)
    (group : List Part) :
    ((Compile.group target {} group
        ⟨arguments.drop (arities groupsBefore.flatten), .ofValues values⟩).result >>=
      fun made => (builder.add made.1.conjunction).map (·, made.2)) =
      (Reference.group target arguments groupsBefore group).map fun added =>
        (builder.collectGroups [added.map Contribution.fragment],
          ⟨arguments.drop (arities (groupsBefore ++ [group]).flatten),
            .ofValues (values ++ added.flatMap Contribution.values)⟩) := by
  have flat : (groupsBefore ++ [group]).flatten = groupsBefore.flatten ++ group := by simp
  rw [group_result target aligned.written, Reference.group, flat]
  -- A group is compiled before its source is taken over, so its own errors come first.
  cases run : Reference.parts target arguments groupsBefore [] group with
  | error error => rfl
  | ok contributions =>
    have source := Reference.any_isSource_of_parts run
    by_cases taken : anyGeo group ∧ anyGeo groupsBefore.flatten
    · have clash := Selection.Builder.add_group_of_taken builder
        (contributions.map Contribution.fragment)
        ⟨by rw [aligned.source]; exact taken.2, by rw [source]; exact taken.1⟩
      simp only [Except.map, bind, Except.bind, clash, if_pos taken]
    · have added := Selection.Builder.add_group_of_free builder
        (contributions.map Contribution.fragment)
        (by rw [aligned.source, source]; exact fun both => taken both.symm)
      simp only [Except.map, bind, Except.bind, added, if_neg taken]

theorem Compile.Aligned.group {groupsBefore : List (List Part)} {group : List Part}
    {added : List Contribution}
    (aligned : Aligned arguments groupsBefore.flatten groupsBefore.flatten builder values)
    (run : Reference.group target arguments groupsBefore group = .ok added) :
    Aligned arguments (groupsBefore ++ [group]).flatten (groupsBefore ++ [group]).flatten
      (builder.collectGroups [added.map Contribution.fragment])
      (values ++ added.flatMap Contribution.values) := by
  have inner := (Reference.group_eq_ok_iff.mp run).1
  have flat : (groupsBefore ++ [group]).flatten = groupsBefore.flatten ++ group := by simp
  rw [flat]
  apply Aligned.mk
  · rw [Selection.Builder.isSome_source_collectGroups, aligned.source, anyGeo, anyGeo,
      List.any_append, List.flatten_singleton, Reference.any_isSource_of_parts inner, anyGeo]
  · have written := Reference.length_values_of_parts inner
    rw [List.append_nil, List.nil_append] at written
    rw [List.length_append, aligned.written, written]

theorem groups_result (target : Compile.Target) (arguments : List Argument)
    (tree : List (List Part)) :
    (Compile.groups target {} tree (.ofArguments arguments)).result =
      (Reference.groups target arguments [] tree).map fun contributions =>
        (({} : Selection.Builder).collectGroups (contributions.map (·.map Contribution.fragment)),
          ⟨arguments.drop (arities tree.flatten),
            .ofValues (contributions.flatten.flatMap Contribution.values)⟩) := by
  have written (contributions : List (List Contribution)) :
      contributions.flatten.flatMap Contribution.values =
        contributions.flatMap (·.flatMap Contribution.values) := by
    rw [List.flatten_eq_flatMap, List.flatMap_assoc]
    rfl
  have start : Compile.Aligned arguments [] [] {} [] := ⟨rfl, rfl⟩
  simp only [written]
  exact Compile.addAll_result (Compile.group target {}) Selection.Builder.conjunction
    (Reference.group target arguments)
    (fun builder added => builder.collectGroups (added.map (List.map Contribution.fragment)))
    (·.flatMap Contribution.values) List.flatten List.flatten Selection.Builder.collectGroups_nil
    (fun builder added others =>
      Selection.Builder.collectGroups_append builder [added.map _] (others.map _))
    (fun before group builder values aligned => group_step target aligned group)
    (fun before group builder values added aligned run => aligned.group run)
    [] tree start

end

def Compile.collected (target : Compile.Target) (tree : List (List Part))
    (arguments : List Argument) : Except CompileError (Selection × Binder) :=
  (Compile.groups target {} tree (.ofArguments arguments)).result.map fun collected =>
    (collected.1.disjunction, collected.2)

theorem Compile.collected_eq (target : Compile.Target) (tree : List (List Part))
    (arguments : List Argument) :
    Compile.collected target tree arguments =
      (Reference.groups target arguments [] tree).map fun contributions =>
        ((Reference.outline contributions).selection,
          ⟨arguments.drop (arities tree.flatten),
            .ofValues (contributions.flatten.flatMap Contribution.values)⟩) := by
  rw [Compile.collected, groups_result]
  cases found : Reference.groups target arguments [] tree with
  | error error => rfl
  | ok contributions =>
    have nonempty := Reference.text_ne_empty found
    rw [← Reference.flatten_fragments] at nonempty
    have clauses := Selection.Builder.disjunction_collectGroups _ nonempty
    simp only [Except.map, clauses, Reference.outline]

theorem Compile.collected_eq_ok_iff {target : Compile.Target} {tree : List (List Part)}
    {result : Selection × Binder} :
    Compile.collected target tree arguments = .ok result ↔
      ∃ contributions, Reference.groups target arguments [] tree = .ok contributions ∧
        result = ((Reference.outline contributions).selection,
          ⟨arguments.drop (arities tree.flatten),
            .ofValues (contributions.flatten.flatMap Contribution.values)⟩) := by
  rw [collected_eq, map_eq_ok_iff]

theorem compile_result_of_unregistered {metadata : Metadata} {entity : String}
    {error : CompileError} (unregistered : metadata.collectionName entity = .error error)
    (tree : PartTree) (arguments : List Argument) (sorting : Option Sorting) :
    (compile metadata entity tree arguments sorting).result = .error error := by
  simp only [compile, Traced.result_bind, Traced.result_ofExcept, unregistered]
  rfl

theorem compile_result_of_registered {metadata : Metadata} {entity collection : String}
    (registered : metadata.collectionName entity = .ok collection) (tree : PartTree)
    (arguments : List Argument) (sorting : Option Sorting) :
    (compile metadata entity tree arguments sorting).result =
      (Compile.collected ⟨metadata, entity, collection⟩ tree.groups arguments).map
        fun collected =>
          ⟨Query.assemble collection collected.1 tree sorting, collected.2.vars⟩ := by
  simp only [compile, Compile.collected, Traced.result_bind, Traced.result_ofExcept,
    Traced.result_report, Traced.result_pure]
  simp only [registered, bind, Except.bind]
  cases (Compile.groups ⟨metadata, entity, collection⟩ {} tree.groups
    (.ofArguments arguments)).result <;> rfl

theorem compile_result_of_collection {metadata : Metadata} {entity collection : String}
    (registered : metadata.collectionName entity = .ok collection) (tree : PartTree)
    (arguments : List Argument) (sorting : Option Sorting) :
    (compile metadata entity tree arguments sorting).result =
      (Reference.groups ⟨metadata, entity, collection⟩ arguments [] tree.groups).map
        fun contributions =>
          ⟨Query.assemble collection (Reference.outline contributions).selection tree sorting,
            .ofValues (contributions.flatten.flatMap Contribution.values)⟩ := by
  rw [compile_result_of_registered registered, Compile.collected_eq]
  cases Reference.groups ⟨metadata, entity, collection⟩ arguments [] tree.groups <;> rfl

theorem exists_collected_of_compile {metadata : Metadata} {entity : String} {tree : PartTree}
    {sorting : Option Sorting} {query : CompiledQuery}
    (run : (compile metadata entity tree arguments sorting).result = .ok query) :
    ∃ collection selection binder,
      metadata.collectionName entity = .ok collection ∧
      Compile.collected ⟨metadata, entity, collection⟩ tree.groups arguments =
        .ok (selection, binder) ∧
      query = ⟨Query.assemble collection selection tree sorting, binder.vars⟩ := by
  cases registered : metadata.collectionName entity with
  | error error =>
    rw [compile_result_of_unregistered registered] at run
    cases run
  | ok collection =>
    rw [compile_result_of_registered registered, map_eq_ok_iff] at run
    obtain ⟨result, collected, rfl⟩ := run
    exact ⟨collection, result.1, result.2, rfl, collected, rfl⟩

theorem compile_eq_ok_iff {metadata : Metadata} {entity : String} {tree : PartTree}
    {sorting : Option Sorting} {query : CompiledQuery} :
    (compile metadata entity tree arguments sorting).result = .ok query ↔
      ∃ collection contributions,
        metadata.collectionName entity = .ok collection ∧
        Reference.groups ⟨metadata, entity, collection⟩ arguments [] tree.groups =
          .ok contributions ∧
        query =
          ⟨Query.assemble collection (Reference.outline contributions).selection tree sorting,
            .ofValues (contributions.flatten.flatMap Contribution.values)⟩ := by
  cases registered : metadata.collectionName entity with
  | error error => simp [compile_result_of_unregistered registered]
  | ok collection =>
    rw [compile_result_of_collection registered, map_eq_ok_iff]
    simp

/-- On every input the compiler returns what the reference returns, be it a query or the first thing
that is wrong. -/
theorem compile_result_eq_reference (metadata : Metadata) (entity : String) (tree : PartTree)
    (arguments : List Argument) (sorting : Option Sorting) :
    (compile metadata entity tree arguments sorting).result =
      Reference.compile metadata entity tree arguments sorting := by
  cases registered : metadata.collectionName entity with
  | error error =>
    rw [compile_result_of_unregistered registered, Reference.compile, registered]
    rfl
  | ok collection =>
    rw [compile_result_of_collection registered, Reference.compile, registered]
    simp only [bind, Except.bind]
    cases built : Reference.groups ⟨metadata, entity, collection⟩ arguments [] tree.groups with
    | error error => rfl
    | ok contributions =>
      have text := Reference.assemble_outline built collection tree sorting
      simp only [Except.map, text]
      rfl

end FinderQuery

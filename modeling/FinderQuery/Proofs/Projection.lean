import FinderQuery.Proofs.Closed

namespace FinderQuery

open Argument

namespace Query

theorem tail_of_not_count {tree : PartTree} (plain : tree.countProjection = false) (distinct : Bool)
    (collection : String) (sorting : Option Sorting) :
    tail collection { tree with distinct } sorting = tail collection tree sorting := by
  simp [tail, collectClause, actionClause, plain]

theorem tail_unsorted (collection : String) (tree : PartTree) :
    tail collection tree (some .unsorted) = tail collection tree none := rfl

theorem tail_of_delete {tree : PartTree} (delete : tree.delete) (collection : String)
    (sorting : Option Sorting) :
    tail collection tree sorting =
      collectClause tree ++ Sorting.clause sorting ++ limitClause tree.maxResults
        ++ " REMOVE e IN " ++ collection := by
  rw [tail, actionClause, if_pos delete]
  simp only [String.append_assoc]

end Query

section

variable (metadata : Metadata) (entity : String) (arguments : List Argument)

/-- A tree either cannot be compiled because of its groups, whatever is asked for beside them, or it
compiles to a head that its groups settle and a tail that they have no part in. -/
theorem compile_fails_or_splits (groups : List (List Part)) :
    (∃ error, ∀ tree : PartTree, tree.groups = groups → ∀ sorting,
      (compile metadata entity tree arguments sorting).result = .error error) ∨
    ∃ collection selection binder,
      metadata.collectionName entity = .ok collection ∧
      Compile.collected ⟨metadata, entity, collection⟩ groups arguments = .ok (selection, binder) ∧
      ∀ tree : PartTree, tree.groups = groups → ∀ sorting,
        (compile metadata entity tree arguments sorting).result =
          .ok ⟨Query.head collection selection ++ Query.tail collection tree sorting,
            binder.vars⟩ := by
  cases registered : metadata.collectionName entity with
  | error error =>
    exact Or.inl ⟨error, fun tree _ sorting => compile_result_of_unregistered registered _ _ _⟩
  | ok collection =>
    cases collected : Compile.collected ⟨metadata, entity, collection⟩ groups arguments with
    | error error =>
      refine Or.inl ⟨error, fun tree same sorting => ?_⟩
      rw [compile_result_of_registered registered, same, collected]
      rfl
    | ok result =>
      refine Or.inr ⟨collection, result.1, result.2, rfl, collected, fun tree same sorting => ?_⟩
      rw [compile_result_of_registered registered, same, collected, ← Query.assemble_eq]
      rfl

theorem compile_of_same_groups {first second : PartTree} (same : first.groups = second.groups)
    (sorting other : Option Sorting) :
    ((∃ error,
        (compile metadata entity first arguments sorting).result = .error error ∧
        (compile metadata entity second arguments other).result = .error error) ∨
      ∃ collection selection binder,
        metadata.collectionName entity = .ok collection ∧
        Compile.collected ⟨metadata, entity, collection⟩ first.groups arguments =
          .ok (selection, binder) ∧
        (compile metadata entity first arguments sorting).result =
          .ok ⟨Query.head collection selection ++ Query.tail collection first sorting,
            binder.vars⟩ ∧
        (compile metadata entity second arguments other).result =
          .ok ⟨Query.head collection selection ++ Query.tail collection second other,
            binder.vars⟩) ∧
    (first.countProjection = false → ∀ distinct,
      (compile metadata entity { first with distinct } arguments sorting).result =
        (compile metadata entity first arguments sorting).result) ∧
    (compile metadata entity first arguments (some .unsorted)).result =
      (compile metadata entity first arguments none).result ∧
    (first.delete → ∀ query,
      (compile metadata entity first arguments sorting).result = .ok query →
        ∃ collection front, metadata.collectionName entity = .ok collection ∧
          query.text = front ++ " REMOVE e IN " ++ collection) := by
  rcases compile_fails_or_splits metadata entity arguments first.groups with
    ⟨error, fails⟩ | ⟨collection, selection, binder, registered, collected, splits⟩
  · refine ⟨Or.inl ⟨error, fails first rfl _, fails second same.symm _⟩, fun _ distinct => ?_, ?_,
      fun _ query run => ?_⟩
    · rw [fails first rfl, fails { first with distinct } rfl]
    · rw [fails first rfl, fails first rfl]
    · rw [fails first rfl] at run
      cases run
  · refine ⟨Or.inr ⟨collection, selection, binder, registered, collected, splits first rfl _,
      splits second same.symm _⟩, fun plain distinct => ?_, ?_, fun delete query run => ?_⟩
    · rw [splits first rfl, splits { first with distinct } rfl, Query.tail_of_not_count plain]
    · rw [splits first rfl, splits first rfl, Query.tail_unsorted]
    · rw [splits first rfl, Query.tail_of_delete delete] at run
      cases run
      exact ⟨collection, _, registered, by rw [← String.append_assoc, ← String.append_assoc]⟩

end

theorem deleted_near_and_counted_near :
    let deleting : PartTree := { groups := [[placePart "location" .near]], delete := true }
    let counting : PartTree :=
      { groups := [[placePart "location" .near]], countProjection := true, maxResults := some 3 }
    ∃ head deleted counted,
      (compile placeCatalog "Place" deleting [geoPoint origin] none).result = .ok deleted ∧
      (compile placeCatalog "Place" counting [geoPoint origin] (some .unsorted)).result =
        .ok counted ∧
      deleted.bindVars = counted.bindVars ∧
      deleted.text = head ++ " REMOVE e IN places" ∧
      counted.text = head ++ " COLLECT WITH COUNT INTO length LIMIT 3 RETURN length" ∧
      (compile placeCatalog "Place" { deleting with distinct := true } [geoPoint origin]
        none).result = .ok deleted ∧
      ∃ front, deleted.text = front ++ " REMOVE e IN " ++ "places" := by
  intro deleting counting
  have same : deleting.groups = counting.groups := rfl
  obtain ⟨runs, distinct, -, removes⟩ := compile_of_same_groups placeCatalog "Place"
    [geoPoint origin] same none (some .unsorted)
  have run : (compile placeCatalog "Place" deleting [geoPoint origin] none).result =
    .ok ⟨"FOR e IN (FOR e IN NEAR(places, @0, @1) RETURN UNSET(e, '_distance')) REMOVE e IN places",
      nearQuery.bindVars⟩ := rfl
  rcases runs with ⟨error, fails, -⟩ | ⟨collection, selection, binder, registered, -, first, second⟩
  · rw [run] at fails
    cases fails
  · obtain ⟨_, front, named, ends⟩ := removes rfl _ first
    cases registered
    cases named
    exact ⟨_, _, _, first, second, rfl, rfl, rfl, (distinct rfl true).trans first, front, ends⟩

end FinderQuery

import FinderQuery.Proofs.Closed
import FinderQuery.Proofs.Renumbering

namespace FinderQuery

open Argument

def Contribution.renumber (shift : Nat) (added : Contribution) : Contribution :=
  ⟨added.fragment.renumber shift, added.values⟩

def Placement.behind (front : List (List Part)) (place : Placement) : Placement :=
  { place with groupsBefore := front ++ place.groupsBefore }

variable {target : Compile.Target} {arguments : List Argument} {front : List (List Part)}

namespace Placement

theorem earlier_behind (place : Placement) :
    (place.behind front).earlier = front.flatten ++ place.earlier := by
  rw [earlier, behind, List.flatten_append, List.append_assoc]
  rfl

theorem share_behind (place : Placement) :
    (place.behind front).share arguments =
      place.share (arguments.drop (arities front.flatten)) := by
  rw [share, earlier_behind, arities_append, ← List.drop_drop]
  rfl

theorem firstKey_behind (place : Placement) :
    (place.behind front).firstKey arguments =
      place.firstKey (arguments.drop (arities front.flatten)) +
        written arguments front.flatten := by
  have keys := written_append arguments front.flatten place.earlier
  rw [← earlier_behind] at keys
  exact keys.trans (Nat.add_comm _ _)

theorem fragment_behind {place : Placement} {property : Metadata.Property} {template : Template}
    (found : place.part.operator.template? = some template)
    (unmarked : (place.part.context target property).Unmarked) :
    (place.behind front).fragment target arguments property template =
      (place.fragment target (arguments.drop (arities front.flatten)) property template).renumber
        (written arguments front.flatten) := by
  rw [fragment, fragment, share_behind, firstKey_behind,
    Template.renumber_render unmarked (Template.isSpaced_chosen found _)]
  rfl

variable {place : Placement} (collection : '@' ∉ target.collection.toList)
  (named : target.FieldLacks '@' place.part)

include collection named

theorem offer_behind :
    (place.behind front).offer target arguments =
      (place.offer target (arguments.drop (arities front.flatten))).map
        (Contribution.renumber (written arguments front.flatten)) := by
  have part : (place.behind front).part = place.part := rfl
  simp only [offer_eq, part, share_behind]
  cases known : target.metadata.property target.entity place.part.property with
  | error error => rfl
  | ok property =>
    cases found : Compile.templateOf place.part.operator with
    | error error => rfl
    | ok template =>
      have unmarked : (place.part.context target property).Unmarked :=
        ⟨collection, Leaf.reference_unmarked (named.of_property known)⟩
      have text : (place.behind front).fragment target arguments property template = _ :=
        fragment_behind (Compile.templateOf_eq_ok_iff.mp found) unmarked
      simp only [bind, Except.bind, text]
      cases (place.part.request property.leaf).error?
        (place.share (arguments.drop (arities front.flatten))) with
      | some error => rfl
      | none => rfl

theorem contribution_behind :
    (place.behind front).contribution target arguments =
      (place.contribution target (arguments.drop (arities front.flatten))).map
        (Contribution.renumber (written arguments front.flatten)) := by
  have before : (place.behind front).partsBefore = place.partsBefore := rfl
  have part : (place.behind front).part = place.part := rfl
  rw [contribution, contribution, offer_behind collection named, before, part]
  cases place.offer target (arguments.drop (arities front.flatten)) with
  | error error => rfl
  | ok offered =>
    simp only [bind, Except.bind, Except.map]
    split
    · rfl
    · rfl

end Placement

namespace Reference

variable {groupsBefore rest : List (List Part)}

theorem groups_eq_mapM_behind :
    groups target arguments front rest =
      (withEarlier [] rest).mapM fun (groupsBefore, parts) =>
        group target arguments (front ++ groupsBefore) parts := by
  have places := withEarlier_behind front [] rest
  rw [List.append_nil] at places
  rw [groups, places, List.mapM_map]
  rfl

section

variable (collection : '@' ∉ target.collection.toList)

include collection

theorem parts_behind {partsBefore rest : List Part}
    (named : ∀ part ∈ rest, target.FieldLacks '@' part) :
    parts target arguments (front ++ groupsBefore) partsBefore rest =
      (parts target (arguments.drop (arities front.flatten)) groupsBefore partsBefore rest).map
        (List.map (Contribution.renumber (written arguments front.flatten))) := by
  refine mapM_eq_map_of_eq_map fun entry listed => ?_
  let place : Placement := ⟨groupsBefore, entry.1, entry.2⟩
  have added : (place.behind front).contribution target arguments = _ :=
    Placement.contribution_behind collection (named _ (mem_of_mem_withEarlier listed))
  exact added

theorem group_behind {parts : List Part} (named : ∀ part ∈ parts, target.FieldLacks '@' part)
    (free : ¬ (anyGeo front.flatten ∧ anyGeo parts)) :
    group target arguments (front ++ groupsBefore) parts =
      (group target (arguments.drop (arities front.flatten)) groupsBefore parts).map
        (List.map (Contribution.renumber (written arguments front.flatten))) := by
  have clash : (anyGeo parts ∧ anyGeo (front ++ groupsBefore).flatten) ↔
      (anyGeo parts ∧ anyGeo groupsBefore.flatten) := by
    rw [List.flatten_append, anyGeo_append, Bool.or_eq_true]
    tauto
  rw [group, group, parts_behind collection named]
  cases Reference.parts target (arguments.drop (arities front.flatten)) groupsBefore [] parts with
  | error error => rfl
  | ok contributions =>
    simp only [bind, Except.bind, Except.map, clash]
    split
    · rfl
    · rfl

theorem group_clash {parts : List Part} {contributions : List Contribution}
    (named : ∀ part ∈ parts, target.FieldLacks '@' part)
    (run : group target (arguments.drop (arities front.flatten)) groupsBefore parts =
      .ok contributions)
    (first : anyGeo front.flatten) (second : anyGeo parts) :
    group target arguments (front ++ groupsBefore) parts = .error .multipleGeoSources := by
  have before : anyGeo (front ++ groupsBefore).flatten := by
    rw [List.flatten_append, anyGeo_append, first, Bool.true_or]
  have inner := (group_eq_ok_iff.mp run).1
  rw [group, parts_behind collection named, inner]
  exact if_pos ⟨second, before⟩

theorem groups_behind (named : ∀ part ∈ rest.flatten, target.FieldLacks '@' part)
    (free : ¬ (anyGeo front.flatten ∧ anyGeo rest.flatten)) :
    groups target arguments front rest =
      (groups target (arguments.drop (arities front.flatten)) [] rest).map
        (List.map (List.map (Contribution.renumber (written arguments front.flatten)))) := by
  rw [groups_eq_mapM_behind, groups]
  refine mapM_eq_map_of_eq_map fun entry listed => ?_
  have member := mem_of_mem_withEarlier listed
  refine group_behind collection (fun part inside => named part ?_) fun both => free ?_
  · exact List.mem_flatten_of_mem member inside
  · exact ⟨both.1, anyGeo_flatten_iff.mpr ⟨_, member, both.2⟩⟩

theorem groups_clash {contributions : List (List Contribution)}
    (named : ∀ part ∈ rest.flatten, target.FieldLacks '@' part)
    (run : groups target (arguments.drop (arities front.flatten)) [] rest = .ok contributions)
    (first : anyGeo front.flatten) (second : anyGeo rest.flatten) :
    groups target arguments front rest = .error .multipleGeoSources := by
  -- By itself each group can be compiled, so nothing comes before the first one with a geo part.
  have alone := exists_mapM_eq_ok_iff.mp ⟨contributions, run⟩
  have inside {entry : List (List Part) × List Part} (listed : entry ∈ withEarlier [] rest) :
      ∀ part ∈ entry.2, part ∈ rest.flatten :=
    fun _ => List.mem_flatten_of_mem (mem_of_mem_withEarlier listed)
  have clash : ∀ entry ∈ withEarlier [] rest, anyGeo entry.2 →
      group target arguments (front ++ entry.1) entry.2 = .error .multipleGeoSources := by
    intro entry listed geo
    obtain ⟨added, inner⟩ := alone entry listed
    exact group_clash collection (fun part member => named part (inside listed part member)) inner
      first geo
  rw [groups_eq_mapM_behind]
  refine mapM_eq_error ?_ fun entry listed => ?_
  · obtain ⟨group, member, geo⟩ := anyGeo_flatten_iff.mp second
    obtain ⟨before, listed⟩ := exists_mem_withEarlier [] member
    exact ⟨(before, group), listed, clash (before, group) listed geo⟩
  · by_cases geo : anyGeo entry.2
    · exact Or.inr (clash entry listed geo)
    · obtain ⟨added, inner⟩ := alone entry listed
      have behind : group target arguments (front ++ entry.1) entry.2 =
          (group target (arguments.drop (arities front.flatten)) entry.1 entry.2).map _ :=
        group_behind collection (fun part member => named part (inside listed part member))
          fun both => geo both.2
      have found : group target (arguments.drop (arities front.flatten)) entry.1 entry.2 =
          .ok added := inner
      rw [found] at behind
      exact Or.inl ⟨_, behind⟩

end

theorem groups_append (front rest : List (List Part)) :
    groups target arguments [] (front ++ rest) =
      (do
        let contributions ← groups target arguments [] front
        let others ← groups target arguments front rest
        .ok (contributions ++ others)) := by
  rw [groups, withEarlier_append, List.mapM_append]
  rfl

theorem renumber_contributions (shift : Nat) (contributions : List (List Contribution)) :
    (outline (contributions.map (·.map (Contribution.renumber shift)))).selection =
      (outline contributions).selection.renumber shift := by
  have fragments := Outline.selection_renumber shift
    (contributions.map (·.map Contribution.fragment))
  rw [outline, outline, ← fragments, List.map_map, List.map_map]
  simp only [Function.comp_def, List.map_map]
  rfl

theorem values_renumber (shift : Nat) (contributions : List (List Contribution)) :
    (contributions.map (·.map (Contribution.renumber shift))).flatten.flatMap
        Contribution.values =
      contributions.flatten.flatMap Contribution.values := by
  rw [← List.map_flatten, List.flatMap_map]
  rfl

end Reference

namespace Compile

variable {selection : Selection} {binder : Binder} {rest : List (List Part)}

theorem binder_of_collected (run : collected target front arguments = .ok (selection, binder)) :
    binder.arguments = arguments.drop (arities front.flatten) ∧
      binder.vars.size = written arguments front.flatten := by
  obtain ⟨contributions, found, same⟩ := collected_eq_ok_iff.mp run
  cases same
  refine ⟨rfl, ?_⟩
  rw [BindVars.size_ofValues, Reference.length_values found]
  rfl

theorem collected_append (run : collected target front arguments = .ok (selection, binder)) :
    collected target (front ++ rest) arguments =
      (Reference.groups target arguments front rest).map fun contributions =>
        (selection.or (Reference.outline contributions).selection,
          ⟨binder.arguments.drop (arities rest.flatten),
            .ofValues (binder.vars.values ++
              contributions.flatten.flatMap Contribution.values)⟩) := by
  obtain ⟨contributions, found, same⟩ := collected_eq_ok_iff.mp run
  cases same
  rw [collected_eq, Reference.groups_append, found]
  cases Reference.groups target arguments front rest with
  | error error => rfl
  | ok others =>
    have joined : (Reference.outline (contributions ++ others)).selection =
        (Reference.outline contributions).selection.or (Reference.outline others).selection := by
      rw [Reference.outline, List.map_append]
      exact Outline.selection_append _ _
    have left : arguments.drop (arities (front.flatten ++ rest.flatten)) =
        (arguments.drop (arities front.flatten)).drop (arities rest.flatten) := by
      rw [arities_append, List.drop_drop]
    simp only [bind, Except.bind, Except.map, joined, left, List.flatten_append,
      List.flatMap_append, BindVars.values_ofValues]

theorem not_both_geo_of_collected {result : Selection × Binder}
    (run : collected target (front ++ rest) arguments = .ok result) :
    ¬ (anyGeo front.flatten ∧ anyGeo rest.flatten) := by
  obtain ⟨contributions, found, -⟩ := collected_eq_ok_iff.mp run
  have single := Reference.countP_isGeo_le_one found
  rw [List.flatten_append, List.countP_append] at single
  rw [← countP_isGeo_pos_iff, ← countP_isGeo_pos_iff]
  omega

section

variable (run : collected target front arguments = .ok (selection, binder))
  (collection : '@' ∉ target.collection.toList)
  (named : ∀ part ∈ rest.flatten, target.FieldLacks '@' part)

include run collection named

theorem collected_behind (free : ¬ (anyGeo front.flatten ∧ anyGeo rest.flatten)) :
    collected target (front ++ rest) arguments =
      (collected target rest binder.arguments).map fun (other, after) =>
        (selection.or (other.renumber binder.vars.size),
          ⟨after.arguments, .ofValues (binder.vars.values ++ after.vars.values)⟩) := by
  obtain ⟨left, size⟩ := binder_of_collected run
  rw [collected_append run, Reference.groups_behind collection named free, collected_eq, size,
    left]
  cases Reference.groups target (arguments.drop (arities front.flatten)) [] rest with
  | error error => rfl
  | ok contributions =>
    simp only [Except.map, Reference.renumber_contributions, Reference.values_renumber,
      BindVars.values_ofValues]

theorem collected_clash {other : Selection × Binder}
    (alone : collected target rest binder.arguments = .ok other) (first : anyGeo front.flatten)
    (second : anyGeo rest.flatten) :
    collected target (front ++ rest) arguments = .error .multipleGeoSources := by
  obtain ⟨left, -⟩ := binder_of_collected run
  obtain ⟨contributions, found, -⟩ := collected_eq_ok_iff.mp alone
  rw [left] at found
  rw [collected_append run, Reference.groups_clash collection named found first second]
  rfl

theorem collected_append_eq_ok_iff (result : Selection × Binder) :
    collected target (front ++ rest) arguments = .ok result ↔
      ¬ (anyGeo front.flatten ∧ anyGeo rest.flatten) ∧
        ∃ other after, collected target rest binder.arguments = .ok (other, after) ∧
          result = (selection.or (other.renumber binder.vars.size),
            ⟨after.arguments, .ofValues (binder.vars.values ++ after.vars.values)⟩) := by
  have behind := collected_behind run collection named
  apply Iff.intro
  · intro joined
    have free := not_both_geo_of_collected joined
    rw [behind free, map_eq_ok_iff] at joined
    obtain ⟨other, alone, same⟩ := joined
    exact ⟨free, other.1, other.2, alone, same⟩
  · intro given
    rcases given with ⟨free, other, after, alone, rfl⟩
    rw [behind free, alone]
    rfl

end

end Compile

section

variable (metadata : Metadata) (entity : String) (tree : PartTree) (sorting : Option Sorting)

def compileGroups (groups : List (List Part)) (arguments : List Argument) :
    Except CompileError CompiledQuery :=
  (compile metadata entity { tree with groups := groups } arguments sorting).result

end

section

variable {metadata : Metadata} {entity : String} {tree : PartTree} {sorting : Option Sorting}
  {collection : String} {groups : List (List Part)}

theorem compileGroups_eq (registered : metadata.collectionName entity = .ok collection)
    (groups : List (List Part)) (arguments : List Argument) :
    compileGroups metadata entity tree sorting groups arguments =
      (Compile.collected ⟨metadata, entity, collection⟩ groups arguments).map
        fun (selection, binder) =>
          ⟨" ".intercalate (selection.wording collection ++ tree.wording collection sorting),
            binder.vars⟩ := by
  simp only [← Query.assemble_selection]
  exact compile_result_of_registered registered _ arguments sorting

theorem compileGroups_eq_ok_iff (registered : metadata.collectionName entity = .ok collection)
    {query : CompiledQuery} :
    compileGroups metadata entity tree sorting groups arguments = .ok query ↔
      ∃ selection binder,
        Compile.collected ⟨metadata, entity, collection⟩ groups arguments =
          .ok (selection, binder) ∧
        query =
          ⟨" ".intercalate (selection.wording collection ++ tree.wording collection sorting),
            binder.vars⟩ := by
  rw [compileGroups_eq registered, map_eq_ok_iff, Prod.exists]

theorem compileGroups_eq_error_iff (registered : metadata.collectionName entity = .ok collection)
    {error : CompileError} :
    compileGroups metadata entity tree sorting groups arguments = .error error ↔
      Compile.collected ⟨metadata, entity, collection⟩ groups arguments = .error error := by
  rw [compileGroups_eq registered, map_eq_error_iff]

/-- Groups behind others are compiled as they are alone, on the arguments that are left, and with
their numbers put up by how many variables are written. -/
theorem compile_append {first second : List (List Part)} {front : CompiledQuery}
    (run : compileGroups metadata entity tree sorting first arguments = .ok front)
    (unmarked : Unmarked metadata entity { tree with groups := second } none) :
    ∃ collection selection rest,
      metadata.collectionName entity = .ok collection ∧
      Compile.collected ⟨metadata, entity, collection⟩ first arguments =
        .ok (selection, ⟨rest, front.bindVars⟩) ∧
      rest = arguments.drop (arities first.flatten) ∧
      ((∃ query, compileGroups metadata entity tree sorting (first ++ second) arguments =
          .ok query) ↔
        (∃ back, compileGroups metadata entity tree sorting second rest = .ok back) ∧
          ¬ (anyGeo first.flatten ∧ anyGeo second.flatten)) ∧
      (∀ query, compileGroups metadata entity tree sorting (first ++ second) arguments = .ok query →
        ∃ other after,
          Compile.collected ⟨metadata, entity, collection⟩ second rest = .ok (other, after) ∧
          compileGroups metadata entity tree sorting second rest =
            .ok ⟨" ".intercalate (other.wording collection ++ tree.wording collection sorting),
              after.vars⟩ ∧
          query =
            ⟨" ".intercalate
                ((selection.or (other.renumber front.bindVars.size)).wording collection ++
                  tree.wording collection sorting),
              .ofValues (front.bindVars.values ++ after.vars.values)⟩) ∧
      (∀ error, compileGroups metadata entity tree sorting second rest = .error error →
        ¬ anyGeo first.flatten →
          compileGroups metadata entity tree sorting (first ++ second) arguments = .error error) ∧
      (∀ back, compileGroups metadata entity tree sorting second rest = .ok back →
        anyGeo first.flatten → anyGeo second.flatten →
          compileGroups metadata entity tree sorting (first ++ second) arguments =
            .error .multipleGeoSources) := by
  obtain ⟨collection, -, -, registered, -, -⟩ := exists_collected_of_compile run
  obtain ⟨selection, binder, collected, rfl⟩ := (compileGroups_eq_ok_iff registered).mp run
  obtain ⟨left, -⟩ := Compile.binder_of_collected collected
  have name := unmarked.collection collection registered
  have fields : ∀ part ∈ second.flatten,
      (Compile.Target.mk metadata entity collection).FieldLacks '@' part := unmarked.field
  have whole := Compile.collected_append_eq_ok_iff collected name fields
  refine ⟨collection, selection, binder.arguments, registered, collected, left, ?_, ?_, ?_, ?_⟩
  · apply Iff.intro
    · intro given
      rcases given with ⟨query, joined⟩
      obtain ⟨result, after, joined, -⟩ := (compileGroups_eq_ok_iff registered).mp joined
      obtain ⟨free, other, after, alone, -⟩ := (whole _).mp joined
      exact ⟨⟨_, (compileGroups_eq_ok_iff registered).mpr ⟨other, after, alone, rfl⟩⟩, free⟩
    · intro given
      rcases given with ⟨⟨back, alone⟩, free⟩
      obtain ⟨other, after, alone, -⟩ := (compileGroups_eq_ok_iff registered).mp alone
      have joined := (whole _).mpr ⟨free, other, after, alone, rfl⟩
      exact ⟨_, (compileGroups_eq_ok_iff registered).mpr ⟨_, _, joined, rfl⟩⟩
  -- What the groups behind collect on the rest of the arguments settles the joined query.
  · intro query joined
    obtain ⟨result, last, found, rfl⟩ := (compileGroups_eq_ok_iff registered).mp joined
    obtain ⟨-, other, after, alone, same⟩ := (whole _).mp found
    cases same
    exact ⟨other, after, alone,
      (compileGroups_eq_ok_iff registered).mpr ⟨other, after, alone, rfl⟩, rfl⟩
  -- Without a geo part in front the error behind stays; with one on both sides it is the clash.
  · intro error alone none
    have failed := (compileGroups_eq_error_iff registered).mp alone
    have behind := Compile.collected_behind collected name fields fun both => none both.1
    rw [failed] at behind
    exact (compileGroups_eq_error_iff registered).mpr behind
  · intro back alone geo second
    obtain ⟨other, after, alone, -⟩ := (compileGroups_eq_ok_iff registered).mp alone
    exact (compileGroups_eq_error_iff registered).mpr
      (Compile.collected_clash collected name fields alone geo second)

def namedQuery : CompiledQuery where
  text := "FOR e IN places FILTER e.name == @0 RETURN e"
  bindVars := .ofValues [.string "x"]

theorem compile_named_behind_near :
    compileGroups placeCatalog "Place" { groups := [] } none [[placePart "location" .near]]
      [geoPoint origin, scalar (.string "x")] = .ok nearQuery ∧
    Unmarked placeCatalog "Place" { groups := [[placePart "name" .simpleProperty]] } none ∧
    compileGroups placeCatalog "Place" { groups := [] } none [[placePart "name" .simpleProperty]]
      [scalar (.string "x")] = .ok namedQuery ∧
    ∃ query,
      compileGroups placeCatalog "Place" { groups := [] } none
        ([[placePart "location" .near]] ++ [[placePart "name" .simpleProperty]])
        [geoPoint origin, scalar (.string "x")] = .ok query ∧
      query.bindVars = .ofValues [.float origin.x, .float origin.y, .string "x"] := by
  have near : compileGroups placeCatalog "Place" { groups := [] } none
      [[placePart "location" .near]] [geoPoint origin, scalar (.string "x")] = .ok nearQuery := rfl
  have unmarked : Unmarked placeCatalog "Place"
      { groups := [[placePart "name" .simpleProperty]] } none :=
    placeCatalog_unmarked (Or.inl rfl) .simpleProperty
  have named : compileGroups placeCatalog "Place" { groups := [] } none
      [[placePart "name" .simpleProperty]] [scalar (.string "x")] = .ok namedQuery := rfl
  refine ⟨near, unmarked, named, ?_⟩
  obtain ⟨collection, selection, rest, -, -, left, succeeds, joined, -, -⟩ :=
    compile_append near unmarked
  have behind : rest = [scalar (.string "x")] := left
  rw [behind] at succeeds joined
  obtain ⟨query, run⟩ := succeeds.mpr ⟨⟨namedQuery, named⟩, by decide⟩
  obtain ⟨other, after, -, alone, same⟩ := joined query run
  have written : after.vars = namedQuery.bindVars :=
    congrArg CompiledQuery.bindVars (Except.ok.inj (alone.symm.trans named))
  refine ⟨query, run, ?_⟩
  rw [same, written]
  rfl

end

end FinderQuery

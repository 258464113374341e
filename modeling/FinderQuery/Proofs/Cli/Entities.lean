import FinderQuery.Proofs.Agreement
import FinderQuery.Proofs.Cli.Outcomes
import FinderQuery.Proofs.Declarations

namespace FinderQuery

def CompileError.KnowsEntity (error : CompileError) : Prop := ∀ name, error ≠ .unknownEntity name

theorem BindRequest.knowsEntity_of_error? {request : BindRequest} {share : List Argument}
    {error : CompileError} (refused : request.error? share = some error) : error.KnowsEntity := by
  intro name same
  subst same
  rw [error?, Option.or_eq_some_iff] at refused
  rcases refused with misfit | ⟨-, short⟩
  · obtain ⟨⟨earlier, argument⟩, -, fault⟩ := List.exists_of_findSome?_eq_some misfit
    dsimp only at fault
    unfold fault? at fault
    split at fault
    · cases fault
    · split at fault <;> cases fault
    · cases fault
    · cases fault
    · split at fault <;> cases fault
    · split at fault <;> cases fault
  · split at short <;> cases short

section

variable {catalog : Catalog} {entity collection : String} {arguments : List Argument}
  (known : catalog.entities.contains entity)

include known

theorem Catalog.property_knowsEntity (path : PropertyPath) :
    FailsOnly CompileError.KnowsEntity (catalog.metadata.property entity path) := by
  obtain ⟨content, listed⟩ := Option.isSome_iff_exists.mp known
  rw [Catalog.property_metadata, Catalog.property_of_entity listed]
  refine FailsOnly.map _ ?_
  split
  · exact FailsOnly.ok _
  · exact FailsOnly.error nofun

theorem Placement.offer_knowsEntity (place : Placement) :
    FailsOnly CompileError.KnowsEntity
      (place.offer ⟨catalog, entity, collection⟩ arguments) := by
  refine FailsOnly.bind (Catalog.property_knowsEntity known _) fun property _ => ?_
  dsimp only
  split
  · exact FailsOnly.error nofun
  · split
    next error refused => exact FailsOnly.error (BindRequest.knowsEntity_of_error? refused)
    · exact FailsOnly.ok _

namespace Reference

theorem parts_knowsEntity (groupsBefore : List (List Part)) (partsBefore rest : List Part) :
    FailsOnly CompileError.KnowsEntity
      (parts ⟨catalog, entity, collection⟩ arguments groupsBefore partsBefore rest) := by
  refine FailsOnly.mapM fun entry _ => ?_
  exact (Placement.offer_knowsEntity known _).guarded nofun

theorem groups_knowsEntity (groupsBefore rest : List (List Part)) :
    FailsOnly CompileError.KnowsEntity
      (groups ⟨catalog, entity, collection⟩ arguments groupsBefore rest) := by
  refine FailsOnly.mapM fun entry _ => ?_
  exact (parts_knowsEntity known _ _ _).guarded nofun

end Reference

theorem compile_knowsEntity (tree : PartTree) (arguments : List Argument)
    (sorting : Option Sorting) :
    FailsOnly CompileError.KnowsEntity (compile catalog entity tree arguments sorting).result := by
  obtain ⟨content, listed⟩ := Option.isSome_iff_exists.mp known
  have registered : catalog.metadata.collectionName entity = .ok content.collection := by
    show catalog.collectionName entity = _
    rw [Catalog.collectionName, Catalog.entity, listed]
    rfl
  rw [compile_result_of_collection registered]
  exact FailsOnly.map _ (Reference.groups_knowsEntity known _ _)

end

namespace Config

def row (config : Config) (name : String) (entity : Catalog.Entity) : EntitySummary :=
  ⟨name, entity.collection, entity.properties.size, config.defaultEntity = some name⟩

end Config

theorem Table.filter_entries {α : Type} (table : Table α) (name : String) :
    table.entries.filter (·.1 = name) = (table.get? name).toList.map (name, ·) := by
  obtain ⟨entries, sorted⟩ := table
  unfold get?
  dsimp only
  induction entries with
  | nil => rfl
  | cons head rest ih =>
    have later := List.pairwise_cons.mp sorted
    rw [List.filter_cons, lookup_cons_eq_ite, ih later.2]
    by_cases hit : head.1 = name
    · subst hit
      simp [lookup_eq_none_of_lt later.1]
    · simp [hit, Ne.symm hit]

namespace Config

/-- Rows for the entities of a configuration: one for each, in the order of their names, and one of
them is marked if there is a default entity. -/
structure Lists (config : Config) (rows : List EntitySummary) : Prop where
  increasing : (rows.map (·.name)).Pairwise (· < ·)
  each : ∀ name, rows.filter (·.name = name) =
    (config.catalog.entities.get? name).toList.map (config.row name)
  marked : (rows.filter (·.isDefault)).map (·.name) = config.defaultEntity.toList

theorem unknownDefault?_eq_some_iff {config : Config} {name : String} :
    config.unknownDefault? = some name ↔
      config.defaultEntity = some name ∧ config.catalog.entities.get? name = none := by
  rw [unknownDefault?, Option.filter_eq_some_iff, Table.contains]
  cases config.catalog.entities.get? name <;> simp

theorem filter_summaries (config : Config) (name : String) :
    config.summaries.filter (·.name = name) =
      (config.catalog.entities.get? name).toList.map (config.row name) := by
  rw [summaries, List.filter_map]
  show (config.catalog.entities.entries.filter (·.1 = name)).map _ = _
  rw [Table.filter_entries, List.map_map]
  rfl

theorem lists_summaries {config : Config} (known : config.unknownDefault? = none) :
    config.Lists config.summaries where
  increasing := by
    rw [summaries, List.map_map]
    exact config.catalog.entities.names_sorted
  each := config.filter_summaries
  marked := by
    cases chosen : config.defaultEntity with
    | none =>
      have unmarked : ∀ row ∈ config.summaries, ¬ row.isDefault := by
        rw [summaries, List.forall_mem_map]
        simp [chosen]
      rw [List.filter_eq_nil_iff.mpr unmarked]
      rfl
    | some name =>
      have present : (config.catalog.entities.get? name).isSome := by
        by_contra absent
        rw [Option.not_isSome_iff_eq_none] at absent
        rw [unknownDefault?_eq_some_iff.mpr ⟨chosen, absent⟩] at known
        cases known
      obtain ⟨entity, listed⟩ := Option.isSome_iff_exists.mp present
      have same : config.summaries.filter (·.isDefault) =
          config.summaries.filter (·.name = name) := by
        refine List.filter_congr fun row member => ?_
        obtain ⟨entry, -, rfl⟩ := List.mem_map.mp member
        simp [chosen, eq_comm]
      rw [same, filter_summaries, listed]
      rfl

end Config

namespace Cli

variable {config : Config}

theorem readConfig_of_parse? {text : String} (parsed : Config.parse? text = some config)
    (path : String) :
    readConfig path (.text text) =
      match config.unknownDefault? with
      | some name => .error (.unknownEntity name)
      | none => .ok config := by
  cases known : config.unknownDefault? with
  | none => simp only [readConfig, parsed, known]
  | some name => simp only [readConfig, parsed, known]

theorem chooseEntity_eq_ok_iff {requested : Option String} {name : String} :
    chooseEntity config requested = .ok name ↔
      (requested <|> config.defaultEntity) = some name ∧
        (config.catalog.entities.get? name).isSome := by
  unfold chooseEntity
  cases requested <|> config.defaultEntity with
  | none => simp
  | some choice =>
    dsimp only
    rw [Table.contains]
    split
    next present =>
      rw [Except.ok.injEq, Option.some.injEq]
      exact ⟨fun same => ⟨same, same ▸ present⟩, And.left⟩
    next absent =>
      refine ⟨nofun, fun given => ?_⟩
      cases given.1
      exact absurd given.2 absent

def Failure.KnowsEntity : Failure → Prop
  | .uncompilable error => error.KnowsEntity
  | _ => True

theorem readConfig_knowsEntity (path : String) (state : FileState) :
    FailsOnly Failure.KnowsEntity (readConfig path state) := by
  unfold readConfig
  split
  · exact FailsOnly.ok _
  · exact FailsOnly.error trivial
  · split
    · exact FailsOnly.error trivial
    · split
      · exact FailsOnly.error trivial
      · exact FailsOnly.ok _

theorem chooseEntity_knowsEntity (config : Config) (requested : Option String) :
    FailsOnly Failure.KnowsEntity (chooseEntity config requested) := by
  unfold chooseEntity
  split
  · exact FailsOnly.error trivial
  · split
    · exact FailsOnly.ok _
    · exact FailsOnly.error trivial

theorem prepare_knowsEntity (requested : Option String) (found : String × FileState) :
    FailsOnly Failure.KnowsEntity (prepare requested found) :=
  (readConfig_knowsEntity _ _).bind fun config _ =>
    (chooseEntity_knowsEntity config requested).bind fun _ _ => FailsOnly.ok _

theorem decodeRequest_knowsEntity (path content : String) :
    FailsOnly Failure.KnowsEntity (decodeRequest path content) := by
  unfold decodeRequest
  split
  · exact FailsOnly.ok _
  · exact FailsOnly.error trivial

theorem request_knowsEntity (surroundings : Surroundings Id) (path : String) :
    FailsOnly Failure.KnowsEntity (surroundings.request path) := by
  unfold Surroundings.request
  split
  · show FailsOnly _ (readInput surroundings.input)
    cases surroundings.input with
    | unreadable complaint => exact FailsOnly.error trivial
    | text content => exact decodeRequest_knowsEntity "-" content
  · show FailsOnly _ (readRequest path (surroundings.file path))
    cases surroundings.file path with
    | text content => exact decodeRequest_knowsEntity path content
    | _ => exact FailsOnly.error trivial

theorem parseSorting_knowsEntity (texts : List String) :
    FailsOnly Failure.KnowsEntity (Sorting.parse texts) := by
  refine FailsOnly.map _ (FailsOnly.mapM fun text _ => ?_)
  unfold SortKey.parse
  split
  · exact FailsOnly.ok _
  · dsimp only
    split
    · exact FailsOnly.ok _
    · exact FailsOnly.error trivial

theorem compile_of_chosen {requested : Option String} {entity : String}
    (chosen : chooseEntity config requested = .ok entity) (invocation : Invocation)
    (palette : Palette) (request : CompileRequest) :
    FailsOnly Failure.KnowsEntity (invocation.compile palette config entity request) := by
  have known : config.registered.entities.contains entity := by
    rw [config.registered_eq]
    exact (chooseEntity_eq_ok_iff.mp chosen).2
  refine FailsOnly.map _ ?_
  unfold compileRequest
  split
  · exact FailsOnly.ok _
  next error failed => exact FailsOnly.error (compile_knowsEntity known _ _ _ error failed)

/-- The run says that the compiler does not know an entity. -/
def Outcome.BlamesEntity (outcome : Outcome) : Prop :=
  ∃ text ∈ outcome.diagnostics, "error: [UnknownEntity]".toList <+: text.toList

theorem not_blaming_failure {failure : Failure} (knows : failure.KnowsEntity) :
    ¬ "error: [UnknownEntity]".toList <+: ("error: " ++ failure.message).toList := by
  intro opens
  have start := List.prefix_iff_eq_take.mp opens
  rw [String.toList_append] at start
  unfold Failure.message at start
  cases failure with
  | uncompilable error =>
    unfold CompileError.messageWithCode CompileError.code at start
    cases error with
    | unknownEntity name => exact absurd rfl (knows name)
    | _ => simp at start
  | unreadableInput complaint =>
    -- A complaint begins with a letter, and not with a bracket.
    obtain ⟨text, letter⟩ := complaint
    simp only at start
    cases chars : text.toList with
    | nil => simp [chars] at start
    | cons first rest =>
      have bracket : '[' = first := by simp [chars] at start; exact start.1
      rw [chars, List.head?_cons, Option.any_some, ← bracket] at letter
      exact absurd letter (by decide)
  | _ => simp at start

theorem not_blaming_misuse (error : UsageError) :
    ¬ "error: [UnknownEntity]".toList <+: ("error: " ++ error.message).toList := by
  intro opens
  have start := List.prefix_iff_eq_take.mp opens
  rw [String.toList_append] at start
  unfold UsageError.message at start
  cases error <;> simp at start

theorem not_blaming_warning (invocation : Invocation) (palette : Palette) :
    ¬ "error: [UnknownEntity]".toList <+: (invocation.missingConfigWarning palette).toList := by
  rintro ⟨rest, split⟩
  refine not_isMissingConfigWarning_error ("[UnknownEntity]" ++ String.ofList rest)
    ⟨invocation, palette, String.toList_injective ?_⟩
  rw [← split]
  simp

theorem not_blamesEntity_failure {failure : Failure} (knows : failure.KnowsEntity)
    {warnings : List String}
    (silent : ∀ text ∈ warnings, ¬ "error: [UnknownEntity]".toList <+: text.toList) :
    ¬ (Outcome.failure warnings failure).BlamesEntity := by
  rintro ⟨text, member, opens⟩
  rcases List.mem_append.mp member with warned | failed
  · exact silent text warned opens
  · rw [List.mem_singleton.mp failed] at opens
    exact not_blaming_failure knows opens

theorem not_blamesEntity_ofExcept {result : Except Failure String}
    (knows : FailsOnly Failure.KnowsEntity result) :
    ¬ (Outcome.ofExcept [] result).BlamesEntity := by
  cases result with
  | ok output => simp [Outcome.BlamesEntity, Outcome.ofExcept, Outcome.success]
  | error failure => exact not_blamesEntity_failure (knows failure rfl) (by simp)

theorem not_blamesEntity_interruption (interruption : Interruption) :
    ¬ interruption.outcome.BlamesEntity := by
  cases interruption with
  | misuse error =>
    rintro ⟨text, member, opens⟩
    rw [List.mem_singleton.mp member] at opens
    exact not_blaming_misuse error opens
  | _ => simp [Outcome.BlamesEntity, Interruption.outcome, Outcome.success]

namespace Invocation

variable {invocation : Invocation} {surroundings : Surroundings Id}

theorem not_blaming_warnings (palette : Palette) (state : FileState) :
    ∀ text ∈ invocation.warnings palette state,
      ¬ "error: [UnknownEntity]".toList <+: text.toList := by
  intro text member
  cases state with
  | missing =>
    rw [List.mem_singleton.mp member]
    exact not_blaming_warning invocation palette
  | _ => cases member

theorem execute_not_blamesEntity : ¬ (invocation.execute surroundings).BlamesEntity := by
  cases command : invocation.command with
  | sort keys =>
    unfold execute
    rw [command]
    exact not_blamesEntity_ofExcept (FailsOnly.map _ (parseSorting_knowsEntity keys))
  | entities =>
    unfold execute
    rw [command]
    exact not_blamesEntity_ofExcept (FailsOnly.map _ (readConfig_knowsEntity _ _))
  | compile path requested =>
    rw [execute_compile command]
    cases prepared : prepare requested (invocation.configFile surroundings) with
    | error failure =>
      simp only [bind, prepared]
      exact not_blamesEntity_failure (prepare_knowsEntity _ _ _ prepared) (not_blaming_warnings _ _)
    | ok choice =>
      obtain ⟨config, -, named⟩ := bind_eq_ok_iff.mp prepared
      obtain ⟨entity, chosen, same⟩ := bind_eq_ok_iff.mp named
      cases same
      simp only [bind, prepared]
      exact not_blamesEntity_ofExcept
        ((request_knowsEntity surroundings path).bind fun request _ =>
          compile_of_chosen chosen invocation _ request)

end Invocation

theorem run_not_blamesEntity (surroundings : Surroundings Id) (words : List String) :
    ¬ (run surroundings words).BlamesEntity := by
  cases parsed : Invocation.parse surroundings.environment.config words with
  | error interruption =>
    rw [run_of_interruption parsed]
    exact not_blamesEntity_interruption interruption
  | ok invocation =>
    rw [run_of_parse parsed]
    exact Invocation.execute_not_blamesEntity

theorem readConfig_fails_iff {text : String} (parsed : Config.parse? text = some config)
    (path : String) :
    (∃ failure, readConfig path (.text text) = .error failure) ↔
      ∃ name, config.defaultEntity = some name ∧ config.catalog.entities.get? name = none := by
  rw [readConfig_of_parse? parsed]
  simp only [← Config.unknownDefault?_eq_some_iff]
  cases config.unknownDefault? with
  | none => simp
  | some name => simp

theorem readConfig_eq_ok_iff {text : String} (parsed : Config.parse? text = some config)
    (path : String) {loaded : Config} :
    readConfig path (.text text) = .ok loaded ↔
      loaded = config ∧ config.unknownDefault? = none := by
  rw [readConfig_of_parse? parsed]
  cases config.unknownDefault? with
  | none => simp [eq_comm]
  | some name => simp

theorem run_entities {surroundings : Surroundings Id} {words : List String}
    {invocation : Invocation} {path : String} {state : FileState}
    (parsed : Invocation.parse surroundings.environment.config words = .ok invocation)
    (command : invocation.command = .entities)
    (found : invocation.configFile surroundings = (path, state))
    (loaded : readConfig path state = .ok config) :
    run surroundings words = .success [] (invocation.entities
      (invocation.palette surroundings.onTerminal) config) := by
  rw [run_of_parse parsed]
  unfold Invocation.execute
  rw [command]
  simp only [bind, found, loaded]
  rfl

theorem collectionName_registered {name : String} {entity : Catalog.Entity}
    (listed : config.catalog.entities.get? name = some entity) :
    config.registered.collectionName name = .ok entity.collection := by
  rw [config.registered_eq, Catalog.collectionName, Catalog.entity, listed]
  rfl

/-- A configuration that is understood is refused only for a default entity that it does not have.
Otherwise its entities are listed one by one, each that can be chosen is known to the compiler with
its own collection, and no run ends with the compiler not knowing the entity. -/
theorem loaded_config_is_consistent {text : String} (parsed : Config.parse? text = some config)
    (path : String) :
    ((∃ failure, readConfig path (.text text) = .error failure) ↔
      ∃ name, config.defaultEntity = some name ∧ config.catalog.entities.get? name = none) ∧
    (∀ loaded, readConfig path (.text text) = .ok loaded →
      loaded = config ∧ loaded.Lists loaded.summaries ∧
      (∀ (surroundings : Surroundings Id) (words : List String) (invocation : Invocation),
        Invocation.parse surroundings.environment.config words = .ok invocation →
        invocation.command = .entities →
        invocation.configFile surroundings = (path, .text text) →
        run surroundings words = .success [] (invocation.present
          (invocation.palette surroundings.onTerminal).entitiesReport
          (fun rows => .array (rows.map (·.toJson))) loaded.summaries)) ∧
      ∀ requested name, chooseEntity loaded requested = .ok name →
        (requested <|> loaded.defaultEntity) = some name ∧
        ∃ entity, loaded.catalog.entities.get? name = some entity ∧
          loaded.registered.collectionName name = .ok entity.collection) ∧
    ∀ (surroundings : Surroundings Id) (words : List String),
      ¬ (run surroundings words).BlamesEntity := by
  refine ⟨readConfig_fails_iff parsed path, ?_, run_not_blamesEntity⟩
  intro loaded read
  obtain ⟨rfl, known⟩ := (readConfig_eq_ok_iff parsed path).mp read
  refine ⟨rfl, Config.lists_summaries known, ?_, ?_⟩
  · intro surroundings words invocation understood command found
    exact run_entities understood command found read
  · intro requested name chosen
    obtain ⟨choice, present⟩ := chooseEntity_eq_ok_iff.mp chosen
    obtain ⟨entity, listed⟩ := Option.isSome_iff_exists.mp present
    exact ⟨choice, entity, listed, collectionName_registered listed⟩

def townText : String :=
  "default_entity = \"Town\"\n" ++
    "entities.Town = \x7b collection = \"towns\", properties.name.type = \"string\" \x7d\n" ++
    "entities.Place = \x7b collection = \"places\" \x7d"

def townConfig : Config where
  defaultEntity := "Town"
  catalog := ⟨.ofList
    [("Place", ⟨"places", ∅⟩),
      ("Town", ⟨"towns", .ofList [("name", ⟨none, { kind := .string }⟩)]⟩)]⟩

def townDirectory : Surroundings Id where
  environment := {}
  onTerminal := false
  file path := if path = "towns.toml" then .text townText else .missing
  input := .text ""

theorem town_is_chosen_by_default :
    Config.parse? townText = some townConfig ∧
    (townConfig.summaries.filter (·.isDefault)).map (·.name) = ["Town"] ∧
    (run townDirectory ["entities", "--config", "towns.toml"]).output =
      "Place -> places [0 properties]\nTown -> towns [1 properties] (default)\n" ∧
    chooseEntity townConfig none = .ok "Town" ∧
    townConfig.registered.collectionName "Town" = .ok "towns" := by
  have parsed : Config.parse? townText = some townConfig := by decide +kernel
  have ⟨_, consistent, _⟩ := loaded_config_is_consistent parsed "towns.toml"
  have known : townConfig.unknownDefault? = none := by decide
  have read := (readConfig_eq_ok_iff parsed "towns.toml").mpr ⟨rfl, known⟩
  obtain ⟨-, lists, printed, chosen⟩ := consistent townConfig read
  have choice : chooseEntity townConfig none = .ok "Town" := rfl
  obtain ⟨-, entity, listed, registered⟩ := chosen none "Town" choice
  refine ⟨parsed, lists.marked, ?_, choice, ?_⟩
  · rw [printed townDirectory ["entities", "--config", "towns.toml"]
      ⟨some "towns.toml", .text, .auto, false, .entities⟩ rfl rfl rfl]
    decide +kernel
  · rw [registered]
    have same : townConfig.catalog.entities.get? "Town" =
      some ⟨"towns", .ofList [("name", ⟨none, { kind := .string }⟩)]⟩ := by decide +kernel
    rw [same] at listed
    cases listed
    rfl

end Cli

end FinderQuery

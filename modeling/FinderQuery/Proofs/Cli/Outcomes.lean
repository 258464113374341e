import FinderQuery.Proofs.Cli.Stages

namespace FinderQuery.Cli

namespace Outcome

def errorText (outcome : Outcome) : String := String.join (outcome.diagnostics.map line)

theorem errorText_eq_empty_iff {outcome : Outcome} :
    outcome.errorText = "" ↔ outcome.diagnostics = [] := by
  unfold errorText
  cases outcome.diagnostics with
  | nil => simp
  | cons text texts =>
    rw [List.map_cons, String.join_cons, line]
    refine ⟨fun empty => ?_, nofun⟩
    simpa using congrArg String.toList empty

/-- A run has written to one of its streams at most, and the status says to which. -/
structure StreamsApart (outcome : Outcome) : Prop where
  known : outcome.status = 0 ∨ outcome.status = 1 ∨ outcome.status = 2
  failed : outcome.status ≠ 0 → outcome.output = "" ∧ outcome.errorText ≠ ""
  succeeded : outcome.status = 0 → outcome.errorText = ""

theorem streamsApart_success (output : String) : (success [] output).StreamsApart where
  known := Or.inl rfl
  failed := fun failed => absurd rfl failed
  succeeded := fun _ => rfl

theorem streamsApart_failure (warnings : List String) (error : Failure) :
    (failure warnings error).StreamsApart where
  known := Or.inr (Or.inl rfl)
  failed := fun _ => ⟨rfl, fun empty => by simpa [failure] using errorText_eq_empty_iff.mp empty⟩
  succeeded := nofun

theorem streamsApart_ofExcept (result : Except Failure String) :
    (ofExcept [] result).StreamsApart := by
  cases result with
  | ok output => exact streamsApart_success output
  | error error => exact streamsApart_failure [] error

theorem streamsApart_interruption (interruption : Interruption) :
    interruption.outcome.StreamsApart := by
  cases interruption with
  | version => exact streamsApart_success _
  | help => exact streamsApart_success _
  | misuse error =>
    refine ⟨Or.inr (Or.inr rfl), fun _ => ⟨rfl, fun empty => ?_⟩, nofun⟩
    exact absurd (errorText_eq_empty_iff.mp empty) (List.cons_ne_nil _ _)

end Outcome

def IsMissingConfigWarning (text : String) : Prop :=
  ∃ (invocation : Invocation) (palette : Palette), text = invocation.missingConfigWarning palette

theorem not_isMissingConfigWarning_error (message : String) :
    ¬ IsMissingConfigWarning ("error: " ++ message) := by
  intro given
  obtain ⟨invocation, palette, same⟩ := given
  have first := congrArg (fun text => text.toList.head?) same
  unfold Invocation.missingConfigWarning Style.paint at first
  by_cases quiet : invocation.quiet
  · simp [quiet] at first
  · cases parameters : palette.warning.parameters <;> simp [quiet, parameters] at first

theorem no_warning_of_ofExcept {result : Except Failure String} :
    ∀ text ∈ (Outcome.ofExcept [] result).diagnostics, ¬ IsMissingConfigWarning text := by
  intro text member
  cases result with
  | ok output => cases member
  | error error =>
    cases List.mem_singleton.mp member
    exact not_isMissingConfigWarning_error _

theorem no_warning_of_interruption {interruption : Interruption} :
    ∀ text ∈ interruption.outcome.diagnostics, ¬ IsMissingConfigWarning text := by
  intro text member
  cases interruption with
  | misuse error =>
    cases List.mem_singleton.mp member
    exact not_isMissingConfigWarning_error _
  | _ => cases member

inductive Access where
  | file (path : String)
  | input
  deriving DecidableEq

/-- The same surroundings, with a record of what is read of them. -/
def Surroundings.watched (surroundings : Surroundings Id) :
    Surroundings (StateM (List Access)) where
  environment := surroundings.environment
  onTerminal := surroundings.onTerminal
  file path := do
    modify (· ++ [.file path])
    return surroundings.file path
  input := do
    modify (· ++ [.input])
    return surroundings.input

namespace Invocation

variable (invocation : Invocation) (surroundings : Surroundings Id)

def configPath? : Option String := invocation.config <|> surroundings.environment.defaultConfig?

theorem configFile_watched (log : List Access) :
    (invocation.configFile surroundings.watched).run log =
      (invocation.configFile surroundings,
        log ++ (invocation.configPath? surroundings).toList.map .file) := by
  unfold configFile configPath? Surroundings.watched
  dsimp only
  cases invocation.config <|> surroundings.environment.defaultConfig? with
  | none => simp; rfl
  | some path => rfl

/-- What a run reads: its configuration, and a request if it gets that far. -/
def accesses : List Access :=
  let config := (invocation.configPath? surroundings).toList.map .file
  match invocation.command with
  | .sort _ => []
  | .entities => config
  | .compile path requested =>
    match prepare requested (invocation.configFile surroundings) with
    | .error _ => config
    | .ok _ => config ++ [if path = "-" then .input else .file path]

theorem execute_watched (log : List Access) :
    (invocation.execute surroundings.watched).run log =
      (invocation.execute surroundings, log ++ invocation.accesses surroundings) := by
  unfold accesses
  have found := invocation.configFile_watched surroundings
  cases command : invocation.command with
  | sort keys =>
    unfold execute
    rw [command, List.append_nil]
    rfl
  | entities =>
    unfold execute
    rw [command]
    dsimp only
    rw [StateT.run_bind, found]
    rfl
  | compile path requested =>
    rw [execute_compile command, execute_compile command, StateT.run_bind, found]
    cases prepared : prepare requested (invocation.configFile surroundings) with
    | error error =>
      simp only [bind, prepared]
      rfl
    | ok choice =>
      simp only [bind, prepared, ← List.append_assoc]
      unfold Surroundings.request
      split <;> rfl

end Invocation

namespace Invocation

variable {invocation : Invocation} {surroundings : Surroundings Id}

/-- The run is to compile, and there is no configuration. -/
def LacksConfig (invocation : Invocation) (surroundings : Surroundings Id) : Prop :=
  (∃ path requested, invocation.command = .compile path requested) ∧
    (invocation.configFile surroundings).2 = .missing

theorem execute_of_lacksConfig (lacks : invocation.LacksConfig surroundings) :
    ∃ path requested failure,
      invocation.command = .compile path requested ∧
      chooseEntity {} requested = .error failure ∧
      invocation.execute surroundings =
        .failure [invocation.missingConfigWarning (invocation.palette surroundings.onTerminal)]
          failure ∧
      invocation.accesses surroundings =
        (invocation.configPath? surroundings).toList.map .file := by
  obtain ⟨⟨path, requested, command⟩, missing⟩ := lacks
  obtain ⟨failure, chosen, unprepared⟩ := prepare_missing requested missing
  refine ⟨path, requested, failure, command, chosen, ?_, ?_⟩
  · rw [execute_compile command]
    simp only [bind, unprepared, missing]
    rfl
  · unfold accesses
    rw [command]
    dsimp only
    rw [unprepared]

theorem execute_of_not_lacksConfig (config : ¬ invocation.LacksConfig surroundings) :
    ∃ result, invocation.execute surroundings = .ofExcept [] result := by
  cases command : invocation.command with
  | sort keys =>
    unfold execute
    rw [command]
    exact ⟨_, rfl⟩
  | entities =>
    unfold execute
    rw [command]
    exact ⟨_, rfl⟩
  | compile path requested =>
    have there : (invocation.configFile surroundings).2 ≠ .missing :=
      fun missing => config ⟨⟨path, requested, command⟩, missing⟩
    have silent (palette : Palette) :
        invocation.warnings palette (invocation.configFile surroundings).2 = [] := by
      unfold warnings
      split
      next missing => exact absurd missing there
      · rfl
    rw [execute_compile command]
    cases prepared : prepare requested (invocation.configFile surroundings) with
    | error error =>
      simp only [bind, prepared, silent]
      exact ⟨.error error, rfl⟩
    | ok choice =>
      simp only [bind, prepared]
      exact ⟨_, rfl⟩

end Invocation

theorem run_streamsApart (surroundings : Surroundings Id) (words : List String) :
    (run surroundings words).StreamsApart := by
  cases parsed : Invocation.parse surroundings.environment.config words with
  | error interruption =>
    rw [run_of_interruption parsed]
    exact Outcome.streamsApart_interruption interruption
  | ok invocation =>
    rw [run_of_parse parsed]
    by_cases lacks : invocation.LacksConfig surroundings
    · obtain ⟨-, -, failure, -, -, ended, -⟩ := Invocation.execute_of_lacksConfig lacks
      rw [ended]
      exact Outcome.streamsApart_failure _ failure
    · obtain ⟨result, ended⟩ := Invocation.execute_of_not_lacksConfig lacks
      rw [ended]
      exact Outcome.streamsApart_ofExcept result

theorem run_warns_iff (surroundings : Surroundings Id) (words : List String) :
    (∃ text ∈ (run surroundings words).diagnostics, IsMissingConfigWarning text) ↔
      ∃ invocation, Invocation.parse surroundings.environment.config words = .ok invocation ∧
        invocation.LacksConfig surroundings := by
  constructor
  · intro warned
    obtain ⟨text, member, warning⟩ := warned
    cases parsed : Invocation.parse surroundings.environment.config words with
    | error interruption =>
      rw [run_of_interruption parsed] at member
      exact absurd warning (no_warning_of_interruption text member)
    | ok invocation =>
      by_cases lacks : invocation.LacksConfig surroundings
      · exact ⟨invocation, rfl, lacks⟩
      · obtain ⟨result, ended⟩ := Invocation.execute_of_not_lacksConfig lacks
        rw [run_of_parse parsed, ended] at member
        exact absurd warning (no_warning_of_ofExcept text member)
  · intro given
    obtain ⟨invocation, parsed, lacks⟩ := given
    obtain ⟨-, -, failure, -, -, ended, -⟩ := Invocation.execute_of_lacksConfig lacks
    rw [run_of_parse parsed, ended]
    exact ⟨_, List.mem_cons_self, invocation, _, rfl⟩

/-- Every run ends with a status that tells which stream it has written to. It warns that there is
no configuration exactly if it was to compile without one; then it fails for want of an entity and
has read nothing but the place of the configuration. -/
theorem run_streams_apart (surroundings : Surroundings Id) (words : List String) :
    (run surroundings words).StreamsApart ∧
    ((∃ text ∈ (run surroundings words).diagnostics, IsMissingConfigWarning text) ↔
      ∃ invocation, Invocation.parse surroundings.environment.config words = .ok invocation ∧
        invocation.LacksConfig surroundings) ∧
    ∀ invocation, Invocation.parse surroundings.environment.config words = .ok invocation →
      invocation.LacksConfig surroundings →
      ∃ path requested failure,
        invocation.command = .compile path requested ∧
        chooseEntity {} requested = .error failure ∧
        (run surroundings.watched words).run [] =
          (run surroundings words, (invocation.configPath? surroundings).toList.map .file) ∧
        run surroundings words =
          ⟨1, "",
            [invocation.missingConfigWarning (invocation.palette surroundings.onTerminal),
              "error: " ++ failure.message]⟩ := by
  refine ⟨run_streamsApart surroundings words, run_warns_iff surroundings words, ?_⟩
  intro invocation parsed lacks
  obtain ⟨path, requested, failure, command, chosen, ended, accesses⟩ :=
    Invocation.execute_of_lacksConfig lacks
  refine ⟨path, requested, failure, command, chosen, ?_, ?_⟩
  · have watched : run surroundings.watched words = invocation.execute surroundings.watched :=
      run_of_parse parsed
    rw [watched, invocation.execute_watched, run_of_parse parsed, accesses]
    rfl
  · rw [run_of_parse parsed, ended]
    rfl

def emptyDirectory : Surroundings Id where
  environment := {}
  onTerminal := false
  file _ := .missing
  input := .text ""

theorem compile_in_emptyDirectory_warns :
    (run emptyDirectory.watched ["--config", "a.toml", "compile", "-"]).run [] =
      (⟨1, "",
        ["warning: no entity config found; pass --config or set AQLC_CONFIG",
          "error: no entity selected; pass --entity or set default_entity in the config"]⟩,
        [.file "a.toml"]) := by
  obtain ⟨-, -, warned⟩ :=
    run_streams_apart emptyDirectory ["--config", "a.toml", "compile", "-"]
  have lacks : Invocation.LacksConfig ⟨some "a.toml", .text, .auto, false, .compile "-" none⟩
      emptyDirectory := ⟨⟨"-", none, rfl⟩, rfl⟩
  obtain ⟨path, requested, failure, command, chosen, watched, ended⟩ := warned _ rfl lacks
  cases command
  cases chosen
  rw [watched, ended]
  rfl

end FinderQuery.Cli

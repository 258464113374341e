import FinderQuery.Cli.Run

namespace FinderQuery.Cli

theorem chooseEntity_empty (requested : Option String) :
    ∃ failure, chooseEntity {} requested = .error failure := by
  cases requested with
  | none => exact ⟨_, rfl⟩
  | some name => exact ⟨_, rfl⟩

def prepare (requested : Option String) (found : String × FileState) :
    Except Failure (Config × String) := do
  let config ← readConfig found.1 found.2
  let entity ← chooseEntity config requested
  return (config, entity)

theorem prepare_missing (requested : Option String) {found : String × FileState}
    (missing : found.2 = .missing) :
    ∃ failure, chooseEntity {} requested = .error failure ∧
      prepare requested found = .error failure := by
  obtain ⟨failure, chosen⟩ := chooseEntity_empty requested
  refine ⟨failure, chosen, ?_⟩
  unfold prepare readConfig
  rw [missing]
  show chooseEntity {} requested >>= _ = _
  rw [chosen]
  rfl

namespace Invocation

def warnings (invocation : Invocation) (palette : Palette) : FileState → List String
  | .missing => [invocation.missingConfigWarning palette]
  | _ => []

theorem execute_compile {m : Type → Type} [Monad m] {invocation : Invocation} {path : String}
    {requested : Option String} (command : invocation.command = .compile path requested)
    (surroundings : Surroundings m) :
    invocation.execute surroundings = do
      let found ← invocation.configFile surroundings
      match prepare requested found with
      | .error error =>
        return .failure (invocation.warnings (invocation.palette surroundings.onTerminal) found.2)
          error
      | .ok (config, entity) =>
        let request ← surroundings.request path
        return .ofExcept [] (request >>=
          invocation.compile (invocation.palette surroundings.onTerminal) config entity) := by
  unfold execute
  rw [command]
  refine bind_congr fun found => ?_
  obtain ⟨configPath, state⟩ := found
  unfold prepare warnings
  dsimp only
  cases loaded : readConfig configPath state with
  | error error =>
    cases state with
    | missing => cases loaded
    | _ => rfl
  | ok config =>
    cases chosen : chooseEntity config requested with
    | error error => cases state <;> simp only [chosen, bind, Except.bind]
    | ok entity =>
      cases state with
      | missing =>
        obtain ⟨failure, none⟩ := chooseEntity_empty requested
        cases loaded
        rw [none] at chosen
        cases chosen
      | _ =>
        simp only [chosen, bind, Except.bind]
        rfl

end Invocation

variable {words : List String}

theorem run_of_parse {m : Type → Type} [Monad m] {surroundings : Surroundings m}
    {invocation : Invocation}
    (parsed : Invocation.parse surroundings.environment.config words = .ok invocation) :
    run surroundings words = invocation.execute surroundings := by
  unfold run
  rw [parsed]

theorem run_of_interruption {surroundings : Surroundings Id} {interruption : Interruption}
    (parsed : Invocation.parse surroundings.environment.config words = .error interruption) :
    run surroundings words = interruption.outcome := by
  unfold run
  rw [parsed]
  rfl

end FinderQuery.Cli

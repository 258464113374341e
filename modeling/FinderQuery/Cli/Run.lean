import FinderQuery.Cli.Arguments
import FinderQuery.Cli.Report
import FinderQuery.Cli.SortKeys
import FinderQuery.Compile

namespace FinderQuery.Cli

inductive FileState where
  | missing
  | unreadable (reason : String)
  | text (content : String)

inductive InputState where
  | unreadable (complaint : Complaint)
  | text (content : String)

structure Environment where
  /-- The configuration file to use if the command line names none. -/
  config : Option String := none
  home : Option String := none
  configHome : Option String := none
  /-- The home directory that the list of accounts names for the user. -/
  accountHome : Option String := none

structure Surroundings (m : Type → Type) where
  environment : Environment
  onTerminal : Bool
  file : (path : String) → m FileState
  input : m InputState

structure Outcome where
  status : Nat
  output : String
  /-- The lines for the standard error stream. The reports of the compiler are below the level that
  is shown there. -/
  diagnostics : List String

namespace Outcome

def success (warnings : List String) (output : String) : Outcome := ⟨0, output, warnings⟩

def failure (warnings : List String) (failure : Failure) : Outcome :=
  ⟨1, "", warnings ++ ["error: " ++ failure.message]⟩

def ofExcept (warnings : List String) : Except Failure String → Outcome
  | .ok output => success warnings output
  | .error error => failure warnings error

end Outcome

def versionText : String := "aqlc 0.4.0"

/-- A summary of the words that are understood; its layout is its own. -/
def helpText : String :=
  "\n".intercalate
    ["Compile derived repository queries into AQL",
      "",
      "Usage: aqlc [OPTIONS] <COMMAND>",
      "",
      "Commands:",
      "  compile <REQUEST>  Compile a request file (- for the standard input)",
      "  sort [KEY]...      Render a sort clause from property[:asc|:desc] keys",
      "  entities           List entities defined in the config",
      "",
      "Options:",
      "  --config <FILE>    Entity metadata file (TOML) [env: AQLC_CONFIG]",
      "  --format <FORMAT>  Output format: text, json",
      "  --theme <THEME>    Color theme for text output: auto, light, dark, plain",
      "  --quiet            Suppress decorations in text output",
      "  --entity <ENTITY>  Entity to compile against (compile only)",
      "  -h, --help         Print help",
      "  -V, --version      Print version"]

def Interruption.outcome : Interruption → Outcome
  | .version => .success [] (line versionText)
  | .help => .success [] (line helpText)
  | .misuse error => ⟨2, "", ["error: " ++ error.message]⟩

def isAbsolute (path : String) : Bool := path.toList.head? == some '/'

def joinPath (directory name : String) : String :=
  if directory.toList.getLast? = some '/' then directory ++ name else directory ++ "/" ++ name

def Environment.homeDirectory? (environment : Environment) : Option String :=
  environment.home.filter (!·.isEmpty) <|> environment.accountHome

/-- The directory of all configurations: an absolute one that the environment names, else one in
the home directory. -/
def Environment.configDirectory? (environment : Environment) : Option String :=
  environment.configHome.filter isAbsolute
    <|> environment.homeDirectory?.map (joinPath · ".config")

def Environment.defaultConfig? (environment : Environment) : Option String :=
  environment.configDirectory?.map (joinPath · "aqlc/entities.toml")

/-- The configuration in a file; an empty one if there is no file. -/
def readConfig (path : String) : FileState → Except Failure Config
  | .missing => .ok {}
  | .unreadable reason => .error (.unreadableConfig path reason)
  | .text content =>
    match Config.parse? content with
    | none => .error (.invalidConfig path)
    | some config =>
      match config.unknownDefault? with
      | some name => .error (.unknownEntity name)
      | none => .ok config

def chooseEntity (config : Config) (requested : Option String) : Except Failure String :=
  match requested <|> config.defaultEntity with
  | none => .error .noEntity
  | some name =>
    if config.catalog.entities.contains name then .ok name else .error (.unknownEntity name)

def decodeRequest (path content : String) : Except Failure CompileRequest :=
  match Json.decode? CompileRequest.ofJson? content with
  | some request => .ok request
  | none => .error (.invalidRequest path)

def readRequest (path : String) : FileState → Except Failure CompileRequest
  | .missing => .error (.unreadableRequest path "no such file")
  | .unreadable reason => .error (.unreadableRequest path reason)
  | .text content => decodeRequest path content

/-- The standard input is named only where it holds no request. -/
def readInput : InputState → Except Failure CompileRequest
  | .unreadable complaint => .error (.unreadableInput complaint)
  | .text content => decodeRequest "-" content

def Surroundings.request [Monad m] (surroundings : Surroundings m) (path : String) :
    m (Except Failure CompileRequest) := do
  if path = "-" then return readInput (← surroundings.input)
  else return readRequest path (← surroundings.file path)

def compileRequest (catalog : Catalog) (entity : String) (request : CompileRequest) :
    Except Failure CompiledQuery :=
  match (compile catalog.metadata entity request.tree request.arguments request.sorting).result with
  | .ok query => .ok query
  | .error error => .error (.uncompilable error)

namespace Invocation

def palette (invocation : Invocation) (onTerminal : Bool) : Palette :=
  if onTerminal && !invocation.quiet then .ofTheme invocation.theme else .plain

def missingConfigWarning (invocation : Invocation) (palette : Palette) : String :=
  let message := "no entity config found; pass --config or set AQLC_CONFIG"
  if invocation.quiet then message else palette.warning.paint "warning:" ++ " " ++ message

def present (invocation : Invocation) (text : α → String) (json : α → Json) (result : α) : String :=
  match invocation.format with
  | .text => text result
  | .json => jsonReport (json result)

def configFile [Monad m] (invocation : Invocation) (surroundings : Surroundings m) :
    m (String × FileState) :=
  match invocation.config <|> surroundings.environment.defaultConfig? with
  | some path => do pure (path, ← surroundings.file path)
  | none => pure ("", .missing)

def sort (invocation : Invocation) (palette : Palette) (keys : List String) :
    Except Failure String :=
  invocation.present palette.sortingReport (fun sorting => .string (some (Sorting.clause sorting)))
    <$> Sorting.parse keys

def entities (invocation : Invocation) (palette : Palette) (config : Config) : String :=
  invocation.present palette.entitiesReport
    (fun summaries => .array (summaries.map (·.toJson))) config.summaries

def compile (invocation : Invocation) (palette : Palette) (config : Config) (entity : String)
    (request : CompileRequest) : Except Failure String :=
  invocation.present palette.queryReport CompiledQuery.toJson
    <$> compileRequest config.registered entity request

def execute [Monad m] (invocation : Invocation) (surroundings : Surroundings m) : m Outcome := do
  let palette := invocation.palette surroundings.onTerminal
  match invocation.command with
  | .sort keys => pure (.ofExcept [] (invocation.sort palette keys))
  | .entities =>
    let (path, state) ← invocation.configFile surroundings
    pure (.ofExcept [] (invocation.entities palette <$> readConfig path state))
  | .compile requestPath requestedEntity =>
    let (path, state) ← invocation.configFile surroundings
    match readConfig path state with
    | .error error => pure (.failure [] error)
    | .ok config =>
      let warnings := match state with
        | .missing => [invocation.missingConfigWarning palette]
        | _ => []
      match chooseEntity config requestedEntity with
      | .error error => pure (.failure warnings error)
      | .ok entity =>
        let request ← surroundings.request requestPath
        pure (.ofExcept warnings (request >>= invocation.compile palette config entity))

end Invocation

def run [Monad m] (surroundings : Surroundings m) (words : List String) : m Outcome :=
  match Invocation.parse surroundings.environment.config words with
  | .error interruption => pure interruption.outcome
  | .ok invocation => invocation.execute surroundings

end FinderQuery.Cli

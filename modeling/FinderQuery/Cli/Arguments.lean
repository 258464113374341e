import FinderQuery.Cli.Style

namespace FinderQuery.Cli

inductive OutputFormat where
  | text
  | json
  deriving DecidableEq

def OutputFormat.ofName? : String → Option OutputFormat
  | "text" => some text
  | "json" => some json
  | _ => none

inductive CommandName where
  | compile
  | sort
  | entities
  deriving DecidableEq

def CommandName.ofName? : String → Option CommandName
  | "compile" => some compile
  | "sort" => some sort
  | "entities" => some entities
  | _ => none

inductive Command where
  | compile (request : String) (entity : Option String)
  | sort (keys : List String)
  | entities

structure Invocation where
  config : Option String
  format : OutputFormat
  theme : Theme
  quiet : Bool
  command : Command

inductive UsageError where
  | unknownOption (text : String)
  | missingValue (option : String)
  | invalidValue (option value : String)
  | unexpectedValue (option : String)
  | repeatedOption (option : String)
  | emptyPath (name : String)
  | missingCommand
  | unknownCommand (name : String)
  | missingRequest
  | surplusOperand (text : String)

def UsageError.message : UsageError → String
  | unknownOption text => "unexpected argument '" ++ text ++ "' found"
  | missingValue option => "a value is required for '--" ++ option ++ "' but none was supplied"
  | invalidValue option value => "invalid value '" ++ value ++ "' for '--" ++ option ++ "'"
  | unexpectedValue option => "unexpected value for '--" ++ option ++ "'; it takes none"
  | repeatedOption option => "the argument '--" ++ option ++ "' cannot be used multiple times"
  | emptyPath name => "a path is required for '" ++ name ++ "' but an empty one was supplied"
  | missingCommand => "a command is required: compile, sort or entities"
  | unknownCommand name => "unrecognized command '" ++ name ++ "'"
  | missingRequest => "a request file is required"
  | surplusOperand text => "unexpected argument '" ++ text ++ "' found"

inductive Interruption where
  | version
  | help
  | misuse (error : UsageError)

inductive Word where
  | endOfOptions
  | long (name : String) (value : Option String)
  | short (letter : Char)
  | operand
  deriving DecidableEq

def Word.ofText (text : String) : Word :=
  match text.toList with
  | ['-', '-'] => .endOfOptions
  | '-' :: '-' :: body =>
    let value := match body.dropWhile (· ≠ '=') with
      | [] => none
      | _ :: value => some (String.ofList value)
    .long (String.ofList (body.takeWhile (· ≠ '='))) value
  | '-' :: letter :: _ => .short letter
  | _ => .operand

inductive Scope where
  | program
  | command (name : CommandName)
  deriving DecidableEq

def Scope.room : Scope → Option Nat
  | .program => some 0
  | .command .compile => some 1
  | .command .sort => none
  | .command .entities => some 0

inductive ValueOption where
  | config
  | format
  | theme
  | entity

namespace ValueOption

def name : ValueOption → String
  | config => "config"
  | format => "format"
  | theme => "theme"
  | entity => "entity"

def ofName? (scope : Scope) : String → Option ValueOption
  | "config" => some config
  | "format" => some format
  | "theme" => some theme
  | "entity" => if scope = .command .compile then some entity else none
  | _ => none

end ValueOption

structure Settings where
  config : Option String := none
  format : Option OutputFormat := none
  theme : Option Theme := none
  quiet : Bool := false
  entity : Option String := none
  operands : List String := []

abbrev Parsed := Except Interruption

def misuse (error : UsageError) : Parsed α := .error (.misuse error)

def once (option : ValueOption) (earlier : Option α) (value : Parsed α) : Parsed (Option α) :=
  match earlier with
  | some _ => misuse (.repeatedOption option.name)
  | none => some <$> value

def asPath (name value : String) : Parsed String :=
  if value.isEmpty then misuse (.emptyPath name) else .ok value

def asName (option : ValueOption) (ofName? : String → Option α) (value : String) : Parsed α :=
  match ofName? value with
  | some known => .ok known
  | none => misuse (.invalidValue option.name value)

namespace Settings

def assign (settings : Settings) (option : ValueOption) (value : String) : Parsed Settings := do
  match option with
  | .config =>
    .ok { settings with config := ← once option settings.config (asPath option.name value) }
  | .format =>
    let format ← once option settings.format (asName option OutputFormat.ofName? value)
    .ok { settings with format }
  | .theme =>
    .ok { settings with theme := ← once option settings.theme (asName option Theme.ofName? value) }
  | .entity => .ok { settings with entity := ← once option settings.entity (.ok value) }

def addOperand (scope : Scope) (settings : Settings) (text : String) : Parsed Settings := do
  if scope.room.any (· ≤ settings.operands.length) then misuse (.surplusOperand text)
  else
    let text ← if scope = .command .compile then asPath "REQUEST" text else .ok text
    .ok { settings with operands := settings.operands ++ [text] }

def flag (scope : Scope) (settings : Settings) (name : String) : Parsed Settings :=
  if name = "quiet" then
    if settings.quiet then misuse (.repeatedOption name) else .ok { settings with quiet := true }
  else if name = "help" then .error .help
  else if name = "version" ∧ scope = .program then .error .version
  else misuse (.unknownOption ("--" ++ name))

def shortFlag (scope : Scope) (letter : Char) : Interruption :=
  if letter = 'h' then .help
  else if letter = 'V' ∧ scope = .program then .version
  else .misuse (.unknownOption (String.ofList ['-', letter]))

/-- Reads the words of one part. The first part ends at the command. -/
def read (scope : Scope) : Settings → List String → Parsed (Settings × List String)
  | settings, [] => .ok (settings, [])
  | settings, text :: rest =>
    match Word.ofText text with
    | .endOfOptions => do .ok (← rest.foldlM (addOperand scope) settings, [])
    | .operand =>
      if scope = .program then .ok (settings, text :: rest)
      else do read scope (← settings.addOperand scope text) rest
    | .short letter => .error (shortFlag scope letter)
    | .long name (some value) =>
      match ValueOption.ofName? scope name with
      | some option => do read scope (← settings.assign option value) rest
      | none =>
        if name ∈ ["quiet", "help", "version"] then misuse (.unexpectedValue name)
        else misuse (.unknownOption text)
    | .long name none =>
      match ValueOption.ofName? scope name with
      | none => do read scope (← settings.flag scope name) rest
      | some option =>
        match rest with
        | [] => misuse (.missingValue name)
        | value :: rest =>
          if Word.ofText value = .operand then do read scope (← settings.assign option value) rest
          else misuse (.missingValue name)

end Settings

def Command.ofSettings (name : CommandName) (settings : Settings) : Parsed Command :=
  match name with
  | .compile =>
    match settings.operands with
    | request :: _ => .ok (.compile request settings.entity)
    | [] => misuse .missingRequest
  | .sort => .ok (.sort settings.operands)
  | .entities => .ok .entities

/-- What the words ask for. What is set after the command wins over what is set before it, and the
configuration that an environment variable names is used where none is set. -/
def Invocation.parse (configVariable : Option String) (words : List String) :
    Parsed Invocation := do
  let (outer, words) ← Settings.read .program {} words
  match words with
  | [] => misuse .missingCommand
  | word :: words =>
    match CommandName.ofName? word with
    | none => misuse (.unknownCommand word)
    | some name =>
      let (inner, _) ← Settings.read (.command name) {} words
      let command ← Command.ofSettings name inner
      if configVariable = some "" ∧ (outer.config.isNone ∨ inner.config.isNone) then
        misuse (.emptyPath "AQLC_CONFIG")
      else
        .ok
          { config := inner.config <|> outer.config <|> configVariable
            format := (inner.format <|> outer.format).getD .text
            theme := (inner.theme <|> outer.theme).getD .auto
            quiet := outer.quiet || inner.quiet
            command }

end FinderQuery.Cli

import CatalogQuery.Json.Reader
import CatalogQuery.Terminal.ControlSequence
import CatalogQuery.Terminal.Help
import CatalogQuery.Terminal.Session

/-! # The program

A run of the program as a function of its surroundings, which are the arguments, the environment and
the files, and of its input. A run ends with what it printed and a status.

Main definitions: `Program.Surroundings`, `Program.Run` and `Program.run`.
-/

namespace CatalogQuery.Terminal.Program

/-! ## Surroundings and runs -/

/-- What a run of the program depends on, besides its input. -/
structure Surroundings where
  arguments : List String
  environment : String → Option String
  /-- The output is shown on a terminal. -/
  isTerminal : Bool := false
  /-- The directory of the user's configuration. -/
  configDirectory : String
  files : Files

/-- What a run of the program printed, and its status. -/
structure Run where
  status : Nat
  output : String
  errors : String
  deriving DecidableEq, Repr

/-- Lines as one text, each with a line break behind it. -/
def unlines (lines : List String) : String := String.join (lines.map (· ++ "\n"))

/-- A run that did what was asked for. -/
def Run.done (lines : List String) : Run := ⟨0, unlines lines, ""⟩

/-- A run that printed some lines and failed then. -/
def Run.failed (paint : Painter) (lines : List String) (chain : List String) : Run :=
  ⟨1, unlines lines, unlines (Report.error paint chain)⟩

/-- Colours are used on a terminal, unless the environment forbids it, and wherever the environment
demands it. -/
def Surroundings.usesColours (s : Surroundings) : Bool :=
  let isOn (name : String) := (s.environment name).map (· != "0")
  if isOn "CLICOLOR_FORCE" = some true then true
  else if (s.environment "NO_COLOR").isSome then false
  else s.isTerminal && (isOn "CLICOLOR").getD true

def Surroundings.painter (s : Surroundings) : Painter :=
  if s.usesColours then .styled else .plain

/-- Help has styles on a terminal that can show them, unless the environment forbids it, and
wherever the environment demands it. A variable without a value counts for nothing there. -/
def Surroundings.stylesHelp (s : Surroundings) : Bool :=
  let isSet (name : String) := ((s.environment name).getD "") != ""
  if isSet "NO_COLOR" then false
  else if isSet "CLICOLOR_FORCE" then true
  else s.isTerminal && match s.environment "CLICOLOR" with
    | some value => value != "0"
    | none => (s.environment "TERM").any (· != "dumb") || (s.environment "CI").isSome

/-- The configuration file that the environment names. -/
def Surroundings.configPath (s : Surroundings) : Option String :=
  s.environment "CATALOG_FILTER_CONFIG"

/-- Help about a topic. Without styles it has no control sequence at all, not even in the value of a
variable. -/
def Surroundings.help (s : Surroundings) (topic : Arguments.Topic) : String :=
  let styled := unlines (Help.lines .styledStepwise s.configPath topic)
  if s.stylesHelp then styled else ControlSequence.withoutSequences styled

def Surroundings.invocation (s : Surroundings) : Arguments.Result Arguments.Invocation :=
  Arguments.read s.configPath s.arguments

/-- The paths of the files that a run may read. -/
def Surroundings.paths (s : Surroundings) : List String :=
  match s.invocation with
  | .error _ => []
  | .ok invocation =>
    let config := invocation.config.getD (Config.defaultPath s.configDirectory)
    match invocation.command with
    | .select _ file => [config, file]
    | .session (some file) => [config, file]
    | _ => [config]

/-! ## Commands -/

/-- The records of a file, or why there are none: each reason comes before the one behind it. -/
def loadRecords (files : Files) (path : String) : Except (List String) (List Json.Value) :=
  match files path with
  | .error cause => .error ["Failed to read " ++ path, cause.message]
  | .ok text => match Json.readList text with
    | .error e => .error ((path ++ " must hold a JSON array of records") :: (Error.json e).chain)
    | .ok records => .ok records

def parse (paint : Painter) (keys : KeySet) (format : Report.Format) (query : String) : Run :=
  match Query.read? keys query with
  | some filter => .done (Report.filter paint format filter)
  | none => .failed paint [] [Query.refusal]

def explain (paint : Painter) (keys : KeySet) (query : String) : Run :=
  let head := Report.explanationHead paint query
  match Query.read? keys query with
  | some filter => .done (head ++ Report.explanation paint filter)
  | none => .failed paint head [Query.refusal]

/-- Prints the records of a file that a query selects. -/
def select (paint : Painter) (keys : KeySet) (files : Files) (format : Report.Format)
    (query file : String) : Run :=
  match Query.read? keys query with
  | none => .failed paint [] [Query.refusal]
  | some filter => match loadRecords files file with
    | .error chain => .failed paint [] chain
    | .ok records =>
      .done (Report.selection paint format (filter.select keys records) records.length)

/-- Holds a session over an input. A prompt stands in front of each line that is read, and in front
of the end of the input. -/
def session (paint : Painter) (keys : KeySet) (records : List Json.Value) (input : String) : Run :=
  let responses := Session.responses paint keys records {} (Session.inputLines input)
  let prompted := responses.map fun response => Session.prompt paint ++ unlines response.output
  ⟨0, unlines (Session.greeting paint) ++ String.join prompted ++ Session.prompt paint,
    unlines (responses.flatMap Session.Response.errors)⟩

/-! ## Runs -/

/-- How a run begins: it is over at once, or it goes on with a session. -/
inductive Start where
  | finished (run : Run)
  | session (keys : KeySet) (records : List Json.Value)

def startCommand (paint : Painter) (keys : KeySet) (files : Files) (format : Report.Format) :
    Arguments.Command → Start
  | .overview => .finished (.done (Report.overview paint))
  | .parse query => .finished (parse paint keys format query)
  | .explain query => .finished (explain paint keys query)
  | .select query file => .finished (select paint keys files format query file)
  | .keys => .finished (.done (Report.keys paint keys))
  | .session none => .session keys []
  | .session (some file) => match loadRecords files file with
    | .error chain => .finished (.failed paint [] chain)
    | .ok records => .session keys records

def start (s : Surroundings) : Start :=
  let paint := s.painter
  match s.invocation with
  | .error .misuse => .finished ⟨2, "", unlines Help.misuse⟩
  | .error .version => .finished (.done [Help.version])
  | .error (.help topic) => .finished ⟨0, s.help topic, ""⟩
  | .ok invocation => match Config.load s.files s.configDirectory invocation.config with
    | .error e => .finished (.failed paint [] e.chain)
    | .ok config => startCommand paint config.keys s.files invocation.format invocation.command

def run (s : Surroundings) (input : String) : Run :=
  match start s with
  | .finished run => run
  | .session keys records => session s.painter keys records input

end CatalogQuery.Terminal.Program

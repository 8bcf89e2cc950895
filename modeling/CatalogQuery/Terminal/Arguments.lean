import CatalogQuery.Terminal.Report

/-! # Command line arguments

The program takes a query or a command, and options. Some options may stand in front of the command
as well as behind it; there the latter counts. The value of an option is the next argument, or
stands behind `=`, or, after a single letter, at once. A value that is an argument of its own is
looked at only when the argument behind it is no command. Behind `--` no argument is an option or a
command.

Main definitions: `Arguments.Invocation`, `Arguments.Result` and `Arguments.read`.
-/

namespace CatalogQuery.Terminal.Arguments

/-! ## Commands -/

inductive CommandName where
  | explain
  | select
  | keys
  | repl
  deriving DecidableEq, Repr

def CommandName.ofString? : String → Option CommandName
  | "explain" => some .explain
  | "match" => some .select
  | "keys" => some .keys
  | "repl" => some .repl
  | _ => none

inductive Command where
  /-- Nothing is asked for. -/
  | overview
  | parse (query : String)
  | explain (query : String)
  | select (query file : String)
  | keys
  | session (file : Option String)
  deriving DecidableEq, Repr

/-- A command with the options that all commands share. -/
structure Invocation where
  config : Option String
  format : Report.Format
  command : Command
  deriving DecidableEq, Repr

/-- What help is asked for: about the program, about a command, or about help itself. -/
inductive Topic where
  | program
  | command (name : CommandName)
  | help
  deriving DecidableEq, Repr

/-- Why arguments are not an invocation. -/
inductive Stop where
  | help (topic : Topic)
  | version
  | misuse
  deriving DecidableEq, Repr

/-- What arguments mean. -/
abbrev Result := Except Stop

/-! ## Options -/

inductive Name where
  | format
  | config
  | file
  | verbose
  | help
  | version
  deriving DecidableEq, Repr

/-- Where arguments stand: in front of any command, or behind one. -/
abbrev Place := Option CommandName

/-- The option may be given at the place. -/
def Name.isKnownAt (place : Place) : Name → Bool
  | .file => place == some .select || place == some .repl
  | .version => place == none
  | _ => true

def Name.hasValue : Name → Bool
  | .format | .config | .file => true
  | .verbose | .help | .version => false

def Name.ofLong? : String → Option Name
  | "format" => some .format
  | "config" => some .config
  | "file" => some .file
  | "verbose" => some .verbose
  | "help" => some .help
  | "version" => some .version
  | _ => none

def Name.ofLetter? : Char → Option Name
  | 'f' => some .format
  | 'v' => some .verbose
  | 'h' => some .help
  | 'V' => some .version
  | _ => none

/-- The last option, if its value is to be an argument of its own. -/
structure Pending where
  name : Name
  value : Option String := none
  deriving DecidableEq, Repr

/-- What is given at one place: at most one value for each option, and at most one query. -/
structure Given where
  format : Option Report.Format := none
  config : Option String := none
  file : Option String := none
  isVerbose : Bool := false
  query : Option String := none
  pending : Option Pending := none
  deriving DecidableEq, Repr

def formatOf? : String → Option Report.Format
  | "tree" => some .tree
  | "json" => some .json
  | _ => none

/-- Gives an option its value. The value must be allowed, and an option has one value only. -/
def Given.assign (given : Given) (name : Name) (value : String) : Result Given :=
  match name with
  | .format => match given.format, formatOf? value with
    | none, some format => .ok { given with format := some format }
    | _, _ => .error .misuse
  | .config =>
    if given.config.isSome || value.isEmpty then .error .misuse
    else .ok { given with config := some value }
  | .file =>
    if given.file.isSome || value.isEmpty then .error .misuse
    else .ok { given with file := some value }
  | .verbose | .help | .version => .error .misuse

/-- Gives the pending option its value, which must be there. -/
def Given.settle (given : Given) : Result Given :=
  match given.pending with
  | none => .ok given
  | some ⟨name, some value⟩ => { given with pending := none }.assign name value
  | some ⟨_, none⟩ => .error .misuse

/-- Takes notice of an option without a value. -/
def Given.flag (given : Given) (place : Place) (name : Name) : Result Given :=
  match name with
  | .verbose => if given.isVerbose then .error .misuse else .ok { given with isVerbose := true }
  | .help => .error (.help (match place with
    | none => .program
    | some command => .command command))
  | .version => .error .version
  | .format | .config | .file => .error .misuse

def takesQuery (place : Place) : Bool := place != some .keys && place != some .repl

def Given.addQuery (given : Given) (place : Place) (query : String) : Result Given :=
  if takesQuery place && given.query.isNone then .ok { given with query := some query }
  else .error .misuse

/-! ## Reading arguments -/

/-- Reads the letters behind a hyphen. -/
def readLetters (place : Place) (given : Given) : List Char → Result Given
  | [] => .ok given
  | c :: rest => match Name.ofLetter? c with
    | none => .error .misuse
    | some name =>
      if !name.isKnownAt place then .error .misuse
      else do
        let given ← given.settle
        if name.hasValue then
          match rest with
          | [] => return { given with pending := some { name := name } }
          | '=' :: value => given.assign name (String.ofList value)
          | value => given.assign name (String.ofList value)
        else readLetters place (← given.flag place name) rest

/-- Reads what stands behind two hyphens. -/
def readLong (place : Place) (given : Given) (text : List Char) : Result Given :=
  match Name.ofLong? (String.ofList (text.takeWhile (· != '='))) with
  | none => .error .misuse
  | some name =>
    if !name.isKnownAt place then .error .misuse
    else do
      let given ← given.settle
      match text.dropWhile (· != '=') with
      | [] =>
        if name.hasValue then return { given with pending := some { name := name } }
        else given.flag place name
      | _ :: value => given.assign name (String.ofList value)

/-- The kinds of arguments: `--`, options by their first characters, and all others. -/
inductive Shape where
  | separator
  | long (text : List Char)
  | letters (text : List Char)
  | word

/-- The kind of an argument. A single hyphen is a word. -/
def shape (argument : String) : Shape :=
  match argument.toList with
  | ['-', '-'] => .separator
  | '-' :: '-' :: text => .long text
  | ['-'] => .word
  | '-' :: text => .letters text
  | _ => .word

/-- The word is a command there, and not a query. -/
def isCommandAt (place : Place) (word : String) : Bool :=
  place.isNone && ((CommandName.ofString? word).isSome || word == "help")

/-- Reads the arguments at a place, up to a command if there may be one. Returns what is given, and
the command with the arguments behind it. In front of a command an option may be pending. -/
def readPlace (place : Place) (given : Given) :
    List String → Result (Given × Option (String × List String))
  | [] => given.settle.map (·, none)
  | argument :: rest => match shape argument with
    | .separator => do
      let given ← rest.foldlM (fun given query => given.addQuery place query) (← given.settle)
      return (given, none)
    | .long text => do readPlace place (← readLong place given text) rest
    | .letters text => do readPlace place (← readLetters place given text) rest
    | .word => match given.pending with
      | some ⟨name, none⟩ =>
        readPlace place { given with pending := some ⟨name, some argument⟩ } rest
      | _ =>
        if isCommandAt place argument then .ok (given, some (argument, rest))
        else do readPlace place (← (← given.settle).addQuery place argument) rest

/-- The topic of the arguments behind `help`. Commands have no commands of their own. -/
def helpTopic : List String → Result Topic
  | [] => .ok .program
  | ["help"] => .ok .help
  | [name] => match CommandName.ofString? name with
    | some command => .ok (.command command)
    | none => .error .misuse
  | _ => .error .misuse

/-- The configuration file for what is given in front of a command and, if there is one, behind it:
the last of the two, or else the one of the environment. The latter has to be a path wherever it is
not overridden. -/
def configOf (environment : Option String) (front : Given) (behind : Option Given) :
    Result (Option String) :=
  let overridden := front.config.isSome && (behind.map fun g => g.config.isSome).getD true
  if environment = some "" ∧ !overridden then .error .misuse
  else .ok ((behind.bind Given.config) <|> front.config <|> environment)

/-- The command with what is given behind its name. What it requires must be there. -/
def commandOf (name : CommandName) (given : Given) : Result Command :=
  match name, given.query, given.file with
  | .explain, some query, _ => .ok (.explain query)
  | .select, some query, some file => .ok (.select query file)
  | .keys, _, _ => .ok .keys
  | .repl, _, file => .ok (.session file)
  | _, _, _ => .error .misuse

/-- What the arguments mean. The environment may name a configuration file. -/
def read (environment : Option String) (arguments : List String) : Result Invocation := do
  let (front, command) ← readPlace none {} arguments
  match command with
  | none =>
    return {
      config := ← configOf environment front none
      format := front.format.getD .tree
      command := (front.query.map Command.parse).getD .overview }
  | some (name, rest) => match CommandName.ofString? name with
    | none => do throw (.help (← helpTopic rest))
    | some name =>
      let (behind, _) ← readPlace (some name) {} rest
      let front ← front.settle
      return {
        config := ← configOf environment front (some behind)
        format := (behind.format <|> front.format).getD .tree
        command := ← commandOf name behind }

end CatalogQuery.Terminal.Arguments

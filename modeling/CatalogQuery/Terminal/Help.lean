import CatalogQuery.Terminal.Arguments

/-! # Help

What the program says about itself and about its commands. A page of help names the call and lists
commands, operands and options, with a purpose for each of them.

Main definitions: `Help.Page`, `Help.page` and `Help.lines`.
-/

namespace CatalogQuery.Terminal.Help

open Arguments

def version : String := "catalog-filter 0.3.0"

/-! ## Pages -/

/-- A part of a call. -/
inductive Part where
  /-- What stands for operands, options or a command. -/
  | slot (text : String)
  /-- An option that the call requires, with its value. -/
  | option (name value : String)

structure OptionEntry where
  letter : Option Char := none
  name : String
  value : Option String := none
  purpose : String

structure Page where
  about : String
  /-- The names of the program and the command. -/
  call : String
  parts : List Part
  commands : List (String × String) := []
  operands : List (String × String) := []
  options : List OptionEntry := []
  notes : List String := []

/-! ## Lines -/

def optionText (paint : Painter) (name : String) (value : Option String) : String :=
  paint .emphasis ("--" ++ name) ++ (value.map fun value => " <" ++ value ++ ">").getD ""

def Part.text (paint : Painter) : Part → String
  | .slot text => text
  | .option name value => optionText paint name (some value)

/-- The line that shows how the program is called. -/
def Page.usage (paint : Painter) (page : Page) : String :=
  " ".intercalate
    (paint .head "Usage:" :: paint .emphasis page.call :: page.parts.map (Part.text paint))

def greatest (widths : List Nat) : Nat := widths.foldl max 0

/-- The gap behind a text of some width in a column. -/
def gap (column width : Nat) : String := spaces (column - width + 2)

def nameLines (paint : Painter) (style : Option Style) (entries : List (String × String)) :
    List String :=
  let column := greatest (entries.map fun (name, _) => name.length)
  entries.map fun (name, purpose) =>
    "  " ++ (style.map fun style => paint style name).getD name ++ gap column name.length ++ purpose

/-- The width of an option without its letter. -/
def OptionEntry.width (entry : OptionEntry) : Nat :=
  (optionText .plain entry.name entry.value).length

/-- The letter of an option, or the space that it leaves. -/
def letterText (paint : Painter) : Option Char → String
  | some letter => paint .emphasis (String.ofList ['-', letter]) ++ ", "
  | none => "    "

/-- The lines of options. A purpose of several lines is indented. -/
def optionLines (paint : Painter) (entries : List OptionEntry) : List String :=
  let column := greatest (entries.map OptionEntry.width)
  entries.map fun entry =>
    let lineBreak := "\n" ++ spaces (column + 8)
    "  " ++ letterText paint entry.letter ++ optionText paint entry.name entry.value ++
      gap column entry.width ++ lineBreak.intercalate (entry.purpose.splitOn "\n")

/-- A section with an empty line in front of it, if there is anything in it. -/
def sectionLines (paint : Painter) (title : String) (lines : List String) : List String :=
  if lines.isEmpty then [] else "" :: paint .head (title ++ ":") :: lines

def Page.lines (paint : Painter) (page : Page) : List String :=
  [page.about, "", page.usage paint] ++
    sectionLines paint "Commands" (nameLines paint (some .emphasis) page.commands) ++
    sectionLines paint "Arguments" (nameLines paint none page.operands) ++
    sectionLines paint "Options" (optionLines paint page.options) ++
    (if page.notes.isEmpty then [] else "" :: page.notes)

/-! ## The pages of the program -/

def purpose : CommandName → String
  | .explain => "Parse a query and explain its structure"
  | .select => "Print the records of a JSON file that match a query"
  | .keys => "List the filter keys and the record fields they map to"
  | .repl => "Interactive REPL mode"

def helpPurpose : String := "Print this message or the help of the given subcommand(s)"

def formatEntry : OptionEntry where
  letter := some 'f'
  name := "format"
  value := some "FORMAT"
  purpose := "Output format [default: tree] [possible values: tree, json]"

def fileEntry (purpose : String) : OptionEntry where
  name := "file"
  value := some "FILE"
  purpose := purpose

/-- The options that stand at the end of every list. The value that the environment gives one of
them is shown. -/
def commonEntries (environment : Option String) : List OptionEntry :=
  [{ name := "config"
     value := some "CONFIG"
     purpose := "Config file with the [keys] table [env: CATALOG_FILTER_CONFIG=" ++
      environment.getD "" ++ "]" },
    { letter := some 'v', name := "verbose", purpose := "Verbose output" },
    { letter := some 'h', name := "help", purpose := "Print help" }]

def program (environment : Option String) : Page where
  about := "Parse and apply service catalog filter queries"
  call := "catalog-filter"
  parts := [.slot "[OPTIONS]", .slot "[QUERY]", .slot "[COMMAND]"]
  commands :=
    [("explain", purpose .explain), ("match", purpose .select), ("keys", purpose .keys),
      ("repl", purpose .repl), ("help", helpPurpose)]
  operands := [("[QUERY]", "The filter query to parse")]
  options := formatEntry :: commonEntries environment ++
    [{ letter := some 'V', name := "version", purpose := "Print version" }]
  notes :=
    ["EXAMPLES:",
      "    catalog-filter 'name:billing OR tag:payments'",
      "    catalog-filter explain '(tag:api OR tag:web) NOT lifecycle:deprecated'",
      "    catalog-filter match 'owner:\"team money\"' --file services.json"]

def command (environment : Option String) (name : CommandName) : Page :=
  let about := purpose name
  let common := commonEntries environment
  match name with
  | .explain =>
    { about := about
      call := "catalog-filter explain"
      parts := [.slot "[OPTIONS]", .slot "<QUERY>"]
      operands := [("<QUERY>", "The filter query to explain")]
      options := formatEntry :: common }
  | .select =>
    { about := about
      call := "catalog-filter match"
      parts := [.slot "[OPTIONS]", .option "file" "FILE", .slot "<QUERY>"]
      operands := [("<QUERY>", "The filter query to apply")]
      options := formatEntry ::
        fileEntry "JSON file holding an array of service documents" :: common }
  | .keys =>
    { about := about
      call := "catalog-filter keys"
      parts := [.slot "[OPTIONS]"]
      options := formatEntry :: common }
  | .repl =>
    { about := about
      call := "catalog-filter repl"
      parts := [.slot "[OPTIONS]"]
      options := formatEntry ::
        fileEntry "JSON file of service documents to filter as queries are entered" :: common }

def aboutHelp : Page where
  about := helpPurpose
  call := "catalog-filter help"
  parts := [.slot "[COMMAND]..."]
  operands := [("[COMMAND]...", "Print help for the subcommand(s)")]

def page (environment : Option String) : Topic → Page
  | .program => program environment
  | .command name => command environment name
  | .help => aboutHelp

def lines (paint : Painter) (environment : Option String) (topic : Topic) : List String :=
  (page environment topic).lines paint

/-- What is said about arguments that make no sense. -/
def misuse : List String :=
  ["error: invalid arguments", "", "Usage: catalog-filter [OPTIONS] [QUERY] [COMMAND]", "",
    "For more information, try '--help'."]

end CatalogQuery.Terminal.Help

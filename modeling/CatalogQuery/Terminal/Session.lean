import CatalogQuery.ActiveFilter
import CatalogQuery.Terminal.Report

/-! # Sessions

In a session the user types one query after the other. Each query that is accepted becomes the
filter in force, and the records that pass it are listed. Lines that begin with a dot are commands.

Main definitions: `Session.respond`, for one line, and `Session.responses`, for all of them.
-/

namespace CatalogQuery.Terminal.Session

/-! ## Lines -/

inductive Request where
  | leave
  | showFilter
  | clear
  | listKeys
  | query (line : String)
  deriving DecidableEq, Repr

/-- What a line asks for. Blanks around a command do not count; a query is the whole line. -/
def Request.ofLine (line : String) : Request :=
  match Text.trim line with
  | ".exit" | ".quit" => .leave
  | ".show" => .showFilter
  | ".clear" => .clear
  | ".keys" => .listKeys
  | _ => .query line

/-- The lines of an input. A line ends with a line feed, or with a carriage return and a line feed;
what follows the last line feed is a line if it is not empty. -/
def inputLines (input : String) : List String :=
  go [] input.toList
where
  /-- The lines of the rest of an input, of whose first line `read` is the part before, reversed. -/
  go (read : List Char) : List Char → List String
    | [] => if read.isEmpty then [] else [String.ofList read.reverse]
    | '\n' :: s =>
      let line := match read with
        | '\x0d' :: before => before
        | _ => read
      String.ofList line.reverse :: go [] s
    | c :: s => go (c :: read) s

/-! ## Responses -/

/-- The lines that are printed as output and as errors. -/
structure Response where
  output : List String := []
  errors : List String := []
  deriving DecidableEq, Repr

/-- The records that pass the filter in force, and how many of them there are. -/
def passing (paint : Painter) (keys : KeySet) (records : List Json.Value) (active : ActiveFilter) :
    List String :=
  let passed := records.filter fun record => active.passes keys record
  passed.map (fun record => Report.recordLine (Report.label record)) ++
    [paint .dim (toString passed.length ++ " of " ++ toString records.length ++
      " record(s) matched"), ""]

/-- The message about the filter in force. -/
def shown (paint : Painter) (active : ActiveFilter) : String :=
  match active.query? with
  | some query => paint (.coloured .green) "→" ++ " " ++ paint (.coloured .white) query
  | none => paint .dim "(no active filter)"

/-- The message that no filter is in force any more. -/
def cleared (paint : Painter) : String := paint .dim "Filter cleared."

/-- The records that pass, if there are records at all. -/
def passingIfAny (paint : Painter) (keys : KeySet) (records : List Json.Value)
    (active : ActiveFilter) : List String :=
  if records.isEmpty then [] else passing paint keys records active

def outcomeResponse (paint : Painter) (keys : KeySet) (records : List Json.Value)
    (outcome : ActiveFilter.Outcome) (active : ActiveFilter) : Response :=
  match outcome with
  | .applied filter =>
    { output := (paint (.coloured .green) "→" ++ " " ++ paint (.strong .white) filter.bracketed) ::
        passingIfAny paint keys records active }
  | .cleared => { output := cleared paint :: passingIfAny paint keys records active }
  | .refused =>
    { errors := (paint (.coloured .red) "✗" ++ " " ++ paint (.coloured .red) Query.refusal) ::
        (active.query?.map fun query => "  " ++ paint .dim "still active:" ++ " " ++ query).toList }

/-- The response to a line and the filter in force behind it, unless the line ends the session. -/
def respond (paint : Painter) (keys : KeySet) (records : List Json.Value) (active : ActiveFilter)
    (line : String) : Option (Response × ActiveFilter) :=
  match Request.ofLine line with
  | .leave => none
  | .showFilter => some ({ output := [shown paint active] }, active)
  | .clear => some ({ output := [cleared paint] }, active.clear.2)
  | .listKeys =>
    some ({ output := [paint (.coloured .cyan) (", ".intercalate keys.keys)] }, active)
  | .query line =>
    let (outcome, active) := active.applyOrClear keys line
    some (outcomeResponse paint keys records outcome active, active)

/-! ## Whole sessions -/

def greeting (paint : Painter) : List String :=
  let command (name gap purpose : String) :=
    "  " ++ paint (.coloured .yellow) name ++ gap ++ purpose
  [paint (.strong .cyan) "catalog-filter REPL",
    paint .dim "Type a query to apply it. Commands:",
    command ".show" "  - " "Show the active query",
    command ".clear" " - " "Clear the active query",
    command ".keys" "  - " "List filter keys",
    command ".exit" "  - " "Exit the REPL", ""]

/-- What is printed in front of each line, without a line break. -/
def prompt (paint : Painter) : String := paint (.strong .cyan) "filter> "

/-- The responses to lines, up to the one that ends the session. -/
def responses (paint : Painter) (keys : KeySet) (records : List Json.Value) :
    ActiveFilter → List String → List Response
  | _, [] => []
  | active, line :: lines => match respond paint keys records active line with
    | none => []
    | some (response, active) => response :: responses paint keys records active lines

end CatalogQuery.Terminal.Session

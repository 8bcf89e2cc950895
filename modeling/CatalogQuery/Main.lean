import CatalogQuery.Terminal.Program

/-! # The command line program

Collects the surroundings of a run, and prints what the run or the session says.
-/

namespace CatalogQuery.Terminal.Main

open Program

/-- The code of an error of the operating system, which may come with its sign inverted. -/
def plainCode (code : UInt32) : UInt32 := min code (0 - code)

def readError : IO.Error → ReadError
  | .noFileOrDirectory _ _ _ => .notFound
  | .inappropriateType _ code details =>
    if plainCode code = 20 then .notADirectory
    else if plainCode code = 21 then .isADirectory
    else .other details
  | .permissionDenied _ code details =>
    .other (details ++ " (os error " ++ toString (plainCode code) ++ ")")
  | .invalidArgument _ code details =>
    if plainCode code = 36 then .nameTooLong else .other details
  | e => .other (toString e)

def readText (path : String) : IO (Except ReadError String) := do
  try
    return textOfBytes (← IO.FS.readBinFile path)
  catch e => return .error (readError e)

def readFiles (paths : List String) : IO Files := do
  let texts ← paths.mapM fun path => return (path, ← readText path)
  return fun path => (texts.lookup path).getD (.error .notFound)

def readEnvironment : IO (String → Option String) := do
  let names :=
    ["CATALOG_FILTER_CONFIG", "CI", "CLICOLOR", "CLICOLOR_FORCE", "HOME", "NO_COLOR", "TERM",
      "XDG_CONFIG_HOME"]
  let values ← names.mapM fun name => return (name, ← IO.getEnv name)
  return fun name => (values.lookup name).join

def print (output errors : String) : IO Unit := do
  (← IO.getStdout).putStr output
  (← IO.getStdout).flush
  (← IO.getStderr).putStr errors

partial def converse (paint : Painter) (keys : KeySet) (records : List Json.Value)
    (active : ActiveFilter) : IO Unit := do
  print (Session.prompt paint) ""
  match Session.inputLines (← (← IO.getStdin).getLine) with
  | [] => return
  | line :: _ => match Session.respond paint keys records active line with
    | none => return
    | some (response, active) =>
      print (unlines response.output) (unlines response.errors)
      converse paint keys records active

end CatalogQuery.Terminal.Main

open CatalogQuery.Terminal in
def main (arguments : List String) : IO UInt32 := do
  let environment ← Main.readEnvironment
  let bare : Program.Surroundings := {
    arguments := arguments
    environment := environment
    isTerminal := ← (← IO.getStdout).isTty
    configDirectory := CatalogQuery.Config.userDirectory environment
    files := fun _ => .error .notFound }
  let surroundings := { bare with files := ← Main.readFiles bare.paths }
  match Program.start surroundings with
  | .finished run =>
    Main.print run.output run.errors
    return run.status.toUInt32
  | .session keys records =>
    let paint := surroundings.painter
    Main.print (Program.unlines (Session.greeting paint)) ""
    Main.converse paint keys records {}
    return 0

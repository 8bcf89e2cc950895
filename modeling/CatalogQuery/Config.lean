import CatalogQuery.Error
import CatalogQuery.Query.Reader
import CatalogQuery.Toml.Message
import CatalogQuery.Toml.Text

/-! # Configuration

A configuration file lists the keys of the query language in a table `[keys]`, each with the record
field that it stands for. Without the table the standard keys hold.

Main definitions: `Config`, `Config.ofTable`, `Config.ofText` and `Config.load`.
-/

namespace CatalogQuery

/-- The keys of the query language and the file that they come from, if any. -/
structure Config where
  keys : KeySet := .standard
  source : Option String := none
  deriving DecidableEq

namespace Config

/-! ## The table of keys -/

/-- A place in a document where it is not of the wanted form. -/
structure Misfit where
  span : Toml.Span
  message : String

def tableName : String := "keys"

/-- A date or a time, where a table is wanted, is a table with its text under this name. -/
def dateTimeName : String := "$__toml_private_datetime"

def wrongKind (entry : Toml.Entry) (wanted : String) : Misfit :=
  ⟨entry.span.getD entry.key.span, "invalid type: " ++ entry.node.kind ++ ", expected " ++ wanted⟩

def ofEntry (entry : Toml.Entry) : Except Misfit (String × String) :=
  match entry.node with
  | .string field => .ok (entry.key.name, field)
  | _ => .error (wrongKind entry "a string")

def ofKeysEntry (entry : Toml.Entry) : Except Misfit (List (String × String)) :=
  match entry.node with
  | .table _ entries | .inlineTable entries => entries.mapM ofEntry
  | .dateTime text => .ok [(dateTimeName, text)]
  | _ => .error (wrongKind entry "a map")

/-- The pairs of the table of keys of a document, if it has the table. It has nothing else. -/
def tableOf (document : List Toml.Entry) : Except Misfit (Option (List (String × String))) :=
  document.foldlM
    (fun _ entry =>
      if entry.key.name = tableName then some <$> ofKeysEntry entry
      else .error ⟨entry.key.span,
        "unknown field `" ++ entry.key.name ++ "`, expected `" ++ tableName ++ "`"⟩)
    none

/-- The table of keys is there, but it is empty. -/
def noKeys : Error := .configuration "[keys] must define at least one key"

/-- The configuration of a table of keys, whose pairs are taken in the order of the keys. Where two
keys differ only in letter case, the later one counts. -/
def ofTable : Option (List (String × String)) → Except Error Config
  | none => .ok {}
  | some [] => .error noKeys
  | some pairs => match KeySet.ofPairs (Dictionary.ofList pairs) with
    | .ok keys => .ok { keys := keys }
    | .error e => .error (.invalidKey e)

def ofText (text : String) : Except Error Config :=
  match Toml.read text with
  | .error fault => .error (.malformedToml (fault.report text))
  | .ok document => match tableOf document with
    | .ok table => ofTable table
    | .error misfit => .error (.unfitToml (Toml.report text misfit.span misfit.message))

/-! ## Files -/

def joinPath (directory name : String) : String :=
  if directory.isEmpty || directory.endsWith "/" then directory ++ name
  else directory ++ "/" ++ name

/-- The directory of the user's configuration: the one that the environment names, if it is given
from the root on, and else a directory of the user's home. -/
def userDirectory (environment : String → Option String) : String :=
  let standard := joinPath ((environment "HOME").getD "") ".config"
  match environment "XDG_CONFIG_HOME" with
  | some directory => if directory.startsWith "/" then directory else standard
  | none => standard

def defaultPath (directory : String) : String :=
  joinPath directory "catalog-filter/config.toml"

def ofFile (files : Files) (path : String) : Except Error Config :=
  match files path with
  | .error cause => .error (.unreadable path cause)
  | .ok text => (ofText text).map fun config => { config with source := some path }

/-- The configuration of the file at a given path, or else of the one at the default path if there
is one. -/
def load (files : Files) (directory : String) : Option String → Except Error Config
  | some path => ofFile files path
  | none =>
    let path := defaultPath directory
    if files.has path then ofFile files path else .ok {}

end Config

end CatalogQuery

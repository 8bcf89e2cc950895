import CatalogQuery.Files
import CatalogQuery.Json.Error
import CatalogQuery.KeySet

/-! # Errors

What can go wrong around queries: with keys, with the configuration and with files. A query itself
is only accepted or refused.

Main definitions: `Error`, `Error.message` and `Error.chain`.
-/

namespace CatalogQuery

inductive Error where
  | invalidKey (e : InvalidKey)
  | configuration (reason : String)
  | unreadable (path : String) (cause : ReadError)
  /-- The text is no TOML document. -/
  | malformedToml (report : String)
  /-- The text is a TOML document, but not one of the wanted form. -/
  | unfitToml (report : String)
  | json (e : Json.Error)
  deriving DecidableEq, Repr

/-- The reason behind an error, if it comes from reading a file or a text. -/
def Error.reason? : Error → Option String
  | .invalidKey _ => none
  | .configuration _ => none
  | .unreadable _ cause => some cause.message
  | .malformedToml report => some report
  | .unfitToml report => some report
  | .json e => some e.message

def Error.message (e : Error) : String :=
  let reason := e.reason?.getD ""
  match e with
  | .invalidKey e => e.message
  | .configuration text => "Configuration error: " ++ text
  | .unreadable path _ => "IO error on " ++ path ++ ": " ++ reason
  | .malformedToml _ => "TOML error: " ++ reason
  | .unfitToml _ => "TOML error: " ++ reason
  | .json _ => "JSON error: " ++ reason

/-- What is wrong, and the reason behind it. -/
def Error.chain (e : Error) : List String := e.message :: e.reason?.toList

end CatalogQuery

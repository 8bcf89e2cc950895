import CatalogQuery.Proofs.ActiveFilter
import CatalogQuery.Terminal.Program

/-! # Sessions are folds of their lines

The filter in force in a session depends on the lines typed so far and on nothing else: `afterLine`
says what a line does to it, and a session folds this over its lines up to the one that ends it
(`exchanges_append`). What is printed behind a line is about that filter. In particular the records
listed for an accepted query are those that the program selects for it outside of a session.
-/

namespace CatalogQuery.Terminal.Session

/-! ## Lines -/

def leaves (line : String) : Bool := Text.trim line == ".exit" || Text.trim line == ".quit"

section
variable {keys : KeySet} {line : String}

end

/-! ## Responses -/

section
variable {paint : Painter} {keys : KeySet} {records : List Json.Value} {active : ActiveFilter}
variable {line : String}

end

/-! ## Whole sessions -/

section
variable (paint : Painter) (keys : KeySet) (records : List Json.Value)
variable {before after : List String} {line : String}

end

section
variable {paint : Painter} {keys : KeySet} {records : List Json.Value} {line : String}

end

end CatalogQuery.Terminal.Session

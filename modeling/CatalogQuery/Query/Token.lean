import CatalogQuery.KeySet
import CatalogQuery.Text.Blank

/-! # Words of a query

The smallest parts of a query: the keywords, and the key and the value of a literal. A reader takes
its part from the front of a text and returns it with the rest.

Main definitions: `keyword?`, `key?` and `value?`.
-/

namespace CatalogQuery.Query

/-- Takes an `α` from the front of a text, if the text begins with one. -/
abbrev Reader (α : Type) := List Char → Option (α × List Char)

/-- The rest of a text behind a word. The word is given in lower case, and the text may have it in
any letter case. -/
def dropWord? : List Char → List Char → Option (List Char)
  | [], s => some s
  | _ :: _, [] => none
  | w :: word, c :: s => if c.toLower == w then dropWord? word s else none

/-- The rest of a text behind a keyword. A keyword ends in front of a blank or a bracket. -/
def keyword? (word s : List Char) : Option (List Char) :=
  match dropWord? word s with
  | some (c :: rest) => if Text.isBlank c || c == '(' then some (c :: rest) else none
  | _ => none

/-- A key of the key set, in lower case. A key is as long as there are key characters. -/
def key? (keys : KeySet) : Reader String := fun s =>
  let word := String.ofList (s.takeWhile isKeyChar)
  if keys.contains word then some (Text.lowercase word, s.dropWhile isKeyChar) else none

/-- The characters of a value without quotes. -/
def isBareChar (c : Char) : Bool := !Text.isBlank c && c != '"' && c != '(' && c != ')'

/-- The characters of a value between quotes. -/
def isQuotedChar (c : Char) : Bool := c != '"'

/-- A value without quotes, which is not empty. -/
def bareValue? : Reader String := fun s =>
  match s.takeWhile isBareChar with
  | [] => none
  | value => some (String.ofList value, s.dropWhile isBareChar)

/-- The rest of a value between quotes, after the first quote. It is not empty. -/
def quotedValue? : Reader String := fun s =>
  match s.takeWhile isQuotedChar, s.dropWhile isQuotedChar with
  | [], _ => none
  | value, '"' :: rest => some (String.ofList value, rest)
  | _, _ => none

/-- The value of a literal, exactly as it is written. -/
def value? : Reader String
  | '"' :: s => quotedValue? s
  | s => bareValue? s

end CatalogQuery.Query

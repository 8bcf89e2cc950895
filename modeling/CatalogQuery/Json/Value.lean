import CatalogQuery.Dictionary
import CatalogQuery.Number.Shortest

/-! # JSON values

The values of JSON and their texts. An object is the list of its members in the order in which they
are written; the objects that are read from a text are dictionaries.

Main definitions: `Json.Value`, `Json.Value.compact` and `Json.Value.pretty`.
-/

namespace CatalogQuery.Json

/-- A number: an integer of 64 bits, signed or unsigned, or else a binary64 number. -/
inductive Number where
  | integer (n : Int)
  | real (x : Binary64)
  deriving DecidableEq, Repr

inductive Value where
  | null
  | bool (b : Bool)
  | number (n : Number)
  | string (s : String)
  | array (items : List Value)
  | object (members : List (String × Value))

/-- The member of that name, if the value is an object that has one. -/
def Value.member? (name : String) : Value → Option Value
  | .object members => Dictionary.get? name members
  | _ => none

/-! ## Scalars -/

/-- A binary64 number has an exponent below `10 ^ -5` and from `10 ^ 16` on, and of two equally near
decimals it is written as the even one. -/
def Number.layout : Binary64.Layout where
  isPositional e := -5 ≤ e && e < 16
  tie := .toEven

def Number.text : Number → String
  | .integer n => toString n
  | .real x => x.text layout

def boolText (b : Bool) : String := if b then "true" else "false"

/-- Two lowercase hexadecimal digits of a number below 256. -/
def twoHexDigits (n : Nat) : List Char :=
  [Nat.digitChar (n / 16), Nat.digitChar (n % 16)]

/-- A character inside a JSON string. -/
def escapeChar (c : Char) : List Char :=
  if c == '"' then ['\\', '"']
  else if c == '\\' then ['\\', '\\']
  else if c == '\x08' then ['\\', 'b']
  else if c == '\x0c' then ['\\', 'f']
  else if c == '\n' then ['\\', 'n']
  else if c == '\r' then ['\\', 'r']
  else if c == '\t' then ['\\', 't']
  else if c.toNat < 32 then ['\\', 'u', '0', '0'] ++ twoHexDigits c.toNat
  else [c]

def stringText (s : String) : String :=
  String.ofList ('"' :: s.toList.flatMap escapeChar ++ ['"'])

/-! ## Compact text -/

mutual

/-- The text of a value without any space between its parts. -/
def Value.compact : Value → String
  | .null => "null"
  | .bool b => boolText b
  | .number n => n.text
  | .string s => stringText s
  | .array items => "[" ++ compactItems items ++ "]"
  | .object members => "\x7b" ++ compactMembers members ++ "\x7d"

def compactItems : List Value → String
  | [] => ""
  | [item] => item.compact
  | item :: items => item.compact ++ "," ++ compactItems items

def compactMembers : List (String × Value) → String
  | [] => ""
  | [(name, value)] => stringText name ++ ":" ++ value.compact
  | (name, value) :: members =>
    stringText name ++ ":" ++ value.compact ++ "," ++ compactMembers members

end

/-! ## Pretty text -/

/-- A line break and the indentation of a level. -/
def newLine (level : Nat) : String :=
  "\n" ++ String.ofList (List.replicate (2 * level) ' ')

mutual

/-- The text of a value at a level of indentation, with a line for each part. -/
def Value.prettyAt (level : Nat) : Value → String
  | .null => "null"
  | .bool b => boolText b
  | .number n => n.text
  | .string s => stringText s
  | .array [] => "[]"
  | .array items => "[" ++ prettyItems (level + 1) items ++ newLine level ++ "]"
  | .object [] => "\x7b\x7d"
  | .object members => "\x7b" ++ prettyMembers (level + 1) members ++ newLine level ++ "\x7d"

def prettyItems (level : Nat) : List Value → String
  | [] => ""
  | [item] => newLine level ++ item.prettyAt level
  | item :: items => newLine level ++ item.prettyAt level ++ "," ++ prettyItems level items

def prettyMembers (level : Nat) : List (String × Value) → String
  | [] => ""
  | [(name, value)] => newLine level ++ stringText name ++ ": " ++ value.prettyAt level
  | (name, value) :: members =>
    newLine level ++ stringText name ++ ": " ++ value.prettyAt level ++ "," ++
      prettyMembers level members

end

/-- The text of a value on several lines, indented by two spaces for each level. -/
def Value.pretty (v : Value) : String := v.prettyAt 0

end CatalogQuery.Json

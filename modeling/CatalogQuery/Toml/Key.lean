/-! # Keys of TOML

The name of an entry, and the place in the text where it stands.

Main definitions: `Toml.Key` and `Toml.Key.written`.
-/

namespace CatalogQuery.Toml

/-- A part of a text, given by the number of bytes in front of it and up to its end. -/
structure Span where
  start : Nat
  stop : Nat
  deriving DecidableEq, Repr

/-- A key, or a part of a dotted one, and where it stands. -/
structure Key where
  name : String
  span : Span
  deriving DecidableEq, Repr

/-- The characters of a key without quotes. -/
def isBareKeyChar (c : Char) : Bool := c.isAlphanum || c == '_' || c == '-'

/-- The control characters but for tabs. -/
def isControl (c : Char) : Bool := c != '\t' && (c.toNat < 0x20 || c.toNat == 0x7f)

def fourDigits (code : Nat) : List Char :=
  [code / 0x1000, code / 0x100, code / 0x10, code].map fun n => (Nat.digitChar (n % 16)).toUpper

/-- A character as it stands between double quotes. -/
def escapedChar (c : Char) : List Char :=
  if c == '"' || c == '\\' then ['\\', c]
  else if c == '\t' then ['\\', 't']
  else if c == '\n' then ['\\', 'n']
  else if c == '\r' then ['\\', 'r']
  else if c == '\x08' then ['\\', 'b']
  else if c == '\x0c' then ['\\', 'f']
  else if isControl c then '\\' :: 'u' :: fourDigits c.toNat
  else [c]

/-- The key as it is written: without quotes if that is possible, and else in the quotes that leave
the fewest characters to be escaped. -/
def Key.written (key : Key) : String :=
  let chars := key.name.toList
  if !chars.isEmpty && chars.all isBareKeyChar then key.name
  else if !chars.any fun c => isControl c || c == '"' || c == '\\' then "\"" ++ key.name ++ "\""
  else if !chars.any fun c => isControl c || c == '\'' then "'" ++ key.name ++ "'"
  else "\"" ++ String.ofList (chars.flatMap escapedChar) ++ "\""

end CatalogQuery.Toml

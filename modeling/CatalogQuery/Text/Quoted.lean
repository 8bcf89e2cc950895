import CatalogQuery.Text.HiddenTable

/-! # Text in messages

A message tells a place in a text by bytes, and it quotes a text so that every character of it can
be seen: a character without a visible form of its own is written by its code point, and quotes,
backslashes and the common control characters are escaped.

Main definitions: `byteLength` and `quoted`.
-/

namespace CatalogQuery.Text

/-- The number of bytes of a text in UTF-8. -/
def byteLength : List Char → Nat
  | [] => 0
  | c :: s => c.utf8Size + byteLength s

def isVisible (c : Char) : Bool :=
  !inRanges unprintableRanges c.toNat && !inRanges attachingRanges c.toNat

def hexDigits (n : Nat) : List Char := Nat.toDigits 16 n

/-- A character as it stands between quotes. -/
def quotedChar (c : Char) : List Char :=
  if c == '\x00' then ['\\', '0']
  else if c == '\t' then ['\\', 't']
  else if c == '\n' then ['\\', 'n']
  else if c == '\r' then ['\\', 'r']
  else if c == '"' || c == '\\' then ['\\', c]
  else if isVisible c then [c]
  else ['\\', 'u', '\x7b'] ++ hexDigits c.toNat ++ ['\x7d']

def quoted (s : String) : String := String.ofList ('"' :: s.toList.flatMap quotedChar ++ ['"'])

end CatalogQuery.Text

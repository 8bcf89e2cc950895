/-! # Blank characters

The characters that separate the words of a query: those with the Unicode property `White_Space`.
-/

namespace CatalogQuery.Text

/-- The character is white space in the sense of Unicode. Zero-width characters and the separators
`U+001C` to `U+001F` are not. -/
def isBlank (c : Char) : Bool :=
  c == ' ' || ('\t' ≤ c && c ≤ '\r') || c == '\u0085' || c == '\u00A0' || c == '\u1680' ||
    ('\u2000' ≤ c && c ≤ '\u200A') || c == '\u2028' || c == '\u2029' || c == '\u202F' ||
    c == '\u205F' || c == '\u3000'

/-- The text without the blanks it starts with. -/
def skipBlanks (s : List Char) : List Char := s.dropWhile isBlank

/-- The text without the blanks it starts and ends with. -/
def trim (s : String) : String :=
  String.ofList (skipBlanks (skipBlanks s.toList).reverse).reverse

end CatalogQuery.Text

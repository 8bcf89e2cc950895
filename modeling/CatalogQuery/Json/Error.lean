import CatalogQuery.Json.Value
import CatalogQuery.Text.Quoted

/-! # Errors of reading JSON

Why a text cannot be read, where, and what is said about it. A place in a text is given by the
number of bytes that follow it, which a reader of the text knows without counting from its start.

Main definitions: `Json.Cause`, `Json.Error` and `Json.Error.message`.
-/

namespace CatalogQuery.Json

/-! ## Causes -/

/-- What the text was in the middle of when it ended. -/
inductive Unfinished where
  | list
  | object
  | string
  | value
  deriving DecidableEq, Repr

inductive Cause where
  | ended (unfinished : Unfinished)
  | noColon
  | noListSeparator
  | noObjectSeparator
  | noWord
  | noValue
  | badEscape
  | badNumber
  | numberOutOfRange
  | controlCharacter
  | nameNotString
  | loneSurrogate
  | brokenSurrogatePair
  | trailingComma
  | trailingCharacters
  | tooDeep
  /-- A well-formed value that is no list stands where a list is wanted. -/
  | notList (found : String)
  deriving DecidableEq, Repr

inductive Category where
  | endOfText
  | malformed
  | unexpectedValue
  deriving DecidableEq, Repr

def Cause.category : Cause → Category
  | .ended _ => .endOfText
  | .notList _ => .unexpectedValue
  | _ => .malformed

def Cause.message : Cause → String
  | .ended .list => "EOF while parsing a list"
  | .ended .object => "EOF while parsing an object"
  | .ended .string => "EOF while parsing a string"
  | .ended .value => "EOF while parsing a value"
  | .noColon => "expected `:`"
  | .noListSeparator => "expected `,` or `]`"
  | .noObjectSeparator => "expected `,` or `\x7d`"
  | .noWord => "expected ident"
  | .noValue => "expected value"
  | .badEscape => "invalid escape"
  | .badNumber => "invalid number"
  | .numberOutOfRange => "number out of range"
  | .controlCharacter => "control character (\\u0000-\\u001F) found while parsing a string"
  | .nameNotString => "key must be a string"
  | .loneSurrogate => "lone leading surrogate in hex escape"
  | .brokenSurrogatePair => "unexpected end of hex escape"
  | .trailingComma => "trailing comma"
  | .trailingCharacters => "trailing characters"
  | .tooDeep => "recursion limit exceeded"
  | .notList found => "invalid type: " ++ found ++ ", expected a sequence"

/-- How a message names a value that is not wanted. -/
def Value.kind : Value → String
  | .null => "null"
  | .bool b => "boolean `" ++ boolText b ++ "`"
  | .number (.integer n) => "integer `" ++ toString n ++ "`"
  | .number (.real x) => "floating point `" ++ (Number.real x).text ++ "`"
  | .string s => "string " ++ Text.quoted s
  | .array _ => "sequence"
  | .object _ => "map"

/-! ## Places -/

/-- A cause and the number of bytes that follow its place. -/
structure Fault where
  cause : Cause
  unread : Nat
  deriving DecidableEq, Repr

/-- A fault in front of the rest of a text. -/
def Fault.before (cause : Cause) (rest : List Char) : Fault := ⟨cause, Text.byteLength rest⟩

/-- A fault at the first byte of the rest of a text. -/
def Fault.at (cause : Cause) (rest : List Char) : Fault := ⟨cause, Text.byteLength rest - 1⟩

/-- An error with its line, counted from one, and the number of bytes in the line before it. -/
structure Error where
  cause : Cause
  line : Nat
  column : Nat
  deriving DecidableEq, Repr

/-- The line and the column behind the first `bytes` bytes of a text, which follows the given line
and column. -/
def position (line column : Nat) : List Char → Nat → Nat × Nat
  | [], _ => (line, column)
  | c :: s, bytes =>
    if bytes ≤ c.utf8Size then
      if c == '\n' && 0 < bytes then (line + 1, 0) else (line, column + bytes)
    else if c == '\n' then position (line + 1) 0 s (bytes - c.utf8Size)
    else position line (column + c.utf8Size) s (bytes - c.utf8Size)

def Fault.locate (fault : Fault) (text : List Char) : Error :=
  let (line, column) := position 1 0 text (Text.byteLength text - fault.unread)
  ⟨fault.cause, line, column⟩

def Error.message (e : Error) : String :=
  e.cause.message ++ " at line " ++ toString e.line ++ " column " ++ toString e.column

end CatalogQuery.Json

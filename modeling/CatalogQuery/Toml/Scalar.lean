import CatalogQuery.Number.Digits
import CatalogQuery.Toml.Reader

/-! # Keys and scalars of TOML

Readers for strings, keys, integers, floating point numbers, truth values, dates and times. Their
first characters tell most of them apart.

Main definitions: `Toml.dottedKey` and `Toml.scalar`.
-/

namespace CatalogQuery.Toml

open Reader

/-! ## Characters -/

/-- The characters that a line may hold besides its syntax: all but control characters, and tabs. -/
def isText (c : Char) : Bool := c == '\t' || (32 ≤ c.toNat && c.toNat != 127)

def isSpace (c : Char) : Bool := c == ' ' || c == '\t'

def space : Reader Unit := discard (takeWhile isSpace)

/-- The end of a line: a line feed, with or without a carriage return in front of it. -/
def lineFeed : Reader Unit := do
  match ← any with
  | '\n' => return
  | '\r' => char '\n'
  | _ => refuse

/-- A text as faults speak of it. -/
def backquoted (text : String) : String := "`" ++ text ++ "`"

/-! ## Strings -/

/-- A character given by `n` hexadecimal digits. -/
def codePoint (n : Nat) : Reader Char := do
  let start ← offset
  let code := Digits.value 16 (← whole (times (satisfying Digits.isHexadecimal) n))
  if Nat.isValidChar code then return Char.ofNat code else failAt start (some .outOfRange)

/-- What can stand behind a backslash. -/
def escapeNames : List String := ["b", "f", "n", "r", "t", "u", "U", "\\", "\""]

def escape : Reader Char := do
  char '\\'
  let start ← offset
  match ← any with
  | 'b' => return '\x08'
  | 't' => return '\t'
  | 'n' => return '\n'
  | 'f' => return '\x0c'
  | 'r' => return '\r'
  | '"' => return '"'
  | '\\' => return '\\'
  | 'u' => named "unicode 4-digit hex code" (commit (codePoint 4))
  | 'U' => named "unicode 8-digit hex code" (commit (codePoint 8))
  | _ =>
    named "escape sequence" <| wanting (escapeNames.map backquoted) <|
      commit (failAt (start + 1) none)

/-- The characters of a string in double quotes that stand for themselves. -/
def isBasicText (c : Char) : Bool := isText c && c != '"' && c != '\\'

/-- The characters of a string in single quotes. -/
def isLiteralText (c : Char) : Bool := isText c && c != '\''

/-- A string in double quotes on one line. -/
def basicString : Reader String := do
  char '"'
  let chars ← many (satisfying isBasicText <|> escape)
  named "basic string" (commit (char '"'))
  return String.ofList chars

/-- A string in single quotes on one line. -/
def literalString : Reader String := do
  char '\''
  let chars ← takeWhile isLiteralText
  named "literal string" (commit (char '\''))
  return String.ofList chars

/-- One or two quotes with another character behind them. -/
def innerQuotes (quote : Char) : Reader (List Char) := whole do
  let quotes ← takeWhile (· == quote)
  check (0 < quotes.length && quotes.length ≤ 2 && !(← ahead).isEmpty)
  return quotes

/-- The three quotes at the end of a string. One or two quotes in front of them belong to the
string. -/
def closingQuotes (quote : Char) : Reader (List Char) := do
  let quotes := ((← ahead).takeWhile (· == quote)).take 5
  check (3 ≤ quotes.length)
  discard (times any quotes.length)
  return quotes.drop 3

/-- A string of several lines between three quotes. -/
def multiLine (quote : Char) (piece : Reader (List Char)) : Reader String := do
  word (String.ofList [quote, quote, quote])
  discard (optional lineFeed)
  let pieces ← commit (many piece)
  return String.ofList (pieces.flatten ++ (← commit (closingQuotes quote)))

/-- A backslash at the end of a line, with the line feeds and the space behind it. -/
def continuedLine : Reader (List Char) := do
  char '\\'
  space
  lineFeed
  discard (many (discard (satisfying isSpace) <|> lineFeed))
  return []

def multiLineBasicString : Reader String :=
  named "multiline basic string" <| multiLine '"' <|
    many1 (satisfying isBasicText) <|> continuedLine <|> (do return [← escape]) <|>
      (do lineFeed; return ['\n']) <|> innerQuotes '"'

/-- Text and line feeds of a string of several lines in single quotes. -/
def multiLineLiteralText : Reader (List Char) := do
  return (← many1 (many1 (satisfying isLiteralText) <|> do lineFeed; return ['\n'])).flatten

def multiLineLiteralString : Reader String :=
  named "multiline literal string" <| multiLine '\'' <|
    multiLineLiteralText <|> do return (← innerQuotes '\'') ++ (← multiLineLiteralText)

def string : Reader String :=
  multiLineBasicString <|> basicString <|> multiLineLiteralString <|> literalString

/-! ## Keys -/

def simpleKey : Reader Key := do
  let bare := do return String.ofList (← many1 (satisfying isBareKeyChar))
  let (name, span) ← spanned (basicString <|> literalString <|> bare)
  return ⟨name, span⟩

/-- The number of tables that may be nested, and of parts that a key may have. -/
def maxNesting : Nat := 79

/-- A key of one or more parts, with space around each of them. -/
def dottedKey : Reader (List Key × Key) := do
  let start ← offset
  let parts ← named "key" (separated (space *> simpleKey <* space) (char '.'))
  match parts.getLast? with
  | none => refuse
  | some last =>
    if parts.length ≤ maxNesting then return (parts.dropLast, last)
    else failAt start (some .tooDeep)

/-! ## Numbers -/

/-- One digit, where nothing else can stand. -/
def requiredDigit (isDigit : Char → Bool) : Reader Char :=
  wanting ["digit"] (commit (satisfying isDigit))

/-- Digits with single underscores between them, which are left out. -/
def digitRun (isDigit : Char → Bool) : Reader (List Char) := do
  let first ← satisfying isDigit
  return first :: (← many (satisfying isDigit <|> (char '_' *> requiredDigit isDigit)))

/-- A sign: whether it is a minus. -/
def sign : Reader Bool :=
  (char '-' *> pure true) <|> (char '+' *> pure false) <|> pure false

/-- A sign and decimal digits without leading zeros. -/
def signedDigits : Reader (Bool × List Char) := named "integer" do
  let negative ← sign
  match ← ahead with
  | '0' :: _ => return (negative, [← any])
  | _ => return (negative, ← digitRun Char.isDigit)

/-- An integer in one of the bases that have a mark. -/
def markedInteger (subject mark : String) (base : Nat) (isDigit : Char → Bool) : Reader Int := do
  let start ← offset
  let n := Digits.value base (← named subject (word mark *> commit (digitRun isDigit)))
  if n < signedBound then return n else commit (failAt start (some .tooLarge))

def decimalInteger : Reader Int := do
  let start ← offset
  let (negative, digits) ← signedDigits
  let n := Digits.value 10 digits
  if negative then
    if n ≤ signedBound then return -(n : Int) else commit (failAt start (some .tooSmall))
  else if n < signedBound then return n
  else commit (failAt start (some .tooLarge))

/-- An integer of 64 bits with a sign. -/
def integer : Reader Int :=
  markedInteger "hexadecimal integer" "0x" 16 Digits.isHexadecimal <|>
    markedInteger "octal integer" "0o" 8 Digits.isOctal <|>
    markedInteger "binary integer" "0b" 2 Digits.isBinary <|> decimalInteger

/-- The places behind the point of a number. -/
def fraction : Reader (List Char) := do
  char '.'
  wanting ["digit"] (commit (digitRun Char.isDigit))

def exponent : Reader Int := do
  char 'e' <|> char 'E'
  let negative ← sign
  let n := Digits.value 10 (← commit (digitRun Char.isDigit))
  return if negative then -(n : Int) else n

/-- A number with a fraction, an exponent or both. A negative one may exceed the range and is then
infinite; a positive one may not. -/
def fractional : Reader Float := do
  let start ← offset
  let (negative, digits) ← signedDigits
  let places ← optional fraction
  let power ← if places.isSome then optional exponent else some <$> exponent
  let places := places.getD []
  match Binary64.ofDecimal? negative (Digits.value 10 (digits ++ places))
      (power.getD 0 - places.length) with
  | some x => return .finite x
  | none => if negative then return .infinite true else commit (failAt start none)

def specialFloat : Reader Float := do
  let negative ← sign
  (word "inf" *> pure (.infinite negative)) <|> (word "nan" *> pure .notANumber)

def float : Reader Float := named "floating-point number" (fractional <|> specialFloat)

/-! ## Dates and times -/

/-- A number of exactly `n` digits within bounds. -/
def fixedNumber (n least most : Nat) : Reader Nat := do
  let start ← offset
  let value := Digits.value 10 (← whole (times (satisfying Char.isDigit) n))
  if least ≤ value && value ≤ most then return value else failAt start (some .outOfRange)

def daysOfMonth (year month : Nat) : Nat :=
  if month == 2 then
    if year % 4 == 0 && (year % 100 != 0 || year % 400 == 0) then 29 else 28
  else if month == 4 || month == 6 || month == 9 || month == 11 then 30
  else 31

def date : Reader Unit := do
  let year ← fixedNumber 4 0 9999
  char '-'
  commit do
    let month ← fixedNumber 2 1 12
    char '-'
    discard (fixedNumber 2 1 (daysOfMonth year month))

/-- A time of the day, which may be a leap second. -/
def time : Reader Unit := do
  discard (fixedNumber 2 0 23)
  char ':'
  commit do
    discard (fixedNumber 2 0 59)
    char ':'
    discard (fixedNumber 2 0 60)
    discard (optional (char '.' *> many1 (satisfying Char.isDigit)))

/-- The distance of a time from the universal one. -/
def timeOffset : Reader Unit := named "time offset" <|
  char 'Z' <|> char 'z' <|> do
    char '+' <|> char '-'
    commit do
      discard (fixedNumber 2 0 23)
      char ':'
      discard (fixedNumber 2 0 59)

def dateOrTime : Reader Unit :=
  named "date-time" (do
    date
    discard <| optional do
      char 'T' <|> char 't' <|> char ' '
      time
      discard (optional timeOffset)) <|>
    named "time" time

/-- A date, a time or both, as it is written. -/
def dateTime : Reader String := do
  let before ← ahead
  dateOrTime
  let after ← ahead
  return String.ofList (before.take (before.length - after.length))

/-! ## Scalars -/

def wantedWord (w : String) : Reader Unit := wanting [backquoted w] (word w)

/-- A value that is no container. Digits and signs begin dates and times as well as numbers, and
what begins like nothing else is taken for a string. -/
def scalar : Reader Node := do
  match ← ahead with
  | [] => refuse
  | c :: _ =>
    if c == '"' || c == '\'' then .string <$> string
    else if c.isDigit || c == '+' || c == '-' then
      .dateTime <$> dateTime <|> .float <$> float <|> .integer <$> integer
    else if c == '_' then wanting ["leading digit"] (.integer <$> integer)
    else if c == '.' then wanting ["leading digit"] (.float <$> float)
    else if c == 't' then do commit (wantedWord "true"); return .boolean true
    else if c == 'f' then do commit (wantedWord "false"); return .boolean false
    else if c == 'i' then do wantedWord "inf"; return .float (.infinite false)
    else if c == 'n' then do wantedWord "nan"; return .float .notANumber
    else named "string" (wanting (["\"", "'"].map backquoted) refuse)

end CatalogQuery.Toml

import CatalogQuery.Json.Error
import CatalogQuery.Number.Digits

/-! # Reading JSON

A reader takes one thing from the front of a text and returns it with the rest of the text. Of an
object's members with one name the last one counts. Containers nest at most 127 deep.

Main definitions: `Json.read`, for any value, and `Json.readList`, for a list of values.
-/

namespace CatalogQuery.Json

/-- Takes an `α` from the front of a text. -/
abbrev Reader (α : Type) := List Char → Except Fault (α × List Char)

/-- The number of containers that may be open at the same time. -/
def maxNesting : Nat := 127

/-- The characters between the parts of a text. -/
def isSpace (c : Char) : Bool := c == ' ' || c == '\n' || c == '\t' || c == '\r'

def skipSpace (s : List Char) : List Char := s.dropWhile isSpace

/-! ## Words and strings -/

/-- Reads the rest of one of the words `null`, `true` and `false`. -/
def readWord (value : Value) : List Char → Reader Value
  | [], s => .ok (value, s)
  | _ :: _, [] => .error (.before (.ended .value) [])
  | w :: word, c :: s =>
    if w == c then readWord value word s else .error (.at .noWord (c :: s))

/-- Reads a code unit of four hexadecimal digits. Digits that are none are four bytes of the text.
-/
def readCodeUnit (s : List Char) : Except Fault (Nat × List Char) :=
  let broken : Fault :=
    if Text.byteLength s < 4 then ⟨.ended .string, 0⟩ else ⟨.badEscape, Text.byteLength s - 4⟩
  match s with
  | a :: b :: c :: d :: rest =>
    if [a, b, c, d].all Digits.isHexadecimal then .ok (Digits.value 16 [a, b, c, d], rest)
    else .error broken
  | _ => .error broken

/-- Reads what follows `\u`: a character, or the first and then the second half of one. -/
def readUnicodeEscape (s : List Char) : Except Fault (Char × List Char) := do
  let (first, s) ← readCodeUnit s
  if 0xDC00 ≤ first && first ≤ 0xDFFF then throw (.before .loneSurrogate s)
  if first < 0xD800 || 0xDBFF < first then return (Char.ofNat first, s)
  match s with
  | [] => throw (.before (.ended .string) [])
  | ['\\'] => throw (.before (.ended .string) [])
  | '\\' :: 'u' :: s =>
    let (second, s) ← readCodeUnit s
    if second < 0xDC00 || 0xDFFF < second then throw (.before .loneSurrogate s)
    return (Char.ofNat (0x10000 + (first - 0xD800) * 0x400 + (second - 0xDC00)), s)
  | '\\' :: s => throw (.at .brokenSurrogatePair s)
  | s => throw (.at .brokenSurrogatePair s)

def readEscape : List Char → Except Fault (Char × List Char)
  | [] => .error (.before (.ended .string) [])
  | '"' :: s => .ok ('"', s)
  | '\\' :: s => .ok ('\\', s)
  | '/' :: s => .ok ('/', s)
  | 'b' :: s => .ok ('\x08', s)
  | 'f' :: s => .ok ('\x0c', s)
  | 'n' :: s => .ok ('\n', s)
  | 'r' :: s => .ok ('\r', s)
  | 't' :: s => .ok ('\t', s)
  | 'u' :: s => readUnicodeEscape s
  | s => .error (.at .badEscape s)

/-- Reads the rest of a string, of which `read` is the part before, reversed. The string has at most
`n` more characters. -/
def readCharacters : Nat → List Char → Reader String
  | 0, _, s => .error (.before (.ended .string) s)
  | n + 1, read, s =>
    match s with
    | [] => .error (.before (.ended .string) [])
    | '"' :: rest => .ok (String.ofList read.reverse, rest)
    | '\\' :: rest => do
      let (c, rest) ← readEscape rest
      readCharacters n (c :: read) rest
    | c :: rest =>
      if c.toNat < 32 then .error (.before .controlCharacter rest)
      else readCharacters n (c :: read) rest

/-- Reads the rest of a string, after its first quote. -/
def readString : Reader String := fun s => readCharacters (s.length + 1) [] s

/-! ## Numbers -/

/-- Appends decimal digits to a number as long as it does not exceed `most`. Returns the number and
the digits that were left out. -/
def appendDigits (most : Nat) (n : Nat) : List Char → Nat × List Char
  | [] => (n, [])
  | c :: digits =>
    let next := 10 * n + Digits.single c
    if next ≤ most then appendDigits most next digits else (n, c :: digits)

def maxSignificand : Nat := 0xFFFFFFFFFFFFFFFF

/-- The greatest exponent that is told apart from greater ones. -/
def maxExponent : Nat := 0x7FFFFFFF

/-- The number `±significand · 10 ^ exponent` in front of the rest of a text. -/
def realNumber (negative : Bool) (significand : Nat) (exponent : Int) : Reader Number := fun s =>
  match (Binary64.ofNat significand).timesPowerOfTen? exponent with
  | some x => .ok (.real (if negative then x.neg else x), s)
  | none => .error (.before .numberOutOfRange s)

/-- Reads an exponent, if there is one, and adds it to the exponent so far. -/
def readExponent (negative : Bool) (significand : Nat) (exponent : Int) : Reader Number := fun s =>
  match s with
  | 'e' :: s | 'E' :: s =>
    let (down, s) := match s with
      | '+' :: s => (false, s)
      | '-' :: s => (true, s)
      | s => (false, s)
    let rest := s.dropWhile Char.isDigit
    match s.takeWhile Char.isDigit with
    | [] => match s with
      | [] => .error (.before (.ended .value) [])
      | s => .error (.at .badNumber s)
    | digits => match appendDigits maxExponent 0 digits with
      | (n, []) =>
        realNumber negative significand (if down then exponent - n else exponent + n) rest
      | (_, _ :: left) =>
        if significand != 0 && !down then .error (.before .numberOutOfRange (left ++ rest))
        else .ok (.real (.zero negative), rest)
  | s => realNumber negative significand exponent s

/-- Reads a fraction, if there is one, and an exponent, if there is one. A text without either is a
number that is too great for an integer. -/
def readFraction (negative : Bool) (significand : Nat) (exponent : Int) : Reader Number := fun s =>
  match s with
  | '.' :: s =>
    let rest := s.dropWhile Char.isDigit
    match s.takeWhile Char.isDigit with
    | [] => match s with
      | [] => .error (.before (.ended .value) [])
      | s => .error (.at .badNumber s)
    | digits =>
      let (significand, left) := appendDigits maxSignificand significand digits
      readExponent negative significand (exponent - (digits.length - left.length : Nat)) rest
  | s => readExponent negative significand exponent s

/-- The number in front of a fraction or an exponent is not an integer. -/
def isRealMark : List Char → Bool
  | c :: _ => c == '.' || c == 'e' || c == 'E'
  | [] => false

/-- Reads a number behind its sign. Leading zeros are refused. A negative zero, and an integer that
does not fit 64 bits, is a binary64 number. -/
def readNumber (negative : Bool) : Reader Number := fun s =>
  let rest := s.dropWhile Char.isDigit
  match s.takeWhile Char.isDigit with
  | [] => match s with
    | [] => .error (.before (.ended .value) [])
    | s => .error (.at .badNumber s)
  | '0' :: c :: digits => .error (.at .badNumber (c :: digits ++ rest))
  | digits => match appendDigits maxSignificand 0 digits with
    | (n, []) =>
      if isRealMark rest then readFraction negative n 0 rest
      else if !negative then .ok (.integer n, rest)
      else if 0 < n && n ≤ signedBound then .ok (.integer (-n), rest)
      else .ok (.real (Binary64.ofNat n).neg, rest)
    | (n, left) => readFraction negative n left.length rest

/-! ## Values -/

/-- Reads the items of a list behind the first one, up to its end. The list has at most `n` of
them. -/
def readMoreItems (item : Reader Value) : Nat → List Value → Reader (List Value)
  | 0, _, s => .error (.before (.ended .list) s)
  | n + 1, items, s =>
    match skipSpace s with
    | [] => .error (.before (.ended .list) [])
    | ']' :: rest => .ok (items.reverse, rest)
    | ',' :: rest => match skipSpace rest with
      | [] => .error (.before (.ended .value) [])
      | ']' :: rest => .error (.at .trailingComma (']' :: rest))
      | rest => do
        let (value, rest) ← item rest
        readMoreItems item n (value :: items) rest
    | rest => .error (.at .noListSeparator rest)

/-- Reads the items of a list, after its opening bracket. -/
def readItems (item : Reader Value) : Reader (List Value) := fun s =>
  match skipSpace s with
  | [] => .error (.before (.ended .list) [])
  | ']' :: rest => .ok ([], rest)
  | rest => do
    let (value, rest) ← item rest
    readMoreItems item (rest.length + 1) [value] rest

/-- Reads a member of an object behind the first quote of its name. -/
def readMember (value : Reader Value) : Reader (String × Value) := fun s => do
  let (name, s) ← readString s
  match skipSpace s with
  | [] => throw (.before (.ended .object) [])
  | ':' :: rest =>
    let (v, rest) ← value rest
    return ((name, v), rest)
  | rest => throw (.at .noColon rest)

/-- Reads the members of an object behind the first one, up to its end. The object has at most `n`
of them. -/
def readMoreMembers (value : Reader Value) :
    Nat → List (String × Value) → Reader (List (String × Value))
  | 0, _, s => .error (.before (.ended .object) s)
  | n + 1, members, s =>
    match skipSpace s with
    | [] => .error (.before (.ended .object) [])
    | '\x7d' :: rest => .ok (members, rest)
    | ',' :: rest => match skipSpace rest with
      | [] => .error (.before (.ended .value) [])
      | '"' :: rest => do
        let ((name, v), rest) ← readMember value rest
        readMoreMembers value n (Dictionary.insert name v members) rest
      | '\x7d' :: rest => .error (.at .trailingComma ('\x7d' :: rest))
      | rest => .error (.at .nameNotString rest)
    | rest => .error (.at .noObjectSeparator rest)

/-- Reads the members of an object, after its opening brace. -/
def readMembers (value : Reader Value) : Reader (List (String × Value)) := fun s =>
  match skipSpace s with
  | [] => .error (.before (.ended .object) [])
  | '\x7d' :: rest => .ok ([], rest)
  | '"' :: rest => do
    let (member, rest) ← readMember value rest
    readMoreMembers value (rest.length + 1) [member] rest
  | rest => .error (.at .nameNotString rest)

def readScalar : Reader Value
  | 'n' :: s => readWord .null ['u', 'l', 'l'] s
  | 't' :: s => readWord (.bool true) ['r', 'u', 'e'] s
  | 'f' :: s => readWord (.bool false) ['a', 'l', 's', 'e'] s
  | '"' :: s => do
    let (text, rest) ← readString s
    return (.string text, rest)
  | '-' :: s => do
    let (n, rest) ← readNumber true s
    return (.number n, rest)
  | c :: s =>
    if c.isDigit then do
      let (n, rest) ← readNumber false (c :: s)
      return (.number n, rest)
    else .error (.at .noValue (c :: s))
  | [] => .error (.before (.ended .value) [])

/-- Reads a value in which at most `room` containers are open at the same time. -/
def readValue : Nat → Reader Value
  | 0, s => match skipSpace s with
    | '[' :: rest => .error (.at .tooDeep ('[' :: rest))
    | '\x7b' :: rest => .error (.at .tooDeep ('\x7b' :: rest))
    | rest => readScalar rest
  | room + 1, s => match skipSpace s with
    | '[' :: rest => do
      let (items, rest) ← readItems (readValue room) rest
      return (.array items, rest)
    | '\x7b' :: rest => do
      let (members, rest) ← readMembers (readValue room) rest
      return (.object members, rest)
    | rest => readScalar rest

/-! ## Whole texts -/

/-- Reads a text that holds one thing and nothing else but space. -/
def readWhole {α : Type} (reader : Reader α) (text : String) : Except Error α :=
  let s := text.toList
  match reader s with
  | .error fault => .error (fault.locate s)
  | .ok (a, rest) => match skipSpace rest with
    | [] => .ok a
    | rest => .error ((Fault.at .trailingCharacters rest).locate s)

/-- Reads a list. A value that is no list is refused behind it, and an object in front of it. -/
def listReader : Reader (List Value) := fun s =>
  match skipSpace s with
  | '[' :: rest => readItems (readValue (maxNesting - 1)) rest
  | '\x7b' :: rest => .error (.before (.notList (Value.object []).kind) ('\x7b' :: rest))
  | rest => do
    let (value, rest) ← readScalar rest
    throw (.before (.notList value.kind) rest)

def read (text : String) : Except Error Value := readWhole (readValue maxNesting) text

def readList (text : String) : Except Error (List Value) := readWhole listReader text

end CatalogQuery.Json

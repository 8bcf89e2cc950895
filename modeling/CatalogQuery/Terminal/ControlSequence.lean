/-! # Control sequences

A terminal is told what to do by sequences of characters that it does not show. `ESC` starts a
sequence, and what comes next decides how far it goes. A text goes to a file without its sequences.

Main definitions: `ControlSequence.State`, `ControlSequence.shown` and
`ControlSequence.withoutSequences`.
-/

namespace CatalogQuery.Terminal.ControlSequence

/-- Where a character stands. -/
inductive State where
  | outside
  /-- Behind `ESC`. -/
  | escape
  /-- Behind `ESC` and a mark such as `(`. -/
  | designation
  /-- Behind `ESC [`. -/
  | control
  /-- Behind `ESC ]`. -/
  | system
  /-- Behind `ESC P`, in front of what a device is told. -/
  | device
  /-- In a text that is not for the reader. -/
  | hidden
  deriving DecidableEq, Repr

namespace State

/-- The character separates words or lines. -/
def separates (c : Char) : Bool := c == '\t' || c == '\n' || c == '\x0c' || c == '\r'

/-- The character is one of ASCII that is no control character. -/
def isPlain (c : Char) : Bool := 0x20 ≤ c.toNat && c.toNat < 0x7f

/-- The character can be the last one of a sequence with parameters. -/
def isFinal (c : Char) : Bool := 0x40 ≤ c.toNat && c.toNat < 0x7f

/-- A character is shown. Short sequences let white space through. -/
def shows (state : State) (c : Char) : Bool :=
  match state with
  | .outside => separates c || isPlain c || 0x80 ≤ c.toNat
  | .escape | .designation | .control => separates c
  | .system | .device | .hidden => false

/-- The character is written with the byte that ends a hidden text. -/
def endsHidden (c : Char) : Bool := (String.utf8EncodeChar c).contains 0x9c

/-- What follows `ESC` and a character. -/
def afterEscape (c : Char) : State :=
  if !isPlain c then .escape
  else if c.toNat < 0x30 then .designation
  else if c = '[' then .control
  else if c = ']' then .system
  else if c = 'P' then .device
  else if c = 'X' || c = '^' || c = '_' then .hidden
  else .outside

/-- What follows a character that is not shown. -/
def next (state : State) (c : Char) : State :=
  if c = '\x1b' then .escape
  else if c = '\x18' || c = '\x1a' then .outside
  else match state with
    | .outside => .outside
    | .escape => afterEscape c
    | .designation => if isPlain c && 0x30 ≤ c.toNat then .outside else .designation
    | .control => if isFinal c then .outside else .control
    | .system => if c = '\x07' then .outside else .system
    | .device => if isFinal c || c = ':' then .hidden else .device
    | .hidden => if endsHidden c then .outside else .hidden

end State

/-- The characters that are shown. White space inside a sequence is shown together with the ASCII
characters behind it, and so the sequence goes on with the next character that is not shown. -/
def shown (state : State) (showing : Bool) : List Char → List Char
  | [] => []
  | c :: s =>
    if state.shows c || (showing && State.outside.shows c) then
      c :: shown (if c.toNat < 0x80 then state else .outside) true s
    else shown (state.next c) false s

def withoutSequences (text : String) : String := String.ofList (shown .outside true text.toList)

end CatalogQuery.Terminal.ControlSequence

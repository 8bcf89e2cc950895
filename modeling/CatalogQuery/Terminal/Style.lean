/-! # Styled text

Text on a terminal is bold, dimmed, underlined or coloured by control sequences in front of it, and
a sequence behind it sets all of that back.

Main definitions: `Style` and the painters `Painter.plain`, `Painter.styled` and
`Painter.styledStepwise`.
-/

namespace CatalogQuery.Terminal

inductive Colour where
  | red
  | green
  | yellow
  | magenta
  | cyan
  | white
  deriving DecidableEq, Repr

def Colour.code : Colour → String
  | .red => "31"
  | .green => "32"
  | .yellow => "33"
  | .magenta => "35"
  | .cyan => "36"
  | .white => "37"

structure Style where
  bold : Bool := false
  dimmed : Bool := false
  underlined : Bool := false
  colour : Option Colour := none
  deriving DecidableEq, Repr

namespace Style

def dim : Style := { dimmed := true }

def coloured (colour : Colour) : Style := { colour := colour }

/-- Bold text in a colour. -/
def strong (colour : Colour) : Style := { bold := true, colour := colour }

/-- Bold text in the usual colour. -/
def emphasis : Style := { bold := true }

/-- Bold and underlined text in the usual colour. -/
def head : Style := { bold := true, underlined := true }

def codes (style : Style) : List String :=
  (if style.bold then ["1"] else []) ++ (if style.dimmed then ["2"] else []) ++
    (if style.underlined then ["4"] else []) ++ (style.colour.map Colour.code).toList

def controlSequence (codes : List String) : String := "\x1b[" ++ ";".intercalate codes ++ "m"

def sequence (style : Style) : String := controlSequence style.codes

/-- Control sequences that turn the style on step by step. -/
def steps (style : Style) : String :=
  String.join (style.codes.map fun code => controlSequence [code])

end Style

/-- The control sequence that turns all styles off. -/
def resetSequence : String := "\x1b[0m"

/-- Puts `inserted` behind each reset sequence of a text. -/
def afterResets (inserted : List Char) : List Char → List Char
  | '\x1b' :: '[' :: '0' :: 'm' :: s => resetSequence.toList ++ inserted ++ afterResets inserted s
  | c :: s => c :: afterResets inserted s
  | [] => []

/-- Gives a text a style. -/
abbrev Painter := Style → String → String

def Painter.plain : Painter := fun _ text => text

/-- Puts control sequences around a text. A text that turns styles off inside goes on in its own. -/
def Painter.styled : Painter := fun style text =>
  style.sequence ++ String.ofList (afterResets style.sequence.toList text.toList) ++ resetSequence

/-- Puts control sequences around a text, one for each part of the style. -/
def Painter.styledStepwise : Painter := fun style text => style.steps ++ text ++ resetSequence

def spaces (n : Nat) : String := String.ofList (List.replicate n ' ')

def fillTo (width : Nat) (text : String) : String := text ++ spaces (width - text.length)

end CatalogQuery.Terminal

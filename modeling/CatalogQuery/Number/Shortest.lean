import CatalogQuery.Number.Binary64

/-! # Shortest decimal text

A number is written with the fewest decimal digits that read back as the same number, and of those
with the ones nearest to it; a format says which ones where two are equally near. Every decimal that
lies between the midpoints to the two neighbouring numbers reads back as the number; the midpoints
themselves do if its mantissa is even.

Main definitions: `Binary64.shortest` and `Binary64.text`.
-/

namespace CatalogQuery.Binary64

/-! ## Digits -/

/-- A magnitude as a multiple of a power of ten: `digits · 10 ^ exponent`. -/
structure Decimal where
  digits : Nat
  exponent : Int

def Decimal.magnitude (d : Decimal) : Ratio := .mul ⟨d.digits, 1⟩ (.power 10 d.exponent)

def Ratio.le (r s : Ratio) : Bool := r.num * s.den ≤ s.num * r.den

def Ratio.lt (r s : Ratio) : Bool := r.num * s.den < s.num * r.den

/-- The midpoint between the magnitude of a number and the next lower one. -/
def lowerMidpoint (x : Binary64) : Ratio :=
  let quarters := if x.mantissa = leastFullMantissa ∧ x.exponent ≠ -1074 then 1 else 2
  .mul ⟨4 * x.mantissa - quarters, 4⟩ (.power 2 x.exponent)

/-- The midpoint between the magnitude of a number and the next higher one. -/
def upperMidpoint (x : Binary64) : Ratio := .mul ⟨2 * x.mantissa + 1, 2⟩ (.power 2 x.exponent)

def readsBack (x : Binary64) (d : Decimal) : Bool :=
  if x.mantissa % 2 = 0 then
    x.lowerMidpoint.le d.magnitude && d.magnitude.le x.upperMidpoint
  else x.lowerMidpoint.lt d.magnitude && d.magnitude.lt x.upperMidpoint

/-- The multiple of `10 ^ e` that is nearest to the number among those that read back as it. -/
def onGrid? (tie : Tie) (x : Binary64) (e : Int) : Option Decimal :=
  let scaled := x.magnitude.div (.power 10 e)
  let below : Decimal := ⟨scaled.num / scaled.den, e⟩
  let above : Decimal := ⟨below.digits + 1, e⟩
  let nearest : Decimal := ⟨scaled.nearest tie, e⟩
  if x.readsBack nearest then some nearest
  else if x.readsBack below then some below
  else if x.readsBack above then some above
  else none

/-- The first hit on the grids `10 ^ e`, `10 ^ (e - 1)` and so on, `steps` of them at most. -/
def searchGrids (tie : Tie) (x : Binary64) : Nat → Int → Decimal
  | 0, e => ⟨(x.magnitude.div (.power 10 e)).nearest tie, e⟩
  | steps + 1, e => (x.onGrid? tie e).getD (searchGrids tie x steps (e - 1))

/-- The shortest decimal of a number that is not zero. The search starts above its magnitude, and
seventeen digits always suffice. -/
def shortest (tie : Tie) (x : Binary64) : Decimal :=
  if x.mantissa = 0 then ⟨0, 0⟩
  else searchGrids tie x 24 ((Nat.log2 x.mantissa + 1 + x.exponent) * 30103 / 100000 + 2)

/-! ## Text -/

/-- A decimal written out without an exponent, with a point and a digit after it. -/
def Decimal.positional (d : Decimal) : String :=
  let digits := toString d.digits
  if 0 ≤ d.exponent then digits ++ String.ofList (List.replicate d.exponent.toNat '0') ++ ".0"
  else
    let places := (-d.exponent).toNat
    let padded :=
      String.ofList (List.replicate (places + 1 - digits.length) '0' ++ digits.toList)
    let whole := padded.length - places
    String.ofList (padded.toList.take whole ++ '.' :: padded.toList.drop whole)

/-- A decimal written as one digit, a point and the other digits if there are any, and an exponent
with its sign. -/
def Decimal.scientific (d : Decimal) : String :=
  let digits := (toString d.digits).toList
  let e := d.exponent + (digits.length - 1 : Nat)
  let fraction := match digits.drop 1 with
    | [] => []
    | rest => '.' :: rest
  String.ofList (digits.take 1 ++ fraction) ++ (if e < 0 then "e-" else "e+") ++ toString e.natAbs

/-- The power of ten of the first digit. -/
def Decimal.leadingExponent (d : Decimal) : Int :=
  d.exponent + ((toString d.digits).length - 1 : Nat)

/-- What a format decides about the text of a number. -/
structure Layout where
  /-- A number is written out, and not with an exponent, by the power of ten of its first digit. -/
  isPositional : Int → Bool
  /-- Which of two equally near decimals is written. -/
  tie : Tie

/-- The shortest text of a number in a layout. -/
def text (layout : Layout) (x : Binary64) : String :=
  let d := x.shortest layout.tie
  (if x.negative then "-" else "") ++
    (if layout.isPositional d.leadingExponent then d.positional else d.scientific)

end CatalogQuery.Binary64

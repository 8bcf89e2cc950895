/-! # Binary floating point numbers of 64 bits

The finite numbers of the binary64 format, as exact multiples of a power of two, and the rounding
of fractions to them: to the nearest number, a tie to the even mantissa.

Main definitions: `Binary64`, `Binary64.ofRatio?`, `Binary64.ofNat`, `Binary64.timesPowerOfTen?`
and `Binary64.ofDecimal?`.
-/

namespace CatalogQuery

/-- The number `±mantissa · 2 ^ exponent`. The mantissa has 53 bits, or fewer when the exponent is
the least one, `-1074`; the greatest exponent is `971`. Zero has a sign. -/
structure Binary64 where
  negative : Bool
  mantissa : Nat
  exponent : Int
  deriving DecidableEq, Repr

namespace Binary64

/-! ## Fractions -/

/-- A fraction of natural numbers, with a denominator that is not zero. -/
structure Ratio where
  num : Nat
  den : Nat

def Ratio.power (base : Nat) (e : Int) : Ratio :=
  if 0 ≤ e then ⟨Nat.pow base e.toNat, 1⟩ else ⟨1, Nat.pow base (-e).toNat⟩

def Ratio.mul (r s : Ratio) : Ratio := ⟨r.num * s.num, r.den * s.den⟩

def Ratio.div (r s : Ratio) : Ratio := ⟨r.num * s.den, r.den * s.num⟩

/-- Which of two natural numbers that are equally near to a fraction is taken. -/
inductive Tie where
  | toEven
  | up
  deriving DecidableEq, Repr

/-- A tie above a natural number goes to the next one. -/
def Tie.goesUp (tie : Tie) (below : Nat) : Bool :=
  match tie with
  | .toEven => below % 2 == 1
  | .up => true

/-- The natural number nearest to a fraction. -/
def Ratio.nearest (tie : Tie) (r : Ratio) : Nat :=
  let quotient := r.num / r.den
  let double := 2 * (r.num % r.den)
  if double > r.den || (double == r.den && tie.goesUp quotient) then quotient + 1 else quotient

def magnitude (x : Binary64) : Ratio := .mul ⟨x.mantissa, 1⟩ (.power 2 x.exponent)

/-! ## Rounding -/

/-- The least mantissa of 53 bits. -/
def leastFullMantissa : Nat := 0x10000000000000

/-- The exponent at which the fraction has a mantissa of 53 bits, or the least exponent if that one
is greater. -/
def exponentFor (r : Ratio) : Int :=
  let guess := (Nat.log2 r.num : Int) - Nat.log2 r.den - 52
  let scaled := r.div (.power 2 guess)
  max (-1074) (if scaled.num / scaled.den < leastFullMantissa then guess - 1 else guess)

/-- The number nearest to a fraction, unless it would be infinite. -/
def ofRatio? (negative : Bool) (r : Ratio) : Option Binary64 :=
  if r.num = 0 then some ⟨negative, 0, -1074⟩
  else
    let exponent := exponentFor r
    let mantissa := (r.div (.power 2 exponent)).nearest .toEven
    let (mantissa, exponent) :=
      if mantissa = 2 * leastFullMantissa then (leastFullMantissa, exponent + 1)
      else (mantissa, exponent)
    if exponent ≤ 971 then some ⟨negative, mantissa, exponent⟩ else none

def zero (negative : Bool) : Binary64 := ⟨negative, 0, -1074⟩

def neg (x : Binary64) : Binary64 := { x with negative := !x.negative }

/-- The number nearest to a natural number, which has to be in range. -/
def ofNat (n : Nat) : Binary64 := (ofRatio? false ⟨n, 1⟩).getD (zero false)

/-- The number nearest to `10 ^ n`, for `n` up to `308`. -/
def powerOfTen (n : Nat) : Binary64 := ofNat (Nat.pow 10 n)

/-- The product of two numbers, unless it would be infinite. -/
def mul? (x y : Binary64) : Option Binary64 :=
  ofRatio? (x.negative != y.negative) (x.magnitude.mul y.magnitude)

/-- The quotient of two numbers. The divisor is at least one, so the quotient is in range. -/
def div (x y : Binary64) : Binary64 :=
  (ofRatio? (x.negative != y.negative) (x.magnitude.div y.magnitude)).getD (zero x.negative)

/-! ## Decimal numbers -/

/-- Divides by `10 ^ n` in steps of at most `10 ^ 308`, rounding after each step. -/
def divPowerOfTen (x : Binary64) (n : Nat) : Binary64 :=
  if n ≤ 308 then x.div (powerOfTen n)
  else if x.mantissa = 0 then x
  else divPowerOfTen (x.div (powerOfTen 308)) (n - 308)
termination_by n

/-- Multiplies by `10 ^ e`, rounding the power and the product, unless the result would be
infinite. -/
def timesPowerOfTen? (x : Binary64) (e : Int) : Option Binary64 :=
  if 0 ≤ e then
    if e ≤ 308 then x.mul? (powerOfTen e.toNat)
    else if x.mantissa = 0 then some x
    else none
  else some (divPowerOfTen x (-e).toNat)

/-- The number nearest to `±digits · 10 ^ e`, rounded once, unless it would be infinite. -/
def ofDecimal? (negative : Bool) (digits : Nat) (e : Int) : Option Binary64 :=
  if digits = 0 then some (zero negative)
  else if e + (Nat.log2 digits + 1 : Nat) < -400 then some (zero negative)
  else if e > 400 then none
  else ofRatio? negative (.mul ⟨digits, 1⟩ (.power 10 e))

end Binary64

end CatalogQuery

/-! # Digits

Natural numbers written in digits, in any base up to sixteen, and the bound of the integers that are
read from them.

Main definitions: `Digits.value` and `signedBound`.
-/

namespace CatalogQuery

/-- An integer of 64 bits with a sign is at least `-signedBound` and less than `signedBound`. -/
def signedBound : Nat := 0x8000000000000000

namespace Digits

def isHexadecimal (c : Char) : Bool :=
  c.isDigit || ('a' ≤ c && c ≤ 'f') || ('A' ≤ c && c ≤ 'F')

def isOctal (c : Char) : Bool := '0' ≤ c && c ≤ '7'

def isBinary (c : Char) : Bool := c == '0' || c == '1'

/-- The number that a single digit stands for. -/
def single (c : Char) : Nat :=
  if c.isDigit then c.toNat - '0'.toNat
  else if 'a' ≤ c && c ≤ 'f' then c.toNat - 'a'.toNat + 10
  else c.toNat - 'A'.toNat + 10

/-- The number that digits stand for. -/
def value (base : Nat) (digits : List Char) : Nat :=
  digits.foldl (fun n c => base * n + single c) 0

end Digits

end CatalogQuery

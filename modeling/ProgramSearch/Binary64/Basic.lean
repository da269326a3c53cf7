/-
# ProgramSearch.Binary64.Basic -- double precision numbers, exactly

A double precision number is kept as the sign and the 63-bit code of its IEEE 754 word: eleven
exponent bits above fifty-two fraction bits. Read as a natural number the code grows with the
magnitude, so comparing numbers is comparing integers, and a finite code decodes to
`significand * 2 ^ exponent`. Rounding a quotient of natural numbers to the nearest double, a half
going to the even neighbour, is the one inexact operation; every other result is made from it.
-/

import ProgramSearch.Numeral

namespace ProgramSearch

/-- A double precision number: its sign and the exponent and fraction fields of its word. -/
structure Binary64 where
  /-- The sign bit. -/
  negative : Bool
  /-- The exponent field and the fraction field, read as one number. -/
  code : Nat
  deriving DecidableEq, Repr, Inhabited

namespace Binary64

/-- The number of codes that share one exponent. -/
def binade : Nat := Nat.pow 2 52

/-- The code of infinity; greater codes are no numbers. -/
def infinityCode : Nat := 2047 * binade

/-- Positive zero. -/
def zero : Binary64 := ⟨false, 0⟩

/-- The number one, whose exponent field is 1023. -/
def one : Binary64 := ⟨false, 1023 * binade⟩

/-- Infinity with the given sign. -/
def infinity (negative : Bool) : Binary64 := ⟨negative, infinityCode⟩

/-- The code that stands for "no number". -/
def nan : Binary64 := ⟨false, infinityCode + binade / 2⟩

/-- Whether the code stands for no number. -/
def isNaN (x : Binary64) : Bool := x.code > infinityCode

/-! ## Decoding -/

/-- The significand of a finite number; its hidden bit is set unless the exponent field is zero. -/
def significand (x : Binary64) : Nat :=
  if x.code < binade then x.code else binade + x.code % binade

/-- The power of two that the significand of a finite number is multiplied with. -/
def exponent (x : Binary64) : Int :=
  (max (x.code / binade) 1 : Nat) - 1075

/-- Numerator and denominator of the magnitude of a finite number. -/
def ratio (x : Binary64) : Nat × Nat :=
  if x.exponent < 0 then (x.significand, Nat.pow 2 (-x.exponent).toNat)
  else (x.significand * Nat.pow 2 x.exponent.toNat, 1)

/-! ## Rounding a quotient -/

/-- The greatest `e` with `2 ^ e ≤ num / den`, for positive numbers. -/
def log2Floor (num den : Nat) : Int :=
  let guess : Int := (num.log2 : Int) - den.log2
  let reached :=
    if guess < 0 then den ≤ num * Nat.pow 2 (-guess).toNat else den * Nat.pow 2 guess.toNat ≤ num
  if reached then guess else guess - 1

/-- The code of the double nearest to a quotient of natural numbers. The last place is worth
`2 ^ e`; a significand that rounds up to the next power of two carries into the exponent field
by itself, and codes from `infinityCode` on overflow to infinity. -/
def nearestCode (num den : Nat) : Nat :=
  if num = 0 then 0 else
    let e := max (log2Floor num den - 52) (-1074)
    let q :=
      if e < 0 then Decimal.roundHalfEven (num * Nat.pow 2 (-e).toNat) den
      else Decimal.roundHalfEven num (den * Nat.pow 2 e.toNat)
    min infinityCode ((e + 1074).toNat * binade + q)

/-- The double nearest to a quotient of natural numbers. -/
def ofRatio (num den : Nat) : Binary64 := ⟨false, nearestCode num den⟩

/-- The double nearest to a natural number. -/
def ofNat (n : Nat) : Binary64 := ofRatio n 1

/-- The double nearest to `digits * 10 ^ exponent`. Exponents far outside the range of a double are
answered without forming the power of ten. -/
def ofDecimal (digits : Nat) (exponent : Int) : Binary64 :=
  if digits = 0 then zero
  else if exponent > 400 then infinity false
  else if exponent + (digits.log2 + 1 : Nat) < -400 then zero
  else if exponent < 0 then ofRatio digits (Nat.pow 10 (-exponent).toNat)
  else ofRatio (digits * Nat.pow 10 exponent.toNat) 1

/-! ## Arithmetic on numbers that are finite and not negative -/

/-- The sum, rounded once. -/
def add (x y : Binary64) : Binary64 :=
  let (a, b) := x.ratio
  let (c, d) := y.ratio
  ofRatio (a * d + c * b) (b * d)

/-- The quotient, rounded once; the divisor is not zero. -/
def div (x y : Binary64) : Binary64 :=
  let (a, b) := x.ratio
  let (c, d) := y.ratio
  ofRatio (a * d) (b * c)

/-! ## Order -/

/-- An integer that orders numbers as their values are ordered; the two zeros share it. -/
def rank (x : Binary64) : Int :=
  if x.negative then -(x.code : Int) else x.code

/-- An integer that orders all doubles totally: as their values are ordered, with negative zero
below positive zero. -/
def totalRank (x : Binary64) : Int :=
  if x.negative then -(x.code : Int) - 1 else x.code

/-- The lesser of two numbers; of two equal ones, such as the two zeros, the second. -/
def min (x y : Binary64) : Binary64 :=
  if x.rank < y.rank then x else y

/-- Whether a double is a number between zero and one; negative zero is. -/
def isProbability (x : Binary64) : Bool :=
  !x.isNaN && 0 ≤ x.rank && x.rank ≤ one.rank

end Binary64

end ProgramSearch

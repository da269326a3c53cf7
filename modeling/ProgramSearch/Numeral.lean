/-
# ProgramSearch.Numeral -- numbers in digits

Whole numbers are read from ASCII digits, one at least, after an optional sign; leading zeros are
allowed and nothing else is, and a number outside the range that is asked for is refused. Quotients
of natural numbers are written as decimals: they are rounded to a whole number, and this is written
with a fixed number of places.
-/

namespace ProgramSearch

/-! ## Reading -/

namespace Numeral

/-- The value of a run of decimal digits. -/
def value (digits : List Char) : Nat :=
  digits.foldl (fun n c => 10 * n + (c.toNat - '0'.toNat)) 0

/-- A number without sign. -/
def nat? (cs : List Char) : Option Nat :=
  if !cs.isEmpty && cs.all Char.isDigit then some (value cs) else none

/-- A number below `bound` that is not negative; a plus sign may stand before it. -/
def unsigned? (bound : Nat) (cs : List Char) : Option Nat :=
  let digits := match cs with
    | '+' :: rest => rest
    | _ => cs
  (nat? digits).filter (· < bound)

/-- A number with an optional sign. -/
def int? : List Char → Option Int
  | '-' :: rest => (nat? rest).map fun n => -(n : Int)
  | '+' :: rest => (nat? rest).map fun n => (n : Int)
  | cs => (nat? cs).map fun n => (n : Int)

/-- A number with an optional sign in the range of words of `bits` bits. -/
def signed? (bits : Nat) (cs : List Char) : Option Int :=
  (int? cs).filter fun n => -(Nat.pow 2 (bits - 1) : Int) ≤ n && n < (Nat.pow 2 (bits - 1) : Int)

/-- A signed 32-bit number. -/
def int32? (cs : List Char) : Option Int32 := (signed? 32 cs).map Int32.ofInt

end Numeral

/-! ## Writing -/

namespace Decimal

/-- The whole number nearest to a quotient, a half going to the even neighbour. -/
def roundHalfEven (num den : Nat) : Nat :=
  let q := num / den
  let twice := 2 * (num % den)
  if twice > den || (twice == den && q % 2 == 1) then q + 1 else q

/-- A number written in digits with the point `places` digits before the end; with no places there
is no point. -/
def pointed (digits places : Nat) : String :=
  if places = 0 then toString digits
  else
    let cs := (toString digits).toList
    let padded := List.replicate (places + 1 - cs.length) '0' ++ cs
    let whole := padded.length - places
    String.ofList (padded.take whole ++ '.' :: padded.drop whole)

/-- A quotient written with a fixed number of places, a half going to the even neighbour. -/
def ofRatio (num den places : Nat) : String :=
  pointed (roundHalfEven (num * Nat.pow 10 places) den) places

end Decimal

end ProgramSearch

/-
# ProgramSearch.Binary64.Text -- doubles in decimal

A double is read from an optional sign and then either digits, with a point among or beside them and
an exponent after them if wanted, or one of the words for infinity and for no number, in any letter
case. The digits are read exactly and rounded once.

There are two written forms. The shortest form has the fewest digits that read back as the same
double, never an exponent, and no point when the number is whole. The form with fixed places rounds
the exact binary value, a half going to the even neighbour. Both are computed on natural numbers.
-/

import ProgramSearch.Binary64.Basic

namespace ProgramSearch

namespace Binary64

/-! ## Reading -/

/-- The exponent that ends a decimal; an absent one is zero. -/
def exponent? : List Char → Option Int
  | [] => some 0
  | c :: cs => if c = 'e' || c = 'E' then Numeral.int? cs else none

/-- Digits with an optional point, at least one digit in all, and an optional exponent. -/
def decimal? (cs : List Char) : Option Binary64 :=
  let (whole, rest) := cs.span Char.isDigit
  let (fraction, rest) := match rest with
    | '.' :: rest => rest.span Char.isDigit
    | _ => ([], rest)
  if whole.isEmpty && fraction.isEmpty then none
  else (exponent? rest).map fun e =>
    ofDecimal (Numeral.value (whole ++ fraction)) (e - fraction.length)

/-- A double without sign. -/
def magnitude? (cs : List Char) : Option Binary64 :=
  let word := String.ofList (cs.map Char.toLower)
  if word = "inf" || word = "infinity" then some (infinity false)
  else if word = "nan" then some nan
  else decimal? cs

/-- The double that a text denotes, if it denotes one. -/
def ofText? : List Char → Option Binary64
  | '-' :: cs => (magnitude? cs).map fun x => ⟨true, x.code⟩
  | '+' :: cs => magnitude? cs
  | cs => magnitude? cs

/-! ## Writing -/

/-- The sign that a negative number is written with, negative zero included. -/
def signText (x : Binary64) : String := if x.negative then "-" else ""

/-- The decimal `d * 10 ^ k` on the grid of step `10 ^ k` that reads back as the finite positive
double `x` and lies nearest to it, if the grid has one. Only the two neighbours of `x` on the grid
can be nearest, and of two that are equally near the greater is taken. The doubles' own tie rule
makes the ends of the interval count exactly when the significand is even. All quantities are in
units of a quarter of the last place. -/
def decimalOnGrid? (x : Binary64) (k : Int) : Option Nat :=
  let m := x.significand
  let value := 4 * m
  let low := if m = binade && x.code ≥ 2 * binade then value - 1 else value - 2
  let high := value + 2
  let unit : Int := x.exponent - 2
  -- both sides are scaled so that a quarter place is `place` and a grid step is `step`
  let place :=
    (if unit < 0 then 1 else Nat.pow 2 unit.toNat) * (if k < 0 then Nat.pow 10 (-k).toNat else 1)
  let step :=
    (if unit < 0 then Nat.pow 2 (-unit).toNat else 1) * (if k < 0 then 1 else Nat.pow 10 k.toNat)
  let below := value * place / step
  let inside (d : Nat) : Bool :=
    if m % 2 = 0 then low * place ≤ d * step && d * step ≤ high * place
    else low * place < d * step && d * step < high * place
  let above := below + 1
  match inside below, inside above with
  | true, true =>
    let down := value * place - below * step
    let up := above * step - value * place
    some (if down < up then below else above)
  | true, false => some below
  | false, true => some above
  | false, false => none

/-- The shortest decimal `(d, k)`, meaning `d * 10 ^ k`, that reads back as the finite positive
double `x`: the coarsest grid that has one decides. Seventeen digits always suffice, so the search
runs over the twenty grids from above the number downwards. -/
def shortest (x : Binary64) : Nat × Int :=
  let log2 : Int := (x.significand.log2 : Int) + x.exponent
  let top : Int := Int.fdiv (log2 * 30103) 100000 + 2
  let onGrid (i : Nat) : Option (Nat × Int) :=
    (x.decimalOnGrid? (top - i)).map fun d => (d, top - i)
  ((List.range 20).findSome? onGrid).getD (0, 0)

/-- The fewest digits that read back as the same double, without exponent. -/
def text (x : Binary64) : String :=
  if x.isNaN then "NaN"
  else if x.code = infinityCode then x.signText ++ "inf"
  else if x.code = 0 then x.signText ++ "0"
  else
    let (d, k) := x.shortest
    x.signText ++
      (if k < 0 then Decimal.pointed d (-k).toNat else Decimal.pointed (d * Nat.pow 10 k.toNat) 0)

/-- A finite number with a fixed number of decimal places. -/
def fixed (x : Binary64) (places : Nat) : String :=
  let (num, den) := x.ratio
  x.signText ++ Decimal.ofRatio num den places

end Binary64

end ProgramSearch

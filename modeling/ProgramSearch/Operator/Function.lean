/-
# ProgramSearch.Operator.Function -- the functions operators are made of

Functions of one integer, tests on an integer and functions of two integers. Operators apply them
to single integers or lift them over arrays. Arithmetic is that of signed 32-bit words: it wraps,
and division drops the fraction. Each function has the name it lends to operator names and the
component it counts as in a prior.
-/

namespace ProgramSearch

/-! ## Functions of one integer -/

/-- The functions from integers to integers. -/
inductive UnaryFn where
  | increment
  | decrement
  | mult2
  | div2
  | negate
  | sqr
  | mult3
  | div3
  | mult4
  | div4
  deriving DecidableEq, Repr

namespace UnaryFn

/-- All of them, in catalog order. -/
def all : List UnaryFn :=
  [increment, decrement, mult2, div2, negate, sqr, mult3, div3, mult4, div4]

/-- The function itself. -/
def apply : UnaryFn → Int32 → Int32
  | increment, x => x + 1
  | decrement, x => x - 1
  | mult2, x => x * 2
  | div2, x => x / 2
  | negate, x => -x
  | sqr, x => x * x
  | mult3, x => x * 3
  | div3, x => x / 3
  | mult4, x => x * 4
  | div4, x => x / 4

/-- The name in operator names. -/
def name : UnaryFn → String
  | increment => "increment"
  | decrement => "decrement"
  | mult2 => "mult2"
  | div2 => "div2"
  | negate => "negate"
  | sqr => "sqr"
  | mult3 => "mult3"
  | div3 => "div3"
  | mult4 => "mult4"
  | div4 => "div4"

/-- The name in priors. -/
def component : UnaryFn → String
  | increment => "INC"
  | decrement => "DEC"
  | mult2 => "SHL"
  | div2 => "SHR"
  | negate => "doNEG"
  | sqr => "SQR"
  | mult3 => "MUL3"
  | div3 => "DIV3"
  | mult4 => "MUL4"
  | div4 => "DIV4"

end UnaryFn

/-! ## Tests -/

/-- The tests on an integer. -/
inductive Predicate where
  | isPos
  | isNeg
  | isEven
  | isOdd
  deriving DecidableEq, Repr

namespace Predicate

/-- All of them, in catalog order. -/
def all : List Predicate := [isPos, isNeg, isEven, isOdd]

/-- The test itself. -/
def test : Predicate → Int32 → Bool
  | isPos, x => 0 < x
  | isNeg, x => x < 0
  | isEven, x => x % 2 == 0
  | isOdd, x => x % 2 != 0

/-- The name in operator names. -/
def name : Predicate → String
  | isPos => "is_pos"
  | isNeg => "is_neg"
  | isEven => "is_even"
  | isOdd => "is_odd"

/-- The name in priors. -/
def component : Predicate → String
  | isPos => "isPOS"
  | isNeg => "isNEG"
  | isEven => "isEVEN"
  | isOdd => "isODD"

end Predicate

/-! ## Functions of two integers -/

/-- The functions from two integers to an integer. -/
inductive BinaryFn where
  | add
  | subtract
  | mult
  | max
  | min
  deriving DecidableEq, Repr

namespace BinaryFn

/-- All of them, in catalog order. -/
def all : List BinaryFn := [add, subtract, mult, max, min]

/-- The function itself. -/
def apply : BinaryFn → Int32 → Int32 → Int32
  | add, x, y => x + y
  | subtract, x, y => x - y
  | mult, x, y => x * y
  | max, x, y => if x ≤ y then y else x
  | min, x, y => if x ≤ y then x else y

/-- The name in operator names. -/
def name : BinaryFn → String
  | add => "add"
  | subtract => "subtract"
  | mult => "mult"
  | max => "max"
  | min => "min"

/-- The name in priors. -/
def component : BinaryFn → String
  | add => "+"
  | subtract => "-"
  | mult => "*"
  | max => "MAX"
  | min => "MIN"

end BinaryFn

end ProgramSearch

/-
# ProgramSearch.Operator.Basic -- the operators of the list language

An operator takes one or two values and makes one. Its family says of which types: the family fixes
the signature, and with it the number of arguments. Operators are written by name, and split into
components that a prior gives probabilities to.
-/

import ProgramSearch.Operator.Function
import ProgramSearch.Value

namespace ProgramSearch

/-! ## Signatures -/

/-- One thing or two: the shape of an operator's arguments. -/
inductive Operands (α : Type) where
  | one (a : α)
  | two (a b : α)
  deriving DecidableEq, Repr

namespace Operands

/-- The arguments from left to right. -/
def toList {α : Type} : Operands α → List α
  | one a => [a]
  | two a b => [a, b]

/-- Arguments of the same shape, each made from one of these. -/
def map {α β : Type} (f : α → β) : Operands α → Operands β
  | one a => one (f a)
  | two a b => two (f a) (f b)

/-- The number of arguments. -/
def count {α : Type} : Operands α → Nat
  | one _ => 1
  | two _ _ => 2

theorem toList_map {α β : Type} (f : α → β) (operands : Operands α) :
    (operands.map f).toList = operands.toList.map f := by
  cases operands <;> rfl

theorem toList_inj {α : Type} {xs ys : Operands α} : xs.toList = ys.toList ↔ xs = ys := by
  cases xs <;> cases ys <;> simp [toList]

end Operands

/-- The types of an operator's arguments and of its result. -/
structure Signature where
  params : Operands Ty
  result : Ty
  deriving DecidableEq, Repr

/-- A signature as it is listed. -/
def Signature.text (signature : Signature) : String :=
  ", ".intercalate (signature.params.toList.map Ty.name) ++ " -> " ++ signature.result.name

/-! ## Families -/

/-- The families of operators with one signature. -/
inductive Family where
  | intToInt
  | arrayToInt
  | arrayToArray
  | intArrayToInt
  | intArrayToArray
  | arrayArrayToArray
  deriving DecidableEq, Repr

namespace Family

/-- The families in catalog order. -/
def all : List Family :=
  [intToInt, arrayToInt, arrayToArray, intArrayToInt, intArrayToArray, arrayArrayToArray]

/-- The signature of the operators in a family. -/
def signature : Family → Signature
  | intToInt => ⟨.one .int, .int⟩
  | arrayToInt => ⟨.one .array, .int⟩
  | arrayToArray => ⟨.one .array, .array⟩
  | intArrayToInt => ⟨.two .int .array, .int⟩
  | intArrayToArray => ⟨.two .int .array, .array⟩
  | arrayArrayToArray => ⟨.two .array .array, .array⟩

end Family

/-! ## Operators -/

/-- What `access` does with an offset outside the array. -/
inductive Bounds where
  /-- It is an error. -/
  | strict
  /-- The result is a value that stands for "nothing there". -/
  | sentinel
  deriving DecidableEq, Repr

/-- The operators. -/
inductive Operator where
  /-- A function of an integer. -/
  | scalar (f : UnaryFn)
  /-- The least element; of none, the greatest integer. -/
  | minimum
  /-- The greatest element; of none, the least integer. -/
  | maximum
  /-- The first element, or zero. -/
  | head
  /-- The last element, or zero. -/
  | last
  /-- The sum of the elements. -/
  | sum
  /-- The number of elements that pass a test. -/
  | count (p : Predicate)
  /-- A function of each element. -/
  | map (f : UnaryFn)
  /-- The elements that pass a test. -/
  | filter (p : Predicate)
  /-- The elements in ascending order. -/
  | sort
  /-- The elements from last to first. -/
  | reverse
  /-- The running results of folding the elements from the left. -/
  | scanl (f : BinaryFn)
  /-- The element at an offset. -/
  | access (bounds : Bounds)
  /-- The first so many elements. -/
  | take
  /-- All but the first so many elements. -/
  | drop
  /-- A function of each pair of elements at the same place. -/
  | zipWith (f : BinaryFn)
  deriving DecidableEq, Repr

namespace Operator

/-- The family an operator belongs to. -/
def family : Operator → Family
  | scalar _ => .intToInt
  | minimum | maximum | head | last | sum | count _ => .arrayToInt
  | map _ | filter _ | sort | reverse | scanl _ => .arrayToArray
  | access _ => .intArrayToInt
  | take | drop => .intArrayToArray
  | zipWith _ => .arrayArrayToArray

/-- The types an operator takes and makes. -/
def signature (op : Operator) : Signature := op.family.signature

/-- The number of arguments of an operator. -/
def arity (op : Operator) : Nat := op.signature.params.count

/-- The name of an operator in listings. -/
def name : Operator → String
  | scalar f => f.name
  | minimum => "arr_min"
  | maximum => "arr_max"
  | head => "arr_head"
  | last => "arr_last"
  | sum => "arr_sum"
  | count p => "count_" ++ p.name
  | map f => "map_" ++ f.name
  | filter p => "filter_" ++ p.name
  | sort => "sort"
  | reverse => "reverse"
  | scanl f => "scanl_" ++ f.name
  | access _ => "access"
  | take => "take"
  | drop => "drop"
  | zipWith f => "zipwith_" ++ f.name

/-- The components of an operator, to which a prior gives probabilities. -/
def components : Operator → List String
  | scalar f => [f.component]
  | minimum => ["MINIMUM"]
  | maximum => ["MAXIMUM"]
  | head => ["HEAD"]
  | last => ["LAST"]
  | sum => ["SUM"]
  | count p => ["COUNT", p.component]
  | map f => ["MAP", f.component]
  | filter p => ["FILTER", p.component]
  | sort => ["SORT"]
  | reverse => ["REVERSE"]
  | scanl f => ["SCANL", f.component]
  | access _ => ["ACCESS"]
  | take => ["TAKE"]
  | drop => ["DROP"]
  | zipWith f => ["ZIPWITH", f.component]

/-- The same operator, with the given rule for offsets if it is an access. -/
def withBounds (bounds : Bounds) : Operator → Operator
  | access _ => access bounds
  | op => op

end Operator

/-- The operators of a family, in catalog order. -/
def Family.operators : Family → List Operator
  | intToInt => UnaryFn.all.map .scalar
  | arrayToInt =>
    [.minimum, .maximum, .head, .last, .sum] ++ Predicate.all.map .count
  | arrayToArray =>
    UnaryFn.all.map .map ++ [Predicate.isPos, .isNeg, .isOdd, .isEven].map .filter ++
      [.sort, .reverse] ++ BinaryFn.all.map .scanl
  | intArrayToInt => [.access .strict]
  | intArrayToArray => [.take, .drop]
  | arrayArrayToArray => BinaryFn.all.map .zipWith

end ProgramSearch

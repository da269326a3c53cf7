/-
# ProgramSearch.Operator.Evaluate -- what operators compute

The meaning of an operator is a function of the type that its family has; only an access can fail.
Applying an operator to values checks their number, then their types from left to right, and then
calls that function, so the signature and the evaluation cannot disagree.

Registers are evaluated in place: the result is written into a slot that still holds some older
value. `Operator.evaluateInto_eq` says that nothing of the older value is left in the result, and
that a failure leaves it untouched.
-/

import ProgramSearch.Operator.Basic
import ProgramSearch.Value.Edit

namespace ProgramSearch

/-- The type of the functions that the operators of a family mean. -/
abbrev Family.Function : Family → Type
  | intToInt => Int32 → Int32
  | arrayToInt => List Int32 → Int32
  | arrayToArray => List Int32 → List Int32
  | intArrayToInt => Int32 → List Int32 → Except Error Int32
  | intArrayToArray => Int32 → List Int32 → List Int32
  | arrayArrayToArray => List Int32 → List Int32 → List Int32

/-- Calls a family's function on values of its parameter types. Values of other types are refused,
the leftmost first, and so is any other number of values. -/
def Family.call (refused : Error) :
    (family : Family) → family.Function → List Value → Except Error Value
  | intToInt, f, [n] => do return .int (f (← n.toInt))
  | arrayToInt, f, [a] => do return .int (f (← a.toArray))
  | arrayToArray, f, [a] => do return .array (f (← a.toArray))
  | intArrayToInt, f, [n, a] => do
    let n ← n.toInt
    let xs ← a.toArray
    return .int (← f n xs)
  | intArrayToArray, f, [n, a] => do
    let n ← n.toInt
    let xs ← a.toArray
    return .array (f n xs)
  | arrayArrayToArray, f, [a, b] => do
    let xs ← a.toArray
    let ys ← b.toArray
    return .array (f xs ys)
  | _, _, _ => throw refused

namespace Operator

/-- What an access outside the array gives where it is no error. -/
def nothingThere : Int32 := -1000000

/-- The element at an offset, which must not be negative nor reach past the end. -/
def element? (offset : Int32) (xs : List Int32) : Option Int32 :=
  if offset < 0 then none else xs[offset.toNatClampNeg]?

/-- The element at an offset, and outside the array what the rule for offsets says. -/
def accessWith : Bounds → Int32 → List Int32 → Except Error Int32
  | bounds, offset, xs =>
    match element? offset xs, bounds with
    | some x, _ => .ok x
    | none, .sentinel => .ok nothingThere
    | none, .strict => .error (.indexOutOfRange offset.toInt xs.length)

/-- The running results of a fold that has come to `acc`, which is the first of them. -/
def scanFrom (f : Int32 → Int32 → Int32) (acc : Int32) : List Int32 → List Int32
  | [] => [acc]
  | x :: xs => acc :: scanFrom f (f acc x) xs

/-- The running results of folding from the left, beginning with the first element. -/
def scan (f : Int32 → Int32 → Int32) : List Int32 → List Int32
  | [] => []
  | x :: xs => scanFrom f x xs

/-- The function that an operator means. -/
def function : (op : Operator) → op.family.Function
  | scalar f => f.apply
  | minimum => fun xs => xs.foldl BinaryFn.min.apply Int32.maxValue
  | maximum => fun xs => xs.foldl BinaryFn.max.apply Int32.minValue
  | head => fun xs => xs.headD 0
  | last => fun xs => xs.getLastD 0
  | sum => fun xs => xs.foldl (· + ·) 0
  | count p => fun xs => Int32.ofNat (xs.countP p.test)
  | map f => fun xs => xs.map f.apply
  | filter p => fun xs => xs.filter p.test
  | sort => fun xs => xs.mergeSort fun x y => x ≤ y
  | reverse => fun xs => xs.reverse
  | scanl f => scan f.apply
  | access bounds => accessWith bounds
  | take => fun n xs => xs.take n.toNatClampNeg
  | drop => fun n xs => if n < 0 then [] else xs.drop n.toNatClampNeg
  | zipWith f => fun xs ys => List.zipWith f.apply xs ys

/-- The error of an operator that is given a wrong number of arguments. -/
def arityError (op : Operator) (given : Nat) : Error :=
  .violation (.arity op.name op.arity given)

/-- The value of an operator on arguments. -/
def evaluate (op : Operator) (args : List Value) : Except Error Value :=
  op.family.call (op.arityError args.length) op.function args

end Operator

/-! ## Evaluating in place -/

/-- Work on the value of a slot. It can be refused on the way, and what it has written by then
stays. -/
abbrev InSlot (α : Type) : Type := ExceptT Error (StateM Value) α

namespace InSlot

/-- Changes the value of the slot; a change that is refused leaves it. -/
def edit (change : Value.Edit) : InSlot Unit := fun slot =>
  match slot.edit change with
  | .ok v => (.ok (), v)
  | .error e => (.error e, slot)

/-- Makes an array of the slot: whatever it held is dropped, and then it is filled. -/
def fill (xs : List Int32) : InSlot Unit := do
  edit (.array [])
  edit (.append xs)

end InSlot

/-- Calls a family's function and writes what it gives into the slot. Values are refused before
anything is written. -/
def Family.callInto (refused : Error) :
    (family : Family) → family.Function → List Value → InSlot Unit
  | intToInt, f, [n] => do InSlot.edit (.int (f (← n.toInt)))
  | arrayToInt, f, [a] => do InSlot.edit (.int (f (← a.toArray)))
  | arrayToArray, f, [a] => do InSlot.fill (f (← a.toArray))
  | intArrayToInt, f, [n, a] => do
    let n ← n.toInt
    let xs ← a.toArray
    InSlot.edit (.int (← f n xs))
  | intArrayToArray, f, [n, a] => do
    let n ← n.toInt
    let xs ← a.toArray
    InSlot.fill (f n xs)
  | arrayArrayToArray, f, [a, b] => do
    let xs ← a.toArray
    let ys ← b.toArray
    InSlot.fill (f xs ys)
  | _, _, _ => throw refused

/-- Calling in place comes to what calling comes to, whatever the slot held; a failure leaves the
slot as it was. -/
theorem Family.run_callInto (refused : Error) (family : Family) (f : family.Function)
    (args : List Value) (slot : Value) :
    (family.callInto refused f args).run slot =
      match family.call refused f args with
      | .ok v => (.ok (), v)
      | .error e => (.error e, slot) := by
  fun_cases Family.callInto refused family f args with
  | case1 f n => cases n <;> rfl
  | case2 f a | case3 f a => cases a <;> rfl
  | case4 f n a =>
    cases n with
    | array xs => rfl
    | int n =>
      cases a with
      | int m => rfl
      | array xs =>
        -- here the function itself can fail, with its arguments read and nothing written
        have hread : (callInto refused .intArrayToInt f [.int n, .array xs]).run slot =
            ((liftM (f n xs) : InSlot Int32) >>= fun m => InSlot.edit (.int m)).run slot := rfl
        have hcall : call refused .intArrayToInt f [.int n, .array xs] =
            f n xs >>= fun m => .ok (.int m) := rfl
        rw [hcall]
        refine hread.trans ?_
        cases f n xs <;> rfl
  | case5 f n a => cases n <;> cases a <;> rfl
  | case6 f a b => cases a <;> cases b <;> rfl
  | case7 family f args =>
    -- a wrong number of values
    simp (disch := assumption) only [call]
    rfl

namespace Operator

/-- Evaluates an operator into a slot that holds some value. -/
def evaluateInto (op : Operator) (args : List Value) (slot : Value) : Except Error Unit × Value :=
  (op.family.callInto (op.arityError args.length) op.function args).run slot

/-- The result takes the place of what the slot held, and a failure leaves it. -/
theorem evaluateInto_eq (op : Operator) (args : List Value) (slot : Value) :
    op.evaluateInto args slot =
      match op.evaluate args with
      | .ok v => (.ok (), v)
      | .error e => (.error e, slot) :=
  Family.run_callInto _ _ _ _ _

end Operator

end ProgramSearch

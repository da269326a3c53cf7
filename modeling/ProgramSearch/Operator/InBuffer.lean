/-
# ProgramSearch.Operator.InBuffer -- how operators write into storage

Evaluated in place, an operator finds in its buffer whatever an earlier one has left there: a value
of either type, in any number of cells. It reads its arguments first, each at its own point, and a
reading can be refused. Then it writes. An integer is one write. Most arrays are made by a loop over
the argument that puts one cell behind the other, in a buffer that has been cleared before; a part
of the argument is copied as it is; and sorting and reversing copy all of it and then move the cells
about where they lie. Every operator has to clear the buffer and to set its type by itself, at some
point of its own. That nothing of the older value gets into the result is for the theory to say.
-/

import ProgramSearch.Buffer
import ProgramSearch.Operator.Evaluate

namespace ProgramSearch

/-- Work on a buffer. It can be refused on the way, and what it has written by then stays. -/
abbrev InBuffer (α : Type) : Type := ExceptT Error (StateM Buffer) α

namespace InBuffer

/-! ## Single writes -/

/-- An edit in place. -/
def edit (e : Value.Edit) : InBuffer Unit := fun b => b.edit e

/-- Makes an empty array of the buffer and hands out its cells. -/
def clear : InBuffer Unit := edit (.array [])

/-- Puts an integer behind the cells that are there, without looking at the type. -/
def push (n : Int32) : InBuffer Unit := fun b => (.ok (), { b with cells := b.cells ++ [n] })

/-- Moves the cells of an array about where they are. -/
def rearrange (f : List Int32 → List Int32) : InBuffer Unit := fun b =>
  b.change fun cells => .ok (f cells)

/-! ## Loops -/

/-- Pushes the running results of a fold, as each element brings the next one. -/
def pushScan (f : Int32 → Int32 → Int32) (running : Int32) : List Int32 → InBuffer Unit
  | [] => pure ()
  | x :: xs => do
    let running := f running x
    push running
    pushScan f running xs

/-- Pushes the first element and then the running results of a fold that begins with it. -/
def scan (f : Int32 → Int32 → Int32) : List Int32 → InBuffer Unit
  | [] => pure ()
  | x :: xs => do
    push x
    pushScan f x xs

/-! ## Ways of writing a result -/

/-- Writes the integer that an array comes to. -/
def reduce (f : List Int32 → Int32) (a : Value) : InBuffer Unit := do
  let xs ← a.toArray
  edit (.int (f xs))

/-- Runs a loop over an array, once the buffer has been cleared. -/
def refill (loop : List Int32 → InBuffer Unit) (a : Value) : InBuffer Unit := do
  let xs ← a.toArray
  clear
  loop xs

/-- Copies an array and moves the elements of the copy about. -/
def copyAndRearrange (f : List Int32 → List Int32) (a : Value) : InBuffer Unit := do
  let xs ← a.toArray
  edit (.array xs)
  rearrange f

end InBuffer

namespace Operator

open InBuffer

/-- Writes the result of an operator on one argument. -/
def writeOne (op : Operator) (a : Value) : InBuffer Unit :=
  match op with
  | scalar f => do
    let n ← a.toInt
    edit (.int (f.apply n))
  | minimum => reduce minimum.function a
  | maximum => reduce maximum.function a
  | head => reduce head.function a
  | last => reduce last.function a
  | sum => reduce sum.function a
  | count p => reduce (count p).function a
  | map f => refill (fun xs => xs.forM fun x => push (f.apply x)) a
  | filter p => refill (fun xs => xs.forM fun x => if p.test x then push x else pure ()) a
  | scanl f => refill (InBuffer.scan f.apply) a
  | sort => copyAndRearrange sort.function a
  | reverse => copyAndRearrange reverse.function a
  | access _ | take | drop | zipWith _ => throw (op.arityError 1)

/-- Writes the result of an operator on two arguments. -/
def writeTwo (op : Operator) (a b : Value) : InBuffer Unit :=
  match op with
  | access bounds => do
    let offset ← a.toInt
    let xs ← b.toArray
    let x ← accessWith bounds offset xs
    edit (.int x)
  | take => do
    let n ← a.toInt
    let xs ← b.toArray
    edit (.array (xs.take (min n.toNatClampNeg xs.length)))
  | drop => do
    let n ← a.toInt
    let xs ← b.toArray
    -- nothing to copy is not copied
    if 0 ≤ n ∧ n.toNatClampNeg < xs.length then edit (.array (xs.drop n.toNatClampNeg)) else clear
  | zipWith f => do
    let xs ← a.toArray
    let ys ← b.toArray
    clear
    (xs.zip ys).forM fun (x, y) => push (f.apply x y)
  | _ => throw (op.arityError 2)

end Operator

/-! ## Calls -/

/-- A call of an operator on one value or two. -/
structure Call where
  op : Operator
  args : Operands Value
  deriving DecidableEq, Repr

namespace Call

/-- The value of a call. -/
def value (call : Call) : Except Error Value := call.op.evaluate call.args.toList

/-- Writes the result of a call into a buffer. -/
def write (call : Call) : InBuffer Unit :=
  match call.args with
  | .one a => call.op.writeOne a
  | .two a b => call.op.writeTwo a b

/-- A call that writes into a slot, and what the slot holds then. -/
def inSlot (slot : Value) (call : Call) : Except Error Unit × Value :=
  call.op.evaluateInto call.args.toList slot

/-- A call that writes into a buffer, and what the buffer holds then. -/
def inBuffer (b : Buffer) (call : Call) : Except Error Unit × Buffer := call.write.run b

end Call

end ProgramSearch

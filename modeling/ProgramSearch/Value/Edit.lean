/-
# ProgramSearch.Value.Edit -- reading and editing values

Reading a value at the other type is an error. An edit turns a value into another one, or is refused
and leaves it to the caller as it was.
-/

import ProgramSearch.Error

namespace ProgramSearch.Value

/-! ## Reading -/

/-- The integer that a value is. -/
def toInt : Value → Except Error Int32
  | int n => .ok n
  | array _ => .error (.typeMismatch .int .array)

/-- The array that a value is. -/
def toArray : Value → Except Error (List Int32)
  | array xs => .ok xs
  | int _ => .error (.typeMismatch .array .int)

/-- The length of an array value. -/
def length (v : Value) : Except Error Nat := do
  return (← v.toArray).length

/-- Whether an array value has no elements. -/
def isEmpty (v : Value) : Except Error Bool := do
  return (← v.length) == 0

/-- An element of an array value. -/
def get (v : Value) (index : Nat) : Except Error Int32 := do
  let xs ← v.toArray
  match xs[index]? with
  | some x => return x
  | none => throw (.pastEnd index xs.length)

/-! ## Editing -/

/-- The value with the same integers at the given type. An array that becomes an integer keeps its
first element, and an empty one becomes zero. -/
def retype : Ty → Value → Value
  | .int, v => int (v.elements.headD 0)
  | .array, v => array v.elements

/-- A change to a value. -/
inductive Edit where
  /-- Keep the integers and change the type. -/
  | retype (type : Ty)
  /-- Replace by an integer. -/
  | int (n : Int32)
  /-- Replace by an array. -/
  | array (xs : List Int32)
  /-- Put elements behind those of an array. -/
  | append (xs : List Int32)
  /-- Replace one element of an array. -/
  | set (index : Nat) (n : Int32)
  /-- Cut an array to a length, or fill it up with zeros. -/
  | resize (length : Nat)
  deriving DecidableEq, Repr

/-- The value after an edit; only edits of an array's elements can be refused. -/
def edit (v : Value) : Edit → Except Error Value
  | .retype type => return v.retype type
  | .int n => return int n
  | .array xs => return array xs
  | .append ys => do return array ((← v.toArray) ++ ys)
  | .set index n => do
    let xs ← v.toArray
    if index < xs.length then return array (xs.set index n)
    else throw (.pastEnd index xs.length)
  | .resize length => do
    let xs ← v.toArray
    return array (xs.take length ++ List.replicate (length - xs.length) 0)

end ProgramSearch.Value

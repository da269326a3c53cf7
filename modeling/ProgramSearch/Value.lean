/-
# ProgramSearch.Value -- values and their types

Every value the language computes with is one signed 32-bit integer or an array of them, and its
type says which. Types are written by name in the example tables, in signatures and in messages.
-/

namespace ProgramSearch

/-- The type of a value: one integer, or an array of integers. -/
inductive Ty where
  | int
  | array
  deriving DecidableEq, Repr, Inhabited

namespace Ty

/-- The name a type is written with. -/
def name : Ty → String
  | int => "Int"
  | array => "Array"

/-- The type with the given name; names are matched to the letter. -/
def ofName? (name : String) : Option Ty :=
  if name = "Int" then some int else if name = "Array" then some array else none

/-- The place of a type in a table with one entry per type. -/
def index : Ty → Nat
  | int => 0
  | array => 1

@[simp] theorem ofName?_name (t : Ty) : ofName? t.name = some t := by
  cases t <;> rfl

/-- A list of types as messages show it, in brackets and separated by commas. -/
def listText (types : List Ty) : String :=
  "[" ++ ", ".intercalate (types.map name) ++ "]"

end Ty

/-- One integer, or an array of integers. -/
inductive Value where
  | int (n : Int32)
  | array (xs : List Int32)
  deriving DecidableEq, Repr

namespace Value

/-- A fresh value is the integer zero. -/
instance : Inhabited Value := ⟨int 0⟩

/-- The type of a value. -/
def type : Value → Ty
  | int _ => .int
  | array _ => .array

/-- The integers that a value is made of. -/
def elements : Value → List Int32
  | int n => [n]
  | array xs => xs

/-- The text of a value: a number, or numbers in brackets with commas between. -/
def text : Value → String
  | int n => toString n.toInt
  | array xs => "[" ++ ", ".intercalate (xs.map fun x => toString x.toInt) ++ "]"

end Value

end ProgramSearch

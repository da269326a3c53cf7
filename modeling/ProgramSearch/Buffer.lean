/-
# ProgramSearch.Buffer -- values in cells of storage

A slot that is written over again and again keeps its storage: a type, and cells for the integers of
whatever value it holds. The type can be changed while the cells stay, and elements are put behind
those that are there. Nothing in the layout says that an integer has one cell. Reading an integer
takes the first cell without asking, so reads are given by what they find, and by nothing where
there is no cell to read. That edits in storage are the edits of values is for the theory to say.
-/

import ProgramSearch.Value.Edit

namespace ProgramSearch

/-- A type, and cells that hold integers. -/
structure Buffer where
  type : Ty
  cells : List Int32
  deriving DecidableEq, Repr

namespace Buffer

/-- The buffer that an integer is put into. -/
def int (n : Int32) : Buffer := ⟨.int, [n]⟩

/-- The buffer that an array is put into. -/
def array (xs : List Int32) : Buffer := ⟨.array, xs⟩

/-- A fresh buffer holds the integer zero. -/
instance : Inhabited Buffer := ⟨int 0⟩

/-! ## Editing -/

/-- Cells cut to a length, or filled up with zeros. -/
def resized (length : Nat) (cells : List Int32) : List Int32 :=
  cells.take length ++ List.replicate (length - cells.length) 0

/-- Writes to the cells of an array. For an integer this is refused, and so can the change be; then
nothing is written. -/
def change (b : Buffer) (f : List Int32 → Except Error (List Int32)) :
    Except Error Unit × Buffer :=
  match b.type with
  | .int => (.error (.typeMismatch .array .int), b)
  | .array => match f b.cells with
    | .ok cells => (.ok (), { b with cells })
    | .error e => (.error e, b)

/-- An edit in place. -/
def edit (b : Buffer) : Value.Edit → Except Error Unit × Buffer
  -- an integer is to have one cell, whatever there was before
  | .retype .int => (.ok (), ⟨.int, resized 1 b.cells⟩)
  | .retype .array => (.ok (), { b with type := .array })
  | .int n => (.ok (), int n)
  | .array xs => (.ok (), array xs)
  | .append ys => b.change fun cells => .ok (cells ++ ys)
  | .set index n => b.change fun cells =>
    if index < cells.length then .ok (cells.set index n)
    else .error (.pastEnd index cells.length)
  | .resize length => b.change fun cells => .ok (resized length cells)

/-! ## Reading -/

/-- The integer in the first cell; none where there is no cell to read. -/
def toInt? (b : Buffer) : Option (Except Error Int32) :=
  match b.type with
  | .int => b.cells.head?.map .ok
  | .array => some (.error (.typeMismatch .int .array))

/-- Whether two buffers hold the same. Integers are compared by their first cells. -/
def same? (b c : Buffer) : Option Bool :=
  match b.type, c.type with
  | .int, .int => do
    let m ← b.cells.head?
    let n ← c.cells.head?
    return m = n
  | .array, .array => some (b.cells = c.cells)
  | _, _ => some false

/-- The text of what a buffer holds. -/
def text? (b : Buffer) : Option String :=
  match b.type with
  | .int => b.cells.head?.map fun n => toString n.toInt
  | .array => some ("[" ++ ", ".intercalate (b.cells.map fun x => toString x.toInt) ++ "]")

end Buffer

end ProgramSearch

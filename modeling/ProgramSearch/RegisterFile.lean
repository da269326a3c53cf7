/-
# ProgramSearch.RegisterFile -- the registers of one run

A register file holds the inputs of a run and, above them, the result of every instruction applied
so far. Undoing an instruction hides its result but keeps the slot, so that the next instruction at
that depth has its storage at hand: the slots above the visible registers are the retained ones, the
lowest first, and what they still hold is never read.
-/

import ProgramSearch.Instruction
import ProgramSearch.Operator.Evaluate

namespace ProgramSearch

/-- The registers of one run. -/
structure RegisterFile where
  /-- The inputs, which never change. -/
  inputs : List Value
  /-- The results of the applied instructions, the newest first. -/
  results : List Value
  /-- The slots above the visible registers, the lowest first. -/
  retained : List Value
  deriving DecidableEq, Repr

namespace RegisterFile

/-- The registers at the start of a run. -/
def ofInputs (inputs : List Value) : RegisterFile := ⟨inputs, [], []⟩

/-! ## Reading -/

/-- The registers that instructions can read: the inputs and the results, oldest first. -/
def visible (regs : RegisterFile) : List Value := regs.inputs ++ regs.results.reverse

/-- The number of visible registers. -/
def used (regs : RegisterFile) : Nat := regs.inputs.length + regs.results.length

/-- The number of instructions applied. -/
def depth (regs : RegisterFile) : Nat := regs.results.length

/-- The number of slots, the retained ones included. -/
def allocated (regs : RegisterFile) : Nat := regs.used + regs.retained.length

/-- The types of the visible registers. -/
def types (regs : RegisterFile) : List Ty := regs.visible.map Value.type

/-- The number of visible registers of a type. -/
def countType (regs : RegisterFile) (type : Ty) : Nat := regs.types.count type

/-- The newest visible register. -/
def newest? (regs : RegisterFile) : Option Value :=
  match regs.results with
  | v :: _ => some v
  | [] => regs.inputs.getLast?

/-- The value of a visible register. -/
def get (regs : RegisterFile) (index : Nat) : Except Error Value :=
  match regs.visible[index]? with
  | some v => .ok v
  | none => .error (.pastEnd index regs.used)

/-- One line for each visible register. -/
def text (regs : RegisterFile) : String :=
  String.join (regs.visible.zipIdx.map fun (v, i) =>
    "  Register " ++ toString i ++ ": " ++ v.type.name ++ " " ++ v.text ++ "\n")

/-! ## Applying and undoing -/

/-- The slot for the next result and the retained slots above it. With none retained it is a new
one, which holds a fresh value. -/
def nextSlot (regs : RegisterFile) : Value × List Value :=
  match regs.retained with
  | slot :: above => (slot, above)
  | [] => (default, [])

/-- Applies an instruction: its operands must be visible, and the operator is evaluated into the
slot for the next result. When the operator fails the slot stays among the retained ones. -/
def apply (regs : RegisterFile) (ins : Instruction) : Except Error Unit × RegisterFile :=
  match ins.operands.toList.mapM regs.get with
  | .error e => (.error e, regs)
  | .ok args =>
    let (slot, above) := regs.nextSlot
    match ins.op.evaluateInto args slot with
    | (.error e, slot) => (.error e, { regs with retained := slot :: above })
    | (.ok (), result) =>
      (.ok (), { regs with results := result :: regs.results, retained := above })

/-- Hides the newest result; its slot is retained. The inputs cannot be undone. -/
def undo (regs : RegisterFile) : Except Error Unit × RegisterFile :=
  match regs.results with
  | [] => (.error (.violation (.nothingToUndo regs.inputs.length regs.used)), regs)
  | v :: results => (.ok (), { regs with results, retained := v :: regs.retained })

/-- Hides every result. -/
def reset (regs : RegisterFile) : RegisterFile :=
  { regs with results := [], retained := regs.results.reverse ++ regs.retained }

end RegisterFile

end ProgramSearch

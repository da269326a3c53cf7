/-
# ProgramSearch.SlotRow -- registers in one row of slots

How the registers of a run lie in storage: in one row of slots, with two marks in it. Below the
first mark are the inputs, below the second all visible registers; what is above is left from
results that have been taken away. A result is written at the second mark, and the row is lengthened
for it if no slot is there. This comes before the operator is evaluated, so a call that fails can
lengthen the row as well. Taking results away moves the mark and nothing else. Nothing in the layout
keeps the marks in their order or inside the row: a row that is read where it has no slot comes to
no answer, and that this does not happen is for the theory to say.
-/

import ProgramSearch.Stack

namespace ProgramSearch

/-- Slots, and how many of them hold inputs and visible registers. -/
structure SlotRow where
  slots : List Value
  inputs : Nat
  used : Nat
  deriving DecidableEq, Repr

namespace SlotRow

/-- The row at the start of a run. -/
def ofInputs (inputs : List Value) : SlotRow := ⟨inputs, inputs.length, inputs.length⟩

/-- The row with a slot for the next result: a fresh one, if all are in use. -/
def grown (row : SlotRow) : SlotRow :=
  if row.used = row.slots.length then { row with slots := row.slots ++ [default] } else row

/-- The value of a register, read below the second mark. -/
def read? (row : SlotRow) (register : Nat) : Option Value := (row.slots.take row.used)[register]?

/-- Evaluates an operator from the slots of its operands, below the second mark, into the slot at
this mark, and moves the mark if there is a result. -/
def write? (row : SlotRow) (ins : Instruction) : Option (Except Error Unit × SlotRow) := do
  let args ← ins.operands.toList.mapM row.read?
  let slot ← row.slots[row.used]?
  let (answer, slot) := ins.op.evaluateInto args slot
  let row := { row with slots := row.slots.set row.used slot }
  match answer with
  | .ok () => return (.ok (), { row with used := row.used + 1 })
  | .error e => return (.error e, row)

/-- Applies an instruction: its operands are checked against the mark, then there is to be a slot
for the result, and then it is written. -/
def execute? (row : SlotRow) (ins : Instruction) : Option (Except Error Unit × SlotRow) :=
  match ins.operands.toList.find? (row.used ≤ ·) with
  | some r => some (.error (.pastEnd r row.used), row)
  | none => row.grown.write? ins

/-- Takes the newest result away. -/
def undo (row : SlotRow) : Except Error Unit × SlotRow :=
  if row.used ≤ row.inputs then (.error (.violation (.nothingToUndo row.inputs row.used)), row)
  else (.ok (), { row with used := row.used - 1 })

/-- Takes every result away. -/
def reset (row : SlotRow) : SlotRow := { row with used := row.inputs }

/-- An act on the registers in a row. -/
def act? (row : SlotRow) : Act → Option (Except Error Unit × SlotRow)
  | .apply ins => row.execute? ins
  | .undo => some row.undo
  | .reset => some (.ok (), row.reset)

/-- The answers to acts that are done one after the other, and the row that they lead to, as long as
no slot is missing. -/
def doAll? (row : SlotRow) : List Act → Option (List (Except Error Unit) × SlotRow)
  | [] => some ([], row)
  | act :: rest => do
    let (answer, row) ← row.act? act
    let (answers, row) ← row.doAll? rest
    return (answer :: answers, row)

end SlotRow

end ProgramSearch

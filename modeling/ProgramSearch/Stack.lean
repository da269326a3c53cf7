/-
# ProgramSearch.Stack -- registers as a plain stack

What a register file is meant to be: the inputs, and a stack of results on top of them. A result is
a value of its own, nothing is kept of what was taken away, and the inputs are the floor below which
nothing is. The register file, which keeps its slots and writes over them, has to give the same
answer to every act, and to show the same values after it.
-/

import ProgramSearch.RegisterFile
import ProgramSearch.Run

namespace ProgramSearch

/-! ## Acts -/

/-- What can be done with registers. -/
inductive Act where
  /-- Apply an instruction. -/
  | apply (ins : Instruction)
  /-- Take the newest result away. -/
  | undo
  /-- Take every result away. -/
  | reset
  deriving DecidableEq, Repr

/-- The answers to acts that are done one after the other, and what they lead to. An act that fails
does not keep the next ones from being done. -/
def Act.doAll {σ : Type} (step : σ → Act → Except Error Unit × σ) (s : σ) :
    List Act → List (Except Error Unit) × σ
  | [] => ([], s)
  | act :: rest =>
    let (answer, s) := step s act
    let (answers, s) := doAll step s rest
    (answer :: answers, s)

/-- An act on a register file. -/
def RegisterFile.act (regs : RegisterFile) : Act → Except Error Unit × RegisterFile
  | .apply ins => regs.apply ins
  | .undo => regs.undo
  | .reset => (.ok (), regs.reset)

/-! ## The stack -/

/-- A stack of values. -/
structure Stack where
  /-- The values, the lowest first. -/
  values : List Value
  /-- The number of values that are never taken away. -/
  floor : Nat
  deriving DecidableEq, Repr

namespace Stack

/-- The stack at the start of a run. -/
def ofInputs (inputs : List Value) : Stack := ⟨inputs, inputs.length⟩

/-- Puts the result of an instruction on top. Where there is none the stack stays. -/
def apply (stack : Stack) (ins : Instruction) : Except Error Unit × Stack :=
  match ins.run stack.values with
  | .ok v => (.ok (), { stack with values := stack.values ++ [v] })
  | .error e => (.error e, stack)

/-- Takes the value on top away, if it does not belong to the floor. -/
def undo (stack : Stack) : Except Error Unit × Stack :=
  if stack.values.length ≤ stack.floor then
    (.error (.violation (.nothingToUndo stack.floor stack.values.length)), stack)
  else (.ok (), { stack with values := stack.values.dropLast })

/-- Takes away all that is above the floor. -/
def reset (stack : Stack) : Stack := { stack with values := stack.values.take stack.floor }

/-- An act on a stack. -/
def act (stack : Stack) : Act → Except Error Unit × Stack
  | .apply ins => stack.apply ins
  | .undo => stack.undo
  | .reset => (.ok (), stack.reset)

end Stack

end ProgramSearch

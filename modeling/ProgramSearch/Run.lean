/-
# ProgramSearch.Run -- what programs compute

A program is run over a list of values: each instruction reads its operands from the list and puts
its result at the end. Nothing is undone and no storage is kept, so this is the meaning that the
register file of a search has to agree with. Beside it stands the typing of programs, which looks at
types alone and says which programs a search is to try.
-/

import ProgramSearch.Instruction
import ProgramSearch.Operator.Evaluate

namespace ProgramSearch

namespace Instruction

/-- The result of an instruction over registers that hold the given values. The first operand that
names no register is an error; otherwise the operator is evaluated on the values of its operands. -/
def run (registers : List Value) (ins : Instruction) : Except Error Value :=
  match ins.operands.toList.find? (registers.length ≤ ·) with
  | some r => .error (.pastEnd r registers.length)
  | none => ins.op.evaluate (ins.operands.toList.filterMap (registers[·]?))

end Instruction

namespace Program

/-- The registers after some instructions, run one after the other. -/
def runFrom (registers : List Value) : List Instruction → Except Error (List Value)
  | [] => .ok registers
  | ins :: rest =>
    match ins.run registers with
    | .error e => .error e
    | .ok v => runFrom (registers ++ [v]) rest

/-- The registers after some instructions, as far as types go. -/
def typesFrom (types : List Ty) (steps : List Instruction) : List Ty :=
  types ++ steps.map Instruction.resultType

/-- Each instruction is well typed over the registers there are when it runs. -/
inductive WellTyped : List Ty → List Instruction → Prop where
  | nil {types : List Ty} : WellTyped types []
  | cons {types : List Ty} {ins : Instruction} {rest : List Instruction} :
      ins.isWellTyped types = true → WellTyped (types ++ [ins.resultType]) rest →
      WellTyped types (ins :: rest)

/-- Run over the inputs, the instructions come to the target. -/
def Reproduces (steps : List Instruction) (inputs : List Value) (target : Value) : Prop :=
  ∃ registers, runFrom inputs steps = .ok registers ∧ registers.getLast? = some target

end Program

end ProgramSearch

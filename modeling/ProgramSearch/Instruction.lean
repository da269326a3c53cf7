/-
# ProgramSearch.Instruction -- the steps of straight-line programs

An instruction applies an operator to registers. A program is a list of instructions, run one after
the other over registers that hold the inputs first and then one result for each instruction; a
listing shows each instruction with the register that its result goes to.
-/

import ProgramSearch.Operator.Basic

namespace ProgramSearch

/-- An operator and the registers it is applied to. The registers may be any: whether they suit the
operator is for `isWellTyped` to say. -/
structure Instruction where
  op : Operator
  operands : Operands Nat
  deriving DecidableEq, Repr

namespace Instruction

/-- Whether there are as many operands as the operator takes and each register exists and has the
type the operator takes there. -/
def isWellTyped (types : List Ty) (ins : Instruction) : Bool :=
  ins.operands.map (types[·]?) = ins.op.signature.params.map some

/-- The type of the result. -/
def resultType (ins : Instruction) : Ty := ins.op.signature.result

/-- The operator's name and the registers, as in `take %0 %1`. -/
def text (ins : Instruction) : String :=
  ins.op.name ++ String.join (ins.operands.toList.map fun r => " %" ++ toString r)

/-- The same instruction, with the given rule for offsets if it is an access. -/
def withBounds (bounds : Bounds) (ins : Instruction) : Instruction :=
  { ins with op := ins.op.withBounds bounds }

end Instruction

/-- A straight-line program. -/
structure Program where
  /-- The number of registers that hold inputs. -/
  inputs : Nat
  /-- The instructions in the order they run. -/
  steps : List Instruction
  deriving DecidableEq, Repr

namespace Program

/-- The lines of a listing whose first result goes to the given register. -/
def listFrom (register : Nat) : List Instruction → String
  | [] => ""
  | ins :: rest =>
    "  %" ++ toString register ++ " <- " ++ ins.text ++ "\n" ++ listFrom (register + 1) rest

/-- One line for each instruction, with the register that receives its result. -/
def text (program : Program) : String := listFrom program.inputs program.steps

end Program

end ProgramSearch

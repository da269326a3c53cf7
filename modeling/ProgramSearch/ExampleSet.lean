/-
# ProgramSearch.ExampleSet -- the examples a program must reproduce

An example is a register file and the value that a program should end with. A set of examples goes
through a search in lockstep: an instruction is applied to every example or, when one of them
refuses it, to none. All examples have the same input types, so that an instruction that suits the
registers of one suits those of all.
-/

import ProgramSearch.RegisterFile

namespace ProgramSearch

/-- A run under way and the value it should come to. -/
structure Example where
  registers : RegisterFile
  target : Value
  deriving DecidableEq, Repr

namespace Example

/-- Applies an instruction to every example, in order. When one refuses it the examples before are
undone, so each has the registers it had; an undo that fails would be the error instead. -/
def applyAll (ins : Instruction) : List Example → Except Error Unit × List Example
  | [] => (.ok (), [])
  | x :: xs =>
    match x.registers.apply ins with
    | (.error e, registers) => (.error e, { x with registers } :: xs)
    | (.ok (), registers) =>
      match applyAll ins xs with
      | (.ok (), xs) => (.ok (), { x with registers } :: xs)
      | (.error e, xs) =>
        match registers.undo with
        | (.ok (), registers) => (.error e, { x with registers } :: xs)
        | (.error failed, registers) => (.error failed, { x with registers } :: xs)

/-- Undoes the newest instruction of every example, in order, until one has none. -/
def undoAll : List Example → Except Error Unit × List Example
  | [] => (.ok (), [])
  | x :: xs =>
    match x.registers.undo with
    | (.error e, registers) => (.error e, { x with registers } :: xs)
    | (.ok (), registers) =>
      let (answer, xs) := undoAll xs
      (answer, { x with registers } :: xs)

/-- Whether the newest register holds the target. -/
def isSolved (x : Example) : Bool := x.registers.newest? = some x.target

end Example

/-- The examples of one problem. -/
structure ExampleSet where
  examples : List Example
  deriving DecidableEq, Repr

namespace ExampleSet

/-! ## Building -/

/-- The examples with the given registers and targets. There must be one target for each register
file and at least one of them; all register files must have the types and the number of inputs of
the first, and all targets the type of the first. -/
def ofStates (states : List RegisterFile) (targets : List Value) : Except Error ExampleSet :=
  if states.length ≠ targets.length then
    throw (.violation (.unpairedTargets states.length targets.length))
  else match states, targets with
    | s :: _, t :: _ =>
      let differs (r : RegisterFile) : Bool :=
        r.types ≠ s.types || r.inputs.length ≠ s.inputs.length
      match states.zipIdx.find? (differs ·.1), targets.zipIdx.find? (·.1.type ≠ t.type) with
      | some (r, i), _ => throw (.violation (.exampleTypes i r.types s.types))
      | none, some (u, i) => throw (.violation (.targetType i u.type t.type))
      | none, none => return ⟨List.zipWith Example.mk states targets⟩
    | _, _ => throw (.violation .noExamples)

/-- The examples with the given inputs and targets. -/
def ofPairs (pairs : List (List Value × Value)) : Except Error ExampleSet :=
  ofStates (pairs.map fun (inputs, _) => .ofInputs inputs) (pairs.map (·.2))

/-! ## Reading -/

/-- The registers of the first example. -/
def leader (s : ExampleSet) : RegisterFile :=
  match s.examples with
  | x :: _ => x.registers
  | [] => .ofInputs []

/-- The types of the visible registers, the same in every example. -/
def types (s : ExampleSet) : List Ty := s.leader.types

/-- The number of inputs, the same in every example. -/
def inputCount (s : ExampleSet) : Nat := s.leader.inputs.length

/-- The number of instructions applied, the same in every example. -/
def depth (s : ExampleSet) : Nat := s.leader.depth

/-- The visible registers of each example. -/
def visible (s : ExampleSet) : List (List Value) := s.examples.map (·.registers.visible)

/-- The target of each example. -/
def targets (s : ExampleSet) : List Value := s.examples.map (·.target)

/-- One of the examples. -/
def get (s : ExampleSet) (index : Nat) : Except Error Example :=
  match s.examples[index]? with
  | some x => .ok x
  | none => .error (.pastEnd index s.examples.length)

/-- Whether every example has come to its target. -/
def isSolved (s : ExampleSet) : Bool := s.examples.all Example.isSolved

/-- The registers and the target of every example. -/
def text (s : ExampleSet) : String :=
  String.join (s.examples.zipIdx.map fun (x, i) =>
    "Example " ++ toString i ++ ":\n" ++ x.registers.text ++ "  Target: " ++ x.target.text ++ "\n")

/-! ## Applying and undoing -/

/-- Applies an instruction to every example, or to none. -/
def apply (s : ExampleSet) (ins : Instruction) : Except Error Unit × ExampleSet :=
  let (answer, examples) := Example.applyAll ins s.examples
  (answer, ⟨examples⟩)

/-- Undoes the newest instruction of every example. -/
def undo (s : ExampleSet) : Except Error Unit × ExampleSet :=
  let (answer, examples) := Example.undoAll s.examples
  (answer, ⟨examples⟩)

/-- Undoes every instruction of every example. -/
def reset (s : ExampleSet) : ExampleSet :=
  ⟨s.examples.map fun x => { x with registers := x.registers.reset }⟩

end ExampleSet

end ProgramSearch

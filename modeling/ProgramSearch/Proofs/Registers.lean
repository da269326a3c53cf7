/-
# ProgramSearch.Proofs.Registers -- a register file and the program it stands at

What a register file shows is decided by its inputs and by the instructions applied to it: applying
an instruction runs it over the visible registers, and undoing takes its result away. The slots that
are retained for later never show. The main notion is `RegisterFile.StandsAt`: the visible registers
are those that a run of some instructions over the inputs leaves.
-/

import ProgramSearch.RegisterFile
import ProgramSearch.Proofs.Typing

namespace ProgramSearch.RegisterFile

/-! ## What applying and undoing show -/

theorem used_eq_length (regs : RegisterFile) : regs.used = regs.visible.length := by
  simp [used, visible]

theorem length_types (regs : RegisterFile) :
    regs.types.length = regs.inputs.length + regs.results.length := by
  simp [types, visible]

@[simp] theorem visible_ofInputs (inputs : List Value) : (ofInputs inputs).visible = inputs := by
  simp [ofInputs, visible]

/-- The newest register is the last of the visible ones. -/
theorem newest?_eq_getLast? (regs : RegisterFile) : regs.newest? = regs.visible.getLast? := by
  unfold newest? visible
  split <;> simp [*]

/-- Reading operands fails at the first one that is not visible. -/
theorem mapM_get (regs : RegisterFile) (operands : List Nat) :
    operands.mapM regs.get =
      match operands.find? (regs.visible.length ≤ ·) with
      | some r => .error (.pastEnd r regs.visible.length)
      | none => .ok (operands.filterMap (regs.visible[·]?)) := by
  induction operands with
  | nil => rfl
  | cons r rest ih =>
    rw [List.mapM_cons, ih]
    by_cases hr : regs.visible.length ≤ r
    · simp [get, hr, used_eq_length, bind, Except.bind]
    · have hsome := List.getElem?_eq_getElem (Nat.lt_of_not_le hr)
      simp only [get, hsome, hr, List.find?_cons, decide_false, List.filterMap_cons, bind,
        Except.bind]
      cases rest.find? (regs.visible.length ≤ ·) <;> rfl

/-- Applying an instruction runs it over the visible registers; its result, if there is one, becomes
the newest register. Whatever happens to the retained slots, nothing else changes. -/
theorem apply_eq (regs : RegisterFile) (ins : Instruction) :
    ∃ retained, regs.apply ins =
      match ins.run regs.visible with
      | .ok v => (.ok (), ⟨regs.inputs, v :: regs.results, retained⟩)
      | .error e => (.error e, ⟨regs.inputs, regs.results, retained⟩) := by
  unfold apply Instruction.run
  rw [mapM_get]
  cases ins.operands.toList.find? (regs.visible.length ≤ ·) with
  | some r => exact ⟨regs.retained, rfl⟩
  | none =>
    simp only [Operator.evaluateInto_eq]
    cases ins.op.evaluate (ins.operands.toList.filterMap (regs.visible[·]?)) with
    | ok v => exact ⟨regs.nextSlot.2, rfl⟩
    | error e => exact ⟨regs.nextSlot.1 :: regs.nextSlot.2, rfl⟩

/-- An instruction is applied or refused as running it over the visible registers comes out. -/
theorem fst_apply (regs : RegisterFile) (ins : Instruction) :
    (regs.apply ins).1 = (ins.run regs.visible).map fun _ => () := by
  obtain ⟨retained, happly⟩ := regs.apply_eq ins
  rw [happly]
  cases ins.run regs.visible <;> rfl

/-- With a result on top, undoing takes it away and retains its slot. -/
theorem undo_of_results {regs : RegisterFile} {v : Value} {results : List Value}
    (h : regs.results = v :: results) :
    regs.undo = (.ok (), ⟨regs.inputs, results, v :: regs.retained⟩) := by
  simp [undo, h]

/-! ## Standing at a program -/

/-- The visible registers are what running the instructions over the inputs leaves. -/
def StandsAt (regs : RegisterFile) (steps : List Instruction) : Prop :=
  Program.runFrom regs.inputs steps = .ok regs.visible

theorem standsAt_nil {regs : RegisterFile} : regs.StandsAt [] ↔ regs.results = [] := by
  simp [StandsAt, Program.runFrom, visible]

/-- Where nothing has been applied, only the inputs are visible. -/
theorem StandsAt.visible_eq_inputs {regs : RegisterFile} (h : regs.StandsAt []) :
    regs.visible = regs.inputs := by
  rw [visible, standsAt_nil.1 h, List.reverse_nil, List.append_nil]

/-- There is one result for each instruction. -/
theorem StandsAt.length_results {regs : RegisterFile} {steps : List Instruction}
    (h : regs.StandsAt steps) : regs.results.length = steps.length := by
  have hlength := Program.runFrom_length h
  simp only [visible, List.length_append, List.length_reverse] at hlength
  omega

theorem StandsAt.types {regs : RegisterFile} {steps : List Instruction} (h : regs.StandsAt steps) :
    regs.types = Program.typesFrom (regs.inputs.map Value.type) steps :=
  Program.runFrom_types h

/-! ## Replaying a program -/

/-- Applies instructions one after the other, until one fails. -/
def replay (regs : RegisterFile) : List Instruction → Except Error Unit × RegisterFile
  | [] => (.ok (), regs)
  | ins :: rest =>
    match regs.apply ins with
    | (.ok (), regs) => regs.replay rest
    | (.error e, regs) => (.error e, regs)

/-- Replaying a program on a register file shows what running it over the visible registers
leaves. -/
theorem exists_replay_eq_ok {regs : RegisterFile} {steps : List Instruction}
    {registers : List Value} (h : Program.runFrom regs.visible steps = .ok registers) :
    ∃ regs', regs.replay steps = (.ok (), regs') ∧ regs'.visible = registers := by
  induction steps generalizing regs with
  | nil =>
    cases h
    exact ⟨regs, rfl, rfl⟩
  | cons ins rest ih =>
    obtain ⟨retained, happly⟩ := regs.apply_eq ins
    rw [Program.runFrom] at h
    split at h
    · cases h
    · rename_i v hrun
      simp only [hrun] at happly
      have hrest : Program.runFrom (visible ⟨regs.inputs, v :: regs.results, retained⟩) rest =
          .ok registers := by
        simpa [visible] using h
      obtain ⟨regs', hreplay, hvisible⟩ := ih hrest
      exact ⟨regs', by simp [replay, happly, hreplay], hvisible⟩

end ProgramSearch.RegisterFile

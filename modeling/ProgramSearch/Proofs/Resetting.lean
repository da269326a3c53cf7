/-
# ProgramSearch.Proofs.Resetting -- resetting goes back to the inputs

A register file knows its inputs and nothing else of how it began, so resetting takes away whatever
stands above them. For a set of examples this is more than was applied to it where the set is built
from register files that have results already: those results go as well, and the set does not come
back to what it showed at first. The main statement says what resetting leaves, whatever has been
done with the set, and that it is the start exactly if the register files were at depth 0.
-/

import ProgramSearch.Stack
import ProgramSearch.Proofs.Atomicity
import ProgramSearch.Proofs.Search.Restoration

namespace ProgramSearch

/-- A register file shows its inputs alone exactly at depth 0. -/
theorem RegisterFile.inputs_eq_visible_iff (regs : RegisterFile) :
    regs.inputs = regs.visible ↔ regs.depth = 0 := by
  simp [visible, depth]

namespace ExampleSet

variable {s : ExampleSet} {states : List RegisterFile} {targets : List Value}

/-! ## Acts on all examples -/

/-- An act on every example of a set. -/
def act (s : ExampleSet) : Act → Except Error Unit × ExampleSet
  | .apply ins => s.apply ins
  | .undo => s.undo
  | .reset => (.ok (), s.reset)

/-- A set after some acts, those that fail included. -/
def after (s : ExampleSet) (acts : List Act) : ExampleSet := (Act.doAll act s acts).2

theorem Lockstep.act (h : s.Lockstep) (a : Act) :
    (s.act a).2.Lockstep ∧ (s.act a).2.pairs = s.pairs := by
  cases a with
  | apply ins => exact ⟨h.apply ins, s.pairs_apply ins⟩
  | undo => exact ⟨h.undo, h.pairs_undo⟩
  | reset => exact ⟨h.reset, s.pairs_reset⟩

/-- No acts change the inputs and the targets. -/
theorem Lockstep.pairs_after (h : s.Lockstep) (acts : List Act) :
    (s.after acts).pairs = s.pairs := by
  induction acts generalizing s with
  | nil => rfl
  | cons a rest ih =>
    obtain ⟨hnext, hpairs⟩ := h.act a
    have hrest : ((s.act a).2.after rest).pairs = (s.act a).2.pairs := ih hnext
    exact hrest.trans hpairs

/-! ## What resetting leaves -/

/-- Of every example the inputs are left. -/
theorem visible_reset (s : ExampleSet) : s.reset.visible = s.examples.map (·.registers.inputs) :=
  s.standsAt_nil_reset.visible_eq_inputs.trans (inputs_of_pairs s.pairs_reset)

theorem Lockstep.visible_reset_after (h : s.Lockstep) (acts : List Act) :
    (s.after acts).reset.visible = s.examples.map (·.registers.inputs) :=
  (visible_reset _).trans (inputs_of_pairs (h.pairs_after acts))

/-! ## Where a set begins -/

/-- A set that is accepted has an example for every register file and its target. -/
theorem eq_zipWith_of_ofStates (h : ofStates states targets = .ok s) :
    states.length = targets.length ∧ s = ⟨List.zipWith Example.mk states targets⟩ := by
  unfold ofStates at h
  split at h
  · cases h
  · rename_i hlength
    refine ⟨Decidable.not_not.1 hlength, ?_⟩
    split at h
    · simp only at h
      -- neither a register file nor a target differs in type from the first
      split at h
      · cases h
      · cases h
      · exact (Except.ok.inj h).symm
    · cases h

/-- The register files of a set are those that it is built from. -/
theorem registers_of_ofStates (h : ofStates states targets = .ok s) :
    s.examples.map (·.registers) = states := by
  obtain ⟨hlength, rfl⟩ := eq_zipWith_of_ofStates h
  rw [← List.map_uncurry_zip_eq_zipWith, List.map_map]
  exact List.map_fst_zip (Nat.le_of_eq hlength)

/-- What a set shows at first, its register files show. -/
theorem visible_of_ofStates (h : ofStates states targets = .ok s) :
    s.visible = states.map RegisterFile.visible := by
  rw [← registers_of_ofStates h, List.map_map]
  rfl

/-! ## Resetting after all -/

/-- What resetting makes of a set that is built from some register files. -/
structure ResetsToInputs (states : List RegisterFile) (s : ExampleSet) : Prop where
  /-- At first every example shows what its register file does. -/
  start : s.visible = states.map RegisterFile.visible
  /-- Whatever is done with the set, resetting leaves the inputs of every register file. -/
  inputs : ∀ acts, (s.after acts).reset.visible = states.map RegisterFile.inputs
  /-- That is where the set began exactly if no instruction had been applied by then. -/
  start_iff : ∀ acts, (s.after acts).reset.visible = s.visible ↔ ∀ regs ∈ states, regs.depth = 0

/-- **Resetting leaves the inputs.** It goes behind the beginning of a set whose register files had
results by then. -/
theorem resetsToInputs_of_ofStates (h : ofStates states targets = .ok s) :
    s.ResetsToInputs states := by
  have hlockstep := lockstep_of_ofStates h
  have hinputs : ∀ acts, (s.after acts).reset.visible = states.map RegisterFile.inputs := by
    intro acts
    rw [hlockstep.visible_reset_after, ← registers_of_ofStates h, List.map_map]
    rfl
  refine ⟨visible_of_ofStates h, hinputs, ?_⟩
  intro acts
  rw [hinputs, visible_of_ofStates h, List.map_inj_left]
  exact forall₂_congr fun regs _ => regs.inputs_eq_visible_iff

/-- Registers that hold an array and, from an instruction applied to them, the same array from back
to front. -/
def reversedArray : RegisterFile :=
  ((RegisterFile.ofInputs [.array [3, 1, 2]]).apply ⟨.reverse, .one 0⟩).2

/-- An element is read, an instruction is refused, and then resetting takes the reversed array away
too. -/
theorem resetsToInputs_of_reversedArray :
    ∃ s, ofStates [reversedArray, reversedArray] [.int 2, .int 2] = .ok s ∧
      s.ResetsToInputs [reversedArray, reversedArray] ∧
      (s.after [.apply ⟨.head, .one 1⟩, .apply ⟨.access .strict, .two 2 5⟩]).reset.visible =
        [[.array [3, 1, 2]], [.array [3, 1, 2]]] := by
  obtain ⟨s, h⟩ : ∃ s, ofStates [reversedArray, reversedArray] [.int 2, .int 2] = .ok s :=
    ⟨_, rfl⟩
  have hresets := resetsToInputs_of_ofStates h
  exact ⟨s, h, hresets, hresets.inputs _⟩

/-- Resetting takes away what has been applied to a set since it was built, and nothing else. -/
def ResetsToStart (states : List RegisterFile) (targets : List Value) : Prop :=
  ∀ s, ofStates states targets = .ok s →
    ∀ applied : List Instruction, (s.after (applied.map .apply)).reset.visible = s.visible

/-- It also takes away what had been applied to the register files before. -/
theorem not_resetsToStart_of_reversedArray :
    ¬ ResetsToStart [reversedArray] [.array [2, 1, 3]] := by
  intro hstart
  have hreset := hstart _ rfl []
  have hlength := congrArg (List.map List.length) hreset
  -- one register is left in the only example, of the two that it began with
  exact absurd hlength (by decide)

end ExampleSet

end ProgramSearch

/-
# ProgramSearch.Proofs.Atomicity -- all examples of a set, or none

An instruction can suit some examples of a set and be refused by a later one, and an undo goes
through the examples one after the other and stops at the first that fails. Neither leaves a set
half-way: `ExampleSet.MovesTogether` says what each act does to the visible registers of all
examples, and the main statement is that a set moves together whatever its history.
-/

import ProgramSearch.Proofs.History

namespace ProgramSearch.ExampleSet

variable {s s' s'' : ExampleSet} {ins : Instruction}

/-! ## What the examples show -/

theorem visible_of_same (h : List.Forall₂ Example.Same s.examples s'.examples) :
    s'.visible = s.visible :=
  map_eq_map_of_forall₂ (fun _ _ hxy => hxy.visible) h

theorem visible_of_extends (h : List.Forall₂ (Example.Extends ins) s.examples s'.examples) :
    List.Forall₂ (fun before after => ∃ v, ins.run before = .ok v ∧ after = before ++ [v])
      s.visible s'.visible := by
  rw [visible, visible, List.forall₂_map_left_iff, List.forall₂_map_right_iff]
  exact h.imp fun x y hxy => hxy.visible

theorem visible_of_retracts (h : List.Forall₂ Example.Retracts s.examples s'.examples) :
    List.Forall₂ (fun before after => ∃ v, before = after ++ [v]) s.visible s'.visible := by
  rw [visible, visible, List.forall₂_map_left_iff, List.forall₂_map_right_iff]
  exact h.imp fun x y hxy => hxy.visible

/-- Taking away what was just put on top shows again what was below it. -/
theorem visible_of_extends_retracts
    (hext : List.Forall₂ (Example.Extends ins) s.examples s'.examples)
    (hret : List.Forall₂ Example.Retracts s'.examples s''.examples) :
    s''.visible = s.visible := by
  -- both show what the set in between does, less its newest registers
  have hafter : s''.visible = s'.examples.map (·.registers.visible.dropLast) := by
    refine map_eq_map_of_forall₂ (fun x y hxy => ?_) hret
    obtain ⟨v, hvisible⟩ := hxy.visible
    rw [hvisible, List.dropLast_concat]
  have hbefore : s'.examples.map (·.registers.visible.dropLast) = s.visible := by
    refine map_eq_map_of_forall₂ (fun x y hxy => ?_) hext
    obtain ⟨v, -, hvisible⟩ := hxy.visible
    rw [hvisible, List.dropLast_concat]
  rw [hafter, hbefore]

/-- Undoing does not fail where an instruction has been applied. -/
theorem undo_of_extends (hext : List.Forall₂ (Example.Extends ins) s.examples s'.examples) :
    s'.undo.1 = .ok () ∧ List.Forall₂ Example.Retracts s'.examples s'.undo.2.examples := by
  refine Example.undoAll_of_forall fun y hy => ?_
  obtain ⟨x, -, hxy⟩ := exists_mem_of_forall₂ hext hy
  obtain ⟨v, -, hresults⟩ := hxy.result
  rw [hresults]
  exact List.cons_ne_nil _ _

/-! ## What no act changes -/

theorem pairs_apply (s : ExampleSet) (ins : Instruction) : (s.apply ins).2.pairs = s.pairs := by
  rcases Example.applyAll_cases ins s.examples with ⟨-, hext⟩ | ⟨e, -, -, hsame⟩
  · exact Example.map_pair_eq (fun _ _ hxy => hxy.pair) hext
  · exact Example.map_pair_eq (fun _ _ hxy => hxy.pair) hsame

theorem Lockstep.pairs_undo (h : s.Lockstep) : s.undo.2.pairs = s.pairs := by
  rcases h.undo_cases with ⟨-, -, hret⟩ | ⟨-, e, hundo⟩
  · exact Example.map_pair_eq (fun _ _ hxy => hxy.pair) hret
  · rw [hundo]

theorem pairs_reset (s : ExampleSet) : s.reset.pairs = s.pairs := by
  rw [pairs, reset, List.map_map]
  rfl

/-! ## Moving together -/

/-- The examples of a set are alike, and what is done next is done with all of them or with none. -/
structure MovesTogether (s : ExampleSet) : Prop where
  /-- The examples differ neither in the number of inputs nor in depth nor in types. -/
  alike : ∀ x ∈ s.examples, ∀ y ∈ s.examples,
    y.registers.inputs.length = x.registers.inputs.length ∧
      y.registers.depth = x.registers.depth ∧ y.registers.types = x.registers.types
  /-- The inputs and the targets stay whatever is done. -/
  fixed : (∀ ins, (s.apply ins).2.pairs = s.pairs) ∧ s.undo.2.pairs = s.pairs ∧
    s.reset.pairs = s.pairs
  /-- An instruction that is applied puts its result on top in every example. -/
  applied : ∀ {ins : Instruction} {s' : ExampleSet}, s.apply ins = (.ok (), s') →
    List.Forall₂ (fun before after => ∃ v, ins.run before = .ok v ∧ after = before ++ [v])
      s.visible s'.visible
  /-- Undoing it does not fail and restores what every example showed. -/
  restored : ∀ {ins : Instruction} {s' : ExampleSet}, s.apply ins = (.ok (), s') →
    ∃ s'', s'.undo = (.ok (), s'') ∧ s''.visible = s.visible
  /-- An instruction is refused for the reason that the first example has to refuse it, and every
  example shows what it did. -/
  refused : ∀ {ins : Instruction} {e : Error} {s' : ExampleSet}, s.apply ins = (.error e, s') →
    s'.visible = s.visible ∧
    ∃ before x after, s.examples = before ++ x :: after ∧
      (∀ y ∈ before, (y.registers.apply ins).1 = .ok ()) ∧
      (x.registers.apply ins).1 = .error e
  /-- Undoing takes the newest register of every example away. -/
  undone : s.depth ≠ 0 → ∃ s', s.undo = (.ok (), s') ∧
    List.Forall₂ (fun before after => ∃ v, before = after ++ [v]) s.visible s'.visible
  /-- With nothing to undo it fails and changes nothing at all. -/
  stays : s.depth = 0 → ∃ e, s.undo = (.error e, s)

theorem Lockstep.alike_of_mem (h : s.Lockstep) {x y : Example} (hx : x ∈ s.examples)
    (hy : y ∈ s.examples) :
    y.registers.inputs.length = x.registers.inputs.length ∧
      y.registers.depth = x.registers.depth ∧ y.registers.types = x.registers.types := by
  refine ⟨?_, ?_, ?_⟩
  · rw [h.inputs y hy, h.inputs x hx]
  · rw [RegisterFile.depth, RegisterFile.depth, h.length_results hy, h.length_results hx]
  · rw [h.types y hy, h.types x hx]

/-- **The examples of a set move together.** It does not matter what the set has been through. -/
theorem movesTogether_of_reachable (hs : s.Reachable) : s.MovesTogether := by
  have h := hs.lockstep
  refine ⟨fun x hx y hy => h.alike_of_mem hx hy, ⟨s.pairs_apply, h.pairs_undo, s.pairs_reset⟩,
    ?_, ?_, ?_, ?_, ?_⟩
  · intro ins s' happly
    exact visible_of_extends (extends_of_apply happly)
  · intro ins s' happly
    have hext := extends_of_apply happly
    obtain ⟨hundo, hret⟩ := undo_of_extends hext
    exact ⟨s'.undo.2, Prod.ext hundo rfl, visible_of_extends_retracts hext hret⟩
  · intro ins e s' happly
    obtain ⟨hrefuse, hsame⟩ := refuse_of_apply happly
    exact ⟨visible_of_same hsame, hrefuse.exists_apply⟩
  · intro hdepth
    obtain ⟨-, hundo, hret⟩ := h.undo_cases.resolve_right fun hstays => hdepth hstays.1
    exact ⟨s.undo.2, Prod.ext hundo rfl, visible_of_retracts hret⟩
  · intro hdepth
    exact (h.undo_cases.resolve_left fun hundo => hundo.1 hdepth).2

/-- Three register files whose arrays have been reversed. -/
def reversedStates : List RegisterFile :=
  [[.int 1, .array [9, 7]], [.int 1, .array [4]], [.int 0, .array []]].map fun inputs =>
    ((RegisterFile.ofInputs inputs).apply ⟨.reverse, .one 1⟩).2

/-- The examples that come of them. -/
def reversedExamples : ExampleSet :=
  ⟨List.zipWith Example.mk reversedStates [.int 9, .int 4, .int 0]⟩

/-- An offset is applied that only the first array has: the second example refuses it, and the first
is not left with what it read there. -/
theorem movesTogether_of_short_array :
    ∃ s', ofStates reversedStates [.int 9, .int 4, .int 0] = .ok reversedExamples ∧
      reversedExamples.Reachable ∧ reversedExamples.MovesTogether ∧
      reversedExamples.apply ⟨.access .strict, .two 0 2⟩ = (.error (.indexOutOfRange 1 1), s') ∧
      s'.visible = reversedExamples.visible := by
  have hs : ofStates reversedStates [.int 9, .int 4, .int 0] = .ok reversedExamples := rfl
  have happly : reversedExamples.apply ⟨.access .strict, .two 0 2⟩ =
      (.error (.indexOutOfRange 1 1), _) := rfl
  have hmoves := movesTogether_of_reachable (.ofStates hs)
  exact ⟨_, hs, .ofStates hs, hmoves, happly, (hmoves.refused happly).1⟩

end ProgramSearch.ExampleSet

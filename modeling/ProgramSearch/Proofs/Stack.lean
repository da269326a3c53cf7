/-
# ProgramSearch.Proofs.Stack -- a register file is a stack

Undoing keeps the slot of the result it takes away, and the next result is written over what that
slot still holds. None of this can be told from outside: `RegisterFile.Shows` relates a register
file to the plain stack that it stands for, each act keeps the two related and is answered alike by
both, and so are any number of acts.
-/

import ProgramSearch.Stack
import ProgramSearch.Proofs.Registers

namespace ProgramSearch

/-! ## Acts on two machines -/

/-- Where every act is answered alike and keeps two states related, so do any number of them. -/
theorem Act.doAll_simulates {σ τ : Type} {step : σ → Act → Except Error Unit × σ}
    {step' : τ → Act → Except Error Unit × τ} {R : σ → τ → Prop}
    (hstep : ∀ s t act, R s t →
      (step s act).1 = (step' t act).1 ∧ R (step s act).2 (step' t act).2)
    (acts : List Act) {s : σ} {t : τ} (h : R s t) :
    (doAll step s acts).1 = (doAll step' t acts).1 ∧
      R (doAll step s acts).2 (doAll step' t acts).2 := by
  induction acts generalizing s t with
  | nil => exact ⟨rfl, h⟩
  | cons act rest ih =>
    obtain ⟨hanswer, hnext⟩ := hstep s t act h
    obtain ⟨hanswers, hlast⟩ := ih hnext
    refine ⟨?_, hlast⟩
    simp only [doAll]
    rw [hanswer, hanswers]

namespace RegisterFile

/-- The register file shows the values of the stack, and its inputs are the floor. -/
structure Shows (regs : RegisterFile) (stack : Stack) : Prop where
  visible : regs.visible = stack.values
  floor : regs.inputs.length = stack.floor

variable {regs : RegisterFile} {stack : Stack}

theorem shows_ofInputs (inputs : List Value) : (ofInputs inputs).Shows (.ofInputs inputs) :=
  ⟨visible_ofInputs inputs, rfl⟩

theorem Shows.apply (h : regs.Shows stack) (ins : Instruction) :
    (regs.apply ins).1 = (stack.apply ins).1 ∧ (regs.apply ins).2.Shows (stack.apply ins).2 := by
  obtain ⟨retained, happly⟩ := regs.apply_eq ins
  rw [happly, Stack.apply, ← h.visible]
  cases ins.run regs.visible with
  | ok v => exact ⟨rfl, by simp [RegisterFile.visible], h.floor⟩
  | error e => exact ⟨rfl, h.visible, h.floor⟩

theorem Shows.undo (h : regs.Shows stack) :
    regs.undo.1 = stack.undo.1 ∧ regs.undo.2.Shows stack.undo.2 := by
  have hheight : stack.values.length = stack.floor + regs.results.length := by
    rw [← h.visible, ← used_eq_length, used, h.floor]
  cases hresults : regs.results with
  | nil =>
    rw [hresults, List.length_nil, Nat.add_zero] at hheight
    have hstack : stack.undo =
        (.error (.violation (.nothingToUndo stack.floor stack.values.length)), stack) :=
      if_pos (Nat.le_of_eq hheight)
    have hregs : regs.undo =
        (.error (.violation (.nothingToUndo regs.inputs.length regs.used)), regs) := by
      simp [RegisterFile.undo, hresults]
    rw [hstack, hregs, h.floor, used_eq_length, h.visible]
    exact ⟨rfl, h⟩
  | cons v results =>
    rw [hresults, List.length_cons] at hheight
    have hstack : stack.undo = (.ok (), { stack with values := stack.values.dropLast }) :=
      if_neg (by omega)
    rw [hstack, undo_of_results hresults]
    refine ⟨rfl, ?_, h.floor⟩
    simp [RegisterFile.visible, ← h.visible, hresults, ← List.append_assoc]

theorem Shows.reset (h : regs.Shows stack) : regs.reset.Shows stack.reset := by
  refine ⟨?_, h.floor⟩
  rw [Stack.reset, ← h.visible, ← h.floor]
  simp [RegisterFile.visible, RegisterFile.reset]

theorem Shows.act (h : regs.Shows stack) (act : Act) :
    (regs.act act).1 = (stack.act act).1 ∧ (regs.act act).2.Shows (stack.act act).2 := by
  cases act with
  | apply ins => exact h.apply ins
  | undo => exact h.undo
  | reset => exact ⟨rfl, h.reset⟩

theorem Shows.doAll (h : regs.Shows stack) (acts : List Act) :
    (Act.doAll RegisterFile.act regs acts).1 = (Act.doAll Stack.act stack acts).1 ∧
      (Act.doAll RegisterFile.act regs acts).2.Shows (Act.doAll Stack.act stack acts).2 :=
  Act.doAll_simulates (R := Shows) (fun _ _ act hs => hs.act act) acts h

/-! ## What acts do to the inputs -/

theorem act_inputs (regs : RegisterFile) (act : Act) : (regs.act act).2.inputs = regs.inputs := by
  cases act with
  | apply ins =>
    obtain ⟨retained, happly⟩ := regs.apply_eq ins
    rw [RegisterFile.act, happly]
    cases ins.run regs.visible <;> rfl
  | undo =>
    rw [RegisterFile.act, RegisterFile.undo]
    cases regs.results <;> rfl
  | reset => rfl

theorem doAll_inputs (regs : RegisterFile) (acts : List Act) :
    (Act.doAll RegisterFile.act regs acts).2.inputs = regs.inputs := by
  induction acts generalizing regs with
  | nil => rfl
  | cons act rest ih => exact (ih _).trans (act_inputs regs act)

/-! ## Any number of acts -/

/-- What two register files show and the number of their inputs decide all answers: whatever slots
they retain, they answer alike and go on showing the same. -/
theorem doAll_eq_of_visible_eq {regs regs' : RegisterFile} (hvisible : regs'.visible = regs.visible)
    (hinputs : regs'.inputs.length = regs.inputs.length) (acts : List Act) :
    (Act.doAll act regs' acts).1 = (Act.doAll act regs acts).1 ∧
      (Act.doAll act regs' acts).2.visible = (Act.doAll act regs acts).2.visible := by
  have h : regs.Shows ⟨regs.visible, regs.inputs.length⟩ := ⟨rfl, rfl⟩
  have h' : regs'.Shows ⟨regs.visible, regs.inputs.length⟩ := ⟨hvisible, hinputs⟩
  obtain ⟨hanswers, hshows⟩ := h.doAll acts
  obtain ⟨hanswers', hshows'⟩ := h'.doAll acts
  exact ⟨hanswers'.trans hanswers.symm, hshows'.visible.trans hshows.visible.symm⟩

/-- **Registers are a stack.** Whatever is done with them, failing acts included, a register file
answers as the stack does and shows the same values, the inputs below all others. -/
theorem doAll_eq_stack (inputs : List Value) (acts : List Act) :
    ∃ answers regs stack,
      Act.doAll RegisterFile.act (.ofInputs inputs) acts = (answers, regs) ∧
      Act.doAll Stack.act (.ofInputs inputs) acts = (answers, stack) ∧
      regs.visible = stack.values ∧ regs.inputs = inputs ∧ inputs <+: regs.visible := by
  obtain ⟨hanswers, hshows⟩ := (shows_ofInputs inputs).doAll acts
  have hinputs := doAll_inputs (.ofInputs inputs) acts
  refine ⟨_, _, _, rfl, Prod.ext hanswers.symm rfl, hshows.visible, hinputs, ?_⟩
  exact ⟨_, congrArg (· ++ _) hinputs.symm⟩

end RegisterFile

end ProgramSearch

/-
# ProgramSearch.Proofs.Lockstep -- examples that move together

The examples of a set have the same number of inputs and registers of the same types, and whatever
is applied or undone keeps this: a result's type does not depend on the data, and an instruction
that one example refuses is taken back from the others. So the examples of a set stand at one
program, which is `ExampleSet.StandsAt`, and what they show is decided by that program and by the
inputs and targets.
-/

import ProgramSearch.ExampleSet
import ProgramSearch.Proofs.Registers

namespace ProgramSearch

/-! ## One example before and after -/

namespace Example

/-- What an example never changes: its inputs and its target. -/
def pair (x : Example) : List Value × Value := (x.registers.inputs, x.target)

/-- The second example shows what the first one does. -/
structure Same (x y : Example) : Prop where
  pair : y.pair = x.pair
  results : y.registers.results = x.registers.results

/-- The second example has the result of an instruction on top of what the first one shows. -/
structure Extends (ins : Instruction) (x y : Example) : Prop where
  pair : y.pair = x.pair
  result : ∃ v, ins.run x.registers.visible = .ok v ∧
    y.registers.results = v :: x.registers.results

/-- The second example lacks the newest result of the first one. -/
structure Retracts (x y : Example) : Prop where
  pair : y.pair = x.pair
  result : ∃ v, x.registers.results = v :: y.registers.results

variable {ins : Instruction} {x y : Example} {xs ys : List Example}

theorem inputs_eq (h : y.pair = x.pair) : y.registers.inputs = x.registers.inputs :=
  congrArg Prod.fst h

theorem Same.visible (h : Same x y) : y.registers.visible = x.registers.visible := by
  rw [RegisterFile.visible, RegisterFile.visible, inputs_eq h.pair, h.results]

theorem Extends.visible (h : Extends ins x y) :
    ∃ v, ins.run x.registers.visible = .ok v ∧
      y.registers.visible = x.registers.visible ++ [v] := by
  obtain ⟨v, hrun, hresults⟩ := h.result
  refine ⟨v, hrun, ?_⟩
  simp [RegisterFile.visible, inputs_eq h.pair, hresults]

theorem Extends.types (h : Extends ins x y) :
    y.registers.types = x.registers.types ++ [ins.resultType] := by
  obtain ⟨v, hrun, hvisible⟩ := h.visible
  simp [RegisterFile.types, hvisible, Instruction.run_type hrun]

theorem Retracts.visible (h : Retracts x y) :
    ∃ v, x.registers.visible = y.registers.visible ++ [v] := by
  obtain ⟨v, hresults⟩ := h.result
  refine ⟨v, ?_⟩
  simp [RegisterFile.visible, inputs_eq h.pair, hresults]

theorem Retracts.types (h : Retracts x y) : y.registers.types = x.registers.types.dropLast := by
  obtain ⟨v, hvisible⟩ := h.visible
  simp [RegisterFile.types, hvisible]

/-! ## All examples before and after -/

theorem map_pair_eq {R : Example → Example → Prop} (hR : ∀ x y, R x y → y.pair = x.pair)
    (h : List.Forall₂ R xs ys) : ys.map pair = xs.map pair :=
  map_eq_map_of_forall₂ hR h

/-- Some example refuses the instruction, and the ones before it do not. -/
def Refuse (ins : Instruction) (e : Error) (xs : List Example) : Prop :=
  ∃ before x after, xs = before ++ x :: after ∧
    (∀ y ∈ before, ∃ v, ins.run y.registers.visible = .ok v) ∧
    ins.run x.registers.visible = .error e

/-- The first example that refuses an instruction is the first that it cannot be applied to. -/
theorem Refuse.exists_apply {e : Error} (h : Refuse ins e xs) :
    ∃ before x after, xs = before ++ x :: after ∧
      (∀ y ∈ before, (y.registers.apply ins).1 = .ok ()) ∧
      (x.registers.apply ins).1 = .error e := by
  obtain ⟨before, x, after, hxs, hbefore, hx⟩ := h
  refine ⟨before, x, after, hxs, ?_, ?_⟩
  · intro y hy
    obtain ⟨v, hv⟩ := hbefore y hy
    rw [RegisterFile.fst_apply, hv]
    rfl
  · rw [RegisterFile.fst_apply, hx]
    rfl

/-- An instruction is applied to every example; or the first one that refuses it says why, and all
of them show what they did before. -/
theorem applyAll_cases (ins : Instruction) (xs : List Example) :
    ((applyAll ins xs).1 = .ok () ∧ List.Forall₂ (Extends ins) xs (applyAll ins xs).2) ∨
      ∃ e, (applyAll ins xs).1 = .error e ∧ Refuse ins e xs ∧
        List.Forall₂ Same xs (applyAll ins xs).2 := by
  induction xs with
  | nil => exact .inl ⟨rfl, .nil⟩
  | cons x xs ih =>
    obtain ⟨retained, happly⟩ := x.registers.apply_eq ins
    unfold applyAll
    cases hrun : ins.run x.registers.visible with
    | error e =>
      simp only [hrun] at happly
      simp only [happly]
      refine .inr ⟨e, rfl, ⟨[], x, xs, rfl, by simp, hrun⟩, .cons ⟨rfl, rfl⟩ ?_⟩
      exact List.forall₂_same.2 fun y _ => ⟨rfl, rfl⟩
    | ok v =>
      simp only [hrun] at happly
      simp only [happly]
      rcases hrest : applyAll ins xs with ⟨answer, ys⟩
      rw [hrest] at ih
      rcases ih with ⟨rfl, hys⟩ | ⟨e, rfl, ⟨before, z, after, rfl, hbefore, hz⟩, hys⟩
      · exact .inl ⟨rfl, .cons ⟨rfl, v, hrun, rfl⟩ hys⟩
      · -- an example behind refuses, so the result just computed is taken back
        refine .inr ⟨e, rfl, ⟨x :: before, z, after, rfl, ?_, hz⟩, .cons ⟨rfl, rfl⟩ hys⟩
        rintro y (_ | ⟨_, hy⟩)
        · exact ⟨v, hrun⟩
        · exact hbefore y hy

/-- With a result in every example, undoing takes away the newest one of each. -/
theorem undoAll_of_forall (h : ∀ x ∈ xs, x.registers.results ≠ []) :
    (undoAll xs).1 = .ok () ∧ List.Forall₂ Retracts xs (undoAll xs).2 := by
  induction xs with
  | nil => exact ⟨rfl, .nil⟩
  | cons x xs ih =>
    have htail : ∀ y ∈ xs, y.registers.results ≠ [] := by
      intro y hy
      exact h y (List.mem_cons_of_mem x hy)
    obtain ⟨hanswer, hrest⟩ := ih htail
    obtain ⟨v, results, hresults⟩ := List.exists_cons_of_ne_nil (h x List.mem_cons_self)
    unfold undoAll
    rw [RegisterFile.undo_of_results hresults]
    exact ⟨hanswer, .cons ⟨rfl, v, hresults⟩ hrest⟩

/-- Without a result in the first example, undoing fails and changes nothing. -/
theorem undoAll_of_head (xs : List Example) (h : x.registers.results = []) :
    ∃ e, undoAll (x :: xs) = (.error e, x :: xs) := by
  simp [undoAll, RegisterFile.undo, h]

end Example

namespace ExampleSet

variable {s s' : ExampleSet} {ins : Instruction} {steps : List Instruction}

/-- The inputs and the target of each example. -/
def pairs (s : ExampleSet) : List (List Value × Value) := s.examples.map Example.pair

theorem forall₂_of_pairs (h : s'.pairs = s.pairs) :
    List.Forall₂ (fun y x => Example.pair y = Example.pair x) s'.examples s.examples := by
  rw [← List.forall₂_map_right_iff, ← List.forall₂_map_left_iff, List.forall₂_eq_eq_eq]
  exact h

/-! ## Applying an instruction to a set -/

/-- An instruction that is applied puts its result on top of what every example shows. -/
theorem extends_of_apply (happly : s.apply ins = (.ok (), s')) :
    List.Forall₂ (Example.Extends ins) s.examples s'.examples := by
  obtain ⟨hanswer, rfl⟩ := Prod.mk.inj happly
  rcases Example.applyAll_cases ins s.examples with ⟨-, hext⟩ | ⟨e, herror, -, -⟩
  · exact hext
  · exact absurd (hanswer.symm.trans herror) (by simp)

/-- An instruction that is not applied is refused by some example, and all show what they did. -/
theorem refuse_of_apply {e : Error} (happly : s.apply ins = (.error e, s')) :
    Example.Refuse ins e s.examples ∧ List.Forall₂ Example.Same s.examples s'.examples := by
  obtain ⟨hanswer, rfl⟩ := Prod.mk.inj happly
  rcases Example.applyAll_cases ins s.examples with ⟨hok, -⟩ | ⟨e', herror, hrefuse, hsame⟩
  · exact absurd (hanswer.symm.trans hok) (by simp)
  · obtain rfl : e' = e := Except.error.inj (herror.symm.trans hanswer)
    exact ⟨hrefuse, hsame⟩

/-! ## Standing at a program -/

/-- Every example shows what running the instructions over its inputs leaves. -/
def StandsAt (s : ExampleSet) (steps : List Instruction) : Prop :=
  ∀ x ∈ s.examples, x.registers.StandsAt steps

/-- An instruction that no example refuses takes a set one instruction further. -/
theorem StandsAt.apply_ok (h : s.StandsAt steps) (happly : s.apply ins = (.ok (), s')) :
    s'.StandsAt (steps ++ [ins]) ∧ s'.pairs = s.pairs := by
  have hext := extends_of_apply happly
  refine ⟨?_, Example.map_pair_eq (fun _ _ hxy => hxy.pair) hext⟩
  intro y hy
  obtain ⟨x, hx, hxy⟩ := exists_mem_of_forall₂ hext hy
  obtain ⟨v, hrun, hvisible⟩ := hxy.visible
  rw [RegisterFile.StandsAt, Example.inputs_eq hxy.pair, hvisible]
  exact Program.runFrom_append_eq_ok.2 ⟨_, v, h x hx, hrun, rfl⟩

/-- A set that refuses an instruction stays where it is. -/
theorem StandsAt.apply_error {e : Error} (h : s.StandsAt steps)
    (happly : s.apply ins = (.error e, s')) : s'.StandsAt steps ∧ s'.pairs = s.pairs := by
  obtain ⟨-, hsame⟩ := refuse_of_apply happly
  refine ⟨?_, Example.map_pair_eq (fun _ _ hxy => hxy.pair) hsame⟩
  intro y hy
  obtain ⟨x, hx, hxy⟩ := exists_mem_of_forall₂ hsame hy
  rw [RegisterFile.StandsAt, Example.inputs_eq hxy.pair, hxy.visible]
  exact h x hx

/-- A set refuses an instruction only because one of its examples does. -/
theorem exists_apply_eq_error {e : Error} (h : (s.apply ins).1 = .error e) :
    ∃ x ∈ s.examples, (x.registers.apply ins).1 = .error e := by
  obtain ⟨hrefuse, -⟩ := refuse_of_apply (Prod.ext h rfl)
  obtain ⟨before, x, after, hexamples, -, hx⟩ := hrefuse.exists_apply
  exact ⟨x, by simp [hexamples], hx⟩

/-- Undoing takes a set back by one instruction, and does not fail where there is one. -/
theorem StandsAt.undo (h : s.StandsAt (steps ++ [ins])) :
    ∃ s', s.undo = (.ok (), s') ∧ s'.StandsAt steps ∧ s'.pairs = s.pairs := by
  have hresults : ∀ x ∈ s.examples, x.registers.results ≠ [] := by
    intro x hx hnil
    simpa [hnil] using (h x hx).length_results
  obtain ⟨hanswer, hret⟩ := Example.undoAll_of_forall hresults
  refine ⟨⟨(Example.undoAll s.examples).2⟩, Prod.ext hanswer rfl, ?_,
    Example.map_pair_eq (fun _ _ hxy => hxy.pair) hret⟩
  intro y hy
  obtain ⟨x, hx, hxy⟩ := exists_mem_of_forall₂ hret hy
  obtain ⟨before, v, hbefore, -, hvisible⟩ := Program.runFrom_append_eq_ok.1 (h x hx)
  obtain ⟨w, hw⟩ := hxy.result
  -- the result undone is the one that the last instruction left
  have hsame : y.registers.visible ++ [w] = before ++ [v] := by
    rw [← hvisible]
    simp [RegisterFile.visible, Example.inputs_eq hxy.pair, hw]
  rw [RegisterFile.StandsAt, Example.inputs_eq hxy.pair, hbefore, (List.append_inj' hsame rfl).1]

/-! ## Lockstep -/

/-- There are examples, with the same number of inputs and registers of the same types. -/
structure Lockstep (s : ExampleSet) : Prop where
  nonempty : s.examples ≠ []
  inputs : ∀ x ∈ s.examples, x.registers.inputs.length = s.inputCount
  types : ∀ x ∈ s.examples, x.registers.types = s.types

/-- What all examples have in common, the first one has. -/
theorem Lockstep.of_common (hne : s.examples ≠ []) (count : Nat) (types : List Ty)
    (h : ∀ x ∈ s.examples, x.registers.inputs.length = count ∧ x.registers.types = types) :
    s.Lockstep := by
  obtain ⟨x, xs, hxs⟩ := List.exists_cons_of_ne_nil hne
  have hx := h x (by simp [hxs])
  have hcount : s.inputCount = count := by simp [inputCount, leader, hxs, hx.1]
  have htypes : s.types = types := by simp [ExampleSet.types, leader, hxs, hx.2]
  refine ⟨hne, ?_, ?_⟩
  · intro y hy
    rw [hcount, (h y hy).1]
  · intro y hy
    rw [htypes, (h y hy).2]

/-- Every example has as many results as the first one. -/
theorem Lockstep.length_results (h : s.Lockstep) {x : Example} (hx : x ∈ s.examples) :
    x.registers.results.length = s.depth := by
  have hleader : s.types.length = s.inputCount + s.depth := s.leader.length_types
  have hlength := x.registers.length_types
  rw [h.types x hx, h.inputs x hx, hleader] at hlength
  exact (Nat.add_left_cancel hlength).symm

/-- A set that stands at a program is as deep as the program is long. -/
theorem Lockstep.depth_eq (h : s.Lockstep) (hstands : s.StandsAt steps) :
    s.depth = steps.length := by
  obtain ⟨x, hx⟩ := List.exists_mem_of_ne_nil _ h.nonempty
  rw [← h.length_results hx, (hstands x hx).length_results]

/-- At depth 0 the registers are the inputs. -/
theorem Lockstep.standsAt_nil (h : s.Lockstep) (hdepth : s.depth = 0) : s.StandsAt [] := by
  intro x hx
  have hlength := h.length_results hx
  rw [hdepth] at hlength
  exact RegisterFile.standsAt_nil.2 (List.eq_nil_of_length_eq_zero hlength)

/-- Lockstep is kept where the types of every example change in the same way and its inputs stay. -/
theorem Lockstep.of_forall₂ {R : Example → Example → Prop} (f : List Ty → List Ty)
    (h : s.Lockstep) (hrel : List.Forall₂ R s.examples s'.examples)
    (hR : ∀ x ∈ s.examples, ∀ y, R x y →
      y.pair = x.pair ∧ y.registers.types = f x.registers.types) : s'.Lockstep := by
  have hne : s'.examples ≠ [] := by
    intro hnil
    rw [hnil, List.forall₂_nil_right_iff] at hrel
    exact h.nonempty hrel
  refine .of_common hne s.inputCount (f s.types) fun y hy => ?_
  obtain ⟨x, hx, hxy⟩ := exists_mem_of_forall₂ hrel hy
  obtain ⟨hpair, htypes⟩ := hR x hx y hxy
  rw [Example.inputs_eq hpair, h.inputs x hx, htypes, h.types x hx]
  exact ⟨rfl, rfl⟩

/-- Whether an instruction is applied or refused, the examples stay in lockstep. -/
theorem Lockstep.apply (h : s.Lockstep) (ins : Instruction) : (s.apply ins).2.Lockstep := by
  rcases Example.applyAll_cases ins s.examples with ⟨-, hext⟩ | ⟨e, -, -, hsame⟩
  · exact .of_forall₂ (· ++ [ins.resultType]) h hext fun x _ y hxy => ⟨hxy.pair, hxy.types⟩
  · refine .of_forall₂ id h hsame fun x _ y hxy => ⟨hxy.pair, ?_⟩
    rw [RegisterFile.types, hxy.visible]
    rfl

/-- Undoing takes the newest result of every example away; at depth 0 it fails and changes
nothing. -/
theorem Lockstep.undo_cases (h : s.Lockstep) :
    (s.depth ≠ 0 ∧ s.undo.1 = .ok () ∧
      List.Forall₂ Example.Retracts s.examples s.undo.2.examples) ∨
    (s.depth = 0 ∧ ∃ e, s.undo = (.error e, s)) := by
  by_cases hdepth : s.depth = 0
  · -- all examples have the same number of results, so the first one has none to undo either
    obtain ⟨first, rest, hexamples⟩ := List.exists_cons_of_ne_nil h.nonempty
    have hlength := h.length_results (x := first) (by simp [hexamples])
    rw [hdepth] at hlength
    obtain ⟨e, hundo⟩ := Example.undoAll_of_head rest (List.eq_nil_of_length_eq_zero hlength)
    refine .inr ⟨hdepth, e, ?_⟩
    simp only [ExampleSet.undo, hexamples, hundo]
    rw [← hexamples]
  · refine .inl ⟨hdepth, Example.undoAll_of_forall ?_⟩
    intro x hx hnil
    have hlength := h.length_results hx
    rw [hnil] at hlength
    exact hdepth hlength.symm

/-- Whether there is something to undo or not, the examples stay in lockstep. -/
theorem Lockstep.undo (h : s.Lockstep) : s.undo.2.Lockstep := by
  rcases h.undo_cases with ⟨-, -, hret⟩ | ⟨-, e, hundo⟩
  · exact .of_forall₂ List.dropLast h hret fun x _ y hxy => ⟨hxy.pair, hxy.types⟩
  · rw [hundo]
    exact h

/-- Undoing everything leaves the types of the inputs. -/
theorem Lockstep.reset (h : s.Lockstep) : s.reset.Lockstep := by
  have hrel : List.Forall₂ (fun x y => y = { x with registers := x.registers.reset })
      s.examples s.reset.examples :=
    List.forall₂_map_right_iff.2 (List.forall₂_same.2 fun x _ => rfl)
  refine .of_forall₂ (List.take s.inputCount) h hrel fun x hx y hxy => ⟨hxy ▸ rfl, ?_⟩
  rw [hxy, ← h.inputs x hx]
  simp [RegisterFile.types, RegisterFile.visible, RegisterFile.reset]

theorem standsAt_nil_reset (s : ExampleSet) : s.reset.StandsAt [] := by
  intro x hx
  obtain ⟨y, -, rfl⟩ := List.mem_map.1 hx
  exact RegisterFile.standsAt_nil.2 rfl

/-- Sets are built in lockstep. -/
theorem lockstep_of_ofStates {states : List RegisterFile} {targets : List Value}
    (h : ofStates states targets = .ok s) : s.Lockstep := by
  unfold ofStates at h
  split at h
  · cases h
  · split at h
    · rename_i r states t targets _
      simp only at h
      split at h
      · cases h
      · cases h
      · rename_i hstates _
        obtain rfl : (⟨List.zipWith Example.mk (r :: states) (t :: targets)⟩ : ExampleSet) = s := by
          simpa [pure, Except.pure] using h
        refine .of_common (List.cons_ne_nil _ _) r.inputs.length r.types fun x hx => ?_
        rw [← List.map_uncurry_zip_eq_zipWith] at hx
        obtain ⟨⟨state, target⟩, hzip, rfl⟩ := List.mem_map.1 hx
        obtain ⟨i, hi⟩ := List.getElem?_of_mem (List.of_mem_zip hzip).1
        have hagree := List.find?_eq_none.1 hstates (state, i)
          (List.mk_mem_zipIdx_iff_getElem?.2 hi)
        simpa [and_comm] using hagree
    · cases h

end ExampleSet

end ProgramSearch

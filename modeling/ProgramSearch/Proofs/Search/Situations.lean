/-
# ProgramSearch.Proofs.Search.Situations -- where the examples of a set stand

An exploration sees of an example its visible registers and its target. An instruction changes the
situations of a set just as it changes the set, with the same error where it is refused, and the set
is solved where its situations are. What a set that stands at a program shows is decided by that
program and by the inputs and targets, so going down and back up again leads to the same situations.
-/

import ProgramSearch.Proofs.Lockstep
import ProgramSearch.Search.Exploration

namespace ProgramSearch

/-! ## The situation after an instruction -/

namespace Situation

variable {ins : Instruction} {e : Error} {xs ys : List Example}

theorem after_eq_ok {x y : Situation} :
    after ins x = .ok y ↔
      ∃ v, ins.run x.registers = .ok v ∧ y = ⟨x.registers ++ [v], x.target⟩ := by
  unfold after
  cases ins.run x.registers with
  | error e => simp [bind, Except.bind]
  | ok v => simp [bind, Except.bind, pure, Except.pure, eq_comm]

theorem after_eq_error {x : Situation} :
    after ins x = .error e ↔ ins.run x.registers = .error e := by
  unfold after
  cases ins.run x.registers <;> simp [bind, Except.bind, pure, Except.pure]

theorem mapM_after_of_extends (h : List.Forall₂ (Example.Extends ins) xs ys) :
    (xs.map ofExample).mapM (after ins) = .ok (ys.map ofExample) := by
  rw [mapM_eq_ok_iff, List.forall₂_map_left_iff, List.forall₂_map_right_iff]
  refine h.imp fun x y hxy => ?_
  obtain ⟨v, hrun, hvisible⟩ := hxy.visible
  have htarget : y.target = x.target := congrArg Prod.snd hxy.pair
  rw [after_eq_ok]
  exact ⟨v, hrun, by rw [ofExample, hvisible, htarget]; rfl⟩

theorem mapM_after_of_refuse (h : Example.Refuse ins e xs) :
    (xs.map ofExample).mapM (after ins) = .error e := by
  obtain ⟨before, x, rest, rfl, hbefore, hx⟩ := h
  -- only the examples before the one that refuses are looked at
  have hx : after ins (ofExample x) = .error e := after_eq_error.2 hx
  induction before with
  | nil =>
    rw [List.nil_append, List.map_cons, List.mapM_cons, hx]
    rfl
  | cons y before ih =>
    obtain ⟨v, hv⟩ := hbefore y List.mem_cons_self
    have hy : after ins (ofExample y) = .ok ⟨y.registers.visible ++ [v], y.target⟩ :=
      after_eq_ok.2 ⟨v, hv, rfl⟩
    have hrest := ih fun z hz => hbefore z (List.mem_cons_of_mem y hz)
    rw [List.cons_append, List.map_cons, List.mapM_cons, hy, hrest]
    rfl

end Situation

namespace ExampleSet

variable {s s' : ExampleSet} {ins : Instruction} {steps : List Instruction}

/-- An instruction leads the situations of a set to those of the set it leads to. -/
theorem mapM_after_of_apply_ok (happly : s.apply ins = (.ok (), s')) :
    (Situation.ofExamples s).mapM (Situation.after ins) = .ok (Situation.ofExamples s') :=
  Situation.mapM_after_of_extends (extends_of_apply happly)

theorem mapM_after_of_apply_error {e : Error} (happly : s.apply ins = (.error e, s')) :
    (Situation.ofExamples s).mapM (Situation.after ins) = .error e :=
  Situation.mapM_after_of_refuse (refuse_of_apply happly).1

theorem all_isSolved_ofExamples (s : ExampleSet) :
    (Situation.ofExamples s).all Situation.isSolved = s.isSolved := by
  rw [Situation.ofExamples, List.all_map]
  congr 1
  funext x
  rw [Function.comp, Situation.isSolved, Situation.ofExample, Example.isSolved, Bool.eq_iff_iff,
    decide_eq_true_iff, decide_eq_true_iff, RegisterFile.newest?_eq_getLast?]

theorem types_ofExamples (s : ExampleSet) : Situation.types (Situation.ofExamples s) = s.types := by
  rcases s with ⟨_ | ⟨x, xs⟩⟩ <;> rfl

/-- Where an example stands that shows what running the instructions over its inputs leaves. -/
def reached (steps : List Instruction) (pair : List Value × Value) : Situation :=
  ⟨(Program.runFrom pair.1 steps).toOption.getD [], pair.2⟩

/-- What a set shows is a function of its inputs and targets. -/
theorem StandsAt.ofExamples_eq_map (h : s.StandsAt steps) :
    Situation.ofExamples s = s.pairs.map (reached steps) := by
  rw [pairs, List.map_map]
  refine List.map_congr_left fun x hx => ?_
  have hx : Program.runFrom x.registers.inputs steps = .ok x.registers.visible := h x hx
  simp [reached, Situation.ofExample, Example.pair, hx, Except.toOption]

/-- What a set shows is decided by the program it stands at and by its inputs and targets. -/
theorem StandsAt.ofExamples_eq (h : s.StandsAt steps) (h' : s'.StandsAt steps)
    (hpairs : s'.pairs = s.pairs) : Situation.ofExamples s' = Situation.ofExamples s := by
  rw [h.ofExamples_eq_map, h'.ofExamples_eq_map, hpairs]

end ExampleSet

end ProgramSearch

/-
# ProgramSearch.Proofs.Search.Soundness -- what a reported program does

A search reports the path of its walk; the registers that told it that the examples are solved are
kept apart from that path. Still, whatever the history of the examples and the limits of the search,
the program reported is one that the search is to try, and replaying it over fresh registers comes
to every target and shows just what the search has left.
-/

import ProgramSearch.Proofs.History

namespace ProgramSearch

/-! ## Runs that find a program -/

namespace Walk

variable {s : ExampleSet} {catalog : Catalog} {maxLength : Nat} {w w' : Walk}

/-- If the walk has found a program, it stands at one that solves the examples. -/
def Found (w : Walk) : Prop := w.phase = .solved → w.trail ≠ [] ∧ w.examples.isSolved = true

theorem Found.move {answer : Except Error Unit} (h : w.Found) (hmove : Move w answer w') :
    w'.Found := by
  intro hsolved
  rcases hmove.of_terminal (by rw [hsolved]; rfl) with rfl | ⟨-, hfound⟩ | ⟨hexhausted, -⟩
  · exact h hsolved
  · exact hfound
  · rw [hsolved] at hexhausted
    cases hexhausted

/-- A run that finds a program ends at one that solves the examples. -/
theorem Standing.run_eq_solved {budget : Budget} (h : Standing s catalog maxLength w)
    (hfound : w.Found) (hrun : w.run budget = (.ok .solved, w')) :
    w'.trail ≠ [] ∧ w'.examples.isSolved = true := by
  obtain ⟨u, hend, hstanding, hu⟩ := h.run_end_of_move Found.move hfound budget
  generalize w.run budget = result at hend hrun
  cases hend with
  | solved hstep hphase =>
    obtain ⟨-, rfl⟩ := Prod.mk.inj hrun
    rw [hstep] at hu
    exact hu hphase
  | failed hstep | spent hstep _ _ =>
    -- a walk that is given up does not answer that it found a program
    rw [hstep] at hstanding
    have hanswer := congrArg Prod.fst hrun
    rw [hstanding.fst_giveUp] at hanswer
    cases hanswer
  | exhausted => cases hrun

/-- Below the inputs a walk stands at a program it is to try. -/
theorem Standing.admits (h : Standing s catalog maxLength w) (htrail : w.trail ≠ []) :
    catalog.Admits s.types maxLength w.path := by
  obtain ⟨hwellTyped, hoperators⟩ := h.trail.wellTyped
  refine ⟨?_, ?_, hoperators, hwellTyped⟩
  · intro hnil
    have hlength := congrArg List.length hnil
    rw [path, Choice.length_path] at hlength
    exact htrail (List.eq_nil_of_length_eq_zero hlength)
  · rw [path, Choice.length_path]
    exact h.depth_le

theorem found_start (hstart : start s catalog maxLength = .ok w) : w.Found :=
  fun hsolved => absurd hsolved (trail_start hstart).2

end Walk

/-! ## Replaying what was found -/

/-- Over fresh registers that hold the inputs of the first example the instructions come to its
target, and the second example shows the registers that they leave. -/
def Example.Replays (steps : List Instruction) (x x' : Example) : Prop :=
  x'.target = x.target ∧ ∃ regs,
    (RegisterFile.ofInputs x.registers.inputs).replay steps = (.ok (), regs) ∧
      regs.newest? = some x.target ∧ x'.registers.visible = regs.visible

/-- An example that stands at its target after some instructions shows their replay. -/
theorem Example.replays {steps : List Instruction} {x x' : Example} (hpair : x'.pair = x.pair)
    (hstands : x'.registers.StandsAt steps) (hsolved : x'.isSolved = true) :
    Replays steps x x' := by
  have htarget : x'.target = x.target := congrArg Prod.snd hpair
  have hrun : Program.runFrom (RegisterFile.ofInputs x.registers.inputs).visible steps =
      .ok x'.registers.visible := by
    rw [RegisterFile.visible_ofInputs, ← Example.inputs_eq hpair]
    exact hstands
  obtain ⟨regs, hreplay, hvisible⟩ := RegisterFile.exists_replay_eq_ok hrun
  refine ⟨htarget, regs, hreplay, ?_, hvisible.symm⟩
  rw [isSolved, decide_eq_true_iff, RegisterFile.newest?_eq_getLast?] at hsolved
  rw [RegisterFile.newest?_eq_getLast?, hvisible, hsolved, htarget]

namespace ExampleSet

variable {s s' : ExampleSet}

theorem forall₂_replays {steps : List Instruction} (hpairs : s'.pairs = s.pairs)
    (hstands : s'.StandsAt steps) (hsolved : s'.isSolved = true) :
    List.Forall₂ (Example.Replays steps) s.examples s'.examples := by
  have hall : ∀ x' ∈ s'.examples, x'.registers.StandsAt steps ∧ x'.isSolved = true :=
    fun x' hx' => ⟨hstands x' hx', List.all_eq_true.1 hsolved x' hx'⟩
  refine ((List.forall₂_and_left _ _).2 ⟨hall, forall₂_of_pairs hpairs⟩).flip.imp ?_
  rintro x x' ⟨⟨hstands, hsolved⟩, hpair⟩
  exact Example.replays hpair hstands hsolved

theorem inputCount_of_pairs (hpairs : s'.pairs = s.pairs) : s'.inputCount = s.inputCount := by
  have hcount (t : ExampleSet) :
      t.inputCount = (t.pairs.head?.map fun pair => pair.1.length).getD 0 := by
    rcases t with ⟨_ | ⟨x, xs⟩⟩ <;> rfl
  rw [hcount, hcount, hpairs]

end ExampleSet

/-! ## Whole searches -/

variable {s s' : ExampleSet} {catalog : Catalog} {limits : Limits} {report : Report}

/-- A program that a run finds is one to try, and the examples show its replay. -/
theorem Walk.exists_run_eq_solved {w w' : Walk} (hstands : s.StandsAt [])
    (hstart : Walk.start s catalog limits.maxLength = .ok w)
    (hrun : w.run limits.budget = (.ok .solved, w')) :
    w'.program.inputs = s.inputCount ∧
      catalog.Admits s.types limits.maxLength w'.program.steps ∧
      List.Forall₂ (Example.Replays w'.program.steps) s.examples w'.examples.examples := by
  have hstanding := standing_start hstands hstart
  obtain ⟨htrail, hsolved⟩ := hstanding.run_eq_solved (found_start hstart) hrun
  have hend := hstanding.run limits.budget
  rw [hrun] at hend
  exact ⟨ExampleSet.inputCount_of_pairs hend.pairs, hend.admits htrail,
    ExampleSet.forall₂_replays hend.pairs hend.examples hsolved⟩

/-- **What a search finds is a program that does it.** Whatever the examples have been through, a
search that is solved reports a program: it is one the search is to try, replaying it over fresh
registers comes to the target of every example, and the examples are left with the registers of this
replay. A search that is not solved reports none. -/
theorem search_sound {searcher searcher' : Searcher} (hs : s.Reachable) (hdepth : s.depth = 0)
    (h : searcher.search s catalog limits = (.ok report, searcher', s')) :
    (report.outcome = .solved → ∃ program, report.program = some program ∧
      program.inputs = s.inputCount ∧ catalog.Admits s.types limits.maxLength program.steps ∧
      List.Forall₂ (Example.Replays program.steps) s.examples s'.examples) ∧
    (report.outcome ≠ .solved → report.program = none) := by
  have hstands := hs.lockstep.standsAt_nil hdepth
  obtain ⟨hsearch, -⟩ := Searcher.search_eq_iff.1 h
  obtain ⟨w, outcome, w', hstart, hrun, rfl, rfl⟩ := exists_run_of_search hsearch
  refine ⟨?_, ?_⟩
  · intro hsolved
    obtain rfl : outcome = .solved := hsolved
    exact ⟨w'.program, rfl, Walk.exists_run_eq_solved hstands hstart hrun⟩
  · intro hunsolved
    exact if_neg hunsolved

/-- Two examples that are two increments away from their targets. -/
def twoAway : ExampleSet := ⟨[⟨.ofInputs [.int 1], .int 3⟩, ⟨.ofInputs [.int 5], .int 7⟩]⟩

/-- The same after an increment was applied to them and undone. -/
def twoAwayAgain : ExampleSet := (twoAway.apply ⟨.scalar .increment, .one 0⟩).2.undo.2

/-- The walk over them by increments. -/
def twoAwayWalk : Walk := .root twoAwayAgain ⟨[.scalar .increment]⟩ 2

theorem search_sound_of_two_increments :
    ∃ report searcher' s' program,
      ExampleSet.ofPairs [([.int 1], .int 3), ([.int 5], .int 7)] = .ok twoAway ∧
      Searcher.fresh.search twoAwayAgain ⟨[.scalar .increment]⟩ ⟨2, ⟨some 50, none⟩⟩ =
        (.ok report, searcher', s') ∧
      report.program = some program ∧
      List.Forall₂ (Example.Replays program.steps) twoAwayAgain.examples s'.examples := by
  have hs : ExampleSet.ofPairs [([.int 1], .int 3), ([.int 5], .int 7)] = .ok twoAway := rfl
  have hstart : Walk.start twoAwayAgain ⟨[.scalar .increment]⟩ 2 = .ok twoAwayWalk := rfl
  -- down by the first increment, past the one that reads the input again, and to the last one
  have hchain : Relation.ReflTransGen (Walk.Goes ⟨some 50, none⟩) twoAwayWalk
      (twoAwayWalk.stepped 2) := .head ⟨rfl, rfl, rfl⟩ (.single ⟨rfl, rfl, rfl⟩)
  have hrun : twoAwayWalk.run ⟨some 50, none⟩ = (.ok .solved, twoAwayWalk.stepped 3) :=
    (Walk.run_eq_of_goes hchain).trans (Walk.RunEnd.solved rfl rfl).run_eq
  have hsearch : Searcher.fresh.search twoAwayAgain ⟨[.scalar .increment]⟩ ⟨2, ⟨some 50, none⟩⟩ =
      _ := Searcher.search_of_run hstart hrun
  obtain ⟨program, hprogram, -, -, hreplays⟩ :=
    (search_sound (.undo (.apply _ (.ofPairs hs))) rfl hsearch).1 rfl
  exact ⟨_, _, _, program, hs, hsearch, hprogram, hreplays⟩

end ProgramSearch

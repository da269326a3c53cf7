/-
# ProgramSearch.Proofs.Search.Runs -- how a run comes to its end

A run is a chain of steps that neither end the walk nor spend the budget, and then one last step: it
fails, it ends the walk, or it spends the budget. `Walk.run_end` takes a run apart in this way, so
that what holds of every step is carried along the chain and only the last step is looked at. Two
runs are compared in the same way: a `Walk.Simulation` says what a step keeps between two walks, and
`Walk.Simulation.run` what comes of it for their runs.
-/

import Mathlib.Logic.Relation
import ProgramSearch.Proofs.Search.Standing

namespace ProgramSearch.Walk

/-- A step after which a run goes on. -/
structure Goes (budget : Budget) (w w' : Walk) : Prop where
  step : w.step = (.ok (), w')
  phase : w'.phase.isTerminal = false
  unspent : budget.isSpent w'.counters.nodes = false

/-- The last step of a run, and what the run comes to. -/
inductive RunEnd (budget : Budget) (w : Walk) : Except Error Outcome × Walk → Prop where
  | failed {e : Error} {w' : Walk} :
      w.step = (.error e, w') → RunEnd budget w (w'.giveUp (.error e))
  | solved {w' : Walk} :
      w.step = (.ok (), w') → w'.phase = .solved → RunEnd budget w (.ok .solved, w')
  | exhausted {w' : Walk} :
      w.step = (.ok (), w') → w'.phase = .exhausted → RunEnd budget w (.ok .exhausted, w')
  | spent {w' : Walk} :
      w.step = (.ok (), w') → w'.phase.isTerminal = false →
      budget.isSpent w'.counters.nodes = true →
      RunEnd budget w (w'.giveUp (.ok .budgetExceeded))

variable {budget : Budget} {w w' : Walk}

/-! ## One step of a run -/

theorem run_eq (w : Walk) (budget : Budget) :
    w.run budget =
      match w.step with
      | (.error e, w') => w'.giveUp (.error e)
      | (.ok (), w') =>
        match w'.phase with
        | .solved => (.ok .solved, w')
        | .exhausted => (.ok .exhausted, w')
        | .descending | .backtracking =>
          if budget.isSpent w'.counters.nodes then w'.giveUp (.ok .budgetExceeded)
          else w'.run budget := by
  rw [run]
  split
  · rename_i hstep
    simp only [hstep]
  · rename_i hstep
    simp only [hstep]
    split
    all_goals
      rename_i hphase
      simp only [hphase]

/-- A run goes on from where a step leads that does not end it. -/
theorem Goes.run_eq (h : Goes budget w w') : w.run budget = w'.run budget := by
  have hphase := h.phase
  rw [Walk.run_eq]
  cases hw' : w'.phase with
  | solved | exhausted => simp [hw', Phase.isTerminal] at hphase
  | descending | backtracking => simp [h.step, hw', h.unspent]

/-- A last step decides what a run comes to. -/
theorem RunEnd.run_eq {result : Except Error Outcome × Walk} (h : RunEnd budget w result) :
    w.run budget = result := by
  rw [Walk.run_eq]
  cases h with
  | failed hstep => simp [hstep]
  | solved hstep hphase => simp [hstep, hphase]
  | exhausted hstep hphase => simp [hstep, hphase]
  | @spent w' hstep hphase hspent =>
    cases hw' : w'.phase with
    | solved | exhausted => simp [hw', Phase.isTerminal] at hphase
    | descending | backtracking => simp [hstep, hw', hspent]

/-- Every step of a run is its last one, or the run goes on after it. -/
theorem runEnd_or_goes (budget : Budget) (w : Walk) :
    (∃ result, RunEnd budget w result) ∨ ∃ w', Goes budget w w' := by
  rcases hstep : w.step with ⟨e | ⟨⟩, w'⟩
  · exact .inl ⟨_, .failed hstep⟩
  · cases hphase : w'.phase with
    | solved => exact .inl ⟨_, .solved hstep hphase⟩
    | exhausted => exact .inl ⟨_, .exhausted hstep hphase⟩
    | descending | backtracking =>
      have hgoes : w'.phase.isTerminal = false := by simp [hphase, Phase.isTerminal]
      cases hspent : budget.isSpent w'.counters.nodes with
      | true => exact .inl ⟨_, .spent hstep hgoes hspent⟩
      | false => exact .inr ⟨w', hstep, hgoes, hspent⟩

/-! ## Whole runs -/

/-- A run goes on for some steps and then makes its last one. -/
theorem run_end (w : Walk) (budget : Budget) :
    ∃ u, Relation.ReflTransGen (Goes budget) w u ∧ RunEnd budget u (w.run budget) := by
  -- every step that a run goes on after leaves less ahead of the walk
  induction hwork : w.work using Nat.strongRecOn generalizing w with
  | ind n ih =>
    rcases runEnd_or_goes budget w with ⟨result, hend⟩ | ⟨w', hgoes⟩
    · exact ⟨w, .refl, hend.run_eq ▸ hend⟩
    · have hless : w'.work < n := hwork ▸ work_step_lt hgoes.step hgoes.phase
      obtain ⟨u, hchain, hend⟩ := ih w'.work hless w' rfl
      exact ⟨u, .head hgoes hchain, hgoes.run_eq ▸ hend⟩

/-- A run comes to the same from any walk on its way. -/
theorem run_eq_of_goes {u : Walk} (h : Relation.ReflTransGen (Goes budget) w u) :
    w.run budget = u.run budget := by
  induction h with
  | refl => rfl
  | tail _ hgoes ih => rw [ih, hgoes.run_eq]

/-- What every step keeps holds along a run that goes on. -/
theorem goes_induction {P : Walk → Prop} (hP : ∀ w, P w → P w.step.2) {u : Walk}
    (hchain : Relation.ReflTransGen (Goes budget) w u) (h : P w) : P u := by
  induction hchain with
  | refl => exact h
  | tail _ hgoes ih =>
    have hnext := hP _ ih
    rwa [hgoes.step] at hnext

/-! ## Counting steps -/

/-- The walk after a number of steps, whatever their answers. -/
def stepped (w : Walk) : Nat → Walk
  | 0 => w
  | n + 1 => (w.stepped n).step.2

/-- A run goes on to the walk after a number of steps, and from each of these to the next. -/
theorem exists_stepped {u : Walk} (h : Relation.ReflTransGen (Goes budget) w u) :
    ∃ n, w.stepped n = u ∧ ∀ m < n, Goes budget (w.stepped m) (w.stepped (m + 1)) := by
  induction h with
  | refl => exact ⟨0, rfl, fun m hm => absurd hm (Nat.not_lt_zero m)⟩
  | @tail u v _ hgoes ih =>
    obtain ⟨n, rfl, hbefore⟩ := ih
    have hnext : w.stepped (n + 1) = v := by
      show (w.stepped n).step.2 = v
      rw [hgoes.step]
    refine ⟨n + 1, hnext, fun m hm => ?_⟩
    rcases Nat.lt_succ_iff_lt_or_eq.1 hm with hm | rfl
    · exact hbefore m hm
    · rw [hnext]
      exact hgoes

/-- Steps that a run goes on after take it from one walk to another. -/
theorem chain_of_stepped {n : Nat}
    (h : ∀ m < n, Goes budget (w.stepped m) (w.stepped (m + 1))) :
    Relation.ReflTransGen (Goes budget) w (w.stepped n) := by
  induction n with
  | zero => exact .refl
  | succ n ih => exact (ih fun m hm => h m (Nat.lt_succ_of_lt hm)).tail (h n (Nat.lt_succ_self n))

/-- A run that goes on for some steps and then fails is given up there. -/
theorem run_eq_giveUp {n : Nat} {e : Error}
    (hgoes : ∀ m < n, Goes budget (w.stepped m) (w.stepped (m + 1)))
    (hfailed : (w.stepped n).step.1 = .error e) :
    w.run budget = (w.stepped (n + 1)).giveUp (.error e) := by
  have hstep : (w.stepped n).step = (.error e, w.stepped (n + 1)) := Prod.ext hfailed rfl
  rw [run_eq_of_goes (chain_of_stepped hgoes), (RunEnd.failed hstep).run_eq]

/-! ## Runs side by side -/

/-- A relation between walks that a step keeps as long as it does not fail on the first one. Related
walks are in the same phase and have the same counts, so a run over the second ends where one over
the first does. -/
structure Simulation (R : Walk → Walk → Prop) : Prop where
  step : ∀ {w v w' : Walk}, R w v → w.step = (.ok (), w') → ∃ v', v.step = (.ok (), v') ∧ R w' v'
  phase : ∀ {w v : Walk}, R w v → v.phase = w.phase
  counters : ∀ {w v : Walk}, R w v → v.counters = w.counters

/-- Two runs end with the same outcome at related walks, or both are given up there. -/
inductive EndsBeside (R : Walk → Walk → Prop) :
    Except Error Outcome × Walk → Except Error Outcome × Walk → Prop where
  | ended (outcome : Outcome) {w v : Walk} (h : R w v) :
      EndsBeside R (.ok outcome, w) (.ok outcome, v)
  | givenUp {w v : Walk} (h : R w v) :
      EndsBeside R (w.giveUp (.ok .budgetExceeded)) (v.giveUp (.ok .budgetExceeded))

/-- Two runs go on side by side for some steps, and then the first one fails. -/
structure PartsAt (R : Walk → Walk → Prop) (budget : Budget) (w v : Walk) (n : Nat) (e : Error) :
    Prop where
  left : ∀ m < n, Goes budget (w.stepped m) (w.stepped (m + 1))
  right : ∀ m < n, Goes budget (v.stepped m) (v.stepped (m + 1))
  related : R (w.stepped n) (v.stepped n)
  failed : (w.stepped n).step.1 = .error e

namespace Simulation

variable {R : Walk → Walk → Prop} {v : Walk}

theorem goes (h : Simulation R) (hwv : R w v) (hgoes : Goes budget w w') :
    ∃ v', Goes budget v v' ∧ R w' v' := by
  obtain ⟨v', hstep, hnext⟩ := h.step hwv hgoes.step
  have hphase : v'.phase.isTerminal = false := by rw [h.phase hnext, hgoes.phase]
  have hunspent : budget.isSpent v'.counters.nodes = false := by
    rw [h.counters hnext, hgoes.unspent]
  exact ⟨v', ⟨hstep, hphase, hunspent⟩, hnext⟩

/-- As long as the run over the first walk goes on, the run over the second goes on beside it. -/
theorem stepped (h : Simulation R) (hwv : R w v) {n : Nat}
    (hgoes : ∀ m < n, Goes budget (w.stepped m) (w.stepped (m + 1))) :
    R (w.stepped n) (v.stepped n) ∧
      ∀ m < n, Goes budget (v.stepped m) (v.stepped (m + 1)) := by
  induction n with
  | zero => exact ⟨hwv, fun m hm => absurd hm (Nat.not_lt_zero m)⟩
  | succ n ih =>
    obtain ⟨hn, hbefore⟩ := ih fun m hm => hgoes m (Nat.lt_succ_of_lt hm)
    obtain ⟨v', hlast, hnext⟩ := h.goes hn (hgoes n (Nat.lt_succ_self n))
    obtain rfl : v.stepped (n + 1) = v' := congrArg Prod.snd hlast.step
    refine ⟨hnext, fun m hm => ?_⟩
    rcases Nat.lt_succ_iff_lt_or_eq.1 hm with hm | rfl
    · exact hbefore m hm
    · exact hlast

/-- Runs over related walks end side by side, or the first one fails where both have come to. -/
theorem run (h : Simulation R) (hwv : R w v) (budget : Budget) :
    EndsBeside R (w.run budget) (v.run budget) ∨ ∃ n e, PartsAt R budget w v n e := by
  obtain ⟨u, hchain, hend⟩ := w.run_end budget
  obtain ⟨n, rfl, hleft⟩ := exists_stepped hchain
  obtain ⟨hn, hright⟩ := h.stepped hwv hleft
  rw [run_eq_of_goes (chain_of_stepped hright)]
  generalize w.run budget = result at hend ⊢
  cases hend with
  | failed hstep => exact .inr ⟨n, _, hleft, hright, hn, congrArg Prod.fst hstep⟩
  | solved hstep hphase =>
    obtain ⟨v', hstep', hnext⟩ := h.step hn hstep
    rw [(RunEnd.solved hstep' ((h.phase hnext).trans hphase)).run_eq]
    exact .inl (.ended .solved hnext)
  | exhausted hstep hphase =>
    obtain ⟨v', hstep', hnext⟩ := h.step hn hstep
    rw [(RunEnd.exhausted hstep' ((h.phase hnext).trans hphase)).run_eq]
    exact .inl (.ended .exhausted hnext)
  | spent hstep hphase hspent =>
    obtain ⟨v', hstep', hnext⟩ := h.step hn hstep
    rw [← h.phase hnext] at hphase
    rw [← h.counters hnext] at hspent
    rw [(RunEnd.spent hstep' hphase hspent).run_eq]
    exact .inl (.givenUp hnext)

end Simulation

/-! ## Runs in the tree -/

variable {s : ExampleSet} {catalog : Catalog} {maxLength : Nat}

theorem Standing.goes {u : Walk} (h : Standing s catalog maxLength w)
    (hchain : Relation.ReflTransGen (Goes budget) w u) : Standing s catalog maxLength u :=
  goes_induction (fun _ hw => hw.step) hchain h

theorem Standing.stepped (h : Standing s catalog maxLength w) (n : Nat) :
    Standing s catalog maxLength (w.stepped n) := by
  induction n with
  | zero => exact h
  | succ n ih => exact ih.step

/-- Giving up does not fail by itself: it goes back up to the inputs and gives the answer. -/
theorem Standing.giveUp (h : Standing s catalog maxLength w) (answer : Except Error Outcome) :
    ∃ w', w.giveUp answer = (answer, w') ∧ Standing s catalog maxLength w' ∧ w'.path = [] ∧
      w'.phase = w.phase ∧ w'.counters = w.counters := by
  obtain ⟨w', hrewind, hw'⟩ := h.rewind
  exact ⟨w', by simp [Walk.giveUp, hrewind], hw'⟩

theorem Standing.fst_giveUp (h : Standing s catalog maxLength w) (answer : Except Error Outcome) :
    (w.giveUp answer).1 = answer := by
  obtain ⟨w', hgiveUp, -⟩ := h.giveUp answer
  rw [hgiveUp]

theorem Standing.snd_giveUp (h : Standing s catalog maxLength w) (answer : Except Error Outcome) :
    Standing s catalog maxLength (w.giveUp answer).2 := by
  obtain ⟨w', hgiveUp, hstanding, -⟩ := h.giveUp answer
  rwa [hgiveUp]

/-- A run takes a walk from one place of the tree to another. -/
theorem Standing.run (h : Standing s catalog maxLength w) (budget : Budget) :
    Standing s catalog maxLength (w.run budget).2 := by
  obtain ⟨u, hchain, hend⟩ := w.run_end budget
  have hnext := (h.goes hchain).step
  generalize w.run budget = result at hend ⊢
  cases hend with
  | failed hstep | spent hstep _ _ =>
    rw [hstep] at hnext
    exact hnext.snd_giveUp _
  | solved hstep _ | exhausted hstep _ =>
    rw [hstep] at hnext
    exact hnext

/-- What every move keeps holds along a run that goes on. -/
theorem Standing.goes_of_move {P : Walk → Prop}
    (hP : ∀ {v v' : Walk} {answer : Except Error Unit}, P v → Move v answer v' → P v')
    (h : Standing s catalog maxLength w) (hw : P w) {u : Walk}
    (hchain : Relation.ReflTransGen (Goes budget) w u) : P u := by
  have hkept : ∀ v, Standing s catalog maxLength v ∧ P v →
      Standing s catalog maxLength v.step.2 ∧ P v.step.2 := by
    intro v hv
    exact ⟨hv.1.step, hP hv.2 (move_step hv.1.examples)⟩
  exact (goes_induction hkept hchain ⟨h, hw⟩).2

/-- What every move keeps still holds after the last step of a run. -/
theorem Standing.run_end_of_move {P : Walk → Prop}
    (hP : ∀ {v v' : Walk} {answer : Except Error Unit}, P v → Move v answer v' → P v')
    (h : Standing s catalog maxLength w) (hw : P w) (budget : Budget) :
    ∃ u, RunEnd budget u (w.run budget) ∧ Standing s catalog maxLength u.step.2 ∧ P u.step.2 := by
  obtain ⟨u, hchain, hend⟩ := w.run_end budget
  have hu := h.goes hchain
  exact ⟨u, hend, hu.step, hP (h.goes_of_move hP hw hchain) (move_step hu.examples)⟩

/-- A run fails only with an error of one of its steps. -/
theorem Standing.run_eq_error {e : Error} (h : Standing s catalog maxLength w)
    (herror : (w.run budget).1 = .error e) :
    ∃ u, Relation.ReflTransGen (Goes budget) w u ∧ u.step.1 = .error e := by
  obtain ⟨u, hchain, hend⟩ := w.run_end budget
  have hnext := (h.goes hchain).step
  refine ⟨u, hchain, ?_⟩
  generalize w.run budget = result at hend herror
  cases hend with
  | failed hstep =>
    -- going back up adds no error of its own
    rw [hstep] at hnext ⊢
    rw [hnext.fst_giveUp] at herror
    rw [Except.error.inj herror]
  | spent hstep _ _ =>
    rw [hstep] at hnext
    rw [hnext.fst_giveUp] at herror
    cases herror
  | solved | exhausted => cases herror

end ProgramSearch.Walk

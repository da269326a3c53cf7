/-
# ProgramSearch.Proofs.Search.Budgets -- what a budget cuts off

A run looks at its budget after every step that does not end the walk, so a run with a node limit
makes the steps of the run without budgets up to the one that explores the last node allowed. If
that run ends before it would go on from there, the limit is not felt at all; otherwise the run is
given up at this very step, whatever depth it is at. With no time to spend a run makes one step.
-/

import ProgramSearch.Proofs.Search.Restoration

namespace ProgramSearch

/-- What a run comes to that stops after a step of this phase. -/
def Phase.outcome : Phase → Outcome
  | .solved => .solved
  | .exhausted => .exhausted
  | .descending | .backtracking => .budgetExceeded

namespace Walk

open Relation (ReflTransGen)

variable {s : ExampleSet} {catalog : Catalog} {maxLength limit : Nat} {w w' : Walk}
  {answer : Except Error Unit} {budget : Budget}

/-! ## Nodes of a step -/

theorem Move.nodes_le (h : Move w answer w') : w.counters.nodes ≤ w'.counters.nodes := by
  cases h <;> simp [Counters.explored, Counters.entered, Counters.left]

/-- A step explores a node, unless it fails, finds nothing left to try or leaves a depth. -/
theorem Move.explores_cases (h : Move w answer w') (hw : w.phase ≠ .solved) :
    (w'.counters.nodes = w.counters.nodes + 1 ∧ answer = .ok () ∧ w'.phase ≠ .exhausted) ∨
      (w'.counters.nodes = w.counters.nodes ∧
        ((∃ e, answer = .error e) ∨ w'.phase = .exhausted ∨
          w'.phase = .backtracking ∧ w.depth ≠ 0)) := by
  cases h with
  | idle hterminal =>
    cases hphase : w.phase with
    | solved => exact absurd hphase hw
    | exhausted => exact .inr ⟨rfl, .inr (.inl rfl)⟩
    | descending | backtracking => simp [hphase, Phase.isTerminal] at hterminal
  | refused => exact .inr ⟨rfl, .inl ⟨_, rfl⟩⟩
  | solved | descended | undone => exact .inl ⟨rfl, rfl, by simp⟩
  | exhausted => exact .inr ⟨rfl, .inr (.inl rfl)⟩
  | ascended _ _ htrail _ => exact .inr ⟨rfl, .inr (.inr ⟨rfl, by simp [depth, htrail]⟩)⟩

/-- Depths are entered by nodes, so there are no more depths above a walk than nodes behind it. -/
theorem Move.depth_le_nodes (h : Move w answer w') (hw : w.depth ≤ w.counters.nodes) :
    w'.depth ≤ w'.counters.nodes := by
  cases h with
  | idle | refused | exhausted => exact hw
  | undone => exact Nat.le_succ_of_le hw
  | solved | descended => exact Nat.succ_le_succ hw
  | ascended _ _ htrail _ =>
    rw [depth, htrail] at hw
    exact Nat.le_of_succ_le hw

/-! ## Nodes of a run -/

/-- Along a run nodes are only added. -/
theorem Standing.nodes_le_of_goes (h : Standing s catalog maxLength w) {u : Walk}
    (hchain : ReflTransGen (Goes budget) w u) : w.counters.nodes ≤ u.counters.nodes :=
  h.goes_of_move (P := fun v => w.counters.nodes ≤ v.counters.nodes)
    (fun hv hmove => Nat.le_trans hv hmove.nodes_le) (Nat.le_refl _) hchain

/-- Along a run a walk stays one that has not found a program. -/
theorem ne_solved_of_goes {u : Walk} (hchain : ReflTransGen (Goes budget) w u)
    (hw : w.phase ≠ .solved) : u.phase ≠ .solved := by
  rcases hchain.cases_tail with rfl | ⟨v, -, hgoes⟩
  · exact hw
  · intro hsolved
    have hphase := hgoes.phase
    rw [hsolved] at hphase
    cases hphase

theorem Standing.counters_giveUp (h : Standing s catalog maxLength w)
    (answer : Except Error Outcome) : (w.giveUp answer).2.counters = w.counters := by
  obtain ⟨w', hgiveUp, -, -, -, hcounters⟩ := h.giveUp answer
  rw [hgiveUp, hcounters]

/-! ## Ending within a number of nodes -/

/-- A run ends within a number of nodes. A program may be found with the last of them; to any other
end it takes one step more, before which a budget is looked at. -/
def EndsWithin (nodes : Nat) : Except Error Outcome × Walk → Prop
  | (.ok .solved, w) => w.counters.nodes ≤ nodes
  | (_, w) => w.counters.nodes < nodes

/-- A run without budgets ends within a number of nodes if it has explored fewer before its last
step. -/
theorem Standing.endsWithin_iff {result : Except Error Outcome × Walk} {nodes : Nat}
    (h : Standing s catalog maxLength w) (hw : w.phase ≠ .solved)
    (hend : RunEnd .unlimited w result) : EndsWithin nodes result ↔ w.counters.nodes < nodes := by
  cases hend with
  | @failed e w' hstep =>
    have hmove := h.move_of_step hstep
    have hgiveUp : (w'.giveUp (.error e)) = (.error e, (w'.giveUp (.error e)).2) :=
      Prod.ext ((h.move hmove).fst_giveUp _) rfl
    obtain ⟨-, hok, -⟩ | ⟨hnodes, -⟩ := hmove.explores_cases hw
    · cases hok
    · rw [hgiveUp, EndsWithin, (h.move hmove).counters_giveUp, hnodes]
      simp
  | @solved w' hstep hphase =>
    obtain ⟨hnodes, -⟩ | ⟨-, hcases⟩ := (h.move_of_step hstep).explores_cases hw
    · rw [EndsWithin, hnodes, Nat.succ_le_iff]
    · simp [hphase] at hcases
  | @exhausted w' hstep hphase =>
    obtain ⟨-, -, hne⟩ | ⟨hnodes, -⟩ := (h.move_of_step hstep).explores_cases hw
    · exact absurd hphase hne
    · rw [EndsWithin, hnodes]
      simp
  | spent _ _ hspent => cases hspent

/-- The run without budgets of a walk that has found no program does not end within the nodes that
the walk has explored already. -/
theorem Standing.not_endsWithin (h : Standing s catalog maxLength w) (hw : w.phase ≠ .solved) :
    ¬ EndsWithin w.counters.nodes (w.run .unlimited) := by
  obtain ⟨u, hchain, hend⟩ := w.run_end .unlimited
  rw [(h.goes hchain).endsWithin_iff (ne_solved_of_goes hchain hw) hend, Nat.not_lt]
  exact h.nodes_le_of_goes hchain

/-! ## Running with a node limit -/

theorem Goes.unlimited (h : Goes budget w w') : Goes .unlimited w w' := ⟨h.step, h.phase, rfl⟩

/-- The last step of a run is the last one without budgets too, unless it spends the budget. -/
theorem RunEnd.unlimited_or_spent {result : Except Error Outcome × Walk}
    (h : RunEnd budget w result) :
    RunEnd .unlimited w result ∨ ∃ w', w.step = (.ok (), w') ∧ w'.phase.isTerminal = false ∧
      budget.isSpent w'.counters.nodes = true ∧ result = w'.giveUp (.ok .budgetExceeded) := by
  cases h with
  | failed hstep => exact .inl (.failed hstep)
  | solved hstep hphase => exact .inl (.solved hstep hphase)
  | exhausted hstep hphase => exact .inl (.exhausted hstep hphase)
  | @spent w' hstep hphase hspent => exact .inr ⟨w', hstep, hphase, hspent, rfl⟩

/-- The run without budgets explores the node of a number by a step that leads to `v`, and goes on
from there. -/
def ExploresAt (w : Walk) (nodes : Nat) (v : Walk) : Prop :=
  ∃ u, ReflTransGen (Goes .unlimited) w u ∧ Goes .unlimited u v ∧
    u.counters.nodes + 1 = nodes ∧ v.counters.nodes = nodes

theorem counters_start (hstart : start s catalog maxLength = .ok w) : w.counters.nodes = 0 := by
  obtain ⟨-, rfl⟩ := start_eq_ok_iff.1 hstart
  rfl

/-- A run with a node limit has not explored all the nodes allowed while it goes on. No run stops
before its first node, so a limit of zero allows one. -/
theorem nodes_lt_of_goes {u : Walk} (hchain : ReflTransGen (Goes ⟨some limit, none⟩) w u)
    (hw : w.counters.nodes = 0) : u.counters.nodes < max limit 1 := by
  rcases hchain.cases_tail with rfl | ⟨v, -, hgoes⟩
  · omega
  · have hunspent := hgoes.unspent
    simp [Budget.isSpent] at hunspent
    omega

/-- The step that spends a node limit explores the last node allowed. -/
theorem Standing.nodes_of_spent (h : Standing s catalog maxLength w)
    (hw : w.depth ≤ w.counters.nodes) (hphase : w.phase ≠ .solved)
    (hlt : w.counters.nodes < max limit 1) (hstep : w.step = (.ok (), w'))
    (hphase' : w'.phase.isTerminal = false) (hle : limit ≤ w'.counters.nodes) :
    w.counters.nodes + 1 = max limit 1 ∧ w'.counters.nodes = max limit 1 := by
  obtain ⟨hnodes, -⟩ | ⟨hnodes, ⟨e, herror⟩ | hexhausted | ⟨-, hdepth⟩⟩ :=
    (h.move_of_step hstep).explores_cases hphase
  · omega
  · cases herror
  · rw [hexhausted] at hphase'
    cases hphase'
  · -- a depth that is left was entered by a node, so the limit would have been spent before
    omega

/-- A run with a node limit does not feel it, or is given up at the last node allowed. -/
theorem run_nodeLimit_cases (hstands : s.StandsAt [])
    (hstart : start s catalog maxLength = .ok w) (limit : Nat) :
    (EndsWithin (max limit 1) (w.run .unlimited) ∧
      w.run ⟨some limit, none⟩ = w.run .unlimited) ∨
    (¬ EndsWithin (max limit 1) (w.run .unlimited) ∧ ∃ v, Standing s catalog maxLength v ∧
      ExploresAt w (max limit 1) v ∧
      w.run ⟨some limit, none⟩ = v.giveUp (.ok .budgetExceeded)) := by
  have h := standing_start hstands hstart
  obtain ⟨htrail, hphase⟩ := trail_start hstart
  obtain ⟨u, hchain, hend⟩ := w.run_end ⟨some limit, none⟩
  have hlt := nodes_lt_of_goes hchain (counters_start hstart)
  have hu := h.goes hchain
  have huphase := ne_solved_of_goes hchain hphase
  have hfree : ReflTransGen (Goes .unlimited) w u :=
    Relation.ReflTransGen.mono (fun _ _ hgoes => hgoes.unlimited) _ _ hchain
  rcases hend.unlimited_or_spent with hend' | ⟨v, hstep, hvphase, hspent, hresult⟩
  · have hsame : w.run .unlimited = w.run ⟨some limit, none⟩ :=
      (run_eq_of_goes hfree).trans hend'.run_eq
    refine .inl ⟨?_, hsame.symm⟩
    rw [hsame, hu.endsWithin_iff huphase hend']
    exact hlt
  · have hgoes : Goes .unlimited u v := ⟨hstep, hvphase, rfl⟩
    have hv := hu.move (hu.move_of_step hstep)
    have hdepth : u.depth ≤ u.counters.nodes :=
      h.goes_of_move (fun hv hmove => hmove.depth_le_nodes hv) (by simp [depth, htrail]) hchain
    have hle : limit ≤ v.counters.nodes := by simpa [Budget.isSpent] using hspent
    obtain ⟨hbefore, hnodes⟩ := hu.nodes_of_spent hdepth huphase hlt hstep hvphase hle
    refine .inr ⟨?_, v, hv, ⟨u, hfree, hgoes, hbefore, hnodes⟩, hresult⟩
    rw [run_eq_of_goes (hfree.tail hgoes), ← hnodes]
    refine hv.not_endsWithin ?_
    intro hsolved
    rw [hsolved] at hvphase
    cases hvphase

/-! ## Running with no time -/

/-- With no time left, one step is the last. -/
theorem runEnd_of_no_time (w : Walk) (nodeLimit : Option Nat) :
    RunEnd ⟨nodeLimit, some 0⟩ w (w.run ⟨nodeLimit, some 0⟩) := by
  obtain ⟨result, hend⟩ | ⟨w', hgoes⟩ := runEnd_or_goes ⟨nodeLimit, some 0⟩ w
  · rw [hend.run_eq]
    exact hend
  · have hunspent := hgoes.unspent
    simp [Budget.isSpent] at hunspent

/-- A run comes to what one step of the walk comes to. Unless this step finds a program, the walk is
at the inputs afterwards. -/
structure IsOneStep (w : Walk) (result : Except Error Outcome × Walk) : Prop where
  answer : result.1 = w.step.1.map fun _ => w.step.2.phase.outcome
  counters : result.2.counters = w.step.2.counters
  path : result.2.path = if result.1 = .ok .solved then w.step.2.path else []

/-- A step after which the walk is given up is all that a run comes to. -/
theorem Standing.isOneStep_giveUp {answer : Except Error Outcome}
    (h : Standing s catalog maxLength w.step.2)
    (hanswer : answer = w.step.1.map fun _ => w.step.2.phase.outcome)
    (hunsolved : answer ≠ .ok .solved) : w.IsOneStep (w.step.2.giveUp answer) := by
  refine ⟨?_, h.counters_giveUp answer, ?_⟩
  · rw [h.fst_giveUp, hanswer]
  · rw [h.fst_giveUp, if_neg hunsolved, h.path_giveUp]

theorem Standing.isOneStep (h : Standing s catalog maxLength w) (hsettled : w.Settled)
    (nodeLimit : Option Nat) : w.IsOneStep (w.run ⟨nodeLimit, some 0⟩) := by
  have hend := w.runEnd_of_no_time nodeLimit
  generalize w.run ⟨nodeLimit, some 0⟩ = result at hend
  cases hend with
  | @failed e w' hstep =>
    have hgiveUp : w.IsOneStep (w.step.2.giveUp (.error e)) :=
      h.step.isOneStep_giveUp (by rw [hstep]; rfl) (by simp)
    rwa [hstep] at hgiveUp
  | solved hstep hphase =>
    refine ⟨?_, ?_, ?_⟩
    · rw [hstep, hphase]
      rfl
    · rw [hstep]
    · rw [if_pos rfl, hstep]
  | exhausted hstep hphase =>
    have hnext := hsettled.move (h.move_of_step hstep) hphase
    refine ⟨?_, ?_, ?_⟩
    · rw [hstep, hphase]
      rfl
    · rw [hstep]
    · rw [if_neg (by simp), path, hnext, Choice.path_nil]
  | @spent w' hstep hphase _ =>
    have houtcome : w'.phase.outcome = .budgetExceeded := by
      cases hw' : w'.phase with
      | solved | exhausted => simp [hw', Phase.isTerminal] at hphase
      | descending | backtracking => rfl
    have hgiveUp : w.IsOneStep (w.step.2.giveUp (.ok .budgetExceeded)) :=
      h.step.isOneStep_giveUp (by rw [hstep, houtcome]; rfl) (by simp)
    rwa [hstep] at hgiveUp

/-! ## All that a budget does -/

/-- Budgets cut runs of the walk short and change nothing else. -/
structure HeedsBudgets (w : Walk) : Prop where
  /-- A run that ends within the nodes allowed is the run without budgets. -/
  within : ∀ {limit : Nat}, EndsWithin (max limit 1) (w.run .unlimited) →
    w.run ⟨some limit, none⟩ = w.run .unlimited
  /-- Any other run is given up where the run without budgets explores the last node allowed. -/
  beyond : ∀ {limit : Nat}, ¬ EndsWithin (max limit 1) (w.run .unlimited) →
    ∃ v, ExploresAt w (max limit 1) v ∧
      (w.run ⟨some limit, none⟩).1 = .ok .budgetExceeded ∧
      (w.run ⟨some limit, none⟩).2.counters = v.counters ∧
      (w.run ⟨some limit, none⟩).2.path = []
  /-- With no time to spend a run is one step, whatever else it may spend. -/
  oneStep : ∀ nodeLimit : Option Nat, w.IsOneStep (w.run ⟨nodeLimit, some 0⟩)

/-- **Budgets cut runs short and change nothing else.** Whatever a set has been through, a walk that
begins at its inputs heeds its budgets. -/
theorem exists_start_heedsBudgets (hs : s.Reachable) (hdepth : s.depth = 0) (catalog : Catalog)
    (maxLength : Nat) : ∃ w, start s catalog maxLength = .ok w ∧ w.HeedsBudgets := by
  have hstands := hs.lockstep.standsAt_nil hdepth
  obtain ⟨w, hstart⟩ : ∃ w, start s catalog maxLength = .ok w := exists_start_eq_ok_iff.2 hdepth
  refine ⟨w, hstart, ?_, ?_, ?_⟩
  · intro limit hwithin
    rcases run_nodeLimit_cases hstands hstart limit with ⟨-, hsame⟩ | ⟨hbeyond, -⟩
    · exact hsame
    · exact absurd hwithin hbeyond
  · intro limit hbeyond
    obtain ⟨hwithin, -⟩ | ⟨-, v, hv, hexplores, hrun⟩ := run_nodeLimit_cases hstands hstart limit
    · exact absurd hwithin hbeyond
    · rw [hrun]
      exact ⟨v, hexplores, hv.fst_giveUp _, hv.counters_giveUp _, hv.path_giveUp _⟩
  · exact (standing_start hstands hstart).isOneStep (settled_start hstart)

/-- The walk from one to three by increments. -/
def byIncrements : Walk := root .oneToThree ⟨[.scalar .increment]⟩ 2

/-- From one to three by increments takes three nodes. With two nodes allowed the run is given up
after the second one, which is an increment undone at the greatest length; with three it is not
cut. -/
theorem heedsBudgets_of_one_to_three :
    ∃ v, ExampleSet.ofPairs [([.int 1], .int 3)] = .ok .oneToThree ∧
      start .oneToThree ⟨[.scalar .increment]⟩ 2 = .ok byIncrements ∧ byIncrements.HeedsBudgets ∧
      (byIncrements.run .unlimited).1 = .ok .solved ∧
      (byIncrements.run .unlimited).2.counters = ⟨3, 0, 2, 2⟩ ∧
      byIncrements.run ⟨some 3, none⟩ = byIncrements.run .unlimited ∧
      ExploresAt byIncrements 2 v ∧
      (byIncrements.run ⟨some 2, none⟩).1 = .ok .budgetExceeded ∧
      (byIncrements.run ⟨some 2, none⟩).2.counters = v.counters := by
  -- down by the first increment, past the one that reads the input again, and to the last one
  have hchain : ReflTransGen (Goes .unlimited) byIncrements (byIncrements.stepped 2) :=
    .head ⟨rfl, rfl, rfl⟩ (.single ⟨rfl, rfl, rfl⟩)
  have hrun : byIncrements.run .unlimited = (.ok .solved, byIncrements.stepped 3) :=
    (run_eq_of_goes hchain).trans (RunEnd.solved rfl rfl).run_eq
  obtain ⟨w, hstart, hheeds⟩ := exists_start_heedsBudgets ExampleSet.reachable_oneToThree rfl
    ⟨[.scalar .increment]⟩ 2
  obtain rfl : byIncrements = w := Except.ok.inj hstart
  have hcounters : (byIncrements.run .unlimited).2.counters = ⟨3, 0, 2, 2⟩ := by
    rw [hrun]
    rfl
  have hwithin : EndsWithin (max 3 1) (byIncrements.run .unlimited) := by
    rw [hrun] at hcounters ⊢
    rw [EndsWithin, hcounters]
    decide
  have hbeyond : ¬ EndsWithin (max 2 1) (byIncrements.run .unlimited) := by
    rw [hrun] at hcounters ⊢
    rw [EndsWithin, hcounters]
    decide
  obtain ⟨v, hexplores, hanswer, hspent, -⟩ := hheeds.beyond hbeyond
  refine ⟨v, rfl, hstart, hheeds, ?_, hcounters, hheeds.within hwithin, hexplores, hanswer,
    hspent⟩
  rw [hrun]

end Walk

end ProgramSearch

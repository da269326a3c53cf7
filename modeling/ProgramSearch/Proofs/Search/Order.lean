/-
# ProgramSearch.Proofs.Search.Order -- the order of the operators

Over a rearranged catalog a search visits the tree in another order, and it may find another
program. What it comes to is the same: `ExampleSet.Decides` says it in terms that no order enters.
The search is solved where some program it is to try reproduces every target, and otherwise it has
gone through the whole tree, whose counts are the same in any order. That every search comes to one
of the two takes that nothing fails on the way, and so that there are no strict accesses.
-/

import Mathlib.Order.Bounds.Basic
import ProgramSearch.Proofs.Rearranging
import ProgramSearch.Proofs.Search.Effort
import ProgramSearch.Proofs.Search.Faults
import ProgramSearch.Proofs.Search.Soundness

namespace ProgramSearch

/-! ## Rearranged catalogs -/

namespace Catalog

variable {catalog catalog' : Catalog}

theorem instructions_perm (h : catalog'.operators.Perm catalog.operators) (types : List Ty) :
    (catalog'.instructions types).Perm (catalog.instructions types) :=
  h.flatMap_right _

theorem admits_perm_iff (h : catalog'.operators.Perm catalog.operators) {types : List Ty}
    {maxLength : Nat} {steps : List Instruction} :
    catalog'.Admits types maxLength steps ↔ catalog.Admits types maxLength steps := by
  constructor
  · rintro ⟨hne, hlength, hoperators, hwellTyped⟩
    exact ⟨hne, hlength, fun ins hins => h.mem_iff.1 (hoperators ins hins), hwellTyped⟩
  · rintro ⟨hne, hlength, hoperators, hwellTyped⟩
    exact ⟨hne, hlength, fun ins hins => h.mem_iff.2 (hoperators ins hins), hwellTyped⟩

theorem programCount_perm (h : catalog'.operators.Perm catalog.operators) (length : Nat)
    (types : List Ty) : catalog'.programCount length types = catalog.programCount length types := by
  induction length generalizing types with
  | zero => rfl
  | succ length ih =>
    simp only [programCount, ih]
    refine (instructions_perm h types).foldr_eq' ?_ 0
    intro ins _ ins' _ count
    exact Nat.add_left_comm _ _ _

theorem longest_perm (h : catalog'.operators.Perm catalog.operators) (length : Nat)
    (types : List Ty) : catalog'.longest length types = catalog.longest length types := by
  have hlongest := catalog'.isGreatest_longest length types
  simp only [admits_perm_iff h] at hlongest
  exact hlongest.unique (catalog.isGreatest_longest length types)

/-- The tree of a rearranged catalog costs as much to go through. -/
theorem effort_perm (h : catalog'.operators.Perm catalog.operators) (length : Nat)
    (types : List Ty) : catalog'.effort length types = catalog.effort length types := by
  cases length with
  | zero => rfl
  | succ length => simp only [effort, programCount_perm h, longest_perm h]

end Catalog

/-! ## What a search decides -/

variable {s s' : ExampleSet} {catalog catalog' : Catalog} {maxLength : Nat}

/-- Some program that a search is to try reproduces every target. -/
def ExampleSet.Solvable (s : ExampleSet) (catalog : Catalog) (maxLength : Nat) : Prop :=
  ∃ steps, catalog.Admits s.types maxLength steps ∧
    ∀ x ∈ s.examples, Program.Reproduces steps x.registers.inputs x.target

/-- Where examples have come to their targets, the program they stand at reproduces these. -/
theorem ExampleSet.StandsAt.reproduces {steps : List Instruction} (h : s'.StandsAt steps)
    (hpairs : s'.pairs = s.pairs) (hsolved : s'.isSolved = true) :
    ∀ x ∈ s.examples, Program.Reproduces steps x.registers.inputs x.target := by
  intro x hx
  obtain ⟨x', hx', hpair⟩ := exists_mem_of_forall₂ (forall₂_of_pairs hpairs) hx
  have htarget := List.all_eq_true.1 hsolved x' hx'
  rw [Example.isSolved, decide_eq_true_iff, RegisterFile.newest?_eq_getLast?] at htarget
  refine ⟨x'.registers.visible, ?_, ?_⟩
  · rw [← Example.inputs_eq hpair]
    exact h x' hx'
  · rw [htarget]
    exact congrArg some (congrArg Prod.snd hpair)

/-- A search that is solved has come to a program that reproduces every target. -/
theorem solvable_of_search {limits : Limits} {report : Report} (hstands : s.StandsAt [])
    (h : search s catalog limits = (.ok report, s')) (hsolved : report.outcome = .solved) :
    s.Solvable catalog limits.maxLength := by
  obtain ⟨w, outcome, w', hstart, hrun, rfl, -⟩ := exists_run_of_search h
  obtain rfl : outcome = .solved := hsolved
  have hstanding := Walk.standing_start hstands hstart
  obtain ⟨htrail, hreached⟩ := hstanding.run_eq_solved (Walk.found_start hstart) hrun
  have hend := hstanding.run limits.budget
  rw [hrun] at hend
  exact ⟨w'.path, hend.admits htrail, hend.examples.reproduces hend.pairs hreached⟩

/-- Where everything was tried in vain, no program reproduces every target. -/
theorem not_solvable_of_explore (hs : s.Lockstep) (hdepth : s.depth = 0)
    (h : (s.explore catalog maxLength).1 = .exhausted) : ¬ s.Solvable catalog maxLength := by
  rintro ⟨steps, hsteps, hreproduces⟩
  have hmissed := Exploration.exploreFrom_exhausted h hs.alike hsteps
  obtain ⟨-, x, hx, registers, hrun, hmiss⟩ := hmissed.of_inputs (hs.standsAt_nil hdepth)
  obtain ⟨registers', hrun', htarget⟩ := hreproduces x hx
  obtain rfl : registers = registers' := Except.ok.inj (hrun.symm.trans hrun')
  exact hmiss htarget

/-- The report says whether the examples can be solved, and if not, it counts the whole tree. -/
structure ExampleSet.Decides (s : ExampleSet) (catalog : Catalog) (maxLength : Nat)
    (report : Report) : Prop where
  solved : s.Solvable catalog maxLength → report.outcome = .solved
  exhausted : ¬ s.Solvable catalog maxLength → report.outcome = .exhausted ∧
    report.statistics.counters = catalog.effort maxLength s.types

/-- A report of a search without budgets decides. -/
theorem decides_of_search {report : Report} (hs : s.Lockstep)
    (h : search s catalog ⟨maxLength, .unlimited⟩ = (.ok report, s')) :
    s.Decides catalog maxLength report := by
  obtain ⟨hdepth, hanswer, -⟩ := explore_of_search hs h
  cases houtcome : report.outcome with
  | solved =>
    have hsolvable := solvable_of_search (hs.standsAt_nil hdepth) h houtcome
    exact ⟨fun _ => houtcome, fun hnot => absurd hsolvable hnot⟩
  | exhausted =>
    obtain ⟨hending, heffort⟩ := effort_of_search hs h houtcome
    have hnot := not_solvable_of_explore hs hdepth hending
    exact ⟨fun hsolvable => absurd hsolvable hnot, fun _ => ⟨houtcome, heffort⟩⟩
  | budgetExceeded =>
    -- an exploration has no budget to spend
    rw [houtcome] at hanswer
    cases hending : (s.explore catalog maxLength).1 with
    | solved | failed | exhausted => simp [hending, Ending.answer, Except.map] at hanswer

/-- Without strict accesses a search without budgets comes to a report. -/
theorem exists_search_eq_ok (hs : s.Lockstep) (hdepth : s.depth = 0)
    (hstrict : .access .strict ∉ catalog.operators) (maxLength : Nat) :
    ∃ report s', search s catalog ⟨maxLength, .unlimited⟩ = (.ok report, s') := by
  rcases hsearch : search s catalog ⟨maxLength, .unlimited⟩ with ⟨e | report, s'⟩
  · have herror := congrArg Prod.fst hsearch
    obtain ⟨-, u, -, -, -, hfaults⟩ := exists_faults_of_search hs hdepth herror
    exact absurd hfaults.mem_operators hstrict
  · exact ⟨report, s', rfl⟩

/-! ## Searches in another order -/

/-- Searches without budgets over the two catalogs come to reports with one outcome, and if that is
that nothing was left to try, with the same counts. -/
def ExampleSet.EndsAlike (s : ExampleSet) (catalog catalog' : Catalog) (maxLength : Nat) : Prop :=
  ∀ searcher searcher' : Searcher, ∃ report report',
    (searcher.search s catalog ⟨maxLength, .unlimited⟩).1 = .ok report ∧
    (searcher'.search s catalog' ⟨maxLength, .unlimited⟩).1 = .ok report' ∧
    report'.outcome = report.outcome ∧
    (report.outcome = .exhausted →
      report'.statistics.counters = report.statistics.counters)

theorem ExampleSet.Solvable.perm (h : catalog'.operators.Perm catalog.operators) :
    s.Solvable catalog' maxLength ↔ s.Solvable catalog maxLength := by
  simp only [Solvable, Catalog.admits_perm_iff h]

theorem endsAlike_perm (hs : s.Lockstep) (hdepth : s.depth = 0)
    (hstrict : .access .strict ∉ catalog.operators)
    (h : catalog'.operators.Perm catalog.operators) : s.EndsAlike catalog catalog' maxLength := by
  intro searcher searcher'
  have hstrict' : .access .strict ∉ catalog'.operators := fun hmem => hstrict (h.mem_iff.1 hmem)
  obtain ⟨report, t, hsearch⟩ := exists_search_eq_ok hs hdepth hstrict maxLength
  obtain ⟨report', t', hsearch'⟩ := exists_search_eq_ok hs hdepth hstrict' maxLength
  have hdecides := decides_of_search hs hsearch
  have hdecides' := decides_of_search hs hsearch'
  refine ⟨report, report', ?_, ?_, ?_⟩
  · rw [(searcher.search_eq _ _ _).1, hsearch]
  · rw [(searcher'.search_eq _ _ _).1, hsearch']
  by_cases hsolvable : s.Solvable catalog maxLength
  · have hsolved := hdecides.solved hsolvable
    have hsolved' := hdecides'.solved ((ExampleSet.Solvable.perm h).2 hsolvable)
    refine ⟨hsolved'.trans hsolved.symm, fun hexhausted => ?_⟩
    rw [hsolved] at hexhausted
    cases hexhausted
  · have hnot : ¬ s.Solvable catalog' maxLength := mt (ExampleSet.Solvable.perm h).1 hsolvable
    obtain ⟨hexhausted, hcounters⟩ := hdecides.exhausted hsolvable
    obtain ⟨hexhausted', hcounters'⟩ := hdecides'.exhausted hnot
    refine ⟨hexhausted'.trans hexhausted.symm, fun _ => ?_⟩
    rw [hcounters, hcounters', Catalog.effort_perm h]

/-- **Without strict accesses the order of the operators matters only to the effort.** Where nothing
is found it does not matter even to that: a search over a rearranged catalog, and so over one that
was shuffled or ranked and not cut, is solved where a search over the catalog is. -/
theorem endsAlike_of_rearranged (hs : s.Reachable) (hdepth : s.depth = 0)
    (hstrict : .access .strict ∉ catalog.operators) (maxLength : Nat) :
    (∀ catalog' : Catalog, catalog'.operators.Perm catalog.operators →
      s.EndsAlike catalog catalog' maxLength) ∧
    (∀ seed, s.EndsAlike catalog (catalog.shuffled seed) maxLength) ∧
    ∀ prior, s.EndsAlike catalog (catalog.ranked prior none) maxLength := by
  have hperm (catalog' : Catalog) (h : catalog'.operators.Perm catalog.operators) :
      s.EndsAlike catalog catalog' maxLength := endsAlike_perm hs.lockstep hdepth hstrict h
  exact ⟨hperm, fun seed => hperm _ (catalog.shuffled_perm seed),
    fun prior => hperm _ (catalog.ranked_perm prior)⟩

/-- The walk from one to three that tries increments first. -/
def incrementsFirst : Walk := .root .oneToThree ⟨[.scalar .increment, .scalar .decrement]⟩ 2

/-- From one to three a search that tries increments first is there in three steps; so one that
tries decrements first gets there as well. -/
theorem endsAlike_of_increment_and_decrement :
    ∃ report report', ExampleSet.ofPairs [([.int 1], .int 3)] = .ok .oneToThree ∧
      (Searcher.fresh.search .oneToThree ⟨[.scalar .increment, .scalar .decrement]⟩
        ⟨2, .unlimited⟩).1 = .ok report ∧
      (Searcher.fresh.search .oneToThree ⟨[.scalar .decrement, .scalar .increment]⟩
        ⟨2, .unlimited⟩).1 = .ok report' ∧
      report.statistics.counters = ⟨3, 0, 2, 2⟩ ∧ report'.outcome = .solved := by
  have hstart : Walk.start .oneToThree ⟨[.scalar .increment, .scalar .decrement]⟩ 2 =
      .ok incrementsFirst := rfl
  have hchain : Relation.ReflTransGen (Walk.Goes .unlimited) incrementsFirst
      (incrementsFirst.stepped 2) := .head ⟨rfl, rfl, rfl⟩ (.single ⟨rfl, rfl, rfl⟩)
  have hrun : incrementsFirst.run .unlimited = (.ok .solved, incrementsFirst.stepped 3) :=
    (Walk.run_eq_of_goes hchain).trans (Walk.RunEnd.solved rfl rfl).run_eq
  have hfound : (Searcher.fresh.search .oneToThree ⟨[.scalar .increment, .scalar .decrement]⟩
      ⟨2, .unlimited⟩).1 = _ := congrArg Prod.fst (Searcher.search_of_run hstart hrun)
  obtain ⟨report, report', hreport, hreport', houtcome, -⟩ :=
    (endsAlike_of_rearranged ExampleSet.reachable_oneToThree rfl
      (show Operator.access .strict ∉ [.scalar .increment, .scalar .decrement] by decide) 2).1
      ⟨[.scalar .decrement, .scalar .increment]⟩ (.swap _ _ []) .fresh .fresh
  obtain ⟨hcounters, hsolved⟩ :
      report.statistics.counters = ⟨3, 0, 2, 2⟩ ∧ report.outcome = .solved := by
    obtain rfl := Except.ok.inj (hreport.symm.trans hfound)
    exact ⟨rfl, rfl⟩
  exact ⟨report, report', rfl, hreport, hreport', hcounters, houtcome.trans hsolved⟩

end ProgramSearch

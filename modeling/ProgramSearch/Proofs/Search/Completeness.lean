/-
# ProgramSearch.Proofs.Search.Completeness -- what an exhausted search has ruled out

A search that ends with nothing left to try has tried every program it is to try: each one runs on
every example and misses the target of at least one. The proof is about the plain recursion, by
induction on the height that is left, one instruction of the program at each depth; that a search
comes to what the recursion comes to is shown elsewhere. An instruction that some example refuses
would end a search with an error, and only a strict access can be refused.
-/

import ProgramSearch.Proofs.Search.Exploration

namespace ProgramSearch

/-- Run over the inputs, the instructions come to something else than the target. -/
def Program.Misses (steps : List Instruction) (inputs : List Value) (target : Value) : Prop :=
  ∃ registers, runFrom inputs steps = .ok registers ∧ registers.getLast? ≠ some target

/-! ## Situations before and after an instruction -/

namespace Situation

variable {ins : Instruction} {situations situations' : List Situation} {types : List Ty}

/-- The situations have registers of the given types, and there are some. -/
structure Alike (types : List Ty) (situations : List Situation) : Prop where
  nonempty : situations ≠ []
  types : ∀ x ∈ situations, x.registers.map Value.type = types

theorem Alike.types_eq (h : Alike types situations) : Situation.types situations = types := by
  cases situations with
  | nil => exact absurd rfl h.nonempty
  | cons x xs => exact h.types x List.mem_cons_self

/-- An instruction adds its result's type to the types of the registers. -/
theorem Alike.after (h : Alike types situations)
    (hafter : List.Forall₂ (fun x y => after ins x = .ok y) situations situations') :
    Alike (types ++ [ins.resultType]) situations' := by
  refine ⟨?_, ?_⟩
  · rintro rfl
    exact h.nonempty (List.forall₂_nil_right_iff.1 hafter)
  · intro y hy
    obtain ⟨x, hx, hxy⟩ := exists_mem_of_forall₂ hafter hy
    obtain ⟨v, hrun, rfl⟩ := after_eq_ok.1 hxy
    simp [h.types x hx, Instruction.run_type hrun]

/-- The instructions run in every situation, and in some they miss the target. -/
structure Missed (steps : List Instruction) (situations : List Situation) : Prop where
  runs : ∀ x ∈ situations, ∃ registers, Program.runFrom x.registers steps = .ok registers
  misses : ∃ x ∈ situations, Program.Misses steps x.registers x.target

/-- Where the targets have not been reached, no instruction more misses one of them. -/
theorem missed_nil (h : situations.all isSolved = false) : Missed [] situations := by
  refine ⟨fun x _ => ⟨x.registers, rfl⟩, ?_⟩
  obtain ⟨x, hx, hsolved⟩ := List.all_eq_false.1 h
  exact ⟨x, hx, x.registers, rfl, by simpa [isSolved] using hsolved⟩

/-- What is missed from the situations after an instruction is missed with it from those before. -/
theorem Missed.cons {rest : List Instruction}
    (hafter : List.Forall₂ (fun x y => after ins x = .ok y) situations situations')
    (h : Missed rest situations') : Missed (ins :: rest) situations := by
  refine ⟨?_, ?_⟩
  · intro x hx
    obtain ⟨y, hy, hxy⟩ := exists_mem_of_forall₂ hafter.flip hx
    obtain ⟨v, hrun, rfl⟩ := after_eq_ok.1 hxy
    obtain ⟨registers, hrest⟩ := h.runs _ hy
    exact ⟨registers, by rw [Program.runFrom, hrun]; exact hrest⟩
  · obtain ⟨y, hy, registers, hrest, hmiss⟩ := h.misses
    obtain ⟨x, hx, hxy⟩ := exists_mem_of_forall₂ hafter hy
    obtain ⟨v, hrun, rfl⟩ := after_eq_ok.1 hxy
    exact ⟨x, hx, registers, by rw [Program.runFrom, hrun]; exact hrest, hmiss⟩

end Situation

/-! ## The recursion -/

namespace Exploration

open Situation

variable {catalog : Catalog} {types : List Ty} {height depth : Nat} {situations : List Situation}
  {counters : Counters}

theorem below_fst (catalog : Catalog) (height depth : Nat) (situations : List Situation)
    (counters : Counters) :
    (below catalog height depth situations counters).1 =
      (exploreFrom catalog height depth situations counters).1 := by
  unfold below
  split
  · rename_i hres
    rw [hres]
  · rfl

/-- Where everything was tried in vain, the first instruction was, with all that is below it, and
then the rest was. -/
theorem tryEach_cons_exhausted {next : List Situation → Counters → Ending × Counters}
    {first : Instruction} {rest : List Instruction}
    (h : (tryEach depth next situations (first :: rest) counters).1 = .exhausted) :
    ∃ situations' after, situations.mapM (Situation.after first) = .ok situations' ∧
      situations'.all isSolved = false ∧
      next situations' (counters.explored (depth + 1)) = (.exhausted, after) ∧
      tryEach depth next situations (first :: rest) counters =
        tryEach depth next situations rest after := by
  rw [tryEach] at h
  cases hfirst : situations.mapM (Situation.after first) with
  | error e => simp [hfirst] at h
  | ok situations' =>
    cases hsolved : situations'.all isSolved with
    | true => simp [hfirst, hsolved] at h
    | false =>
      rcases hnext : next situations' (counters.explored (depth + 1)) with ⟨path | e | _, after⟩
      · simp [hfirst, hsolved, hnext] at h
      · simp [hfirst, hsolved, hnext] at h
      · exact ⟨situations', after, rfl, hsolved, hnext, by simp [tryEach, hfirst, hsolved, hnext]⟩

/-- Where everything was tried in vain, so was each instruction, with all that is below it. -/
theorem tryEach_exhausted {next : List Situation → Counters → Ending × Counters}
    {listing : List Instruction} {ins : Instruction}
    (h : (tryEach depth next situations listing counters).1 = .exhausted) (hins : ins ∈ listing) :
    ∃ situations' before, situations.mapM (Situation.after ins) = .ok situations' ∧
      situations'.all isSolved = false ∧ (next situations' before).1 = .exhausted := by
  induction listing generalizing counters with
  | nil => cases hins
  | cons first rest ih =>
    obtain ⟨situations', after, hfirst, hsolved, hnext, hrest⟩ := tryEach_cons_exhausted h
    rcases List.mem_cons.1 hins with rfl | hins
    · exact ⟨situations', _, hfirst, hsolved, by rw [hnext]⟩
    · rw [hrest] at h
      exact ih h hins

/-- Every program of an exhausted exploration misses. -/
theorem exploreFrom_exhausted {steps : List Instruction}
    (h : (exploreFrom catalog height depth situations counters).1 = .exhausted)
    (halike : Alike types situations) (hsteps : catalog.Admits types height steps) :
    Missed steps situations := by
  induction height generalizing depth situations counters types steps with
  | zero =>
    exact absurd (List.eq_nil_of_length_eq_zero (Nat.le_zero.1 hsteps.length_le)) hsteps.nonempty
  | succ height ih =>
    cases steps with
    | nil => exact absurd rfl hsteps.nonempty
    | cons ins rest =>
      obtain ⟨hins, hrest⟩ := hsteps.cons_cases
      -- the first instruction was tried, and so was all that can follow it
      rw [exploreFrom_succ, halike.types_eq] at h
      obtain ⟨situations', before, hmap, hsolved, hbelow⟩ := tryEach_exhausted h hins
      have hafter := mapM_eq_ok_iff.1 hmap
      refine Missed.cons hafter ?_
      rcases hrest with rfl | hrest
      · exact missed_nil hsolved
      · rw [below_fst] at hbelow
        exact ih hbelow (halike.after hafter) hrest

theorem tryEach_failed {next : List Situation → Counters → Ending × Counters}
    {listing : List Instruction} {e : Error}
    (h : (tryEach depth next situations listing counters).1 = .failed e) :
    ∃ ins ∈ listing, situations.mapM (Situation.after ins) = .error e ∨
      ∃ situations' before, situations.mapM (Situation.after ins) = .ok situations' ∧
        (next situations' before).1 = .failed e := by
  induction listing generalizing counters with
  | nil => simp [tryEach] at h
  | cons first rest ih =>
    rw [tryEach] at h
    cases hfirst : situations.mapM (Situation.after first) with
    | error e' =>
      obtain rfl : e' = e := by simpa [hfirst] using h
      exact ⟨first, List.mem_cons_self, .inl hfirst⟩
    | ok situations' =>
      cases hsolved : situations'.all isSolved with
      | true => simp [hfirst, hsolved] at h
      | false =>
        rcases hnext : next situations' (counters.explored (depth + 1)) with ⟨path | e' | _, after⟩
        · simp [hfirst, hsolved, hnext] at h
        · obtain rfl : e' = e := by simpa [hfirst, hsolved, hnext] using h
          exact ⟨first, List.mem_cons_self, .inr ⟨situations', _, hfirst, by rw [hnext]⟩⟩
        · obtain ⟨ins, hins, hcases⟩ := ih (by simpa [hfirst, hsolved, hnext] using h)
          exact ⟨ins, List.mem_cons_of_mem first hins, hcases⟩

/-- An exploration fails only where the catalog has a strict access. -/
theorem exploreFrom_failed {e : Error}
    (h : (exploreFrom catalog height depth situations counters).1 = .failed e)
    (halike : Alike types situations) : .access .strict ∈ catalog.operators := by
  induction height generalizing depth situations counters types with
  | zero => simp [exploreFrom] at h
  | succ height ih =>
    rw [exploreFrom_succ, halike.types_eq] at h
    obtain ⟨ins, hins, hmap | ⟨situations', before, hmap, hbelow⟩⟩ := tryEach_failed h
    · -- what the listing offers is well typed, and only strict accesses fail on what suits them
      obtain ⟨x, hx, he⟩ := exists_eq_error_of_mapM hmap
      obtain ⟨hop, htyped⟩ := Catalog.mem_instructions.1 hins
      by_contra hstrict
      have hne : ins.op ≠ .access .strict := fun heq => hstrict (heq ▸ hop)
      rw [← halike.types x hx] at htyped
      obtain ⟨v, hv⟩ := Instruction.exists_run_eq_ok htyped hne
      exact absurd (hv.symm.trans (after_eq_error.1 he)) (by simp)
    · rw [below_fst] at hbelow
      exact ih hbelow (halike.after (mapM_eq_ok_iff.1 hmap))

end Exploration

/-! ## Whole searches -/

variable {s : ExampleSet}

/-- A search without budgets ends as the exploration does. -/
theorem search_unlimited (hs : s.Lockstep) (hdepth : s.depth = 0) (catalog : Catalog)
    (maxLength : Nat) :
    (search s catalog ⟨maxLength, .unlimited⟩).1.map Report.outcome =
      (s.explore catalog maxLength).1.answer.map Prod.fst := by
  obtain ⟨w, answer, w', hstart, hrun, hanswer, -⟩ :=
    Walk.exists_run_start hs hdepth catalog maxLength
  have hlimits : Walk.start s catalog (Limits.mk maxLength .unlimited).maxLength = .ok w := hstart
  rw [search_of_start hlimits, ← hanswer, hrun]
  cases answer <;> rfl

theorem ExampleSet.Lockstep.alike (hs : s.Lockstep) :
    Situation.Alike s.types (Situation.ofExamples s) := by
  refine ⟨?_, ?_⟩
  · intro hnil
    exact hs.nonempty (List.map_eq_nil_iff.1 hnil)
  · intro situation hsituation
    obtain ⟨x, hx, rfl⟩ := List.mem_map.1 hsituation
    exact hs.types x hx

/-- At depth 0 the registers of the situations are the inputs of the examples. -/
theorem Situation.Missed.of_inputs {steps : List Instruction} (hstands : s.StandsAt [])
    (h : Missed steps (ofExamples s)) :
    (∀ x ∈ s.examples, ∃ registers, Program.runFrom x.registers.inputs steps = .ok registers) ∧
      ∃ x ∈ s.examples, Program.Misses steps x.registers.inputs x.target := by
  have hvisible : ∀ x ∈ s.examples, x.registers.visible = x.registers.inputs := by
    intro x hx
    exact (hstands x hx).visible_eq_inputs
  refine ⟨?_, ?_⟩
  · intro x hx
    rw [← hvisible x hx]
    exact h.runs _ (List.mem_map_of_mem hx)
  · obtain ⟨situation, hsituation, hmiss⟩ := h.misses
    obtain ⟨x, hx, rfl⟩ := List.mem_map.1 hsituation
    exact ⟨x, hx, by rw [← hvisible x hx]; exact hmiss⟩

/-- **A search that ends with nothing left to try has ruled out every program.** Over the best
operators, each program it is to try runs on every example and misses the target of some. So where
such a program reproduces every target, and no operator kept is a strict access, the search finds
one. -/
theorem searchBest_complete (hs : s.Reachable) (hdepth : s.depth = 0) (maxLength : Nat)
    (catalog : Catalog) (prior : Option Prior) (cutoff : Option Nat) :
    (∀ report, (searchBest s maxLength catalog prior cutoff).1 = .ok report →
      report.outcome = .exhausted →
      ∀ steps, (catalog.best prior cutoff).Admits s.types maxLength steps →
        (∀ x ∈ s.examples, ∃ registers,
          Program.runFrom x.registers.inputs steps = .ok registers) ∧
        ∃ x ∈ s.examples, Program.Misses steps x.registers.inputs x.target) ∧
    ∀ steps, (catalog.best prior cutoff).Admits s.types maxLength steps →
      (∀ x ∈ s.examples, Program.Reproduces steps x.registers.inputs x.target) →
      .access .strict ∉ (catalog.best prior cutoff).operators →
      ∃ report, (searchBest s maxLength catalog prior cutoff).1 = .ok report ∧
        report.outcome = .solved := by
  have hlockstep := hs.lockstep
  have hstands := hlockstep.standsAt_nil hdepth
  have houtcome := search_unlimited hlockstep hdepth (catalog.best prior cutoff) maxLength
  have hsearch : searchBest s maxLength catalog prior cutoff =
      search s (catalog.best prior cutoff) ⟨maxLength, .unlimited⟩ := rfl
  rw [← hsearch] at houtcome
  have hmissed : (s.explore (catalog.best prior cutoff) maxLength).1 = .exhausted →
      ∀ steps, (catalog.best prior cutoff).Admits s.types maxLength steps →
        Situation.Missed steps (Situation.ofExamples s) := by
    intro hexhausted steps hsteps
    exact Exploration.exploreFrom_exhausted hexhausted hlockstep.alike hsteps
  refine ⟨?_, ?_⟩
  · intro report hreport hexhausted steps hsteps
    rw [hreport, Except.map, hexhausted] at houtcome
    cases hending : (s.explore (catalog.best prior cutoff) maxLength).1 with
    | solved path => simp [hending, Ending.answer, Except.map] at houtcome
    | failed e => simp [hending, Ending.answer, Except.map] at houtcome
    | exhausted => exact (hmissed hending steps hsteps).of_inputs hstands
  · intro steps hsteps hreproduces hstrict
    cases hending : (s.explore (catalog.best prior cutoff) maxLength).1 with
    | solved path =>
      rw [hending] at houtcome
      cases hreport : (searchBest s maxLength catalog prior cutoff).1 with
      | error e => simp [hreport, Ending.answer, Except.map] at houtcome
      | ok report =>
        rw [hreport] at houtcome
        exact ⟨report, rfl, Except.ok.inj houtcome⟩
    | failed e => exact absurd (Exploration.exploreFrom_failed hending hlockstep.alike) hstrict
    | exhausted =>
      -- the program that reproduces every target would have to miss one
      obtain ⟨-, x, hx, registers, hrun, hmiss⟩ :=
        (hmissed hending steps hsteps).of_inputs hstands
      obtain ⟨registers', hrun', htarget⟩ := hreproduces x hx
      obtain rfl : registers = registers' := Except.ok.inj (hrun.symm.trans hrun')
      exact absurd htarget hmiss

/-- The instructions that lead from one to three. -/
def twoIncrements : List Instruction :=
  [⟨.scalar .increment, .one 0⟩, ⟨.scalar .increment, .one 1⟩]

/-- From one to three with the first operator of a catalog alone, so without its strict access. -/
theorem searchBest_of_one_to_three :
    ∃ report, ExampleSet.ofPairs [([.int 1], .int 3)] = .ok .oneToThree ∧
      (searchBest .oneToThree 2 ⟨[.scalar .increment, .access .strict]⟩ none (some 1)).1 =
        .ok report ∧
      report.outcome = .solved := by
  have hsteps :
      Catalog.Admits ⟨[.scalar .increment]⟩ ExampleSet.oneToThree.types 2 twoIncrements :=
    ⟨by decide, by decide, by decide, .cons rfl (.cons rfl .nil)⟩
  have hreproduces : ∀ x ∈ ExampleSet.oneToThree.examples,
      Program.Reproduces twoIncrements x.registers.inputs x.target := by
    intro x hx
    rw [List.mem_singleton.1 hx]
    exact ⟨[.int 1, .int 2, .int 3], rfl, rfl⟩
  obtain ⟨report, hreport, hsolved⟩ := (searchBest_complete ExampleSet.reachable_oneToThree rfl 2
    ⟨[.scalar .increment, .access .strict]⟩ none (some 1)).2 _ hsteps hreproduces (by decide)
  exact ⟨report, rfl, hreport, hsolved⟩

end ProgramSearch

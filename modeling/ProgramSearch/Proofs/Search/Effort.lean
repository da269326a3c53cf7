/-
# ProgramSearch.Proofs.Search.Effort -- what it costs to try everything in vain

A search that ends with nothing left to try has gone through the whole tree of programs, and the
tree is decided by the types of the inputs: the values, the targets and the number of examples make
no difference to what such a search costs. `Catalog.effort` counts it on the tree. Every node is
applied once. Every node with room below it, and the root, has its depth entered, and every depth
but the first is left again, also one that has nothing to try in it.
-/

import Mathlib.Order.Bounds.Defs
import ProgramSearch.Proofs.Search.Completeness

namespace ProgramSearch

/-! ## The longest programs -/

/-- The greatest of some numbers, taken one by one, zero if there are none. -/
theorem isGreatest_foldr_max {α : Type} (f : α → Nat) (xs : List α) :
    IsGreatest {n | n = 0 ∨ ∃ x ∈ xs, f x = n}
      (xs.foldr (fun x most => max (f x) most) 0) := by
  induction xs with
  | nil =>
    refine ⟨.inl rfl, ?_⟩
    rintro n (rfl | ⟨x, hx, -⟩)
    · exact Nat.le_refl 0
    · cases hx
  | cons x xs ih =>
    obtain ⟨hmem, hle⟩ := ih
    rw [List.foldr_cons]
    refine ⟨?_, ?_⟩
    · rcases Nat.le_total (f x) (xs.foldr (fun x most => max (f x) most) 0) with hlast | hfirst
      · rw [Nat.max_eq_right hlast]
        rcases hmem with hzero | ⟨y, hy, hmost⟩
        · exact .inl hzero
        · exact .inr ⟨y, List.mem_cons_of_mem x hy, hmost⟩
      · rw [Nat.max_eq_left hfirst]
        exact .inr ⟨x, List.mem_cons_self, rfl⟩
    · rintro n (rfl | ⟨y, hy, rfl⟩)
      · exact Nat.zero_le _
      · rcases List.mem_cons.1 hy with rfl | hy
        · exact Nat.le_max_left _ _
        · exact Nat.le_trans (hle (.inr ⟨y, hy, rfl⟩)) (Nat.le_max_right _ _)

namespace Catalog

variable {catalog : Catalog} {types : List Ty} {length : Nat}

/-- The length of the longest well-typed programs of at most `length` instructions, over inputs of
the given types. -/
def longest (catalog : Catalog) : Nat → List Ty → Nat
  | 0, _ => 0
  | length + 1, types =>
    (catalog.instructions types).foldr
      (fun ins most => max (1 + catalog.longest length (types ++ [ins.resultType])) most) 0

theorem Admits.cons {ins : Instruction} {rest : List Instruction}
    (hins : ins ∈ catalog.instructions types)
    (hrest : rest = [] ∨ catalog.Admits (types ++ [ins.resultType]) length rest) :
    catalog.Admits types (length + 1) (ins :: rest) := by
  obtain ⟨hop, htyped⟩ := mem_instructions.1 hins
  rcases hrest with rfl | ⟨-, hlength, hoperators, hwellTyped⟩
  · exact ⟨by simp, by simp, by simpa using hop, .cons htyped .nil⟩
  · exact ⟨by simp, Nat.succ_le_succ hlength, List.forall_mem_cons.2 ⟨hop, hoperators⟩,
      .cons htyped hwellTyped⟩

/-- No program is longer, and one is as long; where there is nothing to try it is the empty one. -/
theorem isGreatest_longest (length : Nat) (types : List Ty) :
    IsGreatest {n | ∃ steps, (steps = [] ∨ catalog.Admits types length steps) ∧ steps.length = n}
      (catalog.longest length types) := by
  induction length generalizing types with
  | zero =>
    refine ⟨⟨[], .inl rfl, rfl⟩, ?_⟩
    rintro n ⟨steps, rfl | hsteps, rfl⟩
    · exact Nat.le_refl 0
    · exact hsteps.length_le
  | succ length ih =>
    obtain ⟨hmem, hle⟩ := isGreatest_foldr_max
      (fun ins => 1 + catalog.longest length (types ++ [ins.resultType]))
      (catalog.instructions types)
    refine ⟨?_, ?_⟩
    · rcases hmem with hzero | ⟨ins, hins, hmost⟩
      · exact ⟨[], .inl rfl, hzero.symm⟩
      · obtain ⟨rest, hrest, hlength⟩ := (ih (types ++ [ins.resultType])).1
        refine ⟨ins :: rest, .inr (.cons hins hrest), ?_⟩
        rw [List.length_cons, hlength, Nat.add_comm]
        exact hmost
    · rintro n ⟨steps, rfl | hsteps, rfl⟩
      · exact Nat.zero_le _
      · cases steps with
        | nil => exact Nat.zero_le _
        | cons ins rest =>
          obtain ⟨hins, hrest⟩ := hsteps.cons_cases
          have hlength := (ih (types ++ [ins.resultType])).2 ⟨rest, hrest, rfl⟩
          refine Nat.le_trans ?_ (hle (.inr ⟨ins, hins, rfl⟩))
          rw [List.length_cons, Nat.add_comm]
          exact Nat.add_le_add_left hlength 1

/-! ## Effort -/

/-- The counts of going through all programs of at most `length` instructions over inputs of the
given types: every program is a node; the first depth is entered, and so is one below every program
with room for another instruction, and all but the first are left. -/
def effort (catalog : Catalog) : Nat → List Ty → Counters
  | 0, _ => .zero
  | length + 1, types =>
    { nodes := catalog.programCount (length + 1) types
      backtracks := catalog.programCount length types
      inits := 1 + catalog.programCount length types
      deepest := catalog.longest (length + 1) types }

@[simp] theorem effort_nodes (length : Nat) (types : List Ty) :
    (catalog.effort length types).nodes = catalog.programCount length types := by
  cases length <;> rfl

@[simp] theorem effort_deepest (length : Nat) (types : List Ty) :
    (catalog.effort length types).deepest = catalog.longest length types := by
  cases length <;> rfl

/-- The counts of trying one instruction and then going through all programs that begin with it and
have at most `length` more. Each depth that is entered below the instruction is left. -/
def effortOf (catalog : Catalog) (length : Nat) (types : List Ty) (ins : Instruction) : Counters :=
  let below := catalog.effort length (types ++ [ins.resultType])
  ⟨1 + below.nodes, below.inits, below.inits, 1 + below.deepest⟩

end Catalog

/-- The counts after some more work, which began with `depth` instructions applied. -/
def Counters.plus (c : Counters) (depth : Nat) (work : Counters) : Counters :=
  ⟨c.nodes + work.nodes, c.backtracks + work.backtracks, c.inits + work.inits,
    max c.deepest (depth + work.deepest)⟩

theorem Counters.plus_zero {c : Counters} {depth : Nat} (hdepth : depth ≤ c.deepest) :
    c.plus depth .zero = c := by
  simp only [plus, zero, Nat.add_zero, Nat.max_eq_left hdepth]

theorem Counters.zero_plus (work : Counters) : Counters.zero.plus 0 work = work := by
  simp only [plus, zero, Nat.zero_add, Nat.zero_max]

theorem Counters.plus_plus (c : Counters) (depth : Nat) (first rest : Counters) :
    (c.plus depth first).plus depth rest = c.plus depth (first.plus 0 rest) := by
  simp only [plus, mk.injEq]
  omega

theorem Counters.plus_entered (c : Counters) (depth : Nat) (work : Counters) :
    c.plus depth work.entered = c.entered.plus depth work := by
  simp only [plus, entered, Nat.add_right_comm, Nat.add_assoc]

namespace Catalog

variable {catalog : Catalog} {types : List Ty} {length : Nat}

/-- The counts of going through some instructions in turn, with all that is below each. -/
def effortOfAll (catalog : Catalog) (length : Nat) (types : List Ty) (listing : List Instruction) :
    Counters :=
  listing.foldr (fun ins work => (catalog.effortOf length types ins).plus 0 work) .zero

theorem effortOfAll_eq (length : Nat) (types : List Ty) (listing : List Instruction) :
    catalog.effortOfAll length types listing =
      { nodes := listing.foldr (fun ins count =>
          1 + catalog.programCount length (types ++ [ins.resultType]) + count) 0
        backtracks := listing.foldr (fun ins count =>
          (catalog.effort length (types ++ [ins.resultType])).inits + count) 0
        inits := listing.foldr (fun ins count =>
          (catalog.effort length (types ++ [ins.resultType])).inits + count) 0
        deepest := listing.foldr (fun ins most =>
          max (1 + catalog.longest length (types ++ [ins.resultType])) most) 0 } := by
  induction listing with
  | nil => rfl
  | cons ins rest ih =>
    rw [effortOfAll, List.foldr_cons, ← effortOfAll, ih]
    simp [Counters.plus, effortOf]

/-- The depths entered below the first are as many as the programs with room for an instruction. -/
theorem foldr_inits (length : Nat) (types : List Ty) :
    (catalog.instructions types).foldr (fun ins count =>
      (catalog.effort length (types ++ [ins.resultType])).inits + count) 0 =
        catalog.programCount length types := by
  cases length with
  | succ length => rfl
  | zero =>
    -- at the greatest length no depth is entered
    induction catalog.instructions types with
    | nil => rfl
    | cons ins rest ih => exact (Nat.zero_add _).trans ih

/-- Going through a whole listing is going through the tree; the first depth is entered before. -/
theorem effort_succ (length : Nat) (types : List Ty) :
    catalog.effort (length + 1) types =
      (catalog.effortOfAll length types (catalog.instructions types)).entered := by
  rw [effortOfAll_eq, foldr_inits]
  exact congrArg (fun inits => Counters.mk _ _ inits _) (Nat.add_comm 1 _)

/-- An instruction is a node, and then come the programs below it. The depth below is left, unless
there was no room for it. -/
theorem plus_effortOf (length : Nat) (types : List Ty) (ins : Instruction) (c : Counters)
    (depth : Nat) :
    c.plus depth (catalog.effortOf length types ins) =
      let after := (c.explored (depth + 1)).plus (depth + 1)
        (catalog.effort length (types ++ [ins.resultType]))
      if length = 0 then after else after.left := by
  cases length with
  | zero =>
    simp only [Counters.plus, effortOf, effort, Counters.zero, Counters.explored, if_true,
      Counters.mk.injEq, true_and]
    omega
  | succ length =>
    simp only [Counters.plus, effortOf, effort, Counters.explored, Counters.left,
      Nat.succ_ne_zero, if_false, Counters.mk.injEq, true_and]
    omega

end Catalog

/-! ## Explorations in vain -/

namespace Exploration

open Situation

variable {catalog : Catalog} {types : List Ty} {height depth : Nat} {situations : List Situation}
  {counters : Counters}

theorem below_snd (h : (exploreFrom catalog height depth situations counters).1 = .exhausted) :
    (below catalog height depth situations counters).2 =
      if height = 0 then (exploreFrom catalog height depth situations counters).2
      else (exploreFrom catalog height depth situations counters).2.left := by
  rcases hres : exploreFrom catalog height depth situations counters with ⟨ending, after⟩
  rw [hres] at h
  obtain rfl : ending = .exhausted := h
  unfold below
  rw [hres]

/-- Going through a listing in vain costs what its instructions cost, if what is below each of them
costs what is to be expected. -/
theorem tryEach_counters {listing : List Instruction}
    (hbelow : ∀ ins situations' counters',
      situations.mapM (Situation.after ins) = .ok situations' → depth + 1 ≤ counters'.deepest →
      (exploreFrom catalog height (depth + 1) situations' counters').1 = .exhausted →
      (exploreFrom catalog height (depth + 1) situations' counters').2 =
        counters'.plus (depth + 1) (catalog.effort height (types ++ [ins.resultType])))
    (h : (tryEach depth (below catalog height (depth + 1)) situations listing counters).1 =
      .exhausted) (hdepth : depth ≤ counters.deepest) :
    (tryEach depth (below catalog height (depth + 1)) situations listing counters).2 =
      counters.plus depth (catalog.effortOfAll height types listing) := by
  induction listing generalizing counters with
  | nil => exact (Counters.plus_zero hdepth).symm
  | cons ins rest ih =>
    obtain ⟨situations', after, hmap, -, hnext, hrest⟩ := tryEach_cons_exhausted h
    have hexhausted := congrArg Prod.fst hnext
    rw [below_fst] at hexhausted
    have hdeep : depth + 1 ≤ (counters.explored (depth + 1)).deepest := Nat.le_max_right _ _
    have hafter : after = counters.plus depth (catalog.effortOf height types ins) := by
      rw [Catalog.plus_effortOf, ← hbelow ins situations' _ hmap hdeep hexhausted]
      exact (congrArg Prod.snd hnext).symm.trans (below_snd hexhausted)
    have hdepth' : depth ≤ after.deepest := by
      rw [hafter]
      exact Nat.le_trans hdepth (Nat.le_max_left _ _)
    rw [hrest] at h ⊢
    rw [ih h hdepth', hafter, Counters.plus_plus]
    rfl

/-- An exploration in vain costs what the types of the registers tell. -/
theorem exploreFrom_counters
    (h : (exploreFrom catalog height depth situations counters).1 = .exhausted)
    (halike : Alike types situations) (hdepth : depth ≤ counters.deepest) :
    (exploreFrom catalog height depth situations counters).2 =
      counters.plus depth (catalog.effort height types) := by
  induction height generalizing depth situations counters types with
  | zero => exact (Counters.plus_zero hdepth).symm
  | succ height ih =>
    rw [exploreFrom_succ, halike.types_eq] at h ⊢
    rw [Catalog.effort_succ, Counters.plus_entered]
    refine tryEach_counters ?_ h hdepth
    intro ins situations' counters' hmap hdeep hexhausted
    exact ih hexhausted (halike.after (mapM_eq_ok_iff.1 hmap)) hdeep

end Exploration

/-! ## Whole searches -/

variable {s s' : ExampleSet} {catalog : Catalog}

/-- A search without budgets that comes to a report has explored the tree: the report has the
outcome and the counts of the exploration. -/
theorem explore_of_search {maxLength : Nat} {report : Report} (hs : s.Lockstep)
    (h : search s catalog ⟨maxLength, .unlimited⟩ = (.ok report, s')) :
    s.depth = 0 ∧ (s.explore catalog maxLength).1.answer.map Prod.fst = .ok report.outcome ∧
      (s.explore catalog maxLength).2 = report.statistics.counters := by
  obtain ⟨w, outcome, w', hstart, hrun, rfl, -⟩ := exists_run_of_search h
  have hdepth := Walk.exists_start_eq_ok_iff.1 ⟨w, hstart⟩
  obtain ⟨v, answer, v', hstart', hrun', hanswer, hcounters⟩ :=
    Walk.exists_run_start hs hdepth catalog maxLength
  obtain rfl : w = v := Except.ok.inj (hstart.symm.trans hstart')
  obtain ⟨rfl, rfl⟩ := Prod.mk.inj (hrun.symm.trans hrun')
  rw [← hanswer, ← hcounters]
  exact ⟨hdepth, rfl, rfl⟩

theorem Ending.eq_exhausted {ending : Ending}
    (h : ending.answer.map Prod.fst = .ok .exhausted) : ending = .exhausted := by
  cases ending with
  | exhausted => rfl
  | solved | failed => simp [answer, Except.map] at h

/-- A search without budgets that ends with nothing left to try has tried everything in vain, and
its counts are those of the whole tree. -/
theorem effort_of_search {maxLength : Nat} {report : Report} (hs : s.Lockstep)
    (h : search s catalog ⟨maxLength, .unlimited⟩ = (.ok report, s'))
    (hexhausted : report.outcome = .exhausted) :
    (s.explore catalog maxLength).1 = .exhausted ∧
      report.statistics.counters = catalog.effort maxLength s.types := by
  obtain ⟨-, hanswer, hcounters⟩ := explore_of_search hs h
  rw [hexhausted] at hanswer
  have hending := Ending.eq_exhausted hanswer
  have hexplore := Exploration.exploreFrom_counters hending hs.alike (Nat.le_refl 0)
  refine ⟨hending, ?_⟩
  rw [← hcounters, ExampleSet.explore, hexplore, Counters.zero_plus]

/-- **What an exhausted search costs does not depend on values.** Whatever the values, the targets
and the number of the examples are, a search without budgets that ends with nothing left to try
costs what the catalog, the types of the inputs and the greatest length tell; and the deepest it has
been is the length of the longest programs. -/
theorem counters_of_exhausted {searcher searcher' : Searcher} {maxLength : Nat} {report : Report}
    (hs : s.Reachable)
    (h : searcher.search s catalog ⟨maxLength, .unlimited⟩ = (.ok report, searcher', s'))
    (hexhausted : report.outcome = .exhausted) :
    report.statistics.counters = catalog.effort maxLength s.types ∧
      IsGreatest
        {n | ∃ steps, (steps = [] ∨ catalog.Admits s.types maxLength steps) ∧ steps.length = n}
        report.statistics.counters.deepest := by
  obtain ⟨hsearch, -⟩ := Searcher.search_eq_iff.1 h
  obtain ⟨-, heffort⟩ := effort_of_search hs.lockstep hsearch hexhausted
  refine ⟨heffort, ?_⟩
  rw [heffort, Catalog.effort_deepest]
  exact Catalog.isGreatest_longest maxLength s.types

/-- One example, with a target below its input. -/
def oneToZero : ExampleSet := ⟨[⟨.ofInputs [.int 1], .int 0⟩]⟩

/-- The walk from one to zero by increments. -/
def oneToZeroWalk : Walk := .root oneToZero ⟨[.scalar .increment]⟩ 2

/-- Increments alone do not come down from one to zero: below the first one there are two more to
try, which fill the program. -/
theorem counters_of_one_to_zero :
    ∃ searcher' report s', ExampleSet.ofPairs [([.int 1], .int 0)] = .ok oneToZero ∧
      Searcher.fresh.search oneToZero ⟨[.scalar .increment]⟩ ⟨2, .unlimited⟩ =
        (.ok report, searcher', s') ∧
      report.statistics.counters = ⟨3, 1, 2, 2⟩ := by
  have hs : ExampleSet.ofPairs [([.int 1], .int 0)] = .ok oneToZero := rfl
  have hstart : Walk.start oneToZero ⟨[.scalar .increment]⟩ 2 = .ok oneToZeroWalk := rfl
  -- down by the first increment, past the two below it, and back up
  have hchain : Relation.ReflTransGen (Walk.Goes .unlimited) oneToZeroWalk
      (oneToZeroWalk.stepped 4) :=
    .head ⟨rfl, rfl, rfl⟩ (.head ⟨rfl, rfl, rfl⟩ (.head ⟨rfl, rfl, rfl⟩ (.single ⟨rfl, rfl, rfl⟩)))
  have hrun : oneToZeroWalk.run .unlimited = (.ok .exhausted, oneToZeroWalk.stepped 5) :=
    (Walk.run_eq_of_goes hchain).trans (Walk.RunEnd.exhausted rfl rfl).run_eq
  have hsearch : Searcher.fresh.search oneToZero ⟨[.scalar .increment]⟩ ⟨2, .unlimited⟩ = _ :=
    Searcher.search_of_run hstart hrun
  obtain ⟨hcounters, -⟩ := counters_of_exhausted (.ofPairs hs) hsearch rfl
  exact ⟨_, _, _, hs, hsearch, hcounters⟩

end ProgramSearch

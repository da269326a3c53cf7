/-
# ProgramSearch.Proofs.History -- the sets of examples there can be

A set of examples comes from register files and targets, and then has a history: instructions are
applied to it or refused, undone or reset, and searches are made on it. Whatever the history, its
examples stay in lockstep; so a set at depth 0 shows its inputs, however much storage it retains.
-/

import ProgramSearch.Search.Searcher
import ProgramSearch.Proofs.Search.Runs

namespace ProgramSearch.ExampleSet

/-- The sets that can be built, used and searched. -/
inductive Reachable : ExampleSet → Prop where
  | ofStates {states : List RegisterFile} {targets : List Value} {s : ExampleSet} :
      ofStates states targets = .ok s → Reachable s
  | apply {s : ExampleSet} (ins : Instruction) : Reachable s → Reachable (s.apply ins).2
  | undo {s : ExampleSet} : Reachable s → Reachable s.undo.2
  | reset {s : ExampleSet} : Reachable s → Reachable s.reset
  | search {s : ExampleSet} (catalog : Catalog) (limits : Limits) :
      Reachable s → Reachable (search s catalog limits).2

variable {s s' : ExampleSet}

theorem Reachable.ofPairs {pairs : List (List Value × Value)} (h : ofPairs pairs = .ok s) :
    s.Reachable :=
  .ofStates h

/-- The inputs of each example have the types that the set has at depth 0. -/
theorem Lockstep.types_of_pairs (h : s.Lockstep) (hdepth : s.depth = 0)
    (hpairs : s'.pairs = s.pairs) {x : Example} (hx : x ∈ s'.examples) :
    x.registers.inputs.map Value.type = s.types := by
  have hpair : x.pair ∈ s.pairs := hpairs ▸ List.mem_map_of_mem hx
  obtain ⟨y, hy, hyx⟩ := List.mem_map.1 hpair
  have hstands := h.standsAt_nil hdepth y hy
  rw [← Example.inputs_eq hyx, ← h.types y hy, RegisterFile.types, hstands.visible_eq_inputs]

/-- A set that stands at a program over the inputs of a set in lockstep is in lockstep itself. -/
theorem Lockstep.of_standsAt {steps : List Instruction} (h : s.Lockstep) (hdepth : s.depth = 0)
    (hpairs : s'.pairs = s.pairs) (hstands : s'.StandsAt steps) : s'.Lockstep := by
  have hne : s'.examples ≠ [] := by
    intro hnil
    rw [pairs, hnil] at hpairs
    exact h.nonempty (List.map_eq_nil_iff.1 hpairs.symm)
  refine .of_common hne s.types.length (Program.typesFrom s.types steps) fun x hx => ?_
  have htypes := h.types_of_pairs hdepth hpairs hx
  refine ⟨?_, ?_⟩
  · rw [← htypes, List.length_map]
  · rw [(hstands x hx).types, htypes]

/-- The types that such a set shows. -/
theorem Lockstep.types_eq {steps : List Instruction} (h : s.Lockstep) (hdepth : s.depth = 0)
    (hpairs : s'.pairs = s.pairs) (hstands : s'.StandsAt steps) :
    s'.types = Program.typesFrom s.types steps := by
  have hlockstep := h.of_standsAt hdepth hpairs hstands
  obtain ⟨x, hx⟩ := List.exists_mem_of_ne_nil _ hlockstep.nonempty
  rw [← hlockstep.types x hx, (hstands x hx).types, h.types_of_pairs hdepth hpairs hx]

/-- A search leaves the examples at some program over their inputs. -/
theorem Lockstep.search (h : s.Lockstep) (catalog : Catalog) (limits : Limits) :
    (search s catalog limits).2.Lockstep := by
  by_cases hdepth : s.depth = 0
  · obtain ⟨w, hstart⟩ : ∃ w, Walk.start s catalog limits.maxLength = .ok w :=
      Walk.exists_start_eq_ok_iff.2 hdepth
    have hrun := (Walk.standing_start (h.standsAt_nil hdepth) hstart).run limits.budget
    rw [search_of_start hstart]
    exact h.of_standsAt hdepth hrun.pairs hrun.examples
  · rw [search_of_depth hdepth]
    exact h

/-- Whatever its history, the examples of a set are in lockstep. -/
theorem Reachable.lockstep (h : s.Reachable) : s.Lockstep := by
  induction h with
  | ofStates h => exact lockstep_of_ofStates h
  | apply ins _ ih => exact ih.apply ins
  | undo _ ih => exact ih.undo
  | reset _ ih => exact ih.reset
  | search catalog limits _ ih => exact ih.search catalog limits

/-! ## Two sets -/

/-- One example, two increments away from its target. -/
def oneToThree : ExampleSet := ⟨[⟨.ofInputs [.int 1], .int 3⟩]⟩

theorem reachable_oneToThree : oneToThree.Reachable :=
  .ofPairs (show ofPairs [([.int 1], .int 3)] = .ok oneToThree from rfl)

/-- One example with an offset that lies outside its array. -/
def shortArray : ExampleSet := ⟨[⟨.ofInputs [.int 1, .array [7]], .int 3⟩]⟩

theorem reachable_shortArray : shortArray.Reachable :=
  .ofPairs (show ofPairs [([.int 1, .array [7]], .int 3)] = .ok shortArray from rfl)

end ProgramSearch.ExampleSet

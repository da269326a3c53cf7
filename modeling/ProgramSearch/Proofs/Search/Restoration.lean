/-
# ProgramSearch.Proofs.Search.Restoration -- searches that find nothing

A search can stop anywhere in the tree of programs: with a budget spent just below an instruction or
just above one, at an instruction that only a later example refuses, or back at the inputs with
nothing left to try. However it stops, unless it has found a program it leaves every example showing
what it showed before.
-/

import ProgramSearch.Proofs.History

namespace ProgramSearch

namespace Walk

variable {s : ExampleSet} {catalog : Catalog} {maxLength : Nat} {w w' : Walk}

/-- A walk that has nothing left to try is back at the inputs. -/
def Settled (w : Walk) : Prop := w.phase = .exhausted → w.trail = []

theorem Settled.move {answer : Except Error Unit} (h : w.Settled) (hmove : Move w answer w') :
    w'.Settled := by
  intro hexhausted
  rcases hmove.of_terminal (by rw [hexhausted]; rfl) with rfl | ⟨hsolved, -⟩ | ⟨-, htrail⟩
  · exact h hexhausted
  · rw [hexhausted] at hsolved
    cases hsolved
  · exact htrail

theorem settled_start (hstart : start s catalog maxLength = .ok w) : w.Settled :=
  fun _ => (trail_start hstart).1

theorem Standing.path_giveUp (h : Standing s catalog maxLength w)
    (answer : Except Error Outcome) : (w.giveUp answer).2.path = [] := by
  obtain ⟨w', hgiveUp, -, hpath, -⟩ := h.giveUp answer
  rw [hgiveUp, hpath]

/-- A run that finds no program ends at the inputs. -/
theorem Standing.path_run {budget : Budget} (h : Standing s catalog maxLength w)
    (hsettled : w.Settled) (hunsolved : (w.run budget).1 ≠ .ok .solved) :
    (w.run budget).2.path = [] := by
  obtain ⟨u, hend, hstanding, hu⟩ := h.run_end_of_move Settled.move hsettled budget
  generalize w.run budget = result at hend hunsolved ⊢
  cases hend with
  | failed hstep | spent hstep _ _ =>
    rw [hstep] at hstanding
    exact hstanding.path_giveUp _
  | solved => exact absurd rfl hunsolved
  | exhausted hstep hphase =>
    rw [hstep] at hu
    rw [path, hu hphase, Choice.path_nil]

end Walk

variable {s s' : ExampleSet} {catalog : Catalog} {limits : Limits}

/-! ## What the examples show at their inputs -/

namespace ExampleSet

theorem StandsAt.visible_eq_inputs (h : s.StandsAt []) :
    s.visible = s.examples.map (·.registers.inputs) :=
  List.map_congr_left fun x hx => (h x hx).visible_eq_inputs

theorem inputs_of_pairs (h : s'.pairs = s.pairs) :
    s'.examples.map (·.registers.inputs) = s.examples.map (·.registers.inputs) := by
  have hmap := congrArg (List.map Prod.fst) h
  rw [pairs, pairs, List.map_map, List.map_map] at hmap
  exact hmap

theorem targets_of_pairs (h : s'.pairs = s.pairs) : s'.targets = s.targets := by
  have hmap := congrArg (List.map Prod.snd) h
  rw [pairs, pairs, List.map_map, List.map_map] at hmap
  exact hmap

end ExampleSet

/-! ## Whole searches -/

/-- A search keeps the inputs and targets, and goes back to the inputs unless it is solved. -/
theorem search_of_standsAt (hstands : s.StandsAt []) (hdepth : s.depth = 0) (catalog : Catalog)
    (limits : Limits) :
    (search s catalog limits).2.pairs = s.pairs ∧
      ((∀ report, (search s catalog limits).1 = .ok report → report.outcome ≠ .solved) →
        (search s catalog limits).2.StandsAt []) := by
  obtain ⟨w, hstart⟩ : ∃ w, Walk.start s catalog limits.maxLength = .ok w :=
    Walk.exists_start_eq_ok_iff.2 hdepth
  have hstanding := Walk.standing_start hstands hstart
  have hrun := hstanding.run limits.budget
  rw [search_of_start hstart]
  refine ⟨hrun.pairs, fun hunsolved => ?_⟩
  have hanswer : (w.run limits.budget).1 ≠ .ok .solved := by
    intro hsolved
    rw [hsolved] at hunsolved
    exact hunsolved _ rfl rfl
  have hexamples := hrun.examples
  rwa [hstanding.path_run (Walk.settled_start hstart) hanswer] at hexamples

/-- **A search that is not solved leaves no trace.** Whatever the examples have been through, a
search changes no target; where something has been applied it fails and changes nothing at all, and
unless it is solved every example shows afterwards what it showed before. -/
theorem search_restores {searcher searcher' : Searcher} {answer : Except Error Report}
    (hs : s.Reachable)
    (h : searcher.search s catalog limits = (answer, searcher', s')) :
    s'.targets = s.targets ∧
    (s.depth ≠ 0 → answer = .error (.violation (.searchUnderway s.depth)) ∧ s' = s) ∧
    ((∀ report, answer = .ok report → report.outcome ≠ .solved) →
      s'.visible = s.visible ∧
        (s.depth = 0 → s'.visible = s.examples.map (·.registers.inputs))) := by
  obtain ⟨hanswer, hexamples⟩ := searcher.search_eq s catalog limits
  rw [h] at hanswer hexamples
  obtain rfl : answer = _ := hanswer
  obtain rfl : s' = _ := hexamples
  by_cases hdepth : s.depth = 0
  · have hstands := hs.lockstep.standsAt_nil hdepth
    obtain ⟨hpairs, hrestored⟩ := search_of_standsAt hstands hdepth catalog limits
    refine ⟨ExampleSet.targets_of_pairs hpairs, fun hne => absurd hdepth hne, fun hunsolved => ?_⟩
    have hvisible := (hrestored hunsolved).visible_eq_inputs
    rw [ExampleSet.inputs_of_pairs hpairs] at hvisible
    exact ⟨hvisible.trans hstands.visible_eq_inputs.symm, fun _ => hvisible⟩
  · rw [search_of_depth hdepth]
    exact ⟨rfl, fun _ => ⟨rfl, rfl⟩, fun _ => ⟨rfl, fun hzero => absurd hzero hdepth⟩⟩

/-- Two examples with arrays, the second one shorter. -/
def unequalArrays : ExampleSet :=
  ⟨[⟨.ofInputs [.array [1, 8]], .int 42⟩, ⟨.ofInputs [.array [3]], .int 42⟩]⟩

/-- The walk over them that reads at the first element of each. -/
def unequalArraysWalk : Walk := .root unequalArrays ⟨[.head, .access .strict]⟩ 2

/-- An offset is read from the arrays that only the first array has: the second example refuses it
when both have already computed a register. -/
theorem search_restores_of_short_array :
    ∃ searcher' s', ExampleSet.ofPairs [([.array [1, 8]], .int 42), ([.array [3]], .int 42)] =
        .ok unequalArrays ∧
      Searcher.fresh.search unequalArrays ⟨[.head, .access .strict]⟩ ⟨2, .unlimited⟩ =
        (.error (.indexOutOfRange 3 1), searcher', s') ∧
      s'.targets = unequalArrays.targets ∧ s'.visible = unequalArrays.visible ∧
      s'.visible = [[.array [1, 8]], [.array [3]]] := by
  have hs : ExampleSet.ofPairs [([.array [1, 8]], .int 42), ([.array [3]], .int 42)] =
      .ok unequalArrays := rfl
  have hstart : Walk.start unequalArrays ⟨[.head, .access .strict]⟩ 2 = .ok unequalArraysWalk := rfl
  -- down by the first element, past the one that takes it again, and to the refused offset
  have hchain : Relation.ReflTransGen (Walk.Goes .unlimited) unequalArraysWalk
      (unequalArraysWalk.stepped 2) := .head ⟨rfl, rfl, rfl⟩ (.single ⟨rfl, rfl, rfl⟩)
  have hstep : (unequalArraysWalk.stepped 2).step =
      (.error (.indexOutOfRange 3 1), unequalArraysWalk.stepped 3) := rfl
  have hrun : unequalArraysWalk.run .unlimited =
      (.error (.indexOutOfRange 3 1), (unequalArraysWalk.stepped 3).rewind.2) :=
    (Walk.run_eq_of_goes hchain).trans (Walk.RunEnd.failed hstep).run_eq
  have hsearch : Searcher.fresh.search unequalArrays ⟨[.head, .access .strict]⟩ ⟨2, .unlimited⟩ =
      _ := Searcher.search_of_run hstart hrun
  obtain ⟨htargets, -, hrestored⟩ := search_restores (.ofPairs hs) hsearch
  obtain ⟨hvisible, hshown⟩ := hrestored fun report hreport => by cases hreport
  exact ⟨_, _, hs, hsearch, htargets, hvisible, hshown rfl⟩

end ProgramSearch

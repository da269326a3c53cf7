/-
# ProgramSearch.Proofs.Search.Visibility -- searches see only what is visible

Register files that show the same can differ in their retained slots, which are left from whatever
was computed there before, and a searcher remembers the statistics of its last search. Neither has
a say in what a search comes to. What is done to two sets of examples that show the same has the
same answer for both and leaves them showing the same: `Agree` says so of one act, from the apply of
a single instruction to a whole search, and the walks over the two sets go side by side.
-/

import ProgramSearch.Proofs.Atomicity
import ProgramSearch.Proofs.Search.Restoration

namespace ProgramSearch

/-- The same answer, with related states beside it. -/
structure Agree {α β : Type} (R : β → β → Prop) (x y : α × β) : Prop where
  answer : y.1 = x.1
  state : R x.2 y.2

theorem Agree.exists_eq {α β : Type} {R : β → β → Prop} {x y : α × β} (h : Agree R x y) :
    ∃ answer b c, x = (answer, b) ∧ y = (answer, c) ∧ R b c :=
  ⟨x.1, x.2, y.2, rfl, Prod.ext h.answer rfl, h.state⟩

/-! ## Register files that show the same -/

namespace RegisterFile

variable {regs regs' : RegisterFile}

/-- The second register file shows what the first one does, and its inputs are the same. -/
structure Same (regs regs' : RegisterFile) : Prop where
  inputs : regs'.inputs = regs.inputs
  results : regs'.results = regs.results

theorem Same.visible (h : Same regs regs') : regs'.visible = regs.visible := by
  rw [RegisterFile.visible, RegisterFile.visible, h.inputs, h.results]

theorem Same.newest? (h : Same regs regs') : regs'.newest? = regs.newest? := by
  rw [newest?_eq_getLast?, newest?_eq_getLast?, h.visible]

theorem Same.apply (h : Same regs regs') (ins : Instruction) :
    Agree Same (regs.apply ins) (regs'.apply ins) := by
  obtain ⟨retained, happly⟩ := regs.apply_eq ins
  obtain ⟨retained', happly'⟩ := regs'.apply_eq ins
  rw [h.visible, h.inputs, h.results] at happly'
  rw [happly, happly']
  cases ins.run regs.visible with
  | ok v => exact ⟨rfl, rfl, rfl⟩
  | error e => exact ⟨rfl, rfl, rfl⟩

theorem Same.undo (h : Same regs regs') : Agree Same regs.undo regs'.undo := by
  rcases regs with ⟨inputs, results, retained⟩
  obtain ⟨rfl, rfl⟩ : regs'.inputs = inputs ∧ regs'.results = results := ⟨h.inputs, h.results⟩
  rcases regs' with ⟨inputs, _ | ⟨v, results⟩, retained'⟩
  · exact ⟨rfl, rfl, rfl⟩
  · exact ⟨rfl, rfl, rfl⟩

end RegisterFile

/-! ## Examples that show the same -/

namespace Example

variable {x y : Example} {xs ys : List Example}

theorem Same.registers (h : Same x y) : x.registers.Same y.registers :=
  ⟨inputs_eq h.pair, h.results⟩

theorem Same.target (h : Same x y) : y.target = x.target := congrArg Prod.snd h.pair

/-- Examples still show the same with registers that do. -/
theorem Same.with_registers {regs regs' : RegisterFile} (h : Same x y) (hregs : regs.Same regs') :
    Same { x with registers := regs } { y with registers := regs' } :=
  ⟨Prod.ext hregs.inputs h.target, hregs.results⟩

theorem Same.isSolved (h : Same x y) : y.isSolved = x.isSolved := by
  rw [Example.isSolved, Example.isSolved, h.registers.newest?, h.target]

theorem applyAll_agree (h : List.Forall₂ Same xs ys) (ins : Instruction) :
    Agree (List.Forall₂ Same) (applyAll ins xs) (applyAll ins ys) := by
  induction h with
  | nil => exact ⟨rfl, .nil⟩
  | @cons x y xs ys hxy hrest ih =>
    obtain ⟨answer, regs, regs', hx, hy, hregs⟩ := (hxy.registers.apply ins).exists_eq
    obtain ⟨behind, xs', ys', hxs, hys, hbehind⟩ := ih.exists_eq
    simp only [applyAll, hx, hy]
    cases answer with
    | error e => exact ⟨rfl, .cons (hxy.with_registers hregs) hrest⟩
    | ok _ =>
      simp only [hxs, hys]
      cases behind with
      | ok _ => exact ⟨rfl, .cons (hxy.with_registers hregs) hbehind⟩
      | error e =>
        -- both take the result back that they have just computed
        obtain ⟨undone, regs, regs', hx, hy, hregs⟩ := hregs.undo.exists_eq
        simp only [hx, hy]
        cases undone with
        | ok _ => exact ⟨rfl, .cons (hxy.with_registers hregs) hbehind⟩
        | error _ => exact ⟨rfl, .cons (hxy.with_registers hregs) hbehind⟩

theorem undoAll_agree (h : List.Forall₂ Same xs ys) :
    Agree (List.Forall₂ Same) (undoAll xs) (undoAll ys) := by
  induction h with
  | nil => exact ⟨rfl, .nil⟩
  | @cons x y xs ys hxy hrest ih =>
    obtain ⟨answer, regs, regs', hx, hy, hregs⟩ := hxy.registers.undo.exists_eq
    simp only [undoAll, hx, hy]
    cases answer with
    | error e => exact ⟨rfl, .cons (hxy.with_registers hregs) hrest⟩
    | ok _ => exact ⟨ih.answer, .cons (hxy.with_registers hregs) ih.state⟩

end Example

/-! ## Sets that show the same -/

namespace ExampleSet

variable {s t : ExampleSet}

/-- Every example of the second set shows what that of the first does. -/
def Same (s t : ExampleSet) : Prop := List.Forall₂ Example.Same s.examples t.examples

theorem Same.leader (h : s.Same t) : s.leader.Same t.leader := by
  rcases s with ⟨xs⟩
  rcases t with ⟨ys⟩
  cases h with
  | nil => exact ⟨rfl, rfl⟩
  | cons hxy _ => exact hxy.registers

theorem Same.types (h : s.Same t) : t.types = s.types := by
  rw [ExampleSet.types, ExampleSet.types, RegisterFile.types, h.leader.visible, RegisterFile.types]

theorem Same.inputCount (h : s.Same t) : t.inputCount = s.inputCount :=
  congrArg List.length h.leader.inputs

theorem Same.depth (h : s.Same t) : t.depth = s.depth :=
  congrArg List.length h.leader.results

theorem Same.isSolved (h : s.Same t) : t.isSolved = s.isSolved := by
  have hmap : t.examples.map Example.isSolved = s.examples.map Example.isSolved :=
    map_eq_map_of_forall₂ (fun _ _ hxy => hxy.isSolved) h
  have hall := congrArg (List.all · id) hmap
  rw [List.all_map, List.all_map] at hall
  exact hall

theorem Same.apply (h : s.Same t) (ins : Instruction) : Agree Same (s.apply ins) (t.apply ins) :=
  ⟨(Example.applyAll_agree h ins).answer, (Example.applyAll_agree h ins).state⟩

theorem Same.undo (h : s.Same t) : Agree Same s.undo t.undo :=
  ⟨(Example.undoAll_agree h).answer, (Example.undoAll_agree h).state⟩

/-- At their inputs, sets with the same inputs and targets show the same. -/
theorem same_of_pairs (hs : s.StandsAt []) (ht : t.StandsAt []) (hpairs : t.pairs = s.pairs) :
    s.Same t := by
  have hright := (List.forall₂_and_left _ _).2 ⟨ht, forall₂_of_pairs hpairs⟩
  have hboth := (List.forall₂_and_left _ _).2 ⟨hs, hright.flip⟩
  refine hboth.imp ?_
  rintro x y ⟨hx, hy, hxy⟩
  exact ⟨hxy, (RegisterFile.standsAt_nil.1 hy).trans (RegisterFile.standsAt_nil.1 hx).symm⟩

end ExampleSet

/-! ## Walks side by side -/

namespace Walk

variable {w v : Walk}

/-- The second walk is the first one over examples that show the same. -/
def Same (w v : Walk) : Prop := ∃ t, w.examples.Same t ∧ v = { w with examples := t }

theorem Same.descend (h : w.Same v) (ins : Instruction) (here : Cursor) :
    Agree Same (w.descend ins here) (v.descend ins here) := by
  obtain ⟨t, ht, rfl⟩ := h
  obtain ⟨answer, s', t', hs', ht', hsame⟩ := (ht.apply ins).exists_eq
  simp only [Walk.descend, depth, hs', ht']
  cases answer with
  | error e => exact ⟨rfl, t', hsame, rfl⟩
  | ok _ =>
    have hsolved := hsame.isSolved
    cases hs : s'.isSolved with
    | true =>
      simp only [hs, hsolved.trans hs, if_true]
      exact ⟨rfl, t', hsame, rfl⟩
    | false =>
      simp only [hs, hsolved.trans hs, Bool.false_eq_true, if_false]
      by_cases hdeep : w.trail.length + 1 < w.maxLength
      · simp only [hdeep, if_true]
        exact ⟨rfl, t', hsame, rfl⟩
      · simp only [hdeep, if_false]
        obtain ⟨undone, s'', t'', hs'', ht'', hsame⟩ := hsame.undo.exists_eq
        simp only [hs'', ht'']
        cases undone with
        | error e => exact ⟨rfl, t'', hsame, rfl⟩
        | ok _ => exact ⟨rfl, t'', hsame, rfl⟩

theorem Same.ascend (h : w.Same v) (choice : Choice) (trail : List Choice) :
    Agree Same (w.ascend choice trail) (v.ascend choice trail) := by
  obtain ⟨t, ht, rfl⟩ := h
  obtain ⟨undone, s', t', hs', ht', hsame⟩ := ht.undo.exists_eq
  simp only [Walk.ascend, hs', ht']
  cases undone with
  | error e => exact ⟨rfl, t', hsame, rfl⟩
  | ok _ => exact ⟨rfl, t', hsame, rfl⟩

/-- What a step does is decided by what the examples show. -/
theorem Same.step (h : w.Same v) : Agree Same w.step v.step := by
  obtain ⟨t, ht, rfl⟩ := id h
  unfold Walk.step
  dsimp only
  split
  · exact ⟨rfl, h⟩
  · split
    · exact h.descend _ _
    · rename_i here _
      have hhere : Same { w with here } { w with examples := t, here } := ⟨t, ht, rfl⟩
      split
      · exact ⟨rfl, t, ht, rfl⟩
      · exact hhere.ascend _ _

theorem Same.unwind (h : w.Same v) (trail : List Choice) :
    Agree Same (w.unwind trail) (v.unwind trail) := by
  induction trail generalizing w v with
  | nil =>
    obtain ⟨t, ht, rfl⟩ := h
    exact ⟨rfl, t, ht, rfl⟩
  | cons choice trail ih =>
    obtain ⟨t, ht, rfl⟩ := h
    obtain ⟨undone, s', t', hs', ht', hsame⟩ := ht.undo.exists_eq
    simp only [Walk.unwind, hs', ht']
    cases undone with
    | error e => exact ⟨rfl, t', hsame, rfl⟩
    | ok _ => exact ih ⟨t', hsame, rfl⟩

theorem Same.giveUp (h : w.Same v) (answer : Except Error Outcome) :
    Agree Same (w.giveUp answer) (v.giveUp answer) := by
  have htrail : v.trail = w.trail := by
    obtain ⟨t, -, rfl⟩ := h
    rfl
  obtain ⟨undone, w', v', hw', hv', hsame⟩ := (h.unwind w.trail).exists_eq
  simp only [Walk.giveUp, rewind, htrail, hw', hv']
  cases undone with
  | error e => exact ⟨rfl, hsame⟩
  | ok _ => exact ⟨rfl, hsame⟩

/-! ## Runs side by side -/

/-- What a step does over one set, it does over the other. -/
theorem simulation_same : Simulation Same := by
  refine ⟨?_, ?_, ?_⟩
  · intro w v w' h hstep
    obtain ⟨answer, u, v', hw, hv, hsame⟩ := h.step.exists_eq
    obtain ⟨rfl, rfl⟩ := Prod.mk.inj (hstep.symm.trans hw)
    exact ⟨v', hv, hsame⟩
  · rintro w _ ⟨t, -, rfl⟩
    rfl
  · rintro w _ ⟨t, -, rfl⟩
    rfl

/-- What a run comes to is decided by what the examples show. -/
theorem Same.run (h : w.Same v) (budget : Budget) :
    Agree Same (w.run budget) (v.run budget) := by
  rcases simulation_same.run h budget with hends | ⟨n, e, hparts⟩
  · generalize w.run budget = result, v.run budget = result' at hends ⊢
    cases hends with
    | ended outcome hsame => exact ⟨rfl, hsame⟩
    | givenUp hsame => exact hsame.giveUp _
  · -- what fails over the one set fails over the other
    have hstep := hparts.related.step
    have hfailed' := hstep.answer.trans hparts.failed
    rw [run_eq_giveUp hparts.left hparts.failed, run_eq_giveUp hparts.right hfailed']
    exact hstep.state.giveUp _

end Walk

/-! ## Searches side by side -/

variable {s t s' : ExampleSet} {catalog : Catalog} {limits : Limits}

/-- Walks begin side by side, or do not begin for the same reason. -/
theorem ExampleSet.Same.start (h : s.Same t) (catalog : Catalog) (maxLength : Nat) :
    (∃ e, Walk.start s catalog maxLength = .error e ∧ Walk.start t catalog maxLength = .error e) ∨
      ∃ w v, Walk.start s catalog maxLength = .ok w ∧ Walk.start t catalog maxLength = .ok v ∧
        w.Same v := by
  by_cases hdepth : s.depth = 0
  · refine .inr ⟨.root s catalog maxLength, .root t catalog maxLength,
      Walk.start_eq_ok_iff.2 ⟨hdepth, rfl⟩,
      Walk.start_eq_ok_iff.2 ⟨h.depth.trans hdepth, rfl⟩, t, h, ?_⟩
    rw [Walk.root, Walk.root, h.types]
  · refine .inl ⟨.violation (.searchUnderway s.depth), if_pos hdepth, ?_⟩
    rw [← h.depth] at hdepth ⊢
    exact if_pos hdepth

/-- What a search comes to is decided by what the examples show. -/
theorem ExampleSet.Same.search (h : s.Same t) (catalog : Catalog) (limits : Limits) :
    Agree ExampleSet.Same (search s catalog limits) (search t catalog limits) := by
  obtain ⟨e, hs, ht⟩ | ⟨w, v, hs, ht, hsame⟩ := h.start catalog limits.maxLength
  · rw [search_of_start_error hs, search_of_start_error ht]
    exact ⟨rfl, h⟩
  · obtain ⟨answer, w', v', hw, hv, t', ht', rfl⟩ := (hsame.run limits.budget).exists_eq
    rw [search_of_start hs, search_of_start ht, hw, hv]
    refine ⟨?_, ht'⟩
    simp only [Walk.report, Walk.program, Walk.path, ht'.inputCount]

/-- Whatever a searcher has searched before, its search over the set has this answer, leaves the
searcher as `after` and leaves the examples showing these registers. -/
def ExampleSet.ComesTo (s : ExampleSet) (catalog : Catalog) (limits : Limits)
    (answer : Except Error Report) (after : Searcher) (visible : List (List Value)) : Prop :=
  ∀ searcher : Searcher,
    ∃ s', searcher.search s catalog limits = (answer, after, s') ∧ s'.visible = visible

theorem ExampleSet.Same.comesTo {searcher after : Searcher} {answer : Except Error Report}
    (hsame : s.Same t) (h : searcher.search s catalog limits = (answer, after, s')) :
    t.ComesTo catalog limits answer after s'.visible := by
  intro searcher'
  obtain ⟨hsearch, rfl⟩ := Searcher.search_eq_iff.1 h
  obtain ⟨_, _, t', hs, ht, hsame'⟩ := (hsame.search catalog limits).exists_eq
  obtain ⟨rfl, rfl⟩ := Prod.mk.inj (hsearch.symm.trans hs)
  exact ⟨t', Searcher.search_eq_iff.2 ⟨ht, rfl⟩, ExampleSet.visible_of_same hsame'⟩

/-- **A search depends on the inputs and targets alone.** Neither what the examples or the searcher
have been through nor what the examples retain of it shows in the answer, in the statistics or in
the registers afterwards. So a search that is not solved can be made again, and so can any search
after a reset. -/
theorem search_of_pairs {searcher after : Searcher} {answer : Except Error Report}
    (hs : s.Reachable) (ht : t.Reachable) (hdepth : s.depth = 0) (hdepth' : t.depth = 0)
    (hpairs : t.pairs = s.pairs)
    (h : searcher.search s catalog limits = (answer, after, s')) :
    t.ComesTo catalog limits answer after s'.visible ∧
    ((∀ report, answer = .ok report → report.outcome ≠ .solved) →
      s'.ComesTo catalog limits answer after s'.visible) ∧
    s'.reset.ComesTo catalog limits answer after s'.visible ∧
    (∀ report, answer = .ok report → after.statistics = report.statistics) ∧
    (∀ e, answer = .error e → after.statistics = .zero) := by
  have hstands := hs.lockstep.standsAt_nil hdepth
  obtain ⟨hkept, hrestored⟩ := search_of_standsAt hstands hdepth catalog limits
  obtain ⟨hsearch, rfl⟩ := Searcher.search_eq_iff.1 h
  rw [hsearch] at hkept hrestored
  refine ⟨?_, ?_, ?_, ?_, ?_⟩
  · have hsame := ExampleSet.same_of_pairs hstands (ht.lockstep.standsAt_nil hdepth') hpairs
    exact hsame.comesTo h
  · intro hunsolved
    exact (ExampleSet.same_of_pairs hstands (hrestored hunsolved) hkept).comesTo h
  · have hreset : s'.reset.pairs = s.pairs := s'.pairs_reset.trans hkept
    exact (ExampleSet.same_of_pairs hstands s'.standsAt_nil_reset hreset).comesTo h
  · rintro report rfl
    rfl
  · rintro e rfl
    rfl

/-- An integer two increments away from its target, and an array. -/
def besideArray : ExampleSet := ⟨[⟨.ofInputs [.int 1, .array [9, 7]], .int 3⟩]⟩

/-- The same, with an array retained where the first increment goes. -/
def retainingArray : ExampleSet := (besideArray.apply ⟨.reverse, .one 1⟩).2.undo.2

/-- The walk by increments over the examples that have been through nothing. -/
def besideArrayWalk : Walk := .root besideArray ⟨[.scalar .increment]⟩ 2

/-- From one to three by increments, over examples that have been through nothing and over examples
that retain an array. -/
theorem search_of_pairs_of_retained_array :
    ∃ report after s',
      ExampleSet.ofPairs [([.int 1, .array [9, 7]], .int 3)] = .ok besideArray ∧
      retainingArray ≠ besideArray ∧
      Searcher.fresh.search besideArray ⟨[.scalar .increment]⟩ ⟨2, .unlimited⟩ =
        (.ok report, after, s') ∧
      report.outcome = .solved ∧ after.statistics = report.statistics ∧
      retainingArray.ComesTo ⟨[.scalar .increment]⟩ ⟨2, .unlimited⟩ (.ok report) after
        s'.visible ∧
      s'.reset.ComesTo ⟨[.scalar .increment]⟩ ⟨2, .unlimited⟩ (.ok report) after s'.visible := by
  have hs : ExampleSet.ofPairs [([.int 1, .array [9, 7]], .int 3)] = .ok besideArray := rfl
  have hstart : Walk.start besideArray ⟨[.scalar .increment]⟩ 2 = .ok besideArrayWalk := rfl
  -- down by the first increment, past the one that reads the input again, and to the last one
  have hchain : Relation.ReflTransGen (Walk.Goes .unlimited) besideArrayWalk
      (besideArrayWalk.stepped 2) := .head ⟨rfl, rfl, rfl⟩ (.single ⟨rfl, rfl, rfl⟩)
  have hrun : besideArrayWalk.run .unlimited = (.ok .solved, besideArrayWalk.stepped 3) :=
    (Walk.run_eq_of_goes hchain).trans (Walk.RunEnd.solved rfl rfl).run_eq
  have hsearch : Searcher.fresh.search besideArray ⟨[.scalar .increment]⟩ ⟨2, .unlimited⟩ = _ :=
    Searcher.search_of_run hstart hrun
  have hreachable : besideArray.Reachable := .ofPairs hs
  have hretaining : retainingArray.Reachable := .undo (.apply _ hreachable)
  obtain ⟨hretained, -, hreset, hstatistics, -⟩ :=
    search_of_pairs hreachable hretaining rfl rfl rfl hsearch
  exact ⟨_, _, _, hs, by decide, hsearch, rfl, hstatistics _ rfl, hretained, hreset⟩

end ProgramSearch

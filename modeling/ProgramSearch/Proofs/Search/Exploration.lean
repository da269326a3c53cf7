/-
# ProgramSearch.Proofs.Search.Exploration -- a walk comes to what the recursion comes to

A run without budgets makes the steps of a walk one after the other; the exploration of the same
tree is a recursion that knows no walk. The two agree on the ending, on the path and on every
count. The invariant of the proof is `Walk.Follows`: from where a walk stands, a run comes to what
is left to try at its depth, and if that is all in vain, the walk is at the end of its listing with
the trail it had. It is shown by induction on the height below the walk and, at one depth, on the
rest of the listing.
-/

import ProgramSearch.Proofs.History
import ProgramSearch.Proofs.Search.Situations

namespace ProgramSearch

/-- The answer that stands for an ending: the outcome and the instructions of the program found. -/
def Ending.answer : Ending → Except Error (Outcome × List Instruction)
  | .solved path => .ok (.solved, path)
  | .failed e => .error e
  | .exhausted => .ok (.exhausted, [])

/-! ## The rest of a listing -/

namespace Cursor

variable {cursor : Cursor} {ins : Instruction} {rest : List Instruction}

theorem next_of_drop_eq_nil (h : cursor.listing.drop cursor.position = []) :
    ∃ cursor', cursor.next = (none, cursor') := by
  rcases hnext : cursor.next with ⟨ins?, cursor'⟩
  obtain ⟨hfound, -⟩ := next_eq hnext
  rw [List.drop_eq_nil_iff] at h
  rw [hfound, List.getElem?_eq_none h]
  exact ⟨cursor', rfl⟩

theorem next_of_drop_eq_cons (h : cursor.listing.drop cursor.position = ins :: rest) :
    ∃ cursor', cursor.next = (some ins, cursor') ∧
      cursor'.listing.drop cursor'.position = rest := by
  rcases hnext : cursor.next with ⟨ins?, cursor'⟩
  obtain ⟨hfound, hcatalog, htypes, hposition⟩ := next_eq hnext
  have hhead : cursor.listing[cursor.position]? = some ins := by
    simpa [h] using (List.head?_drop (l := cursor.listing) (i := cursor.position)).symm
  obtain rfl : ins? = some ins := hfound.trans hhead
  refine ⟨cursor', rfl, ?_⟩
  rw [listing, hcatalog, htypes, hposition, Option.isSome_some, if_pos rfl, ← List.drop_drop]
  simpa [listing] using congrArg (List.drop 1) h

end Cursor

namespace Exploration

/-- What comes after an instruction: the exploration of the depth below it, which is left when all
in it was tried in vain. At the greatest length it was not entered, so there is none to leave. -/
def below (catalog : Catalog) (height depth : Nat) (situations : List Situation)
    (counters : Counters) : Ending × Counters :=
  match exploreFrom catalog height depth situations counters with
  | (.exhausted, counters) => (.exhausted, if height = 0 then counters else counters.left)
  | ending => ending

theorem exploreFrom_succ (catalog : Catalog) (height depth : Nat) (situations : List Situation)
    (counters : Counters) :
    exploreFrom catalog (height + 1) depth situations counters =
      tryEach depth (below catalog height (depth + 1)) situations
        (catalog.instructions (Situation.types situations)) counters.entered := rfl

end Exploration

namespace Walk

open Exploration
open Relation (ReflTransGen)

/-! ## Moves of a run without budgets -/

variable {w w' : Walk}

theorem Move.goes (h : Move w (.ok ()) w') (hphase : w'.phase.isTerminal = false) :
    Goes .unlimited w w' :=
  ⟨h.step_eq, hphase, rfl⟩

variable {s : ExampleSet} {catalog : Catalog} {maxLength : Nat}

/-- At the end of a listing below the inputs, a walk goes back up. -/
theorem Standing.exists_ascended {here : Cursor} {choice : Choice} {trail : List Choice}
    (h : Standing s catalog maxLength w) (hphase : w.phase.isTerminal = false)
    (hnext : w.here.next = (none, here)) (htrail : w.trail = choice :: trail) :
    ∃ w', Move w (.ok ()) w' ∧ w'.trail = trail ∧ w'.here = choice.cursor ∧
      w'.phase.isTerminal = false ∧ w'.counters = w.counters.left := by
  have hstands := h.examples
  rw [path_of_trail htrail] at hstands
  obtain ⟨examples, hundo, -⟩ := hstands.undo
  exact ⟨_, .ascended hphase hnext htrail hundo, rfl, rfl, rfl, rfl⟩

/-- An instruction that fills the program in vain is taken back. -/
theorem Standing.exists_undone {ins : Instruction} {here : Cursor} {examples : ExampleSet}
    (h : Standing s catalog maxLength w) (hphase : w.phase.isTerminal = false)
    (hnext : w.here.next = (some ins, here)) (happly : w.examples.apply ins = (.ok (), examples))
    (hsolved : examples.isSolved = false) (hroom : ¬ w.depth + 1 < maxLength) :
    ∃ w', Move w (.ok ()) w' ∧ w'.trail = w.trail ∧ w'.here = here ∧
      w'.phase.isTerminal = false ∧ w'.counters = w.counters.explored (w.depth + 1) := by
  obtain ⟨examples', hundo, -⟩ := (h.examples.apply_ok happly).1.undo
  rw [← h.limit] at hroom
  exact ⟨_, .undone hphase hnext happly hsolved hroom hundo, rfl, rfl, rfl, rfl⟩

/-- By an instruction that does not fill the program a walk goes down. -/
theorem Standing.exists_descended {ins : Instruction} {here : Cursor} {examples : ExampleSet}
    (h : Standing s catalog maxLength w) (hphase : w.phase.isTerminal = false)
    (hnext : w.here.next = (some ins, here)) (happly : w.examples.apply ins = (.ok (), examples))
    (hsolved : examples.isSolved = false) (hroom : w.depth + 1 < maxLength) :
    ∃ w', Move w (.ok ()) w' ∧ w'.trail = ⟨here, ins⟩ :: w.trail ∧ w'.examples = examples ∧
      w'.here.position = 0 ∧ w'.phase.isTerminal = false ∧
      w'.counters = (w.counters.explored (w.depth + 1)).entered := by
  rw [← h.limit] at hroom
  exact ⟨_, .descended hphase hnext happly hsolved hroom, rfl, rfl, rfl, rfl, rfl⟩

/-! ## Following an exploration -/

/-- A run comes from a walk to what an exploration of the instructions ahead of its cursor comes to.
When all of them were tried in vain, the walk is left at the end of its listing, with its trail. -/
inductive Follows (w : Walk) : Ending × Counters → Prop where
  | solved {path : List Instruction} {w' : Walk} :
      w.run .unlimited = (.ok .solved, w') → w'.path = w.path ++ path →
      Follows w (.solved path, w'.counters)
  | failed {e : Error} {w' : Walk} :
      w.run .unlimited = (.error e, w') → Follows w (.failed e, w'.counters)
  | exhausted {u : Walk} {here : Cursor} :
      ReflTransGen (Goes .unlimited) w u → u.trail = w.trail → u.phase.isTerminal = false →
      u.here.next = (none, here) → Follows w (.exhausted, u.counters)

variable {result : Ending × Counters}

/-- A step that leaves the trail as it is leaves to follow what is left after it. -/
theorem Follows.of_goes (hgoes : ReflTransGen (Goes .unlimited) w w') (htrail : w'.trail = w.trail)
    (h : Follows w' result) : Follows w result := by
  have hrun := run_eq_of_goes hgoes
  cases h with
  | solved hsolved hpath => exact .solved (hrun.trans hsolved) (by rw [hpath, path, htrail, path])
  | failed hfailed => exact .failed (hrun.trans hfailed)
  | exhausted hchain hu hphase hnext =>
    exact .exhausted (hgoes.trans hchain) (hu.trans htrail) hphase hnext

/-- An instruction that is refused ends the run. -/
theorem Standing.follows_failed {ins : Instruction} {here : Cursor} {e : Error}
    {examples : ExampleSet} (h : Standing s catalog maxLength w)
    (hphase : w.phase.isTerminal = false) (hnext : w.here.next = (some ins, here))
    (happly : w.examples.apply ins = (.error e, examples)) :
    Follows w (.failed e, w.counters) := by
  have hmove := Move.refused hphase hnext happly
  obtain ⟨w', hgiveUp, -, -, -, hcounters⟩ := (h.move hmove).giveUp (.error e)
  have hrun : w.run .unlimited = (.error e, w') := by
    rw [← hgiveUp]
    exact (RunEnd.failed hmove.step_eq).run_eq
  rw [show w.counters = w'.counters from hcounters.symm]
  exact .failed hrun

/-- An instruction that solves the examples ends the run. -/
theorem follows_solved {ins : Instruction} {here : Cursor} {examples : ExampleSet}
    (hphase : w.phase.isTerminal = false) (hnext : w.here.next = (some ins, here))
    (happly : w.examples.apply ins = (.ok (), examples)) (hsolved : examples.isSolved = true) :
    Follows w (.solved [ins], w.counters.explored (w.depth + 1)) := by
  have hmove := Move.solved hphase hnext happly hsolved
  exact .solved (RunEnd.solved hmove.step_eq rfl).run_eq (Choice.path_cons _ _)

/-- A run comes from a walk that goes on with an instruction to what an exploration of the programs
that begin with it comes to. When all of them were tried in vain, the walk comes back for the rest
of the listing. -/
def FollowsWith (w : Walk) (ins : Instruction) (here : Cursor) : Ending × Counters → Prop
  | (.solved path, counters) => Follows w (.solved (ins :: path), counters)
  | (.failed e, counters) => Follows w (.failed e, counters)
  | (.exhausted, counters) => ∃ u, ReflTransGen (Goes .unlimited) w u ∧ u.trail = w.trail ∧
      u.here = here ∧ u.phase.isTerminal = false ∧ u.counters = counters

/-- Once the walk has gone down by an instruction, a run that follows an exploration of what is
below follows one of the programs that begin with that instruction. -/
theorem Follows.with_of_goes {ins : Instruction} {here : Cursor} {height depth : Nat}
    {situations : List Situation} {counters : Counters}
    (h : Follows w' (exploreFrom catalog height depth situations counters))
    (hw' : Standing s catalog maxLength w') (hgoes : Goes .unlimited w w')
    (htrail : w'.trail = ⟨here, ins⟩ :: w.trail) (hheight : height ≠ 0) :
    FollowsWith w ins here (below catalog height depth situations counters) := by
  unfold below
  generalize exploreFrom catalog height depth situations counters = result at h
  cases h with
  | solved hrun hpath =>
    refine .solved (hgoes.run_eq.trans hrun) ?_
    rw [hpath, path_of_trail htrail, List.append_assoc]
    rfl
  | failed hrun => exact .failed (hgoes.run_eq.trans hrun)
  | exhausted hchain hu hphase hnext =>
    -- the depth below is left by one more step
    obtain ⟨v, hmove, hv, hhere, hphase', hcounters⟩ :=
      (hw'.goes hchain).exists_ascended hphase hnext (hu.trans htrail)
    refine ⟨v, .head hgoes (hchain.tail (hmove.goes hphase')), hv, hhere, hphase', ?_⟩
    rw [hcounters, if_neg hheight]

/-- What stands at the same program shows the same. -/
theorem Standing.situations_eq (h : Standing s catalog maxLength w)
    (h' : Standing s catalog maxLength w') (htrail : w'.trail = w.trail) :
    Situation.ofExamples w'.examples = Situation.ofExamples w.examples := by
  have hstands := h'.examples
  rw [path, htrail] at hstands
  exact h.examples.ofExamples_eq hstands (h'.pairs.trans h.pairs.symm)

/-- Runs follow the explorations of a height from where a depth was just entered. -/
def FollowsAt (s : ExampleSet) (catalog : Catalog) (maxLength height : Nat) : Prop :=
  ∀ w counters, Standing s catalog maxLength w → w.phase.isTerminal = false →
    w.depth + height = maxLength → w.here.position = 0 → w.counters = counters.entered →
    Follows w (exploreFrom catalog height w.depth (Situation.ofExamples w.examples) counters)

/-- An instruction that does not solve the examples, given that the depth below it is explored as
runs go through it. -/
theorem Standing.followsWith {height : Nat} {ins : Instruction} {here : Cursor}
    {examples : ExampleSet} (hbelow : FollowsAt s catalog maxLength height)
    (h : Standing s catalog maxLength w) (hphase : w.phase.isTerminal = false)
    (hheight : w.depth + (height + 1) = maxLength) (hnext : w.here.next = (some ins, here))
    (happly : w.examples.apply ins = (.ok (), examples)) (hsolved : examples.isSolved = false) :
    FollowsWith w ins here (below catalog height (w.depth + 1) (Situation.ofExamples examples)
      (w.counters.explored (w.depth + 1))) := by
  by_cases hroom : w.depth + 1 < maxLength
  · obtain ⟨w', hmove, htrail, rfl, hposition, hphase', hcounters⟩ :=
      h.exists_descended hphase hnext happly hsolved hroom
    have hstanding := h.move hmove
    have hdepth : w'.depth = w.depth + 1 := congrArg List.length htrail
    have hfollows := hbelow w' _ hstanding hphase' (by omega) hposition hcounters
    rw [hdepth] at hfollows
    exact hfollows.with_of_goes hstanding (hmove.goes hphase') htrail (by omega)
  · -- the program is as long as programs may be, and nothing is explored below it
    obtain ⟨w', hmove, htrail, hhere, hphase', hcounters⟩ :=
      h.exists_undone hphase hnext happly hsolved hroom
    obtain rfl : height = 0 := by omega
    exact ⟨w', .single (hmove.goes hphase'), htrail, hhere, hphase', hcounters⟩

/-- One depth of the tree, given that the depth below it is explored as runs go through it. -/
theorem Standing.follows_tryEach {height : Nat} {rest : List Instruction}
    (hbelow : FollowsAt s catalog maxLength height) (h : Standing s catalog maxLength w)
    (hphase : w.phase.isTerminal = false) (hheight : w.depth + (height + 1) = maxLength)
    (hrest : w.here.listing.drop w.here.position = rest) :
    Follows w (tryEach w.depth (below catalog height (w.depth + 1))
      (Situation.ofExamples w.examples) rest w.counters) := by
  induction rest generalizing w with
  | nil =>
    obtain ⟨here, hnext⟩ := Cursor.next_of_drop_eq_nil hrest
    exact .exhausted .refl rfl hphase hnext
  | cons ins rest ih =>
    obtain ⟨here, hnext, hahead⟩ := Cursor.next_of_drop_eq_cons hrest
    rcases happly : w.examples.apply ins with ⟨e | ⟨⟩, examples⟩
    · rw [tryEach, ExampleSet.mapM_after_of_apply_error happly]
      exact h.follows_failed hphase hnext happly
    · rw [tryEach, ExampleSet.mapM_after_of_apply_ok happly]
      simp only [ExampleSet.all_isSolved_ofExamples]
      cases hsolved : examples.isSolved with
      | true => exact follows_solved hphase hnext happly hsolved
      | false =>
        have hwith := h.followsWith hbelow hphase hheight hnext happly hsolved
        rw [if_neg Bool.false_ne_true]
        rcases hres : below catalog height (w.depth + 1) (Situation.ofExamples examples)
          (w.counters.explored (w.depth + 1)) with ⟨path | e | _, counters⟩
        · rwa [hres] at hwith
        · rwa [hres] at hwith
        · -- tried in vain: the walk has come back to this depth, one instruction further
          rw [hres] at hwith
          obtain ⟨u, hchain, htrail, hhere, hu, rfl⟩ := hwith
          have hstanding := h.goes hchain
          have hdepth : u.depth = w.depth := congrArg List.length htrail
          have hfollows := ih hstanding hu (hdepth ▸ hheight) (hhere ▸ hahead)
          rw [hdepth, h.situations_eq hstanding htrail] at hfollows
          exact hfollows.of_goes hchain htrail

/-- Runs follow the explorations of every height. -/
theorem followsAt (hs : s.Lockstep) (hdepth : s.depth = 0) (height : Nat) :
    FollowsAt s catalog maxLength height := by
  induction height with
  | zero =>
    -- there is no walk at work with no room below it
    intro w counters h hphase hheight _ _
    have hlt := h.depth_lt hphase
    omega
  | succ height ih =>
    intro w counters h hphase hheight hposition hcounters
    have hover := h.isOver hphase
    have htypes := hs.types_eq hdepth h.pairs h.examples
    rw [exploreFrom_succ, ← hcounters, ExampleSet.types_ofExamples, htypes, ← hover.listing]
    exact h.follows_tryEach ih hphase hheight (by rw [hposition, List.drop_zero])

/-! ## Whole runs -/

/-- At the inputs, what a run follows decides what it comes to. -/
theorem Follows.run_eq (h : Follows w result) (htrail : w.trail = []) :
    ∃ answer w', w.run .unlimited = (answer, w') ∧
      answer.map (·, w'.path) = result.1.answer ∧ w'.counters = result.2 := by
  cases h with
  | @solved path w' hrun hpath =>
    refine ⟨_, w', hrun, ?_, rfl⟩
    rw [hpath, Walk.path, htrail]
    rfl
  | @failed e w' hrun => exact ⟨_, w', hrun, rfl, rfl⟩
  | @exhausted u here hchain hu hphase hnext =>
    have htop : u.trail = [] := hu.trans htrail
    have hstep := (Move.exhausted hphase hnext htop).step_eq
    refine ⟨_, _, (run_eq_of_goes hchain).trans (RunEnd.exhausted hstep rfl).run_eq, ?_, rfl⟩
    rw [Walk.path, htop]
    rfl

/-- A run without budgets from the inputs of a set comes to what the exploration comes to. -/
theorem exists_run_start (hs : s.Lockstep) (hdepth : s.depth = 0) (catalog : Catalog)
    (maxLength : Nat) :
    ∃ w answer w', start s catalog maxLength = .ok w ∧ w.run .unlimited = (answer, w') ∧
      answer.map (·, w'.path) = (s.explore catalog maxLength).1.answer ∧
      w'.counters = (s.explore catalog maxLength).2 := by
  have hstart : start s catalog maxLength = .ok (root s catalog maxLength) :=
    start_eq_ok_iff.2 ⟨hdepth, rfl⟩
  cases maxLength with
  | zero =>
    -- the walk has ended before its first step, and no depth was entered
    exact ⟨_, _, _, hstart, (RunEnd.exhausted (Move.idle rfl).step_eq rfl).run_eq, rfl, rfl⟩
  | succ height =>
    have hstanding := standing_start (hs.standsAt_nil hdepth) hstart
    have hfollows := followsAt hs hdepth (height + 1) _ .zero hstanding rfl (Nat.zero_add _) rfl rfl
    obtain ⟨answer, w', hrun⟩ := hfollows.run_eq rfl
    exact ⟨_, answer, w', hstart, hrun⟩

/-- **A search without budgets is the plain recursion.** It ends in the same way, with the same path
or the same error, and has done the same work. -/
theorem run_start_eq_explore (hs : s.Reachable) (hdepth : s.depth = 0) (catalog : Catalog)
    (maxLength : Nat) :
    ∃ w answer w', start s catalog maxLength = .ok w ∧ w.run .unlimited = (answer, w') ∧
      answer.map (·, w'.path) = (s.explore catalog maxLength).1.answer ∧
      w'.counters = (s.explore catalog maxLength).2 :=
  exists_run_start hs.lockstep hdepth catalog maxLength

/-- From one to three: what begins with a decrement is tried in vain, and then two increments do. -/
theorem run_start_of_one_to_three :
    ∃ w answer w', ExampleSet.ofPairs [([.int 1], .int 3)] = .ok .oneToThree ∧
      start .oneToThree ⟨[.scalar .decrement, .scalar .increment]⟩ 2 = .ok w ∧
      w.run .unlimited = (answer, w') ∧
      answer.map (·, w'.path) = .ok (.solved,
        [⟨.scalar .increment, .one 0⟩, ⟨.scalar .increment, .one 1⟩]) ∧
      w'.counters = ⟨10, 1, 3, 2⟩ := by
  obtain ⟨w, answer, w', hstart, hrun, hanswer, hcounters⟩ := run_start_eq_explore
    ExampleSet.reachable_oneToThree rfl ⟨[.scalar .decrement, .scalar .increment]⟩ 2
  exact ⟨w, answer, w', rfl, hstart, hrun, hanswer, hcounters⟩

end Walk

end ProgramSearch

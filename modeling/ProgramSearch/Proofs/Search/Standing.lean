/-
# ProgramSearch.Proofs.Search.Standing -- where a walk stands

A walk keeps three things apart that have to agree: the trail of instructions it has gone down by,
the registers of the examples, and the cursors of the depths on the way. `Walk.Move` says all that
one step can do, and `Walk.Standing` is what every step keeps: the examples show what the trail's
instructions compute from the inputs, and each cursor moves along the listing over the registers of
its depth. From it follows that no undo in a walk ever fails.
-/

import ProgramSearch.Search.Walk
import ProgramSearch.Proofs.Lockstep

namespace ProgramSearch

/-! ## The trail -/

/-- The cursor moves along the listing of a catalog over registers of the given types. -/
structure Cursor.IsOver (cursor : Cursor) (catalog : Catalog) (types : List Ty) : Prop where
  catalog : cursor.catalog = catalog
  types : cursor.types = types

theorem Cursor.IsOver.listing {cursor : Cursor} {catalog : Catalog} {types : List Ty}
    (h : cursor.IsOver catalog types) : cursor.listing = catalog.instructions types := by
  rw [Cursor.listing, h.catalog, h.types]

theorem Cursor.IsOver.next {cursor cursor' : Cursor} {catalog : Catalog} {types : List Ty}
    {ins? : Option Instruction} (h : cursor.IsOver catalog types)
    (hnext : cursor.next = (ins?, cursor')) : cursor'.IsOver catalog types := by
  obtain ⟨-, hcatalog, htypes, -⟩ := Cursor.next_eq hnext
  exact ⟨hcatalog.trans h.catalog, htypes.trans h.types⟩

/-- A cursor offers the catalog's instructions that suit the registers it is over. -/
theorem Cursor.IsOver.offers {cursor cursor' : Cursor} {catalog : Catalog} {types : List Ty}
    {ins : Instruction} (h : cursor.IsOver catalog types)
    (hnext : cursor.next = (some ins, cursor')) :
    ins.op ∈ catalog.operators ∧ ins.isWellTyped types = true := by
  obtain ⟨hfound, -⟩ := Cursor.next_eq hnext
  rw [h.listing] at hfound
  exact Catalog.mem_instructions.1 (List.mem_of_getElem? hfound.symm)

/-- Each choice of the trail was offered by a cursor over the registers that the choices before it
leave, and that cursor stands just after the instruction chosen. -/
inductive Walk.LedFrom (catalog : Catalog) (types : List Ty) : List Choice → Prop where
  | nil : LedFrom catalog types []
  | cons {choice : Choice} {trail : List Choice} {before : Nat} :
      LedFrom catalog types trail →
      choice.cursor.IsOver catalog (Program.typesFrom types (Choice.path trail)) →
      choice.cursor.position = before + 1 →
      choice.cursor.listing[before]? = some choice.instruction →
      LedFrom catalog types (choice :: trail)

namespace Walk

variable {catalog : Catalog} {types : List Ty} {trail : List Choice}

/-- An instruction that a cursor offered can be put on the trail, with the cursor after it. -/
theorem LedFrom.push {here here' : Cursor} {ins : Instruction}
    (h : LedFrom catalog types trail)
    (hhere : here.IsOver catalog (Program.typesFrom types (Choice.path trail)))
    (hnext : here.next = (some ins, here')) : LedFrom catalog types (⟨here', ins⟩ :: trail) := by
  have hhere' := hhere.next hnext
  obtain ⟨hfound, -, -, hposition⟩ := Cursor.next_eq hnext
  refine .cons h hhere' hposition ?_
  rw [hhere'.listing, ← hhere.listing]
  exact hfound.symm

/-- Each instruction of the trail is one of the catalog's and suits the registers before it. -/
theorem LedFrom.wellTyped (h : LedFrom catalog types trail) :
    Program.WellTyped types (Choice.path trail) ∧
      ∀ ins ∈ Choice.path trail, ins.op ∈ catalog.operators := by
  induction h with
  | nil => exact ⟨.nil, by simp⟩
  | @cons choice trail before _ hover _ hfound ih =>
    have hmem := List.mem_of_getElem? hfound
    rw [hover.listing, Catalog.mem_instructions] at hmem
    rw [Choice.path_cons]
    refine ⟨ih.1.append hmem.2, ?_⟩
    intro ins hins
    rcases List.mem_append.1 hins with hins | hins
    · exact ih.2 ins hins
    · rw [List.mem_singleton.1 hins]
      exact hmem.1

/-- The first choice of a trail was made over the inputs. -/
theorem LedFrom.root {choice : Choice} (h : LedFrom catalog types trail)
    (hroot : trail.getLast? = some choice) : choice.cursor.IsOver catalog types := by
  induction h with
  | nil => cases hroot
  | @cons first trail before _ hover _ _ ih =>
    cases trail with
    | nil =>
      obtain rfl : first = choice := by simpa using hroot
      simpa [Program.typesFrom] using hover
    | cons next trail => exact ih (by simpa using hroot)

/-! ## What one step can do -/

/-- The steps of a walk, with the answers they give. -/
inductive Move (w : Walk) : Except Error Unit → Walk → Prop where
  /-- A walk that has ended stays as it is. -/
  | idle : w.phase.isTerminal = true → Move w (.ok ()) w
  /-- Some example refuses the instruction, which is passed over. -/
  | refused {ins : Instruction} {here : Cursor} {e : Error} {examples : ExampleSet} :
      w.phase.isTerminal = false → w.here.next = (some ins, here) →
      w.examples.apply ins = (.error e, examples) →
      Move w (.error e) { w with examples, here }
  /-- The instruction solves the examples. -/
  | solved {ins : Instruction} {here : Cursor} {examples : ExampleSet} :
      w.phase.isTerminal = false → w.here.next = (some ins, here) →
      w.examples.apply ins = (.ok (), examples) → examples.isSolved = true →
      Move w (.ok ()) { w with
        examples, here, trail := ⟨here, ins⟩ :: w.trail, phase := .solved
        counters := w.counters.explored (w.depth + 1) }
  /-- The instruction does not solve the examples, and the walk goes down by it. -/
  | descended {ins : Instruction} {here : Cursor} {examples : ExampleSet} :
      w.phase.isTerminal = false → w.here.next = (some ins, here) →
      w.examples.apply ins = (.ok (), examples) → examples.isSolved = false →
      w.depth + 1 < w.maxLength →
      Move w (.ok ()) { w with
        examples, here := here.after ins, trail := ⟨here, ins⟩ :: w.trail, phase := .descending
        counters := (w.counters.explored (w.depth + 1)).entered }
  /-- The instruction does not solve the examples, and there is no room below it. -/
  | undone {ins : Instruction} {here : Cursor} {examples examples' : ExampleSet} :
      w.phase.isTerminal = false → w.here.next = (some ins, here) →
      w.examples.apply ins = (.ok (), examples) → examples.isSolved = false →
      ¬ w.depth + 1 < w.maxLength → examples.undo = (.ok (), examples') →
      Move w (.ok ()) { w with
        examples := examples', here, phase := .descending
        counters := w.counters.explored (w.depth + 1) }
  /-- There is nothing left to try over the inputs. -/
  | exhausted {here : Cursor} :
      w.phase.isTerminal = false → w.here.next = (none, here) → w.trail = [] →
      Move w (.ok ()) { w with here, phase := .exhausted }
  /-- There is nothing left to try at this depth, and the walk goes back up. -/
  | ascended {here : Cursor} {choice : Choice} {trail : List Choice} {examples : ExampleSet} :
      w.phase.isTerminal = false → w.here.next = (none, here) → w.trail = choice :: trail →
      w.examples.undo = (.ok (), examples) →
      Move w (.ok ()) { w with
        examples, here := choice.cursor, trail, phase := .backtracking
        counters := w.counters.left }

variable {w w' : Walk} {answer : Except Error Unit}

theorem path_of_trail {choice : Choice} (h : w.trail = choice :: trail) :
    w.path = Choice.path trail ++ [choice.instruction] := by
  rw [path, h, Choice.path_cons]

/-- Where the examples show what the trail computes, a step is one of the moves: in particular none
of its undos fails. -/
theorem move_step (h : w.examples.StandsAt w.path) : Move w w.step.1 w.step.2 := by
  unfold step
  by_cases hphase : w.phase.isTerminal = true
  · rw [if_pos hphase]
    exact .idle hphase
  · rw [if_neg hphase]
    have hphase : w.phase.isTerminal = false := Bool.eq_false_iff.2 hphase
    rcases hnext : w.here.next with ⟨_ | ins, here⟩
    · -- nothing is left at this depth
      rcases htrail : w.trail with _ | ⟨choice, trail⟩
      · simpa only [htrail] using Move.exhausted hphase hnext htrail
      · -- below an instruction there is one to undo
        rw [path_of_trail htrail] at h
        obtain ⟨examples, hundo, -⟩ := h.undo
        simp only [ascend, hundo]
        exact .ascended hphase hnext htrail hundo
    · simp only [descend]
      rcases happly : w.examples.apply ins with ⟨_ | ⟨⟩, examples⟩
      · exact .refused hphase hnext happly
      · by_cases hsolved : examples.isSolved = true
        · simp only [if_pos hsolved]
          exact .solved hphase hnext happly hsolved
        · by_cases hroom : w.depth + 1 < w.maxLength
          · simp only [if_neg hsolved, if_pos hroom]
            exact .descended hphase hnext happly (Bool.eq_false_iff.2 hsolved) hroom
          · -- what was just applied can be undone
            obtain ⟨examples', hundo, -⟩ := (h.apply_ok happly).1.undo
            simp only [if_neg hsolved, if_neg hroom, hundo]
            exact .undone hphase hnext happly (Bool.eq_false_iff.2 hsolved) hroom hundo

/-- There is no other step than the move. -/
theorem Move.step_eq (h : Move w answer w') : w.step = (answer, w') := by
  cases h with
  | idle hphase => simp [Walk.step, hphase]
  | refused hphase hnext happly => simp [Walk.step, descend, hphase, hnext, happly]
  | solved hphase hnext happly hsolved =>
    simp [Walk.step, descend, hphase, hnext, happly, hsolved]
  | descended hphase hnext happly hsolved hroom =>
    simp [Walk.step, descend, hphase, hnext, happly, hsolved, hroom]
  | undone hphase hnext happly hsolved hroom hundo =>
    simp [Walk.step, descend, hphase, hnext, happly, hsolved, hroom, hundo]
  | exhausted hphase hnext htrail => simp [Walk.step, hphase, hnext, htrail]
  | ascended hphase hnext htrail hundo => simp [Walk.step, ascend, hphase, hnext, htrail, hundo]

/-- A move that leads to a walk that has ended is the one that ended it, unless it had ended
before. -/
theorem Move.of_terminal (h : Move w answer w') (hphase : w'.phase.isTerminal = true) :
    w' = w ∨ (w'.phase = .solved ∧ w'.trail ≠ [] ∧ w'.examples.isSolved = true) ∨
      (w'.phase = .exhausted ∧ w'.trail = []) := by
  cases h with
  | idle => exact .inl rfl
  | refused hgoing => exact absurd (hgoing.symm.trans hphase) (by simp)
  | solved _ _ _ hsolved => exact .inr (.inl ⟨rfl, List.cons_ne_nil _ _, hsolved⟩)
  | exhausted _ _ htrail => exact .inr (.inr ⟨rfl, htrail⟩)
  | descended | undone | ascended => cases hphase

/-! ## What every step keeps -/

/-- The walk goes through the programs over the inputs of a set, and its examples and cursors are
those that belong to the instructions of its trail. -/
structure Standing (start : ExampleSet) (catalog : Catalog) (maxLength : Nat) (w : Walk) :
    Prop where
  pairs : w.examples.pairs = start.pairs
  examples : w.examples.StandsAt w.path
  trail : LedFrom catalog start.types w.trail
  -- a solved walk has not entered the depth below its last instruction
  here : w.phase ≠ .solved → w.here.IsOver catalog (Program.typesFrom start.types w.path)
  limit : w.maxLength = maxLength
  depth_le : w.depth ≤ maxLength
  depth_lt : w.phase.isTerminal = false → w.depth < maxLength

variable {s : ExampleSet} {maxLength : Nat}

/-- A walk that has not ended has entered the depth it stands at. -/
theorem Standing.isOver (h : Standing s catalog maxLength w) (hphase : w.phase.isTerminal = false) :
    w.here.IsOver catalog (Program.typesFrom s.types w.path) := by
  refine h.here ?_
  intro hsolved
  rw [hsolved] at hphase
  cases hphase

/-- A step takes a walk from one place of the tree to another. -/
theorem Standing.move (h : Standing s catalog maxLength w) (hmove : Move w answer w') :
    Standing s catalog maxLength w' := by
  cases hmove with
  | idle => exact h
  | refused hphase hnext happly =>
    obtain ⟨hstands, hpairs⟩ := h.examples.apply_error happly
    exact ⟨hpairs.trans h.pairs, hstands, h.trail, fun _ => (h.isOver hphase).next hnext, h.limit,
      h.depth_le, h.depth_lt⟩
  | @solved ins here examples hphase hnext happly _ =>
    obtain ⟨hstands, hpairs⟩ := h.examples.apply_ok happly
    refine ⟨hpairs.trans h.pairs, ?_, h.trail.push (h.isOver hphase) hnext, ?_, h.limit,
      h.depth_lt hphase, ?_⟩
    · simpa only [path, Choice.path_cons] using hstands
    · exact fun hne => absurd rfl hne
    · simp [Phase.isTerminal]
  | @descended ins here examples hphase hnext happly _ hroom =>
    obtain ⟨hstands, hpairs⟩ := h.examples.apply_ok happly
    refine ⟨hpairs.trans h.pairs, ?_, h.trail.push (h.isOver hphase) hnext, fun _ => ?_, h.limit,
      h.depth_lt hphase, fun _ => h.limit ▸ hroom⟩
    · simpa only [path, Choice.path_cons] using hstands
    · have hhere := (h.isOver hphase).next hnext
      refine ⟨hhere.catalog, ?_⟩
      simp only [Cursor.after, Cursor.start, path, Choice.path_cons, Program.typesFrom_append]
      rw [hhere.types, path]
  | undone hphase hnext happly _ _ hundo =>
    -- down by the instruction and back up again: only the cursor has moved
    obtain ⟨hstands, hpairs⟩ := h.examples.apply_ok happly
    obtain ⟨examples', hundo', hstands', hpairs'⟩ := hstands.undo
    obtain ⟨-, rfl⟩ := Prod.mk.inj (hundo.symm.trans hundo')
    exact ⟨hpairs'.trans (hpairs.trans h.pairs), hstands', h.trail,
      fun _ => (h.isOver hphase).next hnext, h.limit, h.depth_le, fun _ => h.depth_lt hphase⟩
  | exhausted hphase hnext htrail =>
    refine ⟨h.pairs, h.examples, h.trail, fun _ => (h.isOver hphase).next hnext, h.limit,
      h.depth_le, ?_⟩
    simp [Phase.isTerminal]
  | @ascended here choice trail examples hphase _ htrail hundo =>
    have hled := h.trail
    have hexamples := h.examples
    rw [htrail] at hled
    rw [path_of_trail htrail] at hexamples
    obtain ⟨examples', hundo', hstands, hpairs⟩ := hexamples.undo
    obtain ⟨-, rfl⟩ := Prod.mk.inj (hundo.symm.trans hundo')
    have hdepth : trail.length < w.depth := by
      rw [depth, htrail]
      exact Nat.lt_succ_self _
    cases hled with
    | cons hled hchoice _ _ =>
      exact ⟨hpairs.trans h.pairs, hstands, hled, fun _ => hchoice, h.limit,
        Nat.le_trans (Nat.le_of_lt hdepth) h.depth_le,
        fun _ => Nat.lt_trans hdepth (h.depth_lt hphase)⟩

theorem Standing.step (h : Standing s catalog maxLength w) :
    Standing s catalog maxLength w.step.2 :=
  h.move (move_step h.examples)

/-- Where a step leads, it leads by a move. -/
theorem Standing.move_of_step (h : Standing s catalog maxLength w) (hstep : w.step = (answer, w')) :
    Move w answer w' := by
  have hmove := move_step h.examples
  rw [hstep] at hmove
  exact hmove

/-! ## Going back up -/

/-- Where a walk is after going back up: at the inputs, with the cursor of the first depth. -/
theorem unwind_eq (trail : List Choice) (w : Walk) (h : w.examples.StandsAt (Choice.path trail)) :
    ∃ examples, examples.StandsAt [] ∧ examples.pairs = w.examples.pairs ∧
      w.unwind trail = (.ok (), { w with
        examples, trail := []
        here := (trail.getLast?.map Choice.cursor).getD w.here }) := by
  induction trail generalizing w with
  | nil => exact ⟨w.examples, h, rfl, rfl⟩
  | cons choice trail ih =>
    -- the newest instruction stands first in the trail, and last in the program
    rw [Choice.path_cons] at h
    obtain ⟨examples, hundo, hstands, hpairs⟩ := h.undo
    obtain ⟨examples', hstands', hpairs', hrest⟩ :=
      ih { w with examples, here := choice.cursor } hstands
    refine ⟨examples', hstands', hpairs'.trans hpairs, ?_⟩
    simp only [unwind, hundo, hrest]
    cases trail <;> simp [List.getLast?_cons]

/-- Going back up does not fail; it leaves the examples at their inputs and all else where it
was. -/
theorem Standing.rewind (h : Standing s catalog maxLength w) :
    ∃ w', w.rewind = (.ok (), w') ∧ Standing s catalog maxLength w' ∧ w'.path = [] ∧
      w'.phase = w.phase ∧ w'.counters = w.counters := by
  obtain ⟨examples, hstands, hpairs, hunwind⟩ := unwind_eq w.trail w h.examples
  refine ⟨_, hunwind, ⟨hpairs.trans h.pairs, hstands, .nil, ?_, h.limit, Nat.zero_le _, ?_⟩,
    rfl, rfl, rfl⟩
  · intro hphase
    -- the cursor of the first depth is the one that made the first choice, if there is one
    cases hroot : w.trail.getLast? with
    | none =>
      have hhere := h.here hphase
      rw [path, List.getLast?_eq_none_iff.1 hroot] at hhere
      exact hhere
    | some choice => simpa [Program.typesFrom, path] using h.trail.root hroot
  · exact fun hphase => Nat.lt_of_le_of_lt (Nat.zero_le _) (h.depth_lt hphase)

/-! ## The beginning -/

/-- The walk that has not made a step. -/
def root (s : ExampleSet) (catalog : Catalog) (maxLength : Nat) : Walk where
  examples := s
  maxLength := maxLength
  trail := []
  here := .start catalog s.types
  phase := if maxLength = 0 then .exhausted else .descending
  counters := ⟨0, 0, if maxLength = 0 then 0 else 1, 0⟩

/-- All there is to the beginning of a walk. -/
theorem start_eq_ok_iff :
    start s catalog maxLength = .ok w ↔ s.depth = 0 ∧ w = root s catalog maxLength := by
  unfold start root
  by_cases hdepth : s.depth = 0
  · by_cases hzero : maxLength = 0 <;>
      simp [hdepth, hzero, pure, Except.pure, Counters.zero, eq_comm]
  · simp [hdepth, throw, throwThe, MonadExceptOf.throw]

/-- A walk that has not made a step is at the inputs and has found nothing. -/
theorem trail_start (hstart : start s catalog maxLength = .ok w) :
    w.trail = [] ∧ w.phase ≠ .solved := by
  obtain ⟨-, rfl⟩ := start_eq_ok_iff.1 hstart
  refine ⟨rfl, ?_⟩
  show (if maxLength = 0 then Phase.exhausted else .descending) ≠ .solved
  split <;> simp

/-- A walk begins at the inputs of a set that nothing has been applied to. -/
theorem standing_start (hstands : s.StandsAt []) (hstart : start s catalog maxLength = .ok w) :
    Standing s catalog maxLength w := by
  obtain ⟨-, rfl⟩ := start_eq_ok_iff.1 hstart
  have hover : (Cursor.start catalog s.types).IsOver catalog (Program.typesFrom s.types []) := by
    exact ⟨rfl, by simp [Program.typesFrom, Cursor.start]⟩
  refine ⟨rfl, hstands, .nil, fun _ => hover, rfl, Nat.zero_le _, fun hphase => ?_⟩
  refine Nat.pos_of_ne_zero fun hzero => ?_
  simp [root, hzero, Phase.isTerminal] at hphase

end Walk

end ProgramSearch

/-
# ProgramSearch.Proofs.Search.Invariant -- what holds of every walk

A walk is stepped, run with budgets and sent back up in any order, and steps may fail on the way.
`Walk.Invariant` is what holds whatever was done: the examples show what the path computes, the path
is well typed and not too long, each cursor knows the types of the registers at its depth, and
nothing fails but an instruction that some example refuses.
-/

import ProgramSearch.Proofs.History

namespace ProgramSearch.Walk

/-- The walks that begin at a set of examples, and what they become. -/
inductive Reachable (s : ExampleSet) (catalog : Catalog) (maxLength : Nat) : Walk → Prop where
  | start {w : Walk} : start s catalog maxLength = .ok w → Reachable s catalog maxLength w
  | step {w : Walk} : Reachable s catalog maxLength w → Reachable s catalog maxLength w.step.2
  | run {w : Walk} (budget : Budget) :
      Reachable s catalog maxLength w → Reachable s catalog maxLength (w.run budget).2
  | rewind {w : Walk} : Reachable s catalog maxLength w → Reachable s catalog maxLength w.rewind.2

/-- The cursors of a walk, from that of the first depth to that of the depth it stands at. -/
def cursors (w : Walk) : List Cursor := w.trail.reverse.map Choice.cursor ++ [w.here]

variable {s : ExampleSet} {catalog : Catalog} {types : List Ty} {maxLength : Nat} {w : Walk}

theorem Reachable.standing (hstands : s.StandsAt []) (h : w.Reachable s catalog maxLength) :
    Standing s catalog maxLength w := by
  induction h with
  | start hstart => exact standing_start hstands hstart
  | step _ ih => exact ih.step
  | run budget _ ih => exact ih.run budget
  | rewind _ ih =>
    obtain ⟨w', hrewind, hstanding, -⟩ := ih.rewind
    rwa [hrewind]

/-! ## Cursors and the registers of their depths -/

/-- The cursor that made a choice is over the registers that the choices before it leave. -/
theorem LedFrom.types_at {trail : List Choice} (h : LedFrom catalog types trail) {d : Nat}
    (hd : d < trail.length) :
    ∃ choice, trail.reverse[d]? = some choice ∧
      choice.cursor.types = Program.typesFrom types ((Choice.path trail).take d) := by
  induction h with
  | nil => cases hd
  | @cons choice trail _ _ hover _ _ ih =>
    rw [List.reverse_cons, Choice.path_cons]
    rcases Nat.lt_succ_iff_lt_or_eq.1 hd with hd | rfl
    · rw [List.getElem?_append_left (by simpa using hd),
        List.take_append_of_le_length (by simpa using Nat.le_of_lt hd)]
      exact ih hd
    · -- the newest choice was made over all the instructions before it
      refine ⟨choice, by simp, ?_⟩
      rw [hover.types, List.take_append_of_le_length (by simp), ← Choice.length_path trail,
        List.take_length]

/-- The cursor of a depth is over the registers that the instructions before that depth leave. -/
theorem Standing.types_at (h : Standing s catalog maxLength w) {d : Nat}
    (hd : d < w.path.length ∨ d = w.path.length ∧ w.phase.isTerminal = false) :
    ∃ cursor, w.cursors[d]? = some cursor ∧
      cursor.types = Program.typesFrom s.types (w.path.take d) := by
  rw [path, Choice.length_path] at hd
  rcases hd with hd | ⟨rfl, hphase⟩
  · obtain ⟨choice, hchoice, htypes⟩ := h.trail.types_at hd
    refine ⟨choice.cursor, ?_, htypes⟩
    rw [cursors, List.getElem?_append_left (by simpa using hd), List.getElem?_map, hchoice]
    rfl
  · have hover := h.isOver hphase
    refine ⟨w.here, by simp [cursors], ?_⟩
    rw [hover.types, path, ← Choice.length_path w.trail, List.take_length]

/-- The types of the registers below a depth, as any of the examples shows them. -/
theorem take_types {x : Example} {steps : List Instruction} (h : x.registers.StandsAt steps)
    (hinputs : x.registers.inputs.map Value.type = types) (d : Nat) :
    x.registers.types.take (x.registers.inputs.length + d) =
      Program.typesFrom types (steps.take d) := by
  have hlength : x.registers.inputs.length = types.length := by rw [← hinputs, List.length_map]
  rw [h.types, hinputs, hlength, Program.typesFrom, Program.typesFrom, List.take_length_add_append,
    List.map_take]

/-! ## The invariant -/

/-- Some example raises the error when the instruction that a walk is offered is applied to it. -/
def IsRefused (w : Walk) (e : Error) : Prop :=
  ∃ ins here, w.here.next = (some ins, here) ∧
    ∃ x ∈ w.examples.examples, (x.registers.apply ins).1 = .error e

/-- What holds of the walks over a set of examples. -/
structure Invariant (s : ExampleSet) (maxLength : Nat) (w : Walk) : Prop where
  pairs : w.examples.pairs = s.pairs
  depth : w.examples.depth = w.path.length
  visible : ∀ x ∈ w.examples.examples,
    Program.runFrom x.registers.inputs w.path = .ok x.registers.visible
  wellTyped : ∀ x ∈ w.examples.examples,
    Program.WellTyped (x.registers.inputs.map Value.type) w.path
  length_le : w.path.length ≤ maxLength
  length_lt : w.phase.isTerminal = false → w.path.length < maxLength
  /-- The cursor of a depth knows the types of the registers that an instruction there can read. -/
  cursors : ∀ d, d < w.path.length ∨ d = w.path.length ∧ w.phase.isTerminal = false →
    ∃ cursor, w.cursors[d]? = some cursor ∧ ∀ x ∈ w.examples.examples,
      cursor.types = x.registers.types.take (x.registers.inputs.length + d)
  rewind : w.rewind.1 = .ok ()
  step : ∀ e, w.step.1 = .error e → w.IsRefused e
  /-- A run fails with an error of one of its steps. -/
  run : ∀ budget e, (w.run budget).1 = .error e →
    ∃ u, Relation.ReflTransGen (Goes budget) w u ∧ u.IsRefused e

/-- A step fails only where some example refuses the instruction that is offered. -/
theorem Standing.isRefused {e : Error} (h : Standing s catalog maxLength w)
    (herror : w.step.1 = .error e) : w.IsRefused e := by
  have hmove := move_step h.examples
  rw [herror] at hmove
  generalize w.step.2 = w' at hmove
  cases hmove with
  | @refused ins here _ examples _ hnext happly =>
    exact ⟨ins, here, hnext, ExampleSet.exists_apply_eq_error (by rw [happly])⟩

/-- **The invariant holds whatever was done with a walk.** -/
theorem invariant_of_reachable (hs : s.Reachable) (hdepth : s.depth = 0)
    (hw : w.Reachable s catalog maxLength) : w.Invariant s maxLength := by
  have hlockstep := hs.lockstep
  have h := hw.standing (hlockstep.standsAt_nil hdepth)
  have hinputs : ∀ x ∈ w.examples.examples, x.registers.inputs.map Value.type = s.types := by
    intro x hx
    exact hlockstep.types_of_pairs hdepth h.pairs hx
  refine ⟨h.pairs, ?_, h.examples, ?_, ?_, ?_, ?_, ?_, ?_, ?_⟩
  · exact (hlockstep.of_standsAt hdepth h.pairs h.examples).depth_eq h.examples
  · intro x hx
    rw [hinputs x hx]
    exact h.trail.wellTyped.1
  · rw [path, Choice.length_path]
    exact h.depth_le
  · rw [path, Choice.length_path]
    exact h.depth_lt
  · intro d hd
    obtain ⟨cursor, hcursor, htypes⟩ := h.types_at hd
    refine ⟨cursor, hcursor, ?_⟩
    intro x hx
    rw [htypes, take_types (h.examples x hx) (hinputs x hx)]
  · obtain ⟨w', hrewind, -⟩ := h.rewind
    rw [hrewind]
  · intro e herror
    exact h.isRefused herror
  · intro budget e herror
    obtain ⟨u, hchain, hstep⟩ := h.run_eq_error herror
    exact ⟨u, hchain, (h.goes hchain).isRefused hstep⟩

/-- The invariant of a walk whose first step is refused, and which is then run with a budget and
sent back up. -/
theorem invariant_of_interrupted_walk :
    ∃ w, ExampleSet.ofPairs [([.int 1, .array [7]], .int 3)] = .ok .shortArray ∧
      start .shortArray ⟨[.access .strict, .scalar .increment]⟩ 2 = .ok w ∧
      w.step.1 = .error (.indexOutOfRange 1 1) ∧
      Invariant .shortArray 2 (w.step.2.run ⟨some 2, none⟩).2.rewind.2 := by
  refine ⟨root .shortArray ⟨[.access .strict, .scalar .increment]⟩ 2, rfl, rfl, rfl, ?_⟩
  exact invariant_of_reachable ExampleSet.reachable_shortArray rfl
    (.rewind (.run ⟨some 2, none⟩ (.step (.start rfl))))

end ProgramSearch.Walk

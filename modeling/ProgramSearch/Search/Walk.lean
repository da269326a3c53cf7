/-
# ProgramSearch.Search.Walk -- walking the tree of programs

The programs over given inputs form a tree: below a program are those that are one instruction
longer. A walk goes through this tree in depth-first order and keeps the registers of all examples
at the program it stands at. It is a zipper: the cursor of the depth it stands at, and the trail of
instructions that led there, each with the cursor that offered it. One step offers one instruction:
the walk tries it and goes down, or undoes it at the greatest length; where the cursor has nothing
left, it goes back up.

What lies ahead of a walk can be counted from its cursors alone, and every step that does not end
the walk leaves less ahead (`Walk.work_step_lt`). This is why `Walk.run` needs no bound to run with.
-/

import ProgramSearch.ExampleSet
import ProgramSearch.Search.Cursor
import ProgramSearch.Search.Limits
import ProgramSearch.Search.Report

namespace ProgramSearch

/-- What the last step of a walk did. -/
inductive Phase where
  /-- It tried an instruction, or the walk has just begun. -/
  | descending
  /-- It left a depth with nothing left to try. -/
  | backtracking
  /-- It found a program that reproduces every example. -/
  | solved
  /-- It found that there is nothing left to try. -/
  | exhausted
  deriving DecidableEq, Repr

/-- Whether a walk has ended. -/
def Phase.isTerminal : Phase → Bool
  | solved | exhausted => true
  | descending | backtracking => false

/-- An instruction that a walk has gone down by. -/
structure Choice where
  /-- The cursor that offered the instruction, standing after it. -/
  cursor : Cursor
  instruction : Instruction
  deriving DecidableEq, Repr

/-- The instructions of a trail in the order they run; the newest stands first in the trail. -/
def Choice.path (trail : List Choice) : List Instruction := trail.reverse.map Choice.instruction

@[simp] theorem Choice.path_nil : Choice.path [] = [] := rfl

@[simp] theorem Choice.path_cons (choice : Choice) (trail : List Choice) :
    Choice.path (choice :: trail) = Choice.path trail ++ [choice.instruction] := by
  simp [Choice.path]

@[simp] theorem Choice.length_path (trail : List Choice) :
    (Choice.path trail).length = trail.length := by
  simp [Choice.path]

/-- A walk through the tree of programs. -/
structure Walk where
  /-- The examples, with the instructions of the trail applied. -/
  examples : ExampleSet
  /-- The number of instructions of the longest programs to try. -/
  maxLength : Nat
  /-- The instructions that led here, the newest first. -/
  trail : List Choice
  /-- The cursor of the depth the walk stands at. -/
  here : Cursor
  phase : Phase
  counters : Counters
  deriving DecidableEq, Repr

namespace Walk

/-! ## Standing -/

/-- A walk that has not made a step. With no instructions allowed there is nothing to try. -/
def start (examples : ExampleSet) (catalog : Catalog) (maxLength : Nat) : Except Error Walk :=
  if examples.depth ≠ 0 then throw (.violation (.searchUnderway examples.depth))
  else
    let here := Cursor.start catalog examples.types
    if maxLength = 0 then return ⟨examples, maxLength, [], here, .exhausted, .zero⟩
    else return ⟨examples, maxLength, [], here, .descending, { Counters.zero with inits := 1 }⟩

/-- A walk can begin exactly where nothing has been applied. -/
theorem exists_start_eq_ok_iff {examples : ExampleSet} {catalog : Catalog} {maxLength : Nat} :
    (∃ w, start examples catalog maxLength = .ok w) ↔ examples.depth = 0 := by
  unfold start
  by_cases hdepth : examples.depth = 0
  · by_cases hzero : maxLength = 0 <;> simp [hdepth, hzero, pure, Except.pure]
  · simp [hdepth, throw, throwThe, MonadExceptOf.throw]

/-- The number of instructions of the program the walk stands at. -/
def depth (w : Walk) : Nat := w.trail.length

/-- The instructions of the program the walk stands at, in the order they run. -/
def path (w : Walk) : List Instruction := Choice.path w.trail

/-- The program the walk stands at. -/
def program (w : Walk) : Program := ⟨w.examples.inputCount, w.path⟩

/-! ## Stepping -/

/-- Goes back up by one instruction: it is undone, and the cursor that offered it is in use
again. -/
def ascend (w : Walk) (choice : Choice) (trail : List Choice) : Except Error Unit × Walk :=
  match w.examples.undo with
  | (.error e, examples) => (.error e, { w with examples })
  | (.ok (), examples) => (.ok (), { w with
      examples, trail, here := choice.cursor, phase := .backtracking, counters := w.counters.left })

/-- Tries an instruction that the cursor offered; `here` is the cursor after it. The walk goes down
by it, unless the examples refuse it or it fills the program up to the greatest length without
solving the examples. -/
def descend (w : Walk) (ins : Instruction) (here : Cursor) : Except Error Unit × Walk :=
  match w.examples.apply ins with
  -- the instruction was refused, but the cursor has passed it
  | (.error e, examples) => (.error e, { w with examples, here })
  | (.ok (), examples) =>
    let counters := w.counters.explored (w.depth + 1)
    let trail := ⟨here, ins⟩ :: w.trail
    if examples.isSolved then
      (.ok (), { w with examples, here, trail, phase := .solved, counters })
    else if w.depth + 1 < w.maxLength then
      (.ok (), { w with
        examples, trail, here := here.after ins, phase := .descending
        counters := counters.entered })
    else
      -- the program is as long as programs may be, so its last instruction is taken back
      match examples.undo with
      | (.error e, examples) => (.error e, { w with examples, here, counters })
      | (.ok (), examples) => (.ok (), { w with examples, here, phase := .descending, counters })

/-- One step of a walk; a walk that has ended stays as it is. A step fails when the examples refuse
the instruction it tries; the instruction has then been passed over. -/
def step (w : Walk) : Except Error Unit × Walk :=
  if w.phase.isTerminal then (.ok (), w)
  else match w.here.next with
    | (some ins, here) => w.descend ins here
    | (none, here) => match w.trail with
      | [] => (.ok (), { w with here, phase := .exhausted })
      | choice :: trail => { w with here }.ascend choice trail

/-- Undoes the instructions of a trail, the newest first, each time going back to the cursor that
offered the instruction. -/
def unwind (w : Walk) : List Choice → Except Error Unit × Walk
  | [] => (.ok (), { w with trail := [] })
  | choice :: trail =>
    match w.examples.undo with
    | (.error e, examples) => (.error e, { w with examples, trail, here := choice.cursor })
    | (.ok (), examples) => unwind { w with examples, here := choice.cursor } trail

/-- Goes back up to the inputs. The cursors passed are dropped, and the first one stays where it
is, so that a walk that goes on tries nothing again. -/
def rewind (w : Walk) : Except Error Unit × Walk := w.unwind w.trail

/-! ## What lies ahead -/

/-- The programs ahead of the cursors of a trail in a walk with the given greatest length. -/
def aheadOfTrail (maxLength : Nat) : List Choice → Nat
  | [] => 0
  | choice :: trail =>
    choice.cursor.ahead (maxLength - trail.length - 1) + aheadOfTrail maxLength trail

/-- A bound on the steps a walk can still make: two for every program ahead of its cursors, for
trying it and for leaving the depth below it, and one for every depth to leave on the way up. -/
def work (w : Walk) : Nat :=
  2 * (w.here.ahead (w.maxLength - w.depth - 1) + aheadOfTrail w.maxLength w.trail) + w.depth

theorem work_descend_lt {w w' : Walk} {ins : Instruction} {here : Cursor}
    (hnext : w.here.next = (some ins, here)) (h : w.descend ins here = (.ok (), w'))
    (hphase : w'.phase.isTerminal = false) : w'.work < w.work := by
  have hahead := Cursor.ahead_of_next hnext (w.maxLength - w.depth - 1)
  obtain ⟨-, hcatalog, htypes, -⟩ := Cursor.next_eq hnext
  unfold descend at h
  split at h
  · simp at h
  · split at h
    · obtain ⟨-, rfl⟩ := Prod.mk.inj h
      simp [Phase.isTerminal] at hphase
    · split at h
      · rename_i hdeep
        obtain ⟨-, rfl⟩ := Prod.mk.inj h
        have hbelow : w.maxLength - (w.depth + 1) - 1 + 1 = w.maxLength - w.depth - 1 := by omega
        have hstart := Cursor.ahead_start w.here.catalog (w.here.types ++ [ins.resultType])
          (w.maxLength - (w.depth + 1) - 1)
        rw [hbelow] at hstart
        simp only [work, depth, List.length_cons, aheadOfTrail, Cursor.after, hcatalog, htypes] at *
        omega
      · split at h
        · simp at h
        · obtain ⟨-, rfl⟩ := Prod.mk.inj h
          simp only [work, depth] at *
          omega

theorem work_ascend_lt {w w' : Walk} {here : Cursor} {choice : Choice} {trail : List Choice}
    (htrail : w.trail = choice :: trail) (h : { w with here }.ascend choice trail = (.ok (), w')) :
    w'.work < w.work := by
  unfold ascend at h
  split at h
  · simp at h
  · obtain ⟨-, rfl⟩ := Prod.mk.inj h
    simp only [work, depth, htrail, List.length_cons, aheadOfTrail]
    omega

/-- A step that succeeds and does not end the walk leaves less ahead of it. -/
theorem work_step_lt {w w' : Walk} (h : w.step = (.ok (), w'))
    (hphase : w'.phase.isTerminal = false) : w'.work < w.work := by
  unfold step at h
  split at h
  · rename_i hterminal
    obtain ⟨-, rfl⟩ := Prod.mk.inj h
    simp [hterminal] at hphase
  · split at h
    · rename_i hnext
      exact work_descend_lt hnext h hphase
    · split at h
      · obtain ⟨-, rfl⟩ := Prod.mk.inj h
        simp [Phase.isTerminal] at hphase
      · rename_i htrail
        exact work_ascend_lt htrail h

/-! ## Running -/

/-- A walk that is given up: it goes back up to the inputs, and the answer is the given one unless
that fails. -/
def giveUp (w : Walk) (answer : Except Error Outcome) : Except Error Outcome × Walk :=
  match w.rewind with
  | (.error e, w) => (.error e, w)
  | (.ok (), w) => (answer, w)

/-- Steps until the walk ends or the budget is spent. When a step fails or the budget is spent the
walk goes back up to the inputs. -/
def run (w : Walk) (budget : Budget) : Except Error Outcome × Walk :=
  match _hstep : w.step with
  | (.error e, w') => w'.giveUp (.error e)
  | (.ok (), w') =>
    match _hphase : w'.phase with
    | .solved => (.ok .solved, w')
    | .exhausted => (.ok .exhausted, w')
    | .descending | .backtracking =>
      if budget.isSpent w'.counters.nodes then w'.giveUp (.ok .budgetExceeded)
      else w'.run budget
termination_by w.work
decreasing_by
  all_goals exact work_step_lt _hstep (by simp [_hphase, Phase.isTerminal])

end Walk

end ProgramSearch

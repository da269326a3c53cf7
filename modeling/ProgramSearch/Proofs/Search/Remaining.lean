/-
# ProgramSearch.Proofs.Search.Remaining -- what is left to do

A bound on the steps that a walk can still make, whatever their answers. `Walk.remaining` goes down
with every step that does not end the walk, also with one that fails, where neither the path nor the
registers change: the cursor has passed the instruction that was refused. Going back up does not
raise it, and at first it is twice the number of programs.
-/

import ProgramSearch.Proofs.Search.Invariant

namespace ProgramSearch.Walk

/-- A bound on the steps that a walk can still make before it has ended. -/
def remaining (w : Walk) : Nat := if w.phase.isTerminal then 0 else w.work

/-- Whether the next step answers that the walk has ended. -/
def endsNext (w : Walk) : Bool :=
  match w.step with
  | (.ok (), w') => w'.phase.isTerminal
  | (.error _, _) => false

variable {s : ExampleSet} {catalog : Catalog} {maxLength : Nat} {w w' : Walk}
  {answer : Except Error Unit} {budget : Budget}

theorem remaining_of_terminal (hphase : w.phase.isTerminal = true) : w.remaining = 0 := by
  simp [remaining, hphase]

theorem endsNext_of_step (hstep : w.step = (answer, w')) :
    w.endsNext = true ↔ answer = .ok () ∧ w'.phase.isTerminal = true := by
  unfold endsNext
  rw [hstep]
  cases answer <;> simp

/-! ## One call -/

/-- A step that is refused leaves less to do: the cursor has passed the instruction. -/
theorem work_refused_lt {here : Cursor} {ins : Instruction} (examples : ExampleSet)
    (hnext : w.here.next = (some ins, here)) : { w with examples, here }.work < w.work := by
  have hahead := Cursor.ahead_of_next hnext (w.maxLength - w.depth - 1)
  simp only [work, depth] at hahead ⊢
  omega

/-- What lies ahead of the first cursor of a trail is part of what lies ahead of all of them. -/
theorem ahead_root_le (maxLength : Nat) {trail : List Choice} {root : Choice}
    (hroot : trail.getLast? = some root) :
    root.cursor.ahead (maxLength - 1) ≤ aheadOfTrail maxLength trail := by
  induction trail with
  | nil => cases hroot
  | cons choice trail ih =>
    cases trail with
    | nil =>
      obtain rfl : choice = root := by simpa using hroot
      simp [aheadOfTrail]
    | cons next trail =>
      have hrest := ih (by simpa using hroot)
      rw [aheadOfTrail]
      omega

/-- Going back up leaves no more to do. -/
theorem Standing.remaining_rewind_le (h : Standing s catalog maxLength w) :
    w.rewind.2.remaining ≤ w.remaining := by
  obtain ⟨examples, -, -, hunwind⟩ := unwind_eq w.trail w h.examples
  rw [Walk.rewind, hunwind]
  simp only [remaining]
  split
  · exact Nat.le_refl 0
  · cases hroot : w.trail.getLast? with
    | none => simp [work, depth, List.getLast?_eq_none_iff.1 hroot]
    | some root =>
      have hle := ahead_root_le w.maxLength hroot
      simp only [work, depth, aheadOfTrail, Option.map_some, Option.getD_some, List.length_nil,
        Nat.sub_zero]
      omega

/-- A step leaves less to do, unless it answers that the walk has ended: then nothing is left. -/
theorem Move.remaining_cases (hmove : Move w answer w') :
    (w.endsNext = true ∧ w'.remaining = 0) ∨
      (w.endsNext = false ∧ w'.remaining < w.remaining) := by
  have hstep := hmove.step_eq
  have hends := endsNext_of_step hstep
  cases hphase : w.phase.isTerminal with
  | true =>
    obtain ⟨rfl, rfl⟩ := Prod.mk.inj (hstep.symm.trans (Move.idle hphase).step_eq)
    exact .inl ⟨hends.2 ⟨rfl, hphase⟩, remaining_of_terminal hphase⟩
  | false =>
    cases answer with
    | error e =>
      cases hmove with
      | @refused _ _ _ examples _ hnext _ =>
        have hlt := work_refused_lt examples hnext
        exact .inr ⟨by simpa using hends, by simpa [remaining, hphase] using hlt⟩
    | ok _ =>
      cases hphase' : w'.phase.isTerminal with
      | true => exact .inl ⟨hends.2 ⟨rfl, hphase'⟩, remaining_of_terminal hphase'⟩
      | false =>
        have hlt := work_step_lt hstep hphase'
        exact .inr ⟨by simpa [hphase'] using hends, by simpa [remaining, hphase, hphase'] using hlt⟩

theorem Move.remaining_le (hmove : Move w answer w') : w'.remaining ≤ w.remaining := by
  rcases hmove.remaining_cases with ⟨-, hzero⟩ | ⟨-, hlt⟩
  · rw [hzero]
    exact Nat.zero_le _
  · exact Nat.le_of_lt hlt

/-! ## Whole runs -/

/-- A run goes on for no more steps than there are left to do. -/
theorem Standing.le_remaining_of_goes (h : Standing s catalog maxLength w) {n : Nat}
    (hgoes : ∀ m < n, Goes budget (w.stepped m) (w.stepped (m + 1))) :
    (w.stepped n).remaining + n ≤ w.remaining := by
  induction n with
  | zero => exact Nat.le_refl _
  | succ n ih =>
    have hbefore := ih fun m hm => hgoes m (Nat.lt_succ_of_lt hm)
    have hlast := hgoes n (Nat.lt_succ_self n)
    have hmove := (h.stepped n).move_of_step hlast.step
    have hends : (w.stepped n).endsNext = false := by
      rw [← Bool.not_eq_true, endsNext_of_step hlast.step]
      simp [hlast.phase]
    rcases hmove.remaining_cases with ⟨htrue, -⟩ | ⟨-, hlt⟩
    · exact absurd (hends.symm.trans htrue) (by simp)
    · omega

theorem Standing.remaining_run_le (h : Standing s catalog maxLength w) (budget : Budget) :
    (w.run budget).2.remaining ≤ w.remaining := by
  obtain ⟨u, hend, hstanding, hu⟩ := h.run_end_of_move (P := fun v => v.remaining ≤ w.remaining)
    (fun hv hmove => Nat.le_trans hmove.remaining_le hv) (Nat.le_refl _) budget
  have hgiveUp (answer : Except Error Outcome) :
      (u.step.2.giveUp answer).2.remaining ≤ w.remaining := by
    obtain ⟨v, hrewind, -⟩ := hstanding.rewind
    have hle := hstanding.remaining_rewind_le
    rw [hrewind] at hle
    simp only [Walk.giveUp, hrewind]
    exact Nat.le_trans hle hu
  generalize w.run budget = result at hend
  cases hend with
  | failed hstep | spent hstep _ _ =>
    rw [hstep] at hgiveUp
    exact hgiveUp _
  | solved hstep _ | exhausted hstep _ =>
    rw [hstep] at hu
    exact hu

/-- At first there are two steps to do for every node of the tree. -/
theorem remaining_start (hstart : start s catalog maxLength = .ok w) :
    w.remaining = 2 * catalog.programCount maxLength s.types := by
  obtain ⟨-, rfl⟩ := start_eq_ok_iff.1 hstart
  cases maxLength with
  | zero => rfl
  | succ height => exact congrArg (2 * ·) (Cursor.ahead_start catalog s.types height)

theorem Reachable.remaining_le (hstands : s.StandsAt []) (hw : w.Reachable s catalog maxLength) :
    w.remaining ≤ 2 * catalog.programCount maxLength s.types := by
  induction hw with
  | start hstart => exact Nat.le_of_eq (remaining_start hstart)
  | step hw ih => exact Nat.le_trans (move_step (hw.standing hstands).examples).remaining_le ih
  | run budget hw ih => exact Nat.le_trans ((hw.standing hstands).remaining_run_le budget) ih
  | rewind hw ih => exact Nat.le_trans (hw.standing hstands).remaining_rewind_le ih

end ProgramSearch.Walk

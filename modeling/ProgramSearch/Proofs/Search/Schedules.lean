/-
# ProgramSearch.Proofs.Search.Schedules -- no work is done twice

A walk can be stepped and sent back up in any order, and its steps may fail on the way. Going back
up drops the cursors below the first depth, and every way down starts new ones, so no cursor alone
tells how far the walk has come; its places do. From one step to the next they move on in the order
of the tree, in which a node comes before those below it, also where a step fails or several depths
are dropped at once. And as every step that does not end the walk leaves less to do, there are at
most two such steps for every node of the tree.
-/

import Mathlib.Data.List.Lex
import ProgramSearch.Proofs.Search.Remaining
import ProgramSearch.Proofs.Search.Tree

namespace ProgramSearch.Walk

/-! ## Schedules -/

/-- What can be asked of a walk again and again. -/
inductive Call where
  | step
  | rewind
  deriving DecidableEq, Repr

/-- The walks that the steps of a schedule are made from, one after the other. Answers are ignored:
a call that fails does not keep the next ones from being made. -/
def stepsFrom (w : Walk) : List Call → List Walk
  | [] => []
  | .step :: calls => w :: w.step.2.stepsFrom calls
  | .rewind :: calls => w.rewind.2.stepsFrom calls

/-- Those of them that have not ended, and so ask a cursor for an instruction. -/
def requests (w : Walk) (calls : List Call) : List Walk :=
  (w.stepsFrom calls).filter fun u => !u.phase.isTerminal

/-- The places of the instruction that a walk asks for: those of the instructions it has gone down
by, each one place before the cursor that offered it, and the one where its own cursor stands. -/
def places (w : Walk) : List Nat :=
  (w.trail.reverse.map fun choice => choice.cursor.position - 1) ++ [w.here.position]

/-- The program that a walk tries next, if its cursor has an instruction left. -/
def tried? (w : Walk) : Option (List Instruction) :=
  w.here.next.1.map fun ins => w.path ++ [ins]

variable {s : ExampleSet} {catalog : Catalog} {types : List Ty} {maxLength : Nat} {w w' : Walk}
  {answer : Except Error Unit} {budget : Budget}

/-! ## Places in the order of the tree -/

/-- The trail of a walk is at the places of its instructions. -/
theorem LedFrom.leadTo {trail : List Choice} (h : LedFrom catalog types trail) :
    catalog.LeadTo types (trail.reverse.map fun choice => choice.cursor.position - 1)
      (Choice.path trail) := by
  induction h with
  | nil => exact .nil
  | @cons choice trail before _ hover hposition hfound ih =>
    rw [List.reverse_cons, List.map_append, Choice.path_cons]
    refine ih.append ?_
    rw [hover.listing] at hfound
    simpa [hposition] using hfound

theorem LedFrom.position_pos {trail : List Choice} (h : LedFrom catalog types trail) :
    ∀ choice ∈ trail, 0 < choice.cursor.position := by
  induction h with
  | nil => simp
  | cons _ _ hposition _ ih => exact List.forall_mem_cons.2 ⟨by omega, ih⟩

/-- A walk tries the program at the places that it asks for. -/
theorem Standing.leadTo (h : Standing s catalog maxLength w) (hphase : w.phase.isTerminal = false)
    {program : List Instruction} (htried : w.tried? = some program) :
    catalog.LeadTo s.types w.places program := by
  rcases hnext : w.here.next with ⟨ins?, here⟩
  obtain ⟨ins, hins, rfl⟩ := Option.map_eq_some_iff.1 htried
  rw [hnext] at hins
  obtain rfl : ins? = some ins := hins
  obtain ⟨hfound, -⟩ := Cursor.next_eq hnext
  rw [(h.isOver hphase).listing] at hfound
  exact h.trail.leadTo.append hfound.symm

/-- A cursor that has offered an instruction is one place further on. -/
theorem lex_next {here here' : Cursor} {ins : Instruction} (hnext : here.next = (some ins, here'))
    (before : List Nat) :
    List.Lex (· < ·) (before ++ [here.position]) (before ++ [here'.position]) := by
  obtain ⟨-, -, -, hposition⟩ := Cursor.next_eq hnext
  refine List.Lex.append_left _ (.rel ?_) before
  show here.position < here'.position
  rw [hposition]
  exact Nat.lt_succ_self _

/-- From one request to the next a walk moves on in the order of the tree. -/
theorem Standing.lex_of_move (h : Standing s catalog maxLength w) (hmove : Move w answer w')
    (hphase : w.phase.isTerminal = false) (hphase' : w'.phase.isTerminal = false) :
    List.Lex (· < ·) w.places w'.places := by
  cases hmove with
  | idle hterminal => exact absurd (hphase.symm.trans hterminal) (by simp)
  | refused _ hnext _ => exact lex_next hnext _
  | undone _ hnext _ _ _ _ => exact lex_next hnext _
  | solved | exhausted => cases hphase'
  | @descended ins here examples _ hnext _ _ _ =>
    -- the instruction is a node, and the first one below it comes next
    obtain ⟨-, -, -, hposition⟩ := Cursor.next_eq hnext
    have hplace : here.position - 1 = w.here.position := by simp [hposition]
    simp only [places, List.reverse_cons, List.map_append, List.map_cons, List.map_nil, hplace,
      List.append_assoc]
    exact List.Lex.append_left _ (.cons .nil) _
  | @ascended here choice trail examples _ _ htrail _ =>
    -- all that is below the newest instruction comes before its neighbour
    have hled := h.trail
    rw [htrail] at hled
    cases hled with
    | cons _ _ hposition _ =>
      simp only [places, htrail, List.reverse_cons, List.map_append, List.map_cons, List.map_nil,
        List.append_assoc]
      exact List.Lex.append_left _ (.rel (by omega)) _

/-- Going back up does not go back in the order of the tree. -/
theorem Standing.lex_rewind (h : Standing s catalog maxLength w) :
    w.rewind.2.places = w.places ∨ List.Lex (· < ·) w.places w.rewind.2.places := by
  obtain ⟨examples, -, -, hunwind⟩ := unwind_eq w.trail w h.examples
  have hplaces : w.rewind.2.places =
      [((w.trail.getLast?.map Choice.cursor).getD w.here).position] := by
    rw [Walk.rewind, hunwind]
    rfl
  rw [hplaces]
  rcases List.eq_nil_or_concat' w.trail with htrail | ⟨below, root, htrail⟩
  · exact .inl (by simp [places, htrail])
  · -- the cursor of the first depth has passed the instruction that was gone down by
    have hpos := h.trail.position_pos root (by simp [htrail])
    refine .inr ?_
    simp only [places, htrail, List.getLast?_concat, List.reverse_concat, List.map_cons,
      List.cons_append]
    exact .rel (Nat.sub_lt hpos Nat.one_pos)

theorem not_terminal_of_mem_requests {calls : List Call} {u : Walk} (hu : u ∈ w.requests calls) :
    u.phase.isTerminal = false := by
  simpa using (List.mem_filter.1 hu).2

/-- A walk that has ended asks for nothing. -/
theorem requests_of_terminal (h : Standing s catalog maxLength w)
    (hphase : w.phase.isTerminal = true) (calls : List Call) : w.requests calls = [] := by
  induction calls generalizing w with
  | nil => rfl
  | cons call calls ih =>
    cases call with
    | step =>
      have hstep := (Move.idle hphase).step_eq
      simp only [requests, stepsFrom, hstep, List.filter_cons, hphase] at ih ⊢
      exact ih h hphase
    | rewind =>
      obtain ⟨w', hrewind, hstanding, -, hsame, -⟩ := h.rewind
      simp only [requests, stepsFrom, hrewind] at ih ⊢
      exact ih hstanding (hsame ▸ hphase)

/-- Whatever a schedule does, the walks that its steps are made from stand in the tree. -/
theorem Standing.of_mem_stepsFrom (h : Standing s catalog maxLength w) {calls : List Call} :
    ∀ u ∈ w.stepsFrom calls, Standing s catalog maxLength u := by
  induction calls generalizing w with
  | nil => simp [stepsFrom]
  | cons call calls ih =>
    cases call with
    | step => exact List.forall_mem_cons.2 ⟨h, ih h.step⟩
    | rewind =>
      obtain ⟨w', hrewind, hstanding, -⟩ := h.rewind
      rw [stepsFrom, hrewind]
      exact ih hstanding

/-- Each request of a schedule is further on than the ones before it, and none lies before the
places where the walk stands. -/
theorem Standing.requests_sorted (h : Standing s catalog maxLength w) (calls : List Call) :
    (w.requests calls).Pairwise (fun u v => List.Lex (· < ·) u.places v.places) ∧
      ∀ u ∈ w.requests calls, u.places = w.places ∨ List.Lex (· < ·) w.places u.places := by
  induction calls generalizing w with
  | nil => simp [requests, stepsFrom]
  | cons call calls ih =>
    cases hphase : w.phase.isTerminal with
    | true => simp [requests_of_terminal h hphase]
    | false =>
      cases call with
      | step =>
        have hrequests : w.requests (.step :: calls) = w :: w.step.2.requests calls := by
          simp [requests, stepsFrom, hphase]
        obtain ⟨hsorted, hfrom⟩ := ih h.step
        have hlater : ∀ u ∈ w.step.2.requests calls, List.Lex (· < ·) w.places u.places := by
          intro u hu
          cases hphase' : w.step.2.phase.isTerminal with
          | true => simp [requests_of_terminal h.step hphase'] at hu
          | false =>
            have hlex := h.lex_of_move (move_step h.examples) hphase hphase'
            rcases hfrom u hu with heq | hu
            · rwa [heq]
            · exact List.lt_trans hlex hu
        rw [hrequests]
        refine ⟨List.pairwise_cons.2 ⟨hlater, hsorted⟩, List.forall_mem_cons.2 ⟨.inl rfl, ?_⟩⟩
        exact fun u hu => .inr (hlater u hu)
      | rewind =>
        obtain ⟨w', hrewind, hstanding, -⟩ := h.rewind
        have hback := h.lex_rewind
        rw [hrewind] at hback
        obtain ⟨hsorted, hfrom⟩ := ih hstanding
        have hrequests : w.requests (.rewind :: calls) = w'.requests calls := by
          simp only [requests, stepsFrom, hrewind]
        rw [hrequests]
        refine ⟨hsorted, fun u hu => ?_⟩
        rcases hback with hsame | hback
        · rw [← hsame]
          exact hfrom u hu
        · rcases hfrom u hu with heq | hu
          · exact .inr (heq ▸ hback)
          · exact .inr (List.lt_trans hback hu)

/-! ## How long a schedule goes on -/

/-- The steps of a schedule that do not answer that the walk has ended. -/
theorem Standing.countP_stepsFrom_le (h : Standing s catalog maxLength w) (calls : List Call) :
    ((w.stepsFrom calls).countP fun u => !u.endsNext) ≤ w.remaining := by
  induction calls generalizing w with
  | nil => exact Nat.zero_le _
  | cons call calls ih =>
    cases call with
    | step =>
      have hrest := ih h.step
      rw [stepsFrom, List.countP_cons]
      rcases (move_step h.examples).remaining_cases with ⟨hends, hzero⟩ | ⟨hends, hlt⟩
      · simp only [hends, Bool.not_true, Bool.false_eq_true, if_false]
        omega
      · simp only [hends, Bool.not_false, if_true]
        omega
    | rewind =>
      have hle := h.remaining_rewind_le
      obtain ⟨w', hrewind, hstanding, -⟩ := h.rewind
      rw [hrewind] at hle
      rw [stepsFrom, hrewind]
      exact Nat.le_trans (ih hstanding) hle

/-- After as many steps as there were left to do, all answer that the walk has ended. -/
theorem Standing.endsNext_of_mem_drop {n : Nat} (h : Standing s catalog maxLength w)
    (hn : w.remaining ≤ n) (calls : List Call) :
    ∀ u ∈ (w.stepsFrom calls).drop n, u.endsNext = true := by
  induction calls generalizing w n with
  | nil => simp [stepsFrom]
  | cons call calls ih =>
    cases call with
    | step =>
      rw [stepsFrom]
      rcases (move_step h.examples).remaining_cases with ⟨hends, hzero⟩ | ⟨-, hlt⟩
      · -- the walk has ended with this step, and what follows has as well
        have hall := ih h.step (Nat.le_of_eq hzero)
        rw [List.drop_zero] at hall
        intro u hu
        rcases List.mem_cons.1 (List.mem_of_mem_drop hu) with rfl | hu
        · exact hends
        · exact hall u hu
      · cases n with
        | zero => omega
        | succ n => exact ih h.step (by omega)
    | rewind =>
      have hle := h.remaining_rewind_le
      obtain ⟨w', hrewind, hstanding, -⟩ := h.rewind
      rw [hrewind] at hle
      rw [stepsFrom, hrewind]
      exact ih hstanding (Nat.le_trans hle hn)

/-! ## All that a schedule can do -/

/-- Whatever it is asked, the walk moves on through the tree and comes to an end. -/
structure Advances (catalog : Catalog) (types : List Ty) (maxLength : Nat) (w : Walk) :
    Prop where
  /-- The places asked for move on in the order of the tree, so none is asked for twice. -/
  places : ∀ calls, ((w.requests calls).map places).Pairwise (List.Lex (· < ·))
  /-- What is tried is the program at the node of these places, and it is one to try. -/
  tried : ∀ calls, ∀ u ∈ w.requests calls, ∀ program, u.tried? = some program →
    u.places ∈ catalog.nodes maxLength types ∧ catalog.LeadTo types u.places program ∧
      catalog.Admits types maxLength program
  /-- Where no operator stands twice in the catalog, no program is tried twice. -/
  distinct : catalog.operators.Nodup → ∀ calls, ((w.requests calls).filterMap tried?).Nodup
  /-- The nodes of the tree are counted once each. -/
  nodup : (catalog.nodes maxLength types).Nodup
  /-- At most two steps for every node fail or leave the walk going on. -/
  bounded : ∀ calls, ((w.stepsFrom calls).countP fun u => !u.endsNext) ≤
    2 * (catalog.nodes maxLength types).length
  /-- After so many steps, every step answers that the walk has ended. -/
  ended : ∀ calls, ∀ u ∈ (w.stepsFrom calls).drop (2 * (catalog.nodes maxLength types).length),
    u.endsNext = true
  /-- A run goes on for at most so many steps, and then makes its last one. -/
  run : ∀ budget, ∃ n ≤ 2 * (catalog.nodes maxLength types).length,
    (∀ m < n, Goes budget (w.stepped m) (w.stepped (m + 1))) ∧
      RunEnd budget (w.stepped n) (w.run budget)

/-- Requests at different places try different programs, if no operator stands twice. -/
theorem Standing.nodup_tried (h : Standing s catalog maxLength w)
    (hnodup : catalog.operators.Nodup) (calls : List Call) :
    ((w.requests calls).filterMap tried?).Nodup := by
  refine List.pairwise_filterMap.2 ((h.requests_sorted calls).1.imp_of_mem ?_)
  rintro u v hu hv hlex program hprogram program' hprogram' rfl
  have hstanding : ∀ v ∈ w.requests calls, Standing s catalog maxLength v :=
    fun v hv => h.of_mem_stepsFrom v (List.mem_filter.1 hv).1
  have hu' := (hstanding u hu).leadTo (not_terminal_of_mem_requests hu) hprogram
  have hv' := (hstanding v hv).leadTo (not_terminal_of_mem_requests hv) hprogram'
  rw [hu'.places_eq hnodup hv'] at hlex
  exact List.lt_irrefl _ hlex

/-- **Walks advance through the tree.** Whatever was done before with a walk over the inputs of a
set of examples and whatever it is asked, it tries nothing twice, and there is an end to it. -/
theorem advances_of_reachable (hs : s.Reachable) (hdepth : s.depth = 0)
    (hw : w.Reachable s catalog maxLength) : w.Advances catalog s.types maxLength := by
  have hstands := hs.lockstep.standsAt_nil hdepth
  have h := hw.standing hstands
  have hremaining := hw.remaining_le hstands
  rw [← Catalog.length_nodes] at hremaining
  refine ⟨?_, ?_, h.nodup_tried, Catalog.nodup_nodes _ _, ?_, ?_, ?_⟩
  · intro calls
    exact List.pairwise_map.2 (h.requests_sorted calls).1
  · intro calls u hu program hprogram
    have hstanding := h.of_mem_stepsFrom u (List.mem_filter.1 hu).1
    have hphase := not_terminal_of_mem_requests hu
    have hplaces := hstanding.leadTo hphase hprogram
    have hne : u.places ≠ [] := by simp [places]
    have hlength : u.places.length ≤ maxLength := by
      have hlt : u.trail.length < maxLength := hstanding.depth_lt hphase
      simp only [places, List.length_append, List.length_map, List.length_reverse,
        List.length_singleton]
      exact hlt
    exact ⟨Catalog.mem_nodes.2 ⟨hne, hlength, program, hplaces⟩, hplaces,
      hplaces.admits hne hlength⟩
  · intro calls
    exact Nat.le_trans (h.countP_stepsFrom_le calls) hremaining
  · exact h.endsNext_of_mem_drop hremaining
  · intro budget
    obtain ⟨u, hchain, hend⟩ := w.run_end budget
    obtain ⟨n, rfl, hgoes⟩ := exists_stepped hchain
    have hle := h.le_remaining_of_goes hgoes
    exact ⟨n, by omega, hgoes, hend⟩

/-- From one towards three by decrements and increments: down by the decrement, past the one below
it, back up, and on with the increment. -/
theorem advances_of_one_to_three :
    ∃ w, ExampleSet.ofPairs [([.int 1], .int 3)] = .ok .oneToThree ∧
      start .oneToThree ⟨[.scalar .decrement, .scalar .increment]⟩ 2 = .ok w ∧
      w.Advances ⟨[.scalar .decrement, .scalar .increment]⟩ [.int] 2 ∧
      (w.requests [.step, .step, .rewind, .step]).map places = [[0], [0, 0], [1]] := by
  refine ⟨root .oneToThree ⟨[.scalar .decrement, .scalar .increment]⟩ 2, rfl, rfl, ?_, rfl⟩
  exact advances_of_reachable ExampleSet.reachable_oneToThree rfl (.start rfl)

end ProgramSearch.Walk

/-
# ProgramSearch.Proofs.Search.Membership -- only which examples there are matters

A set of examples is kept as a list: types and depth are read off the first example, an instruction
is applied to one example after the other and taken back from those before the first that refuses
it. What a walk does depends on none of this. Over two sets with the same examples, in whatever
order and however often each occurs, walks go abreast: they make the same moves through the same
tree, and where one is refused an instruction so is the other, if perhaps by another example.
-/

import ProgramSearch.Proofs.Search.Faults
import ProgramSearch.Proofs.Search.Situations

namespace ProgramSearch

/-- Two answers that are the same but for the index and the length in an error. -/
inductive Alike {α : Type} : Except Error α → Except Error α → Prop where
  | ok (a : α) : Alike (.ok a) (.ok a)
  | error (index index' : Int) (length length' : Nat) :
      Alike (.error (.indexOutOfRange index length)) (.error (.indexOutOfRange index' length'))

/-! ## Sets with the same examples -/

namespace ExampleSet

variable {s t s' : ExampleSet} {ins : Instruction} {steps : List Instruction}

/-- The second set has the examples of the first, whatever their order and number. -/
def SameMembers (s t : ExampleSet) : Prop := ∀ pair, pair ∈ t.pairs ↔ pair ∈ s.pairs

theorem SameMembers.symm (h : s.SameMembers t) : t.SameMembers s := fun pair => (h pair).symm

/-- At their inputs, such sets have the same types. -/
theorem SameMembers.types (h : s.SameMembers t) (hs : s.Lockstep) (ht : t.Lockstep)
    (hdepth : s.depth = 0) (hdepth' : t.depth = 0) : t.types = s.types := by
  obtain ⟨x, hx⟩ := List.exists_mem_of_ne_nil _ ht.nonempty
  obtain ⟨y, hy, hyx⟩ := List.mem_map.1 ((h x.pair).1 (List.mem_map_of_mem hx))
  rw [← ht.types_of_pairs hdepth' rfl hx, ← hs.types_of_pairs hdepth rfl hy,
    Example.inputs_eq hyx]

/-- Standing at one program, such sets have the same situations. -/
theorem SameMembers.mem_ofExamples_iff {s₀ t₀ : ExampleSet} (h : s₀.SameMembers t₀)
    (hs : s.StandsAt steps) (ht : t.StandsAt steps) (hpairs : s.pairs = s₀.pairs)
    (hpairs' : t.pairs = t₀.pairs) (x : Situation) :
    x ∈ Situation.ofExamples t ↔ x ∈ Situation.ofExamples s := by
  rw [hs.ofExamples_eq_map, ht.ofExamples_eq_map, hpairs, hpairs', List.mem_map, List.mem_map]
  simp only [h _]

/-- Whether a set is solved is decided by which situations it has. -/
theorem isSolved_eq_of_mem_iff
    (h : ∀ x, x ∈ Situation.ofExamples t ↔ x ∈ Situation.ofExamples s) :
    t.isSolved = s.isSolved := by
  rw [← all_isSolved_ofExamples, ← all_isSolved_ofExamples, Bool.eq_iff_iff, List.all_eq_true,
    List.all_eq_true]
  simp only [h]

/-- An instruction is applied where it has a result in every situation. -/
theorem exists_apply_eq_ok_iff :
    (∃ s', s.apply ins = (.ok (), s')) ↔
      ∀ x ∈ Situation.ofExamples s, ∃ v, ins.run x.registers = .ok v := by
  constructor
  · rintro ⟨s', happly⟩ x hx
    obtain ⟨y, hy, rfl⟩ := List.mem_map.1 hx
    obtain ⟨z, -, hext⟩ := exists_mem_of_forall₂ (extends_of_apply happly).flip hy
    obtain ⟨v, hv, -⟩ := hext.result
    exact ⟨v, hv⟩
  · intro hruns
    rcases happly : s.apply ins with ⟨e | ⟨⟩, s'⟩
    · obtain ⟨before, x, after, hexamples, -, hx⟩ := (refuse_of_apply happly).1
      have hmem : x ∈ s.examples := by simp [hexamples]
      obtain ⟨v, hv⟩ := hruns (Situation.ofExample x) (List.mem_map_of_mem hmem)
      exact absurd (hv.symm.trans hx) (by simp)
    · exact ⟨s', rfl⟩

end ExampleSet

/-! ## Walks abreast -/

namespace Walk

variable {s t : ExampleSet} {catalog : Catalog} {maxLength : Nat} {w v w' : Walk}
  {budget : Budget} {answer : Except Error Unit}

/-- Two walks, each over its own set of examples, that differ in nothing but the examples. -/
structure Abreast (s t : ExampleSet) (catalog : Catalog) (maxLength : Nat) (w v : Walk) : Prop where
  left : Standing s catalog maxLength w
  right : Standing t catalog maxLength v
  walk : v = { w with examples := v.examples }

theorem Abreast.symm (h : Abreast s t catalog maxLength w v) :
    Abreast t s catalog maxLength v w := by
  refine ⟨h.right, h.left, ?_⟩
  rw [h.walk]

theorem Abreast.path (h : Abreast s t catalog maxLength w v) : v.path = w.path := by
  rw [h.walk]
  rfl

theorem Abreast.phase (h : Abreast s t catalog maxLength w v) : v.phase = w.phase := by
  rw [h.walk]

theorem Abreast.counters (h : Abreast s t catalog maxLength w v) : v.counters = w.counters := by
  rw [h.walk]

/-- The examples of both walks show the same situations. -/
theorem Abreast.mem_ofExamples_iff (h : Abreast s t catalog maxLength w v)
    (hmembers : s.SameMembers t) (x : Situation) :
    x ∈ Situation.ofExamples v.examples ↔ x ∈ Situation.ofExamples w.examples := by
  have hright := h.right.examples
  rw [h.path] at hright
  exact hmembers.mem_ofExamples_iff h.left.examples hright h.left.pairs h.right.pairs x

/-- An instruction that is applied to the examples of one walk is applied to those of the other, and
solves them if it solves the others. -/
theorem Abreast.apply_ok (h : Abreast s t catalog maxLength w v) (hmembers : s.SameMembers t)
    {ins : Instruction} {s' : ExampleSet} (happly : w.examples.apply ins = (.ok (), s')) :
    ∃ t', v.examples.apply ins = (.ok (), t') ∧ t'.isSolved = s'.isSolved ∧
      t'.StandsAt (w.path ++ [ins]) := by
  have hruns : ∀ x ∈ Situation.ofExamples v.examples, ∃ u, ins.run x.registers = .ok u := by
    simp only [h.mem_ofExamples_iff hmembers]
    exact ExampleSet.exists_apply_eq_ok_iff.1 ⟨s', happly⟩
  obtain ⟨t', happly'⟩ := ExampleSet.exists_apply_eq_ok_iff.2 hruns
  obtain ⟨hstands, hpairs⟩ := h.left.examples.apply_ok happly
  obtain ⟨hstands', hpairs'⟩ := h.right.examples.apply_ok happly'
  rw [h.path] at hstands'
  refine ⟨t', happly', ExampleSet.isSolved_eq_of_mem_iff ?_, hstands'⟩
  exact hmembers.mem_ofExamples_iff hstands hstands' (hpairs.trans h.left.pairs)
    (hpairs'.trans h.right.pairs)

/-- One that is refused by the examples of one walk is refused by those of the other. -/
theorem Abreast.apply_error (h : Abreast s t catalog maxLength w v) (hmembers : s.SameMembers t)
    {ins : Instruction} {e : Error} {s' : ExampleSet}
    (happly : w.examples.apply ins = (.error e, s')) :
    ∃ e' t', v.examples.apply ins = (.error e', t') := by
  rcases happly' : v.examples.apply ins with ⟨e' | ⟨⟩, t'⟩
  · exact ⟨e', t', rfl⟩
  · obtain ⟨s'', happly'', -⟩ := h.symm.apply_ok hmembers.symm happly'
    exact absurd (happly.symm.trans happly'') (by simp)

/-- Whatever move one walk makes, the other makes the same. -/
theorem Abreast.exists_move (h : Abreast s t catalog maxLength w v) (hmembers : s.SameMembers t)
    (hmove : Move w answer w') :
    ∃ answer' t', Move v answer' { w' with examples := t' } ∧
      (answer' = .ok () ↔ answer = .ok ()) := by
  have hright := h.right.examples
  rw [h.path] at hright
  obtain ⟨t₀, rfl⟩ : ∃ t₀, v = { w with examples := t₀ } := ⟨v.examples, h.walk⟩
  cases hmove with
  | idle hphase => exact ⟨_, t₀, .idle hphase, Iff.rfl⟩
  | refused hphase hnext happly =>
    obtain ⟨e', t', happly'⟩ := h.apply_error hmembers happly
    exact ⟨_, t', .refused hphase hnext happly', by simp⟩
  | solved hphase hnext happly hsolved =>
    obtain ⟨t', happly', hsolved', -⟩ := h.apply_ok hmembers happly
    exact ⟨_, t', .solved hphase hnext happly' (hsolved'.trans hsolved), Iff.rfl⟩
  | descended hphase hnext happly hsolved hroom =>
    obtain ⟨t', happly', hsolved', -⟩ := h.apply_ok hmembers happly
    exact ⟨_, t', .descended hphase hnext happly' (hsolved'.trans hsolved) hroom, Iff.rfl⟩
  | undone hphase hnext happly hsolved hroom hundo =>
    -- what was just applied can be undone
    obtain ⟨t', happly', hsolved', hstands'⟩ := h.apply_ok hmembers happly
    obtain ⟨t'', hundo', -⟩ := hstands'.undo
    exact ⟨_, t'', .undone hphase hnext happly' (hsolved'.trans hsolved) hroom hundo', Iff.rfl⟩
  | exhausted hphase hnext htrail => exact ⟨_, t₀, .exhausted hphase hnext htrail, Iff.rfl⟩
  | ascended hphase hnext htrail hundo =>
    rw [path_of_trail htrail] at hright
    obtain ⟨t', hundo', -⟩ := hright.undo
    exact ⟨_, t', .ascended hphase hnext htrail hundo', Iff.rfl⟩

/-- A step keeps walks abreast, and fails on both or on neither. -/
theorem Abreast.step (h : Abreast s t catalog maxLength w v) (hmembers : s.SameMembers t) :
    Abreast s t catalog maxLength w.step.2 v.step.2 ∧
      (v.step.1 = .ok () ↔ w.step.1 = .ok ()) := by
  obtain ⟨answer', t', hmove, hanswer⟩ := h.exists_move hmembers (move_step h.left.examples)
  refine ⟨⟨h.left.step, h.right.step, ?_⟩, ?_⟩
  · rw [hmove.step_eq]
  · rw [hmove.step_eq]
    exact hanswer

theorem Abreast.stepped (h : Abreast s t catalog maxLength w v) (hmembers : s.SameMembers t)
    (n : Nat) : Abreast s t catalog maxLength (w.stepped n) (v.stepped n) := by
  induction n with
  | zero => exact h
  | succ n ih => exact (ih.step hmembers).1

/-! ## Runs abreast -/

theorem simulation_abreast (hmembers : s.SameMembers t) :
    Simulation (Abreast s t catalog maxLength) := by
  refine ⟨?_, fun h => h.phase, fun h => h.counters⟩
  intro w v w' h hstep
  obtain ⟨hnext, hanswer⟩ := h.step hmembers
  have hok : v.step.1 = .ok () := hanswer.2 (by rw [hstep])
  rw [hstep] at hnext
  exact ⟨v.step.2, Prod.ext hok rfl, hnext⟩

/-- Walks that are given up go back to the same place. -/
theorem Abreast.giveUp (h : Abreast s t catalog maxLength w v)
    (answer answer' : Except Error Outcome) :
    Abreast s t catalog maxLength (w.giveUp answer).2 (v.giveUp answer').2 := by
  refine ⟨h.left.snd_giveUp _, h.right.snd_giveUp _, ?_⟩
  obtain ⟨examples, -, -, hunwind⟩ := unwind_eq w.trail w h.left.examples
  obtain ⟨examples', -, -, hunwind'⟩ := unwind_eq v.trail v h.right.examples
  simp only [Walk.giveUp, rewind, hunwind, hunwind']
  rw [h.walk]

/-- The run goes on for some steps and then comes upon an instruction that is refused. -/
structure FailsAt (budget : Budget) (w : Walk) (n : Nat) (ins : Instruction) (e : Error) :
    Prop where
  goes : ∀ m < n, Goes budget (w.stepped m) (w.stepped (m + 1))
  offered : (w.stepped n).here.next.1 = some ins
  refused : (w.stepped n).step.1 = .error e

/-- A step has the same answer on both, but for what an error tells. -/
theorem Abreast.alike_step (h : Abreast s t catalog maxLength w v) (hmembers : s.SameMembers t)
    (hs : s.Lockstep) (ht : t.Lockstep) (hdepth : s.depth = 0) (hdepth' : t.depth = 0) :
    Alike w.step.1 v.step.1 := by
  obtain ⟨-, hanswer⟩ := h.step hmembers
  cases hw : w.step.1 with
  | ok a =>
    rw [hanswer.2 hw]
    exact .ok ()
  | error e =>
    cases hv : v.step.1 with
    | ok a => exact absurd ((hanswer.1 hv).symm.trans hw) (by simp)
    | error e' =>
      obtain ⟨index, length, rfl⟩ := (h.left.faults hs hdepth hw).exists_eq
      obtain ⟨index', length', rfl⟩ := (h.right.faults ht hdepth' hv).exists_eq
      exact .error index index' length length'

/-- Runs go on abreast and end abreast: with the same outcome, or at the same instruction, which
some example of either set refuses. -/
theorem Abreast.run (h : Abreast s t catalog maxLength w v) (hmembers : s.SameMembers t)
    (budget : Budget) :
    Abreast s t catalog maxLength (w.run budget).2 (v.run budget).2 ∧
      ((∃ outcome, (w.run budget).1 = .ok outcome ∧ (v.run budget).1 = .ok outcome) ∨
        ∃ n ins e e', w.FailsAt budget n ins e ∧ v.FailsAt budget n ins e' ∧
          (w.run budget).1 = .error e ∧ (v.run budget).1 = .error e') := by
  rcases (simulation_abreast hmembers).run h budget with hends | ⟨n, e, hparts⟩
  · generalize w.run budget = result, v.run budget = result' at hends ⊢
    cases hends with
    | ended outcome habreast => exact ⟨habreast, .inl ⟨outcome, rfl, rfl⟩⟩
    | givenUp habreast =>
      exact ⟨habreast.giveUp _ _, .inl ⟨.budgetExceeded, habreast.left.fst_giveUp _,
        habreast.right.fst_giveUp _⟩⟩
  · obtain ⟨hnext, hanswer⟩ := hparts.related.step hmembers
    obtain ⟨ins, here, hoffered, -⟩ := hparts.related.left.isRefused hparts.failed
    have hfails : w.FailsAt budget n ins e := ⟨hparts.left, by rw [hoffered], hparts.failed⟩
    cases hfailed' : (v.stepped n).step.1 with
    | ok _ => exact absurd ((hanswer.1 hfailed').symm.trans hparts.failed) (by simp)
    | error e' =>
      have hfails' : v.FailsAt budget n ins e' :=
        ⟨hparts.right, by rw [hparts.related.walk, hoffered], hfailed'⟩
      rw [run_eq_giveUp hparts.left hparts.failed, run_eq_giveUp hparts.right hfailed']
      exact ⟨hnext.giveUp _ _, .inr ⟨n, ins, e, e', hfails, hfails', hnext.left.fst_giveUp _,
        hnext.right.fst_giveUp _⟩⟩

/-! ## Only the members matter -/

/-- The walks stand at the same place: in the same phase, at the same program, with the same counts
and with the same cursor at every depth. -/
structure SamePlace (w v : Walk) : Prop where
  phase : v.phase = w.phase
  program : v.program = w.program
  counters : v.counters = w.counters
  cursors : v.cursors = w.cursors

/-- At every program the examples have as many inputs as the set that a walk began with has
types. -/
theorem Standing.inputCount_eq (hs : s.Lockstep) (hdepth : s.depth = 0)
    (h : Standing s catalog maxLength w) : w.examples.inputCount = s.types.length := by
  have hlockstep := hs.of_standsAt hdepth h.pairs h.examples
  obtain ⟨x, hx⟩ := List.exists_mem_of_ne_nil _ hlockstep.nonempty
  rw [← hlockstep.inputs x hx, ← hs.types_of_pairs hdepth h.pairs hx, List.length_map]

theorem Abreast.samePlace (h : Abreast s t catalog maxLength w v) (hs : s.Lockstep)
    (ht : t.Lockstep) (hdepth : s.depth = 0) (hdepth' : t.depth = 0) (htypes : t.types = s.types) :
    w.SamePlace v := by
  have hcount : v.examples.inputCount = w.examples.inputCount := by
    rw [h.right.inputCount_eq ht hdepth', h.left.inputCount_eq hs hdepth, htypes]
  refine ⟨h.phase, ?_, h.counters, ?_⟩
  · rw [program, program, h.path, hcount]
  · rw [h.walk]
    rfl

/-- Walks over two sets of examples that no one can tell apart by where they go. -/
structure GoesLike (w v : Walk) : Prop where
  /-- After any number of steps, those that failed included, they stand at the same place. -/
  place : ∀ n, (w.stepped n).SamePlace (v.stepped n)
  /-- Each step fails on both or on neither. -/
  answer : ∀ n, Alike (w.stepped n).step.1 (v.stepped n).step.1
  /-- Runs leave them at the same place. -/
  runPlace : ∀ budget, (w.run budget).2.SamePlace (v.run budget).2
  /-- Runs come to the same outcome, or fail at the same instruction. -/
  runAnswer : ∀ budget,
    (∃ outcome, (w.run budget).1 = .ok outcome ∧ (v.run budget).1 = .ok outcome) ∨
      ∃ n ins e e', w.FailsAt budget n ins e ∧ v.FailsAt budget n ins e' ∧
        (w.run budget).1 = .error e ∧ (v.run budget).1 = .error e'

/-- **Only which examples there are matters.** Over two sets at their inputs that have the same
examples, in whatever order and however often each occurs, walks begin and go alike, with any
budget. -/
theorem exists_start_goesLike (hs : s.Reachable) (ht : t.Reachable) (hdepth : s.depth = 0)
    (hdepth' : t.depth = 0) (hmembers : ∀ pair, pair ∈ t.pairs ↔ pair ∈ s.pairs)
    (catalog : Catalog) (maxLength : Nat) :
    ∃ w v, start s catalog maxLength = .ok w ∧ start t catalog maxLength = .ok v ∧
      w.GoesLike v := by
  have hmembers : s.SameMembers t := hmembers
  have htypes := hmembers.types hs.lockstep ht.lockstep hdepth hdepth'
  obtain ⟨w, hw⟩ : ∃ w, start s catalog maxLength = .ok w := exists_start_eq_ok_iff.2 hdepth
  obtain ⟨v, hv⟩ : ∃ v, start t catalog maxLength = .ok v := exists_start_eq_ok_iff.2 hdepth'
  have hwalk : v = { w with examples := v.examples } := by
    obtain ⟨-, rfl⟩ := start_eq_ok_iff.1 hw
    obtain ⟨-, rfl⟩ := start_eq_ok_iff.1 hv
    rw [root, root, htypes]
  have habreast : Abreast s t catalog maxLength w v :=
    ⟨standing_start (hs.lockstep.standsAt_nil hdepth) hw,
      standing_start (ht.lockstep.standsAt_nil hdepth') hv, hwalk⟩
  have hplace {w v : Walk} (h : Abreast s t catalog maxLength w v) : w.SamePlace v :=
    h.samePlace hs.lockstep ht.lockstep hdepth hdepth' htypes
  refine ⟨w, v, hw, hv, fun n => ?_, fun n => ?_, fun budget => ?_, fun budget => ?_⟩
  · exact hplace (habreast.stepped hmembers n)
  · exact (habreast.stepped hmembers n).alike_step hmembers hs.lockstep ht.lockstep hdepth hdepth'
  · exact hplace (habreast.run hmembers budget).1
  · exact (habreast.run hmembers budget).2

/-- Three examples, the second and the third of which have an array of one. -/
def threeArrays : ExampleSet :=
  ⟨[⟨.ofInputs [.int 1, .array [7, 8]], .int 9⟩, ⟨.ofInputs [.int 1, .array [7]], .int 9⟩,
    ⟨.ofInputs [.int 5, .array [2]], .int 9⟩]⟩

/-- The same ones in reverse, with one of them twice. -/
def threeArraysReversed : ExampleSet :=
  ⟨[⟨.ofInputs [.int 5, .array [2]], .int 9⟩, ⟨.ofInputs [.int 1, .array [7]], .int 9⟩,
    ⟨.ofInputs [.int 1, .array [7, 8]], .int 9⟩, ⟨.ofInputs [.int 1, .array [7]], .int 9⟩]⟩

/-- Going through increments and accesses up to the length two. -/
def incrementsAndAccesses (s : ExampleSet) : Walk :=
  root s ⟨[.scalar .increment, .access .strict]⟩ 2

/-- Both walks go down by the increment and fail below it at the access, which is refused by the
second example of the one set and by the first of the other. -/
theorem goesLike_of_reversed :
    ExampleSet.ofPairs [([.int 1, .array [7, 8]], .int 9), ([.int 1, .array [7]], .int 9),
        ([.int 5, .array [2]], .int 9)] = .ok threeArrays ∧
      ExampleSet.ofPairs [([.int 5, .array [2]], .int 9), ([.int 1, .array [7]], .int 9),
        ([.int 1, .array [7, 8]], .int 9), ([.int 1, .array [7]], .int 9)] =
          .ok threeArraysReversed ∧
      start threeArrays ⟨[.scalar .increment, .access .strict]⟩ 2 =
        .ok (incrementsAndAccesses threeArrays) ∧
      start threeArraysReversed ⟨[.scalar .increment, .access .strict]⟩ 2 =
        .ok (incrementsAndAccesses threeArraysReversed) ∧
      (incrementsAndAccesses threeArrays).GoesLike (incrementsAndAccesses threeArraysReversed) ∧
      ∃ n ins,
        (incrementsAndAccesses threeArrays).FailsAt .unlimited n ins (.indexOutOfRange 1 1) ∧
        (incrementsAndAccesses threeArraysReversed).FailsAt .unlimited n ins
          (.indexOutOfRange 5 1) := by
  have hs : ExampleSet.ofPairs [([.int 1, .array [7, 8]], .int 9), ([.int 1, .array [7]], .int 9),
      ([.int 5, .array [2]], .int 9)] = .ok threeArrays := rfl
  have ht : ExampleSet.ofPairs [([.int 5, .array [2]], .int 9), ([.int 1, .array [7]], .int 9),
      ([.int 1, .array [7, 8]], .int 9), ([.int 1, .array [7]], .int 9)] =
        .ok threeArraysReversed := rfl
  have hmembers : ∀ pair, pair ∈ threeArraysReversed.pairs ↔ pair ∈ threeArrays.pairs := by
    have hpairs : threeArrays.pairs = [([.int 1, .array [7, 8]], .int 9),
        ([.int 1, .array [7]], .int 9), ([.int 5, .array [2]], .int 9)] := rfl
    have hpairs' : threeArraysReversed.pairs = [([.int 5, .array [2]], .int 9),
        ([.int 1, .array [7]], .int 9), ([.int 1, .array [7, 8]], .int 9),
        ([.int 1, .array [7]], .int 9)] := rfl
    intro pair
    simp only [hpairs, hpairs', List.mem_cons, List.not_mem_nil, or_false]
    tauto
  obtain ⟨w, v, hw, hv, hgoes⟩ := exists_start_goesLike (.ofPairs hs) (.ofPairs ht) rfl rfl hmembers
    ⟨[.scalar .increment, .access .strict]⟩ 2
  obtain rfl : incrementsAndAccesses threeArrays = w := Except.ok.inj hw
  obtain rfl : incrementsAndAccesses threeArraysReversed = v := Except.ok.inj hv
  refine ⟨hs, ht, hw, hv, hgoes, ?_⟩
  -- past the two increments below the first one
  have hchain : Relation.ReflTransGen (Goes .unlimited) (incrementsAndAccesses threeArrays)
      ((incrementsAndAccesses threeArrays).stepped 3) :=
    .head ⟨rfl, rfl, rfl⟩ (.head ⟨rfl, rfl, rfl⟩ (.single ⟨rfl, rfl, rfl⟩))
  have hchain' : Relation.ReflTransGen (Goes .unlimited) (incrementsAndAccesses threeArraysReversed)
      ((incrementsAndAccesses threeArraysReversed).stepped 3) :=
    .head ⟨rfl, rfl, rfl⟩ (.head ⟨rfl, rfl, rfl⟩ (.single ⟨rfl, rfl, rfl⟩))
  have hstep : ((incrementsAndAccesses threeArrays).stepped 3).step =
      (.error (.indexOutOfRange 1 1), (incrementsAndAccesses threeArrays).stepped 4) := rfl
  have hstep' : ((incrementsAndAccesses threeArraysReversed).stepped 3).step =
      (.error (.indexOutOfRange 5 1), (incrementsAndAccesses threeArraysReversed).stepped 4) := rfl
  have hrun : (incrementsAndAccesses threeArrays).run .unlimited = (.error (.indexOutOfRange 1 1),
      ((incrementsAndAccesses threeArrays).stepped 4).rewind.2) :=
    (run_eq_of_goes hchain).trans (RunEnd.failed hstep).run_eq
  have hrun' : (incrementsAndAccesses threeArraysReversed).run .unlimited =
      (.error (.indexOutOfRange 5 1),
        ((incrementsAndAccesses threeArraysReversed).stepped 4).rewind.2) :=
    (run_eq_of_goes hchain').trans (RunEnd.failed hstep').run_eq
  rcases hgoes.runAnswer .unlimited with
    ⟨outcome, hok, -⟩ | ⟨n, ins, e, e', hfails, hfails', he, he'⟩
  · rw [hrun] at hok
    cases hok
  · rw [hrun] at he
    rw [hrun'] at he'
    obtain rfl := Except.error.inj he
    obtain rfl := Except.error.inj he'
    exact ⟨n, ins, hfails, hfails'⟩

end Walk

end ProgramSearch

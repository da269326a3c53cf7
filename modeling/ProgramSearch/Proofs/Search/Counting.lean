/-
# ProgramSearch.Proofs.Search.Counting -- what the counters of a walk count

The counters of a walk change in different places: an instruction that solves the examples enters no
depth, one at the greatest length is applied and taken back in one step, leaving a depth takes an
instruction from the path, and a step that fails counts for nothing. They stay in balance through
all of this. Depths entered and not left again are those above the walk and its own; every depth but
the first is entered by a node; and the nodes and the greatest depth are those that can be read off
the examples from one moment to the next.
-/

import Mathlib.Order.Bounds.Basic
import ProgramSearch.Proofs.History

namespace ProgramSearch

/-- None of the counts is greater than in other counters. -/
structure Counters.AtMost (c d : Counters) : Prop where
  nodes : c.nodes ≤ d.nodes
  backtracks : c.backtracks ≤ d.backtracks
  inits : c.inits ≤ d.inits
  deepest : c.deepest ≤ d.deepest

theorem Counters.AtMost.refl (c : Counters) : c.AtMost c :=
  ⟨Nat.le_refl _, Nat.le_refl _, Nat.le_refl _, Nat.le_refl _⟩

theorem Counters.AtMost.trans {c d e : Counters} (h : c.AtMost d) (h' : d.AtMost e) : c.AtMost e :=
  ⟨Nat.le_trans h.nodes h'.nodes, Nat.le_trans h.backtracks h'.backtracks,
    Nat.le_trans h.inits h'.inits, Nat.le_trans h.deepest h'.deepest⟩

namespace Walk

variable {s : ExampleSet} {catalog : Catalog} {maxLength : Nat} {w w' : Walk}
  {answer : Except Error Unit}

/-! ## What there is to count -/

/-- The examples with the instruction applied that one step of a walk tries. There are none if the
step tries nothing or if some example refuses the instruction. -/
def applied? (w : Walk) : Option ExampleSet :=
  if w.phase.isTerminal then none
  else w.here.next.1.bind fun ins =>
    match w.examples.apply ins with
    | (.ok (), examples) => some examples
    | (.error _, _) => none

/-- How many of the first steps of a walk apply an instruction. -/
def applications (w : Walk) (n : Nat) : Nat :=
  (List.range n).countP fun k => (w.stepped k).applied?.isSome

/-- The examples at every moment of the first steps of a walk: before each step, with the
instruction applied that it tries, and after it. -/
def moments (w : Walk) : Nat → List ExampleSet
  | 0 => [w.examples]
  | n + 1 => w.moments n ++ (w.stepped n).applied?.toList ++ [(w.stepped (n + 1)).examples]

/-- A step counts a node, and the depth that this node is at, if it applies an instruction. -/
theorem Move.applied_cases (h : Move w answer w') :
    (∃ ins examples, w.applied? = some examples ∧ w.examples.apply ins = (.ok (), examples) ∧
      w'.counters.nodes = w.counters.nodes + 1 ∧
      w'.counters.deepest = max w.counters.deepest (w.depth + 1)) ∨
    (w.applied? = none ∧ w'.counters.nodes = w.counters.nodes ∧
      w'.counters.deepest = w.counters.deepest) := by
  cases h with
  | idle hphase => exact .inr ⟨by simp [applied?, hphase], rfl, rfl⟩
  | refused hphase hnext happly =>
    exact .inr ⟨by simp [applied?, hphase, hnext, happly], rfl, rfl⟩
  | exhausted hphase hnext | ascended hphase hnext =>
    exact .inr ⟨by simp [applied?, hphase, hnext], rfl, rfl⟩
  | solved hphase hnext happly | descended hphase hnext happly | undone hphase hnext happly =>
    exact .inl ⟨_, _, by simp [applied?, hphase, hnext, happly], happly, rfl, rfl⟩

/-! ## What every step keeps -/

/-- The counters of a walk are in balance with where it stands. -/
structure InBalance (maxLength : Nat) (w : Walk) : Prop where
  /-- A walk that has found a program has not entered the depth below its last instruction. -/
  inits : w.counters.inits =
    w.counters.backtracks + w.depth + if w.phase = .solved then 0 else 1
  /-- Every depth but the first is entered by a node. -/
  inits_le : w.counters.inits ≤ w.counters.nodes + 1
  depth_le : w.depth ≤ w.counters.deepest
  deepest_le : w.counters.deepest ≤ maxLength

/-- A walk that has not ended has entered the depth it stands at. -/
theorem InBalance.inits_eq (h : InBalance maxLength w) (hphase : w.phase.isTerminal = false) :
    w.counters.inits = w.counters.backtracks + w.depth + 1 := by
  have hne : w.phase ≠ .solved := by
    intro hsolved
    rw [hsolved] at hphase
    cases hphase
  rw [h.inits, if_neg hne]

theorem InBalance.move (h : InBalance maxLength w) (hw : Standing s catalog maxLength w)
    (hmove : Move w answer w') : InBalance maxLength w' := by
  have hnodes := h.inits_le
  have hdepth := h.depth_le
  have hdeepest := h.deepest_le
  cases hmove with
  | idle => exact h
  | refused => exact ⟨h.inits, hnodes, hdepth, hdeepest⟩
  | solved hphase | descended hphase | undone hphase =>
    -- what is applied is one deeper, and there is room for it
    have hinits := h.inits_eq hphase
    have hroom := hw.depth_lt hphase
    refine ⟨?_, ?_, ?_, ?_⟩
    all_goals
      simp only [depth, Counters.explored, Counters.entered, List.length_cons] at *
      grind
  | exhausted hphase =>
    refine ⟨?_, hnodes, hdepth, hdeepest⟩
    exact h.inits_eq hphase
  | @ascended _ choice trail _ hphase _ htrail _ =>
    have hinits := h.inits_eq hphase
    rw [depth, htrail, List.length_cons] at hinits hdepth
    refine ⟨?_, hnodes, Nat.le_of_succ_le hdepth, hdeepest⟩
    show w.counters.inits = w.counters.backtracks + 1 + trail.length + 1
    omega

theorem Move.counters_atMost (h : Move w answer w') : w.counters.AtMost w'.counters := by
  cases h <;> constructor <;> simp [Counters.explored, Counters.entered, Counters.left]

/-! ## The first steps -/

theorem inBalance_start (hpos : 1 ≤ maxLength) (hstart : start s catalog maxLength = .ok w) :
    InBalance maxLength w ∧ w.counters.nodes = 0 ∧ w.counters.deepest = 0 := by
  obtain ⟨-, rfl⟩ := start_eq_ok_iff.1 hstart
  have hne : maxLength ≠ 0 := Nat.ne_of_gt hpos
  have hinits : (root s catalog maxLength).counters.inits = 1 := if_neg hne
  have hphase : (root s catalog maxLength).phase = .descending := if_neg hne
  refine ⟨⟨?_, ?_, Nat.le_refl 0, Nat.zero_le _⟩, rfl, rfl⟩
  · rw [hinits, hphase]
    rfl
  · rw [hinits]
    exact Nat.le_refl 1

theorem InBalance.stepped (h : InBalance maxLength w) (hw : Standing s catalog maxLength w)
    (n : Nat) : InBalance maxLength (w.stepped n) := by
  induction n with
  | zero => exact h
  | succ n ih => exact ih.move (hw.stepped n) (move_step (hw.stepped n).examples)

/-- From one number of steps to a greater one no count gets less. -/
theorem Standing.counters_atMost (hw : Standing s catalog maxLength w) {m n : Nat} (hle : m ≤ n) :
    (w.stepped m).counters.AtMost (w.stepped n).counters := by
  induction hle with
  | refl => exact .refl _
  | @step n _ ih => exact ih.trans (move_step (hw.stepped n).examples).counters_atMost

theorem Standing.nodes_eq_applications (hw : Standing s catalog maxLength w)
    (hnodes : w.counters.nodes = 0) (n : Nat) :
    (w.stepped n).counters.nodes = w.applications n := by
  induction n with
  | zero => exact hnodes
  | succ n ih =>
    have hcount : w.applications (n + 1) =
        w.applications n + if (w.stepped n).applied?.isSome then 1 else 0 := by
      simp [applications, List.range_succ, List.countP_append, List.countP_cons]
    rw [hcount, ← ih]
    obtain ⟨_, _, happlied, -, hnext, -⟩ | ⟨happlied, hnext, -⟩ :=
      (move_step (hw.stepped n).examples).applied_cases
    · rw [happlied]
      exact hnext
    · rw [happlied]
      exact hnext

/-! ## The greatest depth -/

/-- The examples are as deep as the walk that has brought them there. -/
theorem Standing.depth_examples (hw : Standing s catalog maxLength w) (hs : s.Lockstep)
    (hdepth : s.depth = 0) : w.examples.depth = w.depth := by
  rw [(hs.of_standsAt hdepth hw.pairs hw.examples).depth_eq hw.examples, path, Choice.length_path,
    depth]

/-- The instruction that a step applies makes them one deeper, and the step counts that depth. -/
theorem Standing.deepest_of_applied (hw : Standing s catalog maxLength w) (hs : s.Lockstep)
    (hdepth : s.depth = 0) {examples : ExampleSet} (happlied : w.applied? = some examples) :
    w.step.2.counters.deepest = max w.counters.deepest examples.depth := by
  obtain ⟨ins, examples', happlied', happly, -, hmax⟩ | ⟨hnone, -⟩ :=
    (move_step hw.examples).applied_cases
  · obtain rfl : examples' = examples := Option.some.inj (happlied'.symm.trans happlied)
    obtain ⟨hstands, hpairs⟩ := hw.examples.apply_ok happly
    have hlockstep := hs.of_standsAt hdepth (hpairs.trans hw.pairs) hstands
    have hdeeper : examples'.depth = w.depth + 1 := by
      rw [hlockstep.depth_eq hstands, List.length_append, path, Choice.length_path, depth]
      rfl
    rw [hmax, hdeeper]
  · rw [hnone] at happlied
    cases happlied

theorem mem_moments_succ {examples : ExampleSet} {n : Nat} :
    examples ∈ w.moments (n + 1) ↔ examples ∈ w.moments n ∨
      (w.stepped n).applied? = some examples ∨ examples = (w.stepped (n + 1)).examples := by
  simp [moments]

/-- The greatest depth counted is the greatest that the examples have had. -/
theorem Standing.isGreatest_deepest (hw : Standing s catalog maxLength w)
    (hbalance : InBalance maxLength w) (hs : s.Lockstep) (hdepth : s.depth = 0)
    (hdeepest : w.counters.deepest = 0) (n : Nat) :
    IsGreatest {d | ∃ examples ∈ w.moments n, examples.depth = d}
      (w.stepped n).counters.deepest := by
  induction n with
  | zero =>
    have hzero : w.examples.depth = 0 := by
      rw [hw.depth_examples hs hdepth]
      exact Nat.le_zero.1 (hdeepest ▸ hbalance.depth_le)
    refine ⟨⟨w.examples, List.mem_singleton_self _, hzero.trans hdeepest.symm⟩, ?_⟩
    rintro d ⟨examples, hmem, rfl⟩
    rw [List.mem_singleton.1 hmem, hzero]
    exact Nat.zero_le _
  | succ n ih =>
    obtain ⟨⟨examples, hmem, hgreatest⟩, hbound⟩ := ih
    have hv := hw.stepped n
    refine ⟨?_, ?_⟩
    · -- it was reached before, unless this step applies an instruction at a greater depth
      obtain ⟨-, applied, happlied, -⟩ | ⟨-, -, hsame⟩ := (move_step hv.examples).applied_cases
      · have hmax := hv.deepest_of_applied hs hdepth happlied
        rcases Nat.le_total applied.depth (w.stepped n).counters.deepest with hle | hle
        · rw [Nat.max_eq_left hle] at hmax
          exact ⟨examples, mem_moments_succ.2 (.inl hmem), hgreatest.trans hmax.symm⟩
        · rw [Nat.max_eq_right hle] at hmax
          exact ⟨applied, mem_moments_succ.2 (.inr (.inl happlied)), hmax.symm⟩
      · exact ⟨examples, mem_moments_succ.2 (.inl hmem), hgreatest.trans hsame.symm⟩
    · rintro d ⟨examples, hmem, rfl⟩
      rcases mem_moments_succ.1 hmem with hmem | happlied | rfl
      · exact Nat.le_trans (hbound ⟨examples, hmem, rfl⟩)
          (hw.counters_atMost (Nat.le_succ n)).deepest
      · exact (hv.deepest_of_applied hs hdepth happlied).symm ▸ Nat.le_max_right _ _
      · rw [(hw.stepped (n + 1)).depth_examples hs hdepth]
        exact (hbalance.stepped hw (n + 1)).depth_le

/-! ## All that the counters say -/

/-- What the counters of a walk say after its first `n` steps. -/
structure KeepsCount (w : Walk) (maxLength n : Nat) : Prop where
  /-- The depths below the first that were entered and not left again are those of the path, but for
  the depth below an instruction that solves the examples. -/
  balance : ((w.stepped n).counters.inits : Int) - 1 - (w.stepped n).counters.backtracks =
    if (w.stepped n).phase = .solved then ((w.stepped n).path.length : Int) - 1
    else (w.stepped n).path.length
  nodes : (w.stepped n).counters.nodes = w.applications n
  inits_le : ((w.stepped n).counters.inits : Int) - 1 ≤ (w.stepped n).counters.nodes
  /-- The greatest number of instructions applied at once, at whatever moment. -/
  deepest : IsGreatest {d | ∃ examples ∈ w.moments n, examples.depth = d}
    (w.stepped n).counters.deepest
  length_le : (w.stepped n).path.length ≤ (w.stepped n).counters.deepest
  deepest_le : (w.stepped n).counters.deepest ≤ maxLength
  monotone : ∀ m ≤ n, (w.stepped m).counters.AtMost (w.stepped n).counters

/-- **The counters are right at every moment.** They are so however many steps a walk has made from
the inputs of a set, steps that fail included. -/
theorem exists_start_keepsCount (hs : s.Reachable) (hdepth : s.depth = 0) (catalog : Catalog)
    (hpos : 1 ≤ maxLength) :
    ∃ w, start s catalog maxLength = .ok w ∧ ∀ n, w.KeepsCount maxLength n := by
  have hlockstep := hs.lockstep
  obtain ⟨w, hstart⟩ : ∃ w, start s catalog maxLength = .ok w := exists_start_eq_ok_iff.2 hdepth
  have hw := standing_start (hlockstep.standsAt_nil hdepth) hstart
  obtain ⟨hbalance, hnodes, hdeepest⟩ := inBalance_start hpos hstart
  refine ⟨w, hstart, fun n => ?_⟩
  have hn := hbalance.stepped hw n
  have hlength : (w.stepped n).path.length = (w.stepped n).depth := by
    rw [path, Choice.length_path, depth]
  refine ⟨?_, hw.nodes_eq_applications hnodes n, ?_,
    hw.isGreatest_deepest hbalance hlockstep hdepth hdeepest n, ?_, hn.deepest_le,
    fun m hle => hw.counters_atMost hle⟩
  · have hinits := hn.inits
    rw [hlength]
    split at hinits
    next hsolved =>
      rw [if_pos hsolved]
      omega
    next hsolved =>
      rw [if_neg hsolved]
      omega
  · have hinits := hn.inits_le
    omega
  · rw [hlength]
    exact hn.depth_le

/-- The walk over a short array that tries an access first. -/
def accessFirst : Walk := root .shortArray ⟨[.access .strict, .scalar .increment]⟩ 2

/-- The first instruction is refused, the next one is gone down by, and below it the walk is offered
the first one again. -/
theorem keepsCount_of_refused_access :
    ExampleSet.ofPairs [([.int 1, .array [7]], .int 3)] = .ok .shortArray ∧
      start .shortArray ⟨[.access .strict, .scalar .increment]⟩ 2 = .ok accessFirst ∧
      accessFirst.step.1 = .error (.indexOutOfRange 1 1) ∧
      (accessFirst.stepped 3).counters = ⟨1, 0, 2, 1⟩ ∧ ∀ n, accessFirst.KeepsCount 2 n := by
  obtain ⟨w, hstart, hcount⟩ := exists_start_keepsCount ExampleSet.reachable_shortArray rfl
    ⟨[.access .strict, .scalar .increment]⟩ (show 1 ≤ 2 by decide)
  obtain rfl : accessFirst = w := Except.ok.inj hstart
  exact ⟨rfl, hstart, rfl, rfl, hcount⟩

end Walk

end ProgramSearch

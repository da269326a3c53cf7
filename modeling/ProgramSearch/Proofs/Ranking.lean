/-
# ProgramSearch.Proofs.Ranking -- ranking is a stable sort and then a cut

Operators are arranged under a prior when they stand by descending score and those of one score
stand in the order that they had. That leaves one arrangement: among operators of the greatest score
the first comes first, and what remains is arranged in turn. Ranking finds it and keeps the best
ranks. The scores are numbers between zero and one, the least probability among the components.
-/

import Mathlib.Data.List.Basic
import ProgramSearch.Proofs.Loading.Priors
import ProgramSearch.Proofs.Rearranging

namespace ProgramSearch

/-! ## Stable arrangements -/

section Stable

variable {α κ : Type} {key : α → κ} {rank : κ → Int}

/-- Of elements that stand by descending rank none has a greater rank than the first. -/
theorem rank_le_of_mem {x y : α} {xs : List α}
    (hxs : (x :: xs).Pairwise fun x y => rank (key y) ≤ rank (key x)) (hy : y ∈ x :: xs) :
    rank (key y) ≤ rank (key x) := by
  rcases List.mem_cons.1 hy with rfl | hy
  · exact Int.le_refl _
  · exact (List.pairwise_cons.1 hxs).1 y hy

/-- Elements that stand by descending rank are determined by those of each rank. -/
theorem eq_of_filter_eq [DecidableEq κ] (hrank : Function.Injective rank) {xs ys : List α}
    (hxs : xs.Pairwise fun x y => rank (key y) ≤ rank (key x))
    (hys : ys.Pairwise fun x y => rank (key y) ≤ rank (key x))
    (hfilter : ∀ k, xs.filter (key · = k) = ys.filter (key · = k)) : xs = ys := by
  have hmem : ∀ x, x ∈ xs ↔ x ∈ ys := by
    intro x
    have h := congrArg (x ∈ ·) (hfilter (key x))
    simpa using h
  induction xs generalizing ys with
  | nil =>
    refine (List.eq_nil_iff_forall_not_mem.2 fun y hy => ?_).symm
    exact List.not_mem_nil ((hmem y).2 hy)
  | cons x xs ih =>
    obtain _ | ⟨y, ys⟩ := ys
    · exact absurd ((hmem x).1 List.mem_cons_self) List.not_mem_nil
    -- both first elements have the greatest rank
    have hyx : rank (key y) ≤ rank (key x) := rank_le_of_mem hxs ((hmem y).2 List.mem_cons_self)
    have hxy : rank (key x) ≤ rank (key y) := rank_le_of_mem hys ((hmem x).1 List.mem_cons_self)
    have hkey : key x = key y := hrank (Int.le_antisymm hxy hyx)
    rw [List.pairwise_cons] at hxs hys
    obtain rfl : x = y := by
      have h := hfilter (key x)
      rw [List.filter_cons_of_pos (by simp), List.filter_cons_of_pos (by simp [hkey])] at h
      exact (List.cons.inj h).1
    have hrest : ∀ k, xs.filter (key · = k) = ys.filter (key · = k) := by
      intro k
      have h := hfilter k
      by_cases hk : key x = k
      · rw [List.filter_cons_of_pos (by simp [hk]), List.filter_cons_of_pos (by simp [hk])] at h
        exact (List.cons.inj h).2
      · rwa [List.filter_cons_of_neg (by simp [hk]), List.filter_cons_of_neg (by simp [hk])] at h
    rw [ih hxs.2 hys.2 hrest fun z => by simpa using congrArg (z ∈ ·) (hrest (key z))]

variable {le : α → α → Bool} (htrans : ∀ a b c, le a b = true → le b c = true → le a c = true)
  (htotal : ∀ a b, (le a b || le b a) = true)

include htrans htotal

/-- Sorting keeps the order of elements that may stand in any order. -/
theorem filter_mergeSort {p : α → Bool} (hties : ∀ a b, p a = true → p b = true → le a b = true)
    (xs : List α) : (xs.mergeSort le).filter p = xs.filter p := by
  have hpairwise : (xs.filter p).Pairwise fun a b => le a b = true :=
    List.pairwise_of_forall_mem_list fun a ha b hb =>
      hties a b (List.mem_filter.1 ha).2 (List.mem_filter.1 hb).2
  have hsublist : (xs.filter p).Sublist ((xs.mergeSort le).filter p) := by
    have h := (List.sublist_mergeSort htrans htotal hpairwise List.filter_sublist).filter p
    have hand : (fun a => p a && p a) = p := funext fun a => Bool.and_self (p a)
    rwa [List.filter_filter, hand] at h
  exact (hsublist.eq_of_length ((List.mergeSort_perm xs le).filter p).length_eq.symm).symm

end Stable

/-! ## Scores -/

namespace Binary64

theorem totalRank_injective : Function.Injective totalRank := by
  rintro ⟨negative, m⟩ ⟨negative', n⟩ h
  cases negative <;> cases negative' <;> simp only [totalRank] at h
  · simp_all
  · simp at h
    omega
  · simp at h
    omega
  · simp_all

/-- The least of some doubles is one of them, and none stands for a lesser number. -/
theorem foldl_min (x : Binary64) (xs : List Binary64) :
    xs.foldl min x ∈ x :: xs ∧ ∀ y ∈ x :: xs, (xs.foldl min x).value ≤ y.value := by
  induction xs generalizing x with
  | nil => simp
  | cons y xs ih =>
    obtain ⟨hmem, hle⟩ := ih (x.min y)
    have hmin := hle _ List.mem_cons_self
    rw [value_min, le_min_iff] at hmin
    rw [List.foldl_cons]
    constructor
    · rcases List.mem_cons.1 hmem with heq | hmem
      · rw [heq]
        rcases min_eq_or x y with h | h <;> simp [h]
      · simp [hmem]
    · intro z hz
      rcases List.mem_cons.1 hz with rfl | hz
      · exact hmin.1
      rcases List.mem_cons.1 hz with rfl | hz
      · exact hmin.2
      · exact hle z (List.mem_cons_of_mem _ hz)

end Binary64

namespace Prior

variable {text : String} {prior : Prior}

/-- What a prior says of the components of an operator; what it does not mention has zero. -/
def componentProbabilities (prior : Prior) (op : Operator) : List Binary64 :=
  op.components.map fun c => (prior.entries.lookup c).getD .zero

/-- A score of an operator under a prior. -/
structure Scores (prior : Prior) (op : Operator) (score : Binary64) : Prop where
  /-- It is one or the probability of a component. -/
  mem : score ∈ .one :: prior.componentProbabilities op
  /-- No other of these is less. -/
  least : ∀ p ∈ .one :: prior.componentProbabilities op, score.value ≤ p.value
  /-- It stands for a number between zero and one. -/
  finite : score.IsFinite
  nonneg : 0 ≤ score.value
  le_one : score.value ≤ 1
  /-- That number is the least probability of a component. -/
  component : ∃ p ∈ prior.componentProbabilities op, score.value = p.value

theorem components_ne_nil (op : Operator) : op.components ≠ [] := by
  cases op <;> exact List.cons_ne_nil _ _

/-- What a prior that was read says of a component is a number between zero and one. -/
theorem probability_of_ofText (h : ofText text = .ok prior) {op : Operator} {p : Binary64}
    (hp : p ∈ prior.componentProbabilities op) : p.IsFinite ∧ 0 ≤ p.value ∧ p.value ≤ 1 := by
  obtain ⟨c, -, rfl⟩ := List.mem_map.1 hp
  cases hc : prior.entries.lookup c with
  | none => exact Binary64.isProbability_iff.1 (by decide)
  | some p =>
    obtain ⟨k, t, -, -, -, hdenotes⟩ := (lookup_of_ofText h c p).1 hc
    exact ⟨hdenotes.finite, hdenotes.nonneg, hdenotes.le_one⟩

/-- Under a prior that was read every operator has its score. -/
theorem scores_score (h : ofText text = .ok prior) (op : Operator) :
    prior.Scores op (prior.score op) := by
  obtain ⟨hmem, hleast⟩ := Binary64.foldl_min .one (prior.componentProbabilities op)
  have hall : ∀ p ∈ Binary64.one :: prior.componentProbabilities op,
      p.IsFinite ∧ 0 ≤ p.value ∧ p.value ≤ 1 :=
    List.forall_mem_cons.2
      ⟨Binary64.isProbability_iff.1 (by decide), fun p hp => probability_of_ofText h hp⟩
  obtain ⟨hfinite, hnonneg, hle⟩ := hall _ hmem
  refine ⟨hmem, hleast, hfinite, hnonneg, hle, ?_⟩
  rcases List.mem_cons.1 hmem with hone | hmem
  · -- a score of one is the probability of every component
    obtain ⟨p, hp⟩ := List.exists_mem_of_ne_nil (prior.componentProbabilities op)
      (by simpa [componentProbabilities] using components_ne_nil op)
    refine ⟨p, hp, le_antisymm (hleast p (List.mem_cons_of_mem _ hp)) ?_⟩
    show p.value ≤ (prior.componentProbabilities op |>.foldl Binary64.min .one).value
    rw [hone, Binary64.value_one]
    exact (hall p (List.mem_cons_of_mem _ hp)).2.2
  · exact ⟨_, hmem, rfl⟩

/-! ## Ranks -/

/-- Operators arranged by descending score, those of one score in the order they had. -/
structure Arranges (prior : Prior) (ops arranged : List Operator) : Prop where
  perm : arranged.Perm ops
  descending : arranged.Pairwise fun x y => (prior.score y).totalRank ≤ (prior.score x).totalRank
  stable : ∀ score, arranged.filter (prior.score · = score) = ops.filter (prior.score · = score)

theorem Arranges.unique {ops arranged arranged' : List Operator} (h : prior.Arranges ops arranged)
    (h' : prior.Arranges ops arranged') : arranged = arranged' :=
  eq_of_filter_eq Binary64.totalRank_injective h.descending h'.descending fun score =>
    (h.stable score).trans (h'.stable score).symm

/-- Only scores that some operator has need be looked at. -/
theorem arranges_iff {ops arranged : List Operator} :
    prior.Arranges ops arranged ↔ arranged.Perm ops ∧
      (arranged.Pairwise fun x y => (prior.score y).totalRank ≤ (prior.score x).totalRank) ∧
      ∀ op ∈ ops, arranged.filter (prior.score · = prior.score op) =
        ops.filter (prior.score · = prior.score op) := by
  constructor
  · intro h
    exact ⟨h.perm, h.descending, fun op _ => h.stable _⟩
  · rintro ⟨hperm, hdescending, hstable⟩
    refine ⟨hperm, hdescending, fun score => ?_⟩
    by_cases hscore : ∃ op ∈ ops, prior.score op = score
    · obtain ⟨op, hop, rfl⟩ := hscore
      exact hstable op hop
    · -- no operator has the score
      have hnone : ops.filter (prior.score · = score) = [] :=
        List.filter_eq_nil_iff.2 fun op hop h => hscore ⟨op, hop, of_decide_eq_true h⟩
      have hperm' := hperm.filter (prior.score · = score)
      rw [hnone] at hperm' ⊢
      exact hperm'.eq_nil

instance (prior : Prior) (ops arranged : List Operator) : Decidable (prior.Arranges ops arranged) :=
  decidable_of_iff _ arranges_iff.symm

/-- Whether an operator may stand before another. -/
def mayPrecede (prior : Prior) (x y : Operator) : Bool :=
  (prior.score y).totalRank ≤ (prior.score x).totalRank

theorem arranges_mergeSort (prior : Prior) (ops : List Operator) :
    prior.Arranges ops (ops.mergeSort prior.mayPrecede) := by
  have htrans : ∀ a b c, prior.mayPrecede a b = true → prior.mayPrecede b c = true →
      prior.mayPrecede a c = true := by
    simp only [mayPrecede, decide_eq_true_eq]
    intro a b c hab hbc
    omega
  have htotal : ∀ a b, (prior.mayPrecede a b || prior.mayPrecede b a) = true := by
    simp only [mayPrecede, Bool.or_eq_true, decide_eq_true_eq]
    intro a b
    omega
  refine ⟨List.mergeSort_perm ops _, ?_, fun score => ?_⟩
  · have hpairwise := List.pairwise_mergeSort htrans htotal ops
    simpa only [mayPrecede, decide_eq_true_eq] using hpairwise
  · refine filter_mergeSort htrans htotal (fun a b ha hb => ?_) ops
    rw [mayPrecede, of_decide_eq_true ha, of_decide_eq_true hb]
    exact decide_eq_true (Int.le_refl _)

end Prior

namespace Catalog

/-- A ranked catalog has the operators of the best ranks of the arranged ones. -/
theorem operators_ranked (catalog : Catalog) (prior : Prior) (cutoff : Option Nat) :
    (catalog.ranked prior cutoff).operators =
      let arranged := catalog.operators.mergeSort prior.mayPrecede
      arranged.take (cutoff.elim arranged.length (min · arranged.length)) := by
  have hordered : (((catalog.scored prior).mergeSort fun x y =>
      y.2.totalRank ≤ x.2.totalRank).map (·.1)) = catalog.operators.mergeSort prior.mayPrecede := by
    have hscored : catalog.operators = (catalog.scored prior).map (·.1) := by
      rw [scored, List.map_map]
      exact (List.map_id _).symm
    conv_rhs => rw [hscored]
    refine List.map_mergeSort fun x hx y hy => ?_
    obtain ⟨op, -, rfl⟩ := List.mem_map.1 hx
    obtain ⟨op', -, rfl⟩ := List.mem_map.1 hy
    rfl
  rw [ranked, hordered]
  cases cutoff with
  | none => exact (List.take_length).symm
  | some n =>
    show List.take n _ = List.take (min n _) _
    rw [List.take_eq_take_min]

/-- **Ranking is a stable sort and then a cut.** The operators of one catalog under a prior that was
read have one arrangement, and ranking keeps the best ranks of it; and each operator has its score.
-/
theorem ranked_of_ofText {text : String} {prior : Prior} (h : Prior.ofText text = .ok prior)
    (catalog : Catalog) (cutoff : Option Nat) :
    (∃ arranged, prior.Arranges catalog.operators arranged ∧
      (∀ other, prior.Arranges catalog.operators other → other = arranged) ∧
      (catalog.ranked prior cutoff).operators =
        arranged.take (cutoff.elim arranged.length (min · arranged.length))) ∧
    ∀ op, prior.Scores op (prior.score op) := by
  have harranges := prior.arranges_mergeSort catalog.operators
  refine ⟨⟨_, harranges, fun other hother => hother.unique harranges, ?_⟩, Prior.scores_score h⟩
  exact operators_ranked catalog prior cutoff

/-- Two components of one probability, one above them and one of negative zero. -/
def tiedEntries : Prior :=
  ⟨[("SORT", ⟨false, 4602678819172646912⟩), ("REVERSE", ⟨false, 4606281698874543309⟩),
    ("HEAD", ⟨false, 4602678819172646912⟩), ("LAST", ⟨true, 0⟩)], by decide⟩

theorem ranked_of_ties :
    Prior.ofText "0.5 SORT 0.9 REVERSE 0.5 HEAD\n-0 LAST" = .ok tiedEntries ∧
      (ranked ⟨[.last, .sort, .head, .sum, .reverse, .sort]⟩ tiedEntries (some 3)).operators =
        [.reverse, .sort, .head] := by
  have h : Prior.ofText "0.5 SORT 0.9 REVERSE 0.5 HEAD\n-0 LAST" = .ok tiedEntries := by
    decide +kernel
  obtain ⟨⟨arranged, -, hunique, hranked⟩, -⟩ :=
    ranked_of_ofText h ⟨[.last, .sort, .head, .sum, .reverse, .sort]⟩ (some 3)
  refine ⟨h, ?_⟩
  rw [hranked, ← hunique [.reverse, .sort, .head, .sort, .sum, .last] (by decide +kernel)]
  rfl

end Catalog

end ProgramSearch

/-
# ProgramSearch.Proofs.Preparation -- catalogs prepared in steps

Before a search a catalog is prepared: accesses get a rule for offsets, the operators are shuffled
or ranked, the best ranks are kept, in any order and any number of times. What a step does to the
order depends on the operators up to the rules of their accesses, so a rule may as well be set at
the end: a prepared catalog is what the other steps make of it, with the rule that was set last. And
those steps lose only what a cutoff cuts off, and invent nothing.
-/

import Mathlib.Data.List.Perm.Subperm
import ProgramSearch.Proofs.Rearranging
import ProgramSearch.Proofs.Search.Tolerance
import ProgramSearch.Proofs.Shuffling

namespace ProgramSearch

namespace Operator

@[simp] theorem components_withBounds (bounds : Bounds) (op : Operator) :
    (op.withBounds bounds).components = op.components := by
  cases op <;> rfl

theorem bounds_of_withBounds {bounds bounds' : Bounds} {op : Operator}
    (h : op.withBounds bounds = .access bounds') : bounds' = bounds := by
  cases op <;> cases h
  rfl

end Operator

theorem Prior.score_withBounds (prior : Prior) (bounds : Bounds) (op : Operator) :
    prior.score (op.withBounds bounds) = prior.score op := by
  rw [Prior.score, Prior.score, Operator.components_withBounds]

namespace Catalog

/-! ## Setting a rule among other steps -/

variable (catalog : Catalog) (bounds : Bounds)

theorem withBounds_shuffled (seed : UInt64) :
    (catalog.withBounds bounds).shuffled seed = (catalog.shuffled seed).withBounds bounds :=
  congrArg Catalog.mk (Random.shuffle_map _ seed catalog.operators)

theorem withBounds_truncated (cutoff : Option Nat) :
    (catalog.withBounds bounds).truncated cutoff =
      (catalog.truncated cutoff).withBounds bounds := by
  cases cutoff with
  | none => rfl
  | some n => exact congrArg Catalog.mk List.map_take.symm

theorem withBounds_scored (prior : Prior) :
    (catalog.withBounds bounds).scored prior =
      (catalog.scored prior).map fun x => (x.1.withBounds bounds, x.2) := by
  simp only [scored, withBounds, List.map_map]
  exact List.map_congr_left fun op _ => congrArg _ (prior.score_withBounds bounds op)

/-- The scores that operators are ranked by do not depend on the rules of accesses. -/
theorem withBounds_ranked (prior : Prior) (cutoff : Option Nat) :
    (catalog.withBounds bounds).ranked prior cutoff =
      (catalog.ranked prior cutoff).withBounds bounds := by
  have hsort := (List.map_mergeSort (l := catalog.scored prior)
    (f := fun x => (x.1.withBounds bounds, x.2))
    (r := fun x y => decide (y.2.totalRank ≤ x.2.totalRank))
    (s := fun x y => decide (y.2.totalRank ≤ x.2.totalRank)) fun _ _ _ _ => rfl)
  simp only [ranked, withBounds_scored, ← hsort, List.map_map]
  rw [← withBounds_truncated, withBounds, List.map_map]
  rfl

theorem withBounds_best (prior : Option Prior) (cutoff : Option Nat) :
    (catalog.withBounds bounds).best prior cutoff =
      (catalog.best prior cutoff).withBounds bounds := by
  cases prior with
  | none => exact catalog.withBounds_truncated bounds cutoff
  | some prior => exact catalog.withBounds_ranked bounds prior cutoff

/-! ## Steps -/

/-- A step in preparing a catalog. -/
inductive Step where
  /-- Accesses get a rule for offsets. -/
  | bounds (bounds : Bounds)
  | shuffle (seed : UInt64)
  | rank (prior : Prior) (cutoff : Option Nat)
  | cut (cutoff : Option Nat)

/-- The rule that a step sets, if it sets one. -/
def Step.bounds? : Step → Option Bounds
  | .bounds bounds => some bounds
  | .shuffle _ | .rank _ _ | .cut _ => none

/-- The number of ranks that a step keeps, if it has a cutoff. -/
def Step.cutoff? : Step → Option Nat
  | .rank _ cutoff | .cut cutoff => cutoff
  | .bounds _ | .shuffle _ => none

/-- The rule that is set last. -/
def lastBounds? (steps : List Step) : Option Bounds := (steps.filterMap Step.bounds?).getLast?

/-- The steps that set no rule. -/
def reordering (steps : List Step) : List Step := steps.filter (·.bounds?.isNone)

/-- The cutoffs of steps. -/
def cutoffs (steps : List Step) : List Nat := steps.filterMap Step.cutoff?

/-- The catalog after a step. -/
def after (catalog : Catalog) : Step → Catalog
  | .bounds bounds => catalog.withBounds bounds
  | .shuffle seed => catalog.shuffled seed
  | .rank prior cutoff => catalog.ranked prior cutoff
  | .cut cutoff => catalog.truncated cutoff

/-- The catalog after some steps, one after the other. -/
def prepared (catalog : Catalog) (steps : List Step) : Catalog := steps.foldl after catalog

/-- The catalog with a rule for offsets, or as it is. -/
def settled (catalog : Catalog) : Option Bounds → Catalog
  | some bounds => catalog.withBounds bounds
  | none => catalog

/-- The operators of a catalog up to the rules of their accesses. -/
def plain (catalog : Catalog) : List Operator := (catalog.withBounds .strict).operators

variable {catalog bounds}

theorem withBounds_after {step : Step} (h : step.bounds? = none) :
    (catalog.withBounds bounds).after step = (catalog.after step).withBounds bounds := by
  cases step with
  | bounds b => cases h
  | shuffle seed => exact catalog.withBounds_shuffled bounds seed
  | rank prior cutoff => exact catalog.withBounds_ranked bounds prior cutoff
  | cut cutoff => exact catalog.withBounds_truncated bounds cutoff

/-- A rule that is set before steps that set none may as well be set after them. -/
theorem withBounds_prepared {steps : List Step} (h : ∀ step ∈ steps, step.bounds? = none) :
    (catalog.withBounds bounds).prepared steps = (catalog.prepared steps).withBounds bounds := by
  induction steps generalizing catalog with
  | nil => rfl
  | cons step rest ih =>
    obtain ⟨hstep, hrest⟩ := List.forall_mem_cons.1 h
    show ((catalog.withBounds bounds).after step).prepared rest = _
    rw [withBounds_after hstep, ih hrest]
    rfl

theorem bounds?_of_mem_reordering {steps : List Step} :
    ∀ step ∈ reordering steps, step.bounds? = none :=
  fun _ h => Option.isNone_iff_eq_none.1 (List.mem_filter.1 h).2

variable (catalog) (steps : List Step)

/-- Rules may be set at the end, and only the last one counts. -/
theorem prepared_eq_settled :
    catalog.prepared steps = (catalog.prepared (reordering steps)).settled (lastBounds? steps) := by
  induction steps generalizing catalog with
  | nil => rfl
  | cons step rest ih =>
    show (catalog.after step).prepared rest = _
    rw [ih]
    cases step with
    | bounds b =>
      have hlast : lastBounds? (.bounds b :: rest) = some ((lastBounds? rest).getD b) :=
        List.getLast?_cons
      show ((catalog.withBounds b).prepared (reordering rest)).settled (lastBounds? rest) = _
      rw [withBounds_prepared bounds?_of_mem_reordering, hlast]
      cases lastBounds? rest with
      | none => rfl
      | some b' => exact Catalog.withBounds_withBounds b b' _
    | shuffle seed | rank prior cutoff | cut cutoff => rfl

/-- **Setting a rule commutes with every other step.** So whatever steps prepare a catalog, and in
whatever order the rules are set between them, the operators and their ranks are those that the
other steps give, with the rule that is set last. -/
theorem withBounds_commutes (catalog : Catalog) (bounds : Bounds) :
    (∀ seed, (catalog.withBounds bounds).shuffled seed =
      (catalog.shuffled seed).withBounds bounds) ∧
    (∀ prior cutoff, (catalog.withBounds bounds).ranked prior cutoff =
      (catalog.ranked prior cutoff).withBounds bounds) ∧
    (∀ cutoff, (catalog.withBounds bounds).truncated cutoff =
      (catalog.truncated cutoff).withBounds bounds) ∧
    (∀ prior cutoff, (catalog.withBounds bounds).best prior cutoff =
      (catalog.best prior cutoff).withBounds bounds) ∧
    ∀ steps, catalog.prepared steps =
      (catalog.prepared (reordering steps)).settled (lastBounds? steps) :=
  ⟨catalog.withBounds_shuffled bounds, catalog.withBounds_ranked bounds,
    catalog.withBounds_truncated bounds, catalog.withBounds_best bounds,
    catalog.prepared_eq_settled⟩

/-! ## What is left of a catalog -/

theorem truncated_sublist (cutoff : Option Nat) :
    (catalog.truncated cutoff).operators.Sublist catalog.operators := by
  cases cutoff with
  | none => exact .refl _
  | some n => exact List.take_sublist n _

theorem length_truncated (cutoff : Option Nat) :
    (catalog.truncated cutoff).operators.length =
      cutoff.toList.foldl min catalog.operators.length := by
  cases cutoff with
  | none => rfl
  | some n => exact List.length_take.trans (Nat.min_comm n _)

variable {catalog}

/-- No step has an operator more often than it stood there before. -/
theorem after_subperm {step : Step} (h : step.bounds? = none) :
    (catalog.after step).operators.Subperm catalog.operators := by
  cases step with
  | bounds b => cases h
  | shuffle seed => exact (catalog.shuffled_perm seed).subperm
  | rank prior cutoff =>
    exact (truncated_sublist _ cutoff).subperm.trans (catalog.ranked_perm prior).subperm
  | cut cutoff => exact (catalog.truncated_sublist cutoff).subperm

theorem prepared_subperm {steps : List Step} (h : ∀ step ∈ steps, step.bounds? = none) :
    (catalog.prepared steps).operators.Subperm catalog.operators := by
  induction steps generalizing catalog with
  | nil => exact .refl _
  | cons step rest ih =>
    obtain ⟨hstep, hrest⟩ := List.forall_mem_cons.1 h
    exact (ih hrest).trans (after_subperm hstep)

/-- A step keeps as many operators as its cutoff allows. -/
theorem length_after (step : Step) : (catalog.after step).operators.length =
    step.cutoff?.toList.foldl min catalog.operators.length := by
  cases step with
  | bounds b => exact List.length_map _
  | shuffle seed => exact (catalog.shuffled_perm seed).length_eq
  | rank prior cutoff =>
    rw [← (catalog.ranked_perm prior).length_eq]
    exact length_truncated _ cutoff
  | cut cutoff => exact catalog.length_truncated cutoff

theorem length_prepared (steps : List Step) : (catalog.prepared steps).operators.length =
    (cutoffs steps).foldl min catalog.operators.length := by
  induction steps generalizing catalog with
  | nil => rfl
  | cons step rest ih =>
    have hcutoffs : cutoffs (step :: rest) = step.cutoff?.toList ++ cutoffs rest := by
      rw [cutoffs, List.filterMap_cons]
      cases step.cutoff? <;> rfl
    show ((catalog.after step).prepared rest).operators.length = _
    rw [ih, length_after, hcutoffs, List.foldl_append]

theorem plain_settled (bounds : Option Bounds) :
    (catalog.settled bounds).plain = catalog.plain := by
  cases bounds with
  | none => rfl
  | some b => exact congrArg Catalog.operators (withBounds_withBounds b .strict catalog)

/-- What is left of a catalog after some steps. -/
structure Keeps (catalog : Catalog) (steps : List Step) (result : Catalog) : Prop where
  /-- The rules of accesses apart, no operator stands there more often than before. -/
  subperm : result.plain.Subperm catalog.plain
  /-- There are as many as the least cutoff allows. -/
  length : result.operators.length = (cutoffs steps).foldl min catalog.operators.length
  /-- Without a cutoff all operators are kept. -/
  perm : cutoffs steps = [] → result.plain.Perm catalog.plain
  /-- Accesses have the rule that was set last. -/
  bounds : ∀ b, lastBounds? steps = some b → ∀ b', .access b' ∈ result.operators → b' = b
  /-- Where no rule was set they have the rules that they had. -/
  own : lastBounds? steps = none → result.operators.Subperm catalog.operators

/-- **Preparing loses only what is cut off, and invents nothing.** This holds whatever the seeds,
the priors and the cutoffs are. A shuffle has a partner for each place, at or before it. -/
theorem prepared_keeps (catalog : Catalog) (steps : List Step) :
    catalog.Keeps steps (catalog.prepared steps) ∧
      ∀ seed count, (Random.partners seed count).length = count ∧
        ∀ i partner : Nat, (Random.partners seed count)[i]? = some partner → partner ≤ i := by
  refine ⟨?_, fun seed count => ⟨Random.length_partners seed count, fun _ _ h =>
    Random.partners_le h⟩⟩
  have hsettled := catalog.prepared_eq_settled steps
  have hreordered : (catalog.prepared (reordering steps)).operators.Subperm catalog.operators :=
    prepared_subperm bounds?_of_mem_reordering
  have hlength : (catalog.prepared steps).operators.length = _ := length_prepared steps
  have hplain : (catalog.prepared steps).plain.Subperm catalog.plain := by
    obtain ⟨ops, hperm, hsublist⟩ := hreordered
    rw [hsettled, plain_settled]
    exact ⟨_, hperm.map _, hsublist.map _⟩
  refine ⟨hplain, hlength, fun hnone => ?_, fun b hb b' hmem => ?_, fun hnone => ?_⟩
  · rw [hnone] at hlength
    exact hplain.perm_of_length_le (by simpa [plain, withBounds] using Nat.le_of_eq hlength.symm)
  · rw [hsettled, hb] at hmem
    obtain ⟨op, -, hop⟩ := List.mem_map.1 hmem
    exact Operator.bounds_of_withBounds hop
  · rw [hsettled, hnone]
    exact hreordered

end Catalog

end ProgramSearch

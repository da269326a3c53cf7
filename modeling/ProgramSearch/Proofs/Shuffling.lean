/-
# ProgramSearch.Proofs.Shuffling -- the partners that places are swapped with

A shuffle swaps each place of a list with a partner at or before it. The partners of several places
are the digits of one draw: a chunk that holds partners for `r` more places, the first of them with
`m` to choose from, is a number below `m * (m + 1) * ... * (m + r - 1)`. Taking a digit off leaves a
number below the product without its first factor, and an empty chunk is filled by a draw below the
product of the factors that follow, so no partner is ever past its place. The partners are drawn
without a look at the elements, so a shuffle rearranges a list and whatever is made of its elements
alike.
-/

import Mathlib.Data.Nat.Factorial.Basic
import ProgramSearch.Random.Shuffle

namespace ProgramSearch.Random

/-! ## Draws -/

/-- A draw below a bound stays below it, also where a second word carries into the upper half. -/
theorem draw_lt (key : Key) {bound : Nat} (hbound : 0 < bound) (place : Nat) :
    (draw key bound place).1 < bound := by
  have hpos : 0 < wordCount := by decide
  have hword (n : Nat) : (word key n).toNat * bound + bound ≤ wordCount * bound := by
    have hlt : (word key n).toNat + 1 ≤ wordCount := (word key n).toNat_lt
    rw [← Nat.succ_mul]
    exact Nat.mul_le_mul_right bound hlt
  have hlow := hword place
  have hhigh := Nat.div_add_mod ((word key place).toNat * bound) wordCount
  simp only [draw]
  split
  · have hsecond : (word key (place + 1)).toNat * bound / wordCount < bound := by
      refine Nat.div_lt_of_lt_mul ?_
      have hnext := hword (place + 1)
      omega
    split
    next hcarry =>
      -- the fractions of both words make less than one bound
      refine Nat.lt_of_mul_lt_mul_left (a := wordCount) ?_
      rw [Nat.mul_add]
      omega
    next =>
      refine Nat.div_lt_of_lt_mul ?_
      omega
  · refine Nat.div_lt_of_lt_mul ?_
    omega

/-- The bound of a chunk is the product of the factors from the first one up to where it stops. -/
theorem exists_chunkBound (m r : Nat) (hr : 0 < r) :
    ∃ r', 0 < r' ∧ chunkBound (m.ascFactorial r) (m + r) = (m.ascFactorial r', m + r') := by
  generalize hbound : m.ascFactorial r = bound, hnext : m + r = next
  fun_induction chunkBound bound next generalizing r with
  | case1 bound next h ih =>
    refine ih (r + 1) r.succ_pos ?_ ?_
    · rw [Nat.ascFactorial_succ, hbound, hnext, Nat.mul_comm]
    · omega
  | case2 bound next h => exact ⟨r, hr, by rw [hbound, hnext]⟩

/-! ## Chunks -/

namespace Chunk

/-- A chunk holds partners for as many places as are left in it, the first of them with `m` to
choose from. -/
def Holds (m : Nat) (chunk : Chunk) : Prop :=
  0 < chunk.left → chunk.value < m.ascFactorial chunk.left

variable {m : Nat} {chunk : Chunk}

/-- A filled chunk is not empty. -/
theorem Holds.fill (h : chunk.Holds m) (key : Key) (hm : 0 < m) :
    0 < (chunk.fill key m).left ∧ (chunk.fill key m).Holds m := by
  by_cases hleft : chunk.left = 0
  · obtain ⟨r, hr, hbound⟩ := exists_chunkBound m 1 Nat.one_pos
    have hone : m.ascFactorial 1 = m := by rw [Nat.ascFactorial_succ, Nat.ascFactorial_zero]; omega
    have hproduct : 0 < m.ascFactorial r := by
      obtain ⟨n, rfl⟩ := Nat.exists_eq_succ_of_ne_zero (Nat.ne_of_gt hm)
      exact Nat.ascFactorial_pos n r
    rw [hone] at hbound
    simp only [Chunk.fill, hleft, if_true, hbound, Holds, Nat.add_sub_cancel_left]
    exact ⟨hr, fun _ => draw_lt key hproduct chunk.place⟩
  · rw [Chunk.fill, if_neg hleft]
    exact ⟨Nat.pos_of_ne_zero hleft, h⟩

/-- The next partner is one of `m`, and what is left holds partners for the places that follow. -/
theorem Holds.next (h : chunk.Holds m) (key : Key) (hm : 0 < m) :
    (chunk.next key m).1 < m ∧ (chunk.next key m).2.Holds (m + 1) := by
  obtain ⟨hleft, hholds⟩ := h.fill key hm
  have hlt := hholds hleft
  unfold Chunk.next
  generalize chunk.fill key m = filled at hleft hlt ⊢
  by_cases hone : filled.left = 1
  · rw [if_pos hone]
    rw [hone, Nat.ascFactorial_succ, Nat.ascFactorial_zero] at hlt
    exact ⟨by omega, fun hpos => absurd hpos (Nat.lt_irrefl 0)⟩
  · rw [if_neg hone]
    refine ⟨Nat.mod_lt _ hm, fun _ => Nat.div_lt_of_lt_mul ?_⟩
    obtain ⟨r, hr⟩ : ∃ r, filled.left = r + 1 := Nat.exists_eq_succ_of_ne_zero (Nat.ne_of_gt hleft)
    have hfactor : m * (m + 1).ascFactorial r = m.ascFactorial (r + 1) := Nat.succ_ascFactorial m r
    show filled.value < m * (m + 1).ascFactorial (filled.left - 1)
    rwa [hr, Nat.add_sub_cancel, hfactor, ← hr]

end Chunk

/-! ## Partners -/

theorem length_partnersFrom (key : Key) (i : Nat) (chunk : Chunk) (count : Nat) :
    (partnersFrom key i chunk count).length = count := by
  induction count generalizing i chunk with
  | zero => rfl
  | succ count ih => exact congrArg (· + 1) (ih (i + 1) _)

theorem le_of_mem_partnersFrom {key : Key} {i : Nat} {chunk : Chunk} (h : chunk.Holds (i + 1))
    {count k partner : Nat} (hpartner : (partnersFrom key i chunk count)[k]? = some partner) :
    partner ≤ i + k := by
  induction count generalizing i chunk k with
  | zero => cases hpartner
  | succ count ih =>
    obtain ⟨hlt, hholds⟩ := h.next key i.succ_pos
    cases k with
    | zero =>
      obtain rfl : (chunk.next key (i + 1)).1 = partner := Option.some.inj hpartner
      exact Nat.le_of_lt_succ hlt
    | succ k =>
      have hle := ih hholds hpartner
      omega

theorem length_partners (seed : UInt64) (count : Nat) : (partners seed count).length = count :=
  length_partnersFrom _ _ _ _

/-- The partner of a place stands at or before it. -/
theorem partners_le {seed : UInt64} {count i partner : Nat}
    (h : (partners seed count)[i]? = some partner) : partner ≤ i := by
  have hholds : (⟨0, 1, 0⟩ : Chunk).Holds 1 := fun _ => Nat.one_pos
  have hle := le_of_mem_partnersFrom hholds h
  omega

/-! ## Elements -/

variable {α β : Type}

theorem swapFrom_map (f : α → β) (i : Nat) (xs : Array α) (partners : List Nat) :
    swapFrom i (xs.map f) partners = (swapFrom i xs partners).map f := by
  induction partners generalizing i xs with
  | nil => rfl
  | cons partner rest ih =>
    have hswap : (xs.map f).swapIfInBounds i partner = (xs.swapIfInBounds i partner).map f := by
      simp only [Array.swapIfInBounds_def, Array.size_map]
      split
      · split
        · simp [Array.swap_def, Array.map_set]
        · rfl
      · rfl
    rw [swapFrom, hswap, ih]
    rfl

/-- What is made of the elements does not matter for where they go. -/
theorem shuffle_map (f : α → β) (seed : UInt64) (xs : List α) :
    shuffle seed (xs.map f) = (shuffle seed xs).map f := by
  rw [shuffle, shuffle, List.length_map, ← List.map_toArray, swapFrom_map, Array.toList_map]

end ProgramSearch.Random

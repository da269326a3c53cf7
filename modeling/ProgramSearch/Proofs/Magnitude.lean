/-
# ProgramSearch.Proofs.Magnitude -- the numbers that doubles stand for

A finite double stands for a rational number, its significand times a power of two with its sign.
That number grows strictly with the code, through each binade and from one to the next, so the ranks
that doubles are compared by order the finite ones as their numbers are ordered: comparing codes is
comparing numbers. From it follow what the tests and choices made on codes say about numbers.
-/

import Mathlib.Algebra.Order.Field.Power
import Mathlib.Tactic.Linarith
import Mathlib.Tactic.NormNum
import Mathlib.Tactic.Ring
import ProgramSearch.Binary64.Basic

namespace ProgramSearch.Binary64

/-- Whether a double stands for a number. -/
def IsFinite (x : Binary64) : Prop := x.code < infinityCode

/-- The number that the finite double of a code without sign stands for. -/
def magnitude (code : Nat) : ℚ :=
  ((⟨false, code⟩ : Binary64).significand : ℚ) * 2 ^ (⟨false, code⟩ : Binary64).exponent

/-- The number that a finite double stands for. -/
def value (x : Binary64) : ℚ := if x.negative then -magnitude x.code else magnitude x.code

/-! ## Codes and numbers -/

theorem magnitude_of_lt {code : Nat} (h : code < binade) :
    magnitude code = (code : ℚ) * 2 ^ (-1074 : ℤ) := by
  have hfield : max (code / binade) 1 = 1 := by rw [Nat.div_eq_of_lt h]; rfl
  rw [magnitude, significand, if_pos h, exponent, hfield]
  rfl

theorem magnitude_of_le {code : Nat} (h : binade ≤ code) :
    magnitude code =
      ((binade + code % binade : Nat) : ℚ) * 2 ^ ((code / binade : Nat) - 1075 : ℤ) := by
  have hpos : 1 ≤ code / binade := (Nat.one_le_div_iff (by decide)).2 h
  rw [magnitude, significand, if_neg (Nat.not_lt.2 h), exponent, max_eq_left hpos]

theorem two_zpow_pos (e : ℤ) : (0 : ℚ) < 2 ^ e := zpow_pos (by norm_num) e

theorem magnitude_lt_succ_of_lt {code : Nat} (h : code + 1 < binade) :
    magnitude code < magnitude (code + 1) := by
  have hcast : (code : ℚ) < (code + 1 : Nat) := by exact_mod_cast Nat.lt_succ_self code
  rw [magnitude_of_lt h, magnitude_of_lt (by omega)]
  exact mul_lt_mul_of_pos_right hcast (two_zpow_pos _)

/-- The least code with a hidden bit has the exponent of those without. -/
theorem magnitude_lt_succ_of_eq {code : Nat} (h : code + 1 = binade) :
    magnitude code < magnitude (code + 1) := by
  have hmod : (code + 1) % binade = 0 := by rw [h, Nat.mod_self]
  have hdiv : (code + 1) / binade = 1 := by rw [h]; decide
  have hcast : (code : ℚ) < (binade + 0 : Nat) := by exact_mod_cast (by omega)
  rw [magnitude_of_lt (by omega), magnitude_of_le h.ge, hmod, hdiv]
  exact mul_lt_mul_of_pos_right hcast (two_zpow_pos _)

/-- Within a binade the significand grows. -/
theorem magnitude_lt_succ_of_not_dvd {code : Nat} (h : binade ≤ code) (hdvd : ¬ binade ∣ code + 1) :
    magnitude code < magnitude (code + 1) := by
  have hdiv : (code + 1) / binade = code / binade := by
    rw [Nat.succ_div, if_neg hdvd]
    rfl
  have hmod : (code + 1) % binade = code % binade + 1 := by
    have hbefore := Nat.div_add_mod code binade
    have hafter := Nat.div_add_mod (code + 1) binade
    rw [hdiv] at hafter
    omega
  rw [magnitude_of_le h, magnitude_of_le (by omega), hdiv, hmod]
  refine mul_lt_mul_of_pos_right ?_ (two_zpow_pos _)
  exact_mod_cast (by omega : binade + code % binade < binade + (code % binade + 1))

/-- The last double of a binade is less than twice the first one, with which the next begins. -/
theorem magnitude_lt_succ_of_dvd {code : Nat} (h : binade ≤ code) (hdvd : binade ∣ code + 1) :
    magnitude code < magnitude (code + 1) := by
  have hdiv : (code + 1) / binade = code / binade + 1 := by rw [Nat.succ_div, if_pos hdvd]
  have hmod : (code + 1) % binade = 0 := Nat.mod_eq_zero_of_dvd hdvd
  have hlt := Nat.mod_lt code (by decide : 0 < binade)
  have hexp : ((code / binade + 1 : Nat) - 1075 : ℤ) =
      ((code / binade : Nat) - 1075 : ℤ) + 1 := by
    push_cast
    ring
  rw [magnitude_of_le h, magnitude_of_le (by omega), hdiv, hmod, hexp,
    zpow_add_one₀ (by norm_num), ← mul_assoc, mul_right_comm]
  refine mul_lt_mul_of_pos_right ?_ (two_zpow_pos _)
  exact_mod_cast (by omega : binade + code % binade < (binade + 0) * 2)

/-- The next code stands for a greater number, in the same binade and where the next one begins. -/
theorem magnitude_lt_succ (code : Nat) : magnitude code < magnitude (code + 1) := by
  rcases Nat.lt_trichotomy (code + 1) binade with hlt | heq | hgt
  · exact magnitude_lt_succ_of_lt hlt
  · exact magnitude_lt_succ_of_eq heq
  · have hle : binade ≤ code := Nat.le_of_lt_succ hgt
    by_cases hdvd : binade ∣ code + 1
    · exact magnitude_lt_succ_of_dvd hle hdvd
    · exact magnitude_lt_succ_of_not_dvd hle hdvd

theorem magnitude_strictMono : StrictMono magnitude := strictMono_nat_of_lt_succ magnitude_lt_succ

theorem magnitude_zero : magnitude 0 = 0 := by
  rw [magnitude_of_lt (by decide), Nat.cast_zero, zero_mul]

theorem magnitude_nonneg (code : Nat) : 0 ≤ magnitude code := by
  rw [← magnitude_zero]
  exact magnitude_strictMono.monotone (Nat.zero_le code)

theorem magnitude_pos_iff (code : Nat) : 0 < magnitude code ↔ 0 < code := by
  rw [← magnitude_zero]
  exact magnitude_strictMono.lt_iff_lt

/-! ## Comparing -/

/-- Doubles are ordered by rank as the numbers that they stand for. -/
theorem value_lt_value_iff {x y : Binary64} : x.value < y.value ↔ x.rank < y.rank := by
  obtain ⟨xNegative, m⟩ := x
  obtain ⟨yNegative, n⟩ := y
  have hm := magnitude_nonneg m
  have hn := magnitude_nonneg n
  have hm' := magnitude_pos_iff m
  have hn' := magnitude_pos_iff n
  cases xNegative <;> cases yNegative
  case false.false =>
    show magnitude m < magnitude n ↔ (m : ℤ) < n
    rw [magnitude_strictMono.lt_iff_lt, Nat.cast_lt]
  case false.true =>
    show magnitude m < -magnitude n ↔ (m : ℤ) < -n
    constructor
    · intro h
      linarith
    · intro h
      omega
  case true.false =>
    show -magnitude m < magnitude n ↔ -(m : ℤ) < n
    constructor
    · intro h
      -- both zeros have the same number
      by_contra hle
      have hmz : ¬ 0 < magnitude m := by rw [hm']; omega
      have hnz : ¬ 0 < magnitude n := by rw [hn']; omega
      linarith
    · intro h
      have hpos : 0 < m ∨ 0 < n := by omega
      rcases hpos with hpos | hpos
      · linarith [hm'.2 hpos]
      · linarith [hn'.2 hpos]
  case true.true =>
    show -magnitude m < -magnitude n ↔ -(m : ℤ) < -n
    rw [neg_lt_neg_iff, neg_lt_neg_iff, magnitude_strictMono.lt_iff_lt, Nat.cast_lt]

theorem value_le_value_iff {x y : Binary64} : x.value ≤ y.value ↔ x.rank ≤ y.rank := by
  rw [← not_lt, value_lt_value_iff, not_lt]

theorem value_zero : zero.value = 0 := magnitude_zero

theorem value_one : one.value = 1 := by
  have hcode : one.code = 1023 * binade := rfl
  have hdiv : one.code / binade = 1023 := by decide
  have hmod : one.code % binade = 0 := by decide
  show magnitude one.code = 1
  rw [magnitude_of_le (by decide), hdiv, hmod]
  norm_num [binade]

/-- The lesser of two doubles is one of them. -/
theorem min_eq_or (x y : Binary64) : x.min y = x ∨ x.min y = y := by
  unfold min
  split
  · exact .inl rfl
  · exact .inr rfl

/-- It stands for the lesser of their numbers. -/
theorem value_min (x y : Binary64) : (x.min y).value = Min.min x.value y.value := by
  unfold min
  split
  next h => exact (min_eq_left (value_lt_value_iff.2 h).le).symm
  next h => exact (min_eq_right (value_le_value_iff.2 (not_lt.1 h))).symm

/-! ## Probabilities -/

/-- A double that is accepted as a probability stands for a number between zero and one. -/
theorem isProbability_iff {x : Binary64} :
    x.isProbability = true ↔ x.IsFinite ∧ 0 ≤ x.value ∧ x.value ≤ 1 := by
  have hzero : zero.rank = 0 := rfl
  rw [← value_zero, ← value_one, value_le_value_iff, value_le_value_iff, hzero]
  simp only [isProbability, isNaN, Bool.and_eq_true, Bool.not_eq_true', decide_eq_false_iff_not,
    decide_eq_true_eq, not_lt, IsFinite]
  constructor
  · rintro ⟨⟨-, hlow⟩, hhigh⟩
    refine ⟨?_, hlow, hhigh⟩
    -- no code up to that of one is past the finite ones
    have hone : one.rank = one.code := rfl
    have hlt : one.code < infinityCode := by decide
    have hcode : x.code ≤ one.code := by
      unfold rank at hlow
      rw [hone, rank] at hhigh
      split at hlow
      · omega
      · rw [if_neg ‹_›] at hhigh
        omega
    omega
  · rintro ⟨hfinite, hlow, hhigh⟩
    exact ⟨⟨hfinite.le, hlow⟩, hhigh⟩

end ProgramSearch.Binary64

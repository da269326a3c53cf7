/-
# ProgramSearch.Proofs.Meaning -- what operators are meant to compute

The rules of the language, one or two for each operator, in the terms of its description: whole
numbers that are cut to 32 bits at the end, prefixes and suffixes, permutations, folds of the first
so many elements. Operators are evaluated by loops and by the arithmetic of machine words. The main
statement is that on arguments of the types an operator takes the rules allow one answer, and that
it is the one evaluation gives.
-/

import Mathlib.Algebra.Order.Ring.Int
import ProgramSearch.Proofs.Typing

namespace ProgramSearch

/-! ## Functions in whole numbers -/

namespace UnaryFn

/-- What a function of one integer gives in whole numbers; quotients drop the fraction. -/
def exact : UnaryFn → Int → Int
  | increment, x => x + 1
  | decrement, x => x - 1
  | mult2, x => x * 2
  | div2, x => x.tdiv 2
  | negate, x => -x
  | sqr, x => x * x
  | mult3, x => x * 3
  | div3, x => x.tdiv 3
  | mult4, x => x * 4
  | div4, x => x.tdiv 4

/-- What it gives in words of 32 bits. -/
def wrapped (f : UnaryFn) (x : Int32) : Int32 := .ofInt (f.exact x.toInt)

theorem apply_eq_wrapped (f : UnaryFn) : f.apply = f.wrapped := by
  funext x
  apply Int32.toInt_inj.1
  cases f <;> simp [apply, wrapped, exact, Int32.size]

end UnaryFn

namespace BinaryFn

/-- What a function of two integers gives in whole numbers. -/
def exact : BinaryFn → Int → Int → Int
  | add, x, y => x + y
  | subtract, x, y => x - y
  | mult, x, y => x * y
  | max, x, y => Max.max x y
  | min, x, y => Min.min x y

/-- What it gives in words of 32 bits. -/
def wrapped (f : BinaryFn) (x y : Int32) : Int32 := .ofInt (f.exact x.toInt y.toInt)

theorem apply_eq_wrapped (f : BinaryFn) : f.apply = f.wrapped := by
  funext x y
  cases f with
  | add | subtract | mult => simp [apply, wrapped, exact]
  | max | min =>
    simp only [apply, wrapped, exact, Int32.le_iff_toInt_le, max_def, min_def]
    split <;> simp

end BinaryFn

namespace Predicate

/-- What a test says of a whole number. -/
def Holds : Predicate → Int → Prop
  | isPos, x => 0 < x
  | isNeg, x => x < 0
  | isEven, x => Even x
  | isOdd, x => Odd x

instance : (p : Predicate) → (x : Int) → Decidable (p.Holds x)
  | isPos, x => inferInstanceAs (Decidable (0 < x))
  | isNeg, x => inferInstanceAs (Decidable (x < 0))
  | isEven, x => inferInstanceAs (Decidable (Even x))
  | isOdd, x => inferInstanceAs (Decidable (Odd x))

theorem test_iff_holds {p : Predicate} {x : Int32} : p.test x = true ↔ p.Holds x.toInt := by
  have heven : x % 2 = 0 ↔ Even x.toInt := by
    rw [← Int32.toInt_inj, Int32.toInt_mod, even_iff_two_dvd, Int.dvd_iff_tmod_eq_zero]
    rfl
  cases p with
  | isPos | isNeg => simp [test, Holds, Int32.lt_iff_toInt_lt]
  | isEven => simp [test, Holds, heven]
  | isOdd => simp [test, Holds, heven]

end Predicate

/-! ## The rules -/

namespace Operator

/-- The rules of the language: what an operator is to give on its arguments. -/
inductive Means : Operator → List Value → Except Error Value → Prop where
  | scalar (f : UnaryFn) (x : Int32) : Means (.scalar f) [.int x] (.ok (.int (f.wrapped x)))
  /-- An element that no other is below. -/
  | minimum {xs : List Int32} {m : Int32} :
      m ∈ xs → (∀ x ∈ xs, m.toInt ≤ x.toInt) → Means .minimum [.array xs] (.ok (.int m))
  | minimum_nil : Means .minimum [.array []] (.ok (.int Int32.maxValue))
  /-- An element that no other is above. -/
  | maximum {xs : List Int32} {m : Int32} :
      m ∈ xs → (∀ x ∈ xs, x.toInt ≤ m.toInt) → Means .maximum [.array xs] (.ok (.int m))
  | maximum_nil : Means .maximum [.array []] (.ok (.int Int32.minValue))
  | head (x : Int32) (xs : List Int32) : Means .head [.array (x :: xs)] (.ok (.int x))
  | head_nil : Means .head [.array []] (.ok (.int 0))
  | last (xs : List Int32) (x : Int32) : Means .last [.array (xs ++ [x])] (.ok (.int x))
  | last_nil : Means .last [.array []] (.ok (.int 0))
  | sum (xs : List Int32) :
      Means .sum [.array xs] (.ok (.int (.ofInt (xs.map Int32.toInt).sum)))
  | count (p : Predicate) (xs : List Int32) :
      Means (.count p) [.array xs] (.ok (.int (.ofInt (xs.countP fun x => p.Holds x.toInt))))
  | map (f : UnaryFn) (xs : List Int32) :
      Means (.map f) [.array xs] (.ok (.array (xs.map f.wrapped)))
  /-- In the order they had, every element that passes the test as often as it occurs. -/
  | filter {p : Predicate} {xs ys : List Int32} :
      ys.Sublist xs → (∀ x, ys.count x = if p.Holds x.toInt then xs.count x else 0) →
      Means (.filter p) [.array xs] (.ok (.array ys))
  | sort {xs ys : List Int32} :
      ys.Perm xs → ys.Pairwise (fun x y => x.toInt ≤ y.toInt) →
      Means .sort [.array xs] (.ok (.array ys))
  | reverse {xs ys : List Int32} :
      ys.length = xs.length → (∀ i < xs.length, ys[i]? = xs[xs.length - 1 - i]?) →
      Means .reverse [.array xs] (.ok (.array ys))
  /-- At each place the fold of the elements up to there. -/
  | scanl {f : BinaryFn} {xs ys : List Int32} :
      ys.length = xs.length →
      (∀ i x rest, i < xs.length → xs.take (i + 1) = x :: rest →
        ys[i]? = some (rest.foldl f.wrapped x)) →
      Means (.scanl f) [.array xs] (.ok (.array ys))
  | access {bounds : Bounds} {n : Int32} {xs : List Int32} {x : Int32} :
      0 ≤ n.toInt → xs[n.toInt.toNat]? = some x →
      Means (.access bounds) [.int n, .array xs] (.ok (.int x))
  | access_sentinel {n : Int32} {xs : List Int32} :
      n.toInt < 0 ∨ xs.length ≤ n.toInt →
      Means (.access .sentinel) [.int n, .array xs] (.ok (.int (-1000000)))
  | access_strict {n : Int32} {xs : List Int32} :
      n.toInt < 0 ∨ xs.length ≤ n.toInt →
      Means (.access .strict) [.int n, .array xs] (.error (.indexOutOfRange n.toInt xs.length))
  | take {n : Int32} {xs ys : List Int32} :
      ys <+: xs → (ys.length : Int) = min (max n.toInt 0) xs.length →
      Means .take [.int n, .array xs] (.ok (.array ys))
  /-- The elements from the given place on. -/
  | drop {n : Int32} {xs ys : List Int32} :
      0 ≤ n.toInt → n.toInt < xs.length → ys <:+ xs → (ys.length : Int) = xs.length - n.toInt →
      Means .drop [.int n, .array xs] (.ok (.array ys))
  | drop_outside {n : Int32} {xs : List Int32} :
      n.toInt < 0 ∨ xs.length ≤ n.toInt → Means .drop [.int n, .array xs] (.ok (.array []))
  /-- As long as the shorter array, with the function of both elements at each place. -/
  | zipWith {f : BinaryFn} {xs ys zs : List Int32} :
      zs.length = min xs.length ys.length →
      (∀ (i : Nat) (x y : Int32), xs[i]? = some x → ys[i]? = some y →
        zs[i]? = some (f.wrapped x y)) →
      Means (.zipWith f) [.array xs, .array ys] (.ok (.array zs))

/-! ## Loops -/

/-- A fold that always keeps the one of two elements that comes first in an order ends with one that
comes before all. -/
theorem foldl_least {R : Int32 → Int32 → Prop} {f : Int32 → Int32 → Int32}
    (hrefl : ∀ x, R x x) (htrans : ∀ x y z, R x y → R y z → R x z)
    (hf : ∀ x y, (f x y = x ∨ f x y = y) ∧ R (f x y) x ∧ R (f x y) y)
    (xs : List Int32) (a : Int32) :
    (xs.foldl f a = a ∨ xs.foldl f a ∈ xs) ∧ R (xs.foldl f a) a ∧
      ∀ x ∈ xs, R (xs.foldl f a) x := by
  induction xs generalizing a with
  | nil => exact ⟨.inl rfl, hrefl a, by simp⟩
  | cons y xs ih =>
    obtain ⟨hmem, hacc, hall⟩ := ih (f a y)
    obtain ⟨hchoice, hleft, hright⟩ := hf a y
    refine ⟨?_, htrans _ _ _ hacc hleft, ?_⟩
    · rw [List.foldl_cons]
      rcases hmem with hmem | hmem
      · rw [hmem]
        refine hchoice.imp_right fun hy => ?_
        rw [hy]
        exact List.mem_cons_self
      · exact .inr (List.mem_cons_of_mem y hmem)
    · intro x hx
      rcases List.mem_cons.1 hx with rfl | hx
      · exact htrans _ _ _ hacc hright
      · exact hall x hx

/-- Begun with something that comes after all, it ends with the first element in the order. -/
theorem foldl_eq_iff {R : Int32 → Int32 → Prop} {f : Int32 → Int32 → Int32} {a m : Int32}
    {xs : List Int32} (hrefl : ∀ x, R x x)
    (htrans : ∀ x y z, R x y → R y z → R x z)
    (hantisymm : ∀ x y, R x y → R y x → x = y)
    (hf : ∀ x y, (f x y = x ∨ f x y = y) ∧ R (f x y) x ∧ R (f x y) y)
    (hlast : ∀ x, R x a) (hne : xs ≠ []) :
    xs.foldl f a = m ↔ m ∈ xs ∧ ∀ x ∈ xs, R m x := by
  obtain ⟨hmem, -, hall⟩ := foldl_least hrefl htrans hf xs a
  constructor
  · rintro rfl
    refine ⟨?_, hall⟩
    rcases hmem with hmem | hmem
    · -- then every element comes last
      obtain ⟨x, hx⟩ := List.exists_mem_of_ne_nil _ hne
      have heq : x = a := hantisymm _ _ (hlast x) (hmem ▸ hall x hx)
      rwa [hmem, ← heq]
    · exact hmem
  · rintro ⟨hm, hfirst⟩
    refine hantisymm _ _ (hall m hm) ?_
    rcases hmem with hmem | hmem
    · rw [hmem]
      exact hlast m
    · exact hfirst _ hmem

variable {xs ys zs : List Int32} {m n : Int32}

theorem minimum_eq_iff (hne : xs ≠ []) :
    minimum.function xs = m ↔ m ∈ xs ∧ ∀ x ∈ xs, m.toInt ≤ x.toInt := by
  refine foldl_eq_iff (R := fun x y => x.toInt ≤ y.toInt) (fun x => le_refl _)
    (fun x y z => le_trans) (fun x y hxy hyx => Int32.toInt_inj.1 (le_antisymm hxy hyx)) ?_
    (fun x => x.toInt_le) hne
  intro x y
  simp only [BinaryFn.apply, Int32.le_iff_toInt_le]
  split
  · exact ⟨.inl rfl, le_refl _, ‹_›⟩
  · exact ⟨.inr rfl, le_of_not_ge ‹_›, le_refl _⟩

theorem maximum_eq_iff (hne : xs ≠ []) :
    maximum.function xs = m ↔ m ∈ xs ∧ ∀ x ∈ xs, x.toInt ≤ m.toInt := by
  refine foldl_eq_iff (R := fun x y => y.toInt ≤ x.toInt) (fun x => le_refl _)
    (fun x y z hxy hyz => le_trans hyz hxy)
    (fun x y hxy hyx => Int32.toInt_inj.1 (le_antisymm hyx hxy)) ?_
    (fun x => x.minValue_le_toInt) hne
  intro x y
  simp only [BinaryFn.apply, Int32.le_iff_toInt_le]
  split
  · exact ⟨.inr rfl, ‹_›, le_refl _⟩
  · exact ⟨.inl rfl, le_refl _, le_of_not_ge ‹_›⟩

theorem sum_eq (xs : List Int32) : sum.function xs = .ofInt (xs.map Int32.toInt).sum := by
  have hfrom (a : Int32) (xs : List Int32) :
      xs.foldl (· + ·) a = a + .ofInt (xs.map Int32.toInt).sum := by
    induction xs generalizing a with
    | nil => simp
    | cons x xs ih => simp [ih, Int32.add_assoc]
  exact (hfrom 0 xs).trans (Int32.zero_add _)

theorem count_eq (p : Predicate) (xs : List Int32) :
    (count p).function xs = .ofInt (xs.countP fun x => p.Holds x.toInt) := by
  have hcount : xs.countP p.test = xs.countP fun x => p.Holds x.toInt :=
    List.countP_congr fun x _ => by rw [Predicate.test_iff_holds, decide_eq_true_iff]
  show Int32.ofNat (xs.countP p.test) = _
  rw [hcount, Int32.ofInt_eq_ofNat]

theorem filter_eq_iff {p : Predicate} :
    (filter p).function xs = ys ↔
      ys.Sublist xs ∧ ∀ x, ys.count x = if p.Holds x.toInt then xs.count x else 0 := by
  have hcount (x : Int32) :
      (xs.filter p.test).count x = if p.Holds x.toInt then xs.count x else 0 := by
    split
    · exact List.count_filter (Predicate.test_iff_holds.2 ‹_›)
    · refine List.count_eq_zero.2 fun hmem => ?_
      exact absurd (Predicate.test_iff_holds.1 (List.mem_filter.1 hmem).2) ‹_›
  constructor
  · rintro rfl
    exact ⟨List.filter_sublist, hcount⟩
  · rintro ⟨hsub, hys⟩
    -- both are parts of the array, in its order, with the same elements
    have hperm : (xs.filter p.test).Perm ys :=
      List.perm_iff_count.2 fun x => (hcount x).trans (hys x).symm
    have hall : ys.filter p.test = ys := by
      refine List.filter_eq_self.2 fun x hx => ?_
      exact (List.mem_filter.1 (hperm.mem_iff.2 hx)).2
    have hsub' : ys.Sublist (xs.filter p.test) := hall ▸ hsub.filter p.test
    exact (hsub'.eq_of_length hperm.length_eq.symm).symm

theorem sort_eq_iff :
    sort.function xs = ys ↔ ys.Perm xs ∧ ys.Pairwise fun x y => x.toInt ≤ y.toInt := by
  have hsorted : (xs.mergeSort fun x y => x ≤ y).Pairwise fun x y => x.toInt ≤ y.toInt := by
    have hpairwise : (xs.mergeSort fun x y => x ≤ y).Pairwise fun x y => decide (x ≤ y) :=
      List.pairwise_mergeSort (fun x y z => by simpa [Int32.le_iff_toInt_le] using le_trans)
        (fun x y => by simpa [Int32.le_iff_toInt_le] using le_total _ _) xs
    simpa [Int32.le_iff_toInt_le] using hpairwise
  constructor
  · rintro rfl
    exact ⟨List.mergeSort_perm _ _, hsorted⟩
  · rintro ⟨hperm, hys⟩
    exact ((List.mergeSort_perm xs _).trans hperm.symm).eq_of_pairwise
      (fun x y _ _ hxy hyx => Int32.toInt_inj.1 (le_antisymm hxy hyx)) hsorted hys

theorem reverse_eq_iff :
    reverse.function xs = ys ↔
      ys.length = xs.length ∧ ∀ i < xs.length, ys[i]? = xs[xs.length - 1 - i]? := by
  constructor
  · rintro rfl
    exact ⟨List.length_reverse, fun i hi => List.getElem?_reverse hi⟩
  · rintro ⟨hlength, hys⟩
    refine List.ext_getElem? fun i => ?_
    by_cases hi : i < xs.length
    · rw [hys i hi]
      exact List.getElem?_reverse hi
    · rw [List.getElem?_eq_none (by simpa [function] using hi),
        List.getElem?_eq_none (by omega)]

/-- At each place of the running results stands the fold of the elements before it. -/
theorem getElem?_scanFrom (f : Int32 → Int32 → Int32) (a : Int32) (xs : List Int32) (i : Nat) :
    (scanFrom f a xs)[i]? = if i ≤ xs.length then some ((xs.take i).foldl f a) else none := by
  induction xs generalizing a i with
  | nil => cases i <;> simp [scanFrom]
  | cons x xs ih => cases i <;> simp [scanFrom, ih]

theorem length_scanFrom (f : Int32 → Int32 → Int32) (a : Int32) (xs : List Int32) :
    (scanFrom f a xs).length = xs.length + 1 := by
  induction xs generalizing a with
  | nil => rfl
  | cons x xs ih => simp [scanFrom, ih]

theorem scanl_eq_iff {f : BinaryFn} :
    (scanl f).function xs = ys ↔ ys.length = xs.length ∧ ∀ i x rest, i < xs.length →
      xs.take (i + 1) = x :: rest → ys[i]? = some (rest.foldl f.wrapped x) := by
  rw [← f.apply_eq_wrapped]
  cases xs with
  | nil => simp [function, scan, eq_comm]
  | cons x xs =>
    have hlength : ((scanl f).function (x :: xs)).length = (x :: xs).length :=
      length_scanFrom f.apply x xs
    have hplace (i : Nat) (hi : i < (x :: xs).length) :
        ((scanl f).function (x :: xs))[i]? = some ((xs.take i).foldl f.apply x) :=
      (getElem?_scanFrom f.apply x xs i).trans (if_pos (Nat.le_of_lt_succ hi))
    constructor
    · rintro rfl
      refine ⟨hlength, ?_⟩
      rintro i y rest hi ⟨⟩
      exact hplace i hi
    · rintro ⟨hlength', hys⟩
      refine List.ext_getElem? fun i => ?_
      by_cases hi : i < (x :: xs).length
      · rw [hplace i hi, hys i x (xs.take i) hi rfl]
      · rw [List.getElem?_eq_none (by omega), List.getElem?_eq_none (by omega)]

theorem take_eq_iff :
    take.function n xs = ys ↔
      ys <+: xs ∧ (ys.length : Int) = min (max n.toInt 0) xs.length := by
  have hnat := n.toNat_toInt
  have hlength : ((xs.take n.toNatClampNeg).length : Int) = min (max n.toInt 0) xs.length := by
    rw [List.length_take]
    omega
  constructor
  · rintro rfl
    exact ⟨List.take_prefix _ _, hlength⟩
  · rintro ⟨hfirst, hys⟩
    have hsame : (xs.take n.toNatClampNeg).length = ys.length := by omega
    exact List.prefix_of_prefix_length_le (List.take_prefix _ _) hfirst hsame.le
      |>.eq_of_length hsame

theorem drop_eq_iff (hpos : 0 ≤ n.toInt) (hlt : n.toInt < xs.length) :
    drop.function n xs = ys ↔ ys <:+ xs ∧ (ys.length : Int) = xs.length - n.toInt := by
  have hnat := n.toNat_toInt
  have hnonneg : ¬ n < 0 := by
    rw [Int32.lt_iff_toInt_lt]
    exact not_lt.2 hpos
  have hdrop : drop.function n xs = xs.drop n.toNatClampNeg := if_neg hnonneg
  have hlength : ((xs.drop n.toNatClampNeg).length : Int) = xs.length - n.toInt := by
    rw [List.length_drop]
    omega
  rw [hdrop]
  constructor
  · rintro rfl
    exact ⟨List.drop_suffix _ _, hlength⟩
  · rintro ⟨hsuffix, hys⟩
    have hsame : (xs.drop n.toNatClampNeg).length = ys.length := by omega
    exact List.suffix_of_suffix_length_le (List.drop_suffix _ _) hsuffix hsame.le
      |>.eq_of_length hsame

theorem drop_eq_nil (h : n.toInt < 0 ∨ xs.length ≤ n.toInt) : drop.function n xs = [] := by
  have hnat := n.toNat_toInt
  show (if n < 0 then [] else xs.drop n.toNatClampNeg) = []
  split
  · rfl
  · rename_i hnonneg
    rw [Int32.lt_iff_toInt_lt] at hnonneg
    exact List.drop_eq_nil_of_le (by have : (0 : Int32).toInt = 0 := rfl; omega)

theorem zipWith_eq_iff {f : BinaryFn} :
    (zipWith f).function xs ys = zs ↔ zs.length = min xs.length ys.length ∧
      ∀ (i : Nat) (x y : Int32), xs[i]? = some x → ys[i]? = some y →
        zs[i]? = some (f.wrapped x y) := by
  have hfunction : (zipWith f).function xs ys = List.zipWith f.wrapped xs ys := by
    rw [← f.apply_eq_wrapped]
    rfl
  rw [hfunction]
  constructor
  · rintro rfl
    refine ⟨List.length_zipWith, fun i x y hx hy => ?_⟩
    rw [List.getElem?_zipWith, hx, hy]
  · rintro ⟨hlength, hzs⟩
    refine List.ext_getElem? fun i => ?_
    rw [List.getElem?_zipWith]
    by_cases hi : i < xs.length ∧ i < ys.length
    · have hx := List.getElem?_eq_getElem hi.1
      have hy := List.getElem?_eq_getElem hi.2
      rw [hx, hy, hzs i _ _ hx hy]
    · rw [List.getElem?_eq_none (l := zs) (by omega)]
      rcases not_and_or.1 hi with hi | hi
      · rw [List.getElem?_eq_none (Nat.le_of_not_lt hi)]
      · rw [List.getElem?_eq_none (l := ys) (Nat.le_of_not_lt hi)]
        cases xs[i]? <;> rfl

theorem element?_eq_some {x : Int32} (hpos : 0 ≤ n.toInt) (hx : xs[n.toInt.toNat]? = some x) :
    element? n xs = some x := by
  have hnonneg : ¬ n < 0 := by
    rw [Int32.lt_iff_toInt_lt]
    exact not_lt.2 hpos
  rw [element?, if_neg hnonneg, ← n.toNat_toInt, hx]

theorem accessWith_of_some {bounds : Bounds} {x : Int32} (h : element? n xs = some x) :
    accessWith bounds n xs = .ok x := by
  simp only [accessWith, h]

theorem accessWith_of_none {bounds : Bounds} (h : element? n xs = none) :
    accessWith bounds n xs = match bounds with
      | .sentinel => .ok nothingThere
      | .strict => .error (.indexOutOfRange n.toInt xs.length) := by
  cases bounds <;> simp only [accessWith, h]

theorem element?_eq_none (h : n.toInt < 0 ∨ xs.length ≤ n.toInt) : element? n xs = none := by
  rw [← Option.not_isSome_iff_eq_none, isSome_element?_iff]
  omega

/-! ## Evaluation follows the rules -/

variable {op : Operator} {args : List Value} {answer : Except Error Value}

/-- On arguments of its types an operator evaluates to something that the rules allow. -/
theorem means_evaluate (htypes : args.map Value.type = op.signature.params.toList) :
    op.Means args (op.evaluate args) := by
  have htakes := Family.takes_of_types htypes
  cases op with
  | scalar f =>
    obtain ⟨n, rfl⟩ := htakes
    show Means (scalar f) [.int n] (.ok (.int (f.apply n)))
    rw [f.apply_eq_wrapped]
    exact .scalar f n
  | minimum =>
    obtain ⟨xs, rfl⟩ := htakes
    by_cases hne : xs = []
    · rw [hne]
      exact .minimum_nil
    · obtain ⟨hmem, hall⟩ := (minimum_eq_iff hne).1 rfl
      exact .minimum hmem hall
  | maximum =>
    obtain ⟨xs, rfl⟩ := htakes
    by_cases hne : xs = []
    · rw [hne]
      exact .maximum_nil
    · obtain ⟨hmem, hall⟩ := (maximum_eq_iff hne).1 rfl
      exact .maximum hmem hall
  | head =>
    obtain ⟨xs, rfl⟩ := htakes
    cases xs with
    | nil => exact .head_nil
    | cons x xs => exact .head x xs
  | last =>
    obtain ⟨xs, rfl⟩ := htakes
    rcases List.eq_nil_or_concat' xs with rfl | ⟨xs, x, rfl⟩
    · exact .last_nil
    · show Means last [.array (xs ++ [x])] (.ok (.int ((xs ++ [x]).getLastD 0)))
      rw [List.getLastD_concat]
      exact .last xs x
  | sum =>
    obtain ⟨xs, rfl⟩ := htakes
    show Means sum [.array xs] (.ok (.int (sum.function xs)))
    rw [sum_eq]
    exact .sum xs
  | count p =>
    obtain ⟨xs, rfl⟩ := htakes
    show Means (count p) [.array xs] (.ok (.int ((count p).function xs)))
    rw [count_eq]
    exact .count p xs
  | map f =>
    obtain ⟨xs, rfl⟩ := htakes
    show Means (map f) [.array xs] (.ok (.array (xs.map f.apply)))
    rw [f.apply_eq_wrapped]
    exact .map f xs
  | filter p =>
    obtain ⟨xs, rfl⟩ := htakes
    obtain ⟨hsub, hcount⟩ := filter_eq_iff.1 rfl
    exact .filter hsub hcount
  | sort =>
    obtain ⟨xs, rfl⟩ := htakes
    obtain ⟨hperm, hsorted⟩ := sort_eq_iff.1 rfl
    exact .sort hperm hsorted
  | reverse =>
    obtain ⟨xs, rfl⟩ := htakes
    obtain ⟨hlength, hplace⟩ := reverse_eq_iff.1 rfl
    exact .reverse hlength hplace
  | scanl f =>
    obtain ⟨xs, rfl⟩ := htakes
    obtain ⟨hlength, hplace⟩ := scanl_eq_iff.1 rfl
    exact .scanl hlength hplace
  | access bounds =>
    obtain ⟨n, xs, rfl⟩ := htakes
    rw [evaluate_access]
    by_cases hinside : 0 ≤ n.toInt ∧ n.toInt < xs.length
    · have hx := List.getElem?_eq_getElem (show n.toInt.toNat < xs.length by omega)
      rw [accessWith_of_some (element?_eq_some hinside.1 hx)]
      exact .access hinside.1 hx
    · have houtside : n.toInt < 0 ∨ xs.length ≤ n.toInt := by omega
      rw [accessWith_of_none (element?_eq_none houtside)]
      cases bounds with
      | strict => exact .access_strict houtside
      | sentinel => exact .access_sentinel houtside
  | take =>
    obtain ⟨n, xs, rfl⟩ := htakes
    obtain ⟨hfirst, hlength⟩ := take_eq_iff.1 rfl
    exact .take hfirst hlength
  | drop =>
    obtain ⟨n, xs, rfl⟩ := htakes
    by_cases hinside : 0 ≤ n.toInt ∧ n.toInt < xs.length
    · obtain ⟨hsuffix, hlength⟩ := (drop_eq_iff hinside.1 hinside.2).1 rfl
      exact .drop hinside.1 hinside.2 hsuffix hlength
    · have houtside : n.toInt < 0 ∨ xs.length ≤ n.toInt := by omega
      show Means drop [.int n, .array xs] (.ok (.array (drop.function n xs)))
      rw [drop_eq_nil houtside]
      exact .drop_outside houtside
  | zipWith f =>
    obtain ⟨xs, ys, rfl⟩ := htakes
    obtain ⟨hlength, hplace⟩ := zipWith_eq_iff.1 rfl
    exact .zipWith hlength hplace

/-- What the rules allow is what an operator evaluates to. -/
theorem Means.evaluate_eq (h : op.Means args answer) : op.evaluate args = answer := by
  have hint {m m' : Int32} (hm : m = m') :
      (Except.ok (.int m) : Except Error Value) = .ok (.int m') := by rw [hm]
  have harray {ys zs : List Int32} (hys : ys = zs) :
      (Except.ok (.array ys) : Except Error Value) = .ok (.array zs) := by rw [hys]
  cases h with
  | scalar f x => exact hint (congrFun f.apply_eq_wrapped x)
  | minimum hmem hall => exact hint ((minimum_eq_iff (List.ne_nil_of_mem hmem)).2 ⟨hmem, hall⟩)
  | maximum hmem hall => exact hint ((maximum_eq_iff (List.ne_nil_of_mem hmem)).2 ⟨hmem, hall⟩)
  | minimum_nil | maximum_nil | head | head_nil | last_nil => rfl
  | last xs x => exact hint List.getLastD_concat
  | sum xs => exact hint (sum_eq xs)
  | count p xs => exact hint (count_eq p xs)
  | map f xs => exact harray (congrArg (List.map · xs) f.apply_eq_wrapped)
  | filter hsub hcount => exact harray (filter_eq_iff.2 ⟨hsub, hcount⟩)
  | sort hperm hsorted => exact harray (sort_eq_iff.2 ⟨hperm, hsorted⟩)
  | reverse hlength hplace => exact harray (reverse_eq_iff.2 ⟨hlength, hplace⟩)
  | scanl hlength hplace => exact harray (scanl_eq_iff.2 ⟨hlength, hplace⟩)
  | access hpos hx =>
    rw [evaluate_access, accessWith_of_some (element?_eq_some hpos hx)]
    rfl
  | access_sentinel houtside | access_strict houtside =>
    rw [evaluate_access, accessWith_of_none (element?_eq_none houtside)]
    rfl
  | take hfirst hlength => exact harray (take_eq_iff.2 ⟨hfirst, hlength⟩)
  | drop hpos hlt hsuffix hlength => exact harray ((drop_eq_iff hpos hlt).2 ⟨hsuffix, hlength⟩)
  | drop_outside houtside => exact harray (drop_eq_nil houtside)
  | zipWith hlength hplace => exact harray (zipWith_eq_iff.2 ⟨hlength, hplace⟩)

/-- **Operators are evaluated by the rules of the language.** On arguments of the types that an
operator takes, evaluation comes to what the rules allow, and they allow nothing else. -/
theorem evaluate_eq_iff_means (htypes : args.map Value.type = op.signature.params.toList) :
    op.evaluate args = answer ↔ op.Means args answer := by
  constructor
  · rintro rfl
    exact means_evaluate htypes
  · exact Means.evaluate_eq

/-- Running products that leave the range of 32 bits on the way. -/
theorem means_scanl_of_overflow :
    [Value.array [65536, -32768, 3]].map Value.type = (scanl .mult).signature.params.toList ∧
      (scanl .mult).Means [.array [65536, -32768, 3]]
        (.ok (.array [65536, -2147483648, -2147483648])) :=
  ⟨rfl, (evaluate_eq_iff_means rfl).1 rfl⟩

end Operator

end ProgramSearch

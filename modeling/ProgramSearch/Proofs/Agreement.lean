/-
# ProgramSearch.Proofs.Agreement -- what operators owe to one another

Each operator has a loop of its own, and some of these loops have to come to the same: the last of
the running sums is the sum, the ends of a sorted array are its least and greatest element, what a
test keeps is what it counts, and what `take` leaves `drop` gives. These laws hold of all arrays,
those without elements and those whose sums wrap included, with the exceptions that the values
chosen for empty arrays make necessary.
-/

import ProgramSearch.Proofs.Meaning

namespace ProgramSearch.Operator

variable {xs : List Int32} {n : Int32}

/-! ## Running results -/

theorem getLast?_scanFrom (f : Int32 → Int32 → Int32) (a : Int32) (xs : List Int32) :
    (scanFrom f a xs).getLast? = some (xs.foldl f a) := by
  induction xs generalizing a with
  | nil => rfl
  | cons x xs ih => rw [scanFrom, List.getLast?_cons, ih, List.foldl_cons, Option.getD_some]

/-- The last running result is the fold from a start that makes no difference. An empty array has
none, and zero in its place. -/
theorem last_scanl {f : BinaryFn} {a : Int32} (hneutral : ∀ x, f.apply a x = x)
    (hstart : xs ≠ [] ∨ a = 0) :
    last.function ((scanl f).function xs) = xs.foldl f.apply a := by
  cases xs with
  | nil =>
    obtain rfl : a = 0 := hstart.resolve_left fun hne => hne rfl
    rfl
  | cons x xs =>
    have hlast : last.function (scanFrom f.apply x xs) = xs.foldl f.apply x := by
      show (scanFrom f.apply x xs).getLastD 0 = xs.foldl f.apply x
      rw [List.getLastD_eq_getLast?, getLast?_scanFrom, Option.getD_some]
    rw [List.foldl_cons, hneutral]
    exact hlast

theorem last_scanl_add (xs : List Int32) :
    last.function ((scanl .add).function xs) = sum.function xs :=
  last_scanl Int32.zero_add (.inr rfl)

theorem last_scanl_max (hne : xs ≠ []) :
    last.function ((scanl .max).function xs) = maximum.function xs := by
  refine last_scanl (fun x => ?_) (.inl hne)
  exact if_pos (Int32.le_iff_toInt_le.2 x.minValue_le_toInt)

theorem last_scanl_min (hne : xs ≠ []) :
    last.function ((scanl .min).function xs) = minimum.function xs := by
  refine last_scanl (fun x => ?_) (.inl hne)
  -- no integer is above the greatest one
  show (if Int32.maxValue ≤ x then Int32.maxValue else x) = x
  split
  next hle => exact Int32.toInt_inj.1 (le_antisymm (Int32.le_iff_toInt_le.1 hle) x.toInt_le)
  next => rfl

/-! ## Sorted arrays -/

theorem perm_sort (xs : List Int32) : (sort.function xs).Perm xs := (sort_eq_iff.1 rfl).1

theorem pairwise_sort (xs : List Int32) :
    (sort.function xs).Pairwise fun x y => x.toInt ≤ y.toInt := (sort_eq_iff.1 rfl).2

theorem last_sort (hne : xs ≠ []) : last.function (sort.function xs) = maximum.function xs := by
  have hperm := perm_sort xs
  have hsorted := pairwise_sort xs
  generalize sort.function xs = ys at hperm hsorted
  rcases List.eq_nil_or_concat' ys with rfl | ⟨zs, m, rfl⟩
  · exact absurd hperm.nil_eq.symm hne
  · refine Eq.trans List.getLastD_concat ((maximum_eq_iff hne).2 ⟨?_, fun x hx => ?_⟩).symm
    · exact hperm.mem_iff.1 (List.mem_append_right zs List.mem_cons_self)
    · rcases List.mem_append.1 (hperm.mem_iff.2 hx) with hx | hx
      · exact (List.pairwise_append.1 hsorted).2.2 x hx m List.mem_cons_self
      · rw [List.mem_singleton.1 hx]

theorem head_sort (hne : xs ≠ []) : head.function (sort.function xs) = minimum.function xs := by
  have hperm := perm_sort xs
  have hsorted := pairwise_sort xs
  generalize sort.function xs = ys at hperm hsorted
  cases ys with
  | nil => exact absurd hperm.nil_eq.symm hne
  | cons m zs =>
    refine ((minimum_eq_iff hne).2 ⟨hperm.mem_iff.1 List.mem_cons_self, fun x hx => ?_⟩).symm
    rcases List.mem_cons.1 (hperm.mem_iff.2 hx) with rfl | hx
    · exact le_refl _
    · exact (List.pairwise_cons.1 hsorted).1 x hx

/-- Arrays with the same elements are sorted alike. -/
theorem sort_of_perm {ys : List Int32} (h : xs.Perm ys) : sort.function xs = sort.function ys :=
  sort_eq_iff.2 ⟨(perm_sort ys).trans h.symm, pairwise_sort ys⟩

theorem filter_sort (p : Predicate) (xs : List Int32) :
    (filter p).function (sort.function xs) = sort.function ((filter p).function xs) :=
  (sort_eq_iff.2 ⟨(perm_sort xs).filter p.test, (pairwise_sort xs).filter p.test⟩).symm

/-! ## Parts of an array -/

/-- Each number is kept by the test for even numbers or by the one for odd numbers, as often as it
occurs, and not at all by the other. -/
theorem count_filter_parity (xs : List Int32) (x : Int32) :
    (((filter .isEven).function xs).count x = xs.count x ∧
      ((filter .isOdd).function xs).count x = 0) ∨
    (((filter .isEven).function xs).count x = 0 ∧
      ((filter .isOdd).function xs).count x = xs.count x) := by
  have heven : ((filter .isEven).function xs).count x = if Even x.toInt then xs.count x else 0 :=
    (filter_eq_iff.1 rfl).2 x
  have hodd : ((filter .isOdd).function xs).count x = if Odd x.toInt then xs.count x else 0 :=
    (filter_eq_iff.1 rfl).2 x
  by_cases hx : Even x.toInt
  · exact .inl ⟨heven.trans (if_pos hx), hodd.trans (if_neg (Int.not_odd_iff_even.2 hx))⟩
  · exact .inr ⟨heven.trans (if_neg hx), hodd.trans (if_pos (Int.not_even_iff_odd.1 hx))⟩

theorem drop_of_nonneg (hpos : 0 ≤ n.toInt) : drop.function n xs = xs.drop n.toInt.toNat := by
  have hnonneg : ¬ n < 0 := by
    rw [Int32.lt_iff_toInt_lt]
    exact not_lt.2 hpos
  rw [n.toNat_toInt]
  exact if_neg hnonneg

theorem take_append_drop (hpos : 0 ≤ n.toInt) :
    take.function n xs ++ drop.function n xs = xs := by
  rw [drop_of_nonneg hpos, n.toNat_toInt]
  exact List.take_append_drop _ xs

theorem take_of_neg (hneg : n.toInt < 0) : take.function n xs = [] :=
  take_eq_iff.2 ⟨List.nil_prefix, by rw [max_eq_right hneg.le]; simp⟩

/-- An access inside an array reads the first element that is left by dropping those before it. -/
theorem accessWith_eq_head_drop {bounds : Bounds} (hpos : 0 ≤ n.toInt)
    (hlt : n.toInt < xs.length) :
    accessWith bounds n xs = .ok (head.function (drop.function n xs)) := by
  have hplace : n.toInt.toNat < xs.length := by omega
  have hx := List.getElem?_eq_getElem hplace
  rw [accessWith_of_some (element?_eq_some hpos hx), drop_of_nonneg hpos,
    List.drop_eq_getElem_cons hplace]
  rfl

/-! ## The laws -/

/-- One operator and then another one, of one argument, on what the first one gives. -/
def evaluateThen (first second : Operator) (args : List Value) : Except Error Value := do
  second.evaluate [← first.evaluate args]

/-- Two evaluations have a value, and it is the same. -/
def Meet (answer answer' : Except Error Value) : Prop :=
  ∃ v, answer = .ok v ∧ answer' = .ok v

/-- What operators owe to one another on an array and an integer. -/
structure AgreeOn (xs : List Int32) (n : Int32) : Prop where
  runningSum : Meet ((scanl .add).evaluateThen last [.array xs]) (sum.evaluate [.array xs])
  /-- An empty array has no running results, and no element to be the greatest or the least. -/
  runningMax : xs ≠ [] →
    Meet ((scanl .max).evaluateThen last [.array xs]) (maximum.evaluate [.array xs])
  runningMin : xs ≠ [] →
    Meet ((scanl .min).evaluateThen last [.array xs]) (minimum.evaluate [.array xs])
  greatest : xs ≠ [] → Meet (sort.evaluateThen last [.array xs]) (maximum.evaluate [.array xs])
  least : xs ≠ [] → Meet (sort.evaluateThen head [.array xs]) (minimum.evaluate [.array xs])
  sort_reverse : Meet (reverse.evaluateThen sort [.array xs]) (sort.evaluate [.array xs])
  sort_sort : Meet (sort.evaluateThen sort [.array xs]) (sort.evaluate [.array xs])
  reverse_reverse : reverse.evaluateThen reverse [.array xs] = .ok (.array xs)
  /-- A count is the length of what the test keeps, cut to 32 bits. -/
  count : ∀ p, ∃ ys m, (filter p).evaluate [.array xs] = .ok (.array ys) ∧
    (Operator.count p).evaluate [.array xs] = .ok (.int m) ∧
    m.toInt = (ys.length : Int).bmod (2 ^ 32)
  filter_sort : ∀ p,
    Meet (sort.evaluateThen (filter p) [.array xs]) ((filter p).evaluateThen sort [.array xs])
  /-- A number is kept as even or as odd, each time that it occurs. -/
  parity : ∃ evens odds, (filter .isEven).evaluate [.array xs] = .ok (.array evens) ∧
    (filter .isOdd).evaluate [.array xs] = .ok (.array odds) ∧
    ∀ x, (evens.count x = xs.count x ∧ odds.count x = 0) ∨
      (evens.count x = 0 ∧ odds.count x = xs.count x)
  parts : ∃ front back, take.evaluate [.int n, .array xs] = .ok (.array front) ∧
    drop.evaluate [.int n, .array xs] = .ok (.array back) ∧
    (0 ≤ n.toInt → front ++ back = xs) ∧ (n.toInt < 0 → front = [] ∧ back = [])
  access : ∀ bounds, 0 ≤ n.toInt → n.toInt < xs.length →
    Meet ((Operator.access bounds).evaluate [.int n, .array xs])
      (drop.evaluateThen head [.int n, .array xs])

theorem Meet.ofInt {m m' : Int32} (h : m = m') : Meet (.ok (.int m)) (.ok (.int m')) :=
  ⟨.int m', by rw [h], rfl⟩

theorem Meet.ofArray {ys zs : List Int32} (h : ys = zs) :
    Meet (.ok (.array ys)) (.ok (.array zs)) :=
  ⟨.array zs, by rw [h], rfl⟩

/-- **The loops of different operators agree.** They do on every array and every integer. -/
theorem agreeOn (xs : List Int32) (n : Int32) : AgreeOn xs n where
  runningSum := .ofInt (last_scanl_add xs)
  runningMax hne := .ofInt (last_scanl_max hne)
  runningMin hne := .ofInt (last_scanl_min hne)
  greatest hne := .ofInt (last_sort hne)
  least hne := .ofInt (head_sort hne)
  sort_reverse := .ofArray (sort_of_perm (List.reverse_perm xs))
  sort_sort := .ofArray (sort_of_perm (perm_sort xs))
  reverse_reverse := congrArg (fun ys => Except.ok (Value.array ys)) (List.reverse_reverse xs)
  count p := by
    refine ⟨_, _, rfl, rfl, ?_⟩
    show (Int32.ofNat (xs.countP p.test)).toInt = ((xs.filter p.test).length : Int).bmod (2 ^ 32)
    rw [← List.countP_eq_length_filter, Int32.toInt_ofNat']
    rfl
  filter_sort p := .ofArray (Operator.filter_sort p xs)
  parity := ⟨_, _, rfl, rfl, count_filter_parity xs⟩
  parts := ⟨_, _, rfl, rfl, take_append_drop,
    fun hneg => ⟨take_of_neg hneg, drop_eq_nil (.inl hneg)⟩⟩
  access bounds hpos hlt := by
    rw [evaluate_access, accessWith_eq_head_drop hpos hlt]
    exact .ofInt rfl

end ProgramSearch.Operator

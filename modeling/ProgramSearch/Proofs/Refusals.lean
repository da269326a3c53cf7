/-
# ProgramSearch.Proofs.Refusals -- which arguments an operator refuses

An operator refuses arguments for one of three reasons, and for the first of them that applies: they
are not as many as it takes, one of them is not of the type that the signature has in its place, or
a strict access reads outside its array. The error names what was wrong, of several arguments of
wrong types the leftmost. Where no reason applies there is a value, and it has the type that the
signature has for results.
-/

import ProgramSearch.Proofs.Meaning

namespace ProgramSearch

/-! ## Types side by side -/

/-- The types at the leftmost place where one is given that is not the one expected there. -/
def FirstMismatch (params given : List Ty) (expected found : Ty) : Prop :=
  ∃ i : Nat, params[i]? = some expected ∧ given[i]? = some found ∧ found ≠ expected ∧
    ∀ j < i, given[j]? = params[j]?

namespace FirstMismatch

variable {params given : List Ty} {expected found t u : Ty}

theorem not_nil : ¬ FirstMismatch [] given expected found := by
  rintro ⟨i, hexpected, -⟩
  cases hexpected

theorem cons_iff : FirstMismatch (t :: params) (u :: given) expected found ↔
    u ≠ t ∧ expected = t ∧ found = u ∨ u = t ∧ FirstMismatch params given expected found := by
  constructor
  · rintro ⟨i, hexpected, hfound, hne, hfirst⟩
    cases i with
    | zero =>
      cases hexpected
      cases hfound
      exact .inl ⟨hne, rfl, rfl⟩
    | succ i =>
      refine .inr ⟨Option.some.inj (hfirst 0 i.succ_pos), i, hexpected, hfound, hne, ?_⟩
      exact fun j hj => hfirst (j + 1) (Nat.succ_lt_succ hj)
  · rintro (⟨hne, rfl, rfl⟩ | ⟨rfl, i, hexpected, hfound, hne, hfirst⟩)
    · exact ⟨0, rfl, rfl, hne, fun j hj => absurd hj (Nat.not_lt_zero j)⟩
    · refine ⟨i + 1, hexpected, hfound, hne, fun j hj => ?_⟩
      cases j with
      | zero => rfl
      | succ j => exact hfirst j (Nat.lt_of_succ_lt_succ hj)

theorem one_iff : FirstMismatch [t] [u] expected found ↔ u ≠ t ∧ expected = t ∧ found = u := by
  simp [cons_iff, not_nil]

theorem two_iff {t' u' : Ty} : FirstMismatch [t, t'] [u, u'] expected found ↔
    u ≠ t ∧ expected = t ∧ found = u ∨ u = t ∧ u' ≠ t' ∧ expected = t' ∧ found = u' := by
  rw [cons_iff, one_iff]

/-- Among as many types as are expected there is one of a wrong type unless all are right. -/
theorem exists_iff (hlength : given.length = params.length) :
    (∃ expected found, FirstMismatch params given expected found) ↔ given ≠ params := by
  induction params generalizing given with
  | nil =>
    rw [List.length_eq_zero_iff.1 hlength]
    simp [not_nil]
  | cons t params ih =>
    obtain ⟨u, given, rfl⟩ := List.exists_cons_of_length_eq_add_one hlength
    simp only [cons_iff]
    by_cases htype : u = t
    · simp [htype, ih (Nat.succ.inj hlength)]
    · simp [htype]

end FirstMismatch

/-! ## Families -/

theorem Value.toInt_of_type_ne {v : Value} (h : v.type ≠ .int) :
    v.toInt = .error (.typeMismatch .int v.type) := by
  cases v with
  | int n => exact absurd rfl h
  | array xs => rfl

theorem Value.toArray_of_type_ne {v : Value} (h : v.type ≠ .array) :
    v.toArray = .error (.typeMismatch .array v.type) := by
  cases v with
  | int n => rfl
  | array xs => exact absurd rfl h

namespace Family

variable {refused : Error} {family : Family} {f : family.Function} {args : List Value}

/-- A wrong number of arguments is refused whatever they are. -/
theorem call_of_length_ne (h : args.length ≠ family.signature.params.count) :
    family.call refused f args = .error refused := by
  fun_cases Family.call refused family f args with
  | case1 | case2 | case3 | case4 | case5 | case6 => exact absurd rfl h
  | case7 family f args => rfl

/-- Of arguments of wrong types the leftmost is refused. -/
theorem call_of_firstMismatch {expected found : Ty}
    (hlength : args.length = family.signature.params.count)
    (h : FirstMismatch family.signature.params.toList (args.map Value.type) expected found) :
    family.call refused f args = .error (.typeMismatch expected found) := by
  cases family with
  | intToInt =>
    obtain ⟨a, rfl⟩ := List.length_eq_one_iff.1 hlength
    obtain ⟨hne, rfl, rfl⟩ := FirstMismatch.one_iff.1 h
    rw [call, Value.toInt_of_type_ne hne]
    rfl
  | arrayToInt | arrayToArray =>
    obtain ⟨a, rfl⟩ := List.length_eq_one_iff.1 hlength
    obtain ⟨hne, rfl, rfl⟩ := FirstMismatch.one_iff.1 h
    rw [call, Value.toArray_of_type_ne hne]
    rfl
  | intArrayToInt | intArrayToArray =>
    obtain ⟨a, b, rfl⟩ := List.length_eq_two.1 hlength
    rcases FirstMismatch.two_iff.1 h with ⟨hne, rfl, rfl⟩ | ⟨ha, hne, rfl, rfl⟩
    · rw [call, Value.toInt_of_type_ne hne]
      rfl
    · obtain ⟨n, rfl⟩ := Value.eq_int_of_type ha
      rw [call, Value.toArray_of_type_ne hne]
      rfl
  | arrayArrayToArray =>
    obtain ⟨a, b, rfl⟩ := List.length_eq_two.1 hlength
    rcases FirstMismatch.two_iff.1 h with ⟨hne, rfl, rfl⟩ | ⟨ha, hne, rfl, rfl⟩
    · rw [call, Value.toArray_of_type_ne hne]
      rfl
    · obtain ⟨xs, rfl⟩ := Value.eq_array_of_type ha
      rw [call, Value.toArray_of_type_ne hne]
      rfl

end Family

/-! ## Operators -/

namespace Operator

/-- A strict access of an array of some length at an offset outside it. -/
def ReadsOutside (op : Operator) (args : List Value) (offset : Int) (length : Nat) : Prop :=
  op = .access .strict ∧ ∃ n xs, args = [.int n, .array xs] ∧
    (n.toInt < 0 ∨ xs.length ≤ n.toInt) ∧ offset = n.toInt ∧ length = xs.length

/-- Why an operator refuses arguments, as the error that tells it. -/
inductive Refuses (op : Operator) (args : List Value) : Error → Prop where
  | arity (h : args.length ≠ op.arity) : Refuses op args (op.arityError args.length)
  | type {expected found : Ty} (hlength : args.length = op.arity)
      (h : FirstMismatch op.signature.params.toList (args.map Value.type) expected found) :
      Refuses op args (.typeMismatch expected found)
  | offset {offset : Int} {length : Nat} (h : op.ReadsOutside args offset length) :
      Refuses op args (.indexOutOfRange offset length)

variable {op : Operator} {args : List Value} {e : Error}

theorem length_toList_params (op : Operator) : op.signature.params.toList.length = op.arity := by
  cases h : op.signature.params <;> simp [arity, h, Operands.toList, Operands.count]

theorem refuses_of_evaluate (h : op.evaluate args = .error e) : op.Refuses args e := by
  by_cases hlength : args.length = op.arity
  · by_cases htypes : args.map Value.type = op.signature.params.toList
    · obtain ⟨rfl, n, xs, rfl, hnone, rfl⟩ := evaluate_eq_error htypes h
      refine .offset ⟨rfl, n, xs, rfl, ?_, rfl, rfl⟩
      rw [← Option.not_isSome_iff_eq_none, isSome_element?_iff] at hnone
      omega
    · have hsame : (args.map Value.type).length = op.signature.params.toList.length := by
        rw [List.length_map, hlength, op.length_toList_params]
      obtain ⟨expected, found, hmismatch⟩ := (FirstMismatch.exists_iff hsame).2 htypes
      obtain rfl : .typeMismatch expected found = e :=
        Except.error.inj ((Family.call_of_firstMismatch hlength hmismatch).symm.trans h)
      exact .type hlength hmismatch
  · obtain rfl : op.arityError args.length = e :=
      Except.error.inj ((Family.call_of_length_ne hlength).symm.trans h)
    exact .arity hlength

/-- An operator fails with the error that tells why it refuses its arguments. -/
theorem evaluate_eq_error_iff : op.evaluate args = .error e ↔ op.Refuses args e := by
  constructor
  · exact refuses_of_evaluate
  · intro h
    cases h with
    | arity h => exact Family.call_of_length_ne h
    | type hlength h => exact Family.call_of_firstMismatch hlength h
    | offset h =>
      obtain ⟨rfl, n, xs, rfl, houtside, rfl, rfl⟩ := h
      rw [evaluate_access, accessWith_of_none (element?_eq_none houtside)]
      rfl

/-- Arguments of the types that an operator takes are as many as it takes. -/
theorem length_eq_arity (h : args.map Value.type = op.signature.params.toList) :
    args.length = op.arity := by
  rw [← length_toList_params, ← h, List.length_map]

/-- Arguments of the types that an operator takes are refused for an offset or not at all. -/
theorem exists_evaluate_eq_ok_iff : (∃ v, op.evaluate args = .ok v) ↔
    args.map Value.type = op.signature.params.toList ∧
      ¬ ∃ offset length, op.ReadsOutside args offset length := by
  constructor
  · rintro ⟨v, hv⟩
    refine ⟨types_of_evaluate hv, ?_⟩
    rintro ⟨offset, length, houtside⟩
    exact absurd ((evaluate_eq_error_iff.2 (.offset houtside)).symm.trans hv) (by simp)
  · rintro ⟨htypes, hinside⟩
    cases hanswer : op.evaluate args with
    | ok v => exact ⟨v, rfl⟩
    | error e =>
      cases refuses_of_evaluate hanswer with
      | arity hlength => exact absurd (length_eq_arity htypes) hlength
      | type hlength hmismatch =>
        exact absurd htypes ((FirstMismatch.exists_iff (congrArg List.length htypes)).1
          ⟨_, _, hmismatch⟩)
      | offset houtside => exact absurd ⟨_, _, houtside⟩ hinside

/-- What an operator answers to arguments. -/
structure Answers (op : Operator) (args : List Value) (answer : Except Error Value) : Prop where
  /-- A wrong number of arguments is told, whatever they are. -/
  arity : ∀ rule, answer = .error (.violation rule) ↔
    args.length ≠ op.arity ∧ rule = .arity op.name op.arity args.length
  /-- Types are told if the number is right and one of the types is wrong. -/
  types : (∃ expected found, answer = .error (.typeMismatch expected found)) ↔
    args.length = op.arity ∧ args.map Value.type ≠ op.signature.params.toList
  /-- They are those of the leftmost argument of a wrong type. -/
  leftmost : ∀ expected found, answer = .error (.typeMismatch expected found) ↔
    args.length = op.arity ∧
      FirstMismatch op.signature.params.toList (args.map Value.type) expected found
  /-- An offset and a length are told if a strict access reads outside its array. -/
  offset : ∀ offset length, answer = .error (.indexOutOfRange offset length) ↔
    op.ReadsOutside args offset length
  /-- Otherwise there is a value, of the type that the signature has for results. -/
  value : (∃ v, answer = .ok v ∧ v.type = op.signature.result) ↔
    args.map Value.type = op.signature.params.toList ∧
      ¬ ∃ offset length, op.ReadsOutside args offset length

/-- **An operator tells the first reason to refuse its arguments.** First comes their number, then
the leftmost wrong type, then an offset outside the array of a strict access. Where there is none it
has a value of its result type. -/
theorem evaluate_answers (op : Operator) (args : List Value) :
    op.Answers args (op.evaluate args) := by
  have hleftmost : ∀ expected found, op.evaluate args = .error (.typeMismatch expected found) ↔
      args.length = op.arity ∧
        FirstMismatch op.signature.params.toList (args.map Value.type) expected found := by
    intro expected found
    rw [evaluate_eq_error_iff]
    constructor
    · intro hrefuses
      cases hrefuses with
      | type hlength h => exact ⟨hlength, h⟩
    · rintro ⟨hlength, h⟩
      exact .type hlength h
  refine ⟨fun rule => ?_, ?_, hleftmost, fun offset length => ?_, ?_⟩
  · rw [evaluate_eq_error_iff]
    constructor
    · intro hrefuses
      cases hrefuses with
      | arity h => exact ⟨h, rfl⟩
    · rintro ⟨h, rfl⟩
      exact .arity h
  · simp only [hleftmost, exists_and_left, and_congr_right_iff]
    intro hlength
    refine FirstMismatch.exists_iff ?_
    rw [List.length_map, hlength, length_toList_params]
  · rw [evaluate_eq_error_iff]
    constructor
    · intro hrefuses
      cases hrefuses with
      | offset h => exact h
    · exact .offset
  · rw [← exists_evaluate_eq_ok_iff]
    constructor
    · rintro ⟨v, hv, -⟩
      exact ⟨v, hv⟩
    · rintro ⟨v, hv⟩
      exact ⟨v, hv, evaluate_type hv⟩

/-- Of two arguments in the wrong order the first is told. -/
example : take.evaluate [.array [3, 1], .int 1] = .error (.typeMismatch .int .array) := rfl

end Operator

end ProgramSearch

/-
# ProgramSearch.Proofs.Typing -- what types say about evaluation

An operator's signature decides the type of every result it gives, whatever the data are. On
arguments of the types it takes, only a strict access can fail, and only at an offset that lies
outside the array. The same holds of instructions over registers whose types suit them, and of
programs that are well typed over the types of their inputs.
-/

import ProgramSearch.Proofs.Trying
import ProgramSearch.Run

namespace ProgramSearch

/-! ## Values of a given type -/

theorem Value.eq_int_of_type {v : Value} (h : v.type = .int) : ∃ n, v = .int n := by
  cases v with
  | int n => exact ⟨n, rfl⟩
  | array xs => cases h

theorem Value.eq_array_of_type {v : Value} (h : v.type = .array) : ∃ xs, v = .array xs := by
  cases v with
  | int n => cases h
  | array xs => exact ⟨xs, rfl⟩

theorem Value.type_of_toInt {v : Value} {n : Int32} (h : v.toInt = .ok n) : v.type = .int := by
  cases v with
  | int m => rfl
  | array xs => cases h

theorem Value.type_of_toArray {v : Value} {xs : List Int32} (h : v.toArray = .ok xs) :
    v.type = .array := by
  cases v with
  | int n => cases h
  | array ys => rfl

/-- One argument of a given type. -/
theorem Value.args_of_type {args : List Value} {t : Ty} (h : args.map Value.type = [t]) :
    ∃ v, args = [v] ∧ v.type = t := by
  obtain ⟨v, rfl, hv⟩ := List.map_eq_singleton_iff.1 h
  exact ⟨v, rfl, hv⟩

/-- Two arguments of given types. -/
theorem Value.args_of_types {args : List Value} {t u : Ty} (h : args.map Value.type = [t, u]) :
    ∃ v w, args = [v, w] ∧ v.type = t ∧ w.type = u := by
  obtain ⟨v, rest, rfl, hv, hrest⟩ := List.map_eq_cons_iff.1 h
  obtain ⟨w, rfl, hw⟩ := Value.args_of_type hrest
  exact ⟨v, w, rfl, hv, hw⟩

/-! ## Families and operators -/

namespace Family

/-- The arguments that the functions of a family are called on. -/
def Takes : Family → List Value → Prop
  | intToInt, args => ∃ n, args = [.int n]
  | arrayToInt, args | arrayToArray, args => ∃ xs, args = [.array xs]
  | intArrayToInt, args | intArrayToArray, args => ∃ n xs, args = [.int n, .array xs]
  | arrayArrayToArray, args => ∃ xs ys, args = [.array xs, .array ys]

theorem takes_of_types {family : Family} {args : List Value}
    (h : args.map Value.type = family.signature.params.toList) : family.Takes args := by
  cases family with
  | intToInt =>
    obtain ⟨a, rfl, ha⟩ := Value.args_of_type h
    obtain ⟨n, rfl⟩ := Value.eq_int_of_type ha
    exact ⟨n, rfl⟩
  | arrayToInt | arrayToArray =>
    obtain ⟨a, rfl, ha⟩ := Value.args_of_type h
    obtain ⟨xs, rfl⟩ := Value.eq_array_of_type ha
    exact ⟨xs, rfl⟩
  | intArrayToInt | intArrayToArray =>
    obtain ⟨a, b, rfl, ha, hb⟩ := Value.args_of_types h
    obtain ⟨n, rfl⟩ := Value.eq_int_of_type ha
    obtain ⟨xs, rfl⟩ := Value.eq_array_of_type hb
    exact ⟨n, xs, rfl⟩
  | arrayArrayToArray =>
    obtain ⟨a, b, rfl, ha, hb⟩ := Value.args_of_types h
    obtain ⟨xs, rfl⟩ := Value.eq_array_of_type ha
    obtain ⟨ys, rfl⟩ := Value.eq_array_of_type hb
    exact ⟨xs, ys, rfl⟩

/-- A family's result type is the type of every value that its functions give. -/
theorem call_type {refused : Error} {family : Family} {f : family.Function} {args : List Value}
    {v : Value} (h : family.call refused f args = .ok v) : v.type = family.signature.result := by
  unfold call at h
  split at h
  all_goals
    simp only [bind, Except.bind, pure, Except.pure, throw, throwThe, MonadExceptOf.throw] at h
    repeat' split at h
  all_goals
    cases h
    try rfl

/-- A family's functions give results on arguments of its types only. -/
theorem types_of_call {refused : Error} {family : Family} {f : family.Function}
    {args : List Value} {v : Value} (h : family.call refused f args = .ok v) :
    args.map Value.type = family.signature.params.toList := by
  fun_cases Family.call refused family f args with
  | case1 f n =>
    obtain ⟨_, hn, -⟩ := exists_of_bind_eq_ok h
    simp [Value.type_of_toInt hn, signature, Operands.toList]
  | case2 f a | case3 f a =>
    obtain ⟨_, ha, -⟩ := exists_of_bind_eq_ok h
    simp [Value.type_of_toArray ha, signature, Operands.toList]
  | case4 f n a | case5 f n a =>
    obtain ⟨_, hn, h⟩ := exists_of_bind_eq_ok h
    obtain ⟨_, ha, -⟩ := exists_of_bind_eq_ok h
    simp [Value.type_of_toInt hn, Value.type_of_toArray ha, signature, Operands.toList]
  | case6 f a b =>
    obtain ⟨_, ha, h⟩ := exists_of_bind_eq_ok h
    obtain ⟨_, hb, -⟩ := exists_of_bind_eq_ok h
    simp [Value.type_of_toArray ha, Value.type_of_toArray hb, signature, Operands.toList]
  | case7 family f args =>
    -- a wrong number of arguments
    simp (disch := assumption) only [call] at h
    cases h

/-- Only the family of `access` has functions that fail on arguments of its types. -/
theorem exists_call_eq_ok {refused : Error} {family : Family} {f : family.Function}
    {args : List Value} (hfamily : family ≠ .intArrayToInt)
    (htypes : args.map Value.type = family.signature.params.toList) :
    ∃ v, family.call refused f args = .ok v := by
  have htakes := takes_of_types htypes
  cases family with
  | intToInt =>
    obtain ⟨n, rfl⟩ := htakes
    exact ⟨_, rfl⟩
  | arrayToInt | arrayToArray =>
    obtain ⟨xs, rfl⟩ := htakes
    exact ⟨_, rfl⟩
  | intArrayToInt => exact absurd rfl hfamily
  | intArrayToArray =>
    obtain ⟨n, xs, rfl⟩ := htakes
    exact ⟨_, rfl⟩
  | arrayArrayToArray =>
    obtain ⟨xs, ys, rfl⟩ := htakes
    exact ⟨_, rfl⟩

end Family

namespace Operator

/-- The type of a result depends on the operator alone. -/
theorem evaluate_type {op : Operator} {args : List Value} {v : Value}
    (h : op.evaluate args = .ok v) : v.type = op.signature.result :=
  Family.call_type h

/-- An operator has results on arguments of the types it takes only. -/
theorem types_of_evaluate {op : Operator} {args : List Value} {v : Value}
    (h : op.evaluate args = .ok v) : args.map Value.type = op.signature.params.toList :=
  Family.types_of_call h

/-- There is an element at the offsets that lie within the array. -/
theorem isSome_element?_iff {offset : Int32} {xs : List Int32} :
    (element? offset xs).isSome = true ↔ 0 ≤ offset.toInt ∧ offset.toInt < xs.length := by
  have hnat := offset.toNat_toInt
  have hlt : offset < 0 ↔ offset.toInt < 0 := Int32.lt_iff_toInt_lt
  by_cases hneg : offset < 0
  · have hneg' := hlt.1 hneg
    simp [element?, hneg]
    omega
  · have hneg' := mt hlt.2 hneg
    simp [element?, hneg]
    omega

/-- An access fails only if it is strict and its offset lies outside the array. -/
theorem accessWith_eq_error {bounds : Bounds} {offset : Int32} {xs : List Int32} {e : Error}
    (h : accessWith bounds offset xs = .error e) :
    bounds = .strict ∧ element? offset xs = none ∧
      e = .indexOutOfRange offset.toInt xs.length := by
  cases hfound : element? offset xs with
  | some x => simp [accessWith, hfound] at h
  | none =>
    cases bounds with
    | sentinel => simp [accessWith, hfound] at h
    | strict =>
      simp only [accessWith, hfound, Except.error.injEq] at h
      exact ⟨rfl, rfl, h.symm⟩

/-- What an access comes to on an offset and an array. -/
theorem evaluate_access (bounds : Bounds) (offset : Int32) (xs : List Int32) :
    (access bounds).evaluate [.int offset, .array xs] = (accessWith bounds offset xs).map .int := by
  simp only [evaluate, family, function, Family.call, Value.toInt, Value.toArray, bind, Except.bind]
  cases accessWith bounds offset xs <;> rfl

/-- On arguments of the types it takes an operator fails only if it is a strict access whose offset
lies outside the array. -/
theorem evaluate_eq_error {op : Operator} {args : List Value} {e : Error}
    (htypes : args.map Value.type = op.signature.params.toList) (h : op.evaluate args = .error e) :
    op = .access .strict ∧ ∃ offset xs, args = [.int offset, .array xs] ∧
      element? offset xs = none ∧ e = .indexOutOfRange offset.toInt xs.length := by
  cases op with
  | access bounds =>
    obtain ⟨offset, xs, rfl⟩ := Family.takes_of_types htypes
    rw [evaluate_access] at h
    cases haccess : accessWith bounds offset xs with
    | ok n => simp [haccess, Except.map] at h
    | error e' =>
      obtain rfl : e' = e := by simpa [haccess, Except.map] using h
      obtain ⟨rfl, hfound, he⟩ := accessWith_eq_error haccess
      exact ⟨rfl, offset, xs, rfl, hfound, he⟩
  | _ =>
    -- the functions of the other families are total
    obtain ⟨v, hv⟩ := Family.exists_call_eq_ok (by simp [family]) htypes
    exact absurd (hv.symm.trans h) (by simp)

end Operator

/-! ## Instructions -/

namespace Instruction

/-- An instruction is well typed where its operands have the types that its operator takes, one
after the other. -/
theorem isWellTyped_iff {types : List Ty} {ins : Instruction} :
    ins.isWellTyped types = true ↔
      ins.operands.toList.map (types[·]?) = ins.op.signature.params.toList.map some := by
  rw [isWellTyped, decide_eq_true_iff, ← Operands.toList_inj, Operands.toList_map,
    Operands.toList_map]

/-- The operands of a well-typed instruction are all there. -/
theorem lt_length_of_isWellTyped {types : List Ty} {ins : Instruction}
    (h : ins.isWellTyped types = true) : ∀ r ∈ ins.operands.toList, r < types.length := by
  intro r hr
  have hmem : types[r]? ∈ ins.op.signature.params.toList.map some :=
    isWellTyped_iff.1 h ▸ List.mem_map_of_mem hr
  obtain ⟨t, -, ht⟩ := List.mem_map.1 hmem
  exact (List.getElem?_eq_some_iff.1 ht.symm).1

/-- With all operands there, an instruction is well typed where the values they hold have the types
that its operator takes. -/
theorem isWellTyped_iff_args {registers : List Value} {ins : Instruction}
    (h : ∀ r ∈ ins.operands.toList, r < registers.length) :
    ins.isWellTyped (registers.map Value.type) = true ↔
      (ins.operands.toList.filterMap (registers[·]?)).map Value.type =
        ins.op.signature.params.toList := by
  have hargs : ins.operands.toList.map ((registers.map Value.type)[·]?) =
      ((ins.operands.toList.filterMap (registers[·]?)).map Value.type).map some := by
    generalize ins.operands.toList = operands at h
    induction operands with
    | nil => rfl
    | cons r rest ih =>
      have hr := List.getElem?_eq_getElem (h r List.mem_cons_self)
      have hrest := ih fun s hs => h s (List.mem_cons_of_mem r hs)
      simp [hr] at hrest ⊢
      exact hrest
  rw [isWellTyped_iff, hargs, List.map_inj_right fun _ _ => Option.some.inj]

/-- Over registers that suit it an instruction is the evaluation of its operator on arguments of the
types it takes. -/
theorem run_eq_evaluate {registers : List Value} {ins : Instruction}
    (h : ins.isWellTyped (registers.map Value.type) = true) :
    ∃ args, ins.run registers = ins.op.evaluate args ∧
      args.map Value.type = ins.op.signature.params.toList := by
  have hlt := lt_length_of_isWellTyped h
  rw [List.length_map] at hlt
  have hfind : ins.operands.toList.find? (registers.length ≤ ·) = none := by simpa using hlt
  exact ⟨_, by rw [run, hfind], (isWellTyped_iff_args hlt).1 h⟩

/-- An instruction has a result only over registers that suit it. -/
theorem isWellTyped_of_run {registers : List Value} {ins : Instruction} {v : Value}
    (h : ins.run registers = .ok v) : ins.isWellTyped (registers.map Value.type) = true := by
  unfold run at h
  split at h
  · cases h
  · rename_i hfind
    have hlt : ∀ r ∈ ins.operands.toList, r < registers.length := by simpa using hfind
    exact (isWellTyped_iff_args hlt).2 (Operator.types_of_evaluate h)

/-- The type of an instruction's result is known before it runs. -/
theorem run_type {registers : List Value} {ins : Instruction} {v : Value}
    (h : ins.run registers = .ok v) : v.type = ins.resultType := by
  unfold run at h
  split at h
  · cases h
  · exact Operator.evaluate_type h

/-- Over registers that suit it an instruction other than a strict access has a result. -/
theorem exists_run_eq_ok {registers : List Value} {ins : Instruction}
    (h : ins.isWellTyped (registers.map Value.type) = true) (hop : ins.op ≠ .access .strict) :
    ∃ v, ins.run registers = .ok v := by
  obtain ⟨args, hrun, htypes⟩ := run_eq_evaluate h
  cases hvalue : ins.op.evaluate args with
  | ok v => exact ⟨v, hrun.trans hvalue⟩
  | error e => exact absurd (Operator.evaluate_eq_error htypes hvalue).1 hop

end Instruction

/-! ## Programs -/

namespace Program

theorem typesFrom_append (types : List Ty) (steps : List Instruction) (ins : Instruction) :
    typesFrom types (steps ++ [ins]) = typesFrom types steps ++ [ins.resultType] := by
  simp [typesFrom]

/-- Running one instruction more. -/
theorem runFrom_append_eq_ok {registers registers' : List Value} {steps : List Instruction}
    {ins : Instruction} :
    runFrom registers (steps ++ [ins]) = .ok registers' ↔
      ∃ before v, runFrom registers steps = .ok before ∧ ins.run before = .ok v ∧
        registers' = before ++ [v] := by
  induction steps generalizing registers with
  | nil =>
    cases hrun : ins.run registers with
    | error e => simp [runFrom, hrun]
    | ok v => simp [runFrom, hrun, eq_comm]
  | cons first steps ih =>
    rw [List.cons_append, runFrom, runFrom]
    cases hfirst : first.run registers with
    | error e => simp
    | ok v => exact ih

/-- The types of the registers after a program are known before it runs. -/
theorem runFrom_types {registers registers' : List Value} {steps : List Instruction}
    (h : runFrom registers steps = .ok registers') :
    registers'.map Value.type = typesFrom (registers.map Value.type) steps := by
  induction steps generalizing registers with
  | nil =>
    cases h
    simp [typesFrom]
  | cons ins rest ih =>
    rw [runFrom] at h
    split at h
    · cases h
    · rename_i v hrun
      rw [ih h]
      simp [typesFrom, Instruction.run_type hrun]

theorem runFrom_length {registers registers' : List Value} {steps : List Instruction}
    (h : runFrom registers steps = .ok registers') :
    registers'.length = registers.length + steps.length := by
  have hlength := congrArg List.length (runFrom_types h)
  simpa [typesFrom] using hlength

/-- A program that is one instruction longer is well typed if its last instruction suits the
registers that the others leave. -/
theorem WellTyped.append {types : List Ty} {steps : List Instruction} {ins : Instruction}
    (h : WellTyped types steps) (hins : ins.isWellTyped (typesFrom types steps) = true) :
    WellTyped types (steps ++ [ins]) := by
  induction h with
  | nil => exact .cons (by simpa [typesFrom] using hins) .nil
  | @cons types first rest hfirst _ ih =>
    refine .cons hfirst (ih ?_)
    simpa [typesFrom] using hins

end Program

end ProgramSearch

/-
# ProgramSearch.Proofs.Applicability -- where an instruction can be applied

Whether an instruction suits registers is decided twice. Typing looks at their types and at nothing
else; applying looks the operands up, reads each value at the type it needs, and evaluates. The main
statement is that the two agree: an instruction is applied where it is well typed over the visible
registers, and a strict access where its offset lies within its array besides. The type that it puts
on top depends on the operator alone.
-/

import ProgramSearch.Proofs.Registers

namespace ProgramSearch

/-! ## What an access reads -/

namespace Instruction

/-- The operands are registers that hold an offset and an array. -/
def Reads (ins : Instruction) (registers : List Value) (offset : Int32) (xs : List Int32) : Prop :=
  ∃ r s, ins.operands = .two r s ∧ registers[r]? = some (.int offset) ∧
    registers[s]? = some (.array xs)

variable {ins : Instruction} {registers : List Value} {bounds : Bounds} {offset : Int32}
  {xs : List Int32}

/-- A well-typed access reads an offset and an array. -/
theorem exists_reads (hop : ins.op = .access bounds)
    (h : ins.isWellTyped (registers.map Value.type) = true) :
    ∃ offset xs, ins.Reads registers offset xs := by
  obtain ⟨op, operands⟩ := ins
  obtain rfl : op = .access bounds := hop
  have hparams : (Operator.access bounds).signature.params = .two .int .array := rfl
  simp only [isWellTyped, hparams, decide_eq_true_eq] at h
  cases operands with
  | one r => cases h
  | two r s =>
    obtain ⟨hr, hs⟩ : (registers.map Value.type)[r]? = some .int ∧
        (registers.map Value.type)[s]? = some .array := Operands.two.inj h
    rw [List.getElem?_map] at hr hs
    obtain ⟨v, hv, hint⟩ := Option.map_eq_some_iff.1 hr
    obtain ⟨w, hw, harray⟩ := Option.map_eq_some_iff.1 hs
    obtain ⟨offset, rfl⟩ := Value.eq_int_of_type hint
    obtain ⟨xs, rfl⟩ := Value.eq_array_of_type harray
    exact ⟨offset, xs, r, s, rfl, hv, hw⟩

/-- An access comes to what its rule for offsets says about the offset and the array it reads. -/
theorem Reads.run_eq (h : ins.Reads registers offset xs) (hop : ins.op = .access bounds) :
    ins.run registers = (Operator.accessWith bounds offset xs).map .int := by
  obtain ⟨r, s, hoperands, hr, hs⟩ := h
  obtain ⟨hrlt, -⟩ := List.getElem?_eq_some_iff.1 hr
  obtain ⟨hslt, -⟩ := List.getElem?_eq_some_iff.1 hs
  rw [← Operator.evaluate_access, ← hop]
  simp [run, hoperands, Operands.toList, hr, hs, Nat.not_le.2 hrlt, Nat.not_le.2 hslt]

/-- A strict access has a result where the offset it reads lies within the array. -/
theorem Reads.exists_run_eq_ok_iff (h : ins.Reads registers offset xs)
    (hop : ins.op = .access .strict) :
    (∃ v, ins.run registers = .ok v) ↔ 0 ≤ offset.toInt ∧ offset.toInt < xs.length := by
  rw [← Operator.isSome_element?_iff, h.run_eq hop]
  cases hfound : Operator.element? offset xs <;> simp [Operator.accessWith, hfound, Except.map]

/-- Over registers that suit it an instruction fails only if it is a strict access that reads an
offset outside the array. -/
theorem run_eq_error {e : Error} (htyped : ins.isWellTyped (registers.map Value.type) = true)
    (h : ins.run registers = .error e) :
    ins.op = .access .strict ∧ ∃ offset xs, ins.Reads registers offset xs ∧
      (offset.toInt < 0 ∨ xs.length ≤ offset.toInt) ∧
      e = .indexOutOfRange offset.toInt xs.length := by
  have hno : ¬ ∃ v, ins.run registers = .ok v := by simp [h]
  have hop : ins.op = .access .strict :=
    Decidable.byContradiction fun hne => hno (exists_run_eq_ok htyped hne)
  obtain ⟨offset, xs, hreads⟩ := exists_reads hop htyped
  have hwithin := mt (hreads.exists_run_eq_ok_iff hop).2 hno
  refine ⟨hop, offset, xs, hreads, by omega, ?_⟩
  rw [hreads.run_eq hop] at h
  cases haccess : Operator.accessWith .strict offset xs with
  | ok n => simp [haccess, Except.map] at h
  | error e' =>
    obtain rfl : e' = e := by simpa [haccess, Except.map] using h
    exact (Operator.accessWith_eq_error haccess).2.2

/-- An instruction has a result where it is well typed and, if it is a strict access, the offset it
reads lies within the array. -/
theorem exists_run_eq_ok_iff :
    (∃ v, ins.run registers = .ok v) ↔
      ins.isWellTyped (registers.map Value.type) = true ∧
        (ins.op = .access .strict → ∃ offset xs, ins.Reads registers offset xs ∧
          0 ≤ offset.toInt ∧ offset.toInt < xs.length) := by
  constructor
  · rintro ⟨v, hv⟩
    have htyped := isWellTyped_of_run hv
    refine ⟨htyped, fun hop => ?_⟩
    obtain ⟨offset, xs, hreads⟩ := exists_reads hop htyped
    exact ⟨offset, xs, hreads, (hreads.exists_run_eq_ok_iff hop).1 ⟨v, hv⟩⟩
  · rintro ⟨htyped, hwithin⟩
    by_cases hop : ins.op = .access .strict
    · obtain ⟨offset, xs, hreads, hbounds⟩ := hwithin hop
      exact (hreads.exists_run_eq_ok_iff hop).2 hbounds
    · exact exists_run_eq_ok htyped hop

end Instruction

/-! ## Applying -/

namespace RegisterFile

variable {regs : RegisterFile} {ins : Instruction}

/-- An instruction is applied where it has a result over the visible registers. -/
theorem fst_apply_eq_ok_iff :
    (regs.apply ins).1 = .ok () ↔ ∃ v, ins.run regs.visible = .ok v := by
  rw [fst_apply]
  cases ins.run regs.visible <;> simp [Except.map]

/-- An instruction that is applied puts a register of its result's type on top. -/
theorem types_of_apply (h : (regs.apply ins).1 = .ok ()) :
    (regs.apply ins).2.types = regs.types ++ [ins.resultType] := by
  obtain ⟨v, hv⟩ := fst_apply_eq_ok_iff.1 h
  obtain ⟨retained, happly⟩ := regs.apply_eq ins
  rw [happly, hv]
  simp [types, visible, Instruction.run_type hv]

/-- **Typing decides what can be applied.** Whatever a register file holds and retains, an
instruction is applied exactly where it is well typed over the visible registers and, if it is a
strict access, the offset it reads lies within the array. The register it puts on top has the type
that the operator declares. -/
theorem apply_iff_isWellTyped (regs : RegisterFile) (ins : Instruction) :
    ((regs.apply ins).1 = .ok () ↔
      ins.isWellTyped regs.types = true ∧
        (ins.op = .access .strict → ∃ offset xs, ins.Reads regs.visible offset xs ∧
          0 ≤ offset.toInt ∧ offset.toInt < xs.length)) ∧
    ((regs.apply ins).1 = .ok () →
      (regs.apply ins).2.types = regs.types ++ [ins.op.signature.result]) :=
  ⟨fst_apply_eq_ok_iff.trans Instruction.exists_run_eq_ok_iff, types_of_apply⟩

/-- A result that was undone is retained, but no instruction can read it. -/
example :
    (((ofInputs [.int 1]).apply ⟨.scalar .increment, .one 0⟩).2.undo.2.apply
      ⟨.scalar .increment, .one 1⟩).1 = .error (.indexOutOfRange 1 1) := rfl

end RegisterFile

end ProgramSearch

/-
# ProgramSearch.Search.Listing -- every instruction there is to try

The instructions that suit registers of given types, in the order a search tries them: operator by
operator in rank order, and for each operator the registers in ascending order, those of a first
operand turning slower than those of a second. The listing is what the search is about; how a search
finds its way through it without forming it is the business of the cursor.
-/

import ProgramSearch.Catalog
import ProgramSearch.Run

namespace ProgramSearch

/-- The instructions of one operator over registers of the given types: of all registers that could
be bound, those that are well typed. -/
def Operator.instructions (op : Operator) (types : List Ty) : List Instruction :=
  let registers := List.range types.length
  let all := match op.signature.params with
    | .one _ => registers.map fun r => Instruction.mk op (.one r)
    | .two _ _ => registers.flatMap fun r => registers.map fun s => Instruction.mk op (.two r s)
  all.filter (·.isWellTyped types)

/-- The listing of an operator has all of its instructions that are well typed, and no others. -/
theorem Operator.mem_instructions {op : Operator} {types : List Ty} {ins : Instruction} :
    ins ∈ op.instructions types ↔ ins.op = op ∧ ins.isWellTyped types = true := by
  obtain ⟨op', operands⟩ := ins
  have hrange {r : Nat} {t : Ty} (hr : types[r]? = some t) : r ∈ List.range types.length :=
    List.mem_range.2 (List.getElem?_eq_some_iff.1 hr).1
  unfold Operator.instructions
  rw [List.mem_filter, and_congr_left_iff]
  intro htyped
  simp only [Instruction.isWellTyped, decide_eq_true_eq] at htyped
  cases hparams : op.signature.params with
  | one t =>
    constructor
    · intro hmem
      obtain ⟨r, -, heq⟩ := List.mem_map.1 hmem
      exact (Instruction.mk.inj heq).1.symm
    · rintro rfl
      cases operands with
      | one r =>
        have hr : types[r]? = some t := by simpa [hparams, Operands.map] using htyped
        exact List.mem_map.2 ⟨r, hrange hr, rfl⟩
      | two r s => simp [hparams, Operands.map] at htyped
  | two t u =>
    constructor
    · intro hmem
      obtain ⟨r, -, hrow⟩ := List.mem_flatMap.1 hmem
      obtain ⟨s, -, heq⟩ := List.mem_map.1 hrow
      exact (Instruction.mk.inj heq).1.symm
    · rintro rfl
      cases operands with
      | one r => simp [hparams, Operands.map] at htyped
      | two r s =>
        obtain ⟨hr, hs⟩ : types[r]? = some t ∧ types[s]? = some u := by
          simpa [hparams, Operands.map] using htyped
        exact List.mem_flatMap.2 ⟨r, hrange hr, List.mem_map.2 ⟨s, hrange hs, rfl⟩⟩

namespace Catalog

/-- The well-typed instructions over registers of the given types, in the order of the search. -/
def instructions (catalog : Catalog) (types : List Ty) : List Instruction :=
  catalog.operators.flatMap (·.instructions types)

theorem mem_instructions {catalog : Catalog} {types : List Ty} {ins : Instruction} :
    ins ∈ catalog.instructions types ↔
      ins.op ∈ catalog.operators ∧ ins.isWellTyped types = true := by
  simp only [instructions, List.mem_flatMap, Operator.mem_instructions]
  constructor
  · rintro ⟨op, hop, rfl, htyped⟩
    exact ⟨hop, htyped⟩
  · rintro ⟨hop, htyped⟩
    exact ⟨ins.op, hop, rfl, htyped⟩

/-- The programs that a search over inputs of the given types is to try: those that are not empty
and not too long, draw their operators from the catalog and are well typed. -/
structure Admits (catalog : Catalog) (types : List Ty) (maxLength : Nat)
    (steps : List Instruction) : Prop where
  nonempty : steps ≠ []
  length_le : steps.length ≤ maxLength
  operators : ∀ ins ∈ steps, ins.op ∈ catalog.operators
  wellTyped : Program.WellTyped types steps

/-- The first instruction of such a program is in the listing, and the others, if there are any, go
on from it. -/
theorem Admits.cons_cases {catalog : Catalog} {types : List Ty} {maxLength : Nat}
    {ins : Instruction} {rest : List Instruction}
    (h : catalog.Admits types (maxLength + 1) (ins :: rest)) :
    ins ∈ catalog.instructions types ∧
      (rest = [] ∨ catalog.Admits (types ++ [ins.resultType]) maxLength rest) := by
  obtain ⟨-, hlength, hoperators, hwellTyped⟩ := h
  cases hwellTyped with
  | cons hins hrest =>
    refine ⟨mem_instructions.2 ⟨hoperators ins List.mem_cons_self, hins⟩, ?_⟩
    by_cases hne : rest = []
    · exact .inl hne
    · refine .inr ⟨hne, Nat.le_of_succ_le_succ hlength, ?_, hrest⟩
      exact fun ins' hins' => hoperators ins' (List.mem_cons_of_mem ins hins')

/-- The number of well-typed programs that are not empty and have at most `length` instructions,
over inputs of the given types. -/
def programCount (catalog : Catalog) : Nat → List Ty → Nat
  | 0, _ => 0
  | length + 1, types =>
    (catalog.instructions types).foldr
      (fun ins count => 1 + catalog.programCount length (types ++ [ins.resultType]) + count) 0

end Catalog

end ProgramSearch

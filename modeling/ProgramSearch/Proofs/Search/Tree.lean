/-
# ProgramSearch.Proofs.Search.Tree -- the tree of programs

The programs over given inputs form a tree, and a node of it is found by its places: which of the
instructions of the listing comes first, which one of the listing after it comes next, and so on.
The nodes are the programs that a search is to try, each at the places of its instructions. An
operator that stands in a catalog twice has its instructions at two places each; otherwise a program
is at one node only.
-/

import Mathlib.Data.List.Nodup
import ProgramSearch.Proofs.Typing
import ProgramSearch.Search.Listing

namespace ProgramSearch

/-! ## Listings without repetitions -/

theorem Operator.nodup_instructions (op : Operator) (types : List Ty) :
    (op.instructions types).Nodup := by
  refine List.Nodup.filter _ ?_
  cases op.signature.params with
  | one t =>
    refine List.nodup_range.map ?_
    intro r s heq
    simpa using heq
  | two t u =>
    refine List.nodup_flatMap.2 ⟨fun r _ => List.nodup_range.map ?_, ?_⟩
    · intro s s' heq
      simpa using heq
    · -- rows differ in their first register
      refine List.nodup_range.imp fun {r r'} hne => ?_
      simp only [Function.onFun, List.disjoint_left, List.mem_map]
      rintro ins ⟨s, -, rfl⟩ ⟨s', -, heq⟩
      simp at heq
      exact hne heq.1.symm

namespace Catalog

variable {catalog : Catalog} {types : List Ty}

/-- Where no operator stands twice, no instruction is listed twice. -/
theorem nodup_instructions (h : catalog.operators.Nodup) (types : List Ty) :
    (catalog.instructions types).Nodup := by
  refine List.nodup_flatMap.2
    ⟨fun op _ => op.nodup_instructions types, h.imp fun {op op'} hne => ?_⟩
  simp only [Function.onFun, List.disjoint_left]
  intro ins hins hins'
  have hop := (Operator.mem_instructions.1 hins).1
  have hop' := (Operator.mem_instructions.1 hins').1
  exact hne (hop.symm.trans hop')

/-! ## Programs at places -/

/-- The places lead to the program: each is the place of the next instruction in the listing over
the registers that there are then. -/
inductive LeadTo (catalog : Catalog) : List Ty → List Nat → List Instruction → Prop where
  | nil {types : List Ty} : LeadTo catalog types [] []
  | cons {types : List Ty} {place : Nat} {places : List Nat} {ins : Instruction}
      {rest : List Instruction} :
      (catalog.instructions types)[place]? = some ins →
      LeadTo catalog (types ++ [ins.resultType]) places rest →
      LeadTo catalog types (place :: places) (ins :: rest)

variable {places places' : List Nat} {steps : List Instruction}

/-- One place more leads to one instruction more. -/
theorem LeadTo.append {place : Nat} {ins : Instruction} (h : catalog.LeadTo types places steps)
    (hins : (catalog.instructions (Program.typesFrom types steps))[place]? = some ins) :
    catalog.LeadTo types (places ++ [place]) (steps ++ [ins]) := by
  induction h with
  | nil => exact .cons (by simpa [Program.typesFrom] using hins) .nil
  | @cons types first places head rest hhead _ ih =>
    refine .cons hhead (ih ?_)
    simpa [Program.typesFrom] using hins

/-- The programs of the tree are the well-typed ones over the catalog. -/
theorem exists_leadTo_iff :
    (∃ places, catalog.LeadTo types places steps) ↔
      Program.WellTyped types steps ∧ ∀ ins ∈ steps, ins.op ∈ catalog.operators := by
  constructor
  · rintro ⟨places, h⟩
    induction h with
    | nil => exact ⟨.nil, by simp⟩
    | @cons types place places ins rest hins _ ih =>
      obtain ⟨hop, htyped⟩ := mem_instructions.1 (List.mem_of_getElem? hins)
      exact ⟨.cons htyped ih.1, List.forall_mem_cons.2 ⟨hop, ih.2⟩⟩
  · rintro ⟨htyped, hoperators⟩
    induction htyped with
    | nil => exact ⟨[], .nil⟩
    | @cons types ins rest hins _ ih =>
      obtain ⟨hop, hrest⟩ := List.forall_mem_cons.1 hoperators
      obtain ⟨place, hplace⟩ := List.getElem?_of_mem (mem_instructions.2 ⟨hop, hins⟩)
      obtain ⟨places, hplaces⟩ := ih hrest
      exact ⟨place :: places, .cons hplace hplaces⟩

theorem LeadTo.length_eq (h : catalog.LeadTo types places steps) :
    steps.length = places.length := by
  induction h with
  | nil => rfl
  | cons _ _ ih => exact congrArg Nat.succ ih

/-- The program at a node is one that a search is to try. -/
theorem LeadTo.admits {maxLength : Nat} (h : catalog.LeadTo types places steps) (hne : places ≠ [])
    (hlength : places.length ≤ maxLength) : catalog.Admits types maxLength steps := by
  obtain ⟨hwellTyped, hoperators⟩ := exists_leadTo_iff.1 ⟨places, h⟩
  refine ⟨?_, h.length_eq ▸ hlength, hoperators, hwellTyped⟩
  rintro rfl
  exact hne (List.eq_nil_of_length_eq_zero h.length_eq.symm)

/-- Where no operator stands twice, a program is at one node only. -/
theorem LeadTo.places_eq (hnodup : catalog.operators.Nodup)
    (h : catalog.LeadTo types places steps) (h' : catalog.LeadTo types places' steps) :
    places' = places := by
  induction h generalizing places' with
  | nil =>
    cases h'
    rfl
  | cons hins _ ih =>
    cases h' with
    | @cons _ place' places' _ _ hins' hrest' =>
      obtain ⟨hlt, -⟩ := List.getElem?_eq_some_iff.1 hins
      have hplace := (List.getElem?_inj hlt (nodup_instructions hnodup _)).1 (hins.trans hins'.symm)
      rw [hplace, ih hrest']

/-! ## The nodes of the tree -/

/-- The places of the programs that are not empty and have at most `length` instructions, each
before those of the programs that begin with it. -/
def nodes (catalog : Catalog) : Nat → List Ty → List (List Nat)
  | 0, _ => []
  | length + 1, types =>
    (catalog.instructions types).zipIdx.flatMap fun (ins, place) =>
      [place] :: (catalog.nodes length (types ++ [ins.resultType])).map (place :: ·)

/-- The nodes are the places that lead to programs of these lengths. -/
theorem mem_nodes {length : Nat} :
    places ∈ catalog.nodes length types ↔
      places ≠ [] ∧ places.length ≤ length ∧ ∃ steps, catalog.LeadTo types places steps := by
  induction length generalizing types places with
  | zero =>
    simp only [nodes, List.not_mem_nil, false_iff]
    rintro ⟨hne, hlength, -⟩
    exact hne (List.eq_nil_of_length_eq_zero (Nat.le_zero.1 hlength))
  | succ length ih =>
    simp only [nodes, List.mem_flatMap, Prod.exists, List.mk_mem_zipIdx_iff_getElem?,
      List.mem_cons, List.mem_map]
    constructor
    · rintro ⟨ins, place, hins, rfl | ⟨rest, hrest, rfl⟩⟩
      · exact ⟨by simp, by simp, [ins], .cons hins .nil⟩
      · obtain ⟨-, hlength, steps, hsteps⟩ := ih.1 hrest
        exact ⟨by simp, by simpa using hlength, ins :: steps, .cons hins hsteps⟩
    · rintro ⟨hne, hlength, steps, hsteps⟩
      cases hsteps with
      | nil => exact absurd rfl hne
      | @cons _ place rest ins steps hins hsteps =>
        refine ⟨ins, place, hins, ?_⟩
        by_cases hrest : rest = []
        · exact .inl (by rw [hrest])
        · have hrest' := ih.2 ⟨hrest, Nat.le_of_succ_le_succ hlength, steps, hsteps⟩
          exact .inr ⟨rest, hrest', rfl⟩

/-- The nodes are listed in the order of their places, so each of them once. -/
theorem pairwise_nodes (length : Nat) (types : List Ty) :
    (catalog.nodes length types).Pairwise (List.Lex (· < ·)) := by
  induction length generalizing types with
  | zero => exact .nil
  | succ length ih =>
    refine List.pairwise_flatMap.2 ⟨?_, ?_⟩
    · -- the nodes that begin at one place
      rintro ⟨ins, place⟩ -
      refine List.pairwise_cons.2 ⟨?_, List.pairwise_map.2 ((ih _).imp .cons)⟩
      intro places hplaces
      obtain ⟨rest, hrest, rfl⟩ := List.mem_map.1 hplaces
      obtain ⟨next, rest, rfl⟩ := List.exists_cons_of_ne_nil (mem_nodes.1 hrest).1
      exact .cons .nil
    · have hsorted : ((catalog.instructions types).zipIdx.map Prod.snd).Pairwise (· < ·) := by
        rw [List.zipIdx_map_snd]
        exact List.pairwise_lt_range'
      refine (List.pairwise_map.1 hsorted).imp ?_
      rintro ⟨ins, place⟩ ⟨ins', place'⟩ hlt places hplaces places' hplaces'
      have hhead {ins : Instruction} {place : Nat} {places : List Nat}
          (h : places ∈ [place] ::
            (catalog.nodes length (types ++ [ins.resultType])).map (place :: ·)) :
          ∃ rest, places = place :: rest := by
        rcases List.mem_cons.1 h with rfl | h
        · exact ⟨[], rfl⟩
        · obtain ⟨rest, -, rfl⟩ := List.mem_map.1 h
          exact ⟨rest, rfl⟩
      obtain ⟨rest, rfl⟩ := hhead hplaces
      obtain ⟨rest', rfl⟩ := hhead hplaces'
      exact .rel hlt

theorem nodup_nodes (length : Nat) (types : List Ty) : (catalog.nodes length types).Nodup := by
  refine (pairwise_nodes length types).imp ?_
  rintro places places' hlt rfl
  exact List.lt_irrefl _ hlt

/-- There are as many nodes as there are programs. -/
theorem length_nodes (length : Nat) (types : List Ty) :
    (catalog.nodes length types).length = catalog.programCount length types := by
  induction length generalizing types with
  | zero => rfl
  | succ length ih =>
    rw [nodes, programCount]
    generalize catalog.instructions types = listing
    -- the places may begin anywhere
    suffices h : ∀ first, ((listing.zipIdx first).flatMap fun (ins, place) =>
        [place] :: (catalog.nodes length (types ++ [ins.resultType])).map (place :: ·)).length =
        listing.foldr (fun ins count =>
          1 + catalog.programCount length (types ++ [ins.resultType]) + count) 0 from h 0
    induction listing with
    | nil => exact fun _ => rfl
    | cons ins rest ihrest =>
      intro first
      rw [List.zipIdx_cons, List.flatMap_cons, List.length_append, ihrest, List.foldr_cons,
        List.length_cons, List.length_map, ih, Nat.add_comm 1]

end Catalog

end ProgramSearch

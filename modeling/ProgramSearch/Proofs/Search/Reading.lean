/-
# ProgramSearch.Proofs.Search.Reading -- a cursor under any history

A cursor can be set to other registers, asked for the instruction at any position and moved on, in
any order, and the marks it works with depend on all of that. What its history comes to is
`Cursor.Served`: the types it was last set to, and how many instructions it has handed out since.
The main statement is that these two decide every answer, which is the one that the written-out
listing over these types gives.
-/

import ProgramSearch.Proofs.Search.Standing

namespace ProgramSearch.Cursor

/-- The cursors that requests in any order lead to. With a cursor go the types it was last set to,
which are none at first, and the number of instructions it has handed out since. -/
inductive Served (catalog : Catalog) : List Ty → Nat → Cursor → Prop where
  | new : Served catalog [] 0 (start catalog [])
  | reset {types : List Ty} {count : Nat} {cursor : Cursor} (types' : List Ty) :
      Served catalog types count cursor → Served catalog types' 0 (cursor.reset types')
  /-- A cursor can be set to the registers that a set of examples shows. -/
  | init {types : List Ty} {count : Nat} {cursor : Cursor} (examples : ExampleSet) :
      Served catalog types count cursor →
      Served catalog examples.types 0 (cursor.reset examples.types)
  | lookUp {types : List Ty} {count : Nat} {cursor : Cursor} (position : Nat) :
      Served catalog types count cursor →
      Served catalog types count (cursor.lookUp position).2
  /-- Moving on hands out an instruction. -/
  | served {types : List Ty} {count : Nat} {cursor cursor' : Cursor} {ins : Instruction} :
      Served catalog types count cursor → cursor.next = (some ins, cursor') →
      Served catalog types (count + 1) cursor'
  /-- Moving on at the end hands out none. -/
  | ended {types : List Ty} {count : Nat} {cursor cursor' : Cursor} :
      Served catalog types count cursor → cursor.next = (none, cursor') →
      Served catalog types count cursor'

variable {catalog : Catalog} {types : List Ty} {count : Nat} {cursor cursor' : Cursor}

/-! ## What every request keeps -/

/-- The cursor moves along the listing over the given types and has come so far in it. -/
structure StandsIn (catalog : Catalog) (types : List Ty) (count : Nat) (cursor : Cursor) :
    Prop where
  isOver : cursor.IsOver catalog types
  position : cursor.position = count
  count_le : count ≤ (catalog.instructions types).length

theorem standsIn_reset (h : cursor.catalog = catalog) (types : List Ty) :
    StandsIn catalog types 0 (cursor.reset types) :=
  ⟨⟨h, rfl⟩, rfl, Nat.zero_le _⟩

/-- An instruction is handed out only where the listing has one, and the cursor goes past it. -/
theorem StandsIn.next_some {ins : Instruction} (h : StandsIn catalog types count cursor)
    (hnext : cursor.next = (some ins, cursor')) : StandsIn catalog types (count + 1) cursor' := by
  obtain ⟨hfound, -, -, hposition⟩ := next_eq hnext
  rw [h.isOver.listing, h.position] at hfound
  obtain ⟨hlt, -⟩ := List.getElem?_eq_some_iff.1 hfound.symm
  exact ⟨h.isOver.next hnext, by rw [hposition, h.position]; rfl, hlt⟩

theorem StandsIn.next_none (h : StandsIn catalog types count cursor)
    (hnext : cursor.next = (none, cursor')) : StandsIn catalog types count cursor' := by
  obtain ⟨-, -, -, hposition⟩ := next_eq hnext
  exact ⟨h.isOver.next hnext, hposition.trans h.position, h.count_le⟩

theorem Served.standsIn (h : Served catalog types count cursor) :
    StandsIn catalog types count cursor := by
  induction h with
  | new => exact ⟨⟨rfl, rfl⟩, rfl, Nat.zero_le _⟩
  | reset types' _ ih => exact standsIn_reset ih.isOver.catalog types'
  | init examples _ ih => exact standsIn_reset ih.isOver.catalog examples.types
  | lookUp position _ ih => exact ⟨⟨ih.isOver.catalog, ih.isOver.types⟩, ih.position, ih.count_le⟩
  | served _ hnext ih => exact ih.next_some hnext
  | ended _ hnext ih => exact ih.next_none hnext

/-! ## The answers -/

/-- The cursor answers as one who reads from the given listing and has read `count` of it. -/
structure Reads (listing : List Instruction) (count : Nat) (cursor : Cursor) : Prop where
  position : cursor.position = count
  /-- Any position can be asked for, and asking does not move the cursor. -/
  lookUp : ∀ p, (cursor.lookUp p).1 = listing[p]? ∧ (cursor.lookUp p).2.position = count
  /-- Moving on gives the next instruction of the listing. -/
  next : ∀ h : count < listing.length,
    ∃ cursor', cursor.next = (some listing[count], cursor') ∧ cursor'.position = count + 1
  /-- At the end the cursor stays. -/
  ended : listing.length ≤ count →
    ∃ cursor', cursor.next = (none, cursor') ∧ cursor'.position = listing.length
  total : cursor.total = listing.length

/-- **Cursors read the listing.** Whatever a cursor was asked before, it reads the listing over the
types it was last set to, from where it has come to since. -/
theorem reads_of_served (h : Served catalog types count cursor) :
    cursor.Reads (catalog.instructions types) count := by
  have hstands := h.standsIn
  rcases hnext : cursor.next with ⟨ins?, cursor'⟩
  obtain ⟨hfound, -, -, hposition⟩ := next_eq hnext
  rw [hstands.isOver.listing, hstands.position] at hfound
  rw [hstands.position] at hposition
  refine ⟨hstands.position, ?_, ?_, ?_, ?_⟩
  · intro p
    refine ⟨?_, hstands.position⟩
    rw [lookUp_fst, hstands.isOver.listing]
  · intro hlt
    rw [List.getElem?_eq_getElem hlt] at hfound
    subst hfound
    exact ⟨cursor', hnext, hposition⟩
  · intro hle
    rw [List.getElem?_eq_none hle] at hfound
    subst hfound
    exact ⟨cursor', hnext, hposition.trans (Nat.le_antisymm hstands.count_le hle)⟩
  · rw [total_eq_length, hstands.isOver.listing]

/-- A cursor over a catalog with an operator twice: past the end of nothing, then set to an integer
and an array, asked for what comes last and moved on by one. -/
theorem reads_of_repeated_sort :
    ∃ cursor, Served ⟨[.sort, .take, .sort]⟩ [.int, .array] 1 cursor ∧
      cursor.Reads [⟨.sort, .one 1⟩, ⟨.take, .two 0 1⟩, ⟨.sort, .one 1⟩] 1 := by
  have hended : Served ⟨[.sort, .take, .sort]⟩ [] 0 _ := .ended .new rfl
  have hserved := Served.served (.lookUp 2 (hended.reset [.int, .array])) rfl
  exact ⟨_, hserved, reads_of_served hserved⟩

end ProgramSearch.Cursor

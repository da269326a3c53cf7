/-
# ProgramSearch.Search.Cursor -- a place in the listing of instructions

A cursor stands at a position of the listing of well-typed instructions and can be moved on, one
instruction at a time. It never forms the listing: the instruction at a position is found by
skipping the operators whose instructions all lie before it, and then by division, since the
instructions of an operator are the rows and columns of a table of registers. Where the instructions
of an operator stop is marked once a look-up has passed them, so that the next one skips the
operator without counting. The main statement, `Cursor.lookUp_fst`, says that this reads the
listing, whatever look-ups came before.
-/

import ProgramSearch.Search.Listing

namespace ProgramSearch

/-! ## Registers by type -/

/-- The registers that hold integers and those that hold arrays, each in ascending order. -/
structure Bank where
  ints : Array Nat
  arrays : Array Nat
  deriving DecidableEq, Repr

namespace Bank

/-- The registers of one type. -/
def registers (types : List Ty) (type : Ty) : List Nat :=
  (List.range types.length).filter fun r => types[r]? = some type

/-- Registers of the given types, sorted by type. -/
def ofTypes (types : List Ty) : Bank :=
  ⟨(registers types .int).toArray, (registers types .array).toArray⟩

/-- The registers of a type. -/
def of (bank : Bank) : Ty → Array Nat
  | .int => bank.ints
  | .array => bank.arrays

/-- The number of ways to choose registers for parameters. -/
def count (bank : Bank) : Operands Ty → Nat
  | .one t => (bank.of t).size
  | .two t u => (bank.of t).size * (bank.of u).size

/-- The `k`-th way to choose registers for parameters: row and column of a table whose rows are the
choices for a first parameter. -/
def choose? (bank : Bank) : Operands Ty → Nat → Option (Operands Nat)
  | .one t, k => (bank.of t)[k]?.map .one
  | .two t u, k =>
    let columns := (bank.of u).size
    match (bank.of t)[k / columns]?, (bank.of u)[k % columns]? with
    | some r, some s => some (.two r s)
    | _, _ => none

/-- The instruction at a position, among those of the given operators and of the ones before them,
which have `offset` instructions. For each operator there is a mark: the number of instructions up
to and including its own, where a look-up has come past it. An operator with a mark that is not
beyond the position is skipped; the others are counted, and those that lie before the position are
marked. -/
def locate (bank : Bank) (position : Nat) :
    List Operator → List (Option Nat) → (offset : Nat) → Option Instruction × List (Option Nat)
  | op :: ops, mark :: marks, offset =>
    match mark.filter (· ≤ position) with
    | some stop =>
      let (found, marks) := bank.locate position ops marks stop
      (found, mark :: marks)
    | none =>
      let stop := offset + bank.count op.signature.params
      if position < stop then
        ((bank.choose? op.signature.params (position - offset)).map (.mk op), mark :: marks)
      else
        let (found, marks) := bank.locate position ops marks stop
        (found, some stop :: marks)
  | _, marks, _ => (none, marks)

/-- There is a mark for each operator, and those that are set are right. -/
inductive Marked (bank : Bank) : List Operator → (offset : Nat) → List (Option Nat) → Prop where
  | nil {offset : Nat} : Marked bank [] offset []
  | cons {op : Operator} {ops : List Operator} {offset : Nat} {mark : Option Nat}
      {marks : List (Option Nat)} :
      (∀ stop, mark = some stop → stop = offset + bank.count op.signature.params) →
      Marked bank ops (offset + bank.count op.signature.params) marks →
      Marked bank (op :: ops) offset (mark :: marks)

/-- Marks that are not set are right. -/
theorem marked_none (bank : Bank) (ops : List Operator) (offset : Nat) :
    Marked bank ops offset (ops.map fun _ => none) := by
  induction ops generalizing offset with
  | nil => exact .nil
  | cons op ops ih => exact .cons (by simp) (ih _)

/-- The marks that a look-up leaves are right. -/
theorem Marked.locate {bank : Bank} {ops : List Operator} {offset : Nat}
    {marks : List (Option Nat)} (h : Marked bank ops offset marks) (position : Nat) :
    Marked bank ops offset (bank.locate position ops marks offset).2 := by
  induction h with
  | nil => exact .nil
  | @cons op ops offset mark marks hmark hrest ih =>
    unfold Bank.locate
    split
    · rename_i stop hstop
      obtain ⟨hset, -⟩ := Option.filter_eq_some_iff.1 hstop
      rw [hmark stop hset]
      exact .cons hmark ih
    · dsimp only
      split
      · exact .cons hmark hrest
      · refine .cons ?_ ih
        rintro stop ⟨⟩
        rfl

end Bank

/-! ## Cursors -/

/-- A position in the listing of a catalog over registers of some types. -/
structure Cursor where
  catalog : Catalog
  types : List Ty
  /-- The registers sorted by type. -/
  bank : Bank
  /-- For each operator of the catalog, where its instructions stop, if that is known. -/
  marks : List (Option Nat)
  position : Nat
  bank_eq : bank = Bank.ofTypes types
  marked : bank.Marked catalog.operators 0 marks
  deriving DecidableEq, Repr

namespace Cursor

/-- The cursor before the first instruction. -/
def start (catalog : Catalog) (types : List Ty) : Cursor where
  catalog := catalog
  types := types
  bank := .ofTypes types
  marks := catalog.operators.map fun _ => none
  position := 0
  bank_eq := rfl
  marked := Bank.marked_none _ _ _

/-- The cursor before the first instruction over other registers: position and marks are dropped. -/
def reset (cursor : Cursor) (types : List Ty) : Cursor := start cursor.catalog types

/-- The instruction at any position, and the cursor with the marks that finding it has set. -/
def lookUp (cursor : Cursor) (position : Nat) : Option Instruction × Cursor :=
  let found := cursor.bank.locate position cursor.catalog.operators cursor.marks 0
  (found.1, { cursor with marks := found.2, marked := cursor.marked.locate position })

/-- The instruction at any position, for a reader that does not keep the marks. -/
def at? (cursor : Cursor) (position : Nat) : Option Instruction := (cursor.lookUp position).1

/-- The instruction the cursor stands at, and the cursor after it. At the end of the listing there
is none, and the cursor stays. -/
def next (cursor : Cursor) : Option Instruction × Cursor :=
  match cursor.lookUp cursor.position with
  | (some ins, cursor) => (some ins, { cursor with position := cursor.position + 1 })
  | (none, cursor) => (none, cursor)

/-- The number of instructions in the listing. -/
def total (cursor : Cursor) : Nat :=
  cursor.catalog.operators.foldr (fun op count => cursor.bank.count op.signature.params + count) 0

/-- The instructions from the cursor on, at most `limit` of them, and the cursor after them. -/
def takeNext (cursor : Cursor) : Nat → List Instruction × Cursor
  | 0 => ([], cursor)
  | limit + 1 =>
    match cursor.next with
    | (none, cursor) => ([], cursor)
    | (some ins, cursor) =>
      let (rest, cursor) := cursor.takeNext limit
      (ins :: rest, cursor)

/-- The cursor over the registers there are after an instruction. -/
def after (cursor : Cursor) (ins : Instruction) : Cursor :=
  start cursor.catalog (cursor.types ++ [ins.resultType])

end Cursor

/-! ## The table of an operator -/

namespace Bank

/-- The element at a place of a table that is listed row by row. -/
theorem getElem?_flatMap_map {α β γ : Type} (f : α → β → γ) (xs : List α) (ys : List β)
    (k : Nat) :
    (xs.flatMap fun x => ys.map (f x))[k]? =
      match xs[k / ys.length]?, ys[k % ys.length]? with
      | some x, some y => some (f x y)
      | _, _ => none := by
  induction xs generalizing k with
  | nil => simp
  | cons x xs ih =>
    rw [List.flatMap_cons, List.getElem?_append, List.length_map]
    by_cases h : k < ys.length
    · simp [h, Nat.div_eq_of_lt h, Nat.mod_eq_of_lt h]
    · rw [if_neg h, ih]
      rcases Nat.eq_zero_or_pos ys.length with h0 | h0
      · have hy : ys = [] := List.eq_nil_of_length_eq_zero h0
        subst hy
        simp
      · have hk : k / ys.length = (k - ys.length) / ys.length + 1 := by
          rw [← Nat.div_eq_sub_div h0 (Nat.le_of_not_lt h)]
        have hm : k % ys.length = (k - ys.length) % ys.length :=
          Nat.mod_eq_sub_mod (Nat.le_of_not_lt h)
        rw [hk, hm, List.getElem?_cons_succ]

/-- Keeping the places of a table where both row and column pass is keeping rows and columns. -/
theorem filter_flatMap_map {α β γ : Type} (f : α → β → γ) (p : α → Bool) (q : β → Bool)
    (good : γ → Bool) (h : ∀ x y, good (f x y) = (p x && q y)) (xs : List α) (ys : List β) :
    (xs.flatMap fun x => ys.map (f x)).filter good =
      (xs.filter p).flatMap fun x => (ys.filter q).map (f x) := by
  have row (x : α) : (ys.map (f x)).filter good = if p x then (ys.filter q).map (f x) else [] := by
    rw [List.filter_map]
    cases hp : p x <;> simp [Function.comp_def, h, hp]
  induction xs with
  | nil => rfl
  | cons x xs ih =>
    rw [List.flatMap_cons, List.filter_append, ih, row, List.filter_cons]
    cases p x <;> simp

/-- The table of registers for an operator's parameters, row by row. -/
def choices (types : List Ty) : Operands Ty → List (Operands Nat)
  | .one t => (registers types t).map .one
  | .two t u => (registers types t).flatMap fun r => (registers types u).map (.two r)

theorem of_ofTypes (types : List Ty) (t : Ty) :
    (ofTypes types).of t = (registers types t).toArray := by
  cases t <;> rfl

theorem choose?_ofTypes (types : List Ty) (params : Operands Ty) (k : Nat) :
    (ofTypes types).choose? params k = (choices types params)[k]? := by
  cases params with
  | one t => simp [choose?, choices, of_ofTypes]
  | two t u =>
    simp only [choose?, choices, of_ofTypes, List.getElem?_toArray, List.size_toArray]
    rw [getElem?_flatMap_map]
    cases (registers types t)[k / (registers types u).length]? <;>
      cases (registers types u)[k % (registers types u).length]? <;> rfl

theorem count_ofTypes (types : List Ty) (params : Operands Ty) :
    (ofTypes types).count params = (choices types params).length := by
  cases params with
  | one t => simp [count, choices, of_ofTypes]
  | two t u =>
    simp only [count, choices, of_ofTypes, List.size_toArray]
    induction registers types t with
    | nil => simp
    | cons r rs ih =>
      rw [List.flatMap_cons, List.length_append, ← ih, List.length_cons, List.length_map,
        Nat.succ_mul, Nat.add_comm]

/-- The instructions of an operator are the choices of registers for its parameters. -/
theorem instructions_eq_map_choices (op : Operator) (types : List Ty) :
    op.instructions types = (choices types op.signature.params).map (.mk op) := by
  unfold Operator.instructions
  cases h : op.signature.params with
  | one t =>
    simp [choices, registers, List.filter_map, Function.comp_def, Instruction.isWellTyped, h,
      Operands.map]
  | two t u =>
    simp only [choices, registers, List.map_flatMap, List.map_map]
    refine (filter_flatMap_map (fun r s => Instruction.mk op (.two r s)) _ _ _ ?_ _ _).trans rfl
    intro r s
    simp [Instruction.isWellTyped, h, Operands.map]

end Bank

/-! ## The cursor reads the listing -/

/-- Whatever marks are set, as long as they are right, the instruction found at a position is the
one that the listing has there. -/
theorem Bank.locate_fst {types : List Ty} {ops : List Operator} {offset : Nat}
    {marks : List (Option Nat)} (h : Marked (ofTypes types) ops offset marks) {position : Nat}
    (hpos : offset ≤ position) :
    ((ofTypes types).locate position ops marks offset).1 =
      (ops.flatMap (·.instructions types))[position - offset]? := by
  induction h with
  | nil => simp [Bank.locate]
  | @cons op ops offset mark marks hmark hrest ih =>
    have hcount : (ofTypes types).count op.signature.params = (op.instructions types).length := by
      rw [count_ofTypes, instructions_eq_map_choices, List.length_map]
    rw [List.flatMap_cons, List.getElem?_append, ← hcount]
    unfold Bank.locate
    split
    · rename_i stop hstop
      obtain ⟨hset, hle⟩ := Option.filter_eq_some_iff.1 hstop
      obtain rfl := hmark stop hset
      have hle : offset + (ofTypes types).count op.signature.params ≤ position := by simpa using hle
      rw [if_neg (by omega), ← Nat.sub_add_eq]
      exact ih hle
    · dsimp only
      split
      · rw [if_pos (by omega), choose?_ofTypes, instructions_eq_map_choices, List.getElem?_map]
      · rw [if_neg (by omega), ← Nat.sub_add_eq]
        exact ih (by omega)

namespace Cursor

/-- The instructions that the cursor moves along. -/
def listing (cursor : Cursor) : List Instruction := cursor.catalog.instructions cursor.types

/-- Counting the choices of registers for every operator counts the listing. -/
theorem total_eq_length (cursor : Cursor) : cursor.total = cursor.listing.length := by
  rw [total, listing, cursor.bank_eq, Catalog.instructions]
  induction cursor.catalog.operators with
  | nil => rfl
  | cons op ops ih =>
    rw [List.foldr_cons, ih, List.flatMap_cons, List.length_append, Bank.count_ofTypes,
      Bank.instructions_eq_map_choices, List.length_map]

/-- The instruction a cursor finds at a position is the one the listing has there. -/
theorem lookUp_fst (cursor : Cursor) (position : Nat) :
    (cursor.lookUp position).1 = cursor.listing[position]? := by
  have hmarked := cursor.marked
  simp only [lookUp, cursor.bank_eq] at hmarked ⊢
  exact Bank.locate_fst hmarked (Nat.zero_le position)

@[simp] theorem lookUp_catalog (cursor : Cursor) (position : Nat) :
    (cursor.lookUp position).2.catalog = cursor.catalog := rfl

@[simp] theorem lookUp_types (cursor : Cursor) (position : Nat) :
    (cursor.lookUp position).2.types = cursor.types := rfl

@[simp] theorem lookUp_position (cursor : Cursor) (position : Nat) :
    (cursor.lookUp position).2.position = cursor.position := rfl

/-- What moving on comes to: the instruction at the position, and the position after it. -/
theorem next_eq {cursor cursor' : Cursor} {ins? : Option Instruction}
    (h : cursor.next = (ins?, cursor')) :
    ins? = cursor.listing[cursor.position]? ∧ cursor'.catalog = cursor.catalog ∧
      cursor'.types = cursor.types ∧
      cursor'.position = if ins?.isSome then cursor.position + 1 else cursor.position := by
  rw [← lookUp_fst]
  unfold next at h
  split at h
  all_goals
    rename_i hlook
    have hfst := congrArg Prod.fst hlook
    have hsnd := congrArg Prod.snd hlook
    obtain ⟨rfl, rfl⟩ := Prod.mk.inj h
    simp only at hfst hsnd
    subst hsnd
    simp [hfst]

/-! ## What lies ahead of a cursor -/

/-- The number of programs still ahead of a cursor: those that begin with an instruction from its
position on and go on with at most `below` more. -/
def ahead (cursor : Cursor) (below : Nat) : Nat :=
  (cursor.listing.drop cursor.position).foldr (fun ins count =>
    1 + cursor.catalog.programCount below (cursor.types ++ [ins.resultType]) + count) 0

theorem ahead_start (catalog : Catalog) (types : List Ty) (below : Nat) :
    (start catalog types).ahead below = catalog.programCount (below + 1) types := rfl

/-- Moving on takes the programs that begin with the instruction passed from what lies ahead. -/
theorem ahead_of_next {cursor cursor' : Cursor} {ins : Instruction}
    (h : cursor.next = (some ins, cursor')) (below : Nat) :
    cursor.ahead below =
      1 + cursor.catalog.programCount below (cursor.types ++ [ins.resultType]) +
        cursor'.ahead below := by
  obtain ⟨hfound, hcatalog, htypes, hposition⟩ := next_eq h
  obtain ⟨hlt, hget⟩ := List.getElem?_eq_some_iff.1 hfound.symm
  have hlisting : cursor'.listing = cursor.listing := by rw [listing, listing, hcatalog, htypes]
  unfold ahead
  rw [List.drop_eq_getElem_cons hlt, hget, List.foldr_cons, hcatalog, htypes, hlisting, hposition]
  rfl

end Cursor

end ProgramSearch

/-
# ProgramSearch.Proofs.Allocation -- the row of slots grows on first descent only

A register file lies in a row of slots, and every act on the registers is made on the row, where no
slot is ever missing. The length of the row is a high-water mark: over the inputs it has as many
slots as the greatest depth that a result was to be written at, whether or not one was written. A
slot is added exactly where an instruction over visible registers is applied, or fails, at a depth
where none was before; undoing and resetting only move the mark that the next result goes to.
-/

import ProgramSearch.SlotRow
import ProgramSearch.Proofs.Stack

namespace ProgramSearch

variable {regs : RegisterFile} {ins : Instruction}

namespace RegisterFile

/-! ## Slots for results -/

/-- Whether all operands of an instruction are visible registers. -/
def sees (regs : RegisterFile) (ins : Instruction) : Bool :=
  ins.operands.toList.all (· < regs.used)

theorem sees_iff : regs.sees ins = true ↔ ins.operands.toList.find? (regs.used ≤ ·) = none := by
  simp [sees, List.find?_eq_none]

/-- All operands of an instruction over visible registers have a value. -/
theorem run_of_sees (h : regs.sees ins = true) :
    ins.run regs.visible =
      ins.op.evaluate (ins.operands.toList.filterMap (regs.visible[·]?)) := by
  have hfind := sees_iff.1 h
  rw [used_eq_length] at hfind
  rw [Instruction.run, hfind]

/-- An instruction over visible registers has a slot for its result, and keeps it if it fails. -/
theorem apply_of_sees (h : regs.sees ins = true) :
    regs.apply ins =
      match ins.run regs.visible with
      | .ok v => (.ok (), ⟨regs.inputs, v :: regs.results, regs.nextSlot.2⟩)
      | .error e =>
        (.error e, ⟨regs.inputs, regs.results, regs.nextSlot.1 :: regs.nextSlot.2⟩) := by
  have hfind := sees_iff.1 h
  rw [used_eq_length] at hfind
  unfold apply
  rw [run_of_sees h, mapM_get, hfind]
  simp only [Operator.evaluateInto_eq]
  cases ins.op.evaluate (ins.operands.toList.filterMap (regs.visible[·]?)) <;> rfl

/-- An operand that is not visible is refused before anything else, the first of them. -/
theorem apply_of_not_sees (h : regs.sees ins = false) :
    ∃ r, ins.operands.toList.find? (regs.used ≤ ·) = some r ∧
      regs.apply ins = (.error (.pastEnd r regs.used), regs) := by
  cases hfind : ins.operands.toList.find? (regs.used ≤ ·) with
  | none => simp [sees_iff.2 hfind] at h
  | some r =>
    refine ⟨r, rfl, ?_⟩
    rw [used_eq_length] at hfind
    unfold apply
    rw [mapM_get, hfind, used_eq_length]

/-- The slot for the next result is a retained one, or is new if there is none. -/
theorem length_nextSlot (regs : RegisterFile) :
    regs.nextSlot.2.length + 1 = max regs.retained.length 1 := by
  unfold nextSlot
  cases regs.retained with
  | nil => rfl
  | cons slot above => simp

end RegisterFile

/-! ## Registers in a row -/

namespace SlotRow

/-- The row that a register file lies in: the visible registers, and the retained slots behind
them. -/
def ofRegisters (regs : RegisterFile) : SlotRow :=
  ⟨regs.visible ++ regs.retained, regs.inputs.length, regs.used⟩

theorem ofInputs_eq (inputs : List Value) : ofInputs inputs = ofRegisters (.ofInputs inputs) := by
  simp [ofInputs, ofRegisters, RegisterFile.ofInputs, RegisterFile.visible, RegisterFile.used]

theorem length_slots (regs : RegisterFile) : (ofRegisters regs).slots.length = regs.allocated := by
  rw [ofRegisters, List.length_append, ← RegisterFile.used_eq_length, RegisterFile.allocated]

theorem grown_ofRegisters (regs : RegisterFile) :
    (ofRegisters regs).grown =
      ⟨regs.visible ++ regs.nextSlot.1 :: regs.nextSlot.2, regs.inputs.length, regs.used⟩ := by
  unfold grown RegisterFile.nextSlot
  rw [length_slots, RegisterFile.allocated, ofRegisters]
  cases regs.retained with
  | nil => simp
  | cons slot above => simp

/-- Places that a list has can be read one after the other. -/
theorem mapM_getElem? {xs : List Value} {places : List Nat} (h : ∀ i ∈ places, i < xs.length) :
    places.mapM (xs[·]?) = some (places.filterMap (xs[·]?)) := by
  induction places with
  | nil => rfl
  | cons i rest ih =>
    obtain ⟨hi, hrest⟩ := List.forall_mem_cons.1 h
    rw [List.mapM_cons, ih hrest, List.filterMap_cons, List.getElem?_eq_getElem hi]
    rfl

/-- With its operands and a slot for the result, an instruction comes to what it evaluates to. -/
theorem write?_eq (row : SlotRow) {args : List Value} {slot : Value}
    (hargs : ins.operands.toList.mapM row.read? = some args)
    (hslot : row.slots[row.used]? = some slot) :
    row.write? ins =
      match ins.op.evaluate args with
      | .ok v => some (.ok (), ⟨row.slots.set row.used v, row.inputs, row.used + 1⟩)
      | .error e => some (.error e, row) := by
  unfold write?
  rw [hargs]
  simp only [Option.bind_eq_bind, Option.bind_some, hslot, Operator.evaluateInto_eq]
  cases ins.op.evaluate args with
  | ok v => rfl
  | error e =>
    -- the slot is written back as it was
    obtain ⟨hused, hget⟩ := List.getElem?_eq_some_iff.1 hslot
    have hsame : row.slots.set row.used slot = row.slots := by
      rw [← hget, List.set_getElem_self]
    simp only [hsame]
    rfl

/-- What is read below the second mark are visible registers. -/
theorem mapM_read? {row : SlotRow} {above : List Value} (hslots : row.slots = regs.visible ++ above)
    (hused : row.used = regs.used) (h : regs.sees ins = true) :
    ins.operands.toList.mapM row.read? =
      some (ins.operands.toList.filterMap (regs.visible[·]?)) := by
  have hread : row.read? = (regs.visible[·]?) := by
    funext r
    rw [read?, hslots, hused, RegisterFile.used_eq_length, List.take_left]
  rw [hread]
  refine mapM_getElem? fun r hr => ?_
  have hvisible := List.all_eq_true.1 h r hr
  rw [RegisterFile.used_eq_length] at hvisible
  exact of_decide_eq_true hvisible

theorem execute?_ofRegisters (regs : RegisterFile) (ins : Instruction) :
    (ofRegisters regs).execute? ins =
      some ((regs.apply ins).1, ofRegisters (regs.apply ins).2) := by
  unfold execute?
  cases hsees : regs.sees ins with
  | false =>
    obtain ⟨r, hfind, happly⟩ := RegisterFile.apply_of_not_sees hsees
    have hrow : ins.operands.toList.find? ((ofRegisters regs).used ≤ ·) = some r := hfind
    rw [hrow, happly]
    rfl
  | true =>
    have hrow : ins.operands.toList.find? ((ofRegisters regs).used ≤ ·) = none :=
      RegisterFile.sees_iff.1 hsees
    have hslot : (regs.visible ++ regs.nextSlot.1 :: regs.nextSlot.2)[regs.used]? =
        some regs.nextSlot.1 := by
      rw [RegisterFile.used_eq_length]
      simp
    have hset : ∀ v, (regs.visible ++ regs.nextSlot.1 :: regs.nextSlot.2).set regs.used v =
        regs.inputs ++ (v :: regs.results).reverse ++ regs.nextSlot.2 := by
      intro v
      rw [RegisterFile.used_eq_length]
      simp [RegisterFile.visible]
    have hwrite := write?_eq (ofRegisters regs).grown
      (by rw [grown_ofRegisters]; exact mapM_read? rfl rfl hsees)
      (by rw [grown_ofRegisters]; exact hslot)
    rw [← RegisterFile.run_of_sees hsees, grown_ofRegisters] at hwrite
    rw [hrow, grown_ofRegisters, hwrite, RegisterFile.apply_of_sees hsees]
    cases ins.run regs.visible with
    | ok v =>
      simp only [hset]
      rfl
    | error e => rfl

theorem undo_ofRegisters (regs : RegisterFile) :
    (ofRegisters regs).undo = (regs.undo.1, ofRegisters regs.undo.2) := by
  cases hresults : regs.results with
  | nil =>
    have hregs : regs.undo =
        (.error (.violation (.nothingToUndo regs.inputs.length regs.used)), regs) := by
      simp [RegisterFile.undo, hresults]
    have hmark : regs.used ≤ regs.inputs.length := by simp [RegisterFile.used, hresults]
    rw [hregs]
    exact if_pos hmark
  | cons v results =>
    have hmark : ¬ regs.used ≤ regs.inputs.length := by simp [RegisterFile.used, hresults]
    rw [RegisterFile.undo_of_results hresults]
    refine (if_neg hmark).trans ?_
    -- the slot of the result stays where it is, now above the mark
    simp [ofRegisters, RegisterFile.visible, RegisterFile.used, hresults]

theorem reset_ofRegisters (regs : RegisterFile) :
    (ofRegisters regs).reset = ofRegisters regs.reset := by
  simp [reset, ofRegisters, RegisterFile.reset, RegisterFile.visible, RegisterFile.used]

theorem act?_ofRegisters (regs : RegisterFile) (act : Act) :
    (ofRegisters regs).act? act = some ((regs.act act).1, ofRegisters (regs.act act).2) := by
  cases act with
  | apply ins => exact execute?_ofRegisters regs ins
  | undo => exact congrArg some (undo_ofRegisters regs)
  | reset =>
    rw [act?, reset_ofRegisters]
    rfl

/-- No act, nor any number of them, is at a loss for a slot. -/
theorem doAll?_ofRegisters (regs : RegisterFile) (acts : List Act) :
    (ofRegisters regs).doAll? acts =
      some ((Act.doAll RegisterFile.act regs acts).1,
        ofRegisters (Act.doAll RegisterFile.act regs acts).2) := by
  induction acts generalizing regs with
  | nil => rfl
  | cons act rest ih =>
    rw [doAll?, act?_ofRegisters]
    simp only [Option.bind_eq_bind, Option.bind_some, ih]
    rfl

end SlotRow

/-! ## The high-water mark -/

namespace RegisterFile

/-- The depth that an act needs a slot at: that of an instruction over visible registers, whether or
not it comes to a result. -/
def descent? (regs : RegisterFile) : Act → Option Nat
  | .apply ins => if regs.sees ins then some regs.depth else none
  | .undo | .reset => none

/-- The depths at which some acts, done one after the other, need a slot. -/
def descents (regs : RegisterFile) : List Act → List Nat
  | [] => []
  | act :: rest => (regs.descent? act).toList ++ (regs.act act).2.descents rest

/-- The number of slots, over the inputs, that results at the given depths need. -/
def highWater (depths : List Nat) : Nat := (depths.map (· + 1)).foldr max 0

/-- An act needs a slot, if at all, at the depth that the registers are at. -/
theorem depth_of_descent {a : Act} {d : Nat} (h : regs.descent? a = some d) : regs.depth = d := by
  cases a with
  | undo | reset => cases h
  | apply ins =>
    rw [descent?] at h
    split at h
    · exact Option.some.inj h
    · cases h

theorem allocated_of_descent {a : Act} {d : Nat} (h : regs.descent? a = some d) :
    (regs.act a).2.allocated = max regs.allocated (regs.inputs.length + (d + 1)) := by
  cases a with
  | undo | reset => cases h
  | apply ins =>
    cases hsees : regs.sees ins with
    | false => simp [descent?, hsees] at h
    | true =>
      obtain rfl : regs.depth = d := by simpa [descent?, hsees] using h
      have hslot := regs.length_nextSlot
      rw [act, apply_of_sees hsees]
      cases ins.run regs.visible with
      | ok _ | error _ =>
        simp only [allocated, used, depth, List.length_cons]
        omega

theorem allocated_of_no_descent {a : Act} (h : regs.descent? a = none) :
    (regs.act a).2.allocated = regs.allocated := by
  cases a with
  | apply ins =>
    cases hsees : regs.sees ins with
    | true => simp [descent?, hsees] at h
    | false =>
      obtain ⟨r, -, happly⟩ := apply_of_not_sees hsees
      rw [act, happly]
  | undo =>
    cases hresults : regs.results with
    | nil => simp [act, undo, hresults]
    | cons v results =>
      rw [act, undo_of_results hresults]
      simp only [allocated, used, hresults, List.length_cons]
      omega
  | reset =>
    simp only [act, reset, allocated, used, List.length_nil, List.length_append,
      List.length_reverse]
    omega

theorem lt_highWater_iff {depths : List Nat} {d : Nat} :
    d < highWater depths ↔ ∃ e ∈ depths, d ≤ e := by
  induction depths with
  | nil => simp [highWater]
  | cons e rest ih =>
    have hcons : highWater (e :: rest) = max (e + 1) (highWater rest) := rfl
    simp only [hcons, List.mem_cons, exists_eq_or_imp, ← ih]
    omega

/-- However the acts come out, the slots are those there were or those that the depths need. -/
theorem allocated_doAll (regs : RegisterFile) (acts : List Act) :
    (Act.doAll act regs acts).2.allocated =
      max regs.allocated (regs.inputs.length + highWater (regs.descents acts)) := by
  induction acts generalizing regs with
  | nil =>
    have hinputs : regs.inputs.length ≤ regs.allocated := by
      rw [allocated, used]
      omega
    exact (Nat.max_eq_left hinputs).symm
  | cons a rest ih =>
    have hnext : (Act.doAll act regs (a :: rest)).2 = (Act.doAll act (regs.act a).2 rest).2 := rfl
    rw [hnext, ih, act_inputs, descents]
    cases hdescent : regs.descent? a with
    | none =>
      rw [allocated_of_no_descent hdescent]
      rfl
    | some d =>
      have hcons : highWater (d :: (regs.act a).2.descents rest) =
          max (d + 1) (highWater ((regs.act a).2.descents rest)) := rfl
      rw [allocated_of_descent hdescent, Option.toList_some, List.singleton_append, hcons]
      omega

/-- Only a result that is written takes registers one deeper. -/
theorem descent_of_depth_lt {a : Act} (h : regs.depth < (regs.act a).2.depth) :
    regs.descent? a = some regs.depth ∧ (regs.act a).2.depth = regs.depth + 1 := by
  cases a with
  | apply ins =>
    cases hsees : regs.sees ins with
    | false =>
      obtain ⟨r, -, happly⟩ := apply_of_not_sees hsees
      rw [act, happly] at h
      exact absurd h (Nat.lt_irrefl _)
    | true =>
      rw [act, apply_of_sees hsees] at h ⊢
      cases hrun : ins.run regs.visible with
      | ok v => exact ⟨by simp [descent?, hsees], rfl⟩
      | error e =>
        rw [hrun] at h
        exact absurd h (Nat.lt_irrefl _)
  | undo =>
    rw [act, undo] at h
    cases hresults : regs.results with
    | nil => simp [hresults] at h
    | cons v results =>
      simp only [hresults, depth, List.length_cons] at h
      omega
  | reset => exact absurd h (Nat.not_lt_zero _)

/-- Before a slot is needed at some depth, one has been needed at every depth on the way. -/
theorem mem_descents_of_le {acts : List Act} {d e : Nat} (hde : d ≤ e)
    (he : e ∈ regs.descents acts) (hd : regs.depth ≤ d) : d ∈ regs.descents acts := by
  induction acts generalizing regs with
  | nil => cases he
  | cons a rest ih =>
    rw [descents, List.mem_append, Option.mem_toList] at he ⊢
    by_cases hnext : (regs.act a).2.depth ≤ d
    · rcases he with hnow | hlater
      · obtain rfl : regs.depth = e := depth_of_descent hnow
        obtain rfl : regs.depth = d := Nat.le_antisymm hd hde
        exact .inl hnow
      · exact .inr (ih hlater hnext)
    · -- the act goes past the depth, so it is there that it needs a slot
      have hdeeper : regs.depth < (regs.act a).2.depth := by omega
      obtain ⟨hdescent, hdepth⟩ := descent_of_depth_lt hdeeper
      obtain rfl : regs.depth = d := by omega
      exact .inl hdescent

theorem mem_descents_iff {acts : List Act} {d : Nat} (hdepth : regs.depth = 0) :
    d ∈ regs.descents acts ↔ d < highWater (regs.descents acts) := by
  rw [lt_highWater_iff]
  constructor
  · intro hd
    exact ⟨d, hd, Nat.le_refl d⟩
  · rintro ⟨e, he, hde⟩
    exact mem_descents_of_le hde he (hdepth ▸ Nat.zero_le d)

theorem allocated_le_act (regs : RegisterFile) (a : Act) :
    regs.allocated ≤ (regs.act a).2.allocated := by
  cases hdescent : regs.descent? a with
  | none => exact Nat.le_of_eq (allocated_of_no_descent hdescent).symm
  | some d =>
    rw [allocated_of_descent hdescent]
    exact Nat.le_max_left _ _

/-- Where the slots are those that some depths need, a slot is added at no other depth than the next
one after them. -/
theorem allocated_apply {depths : List Nat}
    (hallocated : regs.allocated = regs.inputs.length + highWater depths)
    (hreached : ∀ d, d ∈ depths ↔ d < highWater depths) (ins : Instruction) :
    (regs.apply ins).2.allocated =
      regs.allocated + if regs.sees ins = true ∧ regs.depth ∉ depths then 1 else 0 := by
  have hused : regs.used = regs.inputs.length + regs.depth := rfl
  have hretained : regs.allocated = regs.used + regs.retained.length := rfl
  cases hsees : regs.sees ins with
  | false =>
    obtain ⟨r, -, happly⟩ := apply_of_not_sees hsees
    simp [happly]
  | true =>
    have hdescent : regs.descent? (.apply ins) = some regs.depth := by simp [descent?, hsees]
    have hnext : (regs.apply ins).2.allocated =
        max regs.allocated (regs.inputs.length + (regs.depth + 1)) :=
      allocated_of_descent hdescent
    by_cases hmem : regs.depth ∈ depths
    · have hbelow : regs.depth < highWater depths := (hreached _).1 hmem
      rw [if_neg fun h => h.2 hmem, hnext]
      omega
    · -- all slots are in use here
      have habove : ¬ regs.depth < highWater depths := fun h => hmem ((hreached _).2 h)
      rw [if_pos ⟨rfl, hmem⟩, hnext]
      omega

/-! ## Any number of acts -/

/-- What has become of the storage of a register file that lies in a row, where slots have been
needed at some depths so far. -/
structure GrowsOnDescent (regs : RegisterFile) (row : SlotRow) (depths : List Nat) : Prop where
  /-- The visible registers are the first slots, and behind them is what is retained. -/
  slots : row.slots = regs.visible ++ regs.retained
  /-- The marks of the row and its length are what the register file counts. -/
  counts : row.inputs = regs.inputs.length ∧ row.used = regs.used ∧
    row.slots.length = regs.allocated
  /-- The marks are in their order and inside the row. -/
  marks : row.inputs ≤ row.used ∧ row.used ≤ row.slots.length
  /-- Over the inputs there are as many slots as the greatest of the depths needs. -/
  allocated : row.slots.length - row.inputs = highWater depths
  /-- Up to there a slot has been needed at every depth. -/
  reached : ∀ d, d ∈ depths ↔ d < row.slots.length - row.inputs
  /-- No act takes slots away. -/
  keeps : ∀ a, regs.allocated ≤ (regs.act a).2.allocated
  /-- An instruction over visible registers adds a slot, applied or not, at a depth that none has
  been needed at; nothing else does. -/
  grows : ∀ ins, (regs.apply ins).2.allocated =
    regs.allocated + if regs.sees ins = true ∧ regs.depth ∉ depths then 1 else 0
  /-- A register that is not visible is refused with everything left as it is. -/
  refused : ∀ ins, regs.sees ins = false →
    ∃ r, regs.apply ins = (.error (.pastEnd r regs.used), regs)

theorem growsOnDescent_of_allocated {depths : List Nat}
    (hallocated : regs.allocated = regs.inputs.length + highWater depths)
    (hreached : ∀ d, d ∈ depths ↔ d < highWater depths) :
    GrowsOnDescent regs (SlotRow.ofRegisters regs) depths := by
  have hlength := SlotRow.length_slots regs
  have hover : (SlotRow.ofRegisters regs).slots.length - (SlotRow.ofRegisters regs).inputs =
      highWater depths := by
    rw [hlength, hallocated]
    exact Nat.add_sub_cancel_left _ _
  refine ⟨rfl, ⟨rfl, rfl, hlength⟩, ⟨Nat.le_add_right _ _, ?_⟩, hover, ?_, allocated_le_act regs,
    allocated_apply hallocated hreached, ?_⟩
  · rw [hlength]
    exact Nat.le_add_right _ _
  · rw [hover]
    exact hreached
  · intro ins hsees
    obtain ⟨r, -, happly⟩ := apply_of_not_sees hsees
    exact ⟨r, happly⟩

/-- **Storage grows on first descent only.** No act is at a loss for a slot. -/
theorem exists_growsOnDescent (inputs : List Value) (acts : List Act) :
    ∃ answers regs row,
      Act.doAll act (ofInputs inputs) acts = (answers, regs) ∧
      (SlotRow.ofInputs inputs).doAll? acts = some (answers, row) ∧
      GrowsOnDescent regs row ((ofInputs inputs).descents acts) := by
  have hrow := SlotRow.doAll?_ofRegisters (ofInputs inputs) acts
  rw [← SlotRow.ofInputs_eq] at hrow
  refine ⟨_, _, _, rfl, hrow, growsOnDescent_of_allocated ?_ fun d => mem_descents_iff rfl⟩
  have hstart : (ofInputs inputs).allocated = inputs.length := rfl
  rw [allocated_doAll, doAll_inputs, hstart]
  exact Nat.max_eq_right (Nat.le_add_right _ _)

/-- An instruction that fails leaves a slot behind, which the next one at this depth is applied in;
one over a register that is not visible leaves none. -/
example :
    let acts := [.apply ⟨.sum, .one 0⟩, .apply ⟨.sum, .one 1⟩, .undo, .apply ⟨.head, .one 1⟩]
    (ofInputs [.int 2]).descents acts = [0] ∧
      (Act.doAll act (ofInputs [.int 2]) acts).2.allocated = 2 := by decide

end RegisterFile

end ProgramSearch

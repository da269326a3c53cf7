/-
# ProgramSearch.Proofs.Buffer -- values are safe in storage

Whatever is done with a buffer, edits that are refused included, it is the buffer of the value that
has gone through the same edits. So an integer always has one cell, no read goes past the cells, and
buffers are compared and printed as their values are. Two of them are the same if and only if their
types and their cells are, and if and only if their texts are.
-/

import ProgramSearch.Buffer
import ProgramSearch.Operator.Evaluate
import ProgramSearch.Proofs.Printing

namespace ProgramSearch.Buffer

/-! ## The buffer of a value -/

/-- A value laid out in cells. -/
def ofValue (v : Value) : Buffer := ⟨v.type, v.elements⟩

variable {v w : Value}

theorem ofValue_inj : ofValue v = ofValue w ↔ v = w := by
  cases v <;> cases w <;> simp [ofValue, Value.type, Value.elements]

theorem length_cells_ofValue (h : (ofValue v).type = .int) : (ofValue v).cells.length = 1 := by
  cases v with
  | int n => rfl
  | array xs => cases h

theorem toInt?_ofValue (v : Value) : (ofValue v).toInt? = some v.toInt := by
  cases v <;> rfl

theorem text?_ofValue (v : Value) : (ofValue v).text? = some v.text := by
  cases v <;> rfl

theorem same?_ofValue (v w : Value) : (ofValue v).same? (ofValue w) = some (decide (v = w)) := by
  cases v with
  | int n => cases w <;> simp [ofValue, same?, Value.type, Value.elements]
  | array xs =>
    cases w with
    | int m => simp [ofValue, same?, Value.type, Value.elements]
    | array ys =>
      have hcells : (ofValue (.array xs)).same? (ofValue (.array ys)) =
          some (decide (xs = ys)) := rfl
      simp only [hcells, Value.array.injEq]

/-! ## Edits -/

theorem resized_one (xs : List Int32) : resized 1 xs = [xs.headD 0] := by
  cases xs <;> simp [resized]

variable {xs : List Int32} {f : List Int32 → Except Error (List Int32)}

theorem change_of_ok {ys : List Int32} (h : f xs = .ok ys) :
    (ofValue (.array xs)).change f = (.ok (), ofValue (.array ys)) := by
  simp only [change, ofValue, Value.type, Value.elements, h]

theorem change_of_error {err : Error} (h : f xs = .error err) :
    (ofValue (.array xs)).change f = (.error err, ofValue (.array xs)) := by
  simp only [change, ofValue, Value.type, Value.elements, h]

/-- Editing the buffer of a value comes to editing the value: the buffer of what it becomes if the
edit is made, and the same buffer if it is refused. -/
theorem edit_ofValue (v : Value) (e : Value.Edit) :
    (ofValue v).edit e =
      match v.edit e with
      | .ok w => (.ok (), ofValue w)
      | .error err => (.error err, ofValue v) := by
  cases e with
  | retype type =>
    cases type with
    | int =>
      -- whatever number of cells there was, one is left
      have hcells : (ofValue v).edit (.retype .int) = (.ok (), ⟨.int, resized 1 v.elements⟩) := rfl
      rw [hcells, resized_one]
      rfl
    | array => rfl
  | int n | array xs => rfl
  | append ys | resize length => cases v <;> rfl
  | set index n =>
    cases v with
    | int m => rfl
    | array xs =>
      have hvalue : (Value.array xs).edit (.set index n) =
          if index < xs.length then .ok (.array (xs.set index n))
          else .error (.pastEnd index xs.length) := rfl
      have hcells : (ofValue (.array xs)).edit (.set index n) =
          (ofValue (.array xs)).change fun cells =>
            if index < cells.length then .ok (cells.set index n)
            else .error (.pastEnd index cells.length) := rfl
      rw [hvalue, hcells]
      by_cases hindex : index < xs.length
      · rw [if_pos hindex]
        exact change_of_ok (if_pos hindex)
      · rw [if_neg hindex]
        exact change_of_error (if_neg hindex)

theorem run_edit (v : Value) (e : Value.Edit) :
    (InSlot.edit e).run v =
      match v.edit e with
      | .ok w => (.ok (), w)
      | .error err => (.error err, v) := rfl

/-- A buffer and a value that have been built in the same way and have gone through the same edits;
edits that are refused are among them. -/
inductive Holds : Buffer → Value → Prop where
  | int (n : Int32) : Holds (int n) (.int n)
  | array (xs : List Int32) : Holds (array xs) (.array xs)
  | default : Holds default default
  | edit {b : Buffer} {v : Value} (h : Holds b v) (e : Value.Edit) :
    Holds (b.edit e).2 ((InSlot.edit e).run v).2

variable {b c : Buffer}

theorem Holds.eq (h : Holds b v) : b = ofValue v := by
  induction h with
  | int n | array xs | default => rfl
  | edit _ e ih =>
    rw [ih, edit_ofValue, run_edit]
    split <;> rfl

/-! ## What buffers tell -/

/-- What a buffer has in common with the value that it holds. -/
structure Faithful (b : Buffer) (v : Value) : Prop where
  /-- An integer has one cell, so that its first cell is all of it. -/
  cell : b.type = .int → b.cells.length = 1
  toInt : b.toInt? = some v.toInt
  text : b.text? = some v.text
  answer : ∀ e, (b.edit e).1 = ((InSlot.edit e).run v).1
  /-- An edit that is refused leaves the buffer, and the value with it. -/
  refused : ∀ e err, (b.edit e).1 = .error err →
    (b.edit e).2 = b ∧ ((InSlot.edit e).run v).2 = v

/-- What tells one buffer from another, where `v` and `w` are the values that they hold. -/
structure Told (b c : Buffer) (v w : Value) : Prop where
  values : b.same? c = some (decide (v = w))
  /-- Where both are integers the contents are one cell each. -/
  contents : b.same? c = some true ↔ b.type = c.type ∧ b.cells = c.cells
  texts : b.same? c = some true ↔ b.text? = c.text?

theorem faithful_ofValue (v : Value) : Faithful (ofValue v) v where
  cell := length_cells_ofValue
  toInt := toInt?_ofValue v
  text := text?_ofValue v
  answer e := by
    rw [edit_ofValue, run_edit]
    cases v.edit e <;> rfl
  refused e err h := by
    rw [edit_ofValue] at h
    rw [edit_ofValue, run_edit]
    cases hedit : v.edit e with
    | ok w =>
      rw [hedit] at h
      cases h
    | error _ => exact ⟨rfl, rfl⟩

theorem told_ofValue (v w : Value) : Told (ofValue v) (ofValue w) v w where
  values := same?_ofValue v w
  contents := by
    rw [same?_ofValue, Option.some.injEq, decide_eq_true_iff, ← ofValue_inj, ofValue, ofValue,
      Buffer.mk.injEq]
  texts := by
    rw [same?_ofValue, text?_ofValue, text?_ofValue, Option.some.injEq, Option.some.injEq,
      decide_eq_true_iff, Value.text_inj]

/-- **Buffers are as good as the values that they hold.** It does not matter what has been done with
them. -/
theorem faithful_and_told (h : Holds b v) (h' : Holds c w) : Faithful b v ∧ Told b c v w := by
  rw [h.eq, h'.eq]
  exact ⟨faithful_ofValue v, told_ofValue v w⟩

/-- An array has become an integer, and then an edit of its elements is refused. -/
theorem faithful_of_refused_append :
    let b := ((array [7, 8]).edit (.retype .int)).2
    Holds (b.edit (.append [9])).2 (.int 7) ∧ Holds default default ∧
      (b.edit (.append [9])).1 = .error (.typeMismatch .array .int) ∧
      Faithful (b.edit (.append [9])).2 (.int 7) ∧
      Told (b.edit (.append [9])).2 default (.int 7) default := by
  intro b
  have h : Holds (b.edit (.append [9])).2 (.int 7) :=
    ((Holds.array [7, 8]).edit (.retype .int)).edit (.append [9])
  obtain ⟨hfaithful, htold⟩ := faithful_and_told h .default
  exact ⟨h, .default, rfl, hfaithful, htold⟩

end ProgramSearch.Buffer

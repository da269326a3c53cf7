/-
# ProgramSearch.Proofs.InPlace -- nothing is left of what a slot held

One slot takes the results of many calls, of either type and of any length, and calls that are
refused come in between. `InBuffer.Writes` is the contract of work on a buffer that has to be kept
for this: from any buffer, with cells of any number and of either type, it comes to the same value,
and where it is refused it has not touched the buffer. Each way of writing keeps it, and so does
each operator. Over any sequence of calls, then, a slot holds the value of the last call that had
one.
-/

import Mathlib.Data.List.Basic
import ProgramSearch.Operator.InBuffer
import ProgramSearch.Proofs.Buffer

namespace ProgramSearch

namespace InBuffer

open Buffer (ofValue)

variable {work work' : InBuffer Unit} {ys zs : List Int32}

/-! ## Loops that push -/

/-- Work that puts the given elements behind the cells of any buffer. -/
def Pushes (work : InBuffer Unit) (ys : List Int32) : Prop :=
  ∀ b, work.run b = (.ok (), { b with cells := b.cells ++ ys })

theorem pushes_push (n : Int32) : Pushes (push n) [n] := fun _ => rfl

theorem pushes_pure : Pushes (pure ()) [] := by
  intro b
  rw [List.append_nil]
  rfl

theorem run_seq_of_ok {b b' : Buffer} (h : work.run b = (.ok (), b')) :
    (work >>= fun _ => work').run b = work'.run b' := by
  have hrun : work b = (.ok (), b') := h
  simp only [ExceptT.run, bind, ExceptT.bind, ExceptT.mk, StateT.bind, hrun, ExceptT.bindCont]

theorem Pushes.seq (h : Pushes work ys) (h' : Pushes work' zs) :
    Pushes (work >>= fun _ => work') (ys ++ zs) := by
  intro b
  rw [run_seq_of_ok (h b), h', List.append_assoc]

theorem Pushes.forM {α : Type} {body : α → InBuffer Unit} {g : α → List Int32}
    (h : ∀ x, Pushes (body x) (g x)) (xs : List α) : Pushes (xs.forM body) (xs.flatMap g) := by
  induction xs with
  | nil => exact pushes_pure
  | cons x xs ih => exact (h x).seq ih

theorem pushes_map {α : Type} (g : α → Int32) (xs : List α) :
    Pushes (xs.forM fun x => push (g x)) (xs.map g) := by
  rw [List.map_eq_flatMap]
  exact .forM (fun x => pushes_push (g x)) xs

theorem pushes_filter (p : Int32 → Bool) (xs : List Int32) :
    Pushes (xs.forM fun x => if p x then push x else pure ()) (xs.filter p) := by
  have hbody : ∀ x, Pushes (if p x then push x else pure ()) (if p x then [x] else []) := by
    intro x
    cases p x with
    | true => exact pushes_push x
    | false => exact pushes_pure
  have hpushed : xs.flatMap (fun x => if p x then [x] else []) = xs.filter p := by
    induction xs with
    | nil => rfl
    | cons x xs ih => cases hx : p x <;> simp [hx, ih]
  rw [← hpushed]
  exact .forM hbody xs

/-- Once the running result has been pushed, the rest of the loop pushes those that follow it. -/
theorem pushes_pushScan (f : Int32 → Int32 → Int32) (running : Int32) (xs : List Int32) :
    Pushes (do push running; pushScan f running xs) (Operator.scanFrom f running xs) := by
  induction xs generalizing running with
  | nil => exact (pushes_push running).seq pushes_pure
  | cons x xs ih => exact (pushes_push running).seq (ih (f running x))

theorem pushes_scan (f : Int32 → Int32 → Int32) (xs : List Int32) :
    Pushes (scan f xs) (Operator.scan f xs) := by
  cases xs with
  | nil => exact pushes_pure
  | cons x xs => exact pushes_pushScan f x xs

/-! ## Results and refusals -/

/-- Work that leaves a value in any buffer, and in the same way whatever this held; or that is
refused, with the buffer as it was. -/
def Writes (work : InBuffer Unit) (answer : Except Error Value) : Prop :=
  ∀ b, work.run b =
    match answer with
    | .ok v => (.ok (), ofValue v)
    | .error e => (.error e, b)

theorem writes_int (n : Int32) : Writes (edit (.int n)) (.ok (.int n)) := fun _ => rfl

theorem writes_array (xs : List Int32) : Writes (edit (.array xs)) (.ok (.array xs)) := fun _ => rfl

theorem writes_throw (e : Error) : Writes (throw e) (.error e) := fun _ => rfl

/-- What is read before anything is written can be refused. -/
theorem Writes.bind {α : Type} {next : α → InBuffer Unit} {answer : α → Except Error Value}
    (read : Except Error α) (h : ∀ x, Writes (next x) (answer x)) :
    Writes ((liftM read : InBuffer α) >>= next) (read >>= answer) := by
  cases read with
  | error e => exact fun _ => rfl
  | ok x => exact h x

/-- Cleared of what it held, a buffer ends with what has been pushed. -/
theorem writes_clear (h : Pushes work ys) : Writes (do clear; work) (.ok (.array ys)) := by
  intro b
  have hclear : clear.run b = (.ok (), ofValue (.array [])) := rfl
  rw [run_seq_of_ok hclear, h]
  rfl

theorem writes_reduce (f : List Int32 → Int32) (a : Value) :
    Writes (reduce f a) (a.toArray >>= fun xs => .ok (.int (f xs))) :=
  .bind a.toArray fun xs => writes_int (f xs)

theorem writes_refill {loop : List Int32 → InBuffer Unit} {f : List Int32 → List Int32}
    (h : ∀ xs, Pushes (loop xs) (f xs)) (a : Value) :
    Writes (refill loop a) (a.toArray >>= fun xs => .ok (.array (f xs))) :=
  .bind a.toArray fun xs => writes_clear (h xs)

theorem writes_copyAndRearrange (f : List Int32 → List Int32) (a : Value) :
    Writes (copyAndRearrange f a) (a.toArray >>= fun xs => .ok (.array (f xs))) := by
  refine .bind a.toArray fun xs b => ?_
  have hcopy : (edit (.array xs)).run b = (.ok (), ofValue (.array xs)) := rfl
  rw [run_seq_of_ok hcopy]
  rfl

end InBuffer

/-! ## Operators -/

namespace Operator

open InBuffer

theorem writes_writeOne (op : Operator) (a : Value) : Writes (op.writeOne a) (op.evaluate [a]) := by
  cases op with
  | scalar f => exact .bind a.toInt fun n => writes_int (f.apply n)
  | minimum | maximum | head | last | sum | count p => exact writes_reduce _ a
  | map f => exact writes_refill (pushes_map f.apply) a
  | filter p => exact writes_refill (pushes_filter p.test) a
  | scanl f => exact writes_refill (pushes_scan f.apply) a
  | sort | reverse => exact writes_copyAndRearrange _ a
  | access bounds | take | drop | zipWith f => exact writes_throw _

/-- Dropping leaves nothing at a negative offset, nor at one that reaches the end. -/
theorem drop_eq_ite (n : Int32) (xs : List Int32) :
    drop.function n xs =
      if 0 ≤ n ∧ n.toNatClampNeg < xs.length then xs.drop n.toNatClampNeg else [] := by
  change (if n < 0 then [] else xs.drop n.toNatClampNeg) = _
  by_cases hneg : n < 0
  · rw [if_pos hneg, if_neg fun h => Int32.not_lt.2 h.1 hneg]
  · rw [if_neg hneg]
    by_cases hlength : n.toNatClampNeg < xs.length
    · rw [if_pos ⟨Int32.not_lt.1 hneg, hlength⟩]
    · rw [if_neg fun h => hlength h.2]
      exact List.drop_eq_nil_of_le (Nat.le_of_not_lt hlength)

theorem writes_writeTwo (op : Operator) (a b : Value) :
    Writes (op.writeTwo a b) (op.evaluate [a, b]) := by
  cases op with
  | access bounds =>
    refine .bind a.toInt fun offset => .bind b.toArray fun xs => ?_
    exact .bind (accessWith bounds offset xs) fun x => writes_int x
  | take =>
    refine .bind a.toInt fun n => .bind b.toArray fun xs => ?_
    rw [← List.take_eq_take_min]
    exact writes_array _
  | drop =>
    refine .bind a.toInt fun n => .bind b.toArray fun xs => ?_
    rw [drop_eq_ite]
    split
    · exact writes_array _
    · exact writes_array []
  | zipWith f =>
    refine .bind a.toArray fun xs => .bind b.toArray fun ys => ?_
    have hpushed := pushes_map (Function.uncurry f.apply) (xs.zip ys)
    rw [List.map_uncurry_zip_eq_zipWith] at hpushed
    exact writes_clear hpushed
  | _ => exact writes_throw _

end Operator

/-! ## Calls one after the other -/

namespace Call

open Buffer (ofValue)
open InBuffer (Writes)

theorem writes_write (call : Call) : Writes call.write call.value := by
  obtain ⟨op, args⟩ := call
  cases args with
  | one a => exact op.writes_writeOne a
  | two a b => exact op.writes_writeTwo a b

theorem inBuffer_eq (b : Buffer) (call : Call) :
    inBuffer b call =
      match call.value with
      | .ok v => (.ok (), ofValue v)
      | .error e => (.error e, b) :=
  call.writes_write b

theorem inSlot_eq (slot : Value) (call : Call) :
    inSlot slot call =
      match call.value with
      | .ok v => (.ok (), v)
      | .error e => (.error e, slot) :=
  call.op.evaluateInto_eq call.args.toList slot

/-- What calls that write into one place, one after the other, have made of it. -/
def after {σ : Type} (step : σ → Call → Except Error Unit × σ) (place : σ) (calls : List Call) :
    σ :=
  calls.foldl (fun place call => (step place call).2) place

/-- The value of a call, if it has one. -/
def value? (call : Call) : Option Value := call.value.toOption

/-- The value of the last of some calls that has one. -/
def last? (calls : List Call) : Option Value := (calls.filterMap value?).getLast?

theorem last?_cons (call : Call) (rest : List Call) :
    last? (call :: rest) = (last? rest).or call.value? := by
  unfold last?
  cases hvalue : call.value? with
  | none => rw [List.filterMap_cons_none hvalue, Option.or_none]
  | some v =>
    rw [List.filterMap_cons_some hvalue, List.getLast?_cons]
    cases (rest.filterMap value?).getLast? <;> rfl

/-- Where each call puts its value, or leaves what it finds, the last value stands in the end. -/
theorem after_eq {σ : Type} {step : σ → Call → Except Error Unit × σ} {put : Value → σ}
    (hstep : ∀ place call, (step place call).2 = (call.value?.map put).getD place)
    (place : σ) (calls : List Call) :
    after step place calls = ((last? calls).map put).getD place := by
  induction calls generalizing place with
  | nil => rfl
  | cons call rest ih =>
    have hnext : after step place (call :: rest) = after step (step place call).2 rest := rfl
    rw [hnext, ih, hstep, last?_cons]
    cases last? rest <;> rfl

theorem after_inSlot (slot : Value) (calls : List Call) :
    after inSlot slot calls = (last? calls).getD slot := by
  have hstep : ∀ slot call, (inSlot slot call).2 = (call.value?.map id).getD slot := by
    intro slot call
    rw [inSlot_eq, value?]
    cases call.value <;> rfl
  rw [after_eq hstep, Option.map_id, id]

theorem after_inBuffer (b : Buffer) (calls : List Call) :
    after inBuffer b calls = ((last? calls).map ofValue).getD b := by
  refine after_eq (fun b call => ?_) b calls
  rw [inBuffer_eq, value?]
  cases call.value <;> rfl

/-- What a call does to a slot, and to a buffer that the value of the slot is laid out in. -/
structure Overwrites (call : Call) (slot : Value) (b : Buffer) : Prop where
  /-- Whether a call succeeds, and with what error it fails, has nothing to do with the slot. -/
  answer : (inSlot slot call).1 = call.value.map (fun _ => ()) ∧
    (inBuffer b call).1 = (inSlot slot call).1
  /-- A call that succeeds leaves its value, and the type and the cells of a fresh buffer that the
  same call has written into. -/
  succeeds : (inSlot slot call).1 = .ok () →
    call.value = .ok (inSlot slot call).2 ∧
      (inBuffer b call).2 = ofValue (inSlot slot call).2 ∧
      (inBuffer b call).2 = (inBuffer default call).2
  /-- A call that fails leaves the slot, and in the buffer the type and every cell. -/
  fails : ∀ e, (inSlot slot call).1 = .error e →
    (inSlot slot call).2 = slot ∧ (inBuffer b call).2 = b

theorem overwrites (call : Call) (slot : Value) (b : Buffer) : call.Overwrites slot b := by
  cases hvalue : call.value with
  | ok v =>
    have hslot : inSlot slot call = (.ok (), v) := by rw [inSlot_eq, hvalue]
    have hbuffer : ∀ b, inBuffer b call = (.ok (), ofValue v) := by
      intro b
      rw [inBuffer_eq, hvalue]
    refine ⟨?_, ?_, ?_⟩
    · rw [hslot, hbuffer, hvalue]
      exact ⟨rfl, rfl⟩
    · intro _
      rw [hslot, hbuffer, hbuffer]
      exact ⟨hvalue, rfl, rfl⟩
    · intro e he
      rw [hslot] at he
      cases he
  | error e =>
    have hslot : inSlot slot call = (.error e, slot) := by rw [inSlot_eq, hvalue]
    have hbuffer : inBuffer b call = (.error e, b) := by rw [inBuffer_eq, hvalue]
    refine ⟨?_, ?_, ?_⟩
    · rw [hslot, hbuffer, hvalue]
      exact ⟨rfl, rfl⟩
    · intro hok
      rw [hslot] at hok
      cases hok
    · intro _ _
      rw [hslot, hbuffer]
      exact ⟨rfl, rfl⟩

/-- **A slot never leaks its past.** After any calls it holds the value of the last one that had a
value, laid out in its buffer; and the next call overwrites it with its own, or leaves it. -/
theorem overwrites_after (slot : Value) (calls : List Call) (call : Call) :
    after inSlot slot calls = (last? calls).getD slot ∧
      after inBuffer (ofValue slot) calls = ofValue (after inSlot slot calls) ∧
      call.Overwrites (after inSlot slot calls) (after inBuffer (ofValue slot) calls) := by
  refine ⟨after_inSlot slot calls, ?_, overwrites call _ _⟩
  rw [after_inSlot, after_inBuffer]
  cases last? calls <;> rfl

/-- An array of three elements, overwritten by an integer and this by an array of two. -/
example : after inBuffer (.array [1, 2, 3])
    [⟨.sum, .one (.array [4, 5])⟩, ⟨.take, .one (.int 1)⟩, ⟨.reverse, .one (.array [4, 5])⟩] =
      .array [5, 4] := by decide

end Call

end ProgramSearch

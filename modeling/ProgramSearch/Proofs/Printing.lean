/-
# ProgramSearch.Proofs.Printing -- what texts tell apart

Values and programs are printed for people to read, and nothing is lost in print but the rule for
offsets of an access. A number ends where its digits end and a name where the blank after it begins,
so a text can be taken apart in one way only: two values have the same text only if they are equal,
and two listings are the same only if they list the same instructions from the same register on.
-/

import ProgramSearch.Catalog
import ProgramSearch.Proofs.Loading.RoundTrip

namespace ProgramSearch

/-! ## Runs of characters -/

namespace Text

variable {p : Char → Bool} {run run' rest rest' : List Char}

theorem takeWhile_run (hrun : run.all p = true) (hrest : rest.head?.all (!p ·) = true) :
    (run ++ rest).takeWhile p = run := by
  rw [List.takeWhile_append_of_pos (List.all_eq_true.1 hrun)]
  cases rest with
  | nil => exact List.append_nil run
  | cons c rest =>
    have hc : p c = false := by simpa using hrest
    rw [List.takeWhile_cons_of_neg (by simp [hc]), List.append_nil]

/-- A run of characters of one kind goes up to the first character of another kind. -/
theorem run_inj (hrun : run.all p = true) (hrun' : run'.all p = true)
    (hrest : rest.head?.all (!p ·) = true) (hrest' : rest'.head?.all (!p ·) = true)
    (h : run ++ rest = run' ++ rest') : run = run' ∧ rest = rest' := by
  have hsame : run = run' := by
    rw [← takeWhile_run hrun hrest, h, takeWhile_run hrun' hrest']
  subst hsame
  exact ⟨rfl, List.append_cancel_left h⟩

end Text

namespace Numeral

/-- The characters that numbers are written with. -/
def isMark (c : Char) : Bool := c == '-' || c.isDigit

theorem all_isMark_repr (n : Int) : n.repr.toList.all isMark = true := by
  refine List.all_eq_true.2 fun c hc => ?_
  rcases isDigit_of_mem_repr hc with rfl | hdigit
  · rfl
  · simp [isMark, hdigit]

theorem repr_injective {m n : Int} (h : m.repr.toList = n.repr.toList) : m = n := by
  have hread := int?_repr m
  rw [h, int?_repr] at hread
  exact (Option.some.inj hread).symm

/-- A number is told by its text, up to a character that numbers are not written with. -/
theorem repr_append_inj {m n : Int} {rest rest' : List Char}
    (hrest : rest.head?.all (!isMark ·) = true) (hrest' : rest'.head?.all (!isMark ·) = true)
    (h : m.repr.toList ++ rest = n.repr.toList ++ rest') : m = n ∧ rest = rest' := by
  obtain ⟨hrepr, hrest⟩ := Text.run_inj (all_isMark_repr m) (all_isMark_repr n) hrest hrest' h
  exact ⟨repr_injective hrepr, hrest⟩

/-- No number begins with any other character. -/
theorem cons_ne_repr_append {c : Char} (hc : isMark c = false) (n : Int) (rest rest' : List Char) :
    c :: rest ≠ n.repr.toList ++ rest' := by
  intro h
  have hmarks := all_isMark_repr n
  cases hrepr : n.repr.toList with
  | nil => exact repr_ne_nil n hrepr
  | cons d ds =>
    rw [hrepr, List.cons_append, List.cons.injEq] at h
    rw [hrepr, List.all_cons, ← h.1, hc] at hmarks
    cases hmarks

end Numeral

/-! ## Values -/

namespace Value

open Numeral (isMark)

/-- What stands behind an element of an array in its text, if the given elements come next. -/
def following : List Int32 → List Char
  | [] => [']']
  | x :: xs => ',' :: ' ' :: (x.toInt.repr.toList ++ following xs)

/-- What stands behind the opening bracket in the text of an array. -/
def inside : List Int32 → List Char
  | [] => [']']
  | x :: xs => x.toInt.repr.toList ++ following xs

theorem head?_following (xs : List Int32) : (following xs).head?.all (!isMark ·) = true := by
  cases xs <;> rfl

theorem following_injective {xs ys : List Int32} (h : following xs = following ys) : xs = ys := by
  induction xs generalizing ys with
  | nil =>
    cases ys with
    | nil => rfl
    | cons y ys => simp [following] at h
  | cons x xs ih =>
    cases ys with
    | nil => simp [following] at h
    | cons y ys =>
      simp only [following, List.cons.injEq, true_and] at h
      obtain ⟨hx, hxs⟩ := Numeral.repr_append_inj (head?_following xs) (head?_following ys) h
      rw [Int32.toInt_inj.1 hx, ih hxs]

theorem inside_injective {xs ys : List Int32} (h : inside xs = inside ys) : xs = ys := by
  cases xs with
  | nil =>
    cases ys with
    | nil => rfl
    | cons y ys => exact absurd h (Numeral.cons_ne_repr_append rfl _ _ _)
  | cons x xs =>
    cases ys with
    | nil => exact absurd h.symm (Numeral.cons_ne_repr_append rfl _ _ _)
    | cons y ys =>
      obtain ⟨hx, hxs⟩ := Numeral.repr_append_inj (head?_following xs) (head?_following ys) h
      rw [Int32.toInt_inj.1 hx, following_injective hxs]

theorem text_int (n : Int32) : (int n).text.toList = n.toInt.repr.toList := by
  rw [text, Int.toString_eq_repr]

theorem text_array (xs : List Int32) : (array xs).text.toList = '[' :: inside xs := by
  have hjoin (x : Int32) (xs : List Int32) :
      [',', ' '].intercalate ((x :: xs).map fun x => x.toInt.repr.toList) ++ [']'] =
        x.toInt.repr.toList ++ following xs := by
    induction xs generalizing x with
    | nil => simp [following]
    | cons y ys ih =>
      rw [List.map_cons, List.intercalate_cons_of_ne_nil (by simp), List.append_assoc, ih y]
      simp [following]
  cases xs with
  | nil => decide
  | cons x xs =>
    rw [inside, ← hjoin]
    simp [text, String.toList_intercalate, Function.comp_def]

/-- **Values are told apart by their texts.** -/
theorem text_inj {v w : Value} : v.text = w.text ↔ v = w := by
  refine ⟨fun h => ?_, fun h => h ▸ rfl⟩
  rw [← String.toList_inj] at h
  cases v with
  | int n =>
    cases w with
    | int m =>
      rw [text_int, text_int] at h
      rw [Int32.toInt_inj.1 (Numeral.repr_injective h)]
    | array ys =>
      rw [text_int, text_array, ← List.append_nil (Int.repr _).toList] at h
      exact absurd h.symm (Numeral.cons_ne_repr_append rfl _ _ _)
  | array xs =>
    cases w with
    | int m =>
      rw [text_int, text_array, ← List.append_nil (Int.repr _).toList] at h
      exact absurd h (Numeral.cons_ne_repr_append rfl _ _ _)
    | array ys =>
      rw [text_array, text_array, List.cons.injEq] at h
      rw [inside_injective h.2]

end Value

/-! ## Names of operators -/

namespace Operator

/-- An operator is found by its name, with the rule for offsets that catalogs have. -/
theorem find?_name (op : Operator) :
    Catalog.full.find? op.name = some (op.withBounds .strict) := by
  cases op with
  | scalar f | map f | scanl f | zipWith f => cases f <;> rfl
  | count p | filter p => cases p <;> rfl
  | _ => rfl

/-- Only a rule for offsets is not told by the name. -/
theorem name_eq_iff {op op' : Operator} : op.name = op'.name ↔
    op = op' ∨ ∃ bounds bounds', op = .access bounds ∧ op' = .access bounds' := by
  have hself (op : Operator) : op.withBounds .strict = op ∨ ∃ bounds, op = .access bounds := by
    cases op with
    | access bounds => exact .inr ⟨bounds, rfl⟩
    | _ => exact .inl rfl
  constructor
  · intro h
    have hstrict : op.withBounds .strict = op'.withBounds .strict :=
      Option.some.inj ((find?_name op).symm.trans (h ▸ find?_name op'))
    rcases hself op with hop | ⟨bounds, rfl⟩
    · rcases hself op' with hop' | ⟨bounds', rfl⟩
      · exact .inl (hop.symm.trans (hstrict.trans hop'))
      · exact .inr ⟨.strict, bounds', hop.symm.trans hstrict, rfl⟩
    · rcases hself op' with hop' | ⟨bounds', rfl⟩
      · exact .inr ⟨bounds, .strict, rfl, hop'.symm.trans hstrict.symm⟩
      · exact .inr ⟨bounds, bounds', rfl, rfl⟩
  · rintro (rfl | ⟨bounds, bounds', rfl, rfl⟩)
    · rfl
    · rfl

theorem all_ne_blank_name (op : Operator) : op.name.toList.all (· != ' ') = true := by
  cases op with
  | scalar f | map f | scanl f | zipWith f => cases f <;> rfl
  | count p | filter p => cases p <;> rfl
  | access bounds => cases bounds <;> rfl
  | _ => rfl

end Operator

/-! ## Instructions -/

namespace Instruction

/-- Two instructions are the same, but for the rules for offsets if they are accesses. -/
structure Alike (ins ins' : Instruction) : Prop where
  operands : ins.operands = ins'.operands
  op : ins.op = ins'.op ∨ ∃ bounds bounds', ins.op = .access bounds ∧ ins'.op = .access bounds'

/-- A register in the text of an instruction. -/
def registerChars (register : Nat) : List Char := ' ' :: '%' :: register.repr.toList

theorem toList_text (ins : Instruction) :
    ins.text.toList = ins.op.name.toList ++ ins.operands.toList.flatMap registerChars := by
  have hregister (r : Nat) : (" %" ++ toString r).toList = registerChars r :=
    String.toList_append
  rw [text, String.toList_append, String.toList_join, List.flatMap_map]
  simp only [hregister]

theorem Alike.text_eq {ins ins' : Instruction} (h : ins.Alike ins') : ins.text = ins'.text := by
  rw [text, text, Operator.name_eq_iff.2 h.op, h.operands]

/-- The end of a line ends the list of registers, of which each begins with a blank. -/
theorem registers_inj {registers registers' : List Nat} {rest rest' : List Char}
    (h : registers.flatMap registerChars ++ '\n' :: rest =
      registers'.flatMap registerChars ++ '\n' :: rest') :
    registers = registers' ∧ rest = rest' := by
  have hgap (registers : List Nat) (rest : List Char) :
      (registers.flatMap registerChars ++ '\n' :: rest).head?.all (!Numeral.isMark ·) = true := by
    cases registers <;> rfl
  induction registers generalizing registers' with
  | nil =>
    cases registers' with
    | nil => exact ⟨rfl, (List.cons.inj h).2⟩
    | cons r' registers' => simp [registerChars] at h
  | cons r registers ih =>
    cases registers' with
    | nil => simp [registerChars] at h
    | cons r' registers' =>
      simp only [List.flatMap_cons, registerChars, List.cons_append, List.append_assoc,
        List.cons.injEq, true_and] at h
      obtain ⟨hr, hrest⟩ := Numeral.repr_append_inj (m := r) (n := r') (hgap _ _) (hgap _ _) h
      obtain ⟨hregisters, hrest⟩ := ih hrest
      rw [Int.ofNat.inj hr, hregisters]
      exact ⟨rfl, hrest⟩

/-- Instructions are told by their lines. -/
theorem text_append_inj {ins ins' : Instruction} {rest rest' : List Char}
    (h : ins.text.toList ++ '\n' :: rest = ins'.text.toList ++ '\n' :: rest') :
    ins.Alike ins' ∧ rest = rest' := by
  have hgap (ins : Instruction) (rest : List Char) :
      (ins.operands.toList.flatMap registerChars ++ '\n' :: rest).head?.all
        (fun c => !(c != ' ')) = true := by
    cases ins.operands <;> rfl
  rw [toList_text, toList_text, List.append_assoc, List.append_assoc] at h
  obtain ⟨hname, hoperands⟩ := Text.run_inj ins.op.all_ne_blank_name ins'.op.all_ne_blank_name
    (hgap ins rest) (hgap ins' rest') h
  obtain ⟨hregisters, hrest⟩ := registers_inj hoperands
  exact ⟨⟨Operands.toList_inj.1 hregisters, Operator.name_eq_iff.1 (String.toList_inj.1 hname)⟩,
    hrest⟩

end Instruction

/-! ## Listings -/

namespace Program

theorem toList_listFrom_cons (register : Nat) (ins : Instruction) (steps : List Instruction) :
    (listFrom register (ins :: steps)).toList =
      ' ' :: ' ' :: '%' :: (register.repr.toList ++ ' ' :: '<' :: '-' :: ' ' ::
        (ins.text.toList ++ '\n' :: (listFrom (register + 1) steps).toList)) := by
  simp [listFrom]

/-- A listing tells its instructions, and the register it begins at if there are any. -/
theorem alike_of_listFrom {register register' : Nat} {steps steps' : List Instruction}
    (h : (listFrom register steps).toList = (listFrom register' steps').toList) :
    List.Forall₂ Instruction.Alike steps steps' ∧ (steps ≠ [] → register = register') := by
  induction steps generalizing register register' steps' with
  | nil =>
    cases steps' with
    | nil => exact ⟨.nil, fun hne => absurd rfl hne⟩
    | cons ins' steps' =>
      rw [toList_listFrom_cons] at h
      cases h
  | cons ins steps ih =>
    cases steps' with
    | nil =>
      rw [toList_listFrom_cons] at h
      cases h
    | cons ins' steps' =>
      rw [toList_listFrom_cons, toList_listFrom_cons] at h
      simp only [List.cons.injEq, true_and] at h
      obtain ⟨hregister, hline⟩ :=
        Numeral.repr_append_inj (m := register) (n := register') rfl rfl h
      simp only [List.cons.injEq, true_and] at hline
      obtain ⟨hins, hrest⟩ := Instruction.text_append_inj hline
      exact ⟨.cons hins (ih hrest).1, fun _ => Int.ofNat.inj hregister⟩

theorem listFrom_eq_of_alike {steps steps' : List Instruction}
    (h : List.Forall₂ Instruction.Alike steps steps') (register : Nat) :
    listFrom register steps = listFrom register steps' := by
  induction h generalizing register with
  | nil => rfl
  | cons hins _ ih => rw [listFrom, listFrom, hins.text_eq, ih]

/-- **A listing determines the program up to the rules for offsets of its accesses.** A program
without instructions has an empty listing, whatever its inputs are. -/
theorem text_eq_iff {p q : Program} (h : p.steps ≠ []) :
    p.text = q.text ↔ p.inputs = q.inputs ∧ List.Forall₂ Instruction.Alike p.steps q.steps := by
  constructor
  · intro htext
    obtain ⟨hsteps, hinputs⟩ := alike_of_listFrom (String.toList_inj.2 htext)
    exact ⟨hinputs h, hsteps⟩
  · rintro ⟨hinputs, hsteps⟩
    rw [text, text, hinputs]
    exact listFrom_eq_of_alike hsteps _

/-- Programs that differ in the rule for offsets are listed alike, and not if they differ in a
register. -/
theorem text_eq_of_access :
    let p : Program := ⟨2, [⟨.access .strict, .two 0 1⟩]⟩
    let q : Program := ⟨2, [⟨.access .sentinel, .two 0 1⟩]⟩
    let r : Program := ⟨2, [⟨.access .strict, .two 0 11⟩]⟩
    p.steps ≠ [] ∧ p.text = q.text ∧ p.text ≠ r.text := by
  intro p q r
  have hne : p.steps ≠ [] := List.cons_ne_nil _ _
  refine ⟨hne, (text_eq_iff hne).2 ⟨rfl, ?_⟩, fun htext => ?_⟩
  · exact .cons ⟨rfl, .inr ⟨.strict, .sentinel, rfl, rfl⟩⟩ .nil
  · cases ((text_eq_iff hne).1 htext).2 with
    | cons hins _ => exact absurd hins.operands (by decide)

end Program

end ProgramSearch

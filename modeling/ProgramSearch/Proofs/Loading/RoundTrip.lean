/-
# ProgramSearch.Proofs.Loading.RoundTrip -- loading undoes writing

Problems are written to a data directory as four tables: a line of types for each problem, and a
line of values for each example, problem after problem. A load of a problem gives back its examples,
whatever white space and line ends they were written with, and a load of a problem that was not
written is refused.
-/

import ProgramSearch.Proofs.Loading.Directory
import ProgramSearch.Proofs.Loading.Writing

namespace ProgramSearch

open Text (IsWord Written)

/-! ## Numbers in decimal -/

namespace Numeral

theorem nat?_repr (n : Nat) : nat? n.repr.toList = some n := by
  have hdigit : (Nat.toDigits 10 n).all Char.isDigit = true :=
    List.all_eq_true.2 fun c hc => Nat.isDigit_of_mem_toDigits (by decide) (by decide) hc
  have hne : (Nat.toDigits 10 n).isEmpty = false := by simp [Nat.toDigits_ne_nil]
  have hvalue : value (Nat.toDigits 10 n) = n := Nat.ofDigitChars_ten_toDigits
  rw [Nat.toList_repr, nat?, hdigit, hne, hvalue]
  rfl

/-- A number without sign is read as it stands. -/
theorem int?_of_nat? {cs : List Char} {n : Nat} (h : nat? cs = some n) :
    int? cs = some (n : Int) := by
  unfold int?
  split
  · exact absurd h (by simp [nat?])
  · exact absurd h (by simp [nat?])
  · rw [h]
    rfl

/-- A number is read from its decimal. -/
theorem int?_repr (n : Int) : int? n.repr.toList = some n := by
  rw [Int.repr_eq_if]
  split
  next hn =>
    rw [int?_of_nat? (nat?_repr n.toNat), Int.toNat_of_nonneg hn]
  next hn =>
    have hneg : ((-n).toNat : Int) = -n := Int.toNat_of_nonneg (by omega)
    have hsign : "-".toList = ['-'] := rfl
    rw [String.toList_append, hsign, List.singleton_append, int?, nat?_repr]
    change some (-((-n).toNat : Int)) = some n
    rw [hneg, Int.neg_neg]

theorem int32?_toString (n : Int32) : int32? (toString n.toInt).toList = some n := by
  have hlow : -2147483648 ≤ n.toInt := n.le_toInt
  have hhigh : n.toInt < 2147483648 := n.toInt_lt
  rw [int32?, signed?, Int.toString_eq_repr, int?_repr]
  simp [Option.filter, hlow, hhigh]

/-- The characters of a decimal are digits, with a sign before them if the number is negative. -/
theorem isDigit_of_mem_repr {n : Int} {c : Char} (hc : c ∈ n.repr.toList) :
    c = '-' ∨ c.isDigit = true := by
  have hdigit : ∀ m : Nat, c ∈ m.repr.toList → c.isDigit = true := by
    intro m hm
    rw [Nat.toList_repr] at hm
    exact Nat.isDigit_of_mem_toDigits (by decide) (by decide) hm
  rw [Int.repr_eq_if] at hc
  split at hc
  · exact .inr (hdigit _ hc)
  · rw [String.toList_append] at hc
    rcases List.mem_append.1 hc with hc | hc
    · exact .inl (List.mem_singleton.1 hc)
    · exact .inr (hdigit _ hc)

theorem repr_ne_nil (n : Int) : n.repr.toList ≠ [] := by
  intro hnil
  have hread := int?_repr n
  rw [hnil] at hread
  cases hread

end Numeral

/-! ## Rows of values -/

namespace Table

/-- The word that a cell is written as. -/
def Cell.text : Cell → String
  | number n => toString n.toInt
  | bar => "|"

/-- The cells of a row of values, with bars between the columns. -/
def cellsOfRow (row : List Value) : List Cell :=
  [Cell.bar].intercalate (row.map fun v => v.elements.map .number)

/-- The words that a row of values is written as. -/
def rowWords (row : List Value) : List String := (cellsOfRow row).map Cell.text

theorem isBlank_of_isDigit {c : Char} (hc : c.isDigit = true) : Text.isBlank c = false := by
  have hrange : 48 ≤ c.toNat ∧ c.toNat ≤ 57 := by
    simpa [Char.isDigit, UInt32.le_iff_toNat_le] using hc
  simp only [Text.isBlank, Bool.or_eq_false_iff, Bool.and_eq_false_iff, decide_eq_false_iff_not,
    beq_eq_false_iff_ne]
  omega

theorem Cell.isWord_text (cell : Cell) : IsWord cell.text := by
  cases cell with
  | bar => exact ⟨by decide, rfl⟩
  | number n =>
    rw [Cell.text, Int.toString_eq_repr]
    refine ⟨Numeral.repr_ne_nil n.toInt, List.any_eq_false.2 fun c hc => ?_⟩
    rcases Numeral.isDigit_of_mem_repr hc with rfl | hdigit
    · decide
    · simp [isBlank_of_isDigit hdigit]

theorem isWord_of_mem_rowWords (row : List Value) : ∀ word ∈ rowWords row, IsWord word :=
  List.forall_mem_map.2 fun cell _ => cell.isWord_text

theorem cellOfWord_of_text {line : Text.Line} {word : Text.Word} {cell : Cell}
    (h : word.text = cell.text) : cellOfWord line word = .ok cell := by
  have hchars : word.chars = cell.text.toList := by rw [← h, Text.Word.text, String.toList_ofList]
  cases cell with
  | bar =>
    rw [cellOfWord, hchars]
    rfl
  | number n =>
    have hread : Numeral.int32? word.chars = some n := by
      rw [hchars]
      exact Numeral.int32?_toString n
    have hbar : word.chars ≠ ['|'] := by
      intro hbar
      have hnone : Numeral.int32? ['|'] = none := by decide
      rw [hbar, hnone] at hread
      cases hread
    rw [cellOfWord, if_neg hbar, hread]
    rfl

theorem columns_numbers (column : List Int32) : columns (column.map .number) = [column] := by
  induction column with
  | nil => rfl
  | cons n column ih => rw [List.map_cons, columns, ih]

theorem columns_numbers_bar (column : List Int32) (cells : List Cell) :
    columns (column.map .number ++ [.bar] ++ cells) = column :: columns cells := by
  induction column with
  | nil => rfl
  | cons n column ih => rw [List.map_cons, List.cons_append, List.cons_append, columns, ih]

/-- The columns of a row are the elements of its values. -/
theorem columns_cellsOfRow {row : List Value} (hrow : row ≠ []) :
    columns (cellsOfRow row) = row.map Value.elements := by
  induction row with
  | nil => exact absurd rfl hrow
  | cons v row ih =>
    obtain _ | ⟨w, row⟩ := row
    · rw [cellsOfRow, List.map_cons, List.map_nil, List.intercalate_singleton, columns_numbers]
      rfl
    · rw [cellsOfRow, List.map_cons, List.intercalate_cons_of_ne_nil (by simp), columns_numbers_bar,
        ← cellsOfRow, ih (List.cons_ne_nil w row)]
      rfl

/-- Values are read from their elements at their types. -/
theorem valuesOfColumns_elements (line : Text.Line) (i : Nat) (row : List Value) :
    valuesOfColumns line i (row.map Value.type) (row.map Value.elements) = .ok row := by
  induction row generalizing i with
  | nil => rfl
  | cons v row ih =>
    cases v <;>
      simp only [List.map_cons, Value.type, Value.elements, valuesOfColumns, ih (i + 1)] <;> rfl

/-- A row is read from the words that it is written as. -/
theorem valuesOfLine_of_words {line : Text.Line} {row : List Value} (hrow : row ≠ [])
    (h : line.words.map Text.Word.text = rowWords row) :
    valuesOfLine (row.map Value.type) line = .ok row := by
  have hcells : line.words.mapM (cellOfWord line) = .ok (cellsOfRow row) := by
    rw [mapM_eq_ok_iff]
    rw [rowWords, ← List.forall₂_eq_eq_eq, List.forall₂_map_left_iff,
      List.forall₂_map_right_iff] at h
    exact h.imp fun _ _ => cellOfWord_of_text
  simp [valuesOfLine, hcells, columns_cellsOfRow hrow, valuesOfColumns_elements, bind, Except.bind]

end Table

/-! ## Problems -/

namespace DataDirectory

/-- A problem as it is written: the types of its inputs, the type of its output, and its examples,
which have these types. -/
structure Problem where
  inputTypes : List Ty
  outputType : Ty
  examples : List (List Value × Value)
  inputTypes_ne_nil : inputTypes ≠ []
  inputs_type : ∀ x ∈ examples, x.1.map Value.type = inputTypes
  output_type : ∀ x ∈ examples, x.2.type = outputType

namespace Problem

/-- The rows of the inputs. -/
def inputRows (q : Problem) : List (List Value) := q.examples.map (·.1)

/-- The rows of the outputs, which have one column. -/
def outputRows (q : Problem) : List (List Value) := q.examples.map fun x => [x.2]

theorem type_of_mem_inputRows (q : Problem) :
    ∀ row ∈ q.inputRows, row.map Value.type = q.inputTypes :=
  List.forall_mem_map.2 q.inputs_type

theorem type_of_mem_outputRows (q : Problem) :
    ∀ row ∈ q.outputRows, row.map Value.type = [q.outputType] :=
  List.forall_mem_map.2 fun x hx => congrArg ([·]) (q.output_type x hx)

end Problem

/-- The tables hold these problems and nothing else. -/
structure Tables.Hold (tables : Tables) (problems : List Problem) : Prop where
  inputTypes : Written (problems.map fun q => q.inputTypes.map Ty.name) tables.inputTypes.toList
  inputValues :
    Written (problems.flatMap fun q => q.inputRows.map Table.rowWords) tables.inputValues.toList
  outputTypes : Written (problems.map fun q => [q.outputType].map Ty.name) tables.outputTypes.toList
  outputValues :
    Written (problems.flatMap fun q => q.outputRows.map Table.rowWords) tables.outputValues.toList

theorem isWord_of_mem_names (types : List Ty) : ∀ word ∈ types.map Ty.name, IsWord word :=
  List.forall_mem_map.2 fun type _ => by cases type <;> exact ⟨by decide, rfl⟩

theorem getElem?_flatMap_of_length {α β : Type} {f : α → List β} {n : Nat} {xs : List α}
    (h : ∀ x ∈ xs, (f x).length = n) (p : Nat) {j : Nat} (hj : j < n) :
    (xs.flatMap f)[p * n + j]? = xs[p]?.bind fun x => (f x)[j]? := by
  induction xs generalizing p with
  | nil => simp
  | cons x xs ih =>
    have hx := h x List.mem_cons_self
    cases p with
    | zero => simp [List.getElem?_append_left (hx ▸ hj : j < (f x).length)]
    | succ p =>
      have hle : (f x).length ≤ (p + 1) * n + j := by rw [hx, Nat.succ_mul]; omega
      have hsub : (p + 1) * n + j - (f x).length = p * n + j := by rw [hx, Nat.succ_mul]; omega
      rw [List.flatMap_cons, List.getElem?_append_right hle, hsub,
        ih fun y hy => h y (List.mem_cons_of_mem x hy)]
      rfl

/-- The rows of a problem are where they were written. -/
theorem rowsAt_of_written {problems : List Problem} {types : Problem → List Ty}
    {rows : Problem → List (List Value)} {examples : Nat} {typesText valuesText : String}
    (hlength : ∀ q ∈ problems, (rows q).length = examples)
    (hne : ∀ q ∈ problems, types q ≠ [])
    (hrows : ∀ q ∈ problems, ∀ row ∈ rows q, row.map Value.type = types q)
    (htypes : Written (problems.map fun q => (types q).map Ty.name) typesText.toList)
    (hvalues : Written (problems.flatMap fun q => (rows q).map Table.rowWords) valuesText.toList)
    {problem : Nat} {q : Problem} (hq : problems[problem]? = some q)
    (hnumbered : problem * examples ≤ Table.lastNumber) :
    RowsAt typesText valuesText problem examples (types q) (rows q) := by
  have hmem := List.mem_of_getElem? hq
  refine ⟨?_, hnumbered, hlength q hmem, fun j row hrow => ?_⟩
  · rw [htypes.wordsAt?_eq (List.forall_mem_map.2 fun q _ => isWord_of_mem_names (types q)),
      List.getElem?_map, hq, Option.map_some]
  · have hj : j < examples := hlength q hmem ▸ (List.getElem?_eq_some_iff.1 hrow).1
    have hline : Text.wordsAt? valuesText (problem * examples + j) = some (Table.rowWords row) := by
      rw [hvalues.wordsAt?_eq (List.forall_mem_flatMap.2 fun q _ =>
          List.forall_mem_map.2 fun row _ => Table.isWord_of_mem_rowWords row),
        getElem?_flatMap_of_length (fun q hq => (List.length_map _).trans (hlength q hq)) problem
          hj,
        hq, Option.bind_some, List.getElem?_map, hrow, Option.map_some]
    obtain ⟨line, hline, hread⟩ := Option.map_eq_some_iff.1 hline
    have htype := hrows q hmem row (List.mem_of_getElem? hrow)
    have hrow : row ≠ [] := by
      rintro rfl
      exact hne q hmem htype.symm
    exact ⟨line, hline, htype ▸ Table.valuesOfLine_of_words hrow hread⟩

section RoundTrip

variable {m : Type → Type} [Monad m] [LawfulMonad m] {read : ReadFile m} {directory : String}
  {tables : Tables} {problems : List Problem} {examples : Nat}

/-- The lines of written problems have numbers. -/
theorem Tables.Hold.numbered (hhold : tables.Hold problems) (hexamples : 1 ≤ examples)
    (hproblems : ∀ q ∈ problems, q.examples.length = examples)
    (hsize : tables.inputValues.length ≤ Table.lastNumber) {problem : Nat} {q : Problem}
    (hq : problems[problem]? = some q) : problem * examples ≤ Table.lastNumber := by
  have hrows : ∀ q ∈ problems, (q.inputRows.map Table.rowWords).length = examples := by
    simpa [Problem.inputRows] using hproblems
  -- the first line of the problem is there, and the text has a character for each line
  have hfirst :
      (problems.flatMap fun q => q.inputRows.map Table.rowWords)[problem * examples + 0]? =
        (q.inputRows.map Table.rowWords)[0]? := by
    rw [getElem?_flatMap_of_length hrows problem hexamples, hq, Option.bind_some]
  have hpos : 0 < (q.inputRows.map Table.rowWords).length := by
    rw [hrows q (List.mem_of_getElem? hq)]
    exact hexamples
  rw [List.getElem?_eq_getElem hpos] at hfirst
  have hlt := (List.getElem?_eq_some_iff.1 hfirst).1
  have hlength := hhold.inputValues.length_le
  rw [String.length_toList] at hlength
  omega

/-- Both pairs of tables have the rows of a written problem. -/
theorem Tables.Hold.rowsAt (hhold : tables.Hold problems) (hexamples : 1 ≤ examples)
    (hproblems : ∀ q ∈ problems, q.examples.length = examples)
    (hsize : tables.inputValues.length ≤ Table.lastNumber) {problem : Nat} {q : Problem}
    (hq : problems[problem]? = some q) :
    RowsAt tables.inputTypes tables.inputValues problem examples q.inputTypes q.inputRows ∧
      RowsAt tables.outputTypes tables.outputValues problem examples [q.outputType]
        q.outputRows := by
  have hnumbered := hhold.numbered hexamples hproblems hsize hq
  constructor
  · refine rowsAt_of_written ?_ (fun q _ => q.inputTypes_ne_nil)
      (fun q _ => q.type_of_mem_inputRows) hhold.inputTypes hhold.inputValues hq hnumbered
    simpa [Problem.inputRows] using hproblems
  · refine rowsAt_of_written ?_ (fun q _ => List.cons_ne_nil q.outputType [])
      (fun q _ => q.type_of_mem_outputRows) hhold.outputTypes hhold.outputValues hq hnumbered
    simpa [Problem.outputRows] using hproblems

/-- **Loading undoes writing.** From tables that hold some problems the examples of each of them are
loaded, and no more problems than these. That the length of a text is a machine word is no condition
on the problems: a longer text fits in no memory. -/
theorem loadExamples_of_hold (hin : tables.AreIn read directory) (hhold : tables.Hold problems)
    (hexamples : 1 ≤ examples) (hproblems : ∀ q ∈ problems, q.examples.length = examples)
    (hsize : tables.inputValues.length ≤ Table.lastNumber) :
    (∀ problem q, problems[problem]? = some q → ∃ s,
      ExampleSet.ofPairs q.examples = .ok s ∧
        (loadExamples read directory problem examples).run = pure (.ok s)) ∧
    ∀ problem, problems.length ≤ problem → ∃ fault,
      (loadExamples read directory problem examples).run = pure (.error (.format fault)) := by
  simp only [hin.run_loadExamples]
  constructor
  · intro problem q hq
    obtain ⟨hinputs, houtputs⟩ := hhold.rowsAt hexamples hproblems hsize hq
    have htargets : q.outputRows = (q.examples.map (·.2)).map ([·]) := by
      rw [List.map_map]
      rfl
    rw [htargets] at houtputs
    obtain ⟨s, hs, -⟩ := Tables.ofStates_of_rowsAt hexamples hinputs houtputs
    have hpairs : ExampleSet.ofPairs q.examples = .ok s := by
      rw [ExampleSet.ofPairs, ← hs, Problem.inputRows, List.map_map]
      rfl
    exact ⟨s, hpairs, by rw [Tables.examplesOf_eq_ofStates hinputs houtputs, hs]⟩
  · intro problem hproblem
    rcases tables.examplesOf_cases problem hexamples with
      ⟨fault, hfault⟩ | ⟨types, inputs, type, targets, hinputs, -, -⟩
    · exact ⟨fault, by rw [hfault]⟩
    · -- there is no line of types for the problem
      have hnone := hinputs.words
      rw [hhold.inputTypes.wordsAt?_eq
          (List.forall_mem_map.2 fun q _ => isWord_of_mem_names q.inputTypes),
        List.getElem?_eq_none (by simpa using hproblem)] at hnone
      cases hnone

end RoundTrip

/-! ### Two problems with extreme numbers and empty arrays, the last line blank -/

/-- The problems. -/
def twoProblems : List Problem :=
  [⟨[.int, .array], .array,
      [([.int 3, .array []], .array []), ([.int 2147483647, .array [0]], .array [7])],
      by decide, by decide, by decide⟩,
    ⟨[.array], .int,
      [([.array [1, -2]], .int 5), ([.array []], .int (-2147483648))],
      by decide, by decide, by decide⟩]

/-- Their tables, written with all kinds of white space and line ends. -/
def twoProblemTables : Tables where
  inputTypes := "Int\t Array \r\nArray\n"
  inputValues := "3 |\n2147483647 | 0\r\n 1 -2\n\r\n"
  outputTypes := "Array\nInt\n"
  outputValues := "\n7\n5\r\n-2147483648\n"

theorem twoProblemTables_hold : twoProblemTables.Hold twoProblems where
  inputTypes :=
    .line "Int\t Array ".toList
      (.word "Int" (.blank rfl (by decide) (.blank rfl (by decide)
        (.word "Array" (.blank rfl (by decide) .nil) rfl))) rfl)
      (.inr rfl) <|
    .line "Array".toList (.word "Array" .nil rfl) (.inl rfl) .nil
  inputValues :=
    .line "3 |".toList
      (.word "3" (.blank rfl (by decide) (.word "|" .nil rfl)) rfl)
      (.inl rfl) <|
    .line "2147483647 | 0".toList
      (.word "2147483647" (.blank rfl (by decide) (.word "|"
        (.blank rfl (by decide) (.word "0" .nil rfl)) rfl)) rfl)
      (.inr rfl) <|
    .line " 1 -2".toList
      (.blank rfl (by decide) (.word "1" (.blank rfl (by decide) (.word "-2" .nil rfl)) rfl))
      (.inl rfl) <|
    .line [] .nil (.inr rfl) .nil
  outputTypes :=
    .line "Array".toList (.word "Array" .nil rfl) (.inl rfl) <|
    .line "Int".toList (.word "Int" .nil rfl) (.inl rfl) .nil
  outputValues :=
    .line [] .nil (.inl rfl) <|
    .line "7".toList (.word "7" .nil rfl) (.inl rfl) <|
    .line "5".toList (.word "5" .nil rfl) (.inr rfl) <|
    .line "-2147483648".toList (.word "-2147483648" .nil rfl) (.inl rfl) .nil

theorem loadExamples_twoProblems :
    (∃ s, ExampleSet.ofPairs [([.array [1, -2]], .int 5), ([.array []], .int (-2147483648))] =
        .ok s ∧
      (loadExamples (twoProblemTables.reader "data") "data" 1 2).run = .ok s) ∧
    ∃ fault, (loadExamples (twoProblemTables.reader "data") "data" 2 2).run =
      .error (.format fault) := by
  obtain ⟨hloaded, hrefused⟩ := loadExamples_of_hold (twoProblemTables.areIn_reader "data")
    twoProblemTables_hold (by decide : 1 ≤ 2) (by decide) (by decide)
  exact ⟨hloaded 1 _ rfl, hrefused 2 (by decide)⟩

end DataDirectory

end ProgramSearch

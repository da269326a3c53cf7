/-
# ProgramSearch.Proofs.Loading.Tables -- which lines of a table decide what is read from it

A types table is asked for the line of a problem, and a values table for one line after another from
the first one of the problem on. Each row that is read is a function of the line with its own number
and has the types that were asked for.
-/

import ProgramSearch.Proofs.Trying
import ProgramSearch.Table

namespace ProgramSearch

/-! ## Lines by their places -/

namespace Text

/-- The text of the line at a place of a text, places counted from zero. -/
def lineText? (text : String) (i : Nat) : Option String := (lines text)[i]?.map Line.text

/-- The words of the line at a place of a text. -/
def wordsAt? (text : String) (i : Nat) : Option (List String) :=
  (lines text)[i]?.map fun line => line.words.map Word.text

theorem getElem?_numberLines (number i : Nat) (css : List (List Char)) :
    (numberLines number css)[i]? = css[i]?.map (Line.mk (number + i)) := by
  induction css generalizing number i with
  | nil => rfl
  | cons cs css ih =>
    cases i with
    | zero => rfl
    | succ i =>
      rw [numberLines, List.getElem?_cons_succ, List.getElem?_cons_succ, ih, Nat.add_right_comm,
        Nat.add_assoc]

/-- The line at a place has the number of that place. -/
theorem getElem?_lines (text : String) (i : Nat) :
    (lines text)[i]? = (splitLines [] text.toList)[i]?.map (Line.mk (i + 1)) := by
  rw [lines, getElem?_numberLines, Nat.add_comm]

theorem number_of_getElem?_lines {text : String} {i : Nat} {line : Line}
    (h : (lines text)[i]? = some line) : line.number = i + 1 := by
  rw [getElem?_lines, Option.map_eq_some_iff] at h
  obtain ⟨cs, -, rfl⟩ := h
  rfl

/-- Lines at the same place that have the same text are the same. -/
theorem getElem?_lines_eq_of_lineText?_eq {text text' : String} {i : Nat}
    (h : lineText? text i = lineText? text' i) : (lines text)[i]? = (lines text')[i]? := by
  simp only [lineText?, getElem?_lines, Option.map_map] at h ⊢
  have hinj : Function.Injective (Line.text ∘ Line.mk (i + 1)) :=
    fun _ _ hcs => String.ofList_injective hcs
  exact congrArg _ (Option.map_injective hinj h)

end Text

/-- A type is found under its own name only. -/
theorem Ty.ofName?_eq_some_iff {name : String} {type : Ty} :
    ofName? name = some type ↔ type.name = name := by
  constructor
  · intro h
    unfold ofName? at h
    split_ifs at h with hint harray
    · cases h
      exact hint.symm
    · cases h
      exact harray.symm
  · rintro rfl
    exact ofName?_name type

namespace Table

open Text (Line Word)

variable {line : Line} {word : Word} {types : List Ty} {text : String}

/-! ## Types -/

theorem typeOfWord_eq_ok_iff {type : Ty} :
    typeOfWord line word = .ok type ↔ word.text = type.name := by
  constructor
  · intro h
    unfold typeOfWord at h
    split at h
    next found hfound =>
      cases h
      exact (Ty.ofName?_eq_some_iff.1 hfound).symm
    next => cases h
  · intro h
    rw [typeOfWord, h, Ty.ofName?_name]
    rfl

/-- The types that are read from a line are those that its words name. -/
theorem typesOfLine_eq_ok_iff :
    typesOfLine line = .ok types ↔ line.words.map Word.text = types.map Ty.name := by
  rw [typesOfLine, mapM_eq_ok_iff, ← List.forall₂_eq_eq_eq, List.forall₂_map_left_iff,
    List.forall₂_map_right_iff]
  simp only [typeOfWord_eq_ok_iff]

/-- The types that are read for a problem are those that the words of its line name. -/
theorem typesOfProblem_eq_ok_iff {problem : Nat} :
    typesOfProblem text problem = .ok types ↔
      Text.wordsAt? text problem = some (types.map Ty.name) := by
  unfold typesOfProblem Text.wordsAt?
  cases (Text.lines text)[problem]? with
  | none => simp [throw, throwThe, MonadExceptOf.throw]
  | some line => simp [typesOfLine_eq_ok_iff]

/-- Texts with the same line of a problem have the same types of it. -/
theorem typesOfProblem_congr {text' : String} {problem : Nat}
    (h : Text.lineText? text problem = Text.lineText? text' problem) :
    typesOfProblem text problem = typesOfProblem text' problem := by
  rw [typesOfProblem, typesOfProblem, Text.getElem?_lines_eq_of_lineText?_eq h]

/-! ## Values -/

/-- Values that are read from columns have the types that were asked for. -/
theorem types_of_valuesOfColumns {i : Nat} {columns : List (List Int32)} {values : List Value}
    (hlength : columns.length = types.length)
    (h : valuesOfColumns line i types columns = .ok values) : values.map Value.type = types := by
  induction types generalizing i columns values with
  | nil =>
    obtain rfl := List.length_eq_zero_iff.1 hlength
    cases h
    rfl
  | cons type types ih =>
    obtain _ | ⟨column, columns⟩ := columns
    · cases hlength
    have hrest : columns.length = types.length := Nat.succ.inj hlength
    cases type with
    | array =>
      obtain ⟨rest, hvalues, h⟩ := exists_of_bind_eq_ok h
      cases h
      rw [List.map_cons, ih hrest hvalues, Value.type]
    | int =>
      -- a column for an integer must hold exactly one
      obtain _ | ⟨n, _ | ⟨n', column⟩⟩ := column
      · cases h
      · obtain ⟨rest, hvalues, h⟩ := exists_of_bind_eq_ok h
        cases h
        rw [List.map_cons, ih hrest hvalues, Value.type]
      · cases h

/-- Values that are read from a line have the types that were asked for. -/
theorem types_of_valuesOfLine {values : List Value} (h : valuesOfLine types line = .ok values) :
    values.map Value.type = types := by
  obtain ⟨cells, -, h⟩ := exists_of_bind_eq_ok h
  by_cases hlength : (columns cells).length = types.length
  · exact types_of_valuesOfColumns hlength (by simpa [hlength] using h)
  · simp [hlength, throw, throwThe, MonadExceptOf.throw, bind, Except.bind] at h

/-! ## Rows -/

theorem lastNumber_lt : lastNumber < Nat.pow 2 64 := by
  decide

/-- The values on the line of one example of a problem; `first` is the number of the line before
that of the first example. -/
def rowAt (text : String) (types : List Ty) (problem first j : Nat) :
    Except ParseError (List Value) :=
  match (Text.lines text)[first + j]? with
  | some line => valuesOfLine types line
  | none => throw (absentLine (first + j + 1) (.missingExample j problem))

theorem rowAt_eq_ok_iff {problem first j : Nat} {row : List Value} :
    rowAt text types problem first j = .ok row ↔
      ∃ line, (Text.lines text)[first + j]? = some line ∧ valuesOfLine types line = .ok row := by
  unfold rowAt
  cases (Text.lines text)[first + j]? with
  | none => simp [throw, throwThe, MonadExceptOf.throw]
  | some line => simp

/-- Reading lines in order comes to reading each one at its place. -/
theorem rowsFrom_eq_mapM (text : String) (types : List Ty) (problem first j count : Nat) :
    rowsFrom types problem (j + count) first j ((Text.lines text).drop (first + j)) =
      (List.range' j count).mapM (rowAt text types problem first) := by
  induction count generalizing j with
  | zero =>
    cases (Text.lines text).drop (first + j) <;> simp [rowsFrom]
  | succ count ih =>
    have hj : j < j + (count + 1) := by omega
    have ih := ih (j + 1)
    rw [Nat.add_right_comm j 1 count, ← Nat.add_assoc first j 1] at ih
    rw [List.range'_succ, List.mapM_cons, ← ih, rowAt]
    cases hline : (Text.lines text)[first + j]? with
    | none =>
      rw [List.drop_eq_nil_of_le (List.getElem?_eq_none_iff.1 hline), rowsFrom, if_pos hj]
      rfl
    | some line =>
      obtain ⟨hlt, rfl⟩ := List.getElem?_eq_some_iff.1 hline
      rw [List.drop_eq_getElem_cons hlt, rowsFrom, if_pos hj]
      rfl

/-- Where the lines of a problem have numbers, its rows are read from them, each from its own. -/
theorem valuesOfProblem_eq_mapM {problem examples : Nat}
    (h : problem * examples ≤ lastNumber) :
    valuesOfProblem text problem examples types =
      (List.range examples).mapM (rowAt text types problem (problem * examples)) := by
  have hrows := rowsFrom_eq_mapM text types problem (problem * examples) 0 examples
  rw [Nat.zero_add, Nat.add_zero] at hrows
  rw [valuesOfProblem, if_neg (Nat.not_lt.2 h), hrows, List.range_eq_range']

/-- The rows of a problem are those of its lines, if these have numbers and are there. -/
theorem valuesOfProblem_eq_ok_iff {problem examples : Nat} {rows : List (List Value)} :
    valuesOfProblem text problem examples types = .ok rows ↔
      problem * examples ≤ lastNumber ∧ rows.length = examples ∧
        ∀ j row, rows[j]? = some row → ∃ line,
          (Text.lines text)[problem * examples + j]? = some line ∧
            valuesOfLine types line = .ok row := by
  by_cases h : problem * examples ≤ lastNumber
  · simp only [valuesOfProblem_eq_mapM h, mapM_eq_ok_iff, List.forall₂_iff_get, List.length_range,
      List.get_eq_getElem, List.getElem_range, rowAt_eq_ok_iff, h, true_and]
    constructor
    · rintro ⟨rfl, hrows⟩
      refine ⟨rfl, fun j row hrow => ?_⟩
      obtain ⟨hj, rfl⟩ := List.getElem?_eq_some_iff.1 hrow
      exact hrows j hj hj
    · rintro ⟨rfl, hrows⟩
      exact ⟨rfl, fun j _ hj => hrows j _ (List.getElem?_eq_getElem hj)⟩
  · have hpast : problem * examples > lastNumber := Nat.lt_of_not_le h
    simp [valuesOfProblem, hpast, h, throw, throwThe, MonadExceptOf.throw]

/-- Texts with the same lines of a problem have the same rows of it. -/
theorem valuesOfProblem_congr {text' : String} {problem examples : Nat}
    (h : ∀ j < examples, Text.lineText? text (problem * examples + j) =
      Text.lineText? text' (problem * examples + j)) :
    valuesOfProblem text problem examples types = valuesOfProblem text' problem examples types := by
  by_cases hfits : problem * examples ≤ lastNumber
  · rw [valuesOfProblem_eq_mapM hfits, valuesOfProblem_eq_mapM hfits]
    refine mapM_congr fun j hj => ?_
    rw [rowAt, rowAt, Text.getElem?_lines_eq_of_lineText?_eq (h j (List.mem_range.1 hj))]
  · rw [valuesOfProblem, valuesOfProblem, if_pos (Nat.lt_of_not_le hfits),
      if_pos (Nat.lt_of_not_le hfits)]

end Table

end ProgramSearch

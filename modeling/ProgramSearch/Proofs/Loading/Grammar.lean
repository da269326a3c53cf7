/-
# ProgramSearch.Proofs.Loading.Grammar -- the grammar of a values line

What a values line says is described without reading it: its words part at the bars into columns,
the words of a column are numerals, and the columns are values at the types that are asked for.
Three things can be wrong, and which of them is told, and of what word or column, is part of it:
first a word that is neither a bar nor a number, then the number of columns, then a column for an
integer. Reading a line gives the answer that the grammar gives, and there is one for every line.
-/

import Mathlib.Data.List.Induction
import Mathlib.Data.Nat.Digits.Defs
import ProgramSearch.Proofs.Loading.RoundTrip
import ProgramSearch.Proofs.Loading.Words

namespace ProgramSearch

/-! ## Numerals -/

namespace Numeral

/-- Decimal digits, one at least, and the number that they denote by position. -/
structure Digits (digits : List Char) (n : Nat) : Prop where
  ne_nil : digits ≠ []
  ascii : ∀ c ∈ digits, '0' ≤ c ∧ c ≤ '9'
  value : Nat.ofDigits 10 (digits.reverse.map fun c => c.toNat - '0'.toNat) = n

/-- Digits after an optional sign, and the number that they denote. -/
inductive Denotes : List Char → Int → Prop where
  | plain {digits : List Char} {n : Nat} (h : Digits digits n) : Denotes digits n
  | plus {digits : List Char} {n : Nat} (h : Digits digits n) : Denotes ('+' :: digits) n
  | minus {digits : List Char} {n : Nat} (h : Digits digits n) : Denotes ('-' :: digits) (-n)

theorem value_eq_ofDigits (digits : List Char) :
    value digits = Nat.ofDigits 10 (digits.reverse.map fun c => c.toNat - '0'.toNat) := by
  induction digits using List.reverseRecOn with
  | nil => rfl
  | append_singleton digits c ih =>
    rw [value] at ih ⊢
    rw [List.foldl_append, ih, List.reverse_append, List.reverse_singleton, List.singleton_append,
      List.map_cons, Nat.ofDigits_cons]
    show 10 * _ + _ = _ + 10 * _
    rw [Nat.add_comm]

theorem nat?_eq_some_iff {digits : List Char} {n : Nat} :
    nat? digits = some n ↔ Digits digits n := by
  have hascii : digits.all Char.isDigit = true ↔ ∀ c ∈ digits, '0' ≤ c ∧ c ≤ '9' := by
    simp only [List.all_eq_true, Char.isDigit, Bool.and_eq_true, decide_eq_true_eq]
    rfl
  rw [nat?, value_eq_ofDigits]
  constructor
  · intro h
    split at h
    next hdigits =>
      simp only [Bool.and_eq_true, Bool.not_eq_true', List.isEmpty_eq_false_iff, hascii] at hdigits
      exact ⟨hdigits.1, hdigits.2, Option.some.inj h⟩
    next => cases h
  · intro h
    rw [if_pos, h.value]
    simp only [Bool.and_eq_true, Bool.not_eq_true', List.isEmpty_eq_false_iff, hascii]
    exact ⟨h.ne_nil, h.ascii⟩

theorem map_cast_eq_some_iff {o : Option Nat} {f : Int → Int} {n : Int} :
    (do let a ← o; pure (a : Int)).map f = some n ↔ ∃ m : Nat, o = some m ∧ f m = n := by
  cases o <;> simp

theorem int?_eq_some_iff {cs : List Char} {n : Int} : int? cs = some n ↔ Denotes cs n := by
  constructor
  · intro h
    unfold int? at h
    split at h
    next rest =>
      obtain ⟨m, hm, rfl⟩ := map_cast_eq_some_iff.1 h
      exact .minus (nat?_eq_some_iff.1 hm)
    next rest =>
      obtain ⟨m, hm, rfl⟩ := map_cast_eq_some_iff.1 h
      exact .plus (nat?_eq_some_iff.1 hm)
    next =>
      obtain ⟨m, hm, rfl⟩ := map_cast_eq_some_iff.1 h
      exact .plain (nat?_eq_some_iff.1 hm)
  · intro h
    cases h with
    | plain h => exact int?_of_nat? (nat?_eq_some_iff.2 h)
    | plus h => exact map_cast_eq_some_iff.2 ⟨_, nat?_eq_some_iff.2 h, rfl⟩
    | minus h => exact map_cast_eq_some_iff.2 ⟨_, nat?_eq_some_iff.2 h, rfl⟩

/-- A numeral is read as a 32-bit number where it denotes one. -/
theorem int32?_eq_some_iff {cs : List Char} {n : Int32} :
    int32? cs = some n ↔ Denotes cs n.toInt := by
  have hlow : -2147483648 ≤ n.toInt := n.le_toInt
  have hhigh : n.toInt < 2147483648 := n.toInt_lt
  have hpow : ((Nat.pow 2 (32 - 1) : Nat) : Int) = 2147483648 := rfl
  simp only [int32?, signed?, Option.map_eq_some_iff, Option.filter_eq_some_iff, int?_eq_some_iff,
    Bool.and_eq_true, decide_eq_true_eq, hpow]
  constructor
  · rintro ⟨z, ⟨hz, hzlow, hzhigh⟩, rfl⟩
    rwa [Int32.toInt_ofInt_of_le (by omega) (by omega)]
  · intro h
    exact ⟨n.toInt, ⟨h, hlow, hhigh⟩, Int32.ofInt_toInt n⟩

end Numeral

namespace Table

open Text (Line Word)

variable {line : Line} {word : Word} {words : List Word} {types : List Ty}
  {numbers : List (List Int32)}

/-! ## Words and columns -/

/-- Whether a word is the bar between two columns. -/
def isBar (word : Word) : Bool := word.chars = ['|']

/-- A word is a numeral of a number. -/
def IsNumber (word : Word) (n : Int32) : Prop := Numeral.Denotes word.chars n.toInt

theorem not_isNumber_of_isBar (h : isBar word = true) (n : Int32) : ¬ IsNumber word n := by
  have hnone : Numeral.int32? ['|'] = none := by decide
  rw [IsNumber, ← Numeral.int32?_eq_some_iff, of_decide_eq_true h, hnone]
  intro hsome
  cases hsome

theorem cellOfWord_eq_bar_iff : cellOfWord line word = .ok .bar ↔ isBar word = true := by
  unfold cellOfWord isBar
  split
  next h => simp [h, pure, Except.pure]
  next h =>
    cases Numeral.int32? word.chars <;> simp [h, pure, Except.pure, throw, throwThe,
      MonadExceptOf.throw]

theorem cellOfWord_eq_number_iff {n : Int32} :
    cellOfWord line word = .ok (.number n) ↔ IsNumber word n := by
  by_cases h : isBar word = true
  · rw [cellOfWord_eq_bar_iff.2 h]
    exact iff_of_false (by simp) (not_isNumber_of_isBar h n)
  · have hne : word.chars ≠ ['|'] := by simpa [isBar] using h
    rw [IsNumber, ← Numeral.int32?_eq_some_iff, cellOfWord, if_neg hne]
    cases Numeral.int32? word.chars <;> simp [pure, Except.pure, throw, throwThe,
      MonadExceptOf.throw]

theorem cellOfWord_eq_error_iff {e : ParseError} :
    cellOfWord line word = .error e ↔ isBar word = false ∧ (∀ n, ¬ IsNumber word n) ∧
      e = wordError line word (.invalidInteger word.text) := by
  constructor
  · intro h
    refine ⟨?_, fun n hn => ?_, ?_⟩
    · rw [Bool.eq_false_iff]
      intro hbar
      rw [cellOfWord_eq_bar_iff.2 hbar] at h
      cases h
    · rw [cellOfWord_eq_number_iff.2 hn] at h
      cases h
    · unfold cellOfWord at h
      split at h
      next => cases h
      next =>
        split at h
        next => cases h
        next => exact (Except.error.inj h).symm
  · rintro ⟨hbar, hnumber, rfl⟩
    have hnone : Numeral.int32? word.chars = none := by
      rw [Option.eq_none_iff_forall_ne_some]
      exact fun n hn => hnumber n (Numeral.int32?_eq_some_iff.1 hn)
    have hne : word.chars ≠ ['|'] := by simpa [isBar] using hbar
    rw [cellOfWord, if_neg hne, hnone]
    rfl

/-- The words part at the bars into columns of numerals of these numbers. -/
def Columns (words : List Word) (numbers : List (List Int32)) : Prop :=
  List.Forall₂ (List.Forall₂ IsNumber) (words.splitOnP isBar) numbers

theorem columns_nil : Columns [] [[]] := by
  rw [Columns, List.splitOnP_nil]
  exact .cons .nil .nil

theorem columns_cons_of_isBar (h : isBar word = true) :
    Columns (word :: words) numbers ↔ ∃ rest, numbers = [] :: rest ∧ Columns words rest := by
  rw [Columns, List.splitOnP_cons_eq_if_modifyHead, if_pos h, List.forall₂_cons_left_iff]
  simp [Columns, List.forall₂_nil_left_iff, and_comm]

theorem columns_cons_of_not_isBar (h : isBar word = false) :
    Columns (word :: words) numbers ↔ ∃ n column rest, numbers = (n :: column) :: rest ∧
      IsNumber word n ∧ Columns words (column :: rest) := by
  obtain ⟨first, others, hsplit⟩ :=
    List.exists_cons_of_ne_nil (List.splitOnP_ne_nil isBar words)
  rw [Columns, List.splitOnP_cons_eq_if_modifyHead, if_neg (by simp [h]), hsplit,
    List.modifyHead_cons, List.forall₂_cons_left_iff]
  constructor
  · rintro ⟨numeral, rest, hfirst, hrest, rfl⟩
    obtain ⟨n, column, hn, hcolumn, rfl⟩ := List.forall₂_cons_left_iff.1 hfirst
    exact ⟨n, column, rest, rfl, hn, by rw [Columns, hsplit]; exact .cons hcolumn hrest⟩
  · rintro ⟨n, column, rest, rfl, hn, hcolumns⟩
    rw [Columns, hsplit, List.forall₂_cons] at hcolumns
    exact ⟨n :: column, rest, .cons hn hcolumns.1, hcolumns.2, rfl⟩

/-- The columns of numerals are found by reading the words one by one. -/
theorem columns_iff (line : Line) :
    Columns words numbers ↔
      ∃ cells, words.mapM (cellOfWord line) = .ok cells ∧ columns cells = numbers := by
  induction words generalizing numbers with
  | nil =>
    constructor
    · intro h
      rw [Columns, List.splitOnP_nil] at h
      obtain ⟨column, rest, hcolumn, hrest, rfl⟩ := List.forall₂_cons_left_iff.1 h
      rw [List.forall₂_nil_left_iff] at hcolumn hrest
      exact ⟨[], rfl, by rw [hcolumn, hrest, columns]⟩
    · rintro ⟨cells, hcells, rfl⟩
      cases hcells
      exact columns_nil
  | cons word words ih =>
    simp only [mapM_eq_ok_iff] at ih ⊢
    cases h : isBar word with
    | true =>
      rw [columns_cons_of_isBar h]
      constructor
      · rintro ⟨rest, rfl, hrest⟩
        obtain ⟨cells, hcells, rfl⟩ := ih.1 hrest
        exact ⟨.bar :: cells, .cons (cellOfWord_eq_bar_iff.2 h) hcells, rfl⟩
      · rintro ⟨cells, hcells, rfl⟩
        obtain ⟨cell, rest, hcell, hrest, rfl⟩ := List.forall₂_cons_left_iff.1 hcells
        rw [cellOfWord_eq_bar_iff.2 h] at hcell
        cases hcell
        exact ⟨columns rest, rfl, ih.2 ⟨rest, hrest, rfl⟩⟩
    | false =>
      rw [columns_cons_of_not_isBar h]
      constructor
      · rintro ⟨n, column, rest, rfl, hn, hrest⟩
        obtain ⟨cells, hcells, heq⟩ := ih.1 hrest
        exact ⟨.number n :: cells, .cons (cellOfWord_eq_number_iff.2 hn) hcells,
          by rw [columns, heq]⟩
      · rintro ⟨cells, hcells, rfl⟩
        obtain ⟨cell, others, hcell, hothers, rfl⟩ := List.forall₂_cons_left_iff.1 hcells
        have hrest := ih.2 ⟨others, hothers, rfl⟩
        cases cell with
        | bar =>
          rw [cellOfWord_eq_bar_iff.1 hcell] at h
          cases h
        | number n =>
          have hne : columns others ≠ [] := by
            intro hnil
            rw [Columns, hnil, List.forall₂_nil_right_iff] at hrest
            exact List.splitOnP_ne_nil isBar words hrest
          obtain ⟨column, rest, hcolumns⟩ := List.exists_cons_of_ne_nil hne
          exact ⟨n, column, rest, by rw [columns, hcolumns], cellOfWord_eq_number_iff.1 hcell,
            hcolumns ▸ hrest⟩

/-! ## Columns at their types -/

/-- The first column for an integer that does not hold exactly one number. -/
structure FirstMisfit (types : List Ty) (numbers : List (List Int32)) (i : Nat)
    (misfit : List Int32) : Prop where
  type : types[i]? = some .int
  column : numbers[i]? = some misfit
  length : misfit.length ≠ 1
  first : ∀ j < i, types[j]? = some .int → ∀ c, numbers[j]? = some c → c.length = 1

theorem FirstMisfit.unique {i j : Nat} {column column' : List Int32}
    (h : FirstMisfit types numbers i column) (h' : FirstMisfit types numbers j column') :
    i = j ∧ column = column' := by
  have hij : i = j := by
    rcases Nat.lt_trichotomy i j with hlt | heq | hgt
    · exact absurd (h'.first i hlt h.type column h.column) h.length
    · exact heq
    · exact absurd (h.first j hgt h'.type column' h'.column) h'.length
  subst hij
  exact ⟨rfl, Option.some.inj (h.column.symm.trans h'.column)⟩

theorem FirstMisfit.cons {i : Nat} {type : Ty} {column misfit : List Int32}
    (hcolumn : type = .int → column.length = 1) (h : FirstMisfit types numbers i misfit) :
    FirstMisfit (type :: types) (column :: numbers) (i + 1) misfit := by
  refine ⟨h.type, h.column, h.length, fun j hj htype c hc => ?_⟩
  cases j with
  | zero =>
    cases hc
    exact hcolumn (Option.some.inj htype)
  | succ j => exact h.first j (Nat.lt_of_succ_lt_succ hj) htype c hc

/-- Columns that are the integers of values at these types have no misfit. -/
theorem not_firstMisfit_elements {values : List Value} {i : Nat} {column : List Int32} :
    ¬ FirstMisfit (values.map Value.type) (values.map Value.elements) i column := by
  intro h
  have htype := h.type
  have hcolumn := h.column
  rw [List.getElem?_map, Option.map_eq_some_iff] at htype hcolumn
  obtain ⟨v, hv, htype⟩ := htype
  obtain ⟨w, hw, rfl⟩ := hcolumn
  obtain rfl : v = w := Option.some.inj (hv.symm.trans hw)
  cases v with
  | int n => exact h.length rfl
  | array xs => cases htype

/-- What columns from number `i` on say at as many types: values, or the first misfit. -/
inductive ColumnsSay (line : Line) (i : Nat) (types : List Ty) (numbers : List (List Int32)) :
    Except ParseError (List Value) → Prop where
  | values {values : List Value} (htypes : values.map Value.type = types)
      (helements : values.map Value.elements = numbers) :
      ColumnsSay line i types numbers (.ok values)
  | misfit {k : Nat} {misfit : List Int32} (hmisfit : FirstMisfit types numbers k misfit) :
      ColumnsSay line i types numbers (.error (lineError line (.intColumn (i + k) misfit.length)))

/-- A column that fits leaves the answer to the others. -/
theorem ColumnsSay.cons {i : Nat} {answer : Except ParseError (List Value)}
    (h : ColumnsSay line (i + 1) types numbers answer) (v : Value) :
    ColumnsSay line i (v.type :: types) (v.elements :: numbers)
      (do return v :: (← answer)) := by
  cases h with
  | @values values htypes helements =>
    show ColumnsSay line i _ _ (.ok (v :: values))
    exact .values (by rw [List.map_cons, htypes]) (by rw [List.map_cons, helements])
  | @misfit k misfit hmisfit =>
    have hcolumn : v.type = .int → v.elements.length = 1 := by
      intro htype
      cases v with
      | int n => rfl
      | array xs => cases htype
    have hsay : ColumnsSay line i _ _ _ := .misfit (hmisfit.cons hcolumn)
    rwa [← Nat.add_assoc, Nat.add_right_comm] at hsay

/-- Where there are as many columns as types, what they say is read from them. -/
theorem columnsSay_valuesOfColumns (line : Line) (i : Nat)
    (hlength : numbers.length = types.length) :
    ColumnsSay line i types numbers (valuesOfColumns line i types numbers) := by
  induction types generalizing i numbers with
  | nil =>
    obtain rfl := List.length_eq_zero_iff.1 hlength
    exact .values rfl rfl
  | cons type types ih =>
    obtain _ | ⟨column, numbers⟩ := numbers
    · cases hlength
    have hrest := ih (i + 1) (Nat.succ.inj hlength)
    cases type with
    | array => exact hrest.cons (.array column)
    | int =>
      by_cases hone : column.length = 1
      · obtain ⟨n, rfl⟩ := List.length_eq_one_iff.1 hone
        exact hrest.cons (.int n)
      · have hmisfit : FirstMisfit (.int :: types) (column :: numbers) 0 column :=
          ⟨rfl, rfl, hone, fun j hj => absurd hj (Nat.not_lt_zero j)⟩
        obtain _ | ⟨n, _ | ⟨n', column⟩⟩ := column
        · exact .misfit hmisfit
        · exact absurd rfl hone
        · exact .misfit hmisfit

/-! ## Lines -/

/-- What a values line says at some types: its values, or the first thing that is wrong with it. -/
inductive Says (types : List Ty) (line : Line) : Except ParseError (List Value) → Prop where
  /-- The leftmost word that is neither a bar nor a number is refused at its column. -/
  | word {before after : List Word} {word : Word}
      (hwords : line.Parts (before ++ word :: after))
      (hbefore : ∀ w ∈ before, isBar w = true ∨ ∃ n, IsNumber w n)
      (hbar : isBar word = false) (hnumber : ∀ n, ¬ IsNumber word n) :
      Says types line
        (.error ⟨none, line.number, some word.column, .invalidInteger word.text, line.text⟩)
  /-- There must be as many columns as types. -/
  | count {words : List Word} {numbers : List (List Int32)} (hwords : line.Parts words)
      (hcolumns : Columns words numbers) (hcount : numbers.length ≠ types.length) :
      Says types line
        (.error ⟨none, line.number, none, .columnCount types.length numbers.length, line.text⟩)
  /-- The first column for an integer that does not hold exactly one number is refused. -/
  | misfit {words : List Word} {numbers : List (List Int32)} {i : Nat} {column : List Int32}
      (hwords : line.Parts words) (hcolumns : Columns words numbers)
      (hcount : numbers.length = types.length) (hmisfit : FirstMisfit types numbers i column) :
      Says types line
        (.error ⟨none, line.number, none, .intColumn i column.length, line.text⟩)
  /-- Otherwise the values have the types and hold the numbers. -/
  | values {words : List Word} {values : List Value} (hwords : line.Parts words)
      (htypes : values.map Value.type = types)
      (hcolumns : Columns words (values.map Value.elements)) : Says types line (.ok values)

/-- From columns of numerals the values are read, if there are as many as types. -/
theorem valuesOfLine_of_columns (h : Columns line.words numbers) :
    valuesOfLine types line =
      if numbers.length ≠ types.length then
        .error (lineError line (.columnCount types.length numbers.length))
      else valuesOfColumns line 0 types numbers := by
  obtain ⟨cells, hcells, rfl⟩ := (columns_iff line).1 h
  rw [valuesOfLine, hcells]
  show (if _ then _ else _) = _
  split <;> rfl

/-- Every line says what is read from it. -/
theorem says_valuesOfLine (types : List Ty) (line : Line) :
    Says types line (valuesOfLine types line) := by
  have hwords := line.parts_words
  cases hcells : line.words.mapM (cellOfWord line) with
  | error e =>
    obtain ⟨before, word, after, hsplit, hbefore, hword⟩ := mapM_eq_error_iff.1 hcells
    obtain ⟨hbar, hnumber, rfl⟩ := cellOfWord_eq_error_iff.1 hword
    rw [valuesOfLine, hcells]
    refine .word (hsplit ▸ hwords) (fun w hw => ?_) hbar hnumber
    obtain ⟨cell, hcell⟩ := hbefore w hw
    cases cell with
    | bar => exact .inl (cellOfWord_eq_bar_iff.1 hcell)
    | number n => exact .inr ⟨n, cellOfWord_eq_number_iff.1 hcell⟩
  | ok cells =>
    have hcolumns : Columns line.words (columns cells) := (columns_iff line).2 ⟨cells, hcells, rfl⟩
    rw [valuesOfLine_of_columns hcolumns]
    split
    next hcount => exact .count hwords hcolumns hcount
    next hcount =>
      have hcount := not_not.1 hcount
      generalize hanswer : valuesOfColumns line 0 types (columns cells) = answer
      cases hanswer ▸ columnsSay_valuesOfColumns line 0 hcount with
      | values htypes helements => exact .values hwords htypes (helements ▸ hcolumns)
      | @misfit k misfit hmisfit =>
        rw [Nat.zero_add]
        exact .misfit hwords hcolumns hcount hmisfit

/-- **Values lines have a grammar.** Reading a line at some types answers what the line says at
them, and nothing else. -/
theorem valuesOfLine_eq_iff_says {answer : Except ParseError (List Value)} :
    valuesOfLine types line = answer ↔ Says types line answer := by
  constructor
  · rintro rfl
    exact says_valuesOfLine types line
  · intro h
    cases h with
    | word hwords hbefore hbar hnumber =>
      rw [Text.Line.parts_iff] at hwords
      rw [valuesOfLine, mapM_eq_error_iff.2 ⟨_, _, _, hwords, fun w hw => ?_,
        cellOfWord_eq_error_iff.2 ⟨hbar, hnumber, rfl⟩⟩]
      · rfl
      · rcases hbefore w hw with h | ⟨n, h⟩
        · exact ⟨_, cellOfWord_eq_bar_iff.2 h⟩
        · exact ⟨_, cellOfWord_eq_number_iff.2 h⟩
    | count hwords hcolumns hcount =>
      rw [Text.Line.parts_iff] at hwords
      rw [valuesOfLine_of_columns (hwords ▸ hcolumns), if_pos hcount]
      rfl
    | misfit hwords hcolumns hcount hmisfit =>
      rw [Text.Line.parts_iff] at hwords
      rw [valuesOfLine_of_columns (hwords ▸ hcolumns), if_neg (not_not.2 hcount)]
      generalize hanswer : valuesOfColumns line 0 types _ = answer
      cases hanswer ▸ columnsSay_valuesOfColumns line 0 hcount with
      | values htypes helements =>
        subst htypes helements
        exact absurd hmisfit not_firstMisfit_elements
      | misfit hmisfit' =>
        obtain ⟨rfl, rfl⟩ := hmisfit.unique hmisfit'
        rw [Nat.zero_add]
        rfl
    | @values words values hwords htypes hcolumns =>
      rw [Text.Line.parts_iff] at hwords
      rw [valuesOfLine_of_columns (hwords ▸ hcolumns), ← htypes, if_neg (by simp)]
      exact valuesOfColumns_elements line 0 values

/-- A word that is no number is told before the columns are counted. -/
example : valuesOfLine [.int] ⟨1, "1 é x | |".toList⟩ =
    .error ⟨none, 1, some 3, .invalidInteger "é", "1 é x | |"⟩ := rfl

end Table

end ProgramSearch

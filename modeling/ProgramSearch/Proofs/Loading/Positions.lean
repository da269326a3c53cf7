/-
# ProgramSearch.Proofs.Loading.Positions -- where errors say that a text is wrong

An error that has a column blames one word. It tells the line that the word stands in and shows it
as it was read, and the column is that of the first byte of the word, whatever stands before it;
the message quotes the word, or the number that it was read as. Of all the words of the text, in
reading order, it is the first that is refused, and there is such an error wherever some word is
refused. What a reader refuses may hang on the place of a word in reading order: of a prior it is
every other word only.
-/

import ProgramSearch.Proofs.Loading.Grammar
import ProgramSearch.Proofs.Loading.Priors

namespace ProgramSearch

open Text (Line Word)

/-! ## Words in their lines -/

namespace Text

/-- A word stands in a line between two parts of it, parted from them by white space. -/
structure Between (content before word after : String) : Prop where
  content : content = before ++ word ++ after
  isWord : IsWord word
  opens : before.toList.getLast?.all isBlank = true
  closes : after.toList.head?.all isBlank = true

/-- Each of the words that characters part into stands between white space at its column. -/
theorem PartsFrom.exists_append {offset : Nat} {cs : List Char} {words : List Word}
    (h : PartsFrom offset cs words) {word : Word} (hword : word ∈ words) :
    ∃ before after, cs = before ++ word.chars ++ after ∧
      word.column = offset + byteSize before + 1 ∧ word.chars ≠ [] ∧
      word.chars.any isBlank = false ∧ before.getLast?.all isBlank = true ∧
      after.head?.all isBlank = true := by
  induction h with
  | nil => cases hword
  | @blank offset c cs words hblank hrest ih =>
    obtain ⟨before, after, rfl, hcolumn, hne, hchars, hopens, hcloses⟩ := ih hword
    refine ⟨c :: before, after, rfl, ?_, hne, hchars, ?_, hcloses⟩
    · rw [hcolumn, byteSize_cons]
      omega
    · cases before with
      | nil => exact hblank
      | cons d before => simpa [List.getLast?_cons] using hopens
  | @word offset chars cs words hne hchars hgap hrest ih =>
    rcases List.mem_cons.1 hword with rfl | hword
    · exact ⟨[], cs, rfl, rfl, hne, hchars, rfl, hgap⟩
    · obtain ⟨before, after, rfl, hcolumn, hne', hchars', hopens, hcloses⟩ := ih hword
      refine ⟨chars ++ before, after, by simp, ?_, hne', hchars', ?_, hcloses⟩
      · rw [hcolumn, byteSize_append]
        omega
      · cases before with
        | nil =>
          -- the word before this one would go on into it
          obtain ⟨c, rest, hword⟩ := List.exists_cons_of_ne_nil hne'
          rw [hword] at hgap hchars'
          have hc : isBlank c = true := hgap
          simp [hc] at hchars'
        | cons d before => simpa [List.getLast?_append, List.getLast?_cons] using hopens

/-- Each word of a line stands in it at its column. -/
theorem Line.exists_between {line : Line} {word : Word} (hword : word ∈ line.words) :
    ∃ before after, Between line.text before word.text after ∧
      word.column = before.utf8ByteSize + 1 := by
  obtain ⟨before, after, hline, hcolumn, hne, hchars, hopens, hcloses⟩ :=
    PartsFrom.exists_append line.parts_words hword
  refine ⟨String.ofList before, String.ofList after, ⟨?_, ⟨?_, ?_⟩, ?_, ?_⟩, ?_⟩
  · rw [Line.text, hline, String.ofList_append, String.ofList_append]
    rfl
  · rwa [Word.text, String.toList_ofList]
  · rwa [Word.text, String.toList_ofList]
  · rwa [String.toList_ofList]
  · rwa [String.toList_ofList]
  · rw [hcolumn, Nat.zero_add]
    rfl

/-- The words of some lines in reading order, each with its line. -/
inductive Reading : List Line → List (Line × Word) → Prop where
  | nil : Reading [] []
  | line {line : Line} {words : List Word} {lines : List Line} {xs : List (Line × Word)}
      (hwords : line.Parts words) (hrest : Reading lines xs) :
      Reading (line :: lines) (words.map (fun word => (line, word)) ++ xs)

theorem reading_flatMap (lines : List Line) :
    Reading lines (lines.flatMap fun line => line.words.map fun word => (line, word)) := by
  induction lines with
  | nil => exact .nil
  | cons line lines ih => exact .line line.parts_words ih

theorem Reading.eq_flatMap {lines : List Line} {xs : List (Line × Word)} (h : Reading lines xs) :
    xs = lines.flatMap fun line => line.words.map fun word => (line, word) := by
  induction h with
  | nil => rfl
  | line hwords _ ih => rw [List.flatMap_cons, ← ih, Line.parts_iff.1 hwords]

/-- The words of one line in reading order. -/
theorem reading_singleton_iff {line : Line} {xs : List (Line × Word)} :
    Reading [line] xs ↔ xs = line.words.map fun word => (line, word) := by
  have hflatMap : [line].flatMap (fun line => line.words.map fun word => (line, word)) =
      line.words.map fun word => (line, word) := by
    rw [List.flatMap_cons, List.flatMap_nil, List.append_nil]
  constructor
  · intro h
    rw [h.eq_flatMap, hflatMap]
  · rintro rfl
    rw [← hflatMap]
    exact reading_flatMap [line]

/-- The words of a text in reading order. -/
theorem reading_lines_iff {text : String} {xs : List (Line × Word)} :
    Reading (lines text) xs ↔ xs = placedTokens text := by
  constructor
  · exact Reading.eq_flatMap
  · rintro rfl
    exact reading_flatMap (lines text)

theorem Reading.mem {lines : List Line} {xs : List (Line × Word)} (h : Reading lines xs)
    {x : Line × Word} (hx : x ∈ xs) : x.1 ∈ lines ∧ x.2 ∈ x.1.words := by
  rw [h.eq_flatMap, List.mem_flatMap] at hx
  obtain ⟨line, hline, hx⟩ := hx
  obtain ⟨word, hword, rfl⟩ := List.mem_map.1 hx
  exact ⟨hline, hword⟩

end Text

/-! ## Words to blame -/

namespace ParseError

/-- An error at a column blames the word between two parts of a line. Of the words of some lines, in
reading order, it is the first that is refused, where `refuses i word message` says that a word is
refused as number `i` among them with a message. -/
structure Blames (lines : List Line) (refuses : Nat → String → String → Prop) (e : ParseError)
    (column : Nat) (before word after : String) : Prop where
  /-- The line is shown as it was read. -/
  between : Text.Between e.content before word after
  /-- The column is that of the first byte of the word. -/
  place : column = before.utf8ByteSize + 1
  /-- The word is refused, and none before it. -/
  first : ∃ earlier later, ∃ line : Line,
    Text.Reading lines (earlier ++ (line, ⟨column, word.toList⟩) :: later) ∧
      line.number = e.line ∧ line.text = e.content ∧
      refuses earlier.length word e.fault.message ∧
      ∀ (j : Nat) (y : Line × Word), earlier[j]? = some y → ∀ message, ¬ refuses j y.2.text message

/-- An answer to some lines that blames the first word that is refused. -/
structure Locates {α : Type} (lines : List Line) (refuses : Nat → String → String → Prop)
    (answer : Except ParseError α) : Prop where
  /-- An error with a column blames the first word that is refused. -/
  blames : ∀ e column, answer = .error e → e.column = some column →
    ∃ before word after, Blames lines refuses e column before word after
  /-- There is one exactly if a word is refused. -/
  exists_iff : (∃ e column, answer = .error e ∧ e.column = some column) ↔
    ∃ xs i x message, Text.Reading lines xs ∧ xs[i]? = some x ∧ refuses i x.2.text message

variable {α β : Type} {lines : List Line} {line : Line} {refuses : Nat → String → String → Prop}

theorem exists_blames {earlier later : List (Line × Word)} {word : Word} {e : ParseError}
    (hreading : Text.Reading lines (earlier ++ (line, word) :: later))
    (hnumber : line.number = e.line) (hcontent : line.text = e.content)
    (hrefuses : refuses earlier.length word.text e.fault.message)
    (hearlier : ∀ (j : Nat) (y : Line × Word), earlier[j]? = some y →
      ∀ message, ¬ refuses j y.2.text message) :
    ∃ before after, Blames lines refuses e word.column before word.text after := by
  have hword : word ∈ line.words := (hreading.mem (x := (line, word)) (by simp)).2
  obtain ⟨before, after, hbetween, hcolumn⟩ := line.exists_between hword
  refine ⟨before, after, hcontent ▸ hbetween, hcolumn, earlier, later, line, ?_, hnumber,
    hcontent, hrefuses, hearlier⟩
  rwa [Word.text, String.toList_ofList]

theorem Blames.exists_refused {e : ParseError} {column : Nat} {before word after : String}
    (h : Blames lines refuses e column before word after) :
    ∃ xs i x message, Text.Reading lines xs ∧ xs[i]? = some x ∧ refuses i x.2.text message := by
  obtain ⟨earlier, later, line, hreading, -, -, hrefuses, -⟩ := h.first
  refine ⟨_, earlier.length, (line, ⟨column, word.toList⟩), e.fault.message, hreading, by simp, ?_⟩
  show refuses earlier.length (String.ofList word.toList) e.fault.message
  rwa [String.ofList_toList]

/-- Reading a line word by word locates the first word that cannot be read, if its errors are about
the word. -/
theorem locates_mapM {f : Word → Except ParseError β}
    (hok : ∀ word b, f word = .ok b → ∀ i message, ¬ refuses i word.text message)
    (herror : ∀ word e, f word = .error e → e.line = line.number ∧ e.content = line.text ∧
      e.column = some word.column ∧ ∀ i, refuses i word.text e.fault.message) :
    Locates [line] refuses (line.words.mapM f) := by
  have hblames : ∀ e column, line.words.mapM f = .error e → e.column = some column →
      ∃ before word after, Blames [line] refuses e column before word after := by
    intro e column he hcolumn
    obtain ⟨earlier, word, later, hwords, hearlier, hword⟩ := mapM_eq_error_iff.1 he
    obtain ⟨hnumber, hcontent, hplace, hrefuses⟩ := herror word e hword
    obtain rfl : word.column = column := Option.some.inj (hplace.symm.trans hcolumn)
    have hreading : Text.Reading [line] (earlier.map (fun word => (line, word)) ++
        (line, word) :: later.map fun word => (line, word)) := by
      rw [Text.reading_singleton_iff, hwords, List.map_append, List.map_cons]
    obtain ⟨before, after, h⟩ := exists_blames hreading hnumber.symm hcontent.symm (hrefuses _) (by
      intro j y hy message
      rw [List.getElem?_map, Option.map_eq_some_iff] at hy
      obtain ⟨w, hw, rfl⟩ := hy
      obtain ⟨b, hb⟩ := hearlier w (List.mem_of_getElem? hw)
      exact hok w b hb j message)
    exact ⟨before, word.text, after, h⟩
  refine ⟨hblames, ⟨?_, ?_⟩⟩
  · rintro ⟨e, column, he, hcolumn⟩
    obtain ⟨before, word, after, h⟩ := hblames e column he hcolumn
    exact h.exists_refused
  · rintro ⟨xs, i, x, message, hreading, hx, hrefuses⟩
    obtain rfl := Text.reading_singleton_iff.1 hreading
    rw [List.getElem?_map, Option.map_eq_some_iff] at hx
    obtain ⟨word, hword, rfl⟩ := hx
    cases hanswer : line.words.mapM f with
    | ok bs =>
      have hbs := List.Forall₂.flip (mapM_eq_ok_iff.1 hanswer)
      obtain ⟨b, -, hb⟩ := exists_mem_of_forall₂ hbs (List.mem_of_getElem? hword)
      exact absurd hrefuses (hok word b hb i message)
    | error e =>
      obtain ⟨w, -, hw⟩ := exists_eq_error_of_mapM hanswer
      exact ⟨e, w.column, rfl, (herror w e hw).2.2.1⟩

/-- What is read without an error is left to a reader whose errors have no columns. -/
theorem Locates.bind {answer : Except ParseError α} {f : α → Except ParseError β}
    (h : Locates lines refuses answer)
    (hf : ∀ a e, answer = .ok a → f a = .error e → e.column = none) :
    Locates lines refuses (answer >>= f) := by
  cases answer with
  | error e =>
    refine ⟨fun e' column he => ?_, ?_⟩
    · cases he
      exact h.blames e column rfl
    · rw [← h.exists_iff]
      constructor
      · rintro ⟨e', column, he, hcolumn⟩
        cases he
        exact ⟨e, column, rfl, hcolumn⟩
      · rintro ⟨e', column, he, hcolumn⟩
        cases he
        exact ⟨e, column, rfl, hcolumn⟩
  | ok a =>
    have hnone : ∀ e column, ¬ ((Except.ok a >>= f) = .error e ∧ e.column = some column) := by
      rintro e column ⟨he, hcolumn⟩
      rw [hf a e rfl he] at hcolumn
      cases hcolumn
    refine ⟨fun e column he hcolumn => absurd ⟨he, hcolumn⟩ (hnone e column), ?_⟩
    rw [← h.exists_iff]
    refine iff_of_false ?_ ?_
    · rintro ⟨e, column, he⟩
      exact hnone e column he
    · rintro ⟨e, column, he, -⟩
      cases he

end ParseError

/-! ## Tables -/

namespace Table

open ParseError (Locates)

variable {line : Line} {word : Word} {types : List Ty}

/-- A word of a types line is refused, and quoted, if it is not the name of a type. -/
inductive RefusesType (i : Nat) (word : String) : String → Prop where
  | unexpected (hname : ∀ type : Ty, word ≠ type.name) :
      RefusesType i word ("unexpected type '" ++ word ++ "'")

/-- A word of a values line is refused, and quoted, if it is neither a bar nor a number. -/
inductive RefusesNumber (i : Nat) (word : String) : String → Prop where
  | invalid (hbar : word ≠ "|") (hnumber : ∀ n : Int32, ¬ Numeral.Denotes word.toList n.toInt) :
      RefusesNumber i word ("invalid integer '" ++ word ++ "'")

theorem typeOfWord_eq_error {e : ParseError} (h : typeOfWord line word = .error e) :
    (∀ type : Ty, word.text ≠ type.name) ∧
      e = wordError line word (.unexpectedType word.text) := by
  constructor
  · intro type hname
    rw [typeOfWord_eq_ok_iff.2 hname] at h
    cases h
  · unfold typeOfWord at h
    split at h
    next => cases h
    next => exact (Except.error.inj h).symm

theorem locates_typesOfLine (line : Line) : Locates [line] RefusesType (typesOfLine line) := by
  refine ParseError.locates_mapM (fun word type hok i message hrefuses => ?_) fun word e he => ?_
  · obtain ⟨hname⟩ := hrefuses
    exact hname type (typeOfWord_eq_ok_iff.1 hok)
  · obtain ⟨hname, rfl⟩ := typeOfWord_eq_error he
    exact ⟨rfl, rfl, rfl, fun i => .unexpected hname⟩

theorem isBar_iff : isBar word = true ↔ word.text = "|" := by
  rw [isBar, decide_eq_true_iff, Word.text, ← String.toList_inj, String.toList_ofList]
  rfl

/-- Errors about columns of a table have no column of their own. -/
theorem column_of_valuesOfColumns {i : Nat} {numbers : List (List Int32)} {e : ParseError}
    (hlength : numbers.length = types.length)
    (h : valuesOfColumns line i types numbers = .error e) : e.column = none := by
  cases h ▸ columnsSay_valuesOfColumns line i hlength with
  | misfit => rfl

theorem locates_valuesOfLine (types : List Ty) (line : Line) :
    Locates [line] RefusesNumber (valuesOfLine types line) := by
  have hwords : Locates [line] RefusesNumber (line.words.mapM (cellOfWord line)) := by
    refine ParseError.locates_mapM (fun word cell hok i message hrefuses => ?_) fun word e he => ?_
    · obtain ⟨hbar, hnumber⟩ := hrefuses
      rw [Word.text, String.toList_ofList] at hnumber
      cases cell with
      | bar => exact hbar (isBar_iff.1 (cellOfWord_eq_bar_iff.1 hok))
      | number n => exact hnumber n (cellOfWord_eq_number_iff.1 hok)
    · obtain ⟨hbar, hnumber, rfl⟩ := cellOfWord_eq_error_iff.1 he
      refine ⟨rfl, rfl, rfl, fun i => .invalid ?_ ?_⟩
      · intro htext
        rw [isBar_iff.2 htext] at hbar
        cases hbar
      · rwa [Word.text, String.toList_ofList]
  refine hwords.bind fun cells e hcells he => ?_
  change (if _ then _ else _) = _ at he
  split at he
  next =>
    cases he
    rfl
  next hlength => exact column_of_valuesOfColumns (not_not.1 hlength) he

end Table

/-! ## Priors -/

namespace Prior

open ParseError (Blames Locates)
open Text (tokens placedTokens)

/-- A word of a prior in the place of a probability is refused if it is not a number, and quoted, or
if it is not one between zero and one, and its value is quoted. Names are not refused. -/
inductive RefusesProbability (i : Nat) (word : String) : String → Prop where
  | unreadable (heven : Even i) (hread : Binary64.ofText? word.toList = none) :
      RefusesProbability i word ("invalid probability '" ++ word ++ "'")
  | improbable {p : Binary64} (heven : Even i) (hread : Binary64.ofText? word.toList = some p)
      (hrange : ¬ (p.IsFinite ∧ 0 ≤ p.value ∧ p.value ≤ 1)) :
      RefusesProbability i word ("probability " ++ p.text ++ " outside [0, 1]")

theorem Denotes.not_refuses {i : Nat} {word message : String} {p : Binary64}
    (h : Denotes word p) : ¬ RefusesProbability i word message := by
  intro hrefuses
  cases hrefuses with
  | unreadable _ hread =>
    rw [h.read] at hread
    cases hread
  | improbable _ hread hrange =>
    obtain rfl := Option.some.inj (h.read.symm.trans hread)
    exact hrange ⟨h.finite, h.nonneg, h.le_one⟩

theorem Refused.refuses {i : Nat} {word : String} {fault : Fault} (heven : Even i)
    (h : Refused word fault) : RefusesProbability i word fault.message := by
  cases h with
  | unreadable hread => exact .unreadable heven hread
  | improbable hread hrange => exact .improbable heven hread hrange

theorem RefusesProbability.even {i : Nat} {word message : String}
    (h : RefusesProbability i word message) : Even i := by
  cases h with
  | unreadable heven _ => exact heven
  | improbable heven _ _ => exact heven

/-- An element at a place has as many elements before it. -/
theorem exists_append_of_getElem? {α : Type} {xs : List α} {i : Nat} {x : α}
    (h : xs[i]? = some x) : ∃ earlier later, xs = earlier ++ x :: later ∧ earlier.length = i := by
  obtain ⟨hlt, rfl⟩ := List.getElem?_eq_some_iff.1 h
  refine ⟨xs.take i, xs.drop (i + 1), ?_, ?_⟩
  · rw [← List.drop_eq_getElem_cons hlt, List.take_append_drop]
  · rw [List.length_take]
    omega

/-- What is told of words blames the first of them that is refused, or has no column. -/
theorem blames_of_tells {lines : List Line} {xs : List (Line × Word)} {e : ParseError}
    {column : Nat} (hreading : Text.Reading lines xs) (h : Tells xs e)
    (hcolumn : e.column = some column) :
    ∃ before word after, Blames lines RefusesProbability e column before word after := by
  cases h with
  | @probability i x fault hx hrefused hfirst =>
    obtain rfl : x.2.column = column := Option.some.inj hcolumn
    obtain ⟨earlier, later, rfl, hlength⟩ := exists_append_of_getElem? hx
    have hrefuses : RefusesProbability earlier.length x.2.text (errorAt x fault).fault.message :=
      hrefused.refuses (by rw [hlength]; exact even_two_mul i)
    have hearlier : ∀ (j : Nat) (y : Line × Word), earlier[j]? = some y →
        ∀ message, ¬ RefusesProbability j y.2.text message := by
      intro j y hy message hrefuses
      have hlt : j < earlier.length := (List.getElem?_eq_some_iff.1 hy).1
      obtain ⟨k, rfl⟩ := even_iff_exists_two_mul.1 hrefuses.even
      have hplace : (earlier ++ x :: later)[2 * k]? = some y := by
        rw [List.getElem?_append_left hlt, hy]
      obtain ⟨p, hp⟩ := hfirst k (by omega) y hplace
      exact hp.not_refuses hrefuses
    obtain ⟨before, after, hblames⟩ :=
      ParseError.exists_blames hreading rfl rfl hrefuses hearlier
    exact ⟨before, x.2.text, after, hblames⟩
  | dangling _ _ _ _ _ hnone =>
    rw [hnone] at hcolumn
    cases hcolumn

/-- A word that is refused is told, at its column. -/
theorem exists_column_of_refuses {text : String} {i : Nat} {x : Line × Word} {message : String}
    (hx : (placedTokens text)[i]? = some x) (hrefuses : RefusesProbability i x.2.text message) :
    ∃ e column, ofText text = .error e ∧ e.column = some column := by
  obtain ⟨k, rfl⟩ := even_iff_exists_two_mul.1 hrefuses.even
  cases hanswer : ofText text with
  | ok prior =>
    have hall : AllDenote (tokens text) :=
      (exists_ofTokens_iff.1 ⟨prior, ofText_eq_ok_iff.1 hanswer⟩).2
    have htoken : (tokens text)[2 * k]? = some x.2.text := by
      rw [← Text.map_placedTokens, List.getElem?_map, hx]
      rfl
    obtain ⟨p, hp⟩ := hall k x.2.text htoken
    exact absurd hrefuses hp.not_refuses
  | error e =>
    have htells : Tells (placedTokens text) e := tells_of_readWords hanswer
    cases htells with
    | @probability i y fault hy hrefused hfirst => exact ⟨_, y.2.column, rfl, rfl⟩
    | dangling _ hall _ _ _ _ =>
      obtain ⟨p, hp⟩ := hall k x hx
      exact absurd hrefuses hp.not_refuses

theorem locates_ofText (text : String) :
    Locates (Text.lines text) RefusesProbability (ofText text) := by
  have hblames : ∀ e column, ofText text = .error e → e.column = some column →
      ∃ before word after, Blames (Text.lines text) RefusesProbability e column before word after :=
    fun e column he hcolumn =>
      blames_of_tells (Text.reading_lines_iff.2 rfl) (tells_of_readWords he) hcolumn
  refine ⟨hblames, ⟨?_, ?_⟩⟩
  · rintro ⟨e, column, he, hcolumn⟩
    obtain ⟨before, word, after, h⟩ := hblames e column he hcolumn
    exact h.exists_refused
  · rintro ⟨xs, i, x, message, hreading, hx, hrefuses⟩
    obtain rfl := Text.reading_lines_iff.1 hreading
    exact exists_column_of_refuses hx hrefuses

/-- An error in the words of a text tells a line of the text by its number, counted from one. -/
theorem line_of_blames {text : String} {e : ParseError} {column : Nat}
    {before word after : String}
    (h : Blames (Text.lines text) RefusesProbability e column before word after) :
    ∃ k, e.line = k + 1 ∧ Text.lineText? text k = some e.content := by
  obtain ⟨earlier, later, line, hreading, hnumber, hcontent, -, -⟩ := h.first
  have hline : line ∈ Text.lines text :=
    (hreading.mem (x := (line, ⟨column, word.toList⟩)) (by simp)).1
  obtain ⟨k, hk⟩ := List.mem_iff_getElem?.1 hline
  refine ⟨k, ?_, ?_⟩
  · rw [← hnumber, Text.number_of_getElem?_lines hk]
  · rw [Text.lineText?, hk, ← hcontent]
    rfl

end Prior

/-! ## The readers -/

namespace ParseError

/-- **Errors with a column name the word to blame.** It is the first word of a types line that is
not the name of a type, the first word of a values line that is neither a bar nor a number, and the
first word of a prior in the place of a probability that is none. The line is the one that was read,
in a prior that with the number that is told, and the column is that of the first byte of the word.
-/
theorem locates_words (line : Line) (types : List Ty) (text : String) :
    Locates [line] Table.RefusesType (Table.typesOfLine line) ∧
      Locates [line] Table.RefusesNumber (Table.valuesOfLine types line) ∧
      Locates (Text.lines text) Prior.RefusesProbability (Prior.ofText text) ∧
      ∀ e column, Prior.ofText text = .error e → e.column = some column →
        ∃ k, e.line = k + 1 ∧ Text.lineText? text k = some e.content := by
  have hprior := Prior.locates_ofText text
  refine ⟨Table.locates_typesOfLine line, Table.locates_valuesOfLine types line, hprior, ?_⟩
  intro e column he hcolumn
  obtain ⟨before, word, after, h⟩ := hprior.blames e column he hcolumn
  exact Prior.line_of_blames h

/-- White space of three bytes and a name of two stand before the words that are blamed here. -/
theorem locates_words_of_wideBlanks :
    let line : Line := ⟨7, "Int\u3000Ints".toList⟩
    let text := "0.5 é\r\n\u2003x y"
    let e : ParseError := ⟨none, 7, some 7, .unexpectedType "Ints", "Int\u3000Ints"⟩
    let e' : ParseError := ⟨none, 2, some 4, .invalidProbability "x", "\u2003x y"⟩
    Table.typesOfLine line = .error e ∧ Prior.ofText text = .error e' ∧
      (∃ before word after, Blames [line] Table.RefusesType e 7 before word after) ∧
      (∃ before word after,
        Blames (Text.lines text) Prior.RefusesProbability e' 4 before word after) ∧
      ∃ k, 2 = k + 1 ∧ Text.lineText? text k = some "\u2003x y" := by
  have he' : Prior.ofText "0.5 é\r\n\u2003x y" =
      .error ⟨none, 2, some 4, .invalidProbability "x", "\u2003x y"⟩ := by decide +kernel
  intro line text e e'
  have he : Table.typesOfLine line = .error e := rfl
  obtain ⟨htypes, -, hprior, hline⟩ := locates_words line [] text
  exact ⟨he, he', htypes.blames e 7 he rfl, hprior.blames e' 4 he' rfl, hline e' 4 he' rfl⟩

end ParseError

end ProgramSearch

/-
# ProgramSearch.Proofs.Loading.Misplaced -- where errors miss the word

Two errors do not show the word that they are about. The caret of an error with a column stands
behind as many blanks as there are bytes before the word: it is under the word if only ASCII stands
before it, and to the right of it otherwise. And a probability without a name is told at the last
line of the text, which need not be the line that it stands in: lines without words may follow.
-/

import ProgramSearch.Proofs.Loading.Positions
import ProgramSearch.Proofs.Printing

namespace ProgramSearch

open Text (Line Word)

/-! ## Bytes and characters -/

namespace Text

theorem utf8Size_eq_one_iff (c : Char) : c.utf8Size = 1 ↔ c.toNat < 128 := by
  rw [Char.utf8Size_eq_one_iff, UInt32.le_iff_toNat_le]
  show c.toNat ≤ 127 ↔ c.toNat < 128
  omega

/-- A character takes a byte at least. -/
theorem length_le_byteSize (cs : List Char) : cs.length ≤ byteSize cs := by
  induction cs with
  | nil => exact Nat.le_refl 0
  | cons c cs ih =>
    have hpos := c.utf8Size_pos
    rw [byteSize_cons, List.length_cons]
    omega

/-- Characters take a byte each if they are in ASCII, and only then. -/
theorem byteSize_eq_length_iff (cs : List Char) :
    byteSize cs = cs.length ↔ ∀ c ∈ cs, c.toNat < 128 := by
  induction cs with
  | nil => exact iff_of_true rfl fun c hc => absurd hc List.not_mem_nil
  | cons c cs ih =>
    have hpos := c.utf8Size_pos
    have hle := length_le_byteSize cs
    rw [List.forall_mem_cons, ← ih, ← utf8Size_eq_one_iff, byteSize_cons, List.length_cons]
    omega

end Text

/-! ## Carets -/

namespace ParseError

/-- A message ends with a line of a text and, under it, a caret behind a gap of blanks. -/
def ShowsCaret (message content : String) (gap : Nat) : Prop :=
  ∃ head, message = head ++ "\n  | " ++ content ++ "\n  | " ++
    String.ofList (List.replicate gap ' ') ++ "^"

theorem showsCaret_message {e : ParseError} {column : Nat} (h : e.column = some column) :
    ShowsCaret e.message e.content (column - 1) := by
  obtain ⟨source, line, place, fault, content⟩ := e
  obtain rfl : place = some column := h
  let told := "line " ++ toString line ++ ", column " ++ toString column ++ ": " ++ fault.message
  cases source with
  | none => exact ⟨told, by simp [message, told, String.append_assoc]⟩
  | some name => exact ⟨name ++ ": " ++ told, by simp [message, told, String.append_assoc]⟩

/-- The blanks before a caret go back to the bar. -/
theorem ShowsCaret.exists_reverse {message content : String} {gap : Nat}
    (h : ShowsCaret message content gap) : ∃ rest,
      message.toList.reverse = '^' :: (List.replicate (gap + 1) ' ' ++ '|' :: rest) := by
  obtain ⟨head, rfl⟩ := h
  refine ⟨' ' :: ' ' :: '\n' :: (head ++ "\n  | " ++ content).toList.reverse, ?_⟩
  simp [List.replicate_succ']

/-- A message shows its caret behind one gap only. -/
theorem ShowsCaret.unique {message content content' : String} {gap gap' : Nat}
    (h : ShowsCaret message content gap) (h' : ShowsCaret message content' gap') : gap = gap' := by
  obtain ⟨rest, hrest⟩ := h.exists_reverse
  obtain ⟨rest', hrest'⟩ := h'.exists_reverse
  have hblanks (n : Nat) : (List.replicate n ' ').all (· == ' ') = true := by simp
  have hsame := List.tail_eq_of_cons_eq (hrest.symm.trans hrest')
  have hrun := (Text.run_inj (hblanks _) (hblanks _) rfl rfl hsame).1
  have hlength := congrArg List.length hrun
  rw [List.length_replicate, List.length_replicate] at hlength
  omega

variable {α : Type} {lines : List Line} {refuses : Nat → String → String → Prop}
  {answer : Except ParseError α}

/-- Where a caret stands that is drawn for what comes before a word. -/
structure DrawsCaret (e : ParseError) (before : String) : Prop where
  /-- There is one caret, behind as many blanks as there are bytes before the word. -/
  gap_iff : ∀ gap, ShowsCaret e.message e.content gap ↔ gap = before.utf8ByteSize
  /-- So it does not stand before the word. -/
  length_le : before.length ≤ before.utf8ByteSize
  /-- It stands under the word if only ASCII comes before it. -/
  under_iff : ShowsCaret e.message e.content before.length ↔ ∀ c ∈ before.toList, c.toNat < 128

theorem drawsCaret {e : ParseError} {before : String}
    (h : e.column = some (before.utf8ByteSize + 1)) : DrawsCaret e before := by
  have hcaret := showsCaret_message h
  rw [Nat.add_sub_cancel] at hcaret
  have hgap : ∀ gap, ShowsCaret e.message e.content gap ↔ gap = before.utf8ByteSize := by
    intro gap
    constructor
    · intro hother
      exact hother.unique hcaret
    · rintro rfl
      exact hcaret
  have hbytes : before.utf8ByteSize = Text.byteSize before.toList := by
    rw [Text.byteSize, String.ofList_toList]
  refine ⟨hgap, ?_, ?_⟩
  · rw [hbytes]
    exact Text.length_le_byteSize before.toList
  · rw [hgap, hbytes, ← Text.byteSize_eq_length_iff, eq_comm]
    rfl

/-- Answers whose carets stand under the words that are blamed. -/
def CaretsUnder (lines : List Line) (refuses : Nat → String → String → Prop)
    (answer : Except ParseError α) : Prop :=
  ∀ e column, answer = .error e → e.column = some column →
    ∃ before word after, Blames lines refuses e column before word after ∧
      ShowsCaret e.message e.content before.length

/-- Answers whose carets stand behind as many blanks as there are bytes before the words that are
blamed. -/
def CaretsByBytes (lines : List Line) (refuses : Nat → String → String → Prop)
    (answer : Except ParseError α) : Prop :=
  ∀ e column, answer = .error e → e.column = some column →
    ∃ before word after, Blames lines refuses e column before word after ∧ DrawsCaret e before

theorem Locates.caretsByBytes (h : Locates lines refuses answer) :
    CaretsByBytes lines refuses answer := by
  intro e column he hcolumn
  obtain ⟨before, word, after, hblames⟩ := h.blames e column he hcolumn
  refine ⟨before, word, after, hblames, drawsCaret ?_⟩
  rw [hcolumn, hblames.place]

/-- **Carets are drawn by bytes.** A caret stands under the word that an error blames if only ASCII
stands before it in its line, and to the right of its first character otherwise. -/
theorem caretsByBytes_of_readers (line : Line) (types : List Ty) (text : String) :
    CaretsByBytes [line] Table.RefusesType (Table.typesOfLine line) ∧
      CaretsByBytes [line] Table.RefusesNumber (Table.valuesOfLine types line) ∧
      CaretsByBytes (Text.lines text) Prior.RefusesProbability (Prior.ofText text) :=
  ⟨(Table.locates_typesOfLine line).caretsByBytes,
    (Table.locates_valuesOfLine types line).caretsByBytes,
    (Prior.locates_ofText text).caretsByBytes⟩

/-- A name with an accent moves the caret off the word behind it. -/
theorem not_caretsUnder_of_accent :
    ¬ CaretsUnder (Text.lines "0.5 é x") Prior.RefusesProbability (Prior.ofText "0.5 é x") := by
  intro h
  obtain ⟨e, he, hcolumn, hcontent⟩ : ∃ e : ParseError, Prior.ofText "0.5 é x" = .error e ∧
      e.column = some 8 ∧ e.content.length = 7 :=
    ⟨⟨none, 1, some 8, .invalidProbability "x", "0.5 é x"⟩, by decide +kernel, rfl, by decide⟩
  obtain ⟨before, word, after, hblames, hcaret⟩ := h e 8 he hcolumn
  have hbefore := hcaret.unique (showsCaret_message hcolumn)
  have hword : 0 < word.length := by
    rw [← String.length_toList]
    exact List.length_pos_iff.2 hblames.between.isWord.ne_nil
  -- the line has seven characters, so nothing would be left for the word
  rw [hblames.between.content, String.length_append, String.length_append] at hcontent
  omega

/-- The caret under the line of that word. -/
example : message ⟨none, 1, some 8, .invalidProbability "x", "0.5 é x"⟩ =
    "line 1, column 8: invalid probability 'x'\n  | 0.5 é x\n  |        ^" := by decide +kernel

end ParseError

/-! ## Probabilities without a name -/

namespace Prior

open Text (placedTokens)

/-- A probability without a name is the last of the words. -/
theorem Tells.exists_last {xs : List (Line × Word)} {e : ParseError} {p : Binary64}
    (h : Tells xs e) (hfault : e.fault = .danglingProbability p) :
    ∃ x, xs.getLast? = some x ∧ Denotes x.2.text p := by
  cases h with
  | @probability i x fault hx hrefused hfirst =>
    obtain rfl : fault = .danglingProbability p := hfault
    cases hrefused
  | @dangling x q _ hodd hall hlast hq hfault' hcolumn =>
    obtain rfl : q = p := Fault.danglingProbability.inj (hfault'.symm.trans hfault)
    exact ⟨x, hlast, hq⟩

/-- What is told of a probability without a name is the line that is kept for the end. -/
theorem line_of_readWords {last : Line} {prior : Prior} {xs : List (Line × Word)}
    {e : ParseError} {p : Binary64} (h : readWords last prior xs = .error e)
    (hfault : e.fault = .danglingProbability p) : e.line = last.number ∧ e.content = last.text := by
  have hprobability {line : Line} {word : Word} (h : probability line word = .error e) : False := by
    obtain ⟨fault, hrefused, rfl⟩ := probability_eq_error h
    obtain rfl : fault = .danglingProbability p := hfault
    cases hrefused
  fun_induction readWords last prior xs with
  | case1 prior => cases h
  | case2 prior line word =>
    cases hq : probability line word with
    | error e' =>
      rw [hq] at h
      cases h
      exact (hprobability hq).elim
    | ok q =>
      rw [hq] at h
      cases h
      exact ⟨rfl, rfl⟩
  | case3 prior line word line' name rest ih =>
    cases hq : probability line word with
    | error e' =>
      rw [hq] at h
      cases h
      exact (hprobability hq).elim
    | ok q =>
      rw [hq] at h
      exact ih q h

/-- The last of all words is the last word of its line, and no words follow that line. -/
theorem exists_append_of_getLast? {lines : List Line} {x : Line × Word}
    (h : (lines.flatMap fun line => line.words.map fun word => (line, word)).getLast? = some x) :
    ∃ before after, lines = before ++ x.1 :: after ∧ x.1.words.getLast? = some x.2 ∧
      ∀ line ∈ after, line.words = [] := by
  induction lines with
  | nil => cases h
  | cons line lines ih =>
    rw [List.flatMap_cons, List.getLast?_append] at h
    cases hrest : (lines.flatMap fun line => line.words.map fun word => (line, word)).getLast? with
    | some y =>
      rw [hrest] at h ih
      obtain rfl : y = x := Option.some.inj h
      obtain ⟨before, after, rfl, hlast, hafter⟩ := ih rfl
      exact ⟨line :: before, after, rfl, hlast, hafter⟩
    | none =>
      rw [hrest, Option.none_or, List.getLast?_map, Option.map_eq_some_iff] at h
      obtain ⟨word, hword, rfl⟩ := h
      refine ⟨[], lines, rfl, hword, fun line' hline' => ?_⟩
      have hempty := List.flatMap_eq_nil_iff.1 (List.getLast?_eq_none_iff.1 hrest) line' hline'
      exact List.map_eq_nil_iff.1 hempty

/-- A line has one more as its number than there are lines before it. -/
theorem number_of_lines_eq {text : String} {before after : List Line} {line : Line}
    (h : Text.lines text = before ++ line :: after) : line.number = before.length + 1 := by
  have hline : (Text.lines text)[before.length]? = some line := by rw [h]; simp
  exact Text.number_of_getElem?_lines hline

/-- An error about a probability without a name that stands in a line of a text, with the lines
after it. -/
structure ToldAtEnd (text : String) (e : ParseError) (p : Binary64) (line : Line)
    (after : List Line) : Prop where
  /-- The lines after it are the rest of the text. -/
  lines : ∃ before, Text.lines text = before ++ line :: after
  /-- The probability is the last word of its line. -/
  word : ∃ word, line.words.getLast? = some word ∧ Denotes word.text p
  /-- The lines after it have no words. -/
  wordless : ∀ l ∈ after, l.words = []
  /-- The number that is told is as many lines further on. -/
  number : e.line = line.number + after.length
  /-- The line that is shown is the last one. -/
  content : (line :: after).getLast?.map Line.text = some e.content
  /-- So the probability is told where it stands exactly if no line follows. -/
  located_iff : e.line = line.number ∧ e.content = line.text ↔ after = []

/-- **A probability without a name is told at the end of the text.** The line that is told is the
last one, whether or not the probability stands in it. -/
theorem exists_toldAtEnd {text : String} {e : ParseError} {p : Binary64}
    (h : ofText text = .error e) (hfault : e.fault = .danglingProbability p) :
    ∃ line after, ToldAtEnd text e p line after := by
  obtain ⟨hline, hcontent⟩ := line_of_readWords h hfault
  obtain ⟨x, hx, hdenotes⟩ := (tells_of_readWords h).exists_last hfault
  obtain ⟨before, after, hlines, hlast, hafter⟩ := exists_append_of_getLast? hx
  have hnumber := number_of_lines_eq hlines
  have hend : (x.1 :: after).getLast? = some ((Text.lines text).getLastD ⟨0, []⟩) := by
    rw [List.getLastD_eq_getLast?, hlines, List.getLast?_append, List.getLast?_cons]
    rfl
  have hplace : e.line = x.1.number + after.length := by
    obtain ⟨init, hinit⟩ := List.getLast?_eq_some_iff.1 hend
    have hlength := congrArg List.length hinit
    rw [List.length_cons, List.length_append, List.length_singleton] at hlength
    rw [hinit, ← List.append_assoc] at hlines
    rw [hline, number_of_lines_eq hlines, List.length_append, hnumber]
    omega
  refine ⟨x.1, after, ⟨before, hlines⟩, ⟨x.2, hlast, hdenotes⟩, hafter, hplace, ?_, ?_, ?_⟩
  · rw [hend, hcontent]
    rfl
  · rintro ⟨hsame, -⟩
    have hnone : after.length = 0 := by omega
    exact List.length_eq_zero_iff.1 hnone
  · rintro rfl
    refine ⟨hplace, ?_⟩
    rw [hcontent, ← Option.some.inj hend]
    rfl

/-- The number that is told here is that of the second line, which has no words. -/
theorem exists_toldAtEnd_of_blankLine :
    ofText "1\n\n" = .error ⟨none, 2, none, .danglingProbability .one, ""⟩ ∧
      ∃ line after, ToldAtEnd "1\n\n" ⟨none, 2, none, .danglingProbability .one, ""⟩ .one line
        after := by
  have h : ofText "1\n\n" = .error ⟨none, 2, none, .danglingProbability .one, ""⟩ := by
    decide +kernel
  exact ⟨h, exists_toldAtEnd h rfl⟩

/-- A text tells of a probability without a name where it stands, in the line of the last word. -/
def DanglingLocated (text : String) : Prop :=
  ∀ e p, ofText text = .error e → e.fault = .danglingProbability p →
    ∃ line word, (placedTokens text).getLast? = some (line, word) ∧
      e.line = line.number ∧ e.content = line.text

/-- A line without words is told in place of the one before it, which has the probability. -/
theorem not_danglingLocated_of_blankLine : ¬ DanglingLocated "1\n\n" := by
  intro h
  have he : ofText "1\n\n" = .error ⟨none, 2, none, .danglingProbability .one, ""⟩ := by
    decide +kernel
  have hfirst : (placedTokens "1\n\n").getLast? = some (⟨1, ['1']⟩, ⟨1, ['1']⟩) := rfl
  obtain ⟨line, word, hlast, hline, -⟩ := h _ .one he rfl
  rw [hfirst] at hlast
  cases hlast
  cases hline

end Prior

end ProgramSearch

/-
# ProgramSearch.Proofs.Loading.Writing -- texts that are written line by line

A line is written by putting words side by side with white space between them and, as it may be,
around them; a text is written by ending line after line, with a carriage return or without. However
that is done, reading the text gives the words of every line again: the white space does not matter,
nor does the carriage return, which is white space where it does not belong to the line end.
-/

import Mathlib.Data.List.Basic
import ProgramSearch.Proofs.Loading.Tables

namespace ProgramSearch.Text

/-! ## Writing -/

/-- A text that can be written as one word. -/
structure IsWord (word : String) : Prop where
  ne_nil : word.toList ≠ []
  not_blank : word.toList.any isBlank = false

/-- A line that consists of the given words and white space, with some white space after each word
that does not end the line. -/
inductive Spaced : List String → List Char → Prop where
  | nil : Spaced [] []
  | blank {c : Char} {words : List String} {cs : List Char} (hblank : isBlank c = true)
      (hinside : c ≠ '\n') (hrest : Spaced words cs) : Spaced words (c :: cs)
  | word (word : String) {words : List String} {cs : List Char} (hrest : Spaced words cs)
      (hgap : cs.head?.all isBlank = true) : Spaced (word :: words) (word.toList ++ cs)

/-- A text of lines that consist of the given words, each of them ended by a line feed, which may
have a carriage return before it. -/
inductive Written : List (List String) → List Char → Prop where
  | nil : Written [] []
  | line (line : List Char) {words : List String} {rows : List (List String)}
      {ending cs : List Char} (hline : Spaced words line)
      (hending : ending = ['\n'] ∨ ending = ['\r', '\n']) (hrest : Written rows cs) :
      Written (words :: rows) (line ++ ending ++ cs)

/-- A written text has a character for each of its lines. -/
theorem Written.length_le {rows : List (List String)} {cs : List Char} (h : Written rows cs) :
    rows.length ≤ cs.length := by
  induction h with
  | nil => exact Nat.le_refl 0
  | @line line words rows ending cs hline hending hrest ih =>
    have hpos : 0 < ending.length := by rcases hending with rfl | rfl <;> decide
    simp only [List.length_append, List.length_cons]
    omega

/-! ## The words of a line -/

/-- The words of a line by their characters. -/
def wordChars (current cs : List Char) : List (List Char) :=
  (splitWords 0 0 current cs).map Word.chars

theorem map_chars_closeWord (start start' : Nat) (current : List Char) :
    (closeWord start current).map Word.chars = (closeWord start' current).map Word.chars := by
  unfold closeWord
  split <;> rfl

/-- Where a line is looked at from matters for the columns only. -/
theorem map_chars_splitWords (offset start : Nat) (current cs : List Char) :
    (splitWords offset start current cs).map Word.chars = wordChars current cs := by
  suffices h : ∀ offset start offset' start',
      (splitWords offset start current cs).map Word.chars =
        (splitWords offset' start' current cs).map Word.chars from h ..
  induction cs generalizing current with
  | nil => exact fun _ start _ start' => map_chars_closeWord start start' current
  | cons c cs ih =>
    intro offset start offset' start'
    rw [splitWords, splitWords]
    split
    · rw [List.map_append, List.map_append, map_chars_closeWord start start' current, ih]
    · exact ih ..

theorem wordChars_nil (current : List Char) :
    wordChars current [] = if current.isEmpty then [] else [current.reverse] := by
  rw [wordChars, splitWords, closeWord]
  split <;> rfl

theorem wordChars_cons_of_blank {c : Char} (hc : isBlank c = true) (current cs : List Char) :
    wordChars current (c :: cs) = wordChars current [] ++ wordChars [] cs := by
  rw [wordChars, splitWords, if_pos hc, List.map_append, map_chars_splitWords]
  rfl

theorem wordChars_cons_of_not_blank {c : Char} (hc : isBlank c = false) (current cs : List Char) :
    wordChars current (c :: cs) = wordChars (c :: current) cs := by
  rw [wordChars, splitWords, if_neg (by simp [hc]), map_chars_splitWords]

/-- White space at the end of a line does not matter. -/
theorem wordChars_concat {c : Char} (hc : isBlank c = true) (current cs : List Char) :
    wordChars current (cs ++ [c]) = wordChars current cs := by
  induction cs generalizing current with
  | nil =>
    rw [List.nil_append, wordChars_cons_of_blank hc, wordChars_nil []]
    exact List.append_nil _
  | cons d cs ih =>
    rw [List.cons_append]
    cases hd : isBlank d with
    | true => rw [wordChars_cons_of_blank hd, wordChars_cons_of_blank hd, ih]
    | false => rw [wordChars_cons_of_not_blank hd, wordChars_cons_of_not_blank hd, ih]

/-- Characters that are not blank go on with the word that was begun. -/
theorem wordChars_append {word : List Char} (hword : word.any isBlank = false)
    (current cs : List Char) :
    wordChars current (word ++ cs) = wordChars (word.reverse ++ current) cs := by
  induction word generalizing current with
  | nil => rfl
  | cons c word ih =>
    obtain ⟨hc, hword⟩ := Bool.or_eq_false_iff.1 (List.any_cons.symm.trans hword)
    rw [List.cons_append, wordChars_cons_of_not_blank hc, ih hword, List.reverse_cons,
      List.append_assoc]
    rfl

/-- A word that is followed by white space, or by nothing, is closed there. -/
theorem wordChars_of_head {current cs : List Char} (hcurrent : current ≠ [])
    (hgap : cs.head?.all isBlank = true) :
    wordChars current cs = current.reverse :: wordChars [] cs := by
  have hclose : wordChars current [] = [current.reverse] := by
    rw [wordChars_nil, if_neg (by simpa using hcurrent)]
  cases cs with
  | nil =>
    rw [hclose, wordChars_nil]
    rfl
  | cons c cs =>
    have hc : isBlank c = true := hgap
    rw [wordChars_cons_of_blank hc, wordChars_cons_of_blank hc, hclose, wordChars_nil []]
    rfl

/-- The words that a line consists of are read from it. -/
theorem Spaced.wordChars_eq {words : List String} {line : List Char} (h : Spaced words line)
    (hwords : ∀ word ∈ words, IsWord word) : wordChars [] line = words.map String.toList := by
  induction h with
  | nil => rfl
  | blank hblank _ _ ih =>
    rw [wordChars_cons_of_blank hblank, wordChars_nil, ih hwords]
    rfl
  | @word word words cs _ hgap ih =>
    have hword := hwords word List.mem_cons_self
    have hne : word.toList.reverse ≠ [] := by simpa using hword.ne_nil
    rw [wordChars_append hword.not_blank, List.append_nil, wordChars_of_head hne hgap,
      List.reverse_reverse, ih fun w hw => hwords w (List.mem_cons_of_mem word hw)]
    rfl

/-! ## The lines of a text -/

theorem Spaced.newline_not_mem {words : List String} {line : List Char} (h : Spaced words line)
    (hwords : ∀ word ∈ words, IsWord word) : '\n' ∉ line := by
  induction h with
  | nil => exact List.not_mem_nil
  | blank _ hinside _ ih => exact List.not_mem_cons_of_ne_of_not_mem hinside.symm (ih hwords)
  | @word word words cs _ _ ih =>
    intro hmem
    rcases List.mem_append.1 hmem with hmem | hmem
    · have hblank := List.any_eq_false.1 (hwords word List.mem_cons_self).not_blank '\n' hmem
      exact absurd rfl hblank
    · exact ih (fun w hw => hwords w (List.mem_cons_of_mem word hw)) hmem

/-- A line is read up to its line feed. -/
theorem splitLines_append {line : List Char} (hline : '\n' ∉ line) (current cs : List Char) :
    splitLines current (line ++ '\n' :: cs) =
      closeLine (line.reverse ++ current) :: splitLines [] cs := by
  induction line generalizing current with
  | nil => rfl
  | cons c line ih =>
    have hc : c ≠ '\n' := fun hc => hline (hc ▸ List.mem_cons_self)
    have hline : '\n' ∉ line := fun hmem => hline (List.mem_cons_of_mem c hmem)
    rw [List.cons_append, splitLines.eq_3 _ _ _ hc, ih hline, List.reverse_cons, List.append_assoc]
    rfl

/-- A carriage return that belongs to the line end is white space otherwise, so the words are the
same with it as without. -/
theorem wordChars_closeLine (line : List Char) :
    wordChars [] (closeLine line.reverse) = wordChars [] line := by
  generalize hrev : line.reverse = rev
  obtain rfl : rev.reverse = line := by rw [← hrev, List.reverse_reverse]
  unfold closeLine
  split
  next cs =>
    rw [List.reverse_cons, wordChars_concat (by decide)]
  next => rfl

/-- With a carriage return or without, what stands before the line feed has the words of the
line. -/
theorem Spaced.exists_line {words : List String} {line ending : List Char} (h : Spaced words line)
    (hwords : ∀ word ∈ words, IsWord word) (hending : ending = ['\n'] ∨ ending = ['\r', '\n']) :
    ∃ line', line ++ ending = line' ++ ['\n'] ∧ '\n' ∉ line' ∧
      wordChars [] line' = words.map String.toList := by
  have hread := h.wordChars_eq hwords
  have hnewline := h.newline_not_mem hwords
  rcases hending with rfl | rfl
  · exact ⟨line, rfl, hnewline, hread⟩
  · exact ⟨line ++ ['\r'], by simp, by simpa using hnewline,
      (wordChars_concat (by decide) [] line).trans hread⟩

/-- The lines of a written text have the words that they were written with. -/
theorem Written.map_wordChars {rows : List (List String)} {cs : List Char} (h : Written rows cs)
    (hwords : ∀ words ∈ rows, ∀ word ∈ words, IsWord word) :
    (splitLines [] cs).map (wordChars []) = rows.map (·.map String.toList) := by
  induction h with
  | nil => rfl
  | @line line words rows ending cs hline hending _ ih =>
    obtain ⟨line', heq, hnewline, hread⟩ :=
      hline.exists_line (hwords words List.mem_cons_self) hending
    rw [heq, List.append_assoc, List.singleton_append, splitLines_append hnewline, List.append_nil,
      List.map_cons, wordChars_closeLine, hread,
      ih fun words' h => hwords words' (List.mem_cons_of_mem words h)]
    rfl

/-- Reading undoes writing. -/
theorem Written.wordsAt?_eq {rows : List (List String)} {text : String}
    (h : Written rows text.toList) (hwords : ∀ words ∈ rows, ∀ word ∈ words, IsWord word)
    (i : Nat) : wordsAt? text i = rows[i]? := by
  have hline : ∀ cs, (Line.mk (i + 1) cs).words.map Word.text =
      (wordChars [] cs).map String.ofList := by
    intro cs
    rw [wordChars, List.map_map]
    rfl
  have hrow := congrArg (fun css => css[i]?.map (List.map String.ofList)) (h.map_wordChars hwords)
  simp only [List.getElem?_map, Option.map_map] at hrow
  simp only [wordsAt?, getElem?_lines, Option.map_map]
  simpa [Function.comp_def, hline] using hrow

end ProgramSearch.Text

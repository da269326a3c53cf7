/-
# ProgramSearch.Proofs.Loading.Words -- what the words of a line are

Words are described from the outside: characters part into white space and words, a word being a run
of other characters that white space or the end of the line ends, and each word has the column after
the bytes before it. There is one such parting, and reading a line finds it. What lines make of a
text does not matter for its words: they are those of the text taken as one line.
-/

import ProgramSearch.Proofs.Loading.Writing

namespace ProgramSearch.Text

/-! ## Partings -/

/-- The number of bytes that some characters take. -/
def byteSize (cs : List Char) : Nat := (String.ofList cs).utf8ByteSize

theorem byteSize_append (cs ds : List Char) : byteSize (cs ++ ds) = byteSize cs + byteSize ds := by
  rw [byteSize, String.ofList_append, String.utf8ByteSize_append, byteSize, byteSize]

theorem byteSize_cons (c : Char) (cs : List Char) :
    byteSize (c :: cs) = c.utf8Size + byteSize cs := by
  rw [← List.singleton_append, byteSize_append, byteSize, ← String.singleton_eq_ofList,
    String.utf8ByteSize_singleton]

/-- Characters after the first `offset` bytes of a line part into white space and these words. -/
inductive PartsFrom : Nat → List Char → List Word → Prop where
  | nil {offset : Nat} : PartsFrom offset [] []
  | blank {offset : Nat} {c : Char} {cs : List Char} {words : List Word}
      (hblank : isBlank c = true) (hrest : PartsFrom (offset + c.utf8Size) cs words) :
      PartsFrom offset (c :: cs) words
  | word {offset : Nat} {chars cs : List Char} {words : List Word} (hne : chars ≠ [])
      (hchars : chars.any isBlank = false) (hgap : cs.head?.all isBlank = true)
      (hrest : PartsFrom (offset + byteSize chars) cs words) :
      PartsFrom offset (chars ++ cs) (⟨offset + 1, chars⟩ :: words)

/-- A line parts into white space and these words. -/
def Line.Parts (line : Line) (words : List Word) : Prop := PartsFrom 0 line.chars words

/-- Characters that are not blank go on with the word that was begun. -/
theorem splitWords_append {chars : List Char} (hchars : chars.any isBlank = false)
    (offset start : Nat) (current cs : List Char) :
    splitWords offset start current (chars ++ cs) =
      splitWords (offset + byteSize chars) start (chars.reverse ++ current) cs := by
  induction chars generalizing offset current with
  | nil => rfl
  | cons c chars ih =>
    obtain ⟨hc, hchars⟩ := Bool.or_eq_false_iff.1 (List.any_cons.symm.trans hchars)
    rw [List.cons_append, splitWords, if_neg (by simp [hc]), ih hchars, byteSize_cons,
      List.reverse_cons, List.append_assoc, Nat.add_assoc]
    rfl

/-- White space, or the end of the line, closes the word that was begun. -/
theorem splitWords_of_head {cs : List Char} (hgap : cs.head?.all isBlank = true)
    (offset start : Nat) (current : List Char) :
    splitWords offset start current cs =
      closeWord start current ++ splitWords offset offset [] cs := by
  cases cs with
  | nil =>
    show closeWord start current = closeWord start current ++ closeWord offset []
    rw [show closeWord offset [] = [] from rfl, List.append_nil]
  | cons c cs =>
    have hc : isBlank c = true := hgap
    rw [splitWords, splitWords, if_pos hc, if_pos hc]
    rfl

/-- A parting is what reading finds. -/
theorem PartsFrom.splitWords_eq {offset : Nat} {cs : List Char} {words : List Word}
    (h : PartsFrom offset cs words) : splitWords offset offset [] cs = words := by
  induction h with
  | nil => rfl
  | blank hblank _ ih =>
    rw [splitWords, if_pos hblank, ih]
    rfl
  | @word offset chars cs words hne hchars hgap _ ih =>
    have hclose : closeWord offset chars.reverse = [⟨offset + 1, chars⟩] := by
      rw [closeWord, if_neg (by simpa using hne), List.reverse_reverse]
    rw [splitWords_append hchars, List.append_nil, splitWords_of_head hgap, hclose, ih]
    rfl

/-- There is a parting: a word goes as far as it can. -/
theorem exists_partsFrom (offset : Nat) (cs : List Char) : ∃ words, PartsFrom offset cs words := by
  -- each step leaves fewer characters, a word as many fewer as it has
  induction hlength : cs.length using Nat.strongRecOn generalizing offset cs with
  | ind length ih =>
    cases cs with
    | nil => exact ⟨[], .nil⟩
    | cons c cs =>
      cases hc : isBlank c with
      | true =>
        obtain ⟨words, hwords⟩ :=
          ih cs.length (by simp [← hlength]) (offset + c.utf8Size) cs rfl
        exact ⟨words, .blank hc hwords⟩
      | false =>
        let chars := cs.takeWhile (!isBlank ·)
        let rest := cs.dropWhile (!isBlank ·)
        have hle : rest.length ≤ cs.length := (List.dropWhile_sublist _).length_le
        obtain ⟨words, hwords⟩ := ih rest.length (by simp [← hlength]; omega)
          (offset + byteSize (c :: chars)) rest rfl
        have hchars : (c :: chars).any isBlank = false := by
          have hall := List.all_eq_true.1 (List.all_takeWhile (p := (!isBlank ·)) (l := cs))
          exact List.any_eq_false.2 (List.forall_mem_cons.2 ⟨by simp [hc], by simpa using hall⟩)
        have hgap : rest.head?.all isBlank = true := by
          have hhead := List.head?_dropWhile_not (!isBlank ·) cs
          show (cs.dropWhile (!isBlank ·)).head?.all isBlank = true
          cases hdrop : (cs.dropWhile (!isBlank ·)).head? with
          | none => rfl
          | some d => simpa [hdrop] using hhead
        have hparts := PartsFrom.word (List.cons_ne_nil c chars) hchars hgap hwords
        rw [List.cons_append, List.takeWhile_append_dropWhile] at hparts
        exact ⟨_, hparts⟩

/-- **The words of a line are those that it parts into.** -/
theorem Line.parts_iff {line : Line} {words : List Word} :
    line.Parts words ↔ line.words = words := by
  constructor
  · exact PartsFrom.splitWords_eq
  · rintro rfl
    obtain ⟨words, hwords⟩ := exists_partsFrom 0 line.chars
    have heq : line.words = words := hwords.splitWords_eq
    exact heq ▸ hwords

theorem Line.parts_words (line : Line) : line.Parts line.words := parts_iff.2 rfl

/-! ## The words of a text -/

/-- The words of a text, taken as one line. -/
def tokens (text : String) : List String := (Line.mk 1 text.toList).words.map Word.text

/-- The words of a text with the lines that they stand in. -/
def placedTokens (text : String) : List (Line × Word) :=
  (lines text).flatMap fun line => line.words.map fun word => (line, word)

theorem map_text_words (line : Line) :
    line.words.map Word.text = (wordChars [] line.chars).map String.ofList := by
  rw [wordChars, List.map_map]
  rfl

/-- White space parts the words before it from those after it. -/
theorem wordChars_append_blank {c : Char} (hc : isBlank c = true) (current cs ds : List Char) :
    wordChars current (cs ++ c :: ds) = wordChars current cs ++ wordChars [] ds := by
  induction cs generalizing current with
  | nil => exact wordChars_cons_of_blank hc current ds
  | cons d cs ih =>
    rw [List.cons_append]
    cases hd : isBlank d with
    | true => rw [wordChars_cons_of_blank hd, wordChars_cons_of_blank hd, ih, List.append_assoc]
    | false => rw [wordChars_cons_of_not_blank hd, wordChars_cons_of_not_blank hd, ih]

/-- Line ends are white space, so the words of the lines are those of the whole. -/
theorem flatMap_wordChars_splitLines (current cs : List Char) :
    (splitLines current cs).flatMap (wordChars []) = wordChars [] (current.reverse ++ cs) := by
  fun_induction splitLines current cs with
  | case1 current hempty =>
    rw [List.isEmpty_iff.1 hempty]
    rfl
  | case2 current hne => simp
  | case3 current cs ih =>
    have hclose := wordChars_closeLine current.reverse
    rw [List.reverse_reverse] at hclose
    rw [List.flatMap_cons, ih, hclose, wordChars_append_blank (by decide)]
    rfl
  | case4 current c cs hc ih => rw [ih, List.reverse_cons, List.append_assoc, List.singleton_append]

theorem flatMap_numberLines {α : Type} (f : List Char → List α) (number : Nat)
    (css : List (List Char)) :
    (numberLines number css).flatMap (fun line => f line.chars) = css.flatMap f := by
  induction css generalizing number with
  | nil => rfl
  | cons cs css ih => rw [numberLines, List.flatMap_cons, List.flatMap_cons, ih]

/-- However a text is broken into lines, its words are those of the whole. -/
theorem map_placedTokens (text : String) :
    (placedTokens text).map (·.2.text) = tokens text := by
  have hline : ∀ line : Line, (line.words.map fun word => (line, word)).map (·.2.text) =
      (wordChars [] line.chars).map String.ofList := by
    intro line
    rw [← map_text_words, List.map_map]
    rfl
  simp only [placedTokens, List.map_flatMap, hline]
  rw [lines, flatMap_numberLines fun cs => (wordChars [] cs).map String.ofList,
    ← List.map_flatMap, flatMap_wordChars_splitLines, tokens, map_text_words]
  rfl

end ProgramSearch.Text

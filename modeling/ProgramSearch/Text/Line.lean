/-
# ProgramSearch.Text.Line -- the numbered lines of a text and their words

A text is read line by line. A line ends at a line feed, and a carriage return right before it
belongs to the line end too; a last line needs no line feed, and a line feed at the end of the text
opens no further line. The words of a line are its longest runs of characters that are not blank,
where the blank ones are those with the Unicode property White_Space. Each word knows the column it
starts in, the number of bytes of the line before it plus one.
-/

namespace ProgramSearch.Text

/-- Whether a character is white space in Unicode. -/
def isBlank (c : Char) : Bool :=
  let n := c.toNat
  (0x09 ≤ n && n ≤ 0x0D) || n == 0x20 || n == 0x85 || n == 0xA0 || n == 0x1680 ||
    (0x2000 ≤ n && n ≤ 0x200A) || n == 0x2028 || n == 0x2029 || n == 0x202F || n == 0x205F ||
    n == 0x3000

/-! ## Lines -/

/-- A line of a text: its number, counted from one, and its characters without the line end. -/
structure Line where
  number : Nat
  chars : List Char
  deriving DecidableEq, Repr, Inhabited

/-- The text of a line. -/
def Line.text (line : Line) : String := String.ofList line.chars

/-- The line whose characters are given last first, a carriage return before the line end left
out. -/
def closeLine : List Char → List Char
  | '\r' :: cs => cs.reverse
  | cs => cs.reverse

/-- The lines of a text, where `current` holds, last first, what was read of the first of them. -/
def splitLines (current : List Char) : List Char → List (List Char)
  | [] => if current.isEmpty then [] else [current.reverse]
  | '\n' :: cs => closeLine current :: splitLines [] cs
  | c :: cs => splitLines (c :: current) cs

/-- Lines with their numbers, counted from the given one. -/
def numberLines (number : Nat) : List (List Char) → List Line
  | [] => []
  | cs :: rest => ⟨number, cs⟩ :: numberLines (number + 1) rest

/-- The numbered lines of a text. -/
def lines (text : String) : List Line := numberLines 1 (splitLines [] text.toList)

/-! ## Words -/

/-- A word of a line and the column of its first byte. -/
structure Word where
  column : Nat
  chars : List Char
  deriving DecidableEq, Repr, Inhabited

/-- The text of a word. -/
def Word.text (word : Word) : String := String.ofList word.chars

/-- The word that began `start` bytes into its line and whose characters are given last first, if
there are any. -/
def closeWord (start : Nat) (current : List Char) : List Word :=
  if current.isEmpty then [] else [⟨start + 1, current.reverse⟩]

/-- The words of what follows the first `offset` bytes of a line, where `current` holds, last first,
the characters of a word that began at byte `start`. -/
def splitWords (offset start : Nat) (current : List Char) : List Char → List Word
  | [] => closeWord start current
  | c :: cs =>
    let next := offset + c.utf8Size
    if isBlank c then closeWord start current ++ splitWords next next [] cs
    else splitWords next start (c :: current) cs

/-- The words of a line, from left to right. -/
def Line.words (line : Line) : List Word := splitWords 0 0 [] line.chars

end ProgramSearch.Text

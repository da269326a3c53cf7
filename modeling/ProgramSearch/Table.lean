/-
# ProgramSearch.Table -- example tables

Examples are written in two tables. A types table has one line for each problem, the names of the
types of its columns. A values table has one line for each example, problem after problem: the
columns separated by bars, each column the numbers it holds. Words are separated by white space, and
a bar stands by itself.
-/

import ProgramSearch.Text.Line
import ProgramSearch.Numeral
import ProgramSearch.Value.Edit

namespace ProgramSearch.Table

open Text (Line Word)

/-- The greatest line number that can be reported. -/
def lastNumber : Nat := Nat.pow 2 64 - 1

/-- A fault of a whole line. -/
def lineError (line : Line) (fault : Fault) : ParseError :=
  ⟨none, line.number, none, fault, line.text⟩

/-- A fault of one word of a line. -/
def wordError (line : Line) (word : Word) (fault : Fault) : ParseError :=
  ⟨none, line.number, some word.column, fault, line.text⟩

/-- A fault of a line that is not there. -/
def absentLine (number : Nat) (fault : Fault) : ParseError :=
  ⟨none, min number lastNumber, none, fault, ""⟩

/-! ## Types -/

/-- The type that a word of a types line names. -/
def typeOfWord (line : Line) (word : Word) : Except ParseError Ty :=
  match Ty.ofName? word.text with
  | some type => return type
  | none => throw (wordError line word (.unexpectedType word.text))

/-- The types that a line names. -/
def typesOfLine (line : Line) : Except ParseError (List Ty) := line.words.mapM (typeOfWord line)

/-- The types on the line of a problem; problems are counted from zero. -/
def typesOfProblem (text : String) (problem : Nat) : Except ParseError (List Ty) :=
  match (Text.lines text)[problem]? with
  | some line => typesOfLine line
  | none => throw (absentLine (problem + 1) (.noTypesLine problem))

/-! ## Values -/

/-- A word of a values line: a number, or the bar between two columns. -/
inductive Cell where
  | number (n : Int32)
  | bar
  deriving DecidableEq, Repr

/-- What a word of a values line stands for. -/
def cellOfWord (line : Line) (word : Word) : Except ParseError Cell :=
  if word.chars = ['|'] then return .bar
  else match Numeral.int32? word.chars with
    | some n => return .number n
    | none => throw (wordError line word (.invalidInteger word.text))

/-- The columns between the bars; there is always one. -/
def columns : List Cell → List (List Int32)
  | [] => [[]]
  | .bar :: cells => [] :: columns cells
  | .number n :: cells =>
    match columns cells with
    | [] => [[n]]
    | column :: rest => (n :: column) :: rest

/-- The values of columns from number `i` on at their types; a column of type `Int` holds one
number. -/
def valuesOfColumns (line : Line) (i : Nat) :
    List Ty → List (List Int32) → Except ParseError (List Value)
  | .array :: types, column :: rest => do
    return .array column :: (← valuesOfColumns line (i + 1) types rest)
  | .int :: types, [n] :: rest => do
    return .int n :: (← valuesOfColumns line (i + 1) types rest)
  | .int :: _, column :: _ => throw (lineError line (.intColumn i column.length))
  | _, _ => return []

/-- The values of a line, one for each type. -/
def valuesOfLine (types : List Ty) (line : Line) : Except ParseError (List Value) := do
  let found := columns (← line.words.mapM (cellOfWord line))
  if found.length ≠ types.length then
    throw (lineError line (.columnCount types.length found.length))
  valuesOfColumns line 0 types found

/-- The values of a problem's examples from number `j` on; `first` is the number of the line before
the first example. -/
def rowsFrom (types : List Ty) (problem examples first j : Nat) :
    List Line → Except ParseError (List (List Value))
  | [] =>
    if j < examples then throw (absentLine (first + j + 1) (.missingExample j problem))
    else return []
  | line :: rest =>
    if j < examples then do
      let row ← valuesOfLine types line
      return row :: (← rowsFrom types problem examples first (j + 1) rest)
    else return []

/-- The values on the lines of a problem, each problem having the same number of examples. Lines
past the last number cannot be asked for. -/
def valuesOfProblem (text : String) (problem examples : Nat) (types : List Ty) :
    Except ParseError (List (List Value)) :=
  let first := problem * examples
  if first > lastNumber then throw (absentLine 0 (.pastAnyLine problem examples))
  else rowsFrom types problem examples first 0 ((Text.lines text).drop first)

end ProgramSearch.Table

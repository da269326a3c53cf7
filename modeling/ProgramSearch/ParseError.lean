/-
# ProgramSearch.ParseError -- what is wrong with a text, and where

A text that cannot be read is refused with one error: what is wrong, the line it is on, the column
where one word is to blame, and the name of the file when the text came from one. The message shows
the line and, under it, a caret at the column.
-/

import ProgramSearch.Binary64.Text

namespace ProgramSearch

/-- What is wrong with a text. -/
inductive Fault where
  /-- The word is not the name of a type. -/
  | unexpectedType (word : String)
  /-- The word is not a 32-bit number. -/
  | invalidInteger (word : String)
  /-- The line does not have one column for each type. -/
  | columnCount (expected found : Nat)
  /-- A column of type `Int` does not hold one number. -/
  | intColumn (column values : Nat)
  /-- The types table has no line for the problem. -/
  | noTypesLine (problem : Nat)
  /-- The values table has no line for the example. -/
  | missingExample (index problem : Nat)
  /-- The problem's lines have numbers that fit no machine word. -/
  | pastAnyLine (problem examples : Nat)
  /-- An output line has some other number of columns than one. -/
  | outputColumns (found : Nat)
  /-- The word is not a number. -/
  | invalidProbability (word : String)
  /-- The number is not between zero and one. -/
  | improbable (value : Binary64)
  /-- The text ends after a probability. -/
  | danglingProbability (value : Binary64)
  /-- A fault in somebody else's words. -/
  | other (text : String)
  deriving DecidableEq, Repr

/-- The wording of a fault. -/
def Fault.message : Fault → String
  | unexpectedType word => "unexpected type '" ++ word ++ "'"
  | invalidInteger word => "invalid integer '" ++ word ++ "'"
  | columnCount expected found =>
    "expected " ++ toString expected ++ " column(s) from types, found " ++ toString found
  | intColumn column values =>
    "column " ++ toString column ++ " is Int but holds " ++ toString values ++ " value(s)"
  | noTypesLine problem => "no types line for problem " ++ toString problem
  | missingExample index problem =>
    "missing example " ++ toString index ++ " of problem " ++ toString problem
  | pastAnyLine problem examples =>
    "problem " ++ toString problem ++ " with " ++ toString examples ++ " examples is past any line"
  | outputColumns found => "expected a single output column, found " ++ toString found
  | invalidProbability word => "invalid probability '" ++ word ++ "'"
  | improbable value => "probability " ++ value.text ++ " outside [0, 1]"
  | danglingProbability value => "probability " ++ value.text ++ " without a component name"
  | other text => text

/-- A fault and its place. -/
structure ParseError where
  /-- The file the text came from, when it is known. -/
  source : Option String
  /-- The number of the line, counted from one. -/
  line : Nat
  /-- The column of the word to blame, counted in bytes from one. -/
  column : Option Nat
  /-- What is wrong. -/
  fault : Fault
  /-- The line as it was read. -/
  content : String
  deriving DecidableEq, Repr

namespace ParseError

/-- The same error in a text that came from the named file. -/
def inFile (error : ParseError) (name : String) : ParseError := { error with source := some name }

/-- The message: source and place, the fault, the line, and a caret under the column. -/
def message (error : ParseError) : String :=
  let source := match error.source with
    | some name => name ++ ": "
    | none => ""
  let place := match error.column with
    | some column => "line " ++ toString error.line ++ ", column " ++ toString column
    | none => "line " ++ toString error.line
  let caret := match error.column with
    | some column => "\n  | " ++ String.ofList (List.replicate (column - 1) ' ') ++ "^"
    | none => ""
  source ++ place ++ ": " ++ error.fault.message ++ "\n  | " ++ error.content ++ caret

end ParseError

end ProgramSearch

/-
# ProgramSearch.Error -- the ways a computation is refused

Three kinds of error say that operators, registers and types do not fit together; they come from
wrong use, or from data that a strict `access` reads past the end of. The other two say that a text
cannot be read or that a file cannot.
-/

import ProgramSearch.ParseError
import ProgramSearch.Value

namespace ProgramSearch

/-- A rule of use that was broken. -/
inductive Violation where
  /-- An operator was given a wrong number of arguments. -/
  | arity (operator : String) (takes given : Nat)
  /-- There was no operation to undo. -/
  | nothingToUndo (inputs used : Nat)
  /-- Inputs and targets do not pair up. -/
  | unpairedTargets (states targets : Nat)
  /-- There were no examples. -/
  | noExamples
  /-- The registers of an example do not have the types of the first example's. -/
  | exampleTypes (index : Nat) (found reference : List Ty)
  /-- A target does not have the type of the first one. -/
  | targetType (index : Nat) (found reference : Ty)
  /-- A search was started on examples that operations had been applied to. -/
  | searchUnderway (applied : Nat)
  /-- A rule in somebody else's words. -/
  | other (text : String)
  deriving DecidableEq, Repr

/-- The wording of a broken rule. -/
def Violation.message : Violation → String
  | arity operator takes given =>
    operator ++ " takes " ++ toString takes ++ " argument(s), applied with " ++ toString given
  | nothingToUndo inputs used =>
    "undo with no applied operation (" ++ toString inputs ++ " inputs, " ++ toString used ++
      " used)"
  | unpairedTargets states targets =>
    toString states ++ " input states but " ++ toString targets ++ " targets"
  | noExamples => "example set has no examples"
  | exampleTypes index found reference =>
    "example " ++ toString index ++ " has type signature " ++ Ty.listText found ++
      ", example 0 has " ++ Ty.listText reference
  | targetType index found reference =>
    "target " ++ toString index ++ " is " ++ found.name ++ ", target 0 is " ++ reference.name
  | searchUnderway applied =>
    "search started on an example set with " ++ toString applied ++ " applied operation(s)"
  | other text => text

/-- Why a file could not be read. -/
inductive FileFault where
  | notFound
  | isDirectory
  | notDirectory
  | notText
  /-- A name, or the path as a whole, takes more bytes than there is room for. -/
  | nameTooLong
  | zeroInName
  /-- A fault in somebody else's words. -/
  | other (text : String)
  deriving DecidableEq, Repr

/-- The wording of a file fault. -/
def FileFault.message : FileFault → String
  | notFound => "No such file or directory (os error 2)"
  | isDirectory => "Is a directory (os error 21)"
  | notDirectory => "Not a directory (os error 20)"
  | notText => "stream did not contain valid UTF-8"
  | nameTooLong => "File name too long (os error 36)"
  | zeroInName => "file name contained an unexpected NUL byte"
  | other text => text

/-- The ways a computation is refused. -/
inductive Error where
  /-- A value of one type stood where another was needed. -/
  | typeMismatch (expected found : Ty)
  /-- An index did not lie within a length. -/
  | indexOutOfRange (index : Int) (length : Nat)
  /-- A rule of use was broken. -/
  | violation (rule : Violation)
  /-- A text could not be read. -/
  | format (error : ParseError)
  /-- A file could not be read. -/
  | unreadable (path : String) (fault : FileFault)
  deriving DecidableEq, Repr

namespace Error

/-- The wording of an error. -/
def message : Error → String
  | typeMismatch expected found =>
    "type mismatch: expected " ++ expected.name ++ ", found " ++ found.name
  | indexOutOfRange index length =>
    "index " ++ toString index ++ " out of range for length " ++ toString length
  | violation rule => "invariant violation: " ++ rule.message
  | format error => "data format error: " ++ error.message
  | unreadable path fault => "failed to read " ++ path ++ ": " ++ fault.message

/-- Whether the error is one of use, not of the data that was read. -/
def isInternal : Error → Bool
  | typeMismatch .. | indexOutOfRange .. | violation .. => true
  | format .. | unreadable .. => false

/-- The wording of the error that this one was caused by, if there was one. -/
def cause? : Error → Option String
  | format error => some error.message
  | unreadable _ fault => some fault.message
  | typeMismatch .. | indexOutOfRange .. | violation .. => none

/-- The error for an index that lies past a length. Indices are words of 64 bits and are reported
as signed ones. -/
def pastEnd (index length : Nat) : Error :=
  indexOutOfRange ((index : Int).bmod (Nat.pow 2 64)) length

end Error

end ProgramSearch

/-
# ProgramSearch.DataDirectory -- reading examples and priors from files

A data directory has four tables, the types and the values of inputs and of outputs, and it may have
files with priors. A path to one of them is shown as it was put together, so putting paths together
adds a slash only where there is none. Reading is done in a monad that is given: in one that has
files, or in one that has them in memory. The first file or text that cannot be read decides the
answer.
-/

import ProgramSearch.ExampleSet
import ProgramSearch.OrderSource
import ProgramSearch.Prior
import ProgramSearch.Table

namespace ProgramSearch

/-! ## Paths -/

/-- The path of a name below a directory. A name that begins with a slash stands for itself. -/
def Path.join (directory name : String) : String :=
  if name.startsWith "/" || directory.isEmpty then name
  else if directory.endsWith "/" then directory ++ name
  else directory ++ "/" ++ name

/-- The prior file to read for a problem, if the source needs one. -/
def OrderSource.priorPath (source : OrderSource) (directory : String) (problem : Nat) :
    Option String :=
  match source with
  | .catalog | .shuffle _ => none
  | .prior => some (Path.join directory "prior.txt")
  | .predictions =>
    some (Path.join (Path.join directory "predictions") (toString problem ++ ".txt"))
  | .random n => some (Path.join directory ("random_ordering_" ++ toString n.toNat ++ ".txt"))

/-! ## Files -/

namespace DataDirectory

/-- A way to read the text of the file at a path. -/
abbrev ReadFile (m : Type → Type) := String → m (Except FileFault String)

/-- The file with the types of each problem's inputs. -/
def inputTypesFile : String := "input_types.txt"

/-- The file with the inputs of each example. -/
def inputValuesFile : String := "input_values.txt"

/-- The file with the type of each problem's output. -/
def outputTypesFile : String := "output_types.txt"

/-- The file with the output of each example. -/
def outputValuesFile : String := "output_values.txt"

variable {m : Type → Type} [Monad m]

/-- The text of the file at a path. -/
def readText (read : ReadFile m) (path : String) : ExceptT Error m String :=
  ExceptT.mk do return (← read path).mapError (.unreadable path)

/-- What a text from the named file was read as. -/
def fromFile {α : Type} (name : String) (answer : Except ParseError α) : ExceptT Error m α :=
  ExceptT.mk (pure (answer.mapError fun e => .format (e.inFile name)))

/-- The values of a problem's examples in one pair of tables. -/
def loadRows (read : ReadFile m) (directory typesFile valuesFile : String)
    (problem examples : Nat) : ExceptT Error m (List (List Value)) := do
  let typesText ← readText read (Path.join directory typesFile)
  let types ← fromFile typesFile (Table.typesOfProblem typesText problem)
  let valuesText ← readText read (Path.join directory valuesFile)
  fromFile valuesFile (Table.valuesOfProblem valuesText problem examples types)

/-- The outputs on rows that must have one column each; `number` is the number of the first row's
line. -/
def singleOutputs (number : Nat) : List (List Value) → Except ParseError (List Value)
  | [] => return []
  | [v] :: rest => do
    return v :: (← singleOutputs (number + 1) rest)
  | row :: _ => throw (Table.absentLine number (.outputColumns row.length))

/-- The examples of a problem. -/
def loadExamples (read : ReadFile m) (directory : String) (problem examples : Nat) :
    ExceptT Error m ExampleSet := do
  let inputs ← loadRows read directory inputTypesFile inputValuesFile problem examples
  let outputs ← loadRows read directory outputTypesFile outputValuesFile problem examples
  -- all lines are numbered in the values table, which is where the outputs stand
  let targets ← fromFile outputValuesFile (singleOutputs (problem * examples + 1) outputs)
  ExceptT.mk (pure (ExampleSet.ofStates (inputs.map .ofInputs) targets))

/-- The prior in the file at a path. -/
def loadPrior (read : ReadFile m) (path : String) : ExceptT Error m Prior := do
  let text ← readText read path
  fromFile path (Prior.ofText text)

end DataDirectory

end ProgramSearch

/-
# ProgramSearch.Main -- the program

Reads the command line, does what it asks for with the files and the clock of the machine, and
prints what comes of it. The exit status is 0, or 2 for a command line that cannot be read, or what
the failure of a command says.
-/

import ProgramSearch.CommandLine.Run

namespace ProgramSearch.CommandLine

/-- The fault that a failed read stands for. The machine's number for a fault may be negated. -/
def faultOfError : IO.Error → FileFault
  | .noFileOrDirectory .. => .notFound
  | e@(.inappropriateType _ code _) =>
    match min code (0 - code) with
    | 20 => .notDirectory
    | 21 => .isDirectory
    | _ => .other (toString e)
  | e => .other (toString e)

/-- The text of a file of this machine. -/
def readMachineFile (path : String) : IO (Except FileFault String) := do
  try
    match String.fromUTF8? (← IO.FS.readBinFile path) with
    | some text => return .ok text
    | none => return .error .notText
  catch e => return .error (faultOfError e)

/-- The value of a computation and the time this machine took for it. -/
def timeOnMachine {α : Type} (f : Unit → α) : IO (α × Duration) := do
  let start ← IO.monoNanosNow
  let a ← IO.lazyPure f
  let stop ← IO.monoNanosNow
  return (a, ⟨stop - start⟩)

/-- The machine that the program runs on. -/
def machine : Host IO := ⟨readMachineFile, timeOnMachine⟩

end ProgramSearch.CommandLine

open ProgramSearch.CommandLine in
def main (args : List String) : IO UInt32 := do
  match Request.ofArguments args with
  | .error e =>
    IO.eprintln ("error: " ++ e.message)
    return 2
  | .ok request =>
    let transcript ← run machine request
    for piece in transcript.pieces do
      IO.print piece.render
    if let some failure := transcript.failure then
      IO.eprint failure.text
    return transcript.status

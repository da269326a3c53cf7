/-
# ProgramSearch.CommandLine.Transcript -- what a command prints and how it ends

What a command prints is kept in pieces, since some of it depends on the clock: a time is a piece of
its own, which knows the span it shows. A transcript is what was printed and, if the command failed,
the failure that ended it.
-/

import ProgramSearch.Error
import ProgramSearch.Search.Limits
import ProgramSearch.Search.Report

namespace ProgramSearch.CommandLine

/-- A piece of what a command prints. -/
inductive Piece where
  /-- Text that does not depend on the clock. -/
  | text (s : String)
  /-- A span of time in seconds. -/
  | seconds (d : Duration)
  /-- A span of time with its unit. -/
  | time (d : Duration)
  /-- The nodes for each second of a search. -/
  | rate (statistics : Statistics)
  deriving DecidableEq, Repr

/-- What a piece looks like. -/
def Piece.render : Piece → String
  | text s => s
  | seconds d => d.seconds.text
  | time d => d.text
  | rate statistics => statistics.throughputText ++ " nodes/sec"

/-- The end of a command that failed: what could not be done, and the causes of that, each the cause
of the one before. -/
structure Failure where
  message : String
  causes : List String
  /-- The exit status of the command. -/
  status : UInt32
  deriving DecidableEq, Repr

namespace Failure

/-- A failure that nothing else caused. -/
def plain (message : String) : Failure := ⟨message, [], 1⟩

/-- A failure caused by an error, which may have a cause of its own. -/
def ofError (message : String) (error : Error) : Failure :=
  ⟨message, error.message :: error.cause?.toList, 1⟩

/-- The failure of a search that cannot even begin. No command foresees it, and it has a status of
its own. -/
def ofExcess (excess : Limits.Excess) : Failure := ⟨excess.message, [], 101⟩

/-- A text with every line after the first moved in. -/
def indentRest (spaces : Nat) (text : String) : String :=
  ("\n" ++ String.ofList (List.replicate spaces ' ')).intercalate (text.splitOn "\n")

/-- The causes of a failure, numbered if there are several. -/
def causeLines : List String → List String
  | [cause] => ["    " ++ indentRest 4 cause]
  | causes => causes.zipIdx.map fun (cause, i) =>
    "    " ++ toString i ++ ": " ++ indentRest 7 cause

/-- A failure as it is printed, with its causes. -/
def text (failure : Failure) : String :=
  "Error: " ++ failure.message ++ "\n" ++
    (if failure.causes.isEmpty then "" else
      "\nCaused by:\n" ++ String.join ((causeLines failure.causes).map (· ++ "\n")))

end Failure

/-- What a command printed and how it ended. -/
structure Transcript where
  pieces : List Piece
  failure : Option Failure
  deriving DecidableEq, Repr

namespace Transcript

/-- A command that printed some pieces and was done. -/
def done (pieces : List Piece) : Transcript := ⟨pieces, none⟩

/-- A command that printed some pieces and then failed. -/
def failed (pieces : List Piece) (failure : Failure) : Transcript := ⟨pieces, some failure⟩

/-- The same command, having printed some pieces before. -/
def after (transcript : Transcript) (pieces : List Piece) : Transcript :=
  { transcript with pieces := pieces ++ transcript.pieces }

/-- The exit status of a command. -/
def status (transcript : Transcript) : UInt32 :=
  match transcript.failure with
  | some failure => failure.status
  | none => 0

end Transcript

end ProgramSearch.CommandLine

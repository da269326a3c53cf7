/-
# ProgramSearch.Search.Report -- what a search comes to

A search ends with a program that reproduces every example, with no program left to try, or with a
spent budget. Its report says which, together with counts of the work done and the time it took. The
time is a whole number of nanoseconds. It is shown in the largest unit that it is at least one of,
with two decimal places; a span that rounds up to the next unit keeps its own.
-/

import ProgramSearch.Binary64.Text
import ProgramSearch.Instruction

namespace ProgramSearch

/-! ## Time -/

/-- A span of time. -/
structure Duration where
  nanoseconds : Nat
  deriving DecidableEq, Repr, Inhabited

namespace Duration

/-- No time at all. -/
def zero : Duration := ⟨0⟩

/-- A span of seconds and nanoseconds. -/
def ofParts (seconds nanoseconds : Nat) : Duration := ⟨seconds * Nat.pow 10 9 + nanoseconds⟩

/-- One span after the other. -/
def add (x y : Duration) : Duration := ⟨x.nanoseconds + y.nanoseconds⟩

/-- The span as a double: the whole seconds and the fraction are rounded apart and then added. -/
def seconds (d : Duration) : Binary64 :=
  (Binary64.ofNat (d.nanoseconds / Nat.pow 10 9)).add
    ((Binary64.ofNat (d.nanoseconds % Nat.pow 10 9)).div (Binary64.ofNat (Nat.pow 10 9)))

/-- The span with two decimal places and a unit; a half goes to the even neighbour. -/
def text (d : Duration) : String :=
  let n := d.nanoseconds
  let shown (unit : Nat) (name : String) : String :=
    Decimal.ofRatio n unit 2 ++ name
  if n ≥ Nat.pow 10 9 then shown (Nat.pow 10 9) "s"
  else if n ≥ Nat.pow 10 6 then shown (Nat.pow 10 6) "ms"
  else if n ≥ Nat.pow 10 3 then shown (Nat.pow 10 3) "µs"
  else shown 1 "ns"

end Duration

/-! ## Outcomes and counts -/

/-- How a search ends. -/
inductive Outcome where
  /-- A program that reproduces every example was found. -/
  | solved
  /-- Every program up to the greatest length was tried. -/
  | exhausted
  /-- A budget ran out first. -/
  | budgetExceeded
  deriving DecidableEq, Repr

/-- The wording of an outcome. -/
def Outcome.text : Outcome → String
  | solved => "solved"
  | exhausted => "exhausted"
  | budgetExceeded => "budget exceeded"

/-- Counts of the work a search does. -/
structure Counters where
  /-- Instructions applied. -/
  nodes : Nat
  /-- Depths left because nothing was left to try in them. -/
  backtracks : Nat
  /-- Depths entered. -/
  inits : Nat
  /-- The greatest number of instructions applied at once. -/
  deepest : Nat
  deriving DecidableEq, Repr

namespace Counters

/-- No work done. -/
def zero : Counters := ⟨0, 0, 0, 0⟩

/-- The counts after one more instruction was applied, with `depth` of them applied at once. -/
def explored (c : Counters) (depth : Nat) : Counters :=
  { c with nodes := c.nodes + 1, deepest := max c.deepest depth }

/-- The counts after one more depth was entered. -/
def entered (c : Counters) : Counters := { c with inits := c.inits + 1 }

/-- The counts after one more depth was left. -/
def left (c : Counters) : Counters := { c with backtracks := c.backtracks + 1 }

end Counters

/-- The work a search did and the time it took. -/
structure Statistics where
  counters : Counters
  elapsed : Duration
  deriving DecidableEq, Repr

namespace Statistics

/-- The statistics before any search. -/
def zero : Statistics := ⟨.zero, .zero⟩

/-- Nodes for each second; zero if no time passed. -/
def throughput (statistics : Statistics) : Binary64 :=
  let seconds := statistics.elapsed.seconds
  if seconds.code = 0 then .zero else (Binary64.ofNat statistics.counters.nodes).div seconds

end Statistics

/-! ## Reports -/

/-- What a search comes to. -/
structure Report where
  outcome : Outcome
  /-- The program found, if the search was solved. -/
  program : Option Program
  statistics : Statistics
  deriving DecidableEq, Repr

namespace Report

/-- The report of a search that ended with the given outcome, the given program standing. Only a
solved search reports it. -/
def ofOutcome (outcome : Outcome) (program : Program) (statistics : Statistics) : Report :=
  ⟨outcome, if outcome = .solved then some program else none, statistics⟩

/-- The instructions of the program found; none if there is none. -/
def path (report : Report) : List Instruction :=
  match report.program with
  | some program => program.steps
  | none => []

/-- Whether a program was found. -/
def isSolved (report : Report) : Bool := report.outcome = .solved

/-- The lines of a report that come before the time the search took. -/
def headText (report : Report) : String :=
  (if report.isSolved then "Solved!\n" else "Failed!\n") ++
    "Nodes explored: " ++ toString report.statistics.counters.nodes ++ "\n"

/-- The lines of a report that come after the time the search took. -/
def tailText (report : Report) : String :=
  match report.program with
  | some program => "Solution:\n" ++ program.text
  | none =>
    if report.outcome = .budgetExceeded then "Search stopped: budget exceeded\n" else ""

/-- A report as it is printed, with the time in seconds. -/
def text (report : Report) : String :=
  report.headText ++ report.statistics.elapsed.seconds.text ++ "\n" ++ report.tailText

end Report

namespace Statistics

/-- The lines of a summary of the counts that follow the throughput. -/
def countsText (statistics : Statistics) : String :=
  "Backtracks: " ++ toString statistics.counters.backtracks ++ "\n" ++
    "Enumerator inits: " ++ toString statistics.counters.inits ++ "\n" ++
    "Deepest path: " ++ toString statistics.counters.deepest ++ "\n"

/-- The throughput as a summary shows it. -/
def throughputText (statistics : Statistics) : String := statistics.throughput.fixed 0

/-- Statistics as a summary shows them. -/
def text (statistics : Statistics) : String :=
  "Time: " ++ statistics.elapsed.text ++ "\n" ++
    "Nodes explored: " ++ toString statistics.counters.nodes ++ "\n" ++
    "Throughput: " ++ statistics.throughputText ++ " nodes/sec\n" ++ statistics.countsText

end Statistics

end ProgramSearch

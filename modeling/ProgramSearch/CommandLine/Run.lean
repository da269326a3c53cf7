/-
# ProgramSearch.CommandLine.Run -- the commands

`search` searches programs for a problem, or for several problems one after the other with a summary
at the end; `ops` lists a catalog with the scores of its operators. A batch of problems prints what
its problems print alone, each under a heading, and stops at the first that fails.
-/

import ProgramSearch.CommandLine.Arguments
import ProgramSearch.CommandLine.Transcript
import ProgramSearch.DataDirectory
import ProgramSearch.Search.Searcher

namespace ProgramSearch.CommandLine

open DataDirectory (ReadFile)

/-- What a command needs of the machine it runs on. -/
structure Host (m : Type → Type) where
  /-- Reads the text of a file. -/
  read : ReadFile m
  /-- Does a computation and says how long it took. -/
  timed : {α : Type} → (Unit → α) → m (α × Duration)

variable {m : Type → Type} [Monad m]

/-! ## The catalog -/

/-- The catalog that a command asked for, and the prior it was ranked by. -/
def loadCatalog (host : Host m) (options : CatalogOptions) (directory : Option String)
    (problem : Nat) : ExceptT Failure m (Catalog × Prior) := do
  let all := if options.withIntOps then Catalog.full else Catalog.standard
  let all := if options.accessSentinel then all.withBounds .sentinel else all
  let cutoff := Catalog.cutoff? options.cutoff
  match options.order, directory with
  | .shuffle seed, _ => return ((all.shuffled seed).truncated cutoff, .empty)
  | .catalog, _ => return (all.truncated cutoff, .empty)
  | order, none =>
    throw (.plain ("ordering '" ++ order.text ++ "' needs a data directory"))
  | order, some directory =>
    match order.priorPath directory problem with
    | none => return (all.truncated cutoff, .empty)
    | some path =>
      let prior ← ExceptT.adapt (Failure.ofError ("Failed to load prior '" ++ path ++ "'"))
        (DataDirectory.loadPrior host.read path)
      return (all.ranked prior cutoff, prior)

/-! ## Searching -/

/-- What a report prints. -/
def reportPieces (report : Report) : List Piece :=
  [.text report.headText, .seconds report.statistics.elapsed, .text ("\n" ++ report.tailText)]

/-- What the statistics of a search print. -/
def statisticsPieces (statistics : Statistics) : List Piece :=
  [.text "Time: ", .time statistics.elapsed,
    .text ("\nNodes explored: " ++ toString statistics.counters.nodes ++ "\nThroughput: "),
    .rate statistics, .text ("\n" ++ statistics.countsText)]

/-- The failure of a search on a problem. -/
def searchFailure (options : SearchOptions) (problem : Nat) (error : Error) : Failure :=
  let hint := if options.catalog.accessSentinel then ""
    else " (use --access-sentinel to tolerate out-of-range access)"
  .ofError ("Search failed on problem " ++ toString problem ++ hint) error

/-- Searches programs for one problem; what it prints, and its report unless it fails. -/
def searchProblem (host : Host m) (verbose : Bool) (options : SearchOptions) (problem : Nat) :
    m (List Piece × Except Failure Report) := do
  let loadFailure := Failure.ofError
    ("Failed to load problem " ++ toString problem ++ " from " ++ options.directory)
  let load := DataDirectory.loadExamples host.read options.directory problem options.examples
  match ← load.run with
  | .error e => return ([], .error (loadFailure e))
  | .ok examples =>
    match ← (loadCatalog host options.catalog (some options.directory) problem).run with
    | .error failure => return ([], .error failure)
    | .ok (catalog, _) =>
      let opening := if verbose then
        [.text (examples.text ++ "Operators: " ++ toString catalog.operators.length ++ "\n")]
        else []
      if let some excess := options.limits.excess? then
        return (opening, .error (.ofExcess excess))
      let ((answer, _), elapsed) ← host.timed fun _ => search examples catalog options.limits
      match answer with
      | .error e => return (opening, .error (searchFailure options problem e))
      | .ok report =>
        let report := { report with statistics := { report.statistics with elapsed } }
        let closing := if verbose then statisticsPieces report.statistics else []
        return (opening ++ reportPieces report ++ closing, .ok report)

/-- What the problems of a batch have come to so far. -/
structure Totals where
  solved : Nat
  nodes : Nat
  time : Duration
  deriving DecidableEq, Repr

/-- The totals with one more report. -/
def Totals.add (totals : Totals) (report : Report) : Totals :=
  ⟨totals.solved + (if report.isSolved then 1 else 0),
    totals.nodes + report.statistics.counters.nodes,
    totals.time.add report.statistics.elapsed⟩

/-- The summary of a batch. -/
def summaryPieces (count : Nat) (totals : Totals) : List Piece :=
  [.text ("\nSummary:\n  Solved: " ++ toString totals.solved ++ "/" ++ toString count ++
      "\n  Nodes explored: " ++ toString totals.nodes ++ "\n  Time: "),
    .time totals.time, .text "\n"]

/-- Searches the last `left` problems of a batch, the first of them numbered `problem`. -/
def searchBatch (host : Host m) (verbose : Bool) (options : SearchOptions) (problem : Nat)
    (totals : Totals) : Nat → m Transcript
  | 0 => return .done (summaryPieces options.problemCount totals)
  | left + 1 => do
    let heading := Piece.text ("Problem " ++ toString problem ++ ":\n")
    match ← searchProblem host verbose options problem with
    | (pieces, .error failure) => return .failed (heading :: pieces) failure
    | (pieces, .ok report) =>
      let rest ← searchBatch host verbose options (problem + 1) (totals.add report) left
      return rest.after (heading :: pieces)

/-- Searches programs for the problems asked for. A batch has more problems than one; with no
problem there is nothing to do. -/
def runSearch (host : Host m) (verbose : Bool) (options : SearchOptions) : m Transcript := do
  if options.examples = 0 then
    return .failed [] (.plain "--examples must be at least 1")
  else if options.problem + options.problemCount ≥ Nat.pow 2 64 then
    return .failed [] (.plain ("--problem " ++ toString options.problem ++
      " plus --num-problems " ++ toString options.problemCount ++ " is out of range"))
  else match options.problemCount with
    | 0 => return .done []
    | 1 =>
      match ← searchProblem host verbose options options.problem with
      | (pieces, .error failure) => return .failed pieces failure
      | (pieces, .ok _) => return .done pieces
    | count => searchBatch host verbose options options.problem ⟨0, 0, .zero⟩ count

/-! ## Listing -/

/-- A text filled up with spaces in front. -/
def padLeft (width : Nat) (text : String) : String :=
  String.ofList (List.replicate (width - text.length) ' ') ++ text

/-- A text filled up with spaces behind. -/
def padRight (width : Nat) (text : String) : String :=
  text ++ String.ofList (List.replicate (width - text.length) ' ')

/-- The line of an operator: its rank, name, signature and score. -/
def operatorLine (rank : Nat) (op : Operator) (score : Binary64) : String :=
  "  " ++ padLeft 3 (toString rank) ++ "  " ++ padRight 20 op.name ++ " " ++
    padRight 22 op.signature.text ++ " " ++ score.fixed 4 ++ "\n"

/-- Lists the catalog asked for. -/
def runListing (host : Host m) (options : ListingOptions) : m Transcript := do
  match ← (loadCatalog host options.catalog options.directory options.problem).run with
  | .error failure => return .failed [] failure
  | .ok (catalog, prior) =>
    let heading := "Operators (" ++ toString catalog.operators.length ++ ", ordering " ++
      options.catalog.order.text ++ "):\n"
    let lines := (catalog.scored prior).zipIdx.map fun ((op, score), rank) =>
      operatorLine rank op score
    return .done [.text (heading ++ String.join lines)]

/-! ## The program -/

/-- What the program says of itself. -/
def versionText : String := "enumsynth 0.1.0\n"

/-- How a command line is written. -/
def helpText : String :=
  "Searches programs that reproduce input/output examples.\n\n" ++
    "Usage: search DIRECTORY [OPTIONS]    search programs for the examples of a problem\n" ++
    "       ops [DIRECTORY] [OPTIONS]     list the operators a search would try\n\n" ++
    "Options:\n" ++
    "  -v, --verbose            show the examples and the statistics of the search\n" ++
    "      --problem N          number of the first problem [0]\n" ++
    "      --num-problems N     number of problems [1]\n" ++
    "      --examples N         number of examples of a problem [5]\n" ++
    "      --max-length N       number of instructions of the longest programs [5]\n" ++
    "      --node-limit N       stop after so many nodes\n" ++
    "      --timeout N          0: stop after one step; any other time does not run out\n" ++
    "      --ordering ORDER     none, prior, predictions, random:<n> or shuffle:<seed> [prior]\n" ++
    "      --cutoff N           number of operators to keep, -1 for all [-1]\n" ++
    "      --access-sentinel    tolerate access outside an array\n" ++
    "      --with-int-ops       include the operators on single integers\n"

/-- Does what a command line asks for. -/
def run (host : Host m) : Request → m Transcript
  | .version => return .done [.text versionText]
  | .help => return .done [.text helpText]
  | .search verbose options => runSearch host verbose options
  | .listing options => runListing host options

end ProgramSearch.CommandLine

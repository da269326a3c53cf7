import ProgramSearch.Text.Line
import ProgramSearch.Text.Case
import ProgramSearch.Numeral
import ProgramSearch.Binary64.Basic
import ProgramSearch.Binary64.Text
import ProgramSearch.Value
import ProgramSearch.ParseError
import ProgramSearch.Error
import ProgramSearch.Value.Edit
import ProgramSearch.Buffer
import ProgramSearch.Operator.Function
import ProgramSearch.Operator.Basic
import ProgramSearch.Operator.Evaluate
import ProgramSearch.Operator.InBuffer
import ProgramSearch.Instruction
import ProgramSearch.Run
import ProgramSearch.RegisterFile
import ProgramSearch.Stack
import ProgramSearch.SlotRow
import ProgramSearch.ExampleSet
import ProgramSearch.Prior
import ProgramSearch.Random.KeyStream
import ProgramSearch.Random.Shuffle
import ProgramSearch.Catalog
import ProgramSearch.OrderSource
import ProgramSearch.Table
import ProgramSearch.DataDirectory
import ProgramSearch.FileTree
import ProgramSearch.Search.Listing
import ProgramSearch.Search.Cursor
import ProgramSearch.Search.Limits
import ProgramSearch.Search.Report
import ProgramSearch.Search.Exploration
import ProgramSearch.Search.Walk
import ProgramSearch.Search.Searcher
import ProgramSearch.CommandLine.Arguments
import ProgramSearch.CommandLine.Transcript
import ProgramSearch.CommandLine.Run
import ProgramSearch.Main
import ProgramSearch.Proofs.Trying
import ProgramSearch.Proofs.Magnitude
import ProgramSearch.Proofs.Typing
import ProgramSearch.Proofs.Meaning
import ProgramSearch.Proofs.Agreement
import ProgramSearch.Proofs.Refusals
import ProgramSearch.Proofs.Registers
import ProgramSearch.Proofs.Stack
import ProgramSearch.Proofs.Allocation
import ProgramSearch.Proofs.Applicability
import ProgramSearch.Proofs.Lockstep
import ProgramSearch.Proofs.Search.Tree
import ProgramSearch.Proofs.Search.Standing
import ProgramSearch.Proofs.Search.Reading
import ProgramSearch.Proofs.Search.Runs
import ProgramSearch.Proofs.History
import ProgramSearch.Proofs.Atomicity
import ProgramSearch.Proofs.Search.Invariant
import ProgramSearch.Proofs.Search.Situations
import ProgramSearch.Proofs.Search.Exploration
import ProgramSearch.Proofs.Search.Completeness
import ProgramSearch.Proofs.Search.Soundness
import ProgramSearch.Proofs.Search.Restoration
import ProgramSearch.Proofs.Resetting
import ProgramSearch.Proofs.Search.Faults
import ProgramSearch.Proofs.Search.Budgets
import ProgramSearch.Proofs.Search.Counting
import ProgramSearch.Proofs.Search.Effort
import ProgramSearch.Proofs.Search.Remaining
import ProgramSearch.Proofs.Search.Schedules
import ProgramSearch.Proofs.Search.Visibility
import ProgramSearch.Proofs.Search.Membership
import ProgramSearch.Proofs.Search.Tolerance
import ProgramSearch.Proofs.Rearranging
import ProgramSearch.Proofs.Search.Order
import ProgramSearch.Proofs.Loading.Tables
import ProgramSearch.Proofs.Loading.Writing
import ProgramSearch.Proofs.Loading.Words
import ProgramSearch.Proofs.Loading.Directory
import ProgramSearch.Proofs.Loading.RoundTrip
import ProgramSearch.Proofs.Loading.Grammar
import ProgramSearch.Proofs.Loading.Priors
import ProgramSearch.Proofs.Loading.Positions
import ProgramSearch.Proofs.Printing
import ProgramSearch.Proofs.Loading.Misplaced
import ProgramSearch.Proofs.Buffer
import ProgramSearch.Proofs.InPlace
import ProgramSearch.Proofs.Spelling
import ProgramSearch.Proofs.Ranking
import ProgramSearch.Proofs.Zeros
import ProgramSearch.Proofs.Shuffling
import ProgramSearch.Proofs.Preparation
import ProgramSearch.Proofs.CommandLine.Answers
import ProgramSearch.Proofs.CommandLine.Batches

/-
# ProgramSearch.Search.Limits -- how far a search may go

A search has a greatest program length and, if wanted, budgets: a number of nodes and a time. A
search has no clock of its own. A time of zero has run out at the first look, and any other time is
taken not to run out.
-/

namespace ProgramSearch

/-- What a search may spend. -/
structure Budget where
  /-- The number of nodes after which the search stops. -/
  nodeLimit : Option Nat
  /-- The number of seconds after which the search stops. -/
  timeout : Option Nat
  deriving DecidableEq, Repr

namespace Budget

/-- No limit on anything. -/
def unlimited : Budget := ⟨none, none⟩

/-- Whether anything is limited. -/
def isBounded (budget : Budget) : Bool := budget.nodeLimit.isSome || budget.timeout.isSome

/-- Whether the budget has run out after so many nodes. -/
def isSpent (budget : Budget) (nodes : Nat) : Bool :=
  budget.nodeLimit.any (· ≤ nodes) || budget.timeout == some 0

end Budget

/-- The limits of a search. -/
structure Limits where
  /-- The number of instructions of the longest programs to try. -/
  maxLength : Nat
  /-- What the search may spend. -/
  budget : Budget
  deriving DecidableEq, Repr

namespace Limits

/-- Unless told otherwise a search tries programs of up to five instructions and has no budgets. -/
def standard : Limits := ⟨5, .unlimited⟩

/-! ## Limits that no machine can keep -/

/-- A limit that is too great for the machine. -/
inductive Excess where
  /-- There is no room for so many depths. -/
  | length (maxLength : Nat)
  /-- The clock cannot tell when so much time is over. -/
  | time (seconds : Nat)
  deriving DecidableEq, Repr

/-- The wording of an excess. -/
def Excess.message : Excess → String
  | length maxLength => "there is no room for programs of length " ++ toString maxLength
  | time seconds => "the clock does not reach " ++ toString seconds ++ " seconds ahead"

/-- The most depths there can be room for: a depth takes 112 bytes, and memory has less than
`2 ^ 63` of them. -/
def mostDepths : Nat := (Nat.pow 2 63 - 1) / 112

/-- The longest time whose end the clock can tell: the clock counts seconds in a signed word of 64
bits, and it has been running for a minute. -/
def longestTime : Nat := Nat.pow 2 63 - 1 - 60

/-- The limit that is too great for the machine, if there is one. -/
def excess? (limits : Limits) : Option Excess :=
  if limits.maxLength > mostDepths then some (.length limits.maxLength)
  else (limits.budget.timeout.filter (· > longestTime)).map .time

end Limits

end ProgramSearch

/-
# ProgramSearch.Search.Exploration -- the search as it is meant

The plain recursion that a walk unrolls: the instructions of the listing are tried one after the
other, and below each one come the programs that it begins. There is no cursor to move, nothing to
undo and no storage, only registers that grow on the way down and are forgotten on the way up. The
walk has to come to the same ending with the same counts.
-/

import ProgramSearch.ExampleSet
import ProgramSearch.Run
import ProgramSearch.Search.Listing
import ProgramSearch.Search.Report

namespace ProgramSearch

/-- One example on the way down: its registers, and the value they should come to. -/
structure Situation where
  registers : List Value
  target : Value
  deriving DecidableEq, Repr

namespace Situation

/-- Where an example stands. -/
def ofExample (x : Example) : Situation := ⟨x.registers.visible, x.target⟩

/-- Where the examples of a set stand. -/
def ofExamples (examples : ExampleSet) : List Situation := examples.examples.map ofExample

/-- The situation after an instruction. -/
def after (ins : Instruction) (s : Situation) : Except Error Situation := do
  return { s with registers := s.registers ++ [← ins.run s.registers] }

/-- Whether the newest register holds the target. -/
def isSolved (s : Situation) : Bool := s.registers.getLast? = some s.target

/-- The types of the registers, the same in every situation of an exploration. -/
def types : List Situation → List Ty
  | [] => []
  | s :: _ => s.registers.map Value.type

end Situation

/-- How an exploration ends. -/
inductive Ending where
  /-- With the instructions from there on that solve every example. -/
  | solved (path : List Instruction)
  /-- With an instruction that some example refuses. -/
  | failed (error : Error)
  /-- With nothing left to try. -/
  | exhausted
  deriving DecidableEq, Repr

namespace Exploration

/-- Tries instructions in turn, with `depth` of them applied already. `below` explores the programs
that begin with an instruction, from the situations after it. -/
def tryEach (depth : Nat) (below : List Situation → Counters → Ending × Counters)
    (situations : List Situation) : List Instruction → Counters → Ending × Counters
  | [], counters => (.exhausted, counters)
  | ins :: rest, counters =>
    match situations.mapM (Situation.after ins) with
    | .error e => (.failed e, counters)
    | .ok situations' =>
      let counters := counters.explored (depth + 1)
      if situations'.all Situation.isSolved then (.solved [ins], counters)
      else match below situations' counters with
        | (.solved path, counters) => (.solved (ins :: path), counters)
        | (.failed e, counters) => (.failed e, counters)
        | (.exhausted, counters) => tryEach depth below situations rest counters

/-- Explores the programs of at most `height` further instructions, with `depth` of them applied
already. A depth is entered where programs may still grow, and one below the first is left when all
in it was tried in vain. -/
def exploreFrom (catalog : Catalog) : (height depth : Nat) → List Situation → Counters →
    Ending × Counters
  | 0, _, _, counters => (.exhausted, counters)
  | height + 1, depth, situations, counters =>
    let below (situations : List Situation) (counters : Counters) : Ending × Counters :=
      match exploreFrom catalog height (depth + 1) situations counters with
      -- at the greatest length the depth below was not entered, so there is none to leave
      | (.exhausted, counters) => (.exhausted, if height = 0 then counters else counters.left)
      | ending => ending
    tryEach depth below situations (catalog.instructions (Situation.types situations))
      counters.entered

end Exploration

/-- Explores every program of at most `maxLength` instructions from where the examples stand. -/
def ExampleSet.explore (examples : ExampleSet) (catalog : Catalog) (maxLength : Nat) :
    Ending × Counters :=
  Exploration.exploreFrom catalog maxLength 0 (Situation.ofExamples examples) .zero

end ProgramSearch

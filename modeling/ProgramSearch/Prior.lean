/-
# ProgramSearch.Prior -- how likely operators are

A prior gives components a probability, and an operator the smallest probability among its
components. A prior is written as words: a probability, the name of a component, and so on, broken
into lines in any way. What a prior says of a component first is what counts, and a component that
it does not mention has probability zero.
-/

import ProgramSearch.Binary64.Text
import ProgramSearch.Operator.Basic
import ProgramSearch.ParseError
import ProgramSearch.Text.Line

namespace ProgramSearch

open Text (Line Word)

/-- Components with their probabilities, each component once. -/
structure Prior where
  entries : List (String × Binary64)
  /-- No component has two entries. -/
  nodup : (entries.map (·.1)).Nodup
  deriving DecidableEq, Repr

namespace Prior

/-- The prior that mentions no component. -/
def empty : Prior := ⟨[], List.nodup_nil⟩

/-- With an entry for a component that has none, the components are still mentioned once each. -/
theorem nodup_concat {entries : List (String × Binary64)} (h : (entries.map (·.1)).Nodup)
    {name : String} (hany : ¬ entries.any (·.1 == name) = true) (p : Binary64) :
    ((entries ++ [(name, p)]).map (·.1)).Nodup := by
  rw [List.map_append, List.nodup_append]
  refine ⟨h, by simp, ?_⟩
  rintro a ha b hb rfl
  obtain ⟨entry, hentry, rfl⟩ := List.mem_map.1 ha
  have hname : entry.1 = name := List.mem_singleton.1 hb
  exact hany (List.any_eq_true.2 ⟨entry, hentry, beq_iff_eq.2 hname⟩)

/-- Adds a component unless the prior has it. -/
def add (prior : Prior) (name : String) (probability : Binary64) : Prior :=
  if h : prior.entries.any (·.1 == name) then prior
  else ⟨prior.entries ++ [(name, probability)], nodup_concat prior.nodup h probability⟩

/-- The probability of a component. -/
def get (prior : Prior) (name : String) : Binary64 := (prior.entries.lookup name).getD .zero

/-- The score of an operator: the smallest probability among its components, at most one. -/
def score (prior : Prior) (op : Operator) : Binary64 :=
  (op.components.map prior.get).foldl Binary64.min .one

/-! ## Reading -/

/-- The probability that a word denotes. -/
def probability (line : Line) (word : Word) : Except ParseError Binary64 :=
  let refuse (fault : Fault) : ParseError :=
    ⟨none, line.number, some word.column, fault, line.text⟩
  match Binary64.ofText? word.chars with
  | none => throw (refuse (.invalidProbability word.text))
  | some p => if p.isProbability then return p else throw (refuse (.improbable p))

/-- Reads words in pairs into a prior. A probability without a component after it is reported at
`last`, the end of the text. -/
def readWords (last : Line) (prior : Prior) : List (Line × Word) → Except ParseError Prior
  | [] => return prior
  | [(line, word)] => do
    let p ← probability line word
    throw ⟨none, last.number, none, .danglingProbability p, last.text⟩
  | (line, word) :: (_, name) :: rest => do
    let p ← probability line word
    readWords last (prior.add name.text p) rest

/-- The prior that a text denotes. -/
def ofText (text : String) : Except ParseError Prior :=
  let lines := Text.lines text
  readWords (lines.getLastD ⟨0, []⟩) empty
    (lines.flatMap fun line => line.words.map fun word => (line, word))

end Prior

end ProgramSearch

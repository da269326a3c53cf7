/-
# ProgramSearch.OrderSource -- where the order of operators comes from

The operators of a search are tried in the order of the catalog, in the order that a prior file
gives them, or in the order that a seed gives them. The source is chosen by a word, in any letter
case, with a number after a colon for those that need one.
-/

import ProgramSearch.Numeral
import ProgramSearch.Text.Case

namespace ProgramSearch

/-- Where the order of operators comes from. -/
inductive OrderSource where
  /-- The catalog itself. -/
  | catalog
  /-- The prior of the data directory. -/
  | prior
  /-- The prior that was predicted for the problem. -/
  | predictions
  /-- One of the random priors of the data directory. -/
  | random (n : UInt32)
  /-- A shuffle by a seed. -/
  | shuffle (seed : UInt64)
  deriving DecidableEq, Repr

/-- Why a text does not name a source. -/
inductive OrderSource.Refusal where
  /-- The number of a random prior cannot be read. -/
  | randomIndex (text : String)
  /-- The seed of a shuffle cannot be read. -/
  | shuffleSeed (text : String)
  /-- There is no such source. -/
  | unknown (text : String)
  deriving DecidableEq, Repr

/-- The wording of a refusal. -/
def OrderSource.Refusal.message : OrderSource.Refusal → String
  | randomIndex text => "Invalid random ordering index: '" ++ text ++ "'"
  | shuffleSeed text => "Invalid shuffle seed: '" ++ text ++ "'"
  | unknown text =>
    "Unknown ordering: '" ++ text ++
      "'. Valid options: none, prior, predictions, random:<n>, shuffle:<seed>"

namespace OrderSource

/-- The text that names a source. -/
def text : OrderSource → String
  | catalog => "none"
  | prior => "prior"
  | predictions => "predictions"
  | random n => "random:" ++ toString n.toNat
  | shuffle seed => "shuffle:" ++ toString seed.toNat

/-- A text cut at its first colon, if it has one. -/
def splitColon (cs : List Char) : List Char × Option (List Char) :=
  match cs.span (· != ':') with
  | (kind, []) => (kind, none)
  | (kind, _ :: arg) => (kind, some arg)

/-- The source that a text names. The parts of the text are read in lowercase; numbers of random
priors have 32 bits and seeds have 64. -/
def ofText (text : String) : Except Refusal OrderSource :=
  let (kind, arg) := splitColon (Text.lowercase text).toList
  match String.ofList kind, arg with
  | "none", none | "registry", none => return catalog
  | "prior", none => return prior
  | "predictions", none | "nn", none => return predictions
  | "random", some arg =>
    match Numeral.unsigned? (Nat.pow 2 32) arg with
    | some n => return random (UInt32.ofNat n)
    | none => throw (.randomIndex (String.ofList arg))
  | "shuffle", some arg =>
    match Numeral.unsigned? (Nat.pow 2 64) arg with
    | some seed => return shuffle (UInt64.ofNat seed)
    | none => throw (.shuffleSeed (String.ofList arg))
  | _, _ => throw (.unknown text)

end OrderSource

end ProgramSearch

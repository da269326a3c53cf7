/-
# ProgramSearch.Catalog -- the operators a search draws from

A catalog is a list of operators in rank order: a search tries them in that order. Catalogs are put
together from families and then rearranged: shuffled, ranked by a prior, cut to the best ranks. The
same operator may stand in a catalog more than once.
-/

import ProgramSearch.Prior
import ProgramSearch.Random.Shuffle

namespace ProgramSearch

/-- Operators in rank order. -/
structure Catalog where
  operators : List Operator
  deriving DecidableEq, Repr

namespace Catalog

/-! ## Catalogs of families -/

/-- The operators of some families, family by family. -/
def ofFamilies (families : List Family) : Catalog := ⟨families.flatMap Family.operators⟩

/-- The operators of every family. -/
def full : Catalog := ofFamilies Family.all

/-- The operators of every family but the one that works on single integers alone. -/
def standard : Catalog := ofFamilies Family.all.tail

/-! ## Look-up -/

/-- The first operator of a name. -/
def find? (catalog : Catalog) (name : String) : Option Operator :=
  catalog.operators.find? (·.name == name)

/-- The operators of a family, in rank order. -/
def inFamily (catalog : Catalog) (family : Family) : List Operator :=
  catalog.operators.filter (·.family = family)

/-! ## Rearranging -/

/-- The same operators, accesses with the given rule for offsets. -/
def withBounds (catalog : Catalog) (bounds : Bounds) : Catalog :=
  ⟨catalog.operators.map (·.withBounds bounds)⟩

/-- The operators of the best ranks; without a cutoff all of them. -/
def truncated (catalog : Catalog) : Option Nat → Catalog
  | some cutoff => ⟨catalog.operators.take cutoff⟩
  | none => catalog

/-- The operators in the order that a seed gives them. -/
def shuffled (catalog : Catalog) (seed : UInt64) : Catalog :=
  ⟨Random.shuffle seed catalog.operators⟩

/-- The operators with their scores under a prior, in rank order. -/
def scored (catalog : Catalog) (prior : Prior) : List (Operator × Binary64) :=
  catalog.operators.map fun op => (op, prior.score op)

/-- The operators by descending score under a prior, those of one score in the order they had, cut
to the best ranks. -/
def ranked (catalog : Catalog) (prior : Prior) (cutoff : Option Nat) : Catalog :=
  let ordered := (catalog.scored prior).mergeSort fun x y => y.2.totalRank ≤ x.2.totalRank
  truncated ⟨ordered.map (·.1)⟩ cutoff

/-- The operators that a search keeps: those of the best ranks under a prior, or without one the
first in the catalog. -/
def best (catalog : Catalog) (prior : Option Prior) (cutoff : Option Nat) : Catalog :=
  match prior with
  | some prior => catalog.ranked prior cutoff
  | none => catalog.truncated cutoff

/-- The cutoff that a number stands for: minus one for none, any other negative number for keeping
nothing. -/
def cutoff? (n : Int) : Option Nat := if n = -1 then none else some n.toNat

end Catalog

end ProgramSearch

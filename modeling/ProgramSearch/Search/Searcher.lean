/-
# ProgramSearch.Search.Searcher -- whole searches

A search walks the tree of programs within its limits and reports what it came to. It leaves the
examples at the program it found, or at their inputs. A searcher remembers the statistics of its
last search; a search that fails leaves none.
-/

import ProgramSearch.Search.Walk

namespace ProgramSearch

/-- Searches the programs over a catalog within some limits; the report takes no time into account.
The examples must be at their inputs. -/
def search (examples : ExampleSet) (catalog : Catalog) (limits : Limits) :
    Except Error Report × ExampleSet :=
  match Walk.start examples catalog limits.maxLength with
  | .error e => (.error e, examples)
  | .ok walk =>
    match walk.run limits.budget with
    | (.error e, walk) => (.error e, walk.examples)
    | (.ok outcome, walk) =>
      (.ok (.ofOutcome outcome walk.program ⟨walk.counters, .zero⟩), walk.examples)

/-- What a search reports of an answer that a walk has come to. -/
def Walk.report (walk : Walk) (answer : Except Error Outcome) : Except Error Report :=
  answer.map (.ofOutcome · walk.program ⟨walk.counters, .zero⟩)

theorem Walk.report_eq_error_iff {walk : Walk} {answer : Except Error Outcome} {e : Error} :
    walk.report answer = .error e ↔ answer = .error e := by
  cases answer <;> simp [Walk.report, Except.map]

/-- A search that does not begin leaves the examples as they are. -/
theorem search_of_start_error {examples : ExampleSet} {catalog : Catalog} {limits : Limits}
    {e : Error} (h : Walk.start examples catalog limits.maxLength = .error e) :
    search examples catalog limits = (.error e, examples) := by
  simp only [search, h]

/-- A search that begins is the run of a walk. -/
theorem search_of_start {examples : ExampleSet} {catalog : Catalog} {limits : Limits} {walk : Walk}
    (h : Walk.start examples catalog limits.maxLength = .ok walk) :
    search examples catalog limits =
      ((walk.run limits.budget).2.report (walk.run limits.budget).1,
        (walk.run limits.budget).2.examples) := by
  simp only [search, h]
  rcases walk.run limits.budget with ⟨e | outcome, walk⟩ <;> rfl

/-- A search that comes to a report is a run that comes to an outcome. -/
theorem exists_run_of_search {examples examples' : ExampleSet} {catalog : Catalog}
    {limits : Limits} {report : Report}
    (h : search examples catalog limits = (.ok report, examples')) :
    ∃ walk outcome walk', Walk.start examples catalog limits.maxLength = .ok walk ∧
      walk.run limits.budget = (.ok outcome, walk') ∧
      report = .ofOutcome outcome walk'.program ⟨walk'.counters, .zero⟩ ∧
      examples' = walk'.examples := by
  cases hstart : Walk.start examples catalog limits.maxLength with
  | error e =>
    rw [search_of_start_error hstart] at h
    cases h
  | ok walk =>
    rw [search_of_start hstart] at h
    rcases hrun : walk.run limits.budget with ⟨e | outcome, walk'⟩
    · simp [hrun, Walk.report, Except.map] at h
    · simp only [hrun, Walk.report, Except.map, Prod.mk.injEq, Except.ok.injEq] at h
      exact ⟨walk, outcome, walk', rfl, hrun, h.1.symm, h.2.symm⟩

/-- A search does not begin on examples that something has been applied to. -/
theorem search_of_depth {examples : ExampleSet} (h : examples.depth ≠ 0) (catalog : Catalog)
    (limits : Limits) :
    search examples catalog limits =
      (.error (.violation (.searchUnderway examples.depth)), examples) :=
  search_of_start_error (if_pos h)

/-- Searches the programs up to a greatest length over the best operators of a catalog. -/
def searchBest (examples : ExampleSet) (maxLength : Nat) (catalog : Catalog)
    (prior : Option Prior) (cutoff : Option Nat) : Except Error Report × ExampleSet :=
  search examples (catalog.best prior cutoff) { Limits.standard with maxLength }

/-- A source of searches that remembers the last one. -/
structure Searcher where
  /-- The statistics of the last search. -/
  statistics : Statistics
  deriving DecidableEq, Repr

namespace Searcher

/-- A searcher that has not searched, or has forgotten. -/
def fresh : Searcher := ⟨.zero⟩

/-- Searches and remembers the statistics. -/
def search (_ : Searcher) (examples : ExampleSet) (catalog : Catalog) (limits : Limits) :
    Except Error Report × Searcher × ExampleSet :=
  match ProgramSearch.search examples catalog limits with
  | (.error e, examples) => (.error e, fresh, examples)
  | (.ok report, examples) => (.ok report, ⟨report.statistics⟩, examples)

/-- Remembering changes neither the answer nor what becomes of the examples. -/
theorem search_eq (searcher : Searcher) (examples : ExampleSet) (catalog : Catalog)
    (limits : Limits) :
    (searcher.search examples catalog limits).1 =
        (ProgramSearch.search examples catalog limits).1 ∧
      (searcher.search examples catalog limits).2.2 =
        (ProgramSearch.search examples catalog limits).2 := by
  rw [search]
  rcases ProgramSearch.search examples catalog limits with ⟨e | report, examples'⟩
  · exact ⟨rfl, rfl⟩
  · exact ⟨rfl, rfl⟩

/-- What a searcher remembers of an answer. -/
def ofAnswer : Except Error Report → Searcher
  | .ok report => ⟨report.statistics⟩
  | .error _ => fresh

theorem search_eq_iff {searcher after : Searcher} {examples examples' : ExampleSet}
    {catalog : Catalog} {limits : Limits} {answer : Except Error Report} :
    searcher.search examples catalog limits = (answer, after, examples') ↔
      ProgramSearch.search examples catalog limits = (answer, examples') ∧
        ofAnswer answer = after := by
  rw [search]
  rcases ProgramSearch.search examples catalog limits with ⟨e | report, left⟩
  all_goals
    constructor
    · rintro ⟨⟩
      exact ⟨rfl, rfl⟩
    · rintro ⟨⟨⟩, rfl⟩
      rfl

/-- A searcher's search that begins is the run of a walk, and its answer is remembered. -/
theorem search_of_run {searcher : Searcher} {examples : ExampleSet} {catalog : Catalog}
    {limits : Limits} {walk walk' : Walk} {answer : Except Error Outcome}
    (hstart : Walk.start examples catalog limits.maxLength = .ok walk)
    (hrun : walk.run limits.budget = (answer, walk')) :
    searcher.search examples catalog limits =
      (walk'.report answer, ofAnswer (walk'.report answer), walk'.examples) := by
  rw [search_eq_iff, search_of_start hstart, hrun]
  exact ⟨rfl, rfl⟩

end Searcher

end ProgramSearch

/-
# ProgramSearch.Proofs.CommandLine.Answers -- the search on one problem

On a machine whose files stay as they are, what the search on a problem comes to is settled by the
files and the options: the clock has a say in nothing but the time that a report shows. A search
that fails prints nothing, and what it fails with has status one unless a limit is too great for the
machine.
-/

import ProgramSearch.CommandLine.Run
import ProgramSearch.Proofs.Loading.Directory

namespace ProgramSearch

/-- The report of a search that took some time. -/
def Report.taking (report : Report) (elapsed : Duration) : Report :=
  { report with statistics := { report.statistics with elapsed } }

/-- A report has a program only if it is solved. -/
theorem program_of_search {examples examples' : ExampleSet} {catalog : Catalog} {limits : Limits}
    {report : Report} (h : search examples catalog limits = (.ok report, examples'))
    (hunsolved : report.isSolved = false) : report.program = none := by
  obtain ⟨walk, outcome, walk', -, -, rfl, -⟩ := exists_run_of_search h
  exact if_neg (of_decide_eq_false hunsolved)

namespace CommandLine

open DataDirectory (ReadFile loadExamples loadPrior loadRows readText fromFile
  run_bind_of_run_eq_pure)

/-! ## Machines whose files stay as they are -/

/-- The answers to reads, by the path. -/
abbrev Files := String → Except FileFault String

/-- A machine whose files stay as they are. It counts the computations that it timed, and the clock
tells how long each took. -/
def steady (files : Files) (clock : Nat → Duration) : Host (StateM Nat) where
  read path := pure (files path)
  timed f := fun n => ((f (), clock n), n + 1)

theorem read_steady (files : Files) (clock : Nat → Duration) (path : String) :
    ∃ answer, (steady files clock).read path = pure answer :=
  ⟨files path, rfl⟩

/-- A search that was asked for can end with a transcript, by some clock. -/
def Ends (files : Files) (options : SearchOptions) (transcript : Transcript) : Prop :=
  ∃ clock, ((runSearch (steady files clock) false options).run 0).1 = transcript

/-! ## Loading without an effect -/

/-- A computation that needs nothing of the machine. -/
def Settled {m : Type → Type} [Monad m] {ε α : Type} (x : ExceptT ε m α) : Prop :=
  ∃ answer, x.run = pure answer

section Settled

variable {m : Type → Type} [Monad m] [LawfulMonad m] {ε α β : Type}

theorem Settled.bind {x : ExceptT ε m α} {f : α → ExceptT ε m β} (hx : Settled x)
    (hf : ∀ v, Settled (f v)) : Settled (x >>= f) := by
  obtain ⟨answer, hx⟩ := hx
  choose g hg using hf
  exact ⟨_, run_bind_of_run_eq_pure hx hg⟩

variable {read : ReadFile m} (hread : ∀ path, ∃ answer, read path = pure answer)

include hread

theorem settled_readText (path : String) : Settled (readText read path) := by
  obtain ⟨answer, hanswer⟩ := hread path
  refine ⟨answer.mapError (.unreadable path), ?_⟩
  show (do return (← read path).mapError _ : m _) = _
  rw [hanswer, pure_bind]

theorem settled_loadRows (directory typesFile valuesFile : String) (problem examples : Nat) :
    Settled (loadRows read directory typesFile valuesFile problem examples) :=
  (settled_readText hread _).bind fun _ => Settled.bind ⟨_, rfl⟩ fun _ =>
    (settled_readText hread _).bind fun _ => ⟨_, rfl⟩

theorem settled_loadExamples (directory : String) (problem examples : Nat) :
    Settled (loadExamples read directory problem examples) :=
  (settled_loadRows hread _ _ _ _ _).bind fun _ => (settled_loadRows hread _ _ _ _ _).bind fun _ =>
    Settled.bind ⟨_, rfl⟩ fun _ => ⟨_, rfl⟩

theorem settled_loadPrior (path : String) : Settled (loadPrior read path) :=
  (settled_readText hread path).bind fun _ => ⟨_, rfl⟩

end Settled

/-- What a fault of the files makes a command fail with has status one. -/
theorem status_of_fault {α β : Type} {answer : Except Error α} {message : String} {f : α → β}
    {failure : Failure}
    (h : (answer.mapError (Failure.ofError message)).map f = .error failure) :
    failure.status = 1 := by
  cases answer with
  | error e =>
    cases h
    rfl
  | ok v => cases h

/-- What a ranking by a prior comes to, and what it fails with if the prior cannot be loaded. -/
theorem exists_run_loadPrior_bind (files : Files) (path message : String)
    (f : Prior → Catalog × Prior) :
    ∃ answer : Except Failure (Catalog × Prior),
      (∀ failure, answer = .error failure → failure.status = 1) ∧
      ∀ clock, (ExceptT.adapt (Failure.ofError message)
        (loadPrior (steady files clock).read path) >>= fun prior => pure (f prior)).run =
          pure answer := by
  obtain ⟨answer, hanswer⟩ := settled_loadPrior (read_steady files fun _ => .zero) path
  refine ⟨(answer.mapError (Failure.ofError message)).map f, fun _ => status_of_fault,
    fun clock => ?_⟩
  refine run_bind_of_run_eq_pure (a := answer.mapError _) ?_ fun prior => rfl
  -- the files are the same by every clock
  show (ExceptT.adapt _ (loadPrior (steady files fun _ => .zero).read path)).run = _
  rw [ExceptT.run_adapt, hanswer, map_pure]

/-- The catalog of a problem needs nothing of the machine but its files, and what it can fail with
has status one. -/
theorem exists_run_loadCatalog (files : Files) (options : CatalogOptions)
    (directory : Option String) (problem : Nat) :
    ∃ answer : Except Failure (Catalog × Prior),
      (∀ failure, answer = .error failure → failure.status = 1) ∧
      ∀ clock, (loadCatalog (steady files clock) options directory problem).run = pure answer := by
  obtain ⟨order, cutoff, accessSentinel, withIntOps⟩ := options
  cases order with
  | shuffle | catalog => exact ⟨.ok _, fun _ h => (nomatch h), fun clock => rfl⟩
  | prior | predictions | random =>
    cases directory with
    | none =>
      refine ⟨.error _, fun _ h => ?_, fun clock => rfl⟩
      cases h
      rfl
    | some directory => exact exists_run_loadPrior_bind files _ _ _

/-! ## The search on one problem -/

/-- The search on a problem fails. It prints nothing then, and the status is one unless a limit is
too great for the machine. -/
structure Fails (files : Files) (options : SearchOptions) (problem : Nat) (failure : Failure) :
    Prop where
  run : ∀ clock n, ∃ n', (searchProblem (steady files clock) false options problem).run n =
    (([], .error failure), n')
  status : failure.status = 1 ∨ failure.status = 101 ∧ options.limits.excess?.isSome

/-- The search on a problem comes to a report, but for the time that it took. -/
structure Reports (files : Files) (options : SearchOptions) (problem : Nat) (report : Report) :
    Prop where
  run : ∀ clock n, (searchProblem (steady files clock) false options problem).run n =
    ((reportPieces (report.taking (clock n)), .ok (report.taking (clock n))), n + 1)
  program : report.isSolved = false → report.program = none

/-- Either way the files and the options settle it. -/
theorem fails_or_reports (files : Files) (options : SearchOptions) (problem : Nat) :
    (∃ failure, Fails files options problem failure) ∨
      ∃ report, Reports files options problem report := by
  obtain ⟨loaded, hloaded⟩ : ∃ answer, ∀ clock, (loadExamples (steady files clock).read
      options.directory problem options.examples).run = pure answer := by
    obtain ⟨answer, hanswer⟩ := settled_loadExamples (read_steady files fun _ => .zero)
      options.directory problem options.examples
    exact ⟨answer, fun clock => hanswer⟩
  obtain ⟨found, hstatus, hfound⟩ :=
    exists_run_loadCatalog files options.catalog (some options.directory) problem
  -- the search on a problem ends at the first of these that goes wrong
  cases loaded with
  | error e =>
    refine .inl ⟨.ofError ("Failed to load problem " ++ toString problem ++ " from " ++
      options.directory) e, fun clock n => ?_, .inl rfl⟩
    simp only [searchProblem, hloaded, pure_bind]
    exact ⟨_, rfl⟩
  | ok examples =>
    cases found with
    | error failure =>
      refine .inl ⟨failure, fun clock n => ?_, .inl (hstatus _ rfl)⟩
      simp only [searchProblem, hloaded, hfound, pure_bind]
      exact ⟨_, rfl⟩
    | ok found =>
      obtain ⟨catalog, prior⟩ := found
      cases hexcess : options.limits.excess? with
      | some excess =>
        refine .inl ⟨.ofExcess excess, fun clock n => ?_, .inr ⟨rfl, by rw [hexcess]; rfl⟩⟩
        simp only [searchProblem, hloaded, hfound, pure_bind, hexcess]
        exact ⟨_, rfl⟩
      | none =>
        rcases hsearch : search examples catalog options.limits with ⟨e | report, after⟩
        · refine .inl ⟨searchFailure options problem e, fun clock n => ?_, .inl rfl⟩
          simp only [searchProblem, hloaded, hfound, pure_bind, hexcess, hsearch]
          exact ⟨_, rfl⟩
        · refine .inr ⟨report, fun clock n => ?_, program_of_search hsearch⟩
          simp only [searchProblem, hloaded, hfound, pure_bind, hexcess, hsearch]
          rfl

end CommandLine

end ProgramSearch

/-
# ProgramSearch.Proofs.CommandLine.Batches -- a batch is the sum of its parts

A batch of problems and the searches on its problems alone are compared by what they print, the
times left out, and by how they end. The problems do not disturb each other: a batch prints under a
heading what the search on a problem prints alone, it ends where the first of them fails and as that
one does, and if none fails its summary counts them. Each problem is read off its own printed lines.
-/

import ProgramSearch.Proofs.CommandLine.Answers
import ProgramSearch.Proofs.Loading.Writing

namespace ProgramSearch

/-! ## Printed lines -/

namespace Text

theorem map_text_numberLines (number : Nat) (css : List (List Char)) :
    (numberLines number css).map Line.text = css.map String.ofList := by
  induction css generalizing number with
  | nil => rfl
  | cons cs css ih => rw [numberLines, List.map_cons, List.map_cons, ih, Line.text]

/-- Whether a character is no part of a line end. -/
def isInLine (c : Char) : Bool := c != '\n' && c != '\r'

theorem all_isInLine_toString (n : Nat) : (toString n).toList.all isInLine = true := by
  rw [Nat.toString_eq_repr, Nat.toList_repr, List.all_eq_true]
  intro c hc
  have hdigit := Nat.isDigit_of_mem_toDigits (by decide) (by decide) hc
  unfold isInLine
  rw [Bool.and_eq_true, bne_iff_ne, bne_iff_ne]
  constructor
  all_goals
    rintro rfl
    exact absurd hdigit (by decide)

/-- The lines of a text that begins with a line of its own. -/
theorem map_text_lines_append {line : String} (rest : String)
    (hline : line.toList.all isInLine = true) :
    (lines (line ++ "\n" ++ rest)).map Line.text = line :: (lines rest).map Line.text := by
  rw [List.all_eq_true] at hline
  have hfeed : '\n' ∉ line.toList := fun hmem => absurd (hline _ hmem) (by decide)
  have hreturn : '\r' ∉ line.toList := fun hmem => absurd (hline _ hmem) (by decide)
  have hclose : closeLine line.toList.reverse = line.toList := by
    unfold closeLine
    split
    next cs hcs =>
      refine absurd ?_ hreturn
      rw [← List.mem_reverse, hcs]
      exact List.mem_cons_self
    next => exact List.reverse_reverse _
  have htext : (line ++ "\n" ++ rest).toList = line.toList ++ '\n' :: rest.toList := by simp
  rw [lines, lines, map_text_numberLines, map_text_numberLines, htext, splitLines_append hfeed,
    List.append_nil, hclose, List.map_cons, String.ofList_toList]

end Text

namespace CommandLine

/-- A piece as it is printed, times left out. -/
def Piece.untimed : Piece → String
  | text s => s
  | seconds _ => "<secs>"
  | time _ => "<time>"
  | rate _ => "<rate>"

namespace Transcript

/-- What a command printed, times left out. -/
def shown (t : Transcript) : String := String.join (t.pieces.map Piece.untimed)

/-- The lines that a command printed. -/
def lines (t : Transcript) : List String := (Text.lines t.shown).map Text.Line.text

/-- Whether a command printed that a search was solved. -/
def saysSolved (t : Transcript) : Bool := t.lines.contains "Solved!"

/-- A command printed in its second line that so many nodes were explored. -/
def SaysNodes (t : Transcript) (nodes : Nat) : Prop :=
  t.lines[1]? = some ("Nodes explored: " ++ toString nodes)

theorem shown_after (t : Transcript) (pieces : List Piece) :
    (t.after pieces).shown = String.join (pieces.map Piece.untimed) ++ t.shown := by
  rw [shown, after, List.map_append, String.join_append, shown]

end Transcript

/-! ## What a batch should come to -/

/-- The options of a search on one problem alone. -/
def SearchOptions.alone (options : SearchOptions) (problem : Nat) : SearchOptions :=
  { options with problem, problemCount := 1 }

/-- The problems asked for. -/
def SearchOptions.problems (options : SearchOptions) : List Nat :=
  List.range' options.problem options.problemCount

/-- The heading of a problem in a batch. -/
def heading (problem : Nat) : String := "Problem " ++ toString problem ++ ":\n"

/-- The summary of a batch, the time left out. -/
def summaryText (count solved nodes : Nat) : String :=
  "\nSummary:\n  Solved: " ++ toString solved ++ "/" ++ toString count ++
    "\n  Nodes explored: " ++ toString nodes ++ "\n  Time: " ++ "<time>" ++ "\n"

/-- What a batch prints for a problem, given what the searches on the problems alone come to. -/
def block (single : Nat → Transcript) (problem : Nat) : String :=
  heading problem ++ (single problem).shown

/-- A batch is the sum of the searches on its problems alone. -/
structure SumOfParts (options : SearchOptions) (single : Nat → Transcript) (batch : Transcript) :
    Prop where
  /-- If none of them fails, the batch prints what they print and counts them. -/
  done : (∀ i ∈ options.problems, (single i).status = 0) → batch.status = 0 ∧
    ∃ nodes : Nat → Nat, (∀ i ∈ options.problems, (single i).SaysNodes (nodes i)) ∧
      batch.shown = String.join (options.problems.map (block single)) ++
        summaryText options.problemCount (options.problems.countP fun i => (single i).saysSolved)
          (options.problems.foldr (fun i sum => nodes i + sum) 0)
  /-- The first of them that fails is where the batch ends, and in the same way. -/
  failed : ∀ before i after, options.problems = before ++ i :: after →
    (∀ j ∈ before, (single j).status = 0) → (single i).status ≠ 0 →
      batch.failure = (single i).failure ∧
        (batch.status = 1 ∨ batch.status = 101 ∧ options.limits.excess?.isSome) ∧
        batch.shown = String.join (before.map (block single)) ++ heading i

/-! ## What a report prints -/

/-- What is printed for a report. -/
def reportShown (report : Report) : String := (Transcript.done (reportPieces report)).shown

theorem reportShown_eq (report : Report) :
    reportShown report = (if report.isSolved then "Solved!" else "Failed!") ++ "\n" ++
      ("Nodes explored: " ++ toString report.statistics.counters.nodes ++ "\n" ++
        ("<secs>" ++ "\n" ++ report.tailText)) := by
  have hhead : report.headText = (if report.isSolved then "Solved!" else "Failed!") ++ "\n" ++
      ("Nodes explored: " ++ toString report.statistics.counters.nodes ++ "\n") := by
    rw [Report.headText]
    split <;> simp [← String.toList_inj]
  simp [reportShown, reportPieces, Transcript.done, Transcript.shown, Piece.untimed, hhead,
    ← String.toList_inj]

/-- No time is shown. -/
theorem reportShown_taking (report : Report) (elapsed : Duration) :
    reportShown (report.taking elapsed) = reportShown report := rfl

/-- A report is read off its lines. -/
theorem lines_of_shown {t : Transcript} {report : Report} (ht : t.shown = reportShown report) :
    t.lines = (if report.isSolved then "Solved!" else "Failed!") ::
      ("Nodes explored: " ++ toString report.statistics.counters.nodes) ::
        "<secs>" :: (Text.lines report.tailText).map Text.Line.text := by
  have hending : (if report.isSolved then "Solved!" else "Failed!").toList.all Text.isInLine =
      true := by
    split <;> decide
  have hnodes : ("Nodes explored: " ++ toString report.statistics.counters.nodes).toList.all
      Text.isInLine = true := by
    rw [String.toList_append, List.all_append, Text.all_isInLine_toString]
    decide
  rw [Transcript.lines, ht, reportShown_eq, Text.map_text_lines_append _ hending,
    Text.map_text_lines_append _ hnodes, Text.map_text_lines_append _ (by decide)]

theorem saysSolved_of_shown {t : Transcript} {report : Report} (ht : t.shown = reportShown report)
    (hprogram : report.isSolved = false → report.program = none) :
    t.saysSolved = report.isSolved := by
  rw [Transcript.saysSolved, lines_of_shown ht]
  cases hsolved : report.isSolved with
  | true => simp
  | false =>
    -- the lines of an unsolved report are known
    have hnodes (rest : String) : "Solved!" ≠ "Nodes explored: " ++ rest := by
      intro h
      have h := congrArg String.toList h
      rw [String.toList_append] at h
      cases h
    have htail : "Solved!" ∉ (Text.lines report.tailText).map Text.Line.text := by
      rw [Report.tailText, hprogram hsolved]
      show "Solved!" ∉ (Text.lines (if report.outcome = .budgetExceeded then _ else _)).map _
      split <;> decide
    simp [hnodes, htail]

theorem saysNodes_of_shown {t : Transcript} {report : Report} (ht : t.shown = reportShown report) :
    t.SaysNodes report.statistics.counters.nodes := by
  rw [Transcript.SaysNodes, lines_of_shown ht]
  rfl

/-! ## Searches on one problem alone -/

section Monads

variable {m : Type → Type} [Monad m] (host : Host m) (verbose : Bool) {options : SearchOptions}

/-- Without examples no search begins. -/
theorem runSearch_of_no_examples (hexamples : options.examples = 0) :
    runSearch host verbose options =
      return .failed [] (.plain "--examples must be at least 1") :=
  if_pos hexamples

theorem runSearch_alone (hexamples : options.examples ≠ 0) {problem : Nat}
    (hword : problem + 1 < Nat.pow 2 64) :
    runSearch host verbose (options.alone problem) = do
      match ← searchProblem host verbose options problem with
      | (pieces, .error failure) => return .failed pieces failure
      | (pieces, .ok _) => return .done pieces := by
  unfold runSearch
  rw [if_neg (show (options.alone problem).examples ≠ 0 from hexamples),
    if_neg (show ¬ (options.alone problem).problem + (options.alone problem).problemCount ≥
      Nat.pow 2 64 from Nat.not_le.2 hword)]
  rfl

theorem runSearch_batch (hexamples : options.examples ≠ 0) (hcount : 2 ≤ options.problemCount)
    (hword : options.problem + options.problemCount < Nat.pow 2 64) :
    runSearch host verbose options =
      searchBatch host verbose options options.problem ⟨0, 0, .zero⟩ options.problemCount := by
  unfold runSearch
  rw [if_neg hexamples, if_neg (Nat.not_le.2 hword)]
  split
  · omega
  · omega
  · rfl

end Monads

variable {files : Files} {options : SearchOptions} {problem : Nat} {t : Transcript}

theorem Reports.alone {report : Report} (h : Reports files options problem report)
    (hexamples : options.examples ≠ 0) (hword : problem + 1 < Nat.pow 2 64)
    (hends : Ends files (options.alone problem) t) :
    t.failure = none ∧ t.shown = reportShown report := by
  obtain ⟨clock, rfl⟩ := hends
  rw [runSearch_alone _ _ hexamples hword, StateT.run_bind, h.run]
  exact ⟨rfl, rfl⟩

theorem Fails.alone {failure : Failure} (h : Fails files options problem failure)
    (hexamples : options.examples ≠ 0) (hword : problem + 1 < Nat.pow 2 64)
    (hends : Ends files (options.alone problem) t) : t = .failed [] failure := by
  obtain ⟨clock, rfl⟩ := hends
  obtain ⟨n, hrun⟩ := h.run clock 0
  rw [runSearch_alone _ _ hexamples hword, StateT.run_bind, hrun]
  rfl

/-! ## Searches on several problems -/

/-- What the last problems of a batch come to. -/
def batchFrom (files : Files) (clock : Nat → Duration) (options : SearchOptions) (problem : Nat)
    (totals : Totals) (left n : Nat) : Transcript :=
  ((searchBatch (steady files clock) false options problem totals left).run n).1

section Batch

variable {clock : Nat → Duration} {totals : Totals} {left n : Nat}

/-- A batch is what its problems come to from the first one on. -/
theorem exists_batchFrom_eq (hexamples : options.examples ≠ 0) (hcount : 2 ≤ options.problemCount)
    (hword : options.problem + options.problemCount < Nat.pow 2 64) (hends : Ends files options t) :
    ∃ clock, batchFrom files clock options options.problem ⟨0, 0, .zero⟩ options.problemCount 0 =
      t := by
  obtain ⟨clock, hends⟩ := hends
  rw [runSearch_batch _ _ hexamples hcount hword] at hends
  exact ⟨clock, hends⟩

theorem batchFrom_zero : batchFrom files clock options problem totals 0 n =
    .done (summaryPieces options.problemCount totals) := rfl

theorem Fails.batchFrom_succ {failure : Failure} (h : Fails files options problem failure) :
    batchFrom files clock options problem totals (left + 1) n =
      .failed [.text (heading problem)] failure := by
  obtain ⟨n', hrun⟩ := h.run clock n
  rw [batchFrom, searchBatch, StateT.run_bind, hrun]
  rfl

theorem Reports.batchFrom_succ {report : Report} (h : Reports files options problem report) :
    batchFrom files clock options problem totals (left + 1) n =
      (batchFrom files clock options (problem + 1) (totals.add (report.taking (clock n))) left
        (n + 1)).after (.text (heading problem) :: reportPieces (report.taking (clock n))) := by
  rw [batchFrom, searchBatch, StateT.run_bind, h.run]
  rfl

/-- What a batch prints for problems that come to reports. -/
def reportBlocks (reports : Nat → Report) (problems : List Nat) : String :=
  String.join (problems.map fun i => heading i ++ reportShown (reports i))

theorem shown_after_report (t : Transcript) (problem : Nat) (report : Report) :
    (t.after (.text (heading problem) :: reportPieces report)).shown =
      heading problem ++ reportShown report ++ t.shown := by
  rw [Transcript.shown_after, List.map_cons, String.join_cons]
  rfl

theorem reportBlocks_nil (reports : Nat → Report) : reportBlocks reports [] = "" := rfl

theorem reportBlocks_cons (reports : Nat → Report) (i : Nat) (problems : List Nat) :
    reportBlocks reports (i :: problems) =
      heading i ++ reportShown (reports i) ++ reportBlocks reports problems := by
  rw [reportBlocks, List.map_cons, String.join_cons, reportBlocks]

theorem shown_summaryPieces (count : Nat) (totals : Totals) :
    (Transcript.done (summaryPieces count totals)).shown =
      summaryText count totals.solved totals.nodes := by
  unfold Transcript.shown Transcript.done summaryPieces summaryText
  simp only [List.map_cons, List.map_nil, String.join_cons, String.join_nil, Piece.untimed,
    String.append_assoc, String.append_empty]

variable {reports : Nat → Report} (clock totals n)

/-- Problems that come to reports put their blocks before what the rest of a batch prints, which
goes on from totals that count them. -/
theorem exists_batchFrom_add {before : Nat}
    (h : ∀ i ∈ List.range' problem before, Reports files options i (reports i)) :
    ∃ totals' n',
      totals'.solved =
        totals.solved + (List.range' problem before).countP (fun i => (reports i).isSolved) ∧
      totals'.nodes = totals.nodes + (List.range' problem before).foldr
        (fun i sum => (reports i).statistics.counters.nodes + sum) 0 ∧
      ∀ left, (batchFrom files clock options problem totals (before + left) n).failure =
          (batchFrom files clock options (problem + before) totals' left n').failure ∧
        (batchFrom files clock options problem totals (before + left) n).shown =
          reportBlocks reports (List.range' problem before) ++
            (batchFrom files clock options (problem + before) totals' left n').shown := by
  -- on the problems that come first, each of which makes one step of the batch
  induction before generalizing problem totals n with
  | zero =>
    refine ⟨totals, n, rfl, rfl, fun left => ?_⟩
    rw [Nat.zero_add, List.range'_zero, reportBlocks_nil, String.empty_append]
    exact ⟨rfl, rfl⟩
  | succ before ih =>
    rw [List.range'_succ] at h ⊢
    obtain ⟨totals', n', hsolved, hnodes, hrest⟩ :=
      ih (totals.add ((reports problem).taking (clock n))) (n + 1)
        fun i hi => h i (List.mem_cons_of_mem _ hi)
    refine ⟨totals', n', ?_, ?_, fun left => ?_⟩
    · show _ = totals.solved + _
      rw [hsolved, List.countP_cons, Nat.add_comm (List.countP _ _), ← Nat.add_assoc]
      rfl
    · rw [hnodes, List.foldr_cons, ← Nat.add_assoc]
      rfl
    · obtain ⟨hfailure, hshown⟩ := hrest left
      have hplace : problem + (before + 1) = problem + 1 + before := by omega
      rw [Nat.add_right_comm before 1, (h problem List.mem_cons_self).batchFrom_succ, hplace,
        reportBlocks_cons, shown_after_report, reportShown_taking, hshown]
      exact ⟨hfailure, String.append_assoc.symm⟩

/-- A batch whose problems all come to reports ends with its summary. -/
theorem done_batchFrom (h : ∀ i ∈ List.range' problem left, Reports files options i (reports i)) :
    (batchFrom files clock options problem totals left n).failure = none ∧
      (batchFrom files clock options problem totals left n).shown =
        reportBlocks reports (List.range' problem left) ++
          summaryText options.problemCount
            (totals.solved + (List.range' problem left).countP fun i => (reports i).isSolved)
            (totals.nodes + (List.range' problem left).foldr
              (fun i sum => (reports i).statistics.counters.nodes + sum) 0) := by
  obtain ⟨totals', n', hsolved, hnodes, hrest⟩ := exists_batchFrom_add clock totals n h
  obtain ⟨hfailure, hshown⟩ := hrest 0
  rw [batchFrom_zero, Nat.add_zero] at hfailure hshown
  exact ⟨hfailure, by rw [hshown, shown_summaryPieces, hsolved, hnodes]⟩

/-- A batch ends at a problem that fails if those before it come to reports. -/
theorem failed_batchFrom (left : Nat) {failure : Failure} {before : Nat}
    (h : ∀ i ∈ List.range' problem before, Reports files options i (reports i))
    (hfails : Fails files options (problem + before) failure) :
    (batchFrom files clock options problem totals (before + (left + 1)) n).failure =
        some failure ∧
      (batchFrom files clock options problem totals (before + (left + 1)) n).shown =
        reportBlocks reports (List.range' problem before) ++ heading (problem + before) := by
  obtain ⟨totals', n', -, -, hrest⟩ := exists_batchFrom_add clock totals n h
  obtain ⟨hfailure, hshown⟩ := hrest (left + 1)
  rw [hfails.batchFrom_succ] at hfailure hshown
  exact ⟨hfailure, hshown⟩

end Batch

/-! ## The sum -/

/-- The search on a problem alone, in terms of what settles it. -/
theorem reports_or_fails_of_ends (hexamples : options.examples ≠ 0)
    (hword : problem + 1 < Nat.pow 2 64) (hends : Ends files (options.alone problem) t) :
    (t.status = 0 ∧ ∃ report, Reports files options problem report ∧ t.shown = reportShown report) ∨
      (t.status ≠ 0 ∧ ∃ failure, Fails files options problem failure ∧ t = .failed [] failure) := by
  rcases fails_or_reports files options problem with ⟨failure, hfails⟩ | ⟨report, hreports⟩
  · have ht := hfails.alone hexamples hword hends
    refine .inr ⟨?_, failure, hfails, ht⟩
    subst ht
    show failure.status ≠ 0
    rcases hfails.status with hstatus | ⟨hstatus, -⟩ <;> rw [hstatus] <;> decide
  · obtain ⟨hfailure, hshown⟩ := hreports.alone hexamples hword hends
    refine .inl ⟨?_, report, hreports, hshown⟩
    rw [Transcript.status, hfailure]

variable {single : Nat → Transcript} {batch : Transcript} {problems : List Nat}

/-- Problems that come to reports, and the searches on them alone print these. -/
def AllReport (files : Files) (options : SearchOptions) (single : Nat → Transcript)
    (reports : Nat → Report) (problems : List Nat) : Prop :=
  ∀ i ∈ problems, Reports files options i (reports i) ∧ (single i).shown = reportShown (reports i)

/-- What does not fail alone comes to reports. -/
theorem exists_allReport (hexamples : options.examples ≠ 0)
    (hword : ∀ i ∈ problems, i + 1 < Nat.pow 2 64)
    (hsingle : ∀ i ∈ problems, Ends files (options.alone i) (single i))
    (hstatus : ∀ i ∈ problems, (single i).status = 0) :
    ∃ reports, AllReport files options single reports problems := by
  have : Nonempty Report := ⟨⟨.exhausted, none, .zero⟩⟩
  have hreports : ∀ i ∈ problems, ∃ report, Reports files options i report ∧
      (single i).shown = reportShown report := by
    intro i hi
    rcases reports_or_fails_of_ends hexamples (hword i hi) (hsingle i hi) with ⟨-, h⟩ | ⟨h, -⟩
    · exact h
    · exact absurd (hstatus i hi) h
  choose! reports hreports using hreports
  exact ⟨reports, hreports⟩

theorem AllReport.reportBlocks_eq {reports : Nat → Report}
    (h : AllReport files options single reports problems) :
    reportBlocks reports problems = String.join (problems.map (block single)) := by
  have hmap : problems.map (fun i => heading i ++ reportShown (reports i)) =
      problems.map (block single) :=
    List.map_congr_left fun i hi => by rw [block, (h i hi).2]
  rw [reportBlocks, hmap]

theorem add_one_lt_of_mem (hword : options.problem + options.problemCount < Nat.pow 2 64) :
    ∀ i ∈ options.problems, i + 1 < Nat.pow 2 64 := by
  intro i hi
  have hi := List.mem_range'_1.1 hi
  omega

/-- The problems before one of a batch, and how many come from it on. -/
theorem problems_eq_append {before after : List Nat}
    (h : options.problems = before ++ problem :: after) :
    before = List.range' options.problem before.length ∧
      problem = options.problem + before.length ∧
      options.problemCount = before.length + (after.length + 1) := by
  have hlength : options.problemCount = before.length + (after.length + 1) := by
    simpa [SearchOptions.problems] using congrArg List.length h
  obtain ⟨k, hk, rfl, hrest⟩ := List.range'_eq_append_iff.1 h
  rw [List.length_range'] at hlength ⊢
  exact ⟨rfl, by rw [← (List.range'_eq_cons_iff.1 hrest.symm).1, Nat.mul_one], hlength⟩

section Sum

variable (hexamples : options.examples ≠ 0) (hcount : 2 ≤ options.problemCount)
  (hword : options.problem + options.problemCount < Nat.pow 2 64)
  (hsingle : ∀ i ∈ options.problems, Ends files (options.alone i) (single i))
  (hbatch : Ends files options batch)

include hexamples hcount hword hsingle hbatch

/-- A batch none of whose problems fails alone. -/
theorem done_batch (hstatus : ∀ i ∈ options.problems, (single i).status = 0) :
    batch.status = 0 ∧
      ∃ nodes : Nat → Nat, (∀ i ∈ options.problems, (single i).SaysNodes (nodes i)) ∧
        batch.shown = String.join (options.problems.map (block single)) ++
          summaryText options.problemCount (options.problems.countP fun i => (single i).saysSolved)
            (options.problems.foldr (fun i sum => nodes i + sum) 0) := by
  obtain ⟨clock, rfl⟩ := exists_batchFrom_eq hexamples hcount hword hbatch
  obtain ⟨reports, hreports⟩ := exists_allReport hexamples (add_one_lt_of_mem hword) hsingle hstatus
  obtain ⟨hfailure, hshown⟩ :=
    done_batchFrom clock ⟨0, 0, .zero⟩ 0 (fun i hi => (hreports i hi).1)
  have hsolved : options.problems.countP (fun i => (single i).saysSolved) =
      options.problems.countP fun i => (reports i).isSolved :=
    List.countP_congr fun i hi => by
      rw [saysSolved_of_shown (hreports i hi).2 (hreports i hi).1.program]
  refine ⟨by rw [Transcript.status, hfailure], fun i => (reports i).statistics.counters.nodes,
    fun i hi => saysNodes_of_shown (hreports i hi).2, ?_⟩
  rw [hshown, hsolved, ← hreports.reportBlocks_eq, Nat.zero_add, Nat.zero_add]
  rfl

/-- A batch of whose problems one fails alone, those before it do not. -/
theorem failed_batch {before after : List Nat}
    (hproblems : options.problems = before ++ problem :: after)
    (hstatus : ∀ i ∈ before, (single i).status = 0) (hfails : (single problem).status ≠ 0) :
    batch.failure = (single problem).failure ∧
      (batch.status = 1 ∨ batch.status = 101 ∧ options.limits.excess?.isSome) ∧
      batch.shown = String.join (before.map (block single)) ++ heading problem := by
  have hbefore : ∀ i ∈ before, i ∈ options.problems := by
    intro i hi
    rw [hproblems]
    exact List.mem_append_left _ hi
  have hmem : problem ∈ options.problems := by
    rw [hproblems]
    exact List.mem_append_right _ List.mem_cons_self
  obtain ⟨clock, rfl⟩ := exists_batchFrom_eq hexamples hcount hword hbatch
  obtain ⟨reports, hreports⟩ := exists_allReport hexamples
    (fun i hi => add_one_lt_of_mem hword i (hbefore i hi)) (fun i hi => hsingle i (hbefore i hi))
    hstatus
  rcases reports_or_fails_of_ends hexamples (add_one_lt_of_mem hword _ hmem) (hsingle _ hmem) with
    ⟨h, -⟩ | ⟨-, failure, hfailure, halone⟩
  · exact absurd h hfails
  obtain ⟨hrange, hplace, hlength⟩ := problems_eq_append hproblems
  have hreported : ∀ i ∈ List.range' options.problem before.length,
      Reports files options i (reports i) := fun i hi => (hreports i (hrange ▸ hi)).1
  obtain ⟨hend, hshown⟩ :=
    failed_batchFrom clock ⟨0, 0, .zero⟩ 0 after.length hreported (hplace ▸ hfailure)
  rw [← hlength] at hend hshown
  refine ⟨by rw [hend, halone]; rfl, ?_, ?_⟩
  · rw [Transcript.status, hend]
    exact hfailure.status
  · rw [hshown, ← hrange, ← hplace, hreports.reportBlocks_eq]

end Sum

/-- **A batch is the sum of its parts.** These are the searches on its problems alone, each by a
clock of its own. Without examples to search by, neither a batch nor a search on one problem begins.
-/
theorem sumOfParts_of_ends (hcount : 2 ≤ options.problemCount)
    (hword : options.problem + options.problemCount < Nat.pow 2 64)
    (hsingle : ∀ i ∈ options.problems, Ends files (options.alone i) (single i))
    (hbatch : Ends files options batch) :
    (options.examples ≠ 0 → SumOfParts options single batch) ∧
      (options.examples = 0 → ∀ t, t = batch ∨ (∃ i ∈ options.problems, t = single i) →
        t = .failed [] (.plain "--examples must be at least 1")) := by
  refine ⟨fun hexamples => ⟨done_batch hexamples hcount hword hsingle hbatch,
    fun _ _ _ => failed_batch hexamples hcount hword hsingle hbatch⟩, fun hexamples => ?_⟩
  rintro t (rfl | ⟨i, hi, rfl⟩)
  · obtain ⟨clock, rfl⟩ := hbatch
    rw [runSearch_of_no_examples _ _ hexamples]
    rfl
  · obtain ⟨clock, ht⟩ := hsingle i hi
    rw [← ht, runSearch_of_no_examples _ _ (show (options.alone i).examples = 0 from hexamples)]
    rfl

/-- A directory with two problems, of which the first operators of the catalog solve one. -/
def pairFiles : Files :=
  (DataDirectory.Tables.mk "Array\nArray" "3 1 2\n5 4" "Int\nInt" "1\n7").reader "DATA"

/-- To search both with the first two operators, by one example each. -/
def pairOptions : SearchOptions :=
  ⟨"DATA", 0, 2, 1, ⟨1, .unlimited⟩, ⟨.catalog, 2, false, false⟩⟩

/-- What a search in that directory comes to by a clock that stands still. -/
def atOnce (options : SearchOptions) : Transcript :=
  ((runSearch (steady pairFiles fun _ => .zero) false options).run 0).1

theorem ends_atOnce (options : SearchOptions) : Ends pairFiles options (atOnce options) :=
  ⟨_, rfl⟩

theorem sumOfParts_pair :
    SumOfParts pairOptions (fun i => atOnce (pairOptions.alone i)) (atOnce pairOptions) ∧
      (atOnce pairOptions).shown =
        "Problem 0:\nSolved!\nNodes explored: 1\n<secs>\nSolution:\n  %1 <- arr_min %0\n" ++
        "Problem 1:\nFailed!\nNodes explored: 2\n<secs>\n" ++
        "\nSummary:\n  Solved: 1/2\n  Nodes explored: 3\n  Time: <time>\n" := by
  refine ⟨(sumOfParts_of_ends (by decide) (by decide) ?_ (ends_atOnce pairOptions)).1 (by decide),
    by decide +kernel⟩
  intro i _
  exact ends_atOnce (pairOptions.alone i)

/-- The same without an example. -/
def bareOptions : SearchOptions := { pairOptions with examples := 0 }

/-- The same with programs so long that there is no room for them. -/
def vastOptions : SearchOptions := { pairOptions with limits := ⟨Nat.pow 2 64 - 1, .unlimited⟩ }

/-- A batch without examples prints no heading, and one with too great a limit ends with a status of
its own. -/
theorem not_sumOfParts_bare :
    ¬ SumOfParts bareOptions (fun i => atOnce (bareOptions.alone i)) (atOnce bareOptions) ∧
      (atOnce (vastOptions.alone 0)).status ≠ 0 ∧ (atOnce vastOptions).status ≠ 1 := by
  refine ⟨fun h => ?_, by decide +kernel, by decide +kernel⟩
  have hstatus : (atOnce (bareOptions.alone 0)).status ≠ 0 := by decide +kernel
  obtain ⟨-, -, hshown⟩ := h.failed [] 0 [1] rfl (fun _ hj => (nomatch hj)) hstatus
  exact absurd hshown (by decide +kernel)

end CommandLine

end ProgramSearch

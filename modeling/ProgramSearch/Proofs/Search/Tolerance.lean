/-
# ProgramSearch.Proofs.Search.Tolerance -- strict and sentinel accesses side by side

An access that reads within its array finds the same element under either rule for offsets, so a
walk over sentinel accesses is the walk over strict ones with another rule written into its
instructions: `Walk.withBounds` is that walk, over the very same examples, and it makes the same
step wherever the strict walk makes one. The two part only where a strict access reads outside the
array of some example.
-/

import ProgramSearch.Proofs.Search.Faults

namespace ProgramSearch

/-! ## Operators and instructions -/

namespace Operator

@[simp] theorem signature_withBounds (bounds : Bounds) (op : Operator) :
    (op.withBounds bounds).signature = op.signature := by
  cases op <;> rfl

theorem withBounds_withBounds (bounds bounds' : Bounds) (op : Operator) :
    (op.withBounds bounds).withBounds bounds' = op.withBounds bounds' := by
  cases op <;> rfl

/-- What an access finds in an array, it finds under either rule. -/
theorem accessWith_sentinel {bounds : Bounds} {offset n : Int32} {xs : List Int32}
    (h : accessWith bounds offset xs = .ok n) : accessWith .sentinel offset xs = .ok n := by
  cases hfound : element? offset xs with
  | some x => simpa [accessWith, hfound] using h
  | none =>
    cases bounds with
    | sentinel => exact h
    | strict => simp [accessWith, hfound] at h

/-- Where an operator has a result, its sentinel form has the same one. -/
theorem evaluate_sentinel {op : Operator} {args : List Value} {v : Value}
    (h : op.evaluate args = .ok v) : (op.withBounds .sentinel).evaluate args = .ok v := by
  cases op with
  | access bounds =>
    obtain ⟨a, b, rfl, ha, hb⟩ := Value.args_of_types (types_of_evaluate h)
    obtain ⟨offset, rfl⟩ := Value.eq_int_of_type ha
    obtain ⟨xs, rfl⟩ := Value.eq_array_of_type hb
    rw [evaluate_access] at h
    rw [withBounds, evaluate_access]
    cases haccess : accessWith bounds offset xs with
    | error e => simp [haccess, Except.map] at h
    | ok n =>
      rw [haccess] at h
      rw [accessWith_sentinel haccess, h]
  | _ => exact h

end Operator

theorem Instruction.resultType_withBounds (bounds : Bounds) (ins : Instruction) :
    (ins.withBounds bounds).resultType = ins.resultType :=
  congrArg Signature.result (ins.op.signature_withBounds bounds)

/-- The same program, with the given rule for offsets in its accesses. -/
def Program.withBounds (bounds : Bounds) (program : Program) : Program :=
  { program with steps := program.steps.map (·.withBounds bounds) }

theorem Catalog.withBounds_withBounds (bounds bounds' : Bounds) (catalog : Catalog) :
    (catalog.withBounds bounds).withBounds bounds' = catalog.withBounds bounds' := by
  simp [withBounds, Operator.withBounds_withBounds]

/-! ## Examples -/

variable {ins : Instruction}

/-- An instruction that is applied is applied in its sentinel form too, to the same effect on the
visible registers and on the retained slots. -/
theorem RegisterFile.apply_sentinel {regs regs' : RegisterFile}
    (h : regs.apply ins = (.ok (), regs')) :
    regs.apply (ins.withBounds .sentinel) = (.ok (), regs') := by
  have hoperands : (ins.withBounds .sentinel).operands = ins.operands := rfl
  have hop : (ins.withBounds .sentinel).op = ins.op.withBounds .sentinel := rfl
  unfold apply at h ⊢
  rw [hoperands, hop]
  cases hargs : ins.operands.toList.mapM regs.get with
  | error e => simp [hargs] at h
  | ok args =>
    simp only [hargs, Operator.evaluateInto_eq] at h ⊢
    cases hvalue : ins.op.evaluate args with
    | error e => simp [hvalue] at h
    | ok v =>
      simp only [hvalue] at h
      simp only [Operator.evaluate_sentinel hvalue]
      exact h

theorem Example.applyAll_sentinel {xs ys : List Example} (h : applyAll ins xs = (.ok (), ys)) :
    applyAll (ins.withBounds .sentinel) xs = (.ok (), ys) := by
  induction xs generalizing ys with
  | nil => exact h
  | cons x xs ih =>
    rw [applyAll] at h
    rcases hx : x.registers.apply ins with ⟨_ | ⟨⟩, regs⟩
    · simp [hx] at h
    · rcases hxs : applyAll ins xs with ⟨e | ⟨⟩, zs⟩
      · -- an example behind refuses, and then the answer is not that all were applied to
        simp only [hx, hxs] at h
        split at h <;> simp at h
      · simp only [hx, hxs] at h
        simp only [applyAll, RegisterFile.apply_sentinel hx, ih hxs]
        exact h

theorem ExampleSet.apply_sentinel {s s' : ExampleSet} (h : s.apply ins = (.ok (), s')) :
    s.apply (ins.withBounds .sentinel) = (.ok (), s') := by
  obtain ⟨hanswer, rfl⟩ := Prod.mk.inj h
  have hall := Example.applyAll_sentinel (Prod.ext hanswer rfl)
  simp only [apply, hall]

/-! ## Cursors -/

theorem Bank.Marked.withBounds {bank : Bank} {ops : List Operator} {offset : Nat}
    {marks : List (Option Nat)} (h : Marked bank ops offset marks) (bounds : Bounds) :
    Marked bank (ops.map (·.withBounds bounds)) offset marks := by
  induction h with
  | nil => exact .nil
  | @cons op ops offset mark marks hmark _ ih =>
    rw [← op.signature_withBounds bounds] at hmark ih
    exact .cons hmark ih

/-- Finding a place of a listing depends on the signatures of the operators alone. -/
theorem Bank.locate_withBounds (bank : Bank) (bounds : Bounds) (position : Nat)
    (ops : List Operator) (marks : List (Option Nat)) (offset : Nat) :
    bank.locate position (ops.map (·.withBounds bounds)) marks offset =
      ((bank.locate position ops marks offset).1.map (·.withBounds bounds),
        (bank.locate position ops marks offset).2) := by
  induction ops generalizing marks offset with
  | nil => rfl
  | cons op ops ih =>
    cases marks with
    | nil => rfl
    | cons mark marks =>
      simp only [List.map_cons, locate, Operator.signature_withBounds]
      split
      · rw [ih]
      · split
        · simp only [Option.map_map]
          rfl
        · rw [ih]

namespace Cursor

/-- The cursor at the same place of the listing with the given rule for offsets. -/
def withBounds (bounds : Bounds) (cursor : Cursor) : Cursor :=
  { cursor with
    catalog := cursor.catalog.withBounds bounds
    marked := cursor.marked.withBounds bounds }

/-- What a cursor knows decides it. -/
theorem eq_of_marks_eq {cursor cursor' : Cursor} (hcatalog : cursor'.catalog = cursor.catalog)
    (htypes : cursor'.types = cursor.types) (hmarks : cursor'.marks = cursor.marks)
    (hposition : cursor'.position = cursor.position) : cursor' = cursor := by
  have hbank : cursor'.bank = cursor.bank := by
    rw [cursor'.bank_eq, cursor.bank_eq, htypes]
  cases cursor
  cases cursor'
  subst hcatalog htypes hmarks hposition hbank
  rfl

theorem start_withBounds (bounds : Bounds) (catalog : Catalog) (types : List Ty) :
    start (catalog.withBounds bounds) types = (start catalog types).withBounds bounds := by
  have hmarks : (catalog.operators.map (·.withBounds bounds)).map (fun _ => (none : Option Nat)) =
      catalog.operators.map fun _ => none := by
    rw [List.map_map]
    rfl
  exact eq_of_marks_eq rfl rfl hmarks rfl

theorem after_withBounds (bounds : Bounds) (cursor : Cursor) (ins : Instruction) :
    (cursor.withBounds bounds).after (ins.withBounds bounds) =
      (cursor.after ins).withBounds bounds := by
  rw [after, after, ← start_withBounds, Instruction.resultType_withBounds]
  rfl

theorem lookUp_withBounds (bounds : Bounds) (cursor : Cursor) (position : Nat) :
    (cursor.withBounds bounds).lookUp position =
      ((cursor.lookUp position).1.map (·.withBounds bounds),
        (cursor.lookUp position).2.withBounds bounds) := by
  have hlocate := cursor.bank.locate_withBounds bounds position cursor.catalog.operators
    cursor.marks 0
  have hfound := congrArg Prod.fst hlocate
  have hmarks := congrArg Prod.snd hlocate
  exact Prod.ext hfound (eq_of_marks_eq rfl rfl hmarks rfl)

/-- A cursor is moved on under either rule alike. -/
theorem next_withBounds {bounds : Bounds} {cursor cursor' : Cursor} {ins? : Option Instruction}
    (h : cursor.next = (ins?, cursor')) :
    (cursor.withBounds bounds).next =
      (ins?.map (·.withBounds bounds), cursor'.withBounds bounds) := by
  have hposition : (cursor.withBounds bounds).position = cursor.position := rfl
  unfold next at h ⊢
  rw [hposition, lookUp_withBounds]
  rcases hlook : cursor.lookUp cursor.position with ⟨_ | ins, found⟩
  all_goals
    rw [hlook] at h
    cases h
    rfl

end Cursor

/-! ## Walks -/

/-- The choice with the given rule for offsets. -/
def Choice.withBounds (bounds : Bounds) (choice : Choice) : Choice :=
  ⟨choice.cursor.withBounds bounds, choice.instruction.withBounds bounds⟩

namespace Walk

/-- The walk that stands where this one does, over the same examples, with the given rule for
offsets in all of its instructions. -/
def withBounds (bounds : Bounds) (w : Walk) : Walk :=
  { w with
    trail := w.trail.map (Choice.withBounds bounds)
    here := w.here.withBounds bounds }

variable {s : ExampleSet} {catalog : Catalog} {maxLength : Nat} {w w' : Walk} {budget : Budget}

theorem path_withBounds (bounds : Bounds) (w : Walk) :
    (w.withBounds bounds).path = w.path.map (·.withBounds bounds) := by
  simp only [path, Choice.path, withBounds, ← List.map_reverse, List.map_map]
  rfl

theorem depth_withBounds (bounds : Bounds) (w : Walk) :
    (w.withBounds bounds).depth = w.depth :=
  List.length_map _

theorem program_withBounds (bounds : Bounds) (w : Walk) :
    (w.withBounds bounds).program = w.program.withBounds bounds := by
  rw [program, path_withBounds]
  rfl

theorem start_withBounds (hstart : start s catalog maxLength = .ok w) (bounds : Bounds) :
    start s (catalog.withBounds bounds) maxLength = .ok (w.withBounds bounds) := by
  obtain ⟨hdepth, rfl⟩ := start_eq_ok_iff.1 hstart
  refine start_eq_ok_iff.2 ⟨hdepth, ?_⟩
  unfold root
  rw [Cursor.start_withBounds]
  rfl

/-- Walks over one catalog under either rule begin side by side. -/
theorem start_sentinel (hstart : start s (catalog.withBounds .strict) maxLength = .ok w) :
    start s (catalog.withBounds .sentinel) maxLength = .ok (w.withBounds .sentinel) := by
  have hstart' := start_withBounds hstart .sentinel
  rwa [Catalog.withBounds_withBounds] at hstart'

/-- A step that no example refuses is made under the sentinel rule too. -/
theorem Move.sentinel (h : Move w (.ok ()) w') :
    Move (w.withBounds .sentinel) (.ok ()) (w'.withBounds .sentinel) := by
  have hdepth := w.depth_withBounds .sentinel
  cases h with
  | idle hphase => exact .idle hphase
  | solved hphase hnext happly hsolved =>
    have hmove := Move.solved (w := w.withBounds .sentinel) hphase (Cursor.next_withBounds hnext)
      (ExampleSet.apply_sentinel happly) hsolved
    rw [hdepth] at hmove
    exact hmove
  | @descended ins here examples hphase hnext happly hsolved hroom =>
    have hmove := Move.descended (w := w.withBounds .sentinel) hphase
      (Cursor.next_withBounds hnext) (ExampleSet.apply_sentinel happly) hsolved
      (by rwa [hdepth])
    rw [hdepth, Cursor.after_withBounds] at hmove
    exact hmove
  | undone hphase hnext happly hsolved hroom hundo =>
    have hmove := Move.undone (w := w.withBounds .sentinel) hphase (Cursor.next_withBounds hnext)
      (ExampleSet.apply_sentinel happly) hsolved (by rwa [hdepth]) hundo
    rw [hdepth] at hmove
    exact hmove
  | exhausted hphase hnext htrail =>
    have htrail' := congrArg (List.map (Choice.withBounds .sentinel)) htrail
    exact .exhausted (w := w.withBounds .sentinel) hphase (Cursor.next_withBounds hnext) htrail'
  | ascended hphase hnext htrail hundo =>
    have htrail' := congrArg (List.map (Choice.withBounds .sentinel)) htrail
    exact .ascended (w := w.withBounds .sentinel) hphase (Cursor.next_withBounds hnext) htrail'
      hundo

theorem unwind_withBounds (bounds : Bounds) (trail : List Choice) (w : Walk) :
    (w.withBounds bounds).unwind (trail.map (Choice.withBounds bounds)) =
      ((w.unwind trail).1, (w.unwind trail).2.withBounds bounds) := by
  induction trail generalizing w with
  | nil => rfl
  | cons choice trail ih =>
    have hexamples : (w.withBounds bounds).examples = w.examples := rfl
    simp only [List.map_cons, unwind, hexamples]
    rcases w.examples.undo with ⟨_ | ⟨⟩, examples⟩
    · rfl
    · exact ih { w with examples, here := choice.cursor }

/-- Going back up makes no use of the rule for offsets. -/
theorem giveUp_withBounds (bounds : Bounds) (w : Walk) (answer : Except Error Outcome) :
    (w.withBounds bounds).giveUp answer =
      ((w.giveUp answer).1, (w.giveUp answer).2.withBounds bounds) := by
  have hunwind : (w.withBounds bounds).rewind = (w.rewind.1, w.rewind.2.withBounds bounds) :=
    unwind_withBounds bounds w.trail w
  simp only [giveUp, hunwind]
  rcases w.rewind with ⟨_ | ⟨⟩, w'⟩ <;> rfl

/-! ## Runs -/

/-- A walk in the tree is followed by the walk under the sentinel rule. -/
theorem simulation_sentinel :
    Simulation fun w v => Standing s catalog maxLength w ∧ v = w.withBounds .sentinel := by
  refine ⟨?_, ?_, ?_⟩
  · rintro w _ w' ⟨h, rfl⟩ hstep
    have hmove := h.move_of_step hstep
    exact ⟨w'.withBounds .sentinel, hmove.sentinel.step_eq, h.move hmove, rfl⟩
  · rintro w _ ⟨-, rfl⟩
    rfl
  · rintro w _ ⟨-, rfl⟩
    rfl

/-- A run that no example interrupts comes to the same under the sentinel rule. -/
theorem Standing.run_sentinel {outcome : Outcome} (h : Standing s catalog maxLength w)
    (hrun : w.run budget = (.ok outcome, w')) :
    (w.withBounds .sentinel).run budget = (.ok outcome, w'.withBounds .sentinel) := by
  rcases simulation_sentinel.run ⟨h, rfl⟩ budget with hends | ⟨n, e, hparts⟩
  · generalize (w.withBounds .sentinel).run budget = result' at hends ⊢
    generalize w.run budget = result at hends hrun
    cases hends with
    | ended outcome' hbeside =>
      cases hrun
      obtain ⟨-, rfl⟩ := hbeside
      rfl
    | givenUp hbeside =>
      obtain ⟨-, rfl⟩ := hbeside
      rw [giveUp_withBounds, hrun]
  · have hstanding : Standing s catalog maxLength (w.stepped (n + 1)) := hparts.related.1.step
    have hfailed := congrArg Prod.fst (run_eq_giveUp hparts.left hparts.failed)
    rw [hrun, hstanding.fst_giveUp] at hfailed
    cases hfailed

/-- The second walk stands beside the first: in the same phase, over the same examples and with the
same counts, having gone down by the same instructions and being offered the same one next, but for
the rule for offsets. -/
structure Beside (bounds : Bounds) (w v : Walk) : Prop where
  phase : v.phase = w.phase
  examples : v.examples = w.examples
  counters : v.counters = w.counters
  path : v.path = w.path.map (·.withBounds bounds)
  offered : v.here.next.1 = w.here.next.1.map (·.withBounds bounds)

theorem beside_withBounds (bounds : Bounds) (w : Walk) : w.Beside bounds (w.withBounds bounds) :=
  ⟨rfl, rfl, rfl, w.path_withBounds bounds, congrArg Prod.fst (Cursor.next_withBounds rfl)⟩

end Walk

/-! ## Whole searches -/

/-- The report with the given rule for offsets in the program that was found. -/
def Report.withBounds (bounds : Bounds) (report : Report) : Report :=
  { report with program := report.program.map (·.withBounds bounds) }

theorem Report.ofOutcome_withBounds (bounds : Bounds) (outcome : Outcome) (program : Program)
    (statistics : Statistics) :
    ofOutcome outcome (program.withBounds bounds) statistics =
      (ofOutcome outcome program statistics).withBounds bounds := by
  unfold ofOutcome withBounds
  split <;> rfl

theorem Catalog.not_mem_withBounds_sentinel (catalog : Catalog) :
    .access .strict ∉ (catalog.withBounds .sentinel).operators := by
  intro hmem
  obtain ⟨op, -, hop⟩ := List.mem_map.1 hmem
  cases op <;> simp [Operator.withBounds] at hop

variable {s s' : ExampleSet} {catalog : Catalog} {limits : Limits}

/-- A search that no example interrupts comes to the same under the sentinel rule. -/
theorem search_sentinel {report : Report} (hstands : s.StandsAt [])
    (h : search s (catalog.withBounds .strict) limits = (.ok report, s')) :
    search s (catalog.withBounds .sentinel) limits = (.ok (report.withBounds .sentinel), s') := by
  obtain ⟨w, outcome, w', hstart, hrun, rfl, rfl⟩ := exists_run_of_search h
  have hstart' := Walk.start_sentinel hstart
  have hrun' := (Walk.standing_start hstands hstart).run_sentinel hrun
  rw [search_of_start hstart', hrun', ← Report.ofOutcome_withBounds, ← Walk.program_withBounds]
  rfl

/-- Searches with strict and with sentinel accesses part only where a strict access reads outside
the array of some example. -/
structure ExampleSet.PartsByFaults (s : ExampleSet) (catalog : Catalog) (limits : Limits) :
    Prop where
  /-- A search with strict accesses that comes to a report comes to it with sentinel ones too: the
  outcome, the program, the counts and what becomes of the examples are the same. -/
  report : ∀ {searcher searcher' : Searcher} {report : Report} {s' : ExampleSet},
    searcher.search s (catalog.withBounds .strict) limits = (.ok report, searcher', s') →
    searcher.search s (catalog.withBounds .sentinel) limits =
      (.ok (report.withBounds .sentinel), searcher', s')
  /-- One that fails does so after some number of steps, at an instruction that is refused for a
  fault. Up to there the walks go side by side, and the one with sentinel accesses goes on. -/
  error : ∀ {searcher : Searcher} {e : Error},
    (searcher.search s (catalog.withBounds .strict) limits).1 = .error e →
    ∃ w v n, Walk.start s (catalog.withBounds .strict) limits.maxLength = .ok w ∧
      Walk.start s (catalog.withBounds .sentinel) limits.maxLength = .ok v ∧
      (∀ m < n, Walk.Goes limits.budget (w.stepped m) (w.stepped (m + 1)) ∧
        Walk.Goes limits.budget (v.stepped m) (v.stepped (m + 1))) ∧
      (∀ m ≤ n, (w.stepped m).Beside .sentinel (v.stepped m)) ∧
      (w.stepped n).step.1 = .error e ∧ (w.stepped n).Faults (catalog.withBounds .strict) e ∧
      (v.stepped n).step.1 = .ok ()

/-- **The rule for offsets matters only from the first fault on.** Over a set of examples at its
inputs, whatever it has been through, it makes a difference to a search only from the first strict
access on that reads outside an array. -/
theorem ExampleSet.partsByFaults_of_reachable (hs : s.Reachable) (hdepth : s.depth = 0)
    (catalog : Catalog) (limits : Limits) : s.PartsByFaults catalog limits := by
  have hlockstep := hs.lockstep
  have hstands := hlockstep.standsAt_nil hdepth
  refine ⟨fun {searcher searcher' report s'} h => ?_, fun {searcher e} herror => ?_⟩
  · obtain ⟨hsearch, rfl⟩ := Searcher.search_eq_iff.1 h
    exact Searcher.search_eq_iff.2 ⟨search_sentinel hstands hsearch, rfl⟩
  · rw [(searcher.search_eq s (catalog.withBounds .strict) limits).1] at herror
    obtain ⟨w, u, hstart, hchain, hstep, hfaults⟩ :=
      exists_faults_of_search hlockstep hdepth herror
    obtain ⟨n, rfl, hgoes⟩ := Walk.exists_stepped hchain
    have hstanding := Walk.standing_start hstands hstart
    have hstart' := Walk.start_sentinel hstart
    have hbeside : ∀ m ≤ n, (w.withBounds .sentinel).stepped m =
        (w.stepped m).withBounds .sentinel := by
      intro m hm
      exact (Walk.simulation_sentinel.stepped ⟨hstanding, rfl⟩
        fun k hk => hgoes k (Nat.lt_of_lt_of_le hk hm)).1.2
    obtain ⟨-, hgoes'⟩ := Walk.simulation_sentinel.stepped ⟨hstanding, rfl⟩ hgoes
    refine ⟨w, w.withBounds .sentinel, n, hstart, hstart', ?_, ?_, hstep, hfaults, ?_⟩
    · intro m hm
      exact ⟨hgoes m hm, hgoes' m hm⟩
    · intro m hm
      rw [hbeside m hm]
      exact Walk.beside_withBounds _ _
    · -- sentinel accesses have no faults
      have hstanding' := (Walk.standing_start hstands hstart').stepped n
      cases hanswer : ((w.withBounds .sentinel).stepped n).step.1 with
      | ok _ => rfl
      | error e' =>
        have hmem := (hstanding'.faults hlockstep hdepth hanswer).mem_operators
        exact absurd hmem catalog.not_mem_withBounds_sentinel

/-- An array of two whose last element is out of its range, and an offset for that element. -/
def elementAsOffset : ExampleSet := ⟨[⟨.ofInputs [.int 1, .array [7, 8]], .int 9⟩]⟩

/-- The walk over it by strict accesses. -/
def elementAsOffsetWalk : Walk := .root elementAsOffset ⟨[.access .strict]⟩ 2

/-- The first access reads the element 8, and the third one takes it for an offset. With room for
one node the two searches report the same. Without a limit the strict one fails after two steps, and
the other goes on. -/
theorem ExampleSet.partsByFaults_of_element_as_offset :
    ∃ report searcher' s', ofPairs [([.int 1, .array [7, 8]], .int 9)] = .ok elementAsOffset ∧
      Searcher.fresh.search elementAsOffset ⟨[.access .strict]⟩ ⟨2, ⟨some 1, none⟩⟩ =
        (.ok report, searcher', s') ∧
      Searcher.fresh.search elementAsOffset ⟨[.access .sentinel]⟩ ⟨2, ⟨some 1, none⟩⟩ =
        (.ok (report.withBounds .sentinel), searcher', s') ∧
      ∃ v n, Walk.start elementAsOffset ⟨[.access .strict]⟩ 2 = .ok elementAsOffsetWalk ∧
        Walk.start elementAsOffset ⟨[.access .sentinel]⟩ 2 = .ok v ∧
        (elementAsOffsetWalk.stepped n).Beside .sentinel (v.stepped n) ∧
        (elementAsOffsetWalk.stepped n).Faults ⟨[.access .strict]⟩ (.indexOutOfRange 8 2) ∧
        (v.stepped n).step.1 = .ok () := by
  have hs : ofPairs [([.int 1, .array [7, 8]], .int 9)] = .ok elementAsOffset := rfl
  have hstart : Walk.start elementAsOffset ⟨[.access .strict]⟩ 2 = .ok elementAsOffsetWalk := rfl
  have hparts (budget : Budget) :
      elementAsOffset.PartsByFaults ⟨[.access .sentinel]⟩ ⟨2, budget⟩ :=
    partsByFaults_of_reachable (.ofPairs hs) rfl _ _
  have hspent : Walk.RunEnd ⟨some 1, none⟩ elementAsOffsetWalk
      ((elementAsOffsetWalk.stepped 1).giveUp (.ok .budgetExceeded)) := .spent rfl rfl rfl
  have hlimited : elementAsOffsetWalk.run ⟨some 1, none⟩ =
      (.ok .budgetExceeded, (elementAsOffsetWalk.stepped 1).rewind.2) := hspent.run_eq
  have hsearch : Searcher.fresh.search elementAsOffset ⟨[.access .strict]⟩ ⟨2, ⟨some 1, none⟩⟩ =
      _ := Searcher.search_of_run hstart hlimited
  -- down by the access, past the one below it, and on to the fault
  have hchain : Relation.ReflTransGen (Walk.Goes .unlimited) elementAsOffsetWalk
      (elementAsOffsetWalk.stepped 2) := .head ⟨rfl, rfl, rfl⟩ (.single ⟨rfl, rfl, rfl⟩)
  have hstep : (elementAsOffsetWalk.stepped 2).step =
      (.error (.indexOutOfRange 8 2), elementAsOffsetWalk.stepped 3) := rfl
  have hrun : elementAsOffsetWalk.run .unlimited =
      (.error (.indexOutOfRange 8 2), (elementAsOffsetWalk.stepped 3).rewind.2) :=
    (Walk.run_eq_of_goes hchain).trans (Walk.RunEnd.failed hstep).run_eq
  have herror : (Searcher.fresh.search elementAsOffset ⟨[.access .strict]⟩ ⟨2, .unlimited⟩).1 =
      .error (.indexOutOfRange 8 2) := by
    rw [Searcher.search_of_run hstart hrun]
    rfl
  obtain ⟨w, v, n, hw, hv, -, hbeside, -, hfaults, hgoes⟩ := (hparts .unlimited).error herror
  obtain rfl : elementAsOffsetWalk = w := Except.ok.inj (hstart.symm.trans hw)
  exact ⟨_, _, _, hs, hsearch, (hparts _).report hsearch, v, n, hstart, hv,
    hbeside n (Nat.le_refl n), hfaults, hgoes⟩

end ProgramSearch

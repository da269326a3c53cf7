/-
# ProgramSearch.Proofs.Search.Faults -- what can end a search with an error

A walk offers its examples nothing but well-typed instructions, it undoes only what it has applied,
and the types it goes by are those of the first example. So there is one way for a search to fail: a
strict access reads an offset outside its array in some example. The main statement is
`ExampleSet.FailsByFaults`, which says so of steps, of runs and of whole searches, names the
instruction and the example, and says that without strict accesses nothing fails at all.
-/

import ProgramSearch.Proofs.Applicability
import ProgramSearch.Proofs.Search.Invariant

namespace ProgramSearch

/-! ## Faults of a set of examples -/

/-- The instruction is a strict access, and the first example that it cannot be applied to has it
read an offset outside the array. -/
structure ExampleSet.Faults (s : ExampleSet) (ins : Instruction) (e : Error) : Prop where
  strict : ins.op = .access .strict
  first : ∃ before x after offset xs, s.examples = before ++ x :: after ∧
    (∀ y ∈ before, (y.registers.apply ins).1 = .ok ()) ∧ (x.registers.apply ins).1 = .error e ∧
    ins.Reads x.registers.visible offset xs ∧ (offset.toInt < 0 ∨ xs.length ≤ offset.toInt) ∧
    e = .indexOutOfRange offset.toInt xs.length

/-- An instruction that suits the registers of every example is refused only for a fault. -/
theorem ExampleSet.faults_of_apply {s s' : ExampleSet} {ins : Instruction} {e : Error}
    (htyped : ∀ x ∈ s.examples, ins.isWellTyped x.registers.types = true)
    (happly : s.apply ins = (.error e, s')) : s.Faults ins e := by
  obtain ⟨before, x, after, hexamples, hbefore, hx⟩ := (refuse_of_apply happly).1.exists_apply
  have hxtyped := htyped x (by simp [hexamples])
  have hrun : ins.run x.registers.visible = .error e := by
    rw [RegisterFile.fst_apply] at hx
    cases hrun : ins.run x.registers.visible with
    | ok v => simp [hrun, Except.map] at hx
    | error e' => simpa [hrun, Except.map] using hx
  obtain ⟨hop, offset, xs, hreads, houtside, he⟩ := Instruction.run_eq_error hxtyped hrun
  exact ⟨hop, before, x, after, offset, xs, hexamples, hbefore, hx, hreads, houtside, he⟩

/-! ## Faults of a walk -/

namespace Walk

/-- The walk is offered one of the catalog's instructions that its examples refuse for a fault. -/
def Faults (catalog : Catalog) (w : Walk) (e : Error) : Prop :=
  ∃ ins here, w.here.next = (some ins, here) ∧ ins.op ∈ catalog.operators ∧ w.examples.Faults ins e

variable {s : ExampleSet} {catalog : Catalog} {maxLength : Nat} {w : Walk} {e : Error}

theorem Faults.mem_operators (h : w.Faults catalog e) : .access .strict ∈ catalog.operators := by
  obtain ⟨ins, here, -, hop, hfaults⟩ := h
  rwa [← hfaults.strict]

/-- A fault is told as an index outside of a length. -/
theorem Faults.exists_eq (h : w.Faults catalog e) :
    ∃ index length, e = .indexOutOfRange index length := by
  obtain ⟨ins, here, -, -, hfaults⟩ := h
  obtain ⟨-, -, -, offset, xs, -, -, -, -, -, rfl⟩ := hfaults.first
  exact ⟨offset.toInt, xs.length, rfl⟩

/-- Every example shows registers of the types that the path leads to. -/
theorem Standing.types_eq (hs : s.Lockstep) (hdepth : s.depth = 0)
    (h : Standing s catalog maxLength w) {x : Example} (hx : x ∈ w.examples.examples) :
    x.registers.types = Program.typesFrom s.types w.path := by
  rw [(h.examples x hx).types, hs.types_of_pairs hdepth h.pairs hx]

/-- A step fails only for a fault. -/
theorem Standing.faults (hs : s.Lockstep) (hdepth : s.depth = 0)
    (h : Standing s catalog maxLength w) (herror : w.step.1 = .error e) : w.Faults catalog e := by
  have hmove := move_step h.examples
  rw [herror] at hmove
  generalize w.step.2 = w' at hmove
  cases hmove with
  | @refused ins here _ examples hphase hnext happly =>
    obtain ⟨hop, htyped⟩ := (h.isOver hphase).offers hnext
    refine ⟨ins, here, hnext, hop, ExampleSet.faults_of_apply (fun x hx => ?_) happly⟩
    rwa [h.types_eq hs hdepth hx]

/-- A run fails only for a fault that one of its steps comes upon. -/
theorem Standing.exists_faults (hs : s.Lockstep) (hdepth : s.depth = 0)
    (h : Standing s catalog maxLength w) {budget : Budget} (herror : (w.run budget).1 = .error e) :
    ∃ u, Relation.ReflTransGen (Goes budget) w u ∧ u.step.1 = .error e ∧ u.Faults catalog e := by
  obtain ⟨u, hchain, hstep⟩ := h.run_eq_error herror
  exact ⟨u, hchain, hstep, (h.goes hchain).faults hs hdepth hstep⟩

end Walk

/-! ## All that can fail -/

variable {s : ExampleSet}

/-- A search that fails on examples at their inputs is a walk that comes upon a fault. -/
theorem exists_faults_of_search (hs : s.Lockstep) (hdepth : s.depth = 0) {catalog : Catalog}
    {limits : Limits} {e : Error} (herror : (search s catalog limits).1 = .error e) :
    ∃ w u, Walk.start s catalog limits.maxLength = .ok w ∧
      Relation.ReflTransGen (Walk.Goes limits.budget) w u ∧ u.step.1 = .error e ∧
      u.Faults catalog e := by
  obtain ⟨w, hstart⟩ : ∃ w, Walk.start s catalog limits.maxLength = .ok w :=
    Walk.exists_start_eq_ok_iff.2 hdepth
  have hrun : (w.run limits.budget).1 = .error e := by
    rw [search_of_start hstart] at herror
    exact Walk.report_eq_error_iff.1 herror
  have hstanding := Walk.standing_start (hs.standsAt_nil hdepth) hstart
  obtain ⟨u, hfaults⟩ := hstanding.exists_faults hs hdepth hrun
  exact ⟨w, u, hstart, hfaults⟩

/-- Walks and searches over a set of examples fail for faults only. -/
structure ExampleSet.FailsByFaults (s : ExampleSet) (catalog : Catalog) : Prop where
  rewind : ∀ {maxLength w}, Walk.Reachable s catalog maxLength w → w.rewind.1 = .ok ()
  step : ∀ {maxLength w e}, Walk.Reachable s catalog maxLength w →
    w.step.1 = .error e → w.Faults catalog e
  run : ∀ {maxLength w budget e}, Walk.Reachable s catalog maxLength w →
    (w.run budget).1 = .error e →
    ∃ u, Relation.ReflTransGen (Walk.Goes budget) w u ∧ u.step.1 = .error e ∧ u.Faults catalog e
  search : ∀ {searcher : Searcher} {limits e}, (searcher.search s catalog limits).1 = .error e →
    ∃ w u, Walk.start s catalog limits.maxLength = .ok w ∧
      Relation.ReflTransGen (Walk.Goes limits.budget) w u ∧ u.step.1 = .error e ∧
      u.Faults catalog e
  /-- Without strict accesses there are no faults. -/
  total : .access .strict ∉ catalog.operators →
    (∀ {maxLength w}, Walk.Reachable s catalog maxLength w →
      w.step.1 = .ok () ∧ ∀ budget, ∃ outcome, (w.run budget).1 = .ok outcome) ∧
    ∀ (searcher : Searcher) limits, ∃ report, (searcher.search s catalog limits).1 = .ok report

/-- **Only strict accesses fail.** Whatever a set has been through, once it is at its inputs an
error of a walk or of a search over it is that of a strict access in the catalog, which reads an
offset outside its array in the first example that refuses it. -/
theorem ExampleSet.failsByFaults_of_reachable (hs : s.Reachable) (hdepth : s.depth = 0)
    (catalog : Catalog) : s.FailsByFaults catalog := by
  have hlockstep := hs.lockstep
  have hstanding {maxLength : Nat} {w : Walk} (hw : w.Reachable s catalog maxLength) :=
    hw.standing (hlockstep.standsAt_nil hdepth)
  have hstep {maxLength : Nat} {w : Walk} {e : Error} (hw : w.Reachable s catalog maxLength)
      (herror : w.step.1 = .error e) : w.Faults catalog e :=
    (hstanding hw).faults hlockstep hdepth herror
  have hrun {maxLength : Nat} {w : Walk} {budget : Budget} {e : Error}
      (hw : w.Reachable s catalog maxLength) (herror : (w.run budget).1 = .error e) :=
    (hstanding hw).exists_faults hlockstep hdepth herror
  have hsearch {searcher : Searcher} {limits : Limits} {e : Error}
      (herror : (searcher.search s catalog limits).1 = .error e) := by
    rw [(searcher.search_eq s catalog limits).1] at herror
    exact exists_faults_of_search hlockstep hdepth herror
  refine ⟨fun hw => ?_, hstep, hrun, hsearch, fun hstrict => ⟨fun {_ w} hw => ⟨?_, ?_⟩, ?_⟩⟩
  · obtain ⟨w', hrewind, -⟩ := (hstanding hw).rewind
    rw [hrewind]
  · cases hanswer : w.step.1 with
    | ok u => rfl
    | error e => exact absurd (hstep hw hanswer).mem_operators hstrict
  · intro budget
    cases hanswer : (w.run budget).1 with
    | ok outcome => exact ⟨outcome, rfl⟩
    | error e =>
      obtain ⟨u, -, -, hfaults⟩ := hrun hw hanswer
      exact absurd hfaults.mem_operators hstrict
  · intro searcher limits
    cases hanswer : (searcher.search s catalog limits).1 with
    | ok report => exact ⟨report, rfl⟩
    | error e =>
      obtain ⟨-, u, -, -, -, hfaults⟩ := hsearch hanswer
      exact absurd hfaults.mem_operators hstrict

/-- Two examples and the offset 1, which lies within the array of the first and outside that of the
second. -/
def secondShort : ExampleSet :=
  ⟨[⟨.ofInputs [.int 1, .array [7, 8]], .int 3⟩, ⟨.ofInputs [.int 1, .array [7]], .int 3⟩]⟩

/-- The walk over them by accesses. -/
def secondShortWalk : Walk := .root secondShort ⟨[.access .strict]⟩ 1

/-- A search fails at the first instruction it tries. -/
theorem ExampleSet.failsByFaults_of_second_array :
    ofPairs [([.int 1, .array [7, 8]], .int 3), ([.int 1, .array [7]], .int 3)] =
        .ok secondShort ∧
      (Searcher.fresh.search secondShort ⟨[.access .strict]⟩ ⟨1, .unlimited⟩).1 =
        .error (.indexOutOfRange 1 1) ∧
      Walk.start secondShort ⟨[.access .strict]⟩ 1 = .ok secondShortWalk ∧
      ∃ u, Relation.ReflTransGen (Walk.Goes .unlimited) secondShortWalk u ∧
        u.Faults ⟨[.access .strict]⟩ (.indexOutOfRange 1 1) := by
  have hs : ofPairs [([.int 1, .array [7, 8]], .int 3), ([.int 1, .array [7]], .int 3)] =
      .ok secondShort := rfl
  have hstart : Walk.start secondShort ⟨[.access .strict]⟩ 1 = .ok secondShortWalk := rfl
  have hstep : secondShortWalk.step =
      (.error (.indexOutOfRange 1 1), secondShortWalk.stepped 1) := rfl
  have hrun : secondShortWalk.run .unlimited =
      (.error (.indexOutOfRange 1 1), (secondShortWalk.stepped 1).rewind.2) :=
    (Walk.RunEnd.failed hstep).run_eq
  have hsearch : (Searcher.fresh.search secondShort ⟨[.access .strict]⟩ ⟨1, .unlimited⟩).1 =
      .error (.indexOutOfRange 1 1) := by
    rw [Searcher.search_of_run hstart hrun]
    rfl
  have hfails := failsByFaults_of_reachable (.ofPairs hs) rfl ⟨[.access .strict]⟩
  obtain ⟨v, u, hv, hchain, -, hfaults⟩ := hfails.search hsearch
  obtain rfl : secondShortWalk = v := Except.ok.inj (hstart.symm.trans hv)
  exact ⟨hs, hsearch, hstart, u, hchain, hfaults⟩

end ProgramSearch

/-
# ProgramSearch.Proofs.Loading.Directory -- loading is well formed and local

Where the four tables can be read, what a load answers is a function of their texts. It is a set of
the examples asked for, none of them begun, with the types and the values on the lines of the
problem, or it is the fault of a text: rows that the tables give at their types always fit together
in a set. The other lines of the tables have no say in the answer.
-/

import ProgramSearch.DataDirectory
import ProgramSearch.Proofs.Loading.Tables
import ProgramSearch.Proofs.Registers

namespace ProgramSearch

/-! ## Sets of fresh examples -/

namespace ExampleSet

/-- Register files like the first one and as many targets like the first make a set. -/
theorem ofStates_cons {s : RegisterFile} {states : List RegisterFile} {t : Value}
    {targets : List Value} (hlength : states.length = targets.length)
    (hstates : ∀ r ∈ s :: states, r.types = s.types ∧ r.inputs.length = s.inputs.length)
    (htargets : ∀ v ∈ t :: targets, v.type = t.type) :
    ofStates (s :: states) (t :: targets) =
      .ok ⟨List.zipWith Example.mk (s :: states) (t :: targets)⟩ := by
  have hs : (s :: states).zipIdx.find? (fun x =>
      x.1.types ≠ s.types || x.1.inputs.length ≠ s.inputs.length) = none := by
    rw [List.find?_eq_none]
    rintro ⟨r, i⟩ hr
    simp [hstates r (List.fst_mem_of_mem_zipIdx hr)]
  have ht : (t :: targets).zipIdx.find? (fun x => x.1.type ≠ t.type) = none := by
    rw [List.find?_eq_none]
    rintro ⟨v, i⟩ hv
    simp [htargets v (List.fst_mem_of_mem_zipIdx hv)]
  unfold ofStates
  rw [if_neg (by simpa using hlength)]
  simp only [hs, ht]
  rfl

/-- The examples with the given inputs and targets, none of them begun. -/
def fresh (rows : List (List Value)) (targets : List Value) : ExampleSet :=
  ⟨List.zipWith Example.mk (rows.map .ofInputs) targets⟩

section Fresh

variable {rows : List (List Value)} {targets : List Value} {types : List Ty} {type : Ty}

theorem getElem?_fresh {j : Nat} {x : Example} (h : (fresh rows targets).examples[j]? = some x) :
    ∃ row target, rows[j]? = some row ∧ targets[j]? = some target ∧
      x = ⟨.ofInputs row, target⟩ := by
  obtain ⟨regs, target, hregs, htarget, rfl⟩ := List.getElem?_zipWith_eq_some.1 h
  rw [List.getElem?_map, Option.map_eq_some_iff] at hregs
  obtain ⟨row, hrow, rfl⟩ := hregs
  exact ⟨row, target, hrow, htarget, rfl⟩

theorem exists_of_mem_fresh {x : Example} (hx : x ∈ (fresh rows targets).examples) :
    ∃ row ∈ rows, ∃ target ∈ targets, x = ⟨.ofInputs row, target⟩ := by
  obtain ⟨j, hj⟩ := List.mem_iff_getElem?.1 hx
  obtain ⟨row, target, hrow, htarget, hx⟩ := getElem?_fresh hj
  exact ⟨row, List.mem_of_getElem? hrow, target, List.mem_of_getElem? htarget, hx⟩

theorem length_fresh (hlength : rows.length = targets.length) :
    (fresh rows targets).examples.length = targets.length := by
  simp [fresh, hlength]

/-- The registers of every example have the types of its inputs. -/
theorem registers_types_fresh (hrows : ∀ row ∈ rows, row.map Value.type = types) :
    ∀ x ∈ (fresh rows targets).examples, x.registers.types = types := by
  intro x hx
  obtain ⟨row, hrow, target, -, rfl⟩ := exists_of_mem_fresh hx
  rw [RegisterFile.types, RegisterFile.visible_ofInputs, hrows row hrow]

theorem types_fresh (hlength : rows.length = targets.length) (hne : targets ≠ [])
    (hrows : ∀ row ∈ rows, row.map Value.type = types) : (fresh rows targets).types = types := by
  have hpos : 0 < (fresh rows targets).examples.length := by
    rw [length_fresh hlength]
    exact List.length_pos_of_ne_nil hne
  obtain ⟨x, xs, hxs⟩ := List.exists_cons_of_length_pos hpos
  have hx := registers_types_fresh hrows x (by rw [hxs]; exact List.mem_cons_self)
  rw [ExampleSet.types, leader, hxs, hx]

/-- Inputs of the same types and as many targets of one type make a set. -/
theorem ofStates_ofInputs (hlength : rows.length = targets.length) (hne : targets ≠ [])
    (hrows : ∀ row ∈ rows, row.map Value.type = types) (htargets : ∀ v ∈ targets, v.type = type) :
    ofStates (rows.map .ofInputs) targets = .ok (fresh rows targets) := by
  obtain _ | ⟨target, targets⟩ := targets
  · exact absurd rfl hne
  obtain _ | ⟨row, rows⟩ := rows
  · cases hlength
  refine ofStates_cons (by simpa using hlength) ?_ fun v hv =>
    (htargets v hv).trans (htargets target List.mem_cons_self).symm
  intro r hr
  change r ∈ (row :: rows).map RegisterFile.ofInputs at hr
  obtain ⟨row', hrow', rfl⟩ := List.mem_map.1 hr
  have htypes : row'.map Value.type = row.map Value.type :=
    (hrows row' hrow').trans (hrows row List.mem_cons_self).symm
  have hcount : row'.length = row.length := by simpa using congrArg List.length htypes
  exact ⟨by simpa [RegisterFile.types] using htypes, hcount⟩

end Fresh

end ExampleSet

namespace DataDirectory

/-! ## Loading from texts -/

/-- The texts of the four tables of a data directory. -/
structure Tables where
  inputTypes : String
  inputValues : String
  outputTypes : String
  outputValues : String

variable {m : Type → Type} [Monad m]

/-- They are what reading the files of a directory answers. -/
structure Tables.AreIn (tables : Tables) (read : ReadFile m) (directory : String) : Prop where
  inputTypes : read (Path.join directory inputTypesFile) = pure (.ok tables.inputTypes)
  inputValues : read (Path.join directory inputValuesFile) = pure (.ok tables.inputValues)
  outputTypes : read (Path.join directory outputTypesFile) = pure (.ok tables.outputTypes)
  outputValues : read (Path.join directory outputValuesFile) = pure (.ok tables.outputValues)

/-- What a text from the named file was read as, without a monad around it. -/
def located {α : Type} (name : String) (answer : Except ParseError α) : Except Error α :=
  answer.mapError fun e => .format (e.inFile name)

/-- The rows of a problem in the texts of one pair of tables. -/
def rowsOf (typesFile valuesFile typesText valuesText : String) (problem examples : Nat) :
    Except Error (List (List Value)) := do
  let types ← located typesFile (Table.typesOfProblem typesText problem)
  located valuesFile (Table.valuesOfProblem valuesText problem examples types)

/-- The examples of a problem in the texts of the tables. -/
def Tables.examplesOf (tables : Tables) (problem examples : Nat) : Except Error ExampleSet := do
  let inputs ← rowsOf inputTypesFile inputValuesFile tables.inputTypes tables.inputValues
    problem examples
  let outputs ← rowsOf outputTypesFile outputValuesFile tables.outputTypes tables.outputValues
    problem examples
  let targets ← located outputValuesFile (singleOutputs (problem * examples + 1) outputs)
  ExampleSet.ofStates (inputs.map .ofInputs) targets

/-- A directory in memory that holds the four tables and nothing else. -/
def Tables.reader (tables : Tables) (directory : String) : ReadFile Id := fun path =>
  if path = Path.join directory inputTypesFile then .ok tables.inputTypes
  else if path = Path.join directory inputValuesFile then .ok tables.inputValues
  else if path = Path.join directory outputTypesFile then .ok tables.outputTypes
  else if path = Path.join directory outputValuesFile then .ok tables.outputValues
  else .error .notFound

/-- Names below a directory have paths of their own. -/
theorem join_ne_join (directory : String) {name name' : String}
    (hname : name.startsWith "/" = false) (hname' : name'.startsWith "/" = false)
    (hne : name ≠ name') : Path.join directory name ≠ Path.join directory name' := by
  intro h
  unfold Path.join at h
  rw [hname, hname', Bool.false_or] at h
  split_ifs at h
  · exact hne h
  · exact hne ((String.append_right_inj _).1 h)
  · exact hne ((String.append_right_inj _).1 h)

theorem Tables.areIn_reader (tables : Tables) (directory : String) :
    tables.AreIn (tables.reader directory) directory := by
  have h₁ : inputTypesFile.startsWith "/" = false := by decide +kernel
  have h₂ : inputValuesFile.startsWith "/" = false := by decide +kernel
  have h₃ : outputTypesFile.startsWith "/" = false := by decide +kernel
  have h₄ : outputValuesFile.startsWith "/" = false := by decide +kernel
  -- the name of each file differs from those that are looked for before it
  have h₂₁ := join_ne_join directory h₂ h₁ (by decide)
  have h₃₁ := join_ne_join directory h₃ h₁ (by decide)
  have h₃₂ := join_ne_join directory h₃ h₂ (by decide)
  have h₄₁ := join_ne_join directory h₄ h₁ (by decide)
  have h₄₂ := join_ne_join directory h₄ h₂ (by decide)
  have h₄₃ := join_ne_join directory h₄ h₃ (by decide)
  constructor <;> simp only [reader, *, if_true, if_false] <;> rfl

section Reading

variable [LawfulMonad m] {read : ReadFile m} {directory : String} {tables : Tables}

/-- What has its answer without an effect goes on from it without one. -/
theorem run_bind_of_run_eq_pure {ε α β : Type} {x : ExceptT ε m α} {f : α → ExceptT ε m β}
    {a : Except ε α} {g : α → Except ε β} (hx : x.run = pure a)
    (hf : ∀ v, (f v).run = pure (g v)) : (x >>= f).run = pure (a >>= g) := by
  rw [ExceptT.run_bind, hx, pure_bind]
  cases a with
  | error e => rfl
  | ok v => exact hf v

theorem run_readText {path text : String} (h : read path = pure (.ok text)) :
    (readText read path).run = pure (.ok text) := by
  change (do return (← read path).mapError _ : m _) = _
  rw [h, pure_bind]
  rfl

theorem run_loadRows {typesFile valuesFile typesText valuesText : String}
    (htypes : read (Path.join directory typesFile) = pure (.ok typesText))
    (hvalues : read (Path.join directory valuesFile) = pure (.ok valuesText))
    (problem examples : Nat) :
    (loadRows read directory typesFile valuesFile problem examples).run =
      pure (rowsOf typesFile valuesFile typesText valuesText problem examples) := by
  rw [loadRows, ExceptT.run_bind, run_readText htypes, pure_bind]
  refine run_bind_of_run_eq_pure rfl fun types => ?_
  rw [ExceptT.run_bind, run_readText hvalues, pure_bind]
  rfl

/-- A load from files is one from their texts. -/
theorem Tables.AreIn.run_loadExamples (hin : tables.AreIn read directory)
    (problem examples : Nat) :
    (loadExamples read directory problem examples).run =
      pure (tables.examplesOf problem examples) :=
  run_bind_of_run_eq_pure (run_loadRows hin.inputTypes hin.inputValues problem examples) fun _ =>
    run_bind_of_run_eq_pure (run_loadRows hin.outputTypes hin.outputValues problem examples)
      fun _ => run_bind_of_run_eq_pure rfl fun _ => rfl

end Reading

/-! ## Rows at their types -/

/-- Rows of a problem as the lines of a pair of tables have them. -/
structure RowsAt (typesText valuesText : String) (problem examples : Nat) (types : List Ty)
    (rows : List (List Value)) : Prop where
  /-- The types are the words on the line of the problem. -/
  words : Text.wordsAt? typesText problem = some (types.map Ty.name)
  /-- The lines of the problem have numbers. -/
  numbered : problem * examples ≤ Table.lastNumber
  /-- There is one row for each example. -/
  length : rows.length = examples
  /-- Each row is read from the line of its example. -/
  row : ∀ j row, rows[j]? = some row → ∃ line,
    (Text.lines valuesText)[problem * examples + j]? = some line ∧
      Table.valuesOfLine types line = .ok row

section Rows

variable {typesFile valuesFile typesText valuesText : String} {problem examples : Nat}
  {types : List Ty} {rows : List (List Value)}

/-- The rows of tables have the types of their problem. -/
theorem RowsAt.map_type (h : RowsAt typesText valuesText problem examples types rows) :
    ∀ row ∈ rows, row.map Value.type = types := by
  intro row hrow
  obtain ⟨j, hj⟩ := List.mem_iff_getElem?.1 hrow
  obtain ⟨line, -, hline⟩ := h.row j row hj
  exact Table.types_of_valuesOfLine hline

theorem located_eq_ok_iff {α : Type} {name : String} {answer : Except ParseError α} {a : α} :
    located name answer = .ok a ↔ answer = .ok a := by
  cases answer <;> simp [located, Except.mapError]

theorem located_eq_error {α : Type} {name : String} {answer : Except ParseError α} {e : Error}
    (h : located name answer = .error e) : ∃ fault, e = .format fault := by
  cases answer with
  | error fault =>
    cases h
    exact ⟨_, rfl⟩
  | ok a => cases h

theorem rowsOf_eq_ok_iff :
    rowsOf typesFile valuesFile typesText valuesText problem examples = .ok rows ↔
      ∃ types, RowsAt typesText valuesText problem examples types rows := by
  constructor
  · intro h
    obtain ⟨types, htypes, hvalues⟩ := exists_of_bind_eq_ok h
    obtain ⟨hnumbered, hlength, hrow⟩ :=
      Table.valuesOfProblem_eq_ok_iff.1 (located_eq_ok_iff.1 hvalues)
    exact ⟨types, Table.typesOfProblem_eq_ok_iff.1 (located_eq_ok_iff.1 htypes), hnumbered, hlength,
      hrow⟩
  · rintro ⟨types, htypes, hnumbered, hlength, hrow⟩
    rw [rowsOf, located_eq_ok_iff.2 (Table.typesOfProblem_eq_ok_iff.2 htypes)]
    exact located_eq_ok_iff.2 (Table.valuesOfProblem_eq_ok_iff.2 ⟨hnumbered, hlength, hrow⟩)

theorem rowsOf_eq_error {e : Error}
    (h : rowsOf typesFile valuesFile typesText valuesText problem examples = .error e) :
    ∃ fault, e = .format fault := by
  unfold rowsOf at h
  cases htypes : located typesFile (Table.typesOfProblem typesText problem) with
  | error e' =>
    rw [htypes] at h
    cases h
    exact located_eq_error htypes
  | ok types =>
    rw [htypes] at h
    exact located_eq_error h

theorem rowsOf_congr {typesText' valuesText' : String}
    (htypes : Text.lineText? typesText problem = Text.lineText? typesText' problem)
    (hvalues : ∀ j < examples, Text.lineText? valuesText (problem * examples + j) =
      Text.lineText? valuesText' (problem * examples + j)) :
    rowsOf typesFile valuesFile typesText valuesText problem examples =
      rowsOf typesFile valuesFile typesText' valuesText' problem examples := by
  unfold rowsOf
  rw [Table.typesOfProblem_congr htypes]
  simp only [Table.valuesOfProblem_congr hvalues]

end Rows

/-- Rows of one column each are the outputs that stand in them. -/
theorem singleOutputs_eq_ok_iff {number : Nat} {rows : List (List Value)} {targets : List Value} :
    singleOutputs number rows = .ok targets ↔ rows = targets.map ([·]) := by
  induction rows generalizing number targets with
  | nil => cases targets <;> simp [singleOutputs, pure, Except.pure]
  | cons row rows ih =>
    constructor
    · intro h
      obtain _ | ⟨v, _ | ⟨w, row⟩⟩ := row
      · cases h
      · obtain ⟨rest, hrest, h⟩ := exists_of_bind_eq_ok h
        cases h
        rw [List.map_cons, ih.1 hrest]
      · cases h
    · intro h
      obtain ⟨v, targets, rfl, rfl, hrest⟩ := List.map_eq_cons_iff.1 h.symm
      rw [singleOutputs, ih.2 hrest.symm]
      rfl

/-! ## What a load answers -/

namespace Tables

/-- The examples that the lines of a problem say. -/
structure Yields (tables : Tables) (problem examples : Nat) (s : ExampleSet) : Prop where
  /-- There are as many as were asked for. -/
  length : s.examples.length = examples
  /-- None of them is begun. -/
  fresh : ∀ x ∈ s.examples, x.registers.depth = 0
  /-- The types of the registers are the words on the line of the problem. -/
  inputTypes : Text.wordsAt? tables.inputTypes problem = some (s.types.map Ty.name) ∧
    ∀ x ∈ s.examples, x.registers.types = s.types
  /-- The targets have the type that is the one word on the line of the problem. -/
  outputType : ∃ type, Text.wordsAt? tables.outputTypes problem = some [type.name] ∧
    ∀ x ∈ s.examples, x.target.type = type
  /-- The registers of each example are read from its own line. -/
  inputValues : ∀ j x, s.examples[j]? = some x → ∃ line,
    (Text.lines tables.inputValues)[problem * examples + j]? = some line ∧
      Table.valuesOfLine s.types line = .ok x.registers.visible
  /-- The target of each example is read from its own line. -/
  outputValues : ∀ j x, s.examples[j]? = some x → ∃ line,
    (Text.lines tables.outputValues)[problem * examples + j]? = some line ∧
      Table.valuesOfLine [x.target.type] line = .ok [x.target]

/-- Tables that have the same lines of a problem. -/
structure AgreeAt (tables tables' : Tables) (problem examples : Nat) : Prop where
  inputTypes : Text.lineText? tables.inputTypes problem = Text.lineText? tables'.inputTypes problem
  outputTypes :
    Text.lineText? tables.outputTypes problem = Text.lineText? tables'.outputTypes problem
  inputValues : ∀ j < examples,
    Text.lineText? tables.inputValues (problem * examples + j) =
      Text.lineText? tables'.inputValues (problem * examples + j)
  outputValues : ∀ j < examples,
    Text.lineText? tables.outputValues (problem * examples + j) =
      Text.lineText? tables'.outputValues (problem * examples + j)

variable {tables tables' : Tables} {problem examples : Nat}

theorem AgreeAt.examplesOf_eq (h : tables.AgreeAt tables' problem examples) :
    tables.examplesOf problem examples = tables'.examplesOf problem examples := by
  rw [examplesOf, examplesOf, rowsOf_congr h.inputTypes h.inputValues,
    rowsOf_congr h.outputTypes h.outputValues]

/-- Rows that both pairs of tables have make a set. -/
theorem examplesOf_eq_ofStates {types types' : List Ty} {inputs : List (List Value)}
    {targets : List Value}
    (hinputs : RowsAt tables.inputTypes tables.inputValues problem examples types inputs)
    (houtputs : RowsAt tables.outputTypes tables.outputValues problem examples types'
      (targets.map ([·]))) :
    tables.examplesOf problem examples = ExampleSet.ofStates (inputs.map .ofInputs) targets := by
  simp only [examplesOf, rowsOf_eq_ok_iff.2 ⟨types, hinputs⟩, rowsOf_eq_ok_iff.2 ⟨types', houtputs⟩,
    located_eq_ok_iff.2 (singleOutputs_eq_ok_iff.2 rfl), bind, Except.bind]

/-- A load is refused because of a text, or both pairs of tables have the rows of the problem. -/
theorem examplesOf_cases (tables : Tables) (problem : Nat) (hexamples : 1 ≤ examples) :
    (∃ fault, tables.examplesOf problem examples = .error (.format fault)) ∨
    ∃ types inputs type targets,
      RowsAt tables.inputTypes tables.inputValues problem examples types inputs ∧
      RowsAt tables.outputTypes tables.outputValues problem examples [type] (targets.map ([·])) ∧
      tables.examplesOf problem examples =
        ExampleSet.ofStates (inputs.map .ofInputs) targets := by
  cases hinputs : rowsOf inputTypesFile inputValuesFile tables.inputTypes tables.inputValues
    problem examples with
  | error e =>
    obtain ⟨fault, rfl⟩ := rowsOf_eq_error hinputs
    exact .inl ⟨fault, by simp only [examplesOf, hinputs, bind, Except.bind]⟩
  | ok inputs =>
  cases houtputs : rowsOf outputTypesFile outputValuesFile tables.outputTypes tables.outputValues
    problem examples with
  | error e =>
    obtain ⟨fault, rfl⟩ := rowsOf_eq_error houtputs
    exact .inl ⟨fault, by simp only [examplesOf, hinputs, houtputs, bind, Except.bind]⟩
  | ok outputs =>
  cases htargets : located outputValuesFile (singleOutputs (problem * examples + 1) outputs) with
  | error e =>
    obtain ⟨fault, rfl⟩ := located_eq_error htargets
    exact .inl ⟨fault, by simp only [examplesOf, hinputs, houtputs, htargets, bind, Except.bind]⟩
  | ok targets =>
    obtain rfl := singleOutputs_eq_ok_iff.1 (located_eq_ok_iff.1 htargets)
    obtain ⟨types, hinputs⟩ := rowsOf_eq_ok_iff.1 hinputs
    obtain ⟨types', houtputs⟩ := rowsOf_eq_ok_iff.1 houtputs
    -- the first row shows that there is one output type
    have hcount : targets.length = examples := by simpa using houtputs.length
    obtain ⟨target, rest, rfl⟩ := List.exists_cons_of_length_pos (hcount ▸ hexamples)
    obtain rfl : [target.type] = types' := houtputs.map_type [target] List.mem_cons_self
    exact .inr ⟨types, inputs, target.type, target :: rest, hinputs, houtputs,
      examplesOf_eq_ofStates hinputs houtputs⟩

section Rows

variable {types : List Ty} {type : Ty} {inputs : List (List Value)} {targets : List Value}

/-- Rows that both pairs of tables have always fit together in a set. -/
theorem ofStates_of_rowsAt (hexamples : 1 ≤ examples)
    (hinputs : RowsAt tables.inputTypes tables.inputValues problem examples types inputs)
    (houtputs : RowsAt tables.outputTypes tables.outputValues problem examples [type]
      (targets.map ([·]))) :
    ∃ s, ExampleSet.ofStates (inputs.map .ofInputs) targets = .ok s ∧
      tables.Yields problem examples s := by
  have hcount : targets.length = examples := by simpa using houtputs.length
  have hlength : inputs.length = targets.length := hinputs.length.trans hcount.symm
  have hne : targets ≠ [] := List.ne_nil_of_length_pos (hcount ▸ hexamples)
  have htargets : ∀ v ∈ targets, v.type = type := by
    intro v hv
    simpa using houtputs.map_type [v] (List.mem_map_of_mem hv)
  have htypes := ExampleSet.types_fresh hlength hne hinputs.map_type
  refine ⟨_, ExampleSet.ofStates_ofInputs hlength hne hinputs.map_type htargets, ?_⟩
  constructor
  case length => rw [ExampleSet.length_fresh hlength, hcount]
  case fresh =>
    intro x hx
    obtain ⟨row, -, target, -, rfl⟩ := ExampleSet.exists_of_mem_fresh hx
    rfl
  case inputTypes =>
    rw [htypes]
    exact ⟨hinputs.words, ExampleSet.registers_types_fresh hinputs.map_type⟩
  case outputType =>
    refine ⟨type, houtputs.words, fun x hx => ?_⟩
    obtain ⟨row, -, target, htarget, rfl⟩ := ExampleSet.exists_of_mem_fresh hx
    exact htargets target htarget
  case inputValues =>
    intro j x hx
    obtain ⟨row, target, hrow, -, rfl⟩ := ExampleSet.getElem?_fresh hx
    rw [htypes, RegisterFile.visible_ofInputs]
    exact hinputs.row j row hrow
  case outputValues =>
    intro j x hx
    obtain ⟨row, target, -, htarget, rfl⟩ := ExampleSet.getElem?_fresh hx
    have hrow : (targets.map ([·]))[j]? = some [target] := by simp [htarget]
    rw [htargets target (List.mem_of_getElem? htarget)]
    exact houtputs.row j [target] hrow

end Rows

/-- An answer to a load that is well formed and owed to the lines of the problem alone. -/
structure Answers (tables : Tables) (problem examples : Nat) (answer : Except Error ExampleSet) :
    Prop where
  /-- What is refused is refused because of a text. -/
  format_of_error : ∀ e, answer = .error e → ∃ fault, e = .format fault
  /-- What is given are the examples that the lines of the problem say. -/
  yields_of_ok : ∀ s, answer = .ok s → tables.Yields problem examples s
  /-- Lines whose numbers fit no machine word are refused. -/
  past_any_line : Nat.pow 2 64 ≤ problem * examples → ∃ fault, answer = .error (.format fault)
  /-- Whatever else the tables hold, and from wherever they are read, the answer is the same. -/
  run_eq : ∀ {m : Type → Type} [Monad m] [LawfulMonad m] {read : ReadFile m} {directory : String}
    {tables' : Tables}, tables'.AreIn read directory → tables.AgreeAt tables' problem examples →
      (loadExamples read directory problem examples).run = pure answer

end Tables

/-- **Loading is well formed and local.** Where the tables can be read there is an answer, and it is
owed to the lines of the problem alone. -/
theorem exists_loadExamples_answers {m : Type → Type} [Monad m] [LawfulMonad m]
    {read : ReadFile m} {directory : String} {tables : Tables} (hin : tables.AreIn read directory)
    (problem : Nat) {examples : Nat} (hexamples : 1 ≤ examples) :
    ∃ answer, (loadExamples read directory problem examples).run = pure answer ∧
      tables.Answers problem examples answer := by
  refine ⟨tables.examplesOf problem examples, hin.run_loadExamples problem examples, ?_⟩
  have hrun : ∀ {m' : Type → Type} [Monad m'] [LawfulMonad m'] {read' : ReadFile m'}
      {directory' : String} {tables' : Tables}, tables'.AreIn read' directory' →
      tables.AgreeAt tables' problem examples →
      (loadExamples read' directory' problem examples).run =
        pure (tables.examplesOf problem examples) := by
    intro m' _ _ read' directory' tables' hin' hagree
    rw [hin'.run_loadExamples, hagree.examplesOf_eq]
  rcases tables.examplesOf_cases problem hexamples with
    ⟨fault, hfault⟩ | ⟨types, inputs, type, targets, hinputs, houtputs, hok⟩
  · refine ⟨fun e he => ?_, fun s hs => ?_, fun _ => ⟨fault, hfault⟩, hrun⟩
    · rw [hfault] at he
      cases he
      exact ⟨fault, rfl⟩
    · rw [hfault] at hs
      cases hs
  · obtain ⟨s, hs, hyields⟩ := Tables.ofStates_of_rowsAt hexamples hinputs houtputs
    rw [hs] at hok
    refine ⟨fun e he => ?_, fun s' hs' => ?_, fun hpast => ?_, hrun⟩
    · rw [hok] at he
      cases he
    · rw [hok] at hs'
      cases hs'
      exact hyields
    · -- rows that are there come from lines that have numbers
      have hnumbered := Nat.lt_of_le_of_lt hinputs.numbered Table.lastNumber_lt
      exact absurd hpast (Nat.not_le.2 hnumbered)

/-- Tables of which only the lines of the second problem can be read. -/
def strayLines : Tables where
  inputTypes := "Float\nArray Int\n"
  inputValues := "?\n|\n1 2 | 3\n\t| -4\r\n"
  outputTypes := "Int Int\nInt\n"
  outputValues := "x\n\n3\n0\n"

theorem strayLines_answers :
    ∃ answer, (loadExamples (strayLines.reader "data") "data" 1 2).run = answer ∧
      strayLines.Answers 1 2 answer ∧
      answer =
        .ok (.fresh [[.array [1, 2], .int 3], [.array [], .int (-4)]] [.int 3, .int 0]) := by
  have hin := strayLines.areIn_reader "data"
  obtain ⟨answer, hrun, hanswers⟩ := exists_loadExamples_answers hin 1 (by decide : 1 ≤ 2)
  have hload : strayLines.examplesOf 1 2 =
      .ok (.fresh [[.array [1, 2], .int 3], [.array [], .int (-4)]] [.int 3, .int 0]) := rfl
  refine ⟨answer, hrun, hanswers, ?_⟩
  exact (hrun.symm.trans (hin.run_loadExamples 1 2)).trans hload

end DataDirectory

end ProgramSearch

/-
# ProgramSearch.Proofs.Zeros -- entries of probability zero

A component that a prior does not mention has probability zero, so an entry that gives zero to a
component which has none says nothing new, and ranking comes to the same with it and without. That
holds of a zero without a sign. A zero with a minus sign is read as negative zero: the same number,
and a probability too, but in the total order of doubles it stands below zero. So operators whose
score it becomes sink below all others, those with score zero among them that ties would have left
in catalog order.
-/

import ProgramSearch.Proofs.Ranking

namespace ProgramSearch

/-! ## The two zeros -/

namespace Binary64

/-- Negative zero. -/
def negativeZero : Binary64 := ⟨true, 0⟩

theorem magnitude_eq_zero_iff {code : Nat} : magnitude code = 0 ↔ code = 0 :=
  magnitude_strictMono.injective.eq_iff' magnitude_zero

/-- Two doubles stand for zero. -/
theorem value_eq_zero_iff {x : Binary64} : x.value = 0 ↔ x = zero ∨ x = negativeZero := by
  obtain ⟨negative, code⟩ := x
  have hvalue : (⟨negative, code⟩ : Binary64).value = 0 ↔ code = 0 := by
    rw [← magnitude_eq_zero_iff]
    cases negative with
    | false => exact Iff.rfl
    | true => exact neg_eq_zero
  rw [hvalue]
  cases negative <;> simp [zero, negativeZero]

theorem negative_ofDecimal (digits : Nat) (exponent : Int) :
    (ofDecimal digits exponent).negative = false := by
  unfold ofDecimal
  repeat' split
  all_goals rfl

theorem exists_ofDecimal_of_decimal? {cs : List Char} {x : Binary64} (h : decimal? cs = some x) :
    ∃ digits exponent, x = ofDecimal digits exponent := by
  unfold decimal? at h
  dsimp only at h
  -- with a point among the digits and without
  split at h
  all_goals
    split at h
    · cases h
    · obtain ⟨e, -, rfl⟩ := Option.map_eq_some_iff.1 h
      exact ⟨_, _, rfl⟩

theorem negative_of_magnitude? {cs : List Char} {x : Binary64} (h : magnitude? cs = some x) :
    x.negative = false := by
  simp only [magnitude?] at h
  split at h
  · cases h
    rfl
  · split at h
    · cases h
      rfl
    · obtain ⟨digits, exponent, rfl⟩ := exists_ofDecimal_of_decimal? h
      exact negative_ofDecimal digits exponent

/-- Only what begins with a minus sign is read as a negative double. -/
theorem negative_of_ofText? {cs : List Char} {x : Binary64} (h : ofText? cs = some x)
    (hsign : cs.head? ≠ some '-') : x.negative = false := by
  unfold ofText? at h
  split at h
  · exact absurd rfl hsign
  · exact negative_of_magnitude? h
  · exact negative_of_magnitude? h

/-! ## Zeros that sink -/

/-- A double is left as it is, or it was zero and has become negative zero. -/
def Sinks (x y : Binary64) : Prop := y = x ∨ x = zero ∧ y = negativeZero

namespace Sinks

variable {x y x' y' : Binary64}

theorem rank_eq (h : Sinks x x') : x'.rank = x.rank := by
  rcases h with rfl | ⟨rfl, rfl⟩ <;> rfl

theorem value_eq (h : Sinks x x') : x'.value = x.value := by
  refine le_antisymm ?_ ?_
  · exact value_le_value_iff.2 h.rank_eq.le
  · exact value_le_value_iff.2 h.rank_eq.ge

/-- What is left as it is unless it becomes negative zero. -/
theorem eq_of_ne (h : Sinks x x') (hne : x' ≠ negativeZero) : x' = x :=
  h.resolve_right fun hsunk => hne hsunk.2

/-- The lesser one stands in the same place. -/
theorem min (hx : Sinks x x') (hy : Sinks y y') : Sinks (x.min y) (x'.min y') := by
  unfold Binary64.min
  rw [hx.rank_eq, hy.rank_eq]
  split
  · exact hx
  · exact hy

theorem foldl_min {α : Type} {f g : α → Binary64} (h : ∀ a, Sinks (f a) (g a)) (xs : List α)
    (hx : Sinks x x') :
    Sinks ((xs.map f).foldl Binary64.min x) ((xs.map g).foldl Binary64.min x') := by
  induction xs generalizing x x' with
  | nil => exact hx
  | cons a xs ih => exact ih (hx.min (h a))

end Sinks

/-- Negative zero stands below every number that is not negative. -/
theorem totalRank_negativeZero_le {x : Binary64} (h : 0 ≤ x.value) :
    negativeZero.totalRank ≤ x.totalRank := by
  rw [← value_zero, value_le_value_iff] at h
  obtain ⟨negative, code⟩ := x
  cases negative
  · show (-1 : Int) ≤ code
    omega
  · show (-1 : Int) ≤ -code - 1
    have hcode : (0 : Int) ≤ -code := h
    omega

end Binary64

/-! ## Words behind a text -/

namespace Text

/-- A text with more lines behind it; a last line without a line end gets one. -/
def continued (text added : String) : String :=
  if text.toList.getLastD '\n' = '\n' then text ++ added else text ++ "\n" ++ added

theorem tokens_eq (text : String) :
    tokens text = (wordChars [] text.toList).map String.ofList :=
  map_text_words ⟨1, text.toList⟩

theorem wordChars_append_newline (cs ds : List Char) :
    wordChars [] (cs ++ '\n' :: ds) = wordChars [] cs ++ wordChars [] ds :=
  wordChars_append_blank (by decide) [] cs ds

/-- The words of both stand one after the other. -/
theorem tokens_continued (text added : String) :
    tokens (continued text added) = tokens text ++ tokens added := by
  have hwords : wordChars [] (continued text added).toList =
      wordChars [] text.toList ++ wordChars [] added.toList := by
    unfold continued
    split
    next hend =>
      rw [String.toList_append]
      rcases List.eq_nil_or_concat' text.toList with hnil | ⟨cs, c, hcs⟩
      · rw [hnil]
        rfl
      · rw [hcs, List.getLastD_concat] at hend
        rw [hcs, hend, List.append_assoc, List.singleton_append, wordChars_append_newline,
          wordChars_append_newline, wordChars_nil]
        simp
    next =>
      rw [String.toList_append, String.toList_append, List.append_assoc]
      exact wordChars_append_newline text.toList added.toList
  rw [tokens_eq, tokens_eq, tokens_eq, hwords, List.map_append]

end Text

namespace Prior

open Text (tokens continued)

/-- Reading on from the prior that was read so far. -/
theorem ofTokens_append {prior q : Prior} {ts : List String} (h : ofTokens prior ts = some q)
    (us : List String) : ofTokens prior (ts ++ us) = ofTokens q us := by
  fun_induction ofTokens prior ts with
  | case1 prior =>
    cases h
    rfl
  | case2 prior t => cases h
  | case3 prior t name rest ih =>
    obtain ⟨p, hp, hq⟩ := Option.bind_eq_some_iff.1 h
    rw [List.cons_append, List.cons_append, ofTokens, hp, Option.bind_some]
    exact ih p hq

/-! ## Entries of probability zero -/

/-- The words of a text are spellings of zero, each with a name after it. -/
structure ZeroEntries (text : String) : Prop where
  even : Even (tokens text).length
  zero : ∀ i t, (tokens text)[2 * i]? = some t →
    ∃ p, Binary64.ofText? t.toList = some p ∧ p.value = 0

/-- No number in a text has a minus sign. -/
def Signless (text : String) : Prop :=
  ∀ i t, (tokens text)[2 * i]? = some t → t.toList.head? ≠ some '-'

variable {text added : String} {prior prior' : Prior}

theorem ZeroEntries.denotes (hzeros : ZeroEntries added) {i : Nat} {t : String}
    (ht : (tokens added)[2 * i]? = some t) : ∃ p, Denotes t p ∧ p.value = 0 := by
  obtain ⟨p, hread, hvalue⟩ := hzeros.zero i t ht
  have hprobability : p.isProbability = true := by
    rcases Binary64.value_eq_zero_iff.1 hvalue with rfl | rfl <;> decide
  exact ⟨p, filter_isProbability_eq_some_iff.1 (by rw [hread]; simp [hprobability]), hvalue⟩

/-- Behind a text that is a prior they make a prior again. -/
theorem ZeroEntries.exists_ofText (hzeros : ZeroEntries added) (h : ofText text = .ok prior) :
    ∃ prior', ofText (continued text added) = .ok prior' ∧
      ofTokens prior (tokens added) = some prior' := by
  have hall : AllDenote (tokens added) := by
    intro i t ht
    obtain ⟨p, hp, -⟩ := hzeros.denotes ht
    exact ⟨p, hp⟩
  obtain ⟨prior', hprior'⟩ := exists_ofTokens_iff.2 ⟨hzeros.even, hall⟩
  refine ⟨prior', ?_, hprior'⟩
  rw [ofText_eq_ok_iff, Text.tokens_continued, ofTokens_append (ofText_eq_ok_iff.1 h), hprior']

/-- What comes later says something of a component that had no entry before, or nothing. -/
theorem get_of_ofTokens {ts : List String} (h : ofTokens prior ts = some prior') (name : String) :
    prior'.get name = prior.get name ∨
      prior.get name = .zero ∧ FirstSays ts name (prior'.get name) := by
  have hlookup := lookup_of_ofTokens h name
  unfold get
  cases hbefore : prior.entries.lookup name with
  | some p =>
    rw [(hlookup p).2 (.inl hbefore)]
    exact .inl rfl
  | none =>
    cases hafter : prior'.entries.lookup name with
    | none => exact .inl rfl
    | some p =>
      obtain hsome | ⟨-, hsays⟩ := (hlookup p).1 hafter
      · rw [hbefore] at hsome
        cases hsome
      · exact .inr ⟨rfl, hsays⟩

theorem ZeroEntries.sinks_get (hzeros : ZeroEntries added)
    (h : ofTokens prior (tokens added) = some prior') (name : String) :
    Binary64.Sinks (prior.get name) (prior'.get name) := by
  obtain hsame | ⟨hzero, k, t, -, -, ht, hdenotes⟩ := get_of_ofTokens h name
  · exact .inl hsame
  · obtain ⟨p, hp, hvalue⟩ := hzeros.denotes ht
    rw [hp.unique hdenotes] at hvalue
    rcases Binary64.value_eq_zero_iff.1 hvalue with heq | heq
    · exact .inl (heq.trans hzero.symm)
    · exact .inr ⟨hzero, heq⟩

/-- Zeros without a sign leave what a prior says of a component. -/
theorem ZeroEntries.get_eq (hzeros : ZeroEntries added) (hsignless : Signless added)
    (h : ofTokens prior (tokens added) = some prior') (name : String) :
    prior'.get name = prior.get name := by
  obtain hsame | ⟨-, k, t, -, -, ht, hdenotes⟩ := get_of_ofTokens h name
  · exact hsame
  · refine (hzeros.sinks_get h name).eq_of_ne fun heq => ?_
    have hnegative := Binary64.negative_of_ofText? hdenotes.read (hsignless k t ht)
    rw [heq] at hnegative
    cases hnegative

/-! ## Ranks -/

/-- Whether the score of an operator is negative zero. -/
def isSunk (prior : Prior) (op : Operator) : Bool := prior.score op = .negativeZero

theorem isSunk_iff {op : Operator} : prior.isSunk op = true ↔ prior.score op = .negativeZero :=
  decide_eq_true_iff

/-- Operators in some order, and those of them whose score is negative zero behind the others in the
order that they have in a catalog. -/
def sunk (prior : Prior) (ordered catalog : List Operator) : List Operator :=
  ordered.filter (!prior.isSunk ·) ++ catalog.filter prior.isSunk

/-- Operators of one score are not torn apart. -/
theorem filter_sunk {ops ordered : List Operator} (score : Binary64)
    (h : score ≠ .negativeZero →
      ordered.filter (prior.score · = score) = ops.filter (prior.score · = score)) :
    (prior.sunk ordered ops).filter (prior.score · = score) =
      ops.filter (prior.score · = score) := by
  rw [sunk, List.filter_append, List.filter_filter, List.filter_filter]
  by_cases hzero : score = .negativeZero
  · have hfront : ordered.filter (fun op => prior.score op = score && !prior.isSunk op) = [] :=
      List.filter_eq_nil_iff.2 fun op _ => by simp [isSunk, hzero]
    have hback : (fun op => decide (prior.score op = score) && prior.isSunk op) =
        (prior.score · = score) := by
      funext op
      rw [isSunk, hzero, Bool.and_self]
    rw [hfront, hback, List.nil_append]
  · have hfront : (fun op => decide (prior.score op = score) && !prior.isSunk op) =
        (prior.score · = score) := by
      funext op
      by_cases hop : prior.score op = score <;> simp [isSunk, hop, hzero]
    have hback : ops.filter (fun op => prior.score op = score && prior.isSunk op) = [] := by
      refine List.filter_eq_nil_iff.2 fun op _ => ?_
      by_cases hop : prior.score op = score <;> simp [isSunk, hop, hzero]
    rw [hfront, hback, List.append_nil, h hzero]

/-- Where some scores sink, operators that were arranged are arranged again once those whose score
is negative zero go behind the others. -/
theorem Arranges.sink {ops arranged : List Operator} (h : prior.Arranges ops arranged)
    (hsinks : ∀ op, Binary64.Sinks (prior.score op) (prior'.score op))
    (hnonneg : ∀ op, 0 ≤ (prior'.score op).value) :
    prior'.Arranges ops (prior'.sunk arranged ops) := by
  have hscore : ∀ op, prior'.score op ≠ .negativeZero → prior'.score op = prior.score op :=
    fun op hop => (hsinks op).eq_of_ne hop
  have hfront : ∀ op ∈ arranged.filter (!prior'.isSunk ·), prior'.score op = prior.score op :=
    fun op hop => hscore op (by simpa [isSunk] using (List.mem_filter.1 hop).2)
  have hback : ∀ op ∈ ops.filter prior'.isSunk, prior'.score op = .negativeZero :=
    fun op hop => isSunk_iff.1 (List.mem_filter.1 hop).2
  refine ⟨?_, List.pairwise_append.2 ⟨?_, ?_, ?_⟩, fun score => filter_sunk score fun hne => ?_⟩
  · have hparts := List.filter_append_perm prior'.isSunk ops
    exact ((h.perm.filter _).append_right _).trans (List.perm_append_comm.trans hparts)
  · refine (h.descending.filter _).imp_of_mem fun hx hy hle => ?_
    rw [hfront _ hx, hfront _ hy]
    exact hle
  · refine List.pairwise_of_forall_mem_list fun x hx y hy => ?_
    rw [hback x hx, hback y hy]
  · intro x _ y hy
    rw [hback y hy]
    exact Binary64.totalRank_negativeZero_le (hnonneg x)
  · -- of the operators that had the score, those have it whose score has not sunk
    have hfilter : ∀ xs : List Operator, xs.filter (prior'.score · = score) =
        (xs.filter (prior.score · = score)).filter (!prior'.isSunk ·) := by
      intro xs
      rw [List.filter_filter]
      refine List.filter_congr fun op _ => ?_
      by_cases hop : prior'.score op = .negativeZero
      · simp [isSunk, hop, Ne.symm hne]
      · have hsunk : prior'.isSunk op = false := decide_eq_false hop
        simp [hsunk, hscore op hop]
    rw [hfilter, hfilter, h.stable]

theorem ZeroEntries.sinks_score (hzeros : ZeroEntries added)
    (h : ofTokens prior (tokens added) = some prior') (op : Operator) :
    Binary64.Sinks (prior.score op) (prior'.score op) :=
  .foldl_min (hzeros.sinks_get h) op.components (.inl rfl)

theorem ZeroEntries.score_eq (hzeros : ZeroEntries added) (hsignless : Signless added)
    (h : ofTokens prior (tokens added) = some prior') : prior'.score = prior.score := by
  funext op
  rw [score, score, List.map_congr_left fun c _ => hzeros.get_eq hsignless h c]

end Prior

namespace Catalog

open Prior (ZeroEntries Signless)
open Text (tokens continued)

variable {catalog : Catalog} {prior prior' : Prior}

/-- Where an arrangement is known, ranking comes to it. -/
theorem operators_ranked_of_arranges {arranged : List Operator}
    (h : prior.Arranges catalog.operators arranged) :
    (catalog.ranked prior none).operators = arranged := by
  rw [operators_ranked]
  exact List.take_length.trans ((prior.arranges_mergeSort catalog.operators).unique h)

/-- Ranking looks at the scores only. -/
theorem ranked_congr (h : prior'.score = prior.score) (catalog : Catalog) (cutoff : Option Nat) :
    catalog.ranked prior' cutoff = catalog.ranked prior cutoff := by
  rw [ranked, ranked, scored, scored, h]

/-- **A probability of zero without a sign means the same as no entry.** Lines with entries of
probability zero behind a text that is a prior make a prior again, with scores of the same numbers.
Without signs it ranks every catalog alike. With them it does so too, but for operators whose score
is negative zero, which go behind all others in catalog order. -/
theorem ranked_of_zeroEntries {text added : String} (h : Prior.ofText text = .ok prior)
    (hzeros : ZeroEntries added) :
    ∃ prior', Prior.ofText (continued text added) = .ok prior' ∧
      (∀ op, (prior'.score op).value = (prior.score op).value) ∧
      (Signless added → ∀ (catalog : Catalog) cutoff,
        catalog.ranked prior' cutoff = catalog.ranked prior cutoff) ∧
      ∀ (catalog : Catalog) cutoff, catalog.ranked prior' cutoff =
        truncated ⟨prior'.sunk (catalog.ranked prior none).operators catalog.operators⟩ cutoff := by
  obtain ⟨prior', hprior', htokens⟩ := hzeros.exists_ofText h
  refine ⟨prior', hprior', fun op => (hzeros.sinks_score htokens op).value_eq,
    fun hsignless => ranked_congr (hzeros.score_eq hsignless htokens), fun catalog cutoff => ?_⟩
  have harranges := prior.arranges_mergeSort catalog.operators
  have hsink := harranges.sink (hzeros.sinks_score htokens)
    fun op => (Prior.scores_score hprior' op).nonneg
  rw [operators_ranked_of_arranges harranges, ← operators_ranked_of_arranges hsink]
  rfl

/-- A prior with one entry. -/
def halfHead : Prior := ⟨[("HEAD", ⟨false, 4602678819172646912⟩)], by decide⟩

/-- Zeros of three spellings, the last one too small for any other double. -/
def threeZeros : String := "+0e7 SORT\n.0 LAST 1e-400 MAP"

theorem ranked_of_threeZeros : ∃ prior',
    Prior.ofText "0.5 HEAD" = .ok halfHead ∧ ZeroEntries threeZeros ∧ Signless threeZeros ∧
      Prior.ofText (continued "0.5 HEAD" threeZeros) = .ok prior' ∧
      ∀ (catalog : Catalog) cutoff,
        catalog.ranked prior' cutoff = catalog.ranked halfHead cutoff := by
  have h : Prior.ofText "0.5 HEAD" = .ok halfHead := by decide +kernel
  have htokens : tokens threeZeros = ["+0e7", "SORT", ".0", "LAST", "1e-400", "MAP"] := by
    decide +kernel
  have hzeros : ZeroEntries threeZeros := by
    refine ⟨by rw [htokens]; decide, fun i t ht => ⟨.zero, ?_, Binary64.value_zero⟩⟩
    rw [htokens] at ht
    obtain _ | _ | _ | i := i <;> cases ht <;> decide +kernel
  have hsignless : Signless threeZeros := by
    intro i t ht
    rw [htokens] at ht
    obtain _ | _ | _ | i := i <;> cases ht <;> decide +kernel
  obtain ⟨prior', hprior', -, hranked, -⟩ := ranked_of_zeroEntries h hzeros
  exact ⟨prior', h, hzeros, hsignless, hprior', hranked hsignless⟩

/-- An entry of negative zero is not without effect: its operator goes behind one without an entry
that stood after it. -/
theorem not_ranked_of_negativeZero :
    ¬ ∀ (text added : String) (prior prior' : Prior), Prior.ofText text = .ok prior →
      ZeroEntries added →
      (∀ (k : Nat) (name : String), (tokens added)[2 * k + 1]? = some name →
        prior.entries.lookup name = none) →
      Prior.ofText (continued text added) = .ok prior' →
      ∀ (catalog : Catalog) (cutoff : Option Nat),
        catalog.ranked prior' cutoff = catalog.ranked prior cutoff := by
  intro hclaim
  have htokens : tokens "-0 SORT" = ["-0", "SORT"] := by decide +kernel
  have hzeros : ZeroEntries "-0 SORT" := by
    refine ⟨by rw [htokens]; decide, fun i t ht => ⟨.negativeZero, ?_, ?_⟩⟩
    · rw [htokens] at ht
      obtain _ | i := i <;> cases ht
      decide +kernel
    · exact Binary64.value_eq_zero_iff.2 (.inr rfl)
  have hsame := hclaim "0.5 HEAD" "-0 SORT" halfHead (halfHead.add "SORT" .negativeZero)
    (by decide +kernel) hzeros
    (fun k name hname => by
      rw [htokens] at hname
      obtain _ | k := k <;> cases hname
      rfl)
    (by decide +kernel) ⟨[.sort, .reverse]⟩ none
  have hbefore : (ranked ⟨[.sort, .reverse]⟩ halfHead none).operators = [.sort, .reverse] :=
    operators_ranked_of_arranges (by decide +kernel)
  have hafter : (ranked ⟨[.sort, .reverse]⟩ (halfHead.add "SORT" .negativeZero) none).operators =
      [.reverse, .sort] := operators_ranked_of_arranges (by decide +kernel)
  rw [hsame, hbefore] at hafter
  cases hafter

end Catalog

end ProgramSearch

/-
# ProgramSearch.Proofs.Loading.Priors -- priors are streams of words

A prior is read from the words of a text in pairs, a probability and a name. Whether there is a
prior and which one depends on the words alone, not on how they are broken into lines: all of the
first words of pairs must be probabilities and none may be left without a name, and a name has the
probability of the first pair it stands in. What is told of a text that is no prior is the first of
its words that should be a probability and is none, or else that the last one has no name.
-/

import Mathlib.Algebra.Group.Nat.Even
import ProgramSearch.Prior
import ProgramSearch.Proofs.Loading.Words
import ProgramSearch.Proofs.Magnitude

namespace ProgramSearch.Prior

open Text (Line Word tokens placedTokens)

/-! ## Probabilities -/

/-- A word is read as a double that stands for a number between zero and one. -/
structure Denotes (text : String) (p : Binary64) : Prop where
  read : Binary64.ofText? text.toList = some p
  finite : p.IsFinite
  nonneg : 0 ≤ p.value
  le_one : p.value ≤ 1

/-- What is wrong with a word that denotes no probability. -/
inductive Refused (text : String) : Fault → Prop where
  | unreadable (hread : Binary64.ofText? text.toList = none) :
      Refused text (.invalidProbability text)
  | improbable {p : Binary64} (hread : Binary64.ofText? text.toList = some p)
      (hrange : ¬ (p.IsFinite ∧ 0 ≤ p.value ∧ p.value ≤ 1)) : Refused text (.improbable p)

/-- The error that tells a fault of a word in a line. -/
def errorAt (x : Line × Word) (fault : Fault) : ParseError :=
  ⟨none, x.1.number, some x.2.column, fault, x.1.text⟩

theorem Denotes.unique {text : String} {p q : Binary64} (hp : Denotes text p)
    (hq : Denotes text q) : p = q :=
  Option.some.inj (hp.read.symm.trans hq.read)

theorem probability_eq_ok_iff {line : Line} {word : Word} {p : Binary64} :
    probability line word = .ok p ↔ Denotes word.text p := by
  have hchars : word.text.toList = word.chars := String.toList_ofList
  unfold probability
  cases hread : Binary64.ofText? word.chars with
  | none =>
    refine iff_of_false (by simp [throw, throwThe, MonadExceptOf.throw]) fun h => ?_
    rw [← hchars, h.read] at hread
    cases hread
  | some q =>
    have hdenotes : Denotes word.text p ↔ q.isProbability = true ∧ q = p := by
      rw [Binary64.isProbability_iff]
      constructor
      · intro h
        obtain rfl : q = p := Option.some.inj (by rw [← hread, ← hchars, h.read])
        exact ⟨⟨h.finite, h.nonneg, h.le_one⟩, rfl⟩
      · rintro ⟨⟨hfinite, hnonneg, hle⟩, rfl⟩
        exact ⟨by rw [hchars, hread], hfinite, hnonneg, hle⟩
    rw [hdenotes]
    cases hq : q.isProbability <;>
      simp [hq, pure, Except.pure, throw, throwThe, MonadExceptOf.throw]

theorem probability_eq_error {line : Line} {word : Word} {e : ParseError}
    (h : probability line word = .error e) :
    ∃ fault, Refused word.text fault ∧ e = errorAt (line, word) fault := by
  have hchars : word.text.toList = word.chars := String.toList_ofList
  unfold probability at h
  cases hread : Binary64.ofText? word.chars with
  | none =>
    rw [hread] at h
    cases h
    exact ⟨_, .unreadable (by rw [hchars, hread]), rfl⟩
  | some q =>
    rw [hread] at h
    cases hq : q.isProbability with
    | true =>
      simp only [hq] at h
      cases h
    | false =>
      simp only [hq] at h
      cases h
      refine ⟨_, .improbable (by rw [hchars, hread]) ?_, rfl⟩
      rw [← Binary64.isProbability_iff, hq]
      exact Bool.false_ne_true

/-! ## Words in pairs -/

/-- Every first word of a pair is a probability. -/
def AllDenote (tokens : List String) : Prop :=
  ∀ i t, tokens[2 * i]? = some t → ∃ p, Denotes t p

/-- The first pair with a name says that the name has this probability. -/
def FirstSays (tokens : List String) (name : String) (p : Binary64) : Prop :=
  ∃ k t, tokens[2 * k + 1]? = some name ∧ (∀ j < k, tokens[2 * j + 1]? ≠ some name) ∧
    tokens[2 * k]? = some t ∧ Denotes t p

/-- What holds at every other place of a list holds at the first one and at every other place after
the second one. -/
theorem forall_even_places_cons {α : Type} {P : α → Prop} {x y : α} {xs : List α} :
    (∀ i a, (x :: y :: xs)[2 * i]? = some a → P a) ↔ P x ∧ ∀ i a, xs[2 * i]? = some a → P a := by
  constructor
  · intro h
    exact ⟨h 0 x rfl, fun i a ha => h (i + 1) a ha⟩
  · rintro ⟨hx, hxs⟩ i a ha
    cases i with
    | zero =>
      cases ha
      exact hx
    | succ i => exact hxs i a ha

theorem firstSays_cons {t name name' : String} {rest : List String} {p : Binary64} :
    FirstSays (t :: name' :: rest) name p ↔
      name' = name ∧ Denotes t p ∨ name' ≠ name ∧ FirstSays rest name p := by
  constructor
  · rintro ⟨k, t', hname, hfirst, ht, hp⟩
    cases k with
    | zero =>
      cases hname
      cases ht
      exact .inl ⟨rfl, hp⟩
    | succ k =>
      refine .inr ⟨fun heq => hfirst 0 k.succ_pos (congrArg some heq), k, t', hname, ?_, ht, hp⟩
      exact fun j hj => hfirst (j + 1) (Nat.succ_lt_succ hj)
  · rintro (⟨rfl, hp⟩ | ⟨hne, k, t', hname, hfirst, ht, hp⟩)
    · exact ⟨0, t, rfl, fun j hj => absurd hj (Nat.not_lt_zero j), rfl, hp⟩
    · refine ⟨k + 1, t', hname, fun j hj => ?_, ht, hp⟩
      cases j with
      | zero => exact fun heq => hne (Option.some.inj heq)
      | succ j => exact hfirst j (Nat.lt_of_succ_lt_succ hj)

theorem not_firstSays_nil (name : String) (p : Binary64) : ¬ FirstSays [] name p := by
  rintro ⟨k, t, hname, -⟩
  cases hname

/-! ## Entries -/

/-- A name is among those of some entries if it is found there. -/
theorem isSome_lookup (entries : List (String × Binary64)) (name : String) :
    (entries.lookup name).isSome = entries.any (·.1 == name) := by
  induction entries with
  | nil => rfl
  | cons entry entries ih =>
    obtain ⟨key, p⟩ := entry
    rw [List.any_cons, List.lookup_cons, ← ih]
    by_cases heq : key = name
    · simp [heq]
    · simp [heq, beq_eq_false_iff_ne.2 (Ne.symm heq)]

theorem mem_names_iff (prior : Prior) (name : String) :
    name ∈ prior.entries.map (·.1) ↔ ∃ p, prior.entries.lookup name = some p := by
  rw [← Option.isSome_iff_exists, isSome_lookup, List.any_eq_true, List.mem_map]
  simp only [beq_iff_eq]

/-- A component that a prior has keeps its probability. -/
theorem lookup_add (prior : Prior) (name name' : String) (p : Binary64) :
    (prior.add name' p).entries.lookup name =
      (prior.entries.lookup name).or (if name' = name then some p else none) := by
  unfold add
  split
  next h =>
    rw [← isSome_lookup] at h
    split
    next heq =>
      obtain ⟨q, hq⟩ := Option.isSome_iff_exists.1 h
      rw [← heq, hq]
      rfl
    next => rw [Option.or_none]
  next =>
    rw [List.lookup_append]
    congr 1
    by_cases heq : name' = name
    · simp [heq]
    · simp [heq, List.lookup_cons, beq_eq_false_iff_ne.2 (Ne.symm heq)]

/-! ## Reading words without their places -/

/-- The prior that words denote in pairs, wherever they stand. -/
def ofTokens (prior : Prior) : List String → Option Prior
  | [] => some prior
  | [_] => none
  | t :: name :: rest =>
    ((Binary64.ofText? t.toList).filter (·.isProbability)).bind fun p =>
      ofTokens (prior.add name p) rest

theorem filter_isProbability_eq_some_iff {t : String} {p : Binary64} :
    (Binary64.ofText? t.toList).filter (·.isProbability) = some p ↔ Denotes t p := by
  rw [Option.filter_eq_some_iff, Binary64.isProbability_iff]
  exact ⟨fun h => ⟨h.1, h.2.1, h.2.2.1, h.2.2.2⟩, fun h => ⟨h.read, h.finite, h.nonneg, h.le_one⟩⟩

/-- Where the words stand matters for errors only. -/
theorem toOption_readWords (last : Line) (prior : Prior) (xs : List (Line × Word)) :
    (readWords last prior xs).toOption = ofTokens prior (xs.map (·.2.text)) := by
  fun_induction readWords last prior xs with
  | case1 prior => rfl
  | case2 prior line word =>
    cases probability line word <;> rfl
  | case3 prior line word line' name rest ih =>
    rw [List.map_cons, List.map_cons, ofTokens]
    cases hp : probability line word with
    | error e =>
      have hnone : (Binary64.ofText? word.text.toList).filter (·.isProbability) = none := by
        rw [Option.eq_none_iff_forall_ne_some]
        intro p hsome
        rw [filter_isProbability_eq_some_iff, ← probability_eq_ok_iff, hp] at hsome
        cases hsome
      rw [hnone]
      rfl
    | ok p =>
      rw [filter_isProbability_eq_some_iff.2 (probability_eq_ok_iff.1 hp), Option.bind_some, ← ih p]
      rfl

/-- There is a prior if the words pair up and every first one of a pair is a probability. -/
theorem exists_ofTokens_iff {prior : Prior} {ts : List String} :
    (∃ q, ofTokens prior ts = some q) ↔ Even ts.length ∧ AllDenote ts := by
  fun_induction ofTokens prior ts with
  | case1 prior =>
    refine iff_of_true ⟨prior, rfl⟩ ⟨⟨0, rfl⟩, fun i t ht => ?_⟩
    cases ht
  | case2 prior t =>
    refine iff_of_false (by simp) fun h => ?_
    exact absurd h.1 Nat.not_even_one
  | case3 prior t name rest ih =>
    have heven : Even (t :: name :: rest).length ↔ Even rest.length := by
      rw [List.length_cons, List.length_cons, Nat.even_add_one, Nat.even_add_one, not_not]
    rw [heven, AllDenote, forall_even_places_cons, and_left_comm]
    simp only [Option.bind_eq_some_iff, filter_isProbability_eq_some_iff]
    constructor
    · rintro ⟨q, p, hp, hq⟩
      exact ⟨⟨p, hp⟩, (ih p).1 ⟨q, hq⟩⟩
    · rintro ⟨⟨p, hp⟩, hrest⟩
      obtain ⟨q, hq⟩ := (ih p).2 hrest
      exact ⟨q, p, hp, hq⟩

/-- What the prior had before counts, and for other names the first pair they stand in. -/
theorem lookup_of_ofTokens {prior q : Prior} {ts : List String} (h : ofTokens prior ts = some q)
    (name : String) (p : Binary64) :
    q.entries.lookup name = some p ↔
      prior.entries.lookup name = some p ∨
        prior.entries.lookup name = none ∧ FirstSays ts name p := by
  fun_induction ofTokens prior ts with
  | case1 prior =>
    cases h
    simp [not_firstSays_nil]
  | case2 prior t => cases h
  | case3 prior t name' rest ih =>
    obtain ⟨p', hp', hq⟩ := Option.bind_eq_some_iff.1 h
    rw [filter_isProbability_eq_some_iff] at hp'
    rw [ih p' hq, lookup_add, firstSays_cons]
    cases prior.entries.lookup name with
    | some q' => simp
    | none =>
      by_cases hname : name' = name
      · have hiff : Denotes t p ↔ p' = p :=
          ⟨fun hp => hp'.unique hp, fun heq => heq ▸ hp'⟩
        simp [hname, hiff]
      · simp [hname]

/-! ## What is told of a text that is no prior -/

/-- The first word that should be a probability and is none is told, with what is wrong with it, or
else that the last word has no name. -/
inductive Tells (xs : List (Line × Word)) : ParseError → Prop where
  | probability {i : Nat} {x : Line × Word} {fault : Fault} (hx : xs[2 * i]? = some x)
      (hrefused : Refused x.2.text fault)
      (hfirst : ∀ j < i, ∀ y, xs[2 * j]? = some y → ∃ p, Denotes y.2.text p) :
      Tells xs (errorAt x fault)
  | dangling {x : Line × Word} {p : Binary64} {e : ParseError} (hodd : ¬ Even xs.length)
      (hall : ∀ i y, xs[2 * i]? = some y → ∃ p, Denotes y.2.text p)
      (hlast : xs.getLast? = some x) (hp : Denotes x.2.text p)
      (hfault : e.fault = .danglingProbability p) (hcolumn : e.column = none) : Tells xs e

theorem Tells.cons {x y : Line × Word} {xs : List (Line × Word)} {e : ParseError}
    (hx : ∃ p, Denotes x.2.text p) (h : Tells xs e) : Tells (x :: y :: xs) e := by
  cases h with
  | @probability i z fault hz hrefused hfirst =>
    refine .probability (i := i + 1) hz hrefused fun j hj w hw => ?_
    cases j with
    | zero =>
      cases hw
      exact hx
    | succ j => exact hfirst j (Nat.lt_of_succ_lt_succ hj) w hw
  | dangling hodd hall hlast hp hfault hcolumn =>
    refine .dangling ?_ (forall_even_places_cons.2 ⟨hx, hall⟩) ?_ hp hfault hcolumn
    · rwa [List.length_cons, List.length_cons, Nat.even_add_one, Nat.even_add_one, not_not]
    · rw [List.getLast?_cons, List.getLast?_cons, hlast]
      rfl

theorem tells_of_readWords {last : Line} {prior : Prior} {xs : List (Line × Word)} {e : ParseError}
    (h : readWords last prior xs = .error e) : Tells xs e := by
  fun_induction readWords last prior xs with
  | case1 prior => cases h
  | case2 prior line word =>
    cases hp : probability line word with
    | error e' =>
      rw [hp] at h
      cases h
      obtain ⟨fault, hrefused, rfl⟩ := probability_eq_error hp
      exact .probability (i := 0) rfl hrefused fun j hj => absurd hj (Nat.not_lt_zero j)
    | ok p =>
      rw [hp] at h
      cases h
      have hdenotes := probability_eq_ok_iff.1 hp
      refine .dangling Nat.not_even_one (fun i y hy => ?_) rfl hdenotes rfl rfl
      cases i with
      | zero =>
        cases hy
        exact ⟨p, hdenotes⟩
      | succ i => cases hy
  | case3 prior line word line' name rest ih =>
    cases hp : probability line word with
    | error e' =>
      rw [hp] at h
      cases h
      obtain ⟨fault, hrefused, rfl⟩ := probability_eq_error hp
      exact .probability (i := 0) rfl hrefused fun j hj => absurd hj (Nat.not_lt_zero j)
    | ok p =>
      rw [hp] at h
      exact (ih p h).cons ⟨p, probability_eq_ok_iff.1 hp⟩

/-! ## Texts -/

/-- An answer to a text that is owed to its words. -/
structure OwedToTokens (text : String) (answer : Except ParseError Prior) : Prop where
  /-- There is a prior if the words pair up and every first one of a pair is a probability. -/
  exists_iff : (∃ prior, answer = .ok prior) ↔ Even (tokens text).length ∧ AllDenote (tokens text)
  /-- No name has two entries. -/
  nodup : ∀ prior, answer = .ok prior → (prior.entries.map (·.1)).Nodup
  /-- The names are the second words of pairs. -/
  names : ∀ prior, answer = .ok prior → ∀ name,
    name ∈ prior.entries.map (·.1) ↔ ∃ k, (tokens text)[2 * k + 1]? = some name
  /-- Each of them has the probability that the first pair says. -/
  first : ∀ prior, answer = .ok prior → ∀ name p,
    prior.entries.lookup name = some p ↔ FirstSays (tokens text) name p
  /-- A text with the same words has the same prior, or none either. -/
  layout : ∀ text', tokens text' = tokens text → (ofText text').toOption = answer.toOption
  /-- Otherwise the first word that is wrong is told. -/
  tells : ∀ e, answer = .error e → Tells (placedTokens text) e

theorem toOption_ofText (text : String) :
    (ofText text).toOption = ofTokens empty (tokens text) := by
  rw [← Text.map_placedTokens, ← toOption_readWords]
  rfl

theorem ofText_eq_ok_iff {text : String} {prior : Prior} :
    ofText text = .ok prior ↔ ofTokens empty (tokens text) = some prior := by
  rw [← toOption_ofText]
  cases ofText text <;> simp [Except.toOption]

theorem lookup_of_ofText {text : String} {prior : Prior} (h : ofText text = .ok prior)
    (name : String) (p : Binary64) :
    prior.entries.lookup name = some p ↔ FirstSays (tokens text) name p := by
  rw [lookup_of_ofTokens (ofText_eq_ok_iff.1 h)]
  show none = some p ∨ none = none ∧ _ ↔ _
  simp

/-- The second words of pairs are names that some first pair says something of. -/
theorem exists_firstSays_iff {ts : List String} (hall : AllDenote ts) (name : String) :
    (∃ p, FirstSays ts name p) ↔ ∃ k, ts[2 * k + 1]? = some name := by
  classical
  constructor
  · rintro ⟨p, k, t, hname, -⟩
    exact ⟨k, hname⟩
  · intro h
    have hname := Nat.find_spec h
    have hlt := (List.getElem?_eq_some_iff.1 hname).1
    have hpair : 2 * Nat.find h < ts.length := by omega
    obtain ⟨p, hp⟩ := hall (Nat.find h) _ (List.getElem?_eq_getElem hpair)
    exact ⟨p, Nat.find h, _, hname, fun j hj => Nat.find_min h hj, List.getElem?_eq_getElem hpair,
      hp⟩

/-- **Priors are streams of words.** What is read from a text is owed to its words. -/
theorem ofText_owedToTokens (text : String) : OwedToTokens text (ofText text) := by
  have hexists : (∃ prior, ofText text = .ok prior) ↔
      Even (tokens text).length ∧ AllDenote (tokens text) := by
    simp only [ofText_eq_ok_iff, exists_ofTokens_iff]
  refine ⟨hexists, fun prior _ => prior.nodup, fun prior h name => ?_,
    fun prior h => lookup_of_ofText h, fun text' h => ?_, fun e h => ?_⟩
  · have hall := (hexists.1 ⟨prior, h⟩).2
    simp only [mem_names_iff, lookup_of_ofText h, exists_firstSays_iff hall]
  · rw [toOption_ofText, toOption_ofText, h]
  · exact tells_of_readWords h

end ProgramSearch.Prior

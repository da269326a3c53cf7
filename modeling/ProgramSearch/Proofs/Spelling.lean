/-
# ProgramSearch.Proofs.Spelling -- the texts that name a source of the order

A source is named by a word, or by a word with a numeral after a colon, in any letter case. Case is
taken off by the lowercase of Unicode, of which the names see nothing: a letter outside ASCII stays
outside it, save the Kelvin sign, whose lowercase is a k, and no name has a k. So the texts that
name a source are those that spell it once ASCII letters are in lowercase, and no others; the text
that a source is shown with is among them.
-/

import Mathlib.Data.List.TakeDrop
import ProgramSearch.OrderSource
import ProgramSearch.Proofs.Loading.Grammar

namespace ProgramSearch

/-! ## Letter case -/

namespace Text

/-- Whether a character is in ASCII, is its own lowercase, and is that of nothing outside ASCII. -/
def isPlain (c : Char) : Bool := c.toNat < 128 && !c.isUpper && c != 'k'

/-- In ASCII the two notions of lowercase are one. -/
theorem lowerChar_of_lt {c : Char} (h : c.toNat < 128) : lowerChar c = [c.toLower] := by
  have hall : (List.range 128).all fun n =>
      lowerChar (Char.ofNat n) == [(Char.ofNat n).toLower] := by decide +kernel
  have hc := List.all_eq_true.1 hall c.toNat (List.mem_range.2 h)
  rw [Char.ofNat_toNat, beq_iff_eq] at hc
  exact hc

theorem toLower_of_not_isUpper {c : Char} (h : c.isUpper = false) : c.toLower = c :=
  dif_neg (of_decide_eq_false h)

/-- Apart from the letters of ASCII and the Kelvin sign, every capital of the table has a lowercase
outside ASCII. -/
theorem lower?_of_mem {run : CaseRun} (hrun : run ∈ capitals) {code code' : Nat}
    (h : run.lower? code = some code') (hcode : 128 ≤ code) :
    code' = 'k'.toNat ∨ 128 ≤ code' ∧ code'.isValidChar := by
  -- a run leads to code points between the lowercase of its first and that of its last one
  have hall : capitals.all fun run =>
      run.last < 128 || run.first + run.shift = 'k'.toNat && run.last = run.first ||
        128 ≤ run.first + run.shift &&
          (run.last + run.shift < 0xD800 ||
            0xDFFF < run.first + run.shift && run.last + run.shift < 0x110000) := by decide
  have hbounds := List.all_eq_true.1 hall run hrun
  unfold CaseRun.lower? at h
  split at h
  next hin =>
    simp only [Bool.and_eq_true, decide_eq_true_eq] at hin
    simp only [Bool.or_eq_true, Bool.and_eq_true, decide_eq_true_eq] at hbounds
    obtain rfl := Option.some.inj h
    show _ ∨ _ ∧ (_ ∨ _)
    omega
  next => cases h

/-- A character outside ASCII leaves its mark in lowercase. -/
theorem any_lowerChar {c : Char} (h : 128 ≤ c.toNat) : (lowerChar c).any (!isPlain ·) = true := by
  unfold lowerChar
  split
  next => decide
  next =>
    split
    next code hcode =>
      obtain ⟨run, hrun, hlower⟩ := List.exists_of_findSome?_eq_some hcode
      rw [List.any_cons, Bool.or_eq_true]
      left
      obtain rfl | ⟨hlow, hvalid⟩ := lower?_of_mem hrun hlower h
      · rfl
      · have hcode : (Char.ofNat code).toNat = code := by rw [Char.ofNat, dif_pos hvalid]; rfl
        simp [isPlain, hcode, Nat.not_lt.2 hlow]
    next => simp [isPlain, Nat.not_lt.2 h]

/-- What is plain in lowercase is what it is after ASCII letters alone are put in lowercase. -/
theorem lowerAfter_eq_iff {ds : List Char} (hds : ds.all isPlain = true) (before cs : List Char) :
    lowerAfter before cs = ds ↔ cs.map Char.toLower = ds := by
  induction cs generalizing before ds with
  | nil => rfl
  | cons c cs ih =>
    by_cases hc : c.toNat < 128
    · have hsigma : c ≠ 'Σ' := by
        rintro rfl
        exact absurd hc (by decide)
      rw [lowerAfter, if_neg hsigma, lowerChar_of_lt hc, List.map_cons]
      cases ds with
      | nil => simp
      | cons d ds =>
        rw [List.all_cons, Bool.and_eq_true] at hds
        show c.toLower :: lowerAfter (c :: before) cs = d :: ds ↔ _
        rw [List.cons.injEq, List.cons.injEq, ih hds.2]
    · -- neither side can be plain: the one for its lowercase, the other for `c` itself
      have hmark : ¬ ds.any (!isPlain ·) = true := by simpa using hds
      refine iff_of_false (fun h => hmark ?_) (fun h => hmark ?_)
      · have hlow := any_lowerChar (Nat.not_lt.1 hc)
        rw [← h, lowerAfter, List.any_append, Bool.or_eq_true]
        left
        split
        next => split <;> decide
        next => exact hlow
      · have hupper : c.isUpper = false := by
          refine decide_eq_false ?_
          rintro ⟨-, hz⟩
          exact hc (Nat.lt_of_le_of_lt (UInt32.le_iff_toNat_le.1 hz) (by decide))
        rw [← h, List.map_cons, List.any_cons, toLower_of_not_isUpper hupper, Bool.or_eq_true]
        left
        simp [isPlain, hc]

theorem toList_toLower (s : String) : s.toLower.toList = s.toList.map Char.toLower :=
  String.toList_map

theorem toLower_eq {t : String} (ht : t.toList.all isPlain = true) : t.toLower = t := by
  rw [← String.toList_inj, toList_toLower]
  refine (List.map_congr_left fun c hc => ?_).trans (List.map_id t.toList)
  have hplain := List.all_eq_true.1 ht c hc
  simp only [isPlain, Bool.and_eq_true, Bool.not_eq_true'] at hplain
  exact toLower_of_not_isUpper hplain.1.2

theorem lowercase_eq_iff {s t : String} (ht : t.toList.all isPlain = true) :
    lowercase s = t ↔ s.toLower = t := by
  rw [← String.toList_inj, ← String.toList_inj, lowercase, String.toList_ofList,
    lowerAfter_eq_iff ht, toList_toLower]

end Text

/-! ## Numerals without a minus sign -/

namespace Numeral

/-- Digits after an optional plus sign, and the number that they denote. -/
inductive Counts : List Char → Nat → Prop where
  | plain {digits : List Char} {n : Nat} (h : Digits digits n) : Counts digits n
  | plus {digits : List Char} {n : Nat} (h : Digits digits n) : Counts ('+' :: digits) n

theorem unsigned?_eq_some_iff {bound n : Nat} {cs : List Char} :
    unsigned? bound cs = some n ↔ Counts cs n ∧ n < bound := by
  unfold unsigned?
  rw [Option.filter_eq_some_iff, nat?_eq_some_iff, decide_eq_true_eq]
  refine and_congr_left fun _ => ⟨fun h => ?_, fun h => ?_⟩
  · split at h
    next rest => exact .plus h
    next => exact .plain h
  · cases h with
    | plus h => exact h
    | plain h =>
      split
      next rest =>
        -- a plus sign is no digit
        exact absurd (h.ascii '+' List.mem_cons_self).1 (by decide)
      next => exact h

/-- The characters of a numeral are plain. -/
theorem Counts.all_isPlain {cs : List Char} {n : Nat} (h : Counts cs n) :
    cs.all Text.isPlain = true := by
  have hdigits {digits : List Char} (h : Digits digits n) : digits.all Text.isPlain = true := by
    refine List.all_eq_true.2 fun c hc => ?_
    have hle : c.toNat ≤ 57 := (h.ascii c hc).2
    have hupper : c.isUpper = false := by
      refine decide_eq_false ?_
      rintro ⟨hA, -⟩
      have hA : 65 ≤ c.toNat := hA
      omega
    have hk : c ≠ 'k' := by
      rintro rfl
      exact absurd hle (by decide)
    have hascii : c.toNat < 128 := by omega
    simp [Text.isPlain, hupper, hk, hascii]
  cases h with
  | plain h => exact hdigits h
  | plus h =>
    rw [List.all_cons, hdigits h]
    rfl

end Numeral

/-! ## Sources -/

namespace OrderSource

/-- A text in lowercase spells a source. -/
inductive Spells : String → OrderSource → Prop where
  | none : Spells "none" catalog
  | registry : Spells "registry" catalog
  | prior : Spells "prior" prior
  | predictions : Spells "predictions" predictions
  | nn : Spells "nn" predictions
  | random {numeral : String} {n : UInt32} (h : Numeral.Counts numeral.toList n.toNat) :
      Spells ("random:" ++ numeral) (random n)
  | shuffle {numeral : String} {seed : UInt64} (h : Numeral.Counts numeral.toList seed.toNat) :
      Spells ("shuffle:" ++ numeral) (shuffle seed)

theorem Spells.all_isPlain {word : String} {source : OrderSource} (h : Spells word source) :
    word.toList.all Text.isPlain = true := by
  cases h with
  | random h | shuffle h =>
    rw [String.toList_append, List.all_append, h.all_isPlain]
    decide
  | _ => decide

/-- Cutting a text at its first colon loses the colon only. -/
theorem eq_of_splitColon {cs kind : List Char} {arg : Option (List Char)}
    (h : splitColon cs = (kind, arg)) : cs = kind ++ (arg.elim [] fun arg => ':' :: arg) := by
  rw [splitColon, List.span_eq_takeWhile_dropWhile] at h
  have hcs := List.takeWhile_append_dropWhile (p := (· != ':')) (l := cs)
  have hhead := List.head?_dropWhile_not (· != ':') cs
  revert h
  generalize hdrop : cs.dropWhile (· != ':') = rest at hcs hhead
  intro h
  cases rest with
  | nil =>
    cases h
    exact hcs.symm
  | cons c rest =>
    obtain rfl : c = ':' := by simpa using hhead
    cases h
    exact hcs.symm

theorem splitColon_append (kind : List Char) (hkind : kind.all (· != ':') = true)
    (arg : List Char) : splitColon (kind ++ ':' :: arg) = (kind, some arg) := by
  have hall := List.all_eq_true.1 hkind
  rw [splitColon, List.span_eq_takeWhile_dropWhile, List.takeWhile_append_of_pos hall,
    List.dropWhile_append_of_pos hall, List.takeWhile_cons_of_neg (by decide),
    List.dropWhile_cons_of_neg (by decide), List.append_nil]

/-- The parts of a text that is cut at its first colon, put together. -/
theorem eq_of_splitColon_toList {text kind : String} {cs : List Char} {arg : Option (List Char)}
    (h : splitColon text.toList = (cs, arg)) (hkind : String.ofList cs = kind) :
    text = kind ++ (arg.elim "" fun arg => ":" ++ String.ofList arg) := by
  rw [← String.toList_inj, eq_of_splitColon h, ← hkind]
  cases arg <;> simp

theorem Spells.random_of_unsigned? {arg : List Char} {n : Nat}
    (h : Numeral.unsigned? (Nat.pow 2 32) arg = some n) :
    Spells ("random:" ++ String.ofList arg) (.random (UInt32.ofNat n)) := by
  obtain ⟨hcounts, hlt⟩ := Numeral.unsigned?_eq_some_iff.1 h
  refine .random ?_
  rwa [String.toList_ofList, UInt32.toNat_ofNat_of_lt' hlt]

theorem Spells.shuffle_of_unsigned? {arg : List Char} {n : Nat}
    (h : Numeral.unsigned? (Nat.pow 2 64) arg = some n) :
    Spells ("shuffle:" ++ String.ofList arg) (.shuffle (UInt64.ofNat n)) := by
  obtain ⟨hcounts, hlt⟩ := Numeral.unsigned?_eq_some_iff.1 h
  refine .shuffle ?_
  rwa [String.toList_ofList, UInt64.toNat_ofNat_of_lt' hlt]

/-- A text is read as a source only if its lowercase form spells the source. -/
theorem spells_of_ofText {text : String} {source : OrderSource} (h : ofText text = .ok source) :
    Spells (Text.lowercase text) source := by
  unfold ofText at h
  split at h
  next kind arg hsplit =>
  split at h
  case h_1 hkind | h_2 hkind | h_3 hkind | h_4 hkind | h_5 hkind =>
    cases h
    rw [eq_of_splitColon_toList hsplit hkind]
    constructor
  case h_6 arg hkind =>
    rw [eq_of_splitColon_toList hsplit hkind]
    split at h
    next n hread =>
      cases h
      exact .random_of_unsigned? hread
    next => cases h
  case h_7 arg hkind =>
    rw [eq_of_splitColon_toList hsplit hkind]
    split at h
    next seed hread =>
      cases h
      exact .shuffle_of_unsigned? hread
    next => cases h
  case h_8 => cases h

/-- A text whose lowercase form spells a source is read as that source. -/
theorem ofText_of_spells {text : String} {source : OrderSource}
    (h : Spells (Text.lowercase text) source) : ofText text = .ok source := by
  unfold ofText
  generalize Text.lowercase text = word at h ⊢
  cases h with
  | @random numeral n h =>
    have hread : Numeral.unsigned? (Nat.pow 2 32) numeral.toList = some n.toNat :=
      Numeral.unsigned?_eq_some_iff.2 ⟨h, n.toNat_lt⟩
    have hsplit : splitColon ("random:" ++ numeral).toList =
        ("random".toList, some numeral.toList) := by
      rw [String.toList_append]
      exact splitColon_append "random".toList (by decide) numeral.toList
    rw [hsplit]
    simp [hread, pure, Except.pure]
  | @shuffle numeral seed h =>
    have hread : Numeral.unsigned? (Nat.pow 2 64) numeral.toList = some seed.toNat :=
      Numeral.unsigned?_eq_some_iff.2 ⟨h, seed.toNat_lt⟩
    have hsplit : splitColon ("shuffle:" ++ numeral).toList =
        ("shuffle".toList, some numeral.toList) := by
      rw [String.toList_append]
      exact splitColon_append "shuffle".toList (by decide) numeral.toList
    rw [hsplit]
    simp [hread, pure, Except.pure]
  | _ => rfl

/-- It makes no difference whether the lowercase is that of Unicode or that of ASCII. -/
theorem ofText_eq_ok_iff_spells {text : String} {source : OrderSource} :
    ofText text = .ok source ↔ Spells text.toLower source := by
  constructor
  · intro h
    have hspells := spells_of_ofText h
    rwa [(Text.lowercase_eq_iff hspells.all_isPlain).1 rfl]
  · intro h
    apply ofText_of_spells
    rwa [(Text.lowercase_eq_iff h.all_isPlain).2 rfl]

/-- A source is spelled by the text that it is shown with. -/
theorem spells_text (source : OrderSource) : Spells source.text source := by
  have hcounts (n : Nat) : Numeral.Counts (toString n).toList n :=
    .plain (Numeral.nat?_eq_some_iff.1 (Numeral.nat?_repr n))
  cases source with
  | random n => exact .random (hcounts n.toNat)
  | shuffle seed => exact .shuffle (hcounts seed.toNat)
  | _ => constructor

/-- **Sources are read back, and nothing else is read.** The text that a source is shown with is
read as that source, and a text is read as a source exactly if it spells the source once its ASCII
letters are in lowercase. -/
theorem ofText_text_and_spells_iff (source : OrderSource) (text : String) :
    ofText source.text = .ok source ∧
      (ofText text = .ok source ↔ Spells text.toLower source) := by
  refine ⟨?_, ofText_eq_ok_iff_spells⟩
  have hspells := spells_text source
  rw [ofText_eq_ok_iff_spells, Text.toLower_eq hspells.all_isPlain]
  exact hspells

/-- A plus sign and leading zeros are read, a number of 33 bits is not. -/
example : ofText "Random:+007" = .ok (random 7) ∧
    ofText "random:4294967296" = .error (.randomIndex "4294967296") := ⟨rfl, rfl⟩

end OrderSource

end ProgramSearch

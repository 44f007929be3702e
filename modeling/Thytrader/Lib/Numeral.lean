import Mathlib.Algebra.Order.Field.Basic
import Mathlib.Data.List.Induction
import Mathlib.Tactic.NormNum
import Mathlib.Tactic.Ring

/-!
# Decimal numerals

A digit text is a list of the characters `0` to `9`, read most significant first. A
numeral is one without a leading zero; a plain decimal is a sign, a whole numeral and a
fraction. Among plain decimals the canonical ones (no trailing zero in the fraction, no
negative zero) are the names of numbers: two of them with the same value are the same
text (`PlainDecimal.Canonical.eq_of_value`).
-/

namespace Thytrader.Lib

open List Nat

variable {a b cs : List Char} {c : Char}

/-! ## Digit texts -/

/-- Only the characters `0` to `9`. -/
def DigitText (cs : List Char) : Prop := ∀ c ∈ cs, c.isDigit = true

/-- The number a digit text denotes. -/
def digitValue (cs : List Char) : Nat := ofDigitChars 10 cs 0

theorem digitText_append : DigitText (a ++ b) ↔ DigitText a ∧ DigitText b := by
  simp only [DigitText, mem_append, or_imp, forall_and]

variable (n : Nat)

theorem digitText_zeros : DigitText (List.replicate n '0') := by
  intro c hc
  rw [eq_of_mem_replicate hc]
  rfl

theorem digitText_toDigits : DigitText (toDigits 10 n) := fun _ hc =>
  isDigit_of_mem_toDigits (by decide) (by decide) hc

theorem digitValue_append (a b : List Char) :
    digitValue (a ++ b) = digitValue a * 10 ^ b.length + digitValue b := by
  unfold digitValue
  rw [ofDigitChars_append, ofDigitChars_eq_ofDigitChars_zero, mul_comm]

theorem digitValue_zeros : digitValue (List.replicate n '0') = 0 := by
  simp [digitValue]

theorem digitValue_toDigits : digitValue (toDigits 10 n) = n :=
  ofDigitChars_ten_toDigits

/-- A digit's own value. -/
def charValue (c : Char) : Nat := c.toNat - '0'.toNat

theorem digitValue_concat (cs : List Char) (c : Char) :
    digitValue (cs ++ [c]) = digitValue cs * 10 + charValue c := by
  rw [digitValue_append]
  simp [digitValue, charValue, ofDigitChars_cons]

theorem isDigit_bounds (h : c.isDigit = true) : 48 ≤ c.toNat ∧ c.toNat ≤ 57 := by
  simp only [Char.isDigit, Bool.and_eq_true, decide_eq_true_eq] at h
  exact ⟨by simpa [UInt32.le_iff_toNat_le] using h.1, by simpa [UInt32.le_iff_toNat_le] using h.2⟩

theorem charValue_lt (h : c.isDigit = true) : charValue c < 10 := by
  obtain ⟨-, hle⟩ := isDigit_bounds h
  have hzero : '0'.toNat = 48 := rfl
  unfold charValue
  omega

theorem charValue_inj {d : Char} (hc : c.isDigit = true) (hd : d.isDigit = true)
    (h : charValue c = charValue d) : c = d := by
  obtain ⟨hc, -⟩ := isDigit_bounds hc
  obtain ⟨hd, -⟩ := isDigit_bounds hd
  have hzero : '0'.toNat = 48 := rfl
  unfold charValue at h
  have hnat : c.toNat = d.toNat := by omega
  exact Char.ext (UInt32.toNat_inj.mp hnat)

theorem digitValue_lt (h : DigitText cs) : digitValue cs < 10 ^ cs.length := by
  induction cs using List.reverseRecOn with
  | nil => simp [digitValue]
  | append_singleton _ c ih =>
    obtain ⟨hcs, hc⟩ := digitText_append.mp h
    have hlt := charValue_lt (hc c (by simp))
    have := ih hcs
    rw [digitValue_concat, length_append, length_singleton, pow_succ]
    omega

theorem digitValue_inj (ha : DigitText a) (hb : DigitText b) (hlength : a.length = b.length)
    (h : digitValue a = digitValue b) : a = b := by
  induction a using List.reverseRecOn generalizing b with
  | nil => exact (length_eq_zero_iff.mp hlength.symm).symm
  | append_singleton a c ih =>
    rcases eq_nil_or_concat b with rfl | ⟨b, d, rfl⟩
    · simp at hlength
    · rw [concat_eq_append] at *
      obtain ⟨ha, hc⟩ := digitText_append.mp ha
      obtain ⟨hb, hd⟩ := digitText_append.mp hb
      have hc := hc c (by simp)
      have hd := hd d (by simp)
      have hcv := charValue_lt hc
      have hdv := charValue_lt hd
      rw [digitValue_concat, digitValue_concat] at h
      have hlast : charValue c = charValue d := by omega
      have hinit : digitValue a = digitValue b := by omega
      rw [ih ha hb (by simpa using hlength) hinit, charValue_inj hc hd hlast]

/-! ## Numerals -/

/-- A digit text that is `0` or has no leading zero. -/
structure Numeral (cs : List Char) : Prop where
  digits : DigitText cs
  nonempty : cs ≠ []
  leading : cs.head? = some '0' → cs = ['0']

theorem numeral_zero : Numeral ['0'] := ⟨by simp [DigitText], by simp, fun _ => rfl⟩

/-- A numeral other than `0` fills its length. -/
theorem Numeral.le_digitValue (h : Numeral cs) (hne : cs ≠ ['0']) :
    10 ^ (cs.length - 1) ≤ digitValue cs := by
  cases cs with
  | nil => exact absurd rfl h.nonempty
  | cons c rest =>
    have hc : c.isDigit = true := h.digits c (by simp)
    have hpos : 0 < charValue c := by
      by_contra hzero
      have hvalue : charValue c = charValue '0' := by
        have : charValue '0' = 0 := rfl
        omega
      exact hne (h.leading (by rw [charValue_inj hc rfl hvalue]; rfl))
    rw [show c :: rest = [c] ++ rest from rfl, digitValue_append,
      show digitValue [c] = charValue c from by
        simp [digitValue, charValue, ofDigitChars_cons]]
    calc 10 ^ (([c] ++ rest).length - 1) = 1 * 10 ^ rest.length := by simp
      _ ≤ charValue c * 10 ^ rest.length := mul_le_mul_right _ hpos
      _ ≤ _ := Nat.le_add_right _ _

theorem Numeral.eq_zero_iff (h : Numeral cs) : digitValue cs = 0 ↔ cs = ['0'] := by
  constructor
  · intro hzero
    by_contra hne
    have hle := h.le_digitValue hne
    have hpos : 0 < 10 ^ (cs.length - 1) := Nat.pow_pos (by omega)
    omega
  · rintro rfl
    rfl

theorem Numeral.eq_of_digitValue (ha : Numeral a) (hb : Numeral b)
    (h : digitValue a = digitValue b) : a = b := by
  by_cases hzero : digitValue a = 0
  · rw [ha.eq_zero_iff.mp hzero, hb.eq_zero_iff.mp (h ▸ hzero)]
  · have hane : a ≠ ['0'] := fun he => hzero (ha.eq_zero_iff.mpr he)
    have hbne : b ≠ ['0'] := fun he => hzero (h.trans (hb.eq_zero_iff.mpr he))
    refine digitValue_inj ha.digits hb.digits ?_ h
    -- each length is squeezed between powers of ten of the other
    have hab : a.length - 1 < b.length :=
      (Nat.pow_lt_pow_iff_right (by omega)).mp
        ((ha.le_digitValue hane).trans_lt (h ▸ digitValue_lt hb.digits))
    have hba : b.length - 1 < a.length :=
      (Nat.pow_lt_pow_iff_right (by omega)).mp
        ((hb.le_digitValue hbne).trans_lt (h ▸ digitValue_lt ha.digits))
    omega

theorem numeral_toDigits : Numeral (toDigits 10 n) := by
  refine ⟨digitText_toDigits n, toDigits_ne_nil, ?_⟩
  induction n using Nat.strong_induction_on with
  | _ n ih =>
    rw [toDigits_eq_if (by omega)]
    split
    next hlt =>
      intro hhead
      rw [head?_cons, Option.some.injEq] at hhead
      rw [hhead]
    next hge =>
      intro hhead
      have hnil : toDigits 10 (n / 10) ≠ [] := toDigits_ne_nil
      rw [head?_append, Option.or_eq_some_iff] at hhead
      have hhead := hhead.resolve_right fun h => hnil (head?_eq_none_iff.mp h.1)
      have hzero := ih (n / 10) (by omega) hhead
      have hvalue := congrArg digitValue hzero
      rw [digitValue_toDigits] at hvalue
      have : digitValue ['0'] = 0 := rfl
      omega

/-- Digits that follow leading digits of a numeral other than `0` make a numeral. -/
theorem Numeral.take_append (h : Numeral cs) (hne : cs ≠ ['0']) {n : Nat} (hn : 0 < n)
    (rest : List Char) (hrest : DigitText rest) : Numeral (cs.take n ++ rest) := by
  cases cs with
  | nil => exact absurd rfl h.nonempty
  | cons c =>
    obtain ⟨m, rfl⟩ : ∃ m, n = m + 1 := ⟨n - 1, by omega⟩
    rw [take_succ_cons]
    refine ⟨?_, by simp, fun hhead => ?_⟩
    · rw [cons_append, DigitText]
      rintro d (_ | ⟨_, hd⟩)
      · exact h.digits c (by simp)
      · rcases mem_append.mp hd with hd | hd
        · exact h.digits d (by simp [mem_of_mem_take hd])
        · exact hrest d hd
    · exact absurd (h.leading (by simpa using hhead)) hne

/-! ## Plain decimals -/

/-- A sign, the digits before the point and the digits after it. -/
structure PlainDecimal where
  negative : Bool
  whole : List Char
  fraction : List Char

namespace PlainDecimal

/-- The digits after the point, with the point if there are any. -/
def dotted (fraction : List Char) : List Char := if fraction = [] then [] else '.' :: fraction

def text (p : PlainDecimal) : List Char :=
  (if p.negative then ['-'] else []) ++ p.whole ++ dotted p.fraction

/-- All digits read as one number. -/
def coefficient (p : PlainDecimal) : Nat := digitValue (p.whole ++ p.fraction)

/-- The number the text denotes. -/
def value (p : PlainDecimal) : ℚ :=
  (if p.negative then -1 else 1) * (p.coefficient / 10 ^ p.fraction.length)

/-- Digits on both sides, none leading in vain. -/
structure WellFormed (p : PlainDecimal) : Prop where
  whole : Numeral p.whole
  fraction : DigitText p.fraction

/-- No trailing zero after the point, no negative zero. -/
structure Canonical (p : PlainDecimal) : Prop extends WellFormed p where
  trimmed : p.fraction.getLast? ≠ some '0'
  signed : p.negative = true → p.coefficient ≠ 0

theorem coefficient_eq (p : PlainDecimal) :
    p.coefficient = digitValue p.whole * 10 ^ p.fraction.length + digitValue p.fraction :=
  digitValue_append p.whole p.fraction

variable {p q : PlainDecimal}

theorem Canonical.not_dvd (h : p.Canonical) (hne : p.fraction ≠ []) : ¬ 10 ∣ p.coefficient := by
  rcases eq_nil_or_concat p.fraction with hnil | ⟨init, last, hlast⟩
  · exact absurd hnil hne
  · rw [concat_eq_append] at hlast
    have hdigit : last.isDigit = true := h.fraction last (by rw [hlast]; simp)
    have hvalue : charValue last ≠ 0 := by
      intro hzero
      have hchar : last = '0' := charValue_inj hdigit rfl hzero
      exact h.trimmed (by rw [hlast, hchar]; simp)
    have hlt := charValue_lt hdigit
    rw [coefficient, hlast, ← append_assoc, digitValue_concat]
    omega

theorem value_eq_zero_iff : p.value = 0 ↔ p.coefficient = 0 := by
  unfold value
  have hpow : (10 : ℚ) ^ p.fraction.length ≠ 0 := pow_ne_zero _ (by norm_num)
  cases p.negative <;> simp [hpow]

theorem magnitude_nonneg (p : PlainDecimal) :
    (0 : ℚ) ≤ p.coefficient / 10 ^ p.fraction.length :=
  div_nonneg (cast_nonneg _) (pow_nonneg (by norm_num) _)

theorem abs_value : |p.value| = p.coefficient / 10 ^ p.fraction.length := by
  unfold value
  rw [abs_mul, abs_of_nonneg p.magnitude_nonneg]
  cases p.negative <;> simp

theorem Canonical.negative_iff (h : p.Canonical) : p.negative = true ↔ p.value < 0 := by
  have hnonneg := p.magnitude_nonneg
  constructor
  · intro hneg
    have hne := mt value_eq_zero_iff.mp (h.signed hneg)
    have hle : p.value ≤ 0 := by
      unfold value
      rw [hneg]
      simpa using hnonneg
    exact lt_of_le_of_ne hle hne
  · intro hlt
    by_contra hneg
    unfold value at hlt
    rw [if_neg hneg, one_mul] at hlt
    exact absurd hlt (not_lt.mpr hnonneg)

/-- The fraction of a canonical decimal is no longer than any decimal of its number. -/
theorem Canonical.length_le (hp : p.Canonical) (h : |p.value| = |q.value|) :
    p.fraction.length ≤ q.fraction.length := by
  by_contra hlt
  rw [not_le] at hlt
  have hne : p.fraction ≠ [] := by
    rintro hnil
    rw [hnil] at hlt
    cases hlt
  refine hp.not_dvd hne ?_
  rw [abs_value, abs_value] at h
  have hcross : p.coefficient * 10 ^ q.fraction.length = q.coefficient * 10 ^ p.fraction.length := by
    have hpow : (10 : ℚ) ^ p.fraction.length ≠ 0 := pow_ne_zero _ (by norm_num)
    have hpow' : (10 : ℚ) ^ q.fraction.length ≠ 0 := pow_ne_zero _ (by norm_num)
    rw [div_eq_div_iff hpow hpow'] at h
    exact_mod_cast h
  obtain ⟨extra, hextra⟩ := Nat.exists_eq_add_of_lt hlt
  -- the longer fraction leaves a factor of ten
  rw [hextra, show q.fraction.length + extra + 1 = (extra + 1) + q.fraction.length by omega,
    pow_add, ← mul_assoc] at hcross
  have hcoefficient := Nat.eq_of_mul_eq_mul_right (Nat.pow_pos (by omega)) hcross
  rw [hcoefficient, pow_succ]
  exact ⟨q.coefficient * 10 ^ extra, by ring⟩

theorem Canonical.eq_of_value (hp : p.Canonical) (hq : q.Canonical) (h : p.value = q.value) :
    p = q := by
  have habs : |p.value| = |q.value| := by rw [h]
  have hlength := le_antisymm (hp.length_le habs) (hq.length_le habs.symm)
  have hcoefficient : p.coefficient = q.coefficient := by
    rw [abs_value, abs_value, hlength] at habs
    have hpow : (10 : ℚ) ^ q.fraction.length ≠ 0 := pow_ne_zero _ (by norm_num)
    rw [div_left_inj' hpow] at habs
    exact_mod_cast habs
  have hpl := digitValue_lt hp.fraction
  have hql := digitValue_lt hq.fraction
  rw [coefficient_eq, coefficient_eq, hlength] at hcoefficient
  rw [hlength] at hpl
  -- quotient and remainder by the power of ten
  have hwhole : digitValue p.whole = digitValue q.whole := by
    have hdiv := congrArg (· / 10 ^ q.fraction.length) hcoefficient
    simpa [mul_add_div, div_eq_of_lt hpl, div_eq_of_lt hql, mul_comm] using hdiv
  have hfraction : digitValue p.fraction = digitValue q.fraction := by
    rw [hwhole] at hcoefficient
    omega
  have hsign : p.negative = q.negative :=
    Bool.eq_iff_iff.mpr (hp.negative_iff.trans (h ▸ hq.negative_iff.symm))
  obtain ⟨pn, pw, pf⟩ := p
  obtain ⟨qn, qw, qf⟩ := q
  obtain rfl : pn = qn := hsign
  obtain rfl : pw = qw := hp.whole.eq_of_digitValue hq.whole hwhole
  obtain rfl : pf = qf := digitValue_inj hp.fraction hq.fraction hlength hfraction
  rfl

end PlainDecimal

end Thytrader.Lib

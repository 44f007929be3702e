import Thytrader.Basic
import Thytrader.Lib.Numeral
import Mathlib.Data.List.DropRight

/-!
# Canonical result decimals

`decimal_text.py` and the decimal text of `backtest/models.py`. The engine renders a
`Decimal` with `canonical_decimal`; the result models accept a text through
`_validate_result_decimal_text`, which renders the parsed value again with its own
`_canonical_result_decimal`. The two agree (`canonicalDecimal_roundTrip`).

Mirroring notes: a `str` is its list of characters, and a finite `Decimal` is its `as_tuple()` with
the digit tuple as one number (the tuple has no leading zeros). `format(value, "f")` and
`Decimal(text)` follow the standard library; the latter is modelled on plain decimal texts, the only
ones passed to it, and is exact.
-/

namespace Thytrader.Backtest

open Lib List PlainDecimal

/-! ## Decimals -/

/-- A finite `Decimal`: sign, coefficient and exponent. -/
structure DecimalTuple where
  sign : Bool
  coefficient : Nat
  exponent : Int
  deriving DecidableEq, Repr

namespace DecimalTuple

/-- The digits of `as_tuple()`, joined. -/
def digits (value : DecimalTuple) : List Char := Nat.toDigits 10 value.coefficient

def isZero (value : DecimalTuple) : Bool := value.coefficient = 0

/-- `adjusted()`: the exponent of the leading digit. -/
def adjusted (value : DecimalTuple) : Int := value.exponent + value.digits.length - 1

def number (value : DecimalTuple) : ℚ :=
  (if value.sign then -1 else 1) * (value.coefficient * 10 ^ value.exponent)

/-- The digits `format(value, "f")` puts before and after the point. A zero with a
positive exponent is rescaled first. -/
def fixedParts (value : DecimalTuple) : List Char × List Char :=
  let exponent := if value.isZero ∧ 0 < value.exponent then 0 else value.exponent
  let dotPlace := exponent + value.digits.length
  if dotPlace < 0 then (['0'], List.replicate (-dotPlace).toNat '0' ++ value.digits)
  else if value.digits.length < dotPlace then
    (value.digits ++ List.replicate (dotPlace - value.digits.length).toNat '0', [])
  else
    let whole := value.digits.take dotPlace.toNat
    (if whole = [] then ['0'] else whole, value.digits.drop dotPlace.toNat)

/-- `format(value, "f")`. -/
def formatFixed (value : DecimalTuple) : List Char :=
  (if value.sign then ['-'] else []) ++ value.fixedParts.1 ++
    (if value.fixedParts.2 = [] then [] else '.' :: value.fixedParts.2)

end DecimalTuple

/-- `text.rstrip(c)` for one character. -/
def rstrip (c : Char) (text : List Char) : List Char := text.rdropWhile (· = c)

/-- `text.partition(".")`: before, whether a point was found, after. -/
def partitionPoint (text : List Char) : List Char × Bool × List Char :=
  (text.takeWhile (· ≠ '.'), text.contains '.', (text.dropWhile (· ≠ '.')).tail)

/-- `Decimal(text)` on a plain text; `none` is `InvalidOperation`. -/
def decimalOfText (text : List Char) : Option DecimalTuple :=
  let negative : Bool := text.head? = some '-'
  let body := if negative then text.tail else text
  let (whole, _, fraction) := partitionPoint body
  if whole ++ fraction ≠ [] ∧ (whole ++ fraction).all (·.isDigit) then
    some ⟨negative, digitValue (whole ++ fraction), -fraction.length⟩
  else none

/-- `canonical_decimal`: no exponent, no trailing zeros, no signed zero. -/
def canonicalDecimal (value : DecimalTuple) : Option (List Char) := do
  let (whole, separator, fraction) := partitionPoint value.formatFixed
  let canonicalFraction := if separator then rstrip '0' fraction else []
  let decimalPlaces := if canonicalFraction = [] then [] else '.' :: canonicalFraction
  let result := whole ++ decimalPlaces
  let parsed ← decimalOfText result
  return if parsed.isZero then ['0'] else result

/-! ## Result models -/

def canonicalResultDecimal (value : DecimalTuple) : List Char :=
  if value.isZero then ['0']
  else
    let coefficient := value.digits
    let text :=
      if 0 ≤ value.exponent then coefficient ++ List.replicate value.exponent.toNat '0'
      else
        let point := coefficient.length + value.exponent
        let placed :=
          if 0 < point then coefficient.take point.toNat ++ '.' :: coefficient.drop point.toNat
          else '0' :: '.' :: (List.replicate (-point).toNat '0' ++ coefficient)
        rstrip '.' (rstrip '0' placed)
    if value.sign then '-' :: (if text = ['0'] then ['0'] else text) else text

/-- `0|[1-9][0-9]*`. -/
def matchesWhole (text : List Char) : Bool :=
  match text with
  | [] => false
  | c :: rest => text = ['0'] || (c.isDigit && c ≠ '0' && rest.all (·.isDigit))

/-- `_RESULT_DECIMAL_PATTERN.fullmatch`: `-?(?:0|[1-9][0-9]*)(?:\.[0-9]+)?`. -/
def matchesResultDecimal (text : List Char) : Bool :=
  let body := if text.head? = some '-' then text.tail else text
  let (whole, separator, fraction) := partitionPoint body
  matchesWhole whole && (!separator || (fraction ≠ [] && fraction.all (·.isDigit)))

def validateResultDecimalText (text : List Char) : Result (List Char) :=
  if 6211 < text.length ∨ matchesResultDecimal text = false then
    .error (.valueError "result decimals must be canonical plain decimal strings")
  else
    match decimalOfText text with
    | none => .error (.valueError "result decimals must be valid")
    | some parsed =>
      if 64 < parsed.digits.length ∨ parsed.exponent < -6206 ∨ 6144 < parsed.adjusted then
        .error (.valueError "result decimals must fit the deterministic Decimal envelope")
      else if text ≠ canonicalResultDecimal parsed then
        .error (.valueError "result decimals must use canonical plain decimal rendering")
      else .ok text

/-! ## Plain texts -/

theorem point_not_mem {cs : List Char} (h : DigitText cs) : '.' ∉ cs := fun hmem =>
  absurd (h '.' hmem) (by decide)

/-- Splitting at the point undoes joining with it. -/
theorem partitionPoint_dotted {front : List Char} (h : '.' ∉ front) (fraction : List Char) :
    partitionPoint (front ++ dotted fraction) =
      (front, decide (fraction ≠ []), fraction) := by
  have hfront : ∀ c ∈ front, decide (c ≠ '.') = true := by
    intro c hc
    simpa using fun he : c = '.' => h (he ▸ hc)
  unfold partitionPoint dotted
  by_cases hnil : fraction = []
  · subst hnil
    have htake : front.takeWhile (· ≠ '.') = front := takeWhile_eq_self_iff.mpr hfront
    have hdrop : front.dropWhile (· ≠ '.') = [] := dropWhile_eq_nil_iff.mpr hfront
    simp only [if_true, append_nil, htake, hdrop, tail_nil]
    simp [h]
  · simp only [if_neg hnil]
    rw [takeWhile_append_of_pos hfront, dropWhile_append_of_pos hfront]
    simp [hnil]

variable {p : PlainDecimal}

theorem text_body (h : p.WellFormed) :
    (p.text.head? = some '-' ↔ p.negative = true) ∧
      (if p.text.head? = some '-' then p.text.tail else p.text) =
        p.whole ++ dotted p.fraction := by
  have hplain : (p.whole ++ dotted p.fraction).head? ≠ some '-' := by
    cases hwhole : p.whole with
    | nil => exact absurd hwhole h.whole.nonempty
    | cons c =>
      intro he
      have hc : c = '-' := by simpa using he
      have hdigit := h.whole.digits c (by rw [hwhole]; simp)
      rw [hc] at hdigit
      exact absurd hdigit (by decide)
  unfold text
  cases hneg : p.negative with
  | true => simp
  | false =>
    simp only [Bool.false_eq_true, if_false, nil_append, iff_false]
    exact ⟨hplain, if_neg hplain⟩

/-- `Decimal(text)` reads a plain text as it stands. -/
theorem decimalOfText_text (h : p.WellFormed) :
    decimalOfText p.text = some ⟨p.negative, p.coefficient, -p.fraction.length⟩ := by
  obtain ⟨hsign, hbody⟩ := text_body h
  have hsplit := partitionPoint_dotted (point_not_mem h.whole.digits) p.fraction
  have hdigits : DigitText (p.whole ++ p.fraction) :=
    digitText_append.mpr ⟨h.whole.digits, h.fraction⟩
  have hall : (p.whole ++ p.fraction).all (·.isDigit) = true := all_eq_true.mpr hdigits
  have hne : p.whole ++ p.fraction ≠ [] := by simp [h.whole.nonempty]
  have hnegative : decide (p.text.head? = some '-') = p.negative :=
    Bool.eq_iff_iff.mpr (by simpa using hsign)
  unfold decimalOfText
  simp only [hnegative]
  have hbody' : (if p.negative = true then p.text.tail else p.text) =
      p.whole ++ dotted p.fraction := by
    rw [← hbody]
    simp only [hsign]
  rw [hbody', hsplit]
  simp only [ne_eq, hne, not_false_eq_true, hall, and_self, if_true]
  rfl

theorem number_of_plain (p : PlainDecimal) :
    DecimalTuple.number ⟨p.negative, p.coefficient, -p.fraction.length⟩ = p.value := by
  unfold DecimalTuple.number value
  rw [zpow_neg, zpow_natCast, div_eq_mul_inv]

theorem matchesWhole_iff (cs : List Char) : matchesWhole cs = true ↔ Numeral cs := by
  cases cs with
  | nil => exact ⟨by simp [matchesWhole], fun h => absurd rfl h.nonempty⟩
  | cons c =>
    simp only [matchesWhole, Bool.or_eq_true, Bool.and_eq_true, decide_eq_true_eq, all_eq_true]
    constructor
    · rintro (he | ⟨⟨hc, hne⟩, hrest⟩)
      · rw [he]
        exact numeral_zero
      · refine ⟨?_, by simp, fun hhead => ?_⟩
        · rintro d (_ | ⟨_, hd⟩)
          · exact hc
          · exact hrest d hd
        · rw [head?_cons, Option.some.injEq] at hhead
          exact absurd hhead hne
    · intro h
      by_cases hzero : c = '0'
      · exact .inl (h.leading (by rw [hzero]; rfl))
      · exact .inr ⟨⟨h.digits c (by simp), hzero⟩, fun d hd => h.digits d (by simp [hd])⟩

theorem matchesResultDecimal_text (h : p.WellFormed) : matchesResultDecimal p.text = true := by
  obtain ⟨-, hbody⟩ := text_body h
  unfold matchesResultDecimal
  dsimp only
  rw [hbody, partitionPoint_dotted (point_not_mem h.whole.digits)]
  have hwhole := (matchesWhole_iff p.whole).mpr h.whole
  have hfraction : p.fraction.all (·.isDigit) = true := all_eq_true.mpr h.fraction
  by_cases hnil : p.fraction = []
  · simp [hwhole, hnil]
  · simp [hwhole, hnil, hfraction]

/-! ## What both renderings write -/

/-- Trimming takes zeros off the end. -/
theorem rstrip_zeros (text : List Char) :
    ∃ n, text = rstrip '0' text ++ List.replicate n '0' := by
  refine ⟨(text.rtakeWhile (· = '0')).length, ?_⟩
  have hzeros : text.rtakeWhile (· = '0') =
      List.replicate (text.rtakeWhile (· = '0')).length '0' :=
    eq_replicate_length.mpr fun c hc => by simpa using mem_rtakeWhile_imp hc
  rw [← hzeros]
  exact rdropWhile_append_rtakeWhile.symm

theorem rstrip_getLast (c : Char) (text : List Char) : (rstrip c text).getLast? ≠ some c := by
  unfold rstrip
  intro h
  have hne : text.rdropWhile (· = c) ≠ [] := by
    intro hnil
    rw [hnil] at h
    cases h
  rw [getLast?_eq_getLast_of_ne_nil hne, Option.some.injEq] at h
  exact rdropWhile_last_not (p := (· = c)) text hne (by simpa using h)

/-- The digits of a decimal, whole and after the point, without trailing zeros. -/
theorem trimmed_quotient (whole fraction : List Char) :
    (digitValue (whole ++ rstrip '0' fraction) : ℚ) / 10 ^ (rstrip '0' fraction).length =
      digitValue (whole ++ fraction) / 10 ^ fraction.length := by
  obtain ⟨n, hn⟩ := rstrip_zeros fraction
  generalize rstrip '0' fraction = kept at hn
  subst hn
  rw [← append_assoc, digitValue_append (whole ++ kept), digitValue_zeros, length_append,
    length_replicate, Nat.add_zero, Nat.cast_mul, Nat.cast_pow, Nat.cast_ofNat, pow_add,
    mul_div_mul_right]
  exact pow_ne_zero _ (by norm_num)

namespace DecimalTuple

variable (value : DecimalTuple)

theorem digits_numeral : Numeral value.digits := numeral_toDigits value.coefficient

theorem digits_length_pos : 0 < value.digits.length :=
  length_pos_iff.mpr value.digits_numeral.nonempty

/-- Where `format(value, "f")` puts the point of a value that is not zero. -/
theorem fixedParts_of_ne_zero (hzero : value.coefficient ≠ 0) :
    value.fixedParts =
      if 0 < value.exponent then (value.digits ++ List.replicate value.exponent.toNat '0', [])
      else if 0 < value.digits.length + value.exponent then
        (value.digits.take (value.digits.length + value.exponent).toNat,
          value.digits.drop (value.digits.length + value.exponent).toNat)
      else
        (['0'], List.replicate (-(value.digits.length + value.exponent)).toNat '0' ++
          value.digits) := by
  have hexponent : (if value.isZero = true ∧ 0 < value.exponent then 0 else value.exponent) =
      value.exponent := if_neg fun h => hzero (by simpa [isZero] using h.1)
  unfold fixedParts
  simp only [hexponent]
  rw [Int.add_comm value.exponent]
  by_cases hpos : 0 < value.exponent
  · rw [if_neg (by omega), if_pos (by omega), if_pos hpos]
    congr 4
    omega
  · rw [if_neg hpos]
    by_cases hpoint : 0 < (value.digits.length : Int) + value.exponent
    · have htake : value.digits.take (↑value.digits.length + value.exponent).toNat ≠ [] := by
        rw [ne_eq, take_eq_nil_iff, not_or]
        exact ⟨by omega, value.digits_numeral.nonempty⟩
      rw [if_neg (by omega), if_neg (by omega), if_pos hpoint, if_neg htake]
    · rw [if_neg hpoint]
      by_cases hneg : (value.digits.length : Int) + value.exponent < 0
      · rw [if_pos hneg]
      · have hplace : (value.digits.length : Int) + value.exponent = 0 := by omega
        rw [if_neg hneg, if_neg (by omega), hplace]
        simp

theorem fixedParts_of_zero (hzero : value.coefficient = 0) :
    value.fixedParts.1 = ['0'] ∧ ∃ n, value.fixedParts.2 = List.replicate n '0' := by
  have hdigits : value.digits = ['0'] := by
    unfold digits
    rw [hzero, Nat.toDigits_zero]
  unfold fixedParts
  rw [hdigits]
  simp only [isZero, hzero, decide_true, true_and, length_singleton]
  have hle : (if 0 < value.exponent then 0 else value.exponent) ≤ 0 := by
    split <;> omega
  generalize (if 0 < value.exponent then 0 else value.exponent) = exponent at hle
  by_cases hneg : exponent + ((1 : Nat) : Int) < 0
  · rw [if_pos hneg]
    exact ⟨rfl, _, (replicate_succ' ..).symm⟩
  · rw [if_neg hneg, if_neg (by omega)]
    by_cases hplace : exponent + ((1 : Nat) : Int) = 0
    · rw [hplace]
      exact ⟨rfl, 1, rfl⟩
    · rw [show exponent + ((1 : Nat) : Int) = 1 by omega]
      exact ⟨rfl, 0, rfl⟩

/-- `format(value, "f")` writes the number, with a numeral before the point. -/
theorem fixedParts_spec : Numeral value.fixedParts.1 ∧ DigitText value.fixedParts.2 ∧
    (digitValue (value.fixedParts.1 ++ value.fixedParts.2) : ℚ) / 10 ^ value.fixedParts.2.length =
      value.coefficient * 10 ^ value.exponent := by
  have hnumeral := value.digits_numeral
  have hlength := value.digits_length_pos
  have hvalue : digitValue value.digits = value.coefficient :=
    digitValue_toDigits value.coefficient
  by_cases hzero : value.coefficient = 0
  · obtain ⟨hwhole, n, hfraction⟩ := value.fixedParts_of_zero hzero
    rw [hwhole, hfraction, digitValue_append, digitValue_zeros, hzero]
    refine ⟨numeral_zero, digitText_zeros n, ?_⟩
    simp [show digitValue ['0'] = 0 from rfl]
  · have hne : value.digits ≠ ['0'] := fun he => hzero (by rw [← hvalue, he]; rfl)
    rw [value.fixedParts_of_ne_zero hzero]
    by_cases hpos : 0 < value.exponent
    · rw [if_pos hpos]
      refine ⟨?_, by simp [DigitText], ?_⟩
      · have htake := hnumeral.take_append hne hlength _ (digitText_zeros value.exponent.toNat)
        rwa [take_length] at htake
      · obtain ⟨n, hn⟩ := Int.eq_ofNat_of_zero_le hpos.le
        rw [hn]
        simp [digitValue_append, digitValue_zeros, hvalue]
    · rw [if_neg hpos]
      -- the exponent places the point inside or before the digits
      obtain ⟨n, hn⟩ := Int.eq_ofNat_of_zero_le (show 0 ≤ -value.exponent by omega)
      have hexponent : value.exponent = -(n : Int) := by omega
      have hquotient : (value.coefficient : ℚ) / 10 ^ n = value.coefficient * 10 ^ value.exponent := by
        rw [hexponent, zpow_neg, zpow_natCast, div_eq_mul_inv]
      by_cases hpoint : 0 < (value.digits.length : Int) + value.exponent
      · rw [if_pos hpoint]
        refine ⟨?_, fun c hc => hnumeral.digits c (mem_of_mem_drop hc), ?_⟩
        · have htake := hnumeral.take_append hne (by omega : 0 < (↑value.digits.length +
            value.exponent).toNat) [] (by simp [DigitText])
          rwa [append_nil] at htake
        · rw [take_append_drop, hvalue, length_drop, ← hquotient]
          congr 3
          omega
      · rw [if_neg hpoint]
        refine ⟨numeral_zero, digitText_append.mpr ⟨digitText_zeros _, hnumeral.digits⟩, ?_⟩
        rw [digitValue_append, digitValue_append, digitValue_zeros, hvalue, length_append,
          length_replicate, ← hquotient, show digitValue ['0'] = 0 from rfl]
        have hplaces : (-((value.digits.length : Int) + value.exponent)).toNat +
            value.digits.length = n := by omega
        rw [hplaces]
        simp

theorem number_eq_zero_iff : value.number = 0 ↔ value.coefficient = 0 := by
  have hsign : (if value.sign then (-1 : ℚ) else 1) ≠ 0 := by
    split <;> norm_num
  have hpow : (10 : ℚ) ^ value.exponent ≠ 0 := zpow_ne_zero _ (by norm_num)
  unfold number
  rw [mul_eq_zero, or_iff_right hsign, mul_eq_zero, or_iff_left hpow, Nat.cast_eq_zero]

def plain : PlainDecimal :=
  if value.isZero then ⟨false, ['0'], []⟩
  else ⟨value.sign, value.fixedParts.1, rstrip '0' value.fixedParts.2⟩

theorem plain_value : value.plain.value = value.number := by
  unfold plain number
  by_cases hzero : value.coefficient = 0
  · rw [if_pos (by simpa [isZero] using hzero), hzero]
    simp [PlainDecimal.value, PlainDecimal.coefficient, show digitValue ['0'] = 0 from rfl]
  · rw [if_neg (by simpa [isZero] using hzero)]
    obtain ⟨-, -, hnumber⟩ := value.fixedParts_spec
    unfold PlainDecimal.value PlainDecimal.coefficient
    rw [trimmed_quotient, hnumber]

theorem plain_canonical : value.plain.Canonical := by
  have hnumber := value.plain_value
  unfold plain at hnumber ⊢
  by_cases hzero : value.coefficient = 0
  · rw [if_pos (by simpa [isZero] using hzero)]
    exact ⟨⟨numeral_zero, by simp [DigitText]⟩, by simp, by simp⟩
  · rw [if_neg (by simpa [isZero] using hzero)] at hnumber ⊢
    obtain ⟨hwhole, hfraction, -⟩ := value.fixedParts_spec
    refine ⟨⟨hwhole, ?_⟩, rstrip_getLast '0' _, fun _ hcoefficient => ?_⟩
    · obtain ⟨n, hn⟩ := rstrip_zeros value.fixedParts.2
      rw [hn] at hfraction
      exact (digitText_append.mp hfraction).1
    · rw [value_eq_zero_iff.mpr hcoefficient] at hnumber
      exact hzero (value.number_eq_zero_iff.mp hnumber.symm)

end DecimalTuple

variable (value : DecimalTuple)

theorem partitionPoint_formatFixed : partitionPoint value.formatFixed =
      ((if value.sign then ['-'] else []) ++ value.fixedParts.1,
        decide (value.fixedParts.2 ≠ []), value.fixedParts.2) := by
  obtain ⟨hwhole, -, -⟩ := value.fixedParts_spec
  refine partitionPoint_dotted ?_ value.fixedParts.2
  rw [mem_append, not_or]
  refine ⟨?_, point_not_mem hwhole.digits⟩
  split <;> decide

theorem canonicalDecimal_eq : canonicalDecimal value = some value.plain.text := by
  obtain ⟨hwhole, hfraction, -⟩ := value.fixedParts_spec
  generalize hp : (⟨value.sign, value.fixedParts.1, rstrip '0' value.fixedParts.2⟩ :
    PlainDecimal) = p
  have hform : p.WellFormed := by
    subst hp
    refine ⟨hwhole, ?_⟩
    obtain ⟨n, hn⟩ := rstrip_zeros value.fixedParts.2
    rw [hn] at hfraction
    exact (digitText_append.mp hfraction).1
  have hkept : (if decide (value.fixedParts.2 ≠ []) = true then rstrip '0' value.fixedParts.2
      else []) = rstrip '0' value.fixedParts.2 := by
    by_cases hnil : value.fixedParts.2 = []
    · rw [hnil]
      rfl
    · rw [if_pos (by simpa using hnil)]
  have hresult : canonicalDecimal value =
      (decimalOfText p.text).bind fun parsed => some (if parsed.isZero then ['0'] else p.text) := by
    unfold canonicalDecimal
    simp only [partitionPoint_formatFixed, hkept]
    subst hp
    rfl
  have hzero : (⟨p.negative, p.coefficient, -p.fraction.length⟩ : DecimalTuple).isZero =
      value.isZero := by
    have hnumber : p.value = (if value.sign then -1 else 1) *
        (value.coefficient * 10 ^ value.exponent) := by
      subst hp
      unfold PlainDecimal.value PlainDecimal.coefficient
      rw [trimmed_quotient, value.fixedParts_spec.2.2]
    have hiff : p.coefficient = 0 ↔ value.coefficient = 0 := by
      rw [← value_eq_zero_iff, hnumber, ← value.number_eq_zero_iff]
      rfl
    simp only [DecimalTuple.isZero, hiff]
  rw [hresult, decimalOfText_text hform, Option.bind_some, hzero]
  unfold DecimalTuple.plain
  rw [hp]
  split <;> rfl

variable {text : List Char}

theorem rstrip_self {c : Char} (h : text.getLast? ≠ some c) : rstrip c text = text := by
  unfold rstrip
  rw [rdropWhile_eq_self_iff]
  intro hne hlast
  exact h (by rw [getLast?_eq_getLast_of_ne_nil hne, show text.getLast hne = c by
    simpa using hlast])

theorem rstrip_append_replicate (c : Char) (text : List Char) (n : Nat) :
    rstrip c (text ++ List.replicate n c) = rstrip c text := by
  induction n with
  | zero => simp
  | succ _ ih =>
    rw [replicate_succ', ← append_assoc]
    unfold rstrip at ih ⊢
    rw [rdropWhile_concat_pos _ _ _ (by simp), ih]

theorem getLast_ne_of_digits (h : DigitText text) : text.getLast? ≠ some '.' := fun hlast =>
  point_not_mem h (mem_of_getLast? hlast)

/-- Trimming zeros and then a bare point leaves the trimmed fraction with its point. -/
theorem rstrip_placed {whole : List Char} (hwhole : DigitText whole) {fraction : List Char}
    (hfraction : DigitText fraction) :
    rstrip '.' (rstrip '0' (whole ++ '.' :: fraction)) =
      whole ++ dotted (rstrip '0' fraction) := by
  obtain ⟨n, hn⟩ := rstrip_zeros fraction
  have hlast := rstrip_getLast '0' fraction
  generalize rstrip '0' fraction = kept at hn hlast
  subst hn
  obtain ⟨hkept, -⟩ := digitText_append.mp hfraction
  have hzeros : rstrip '0' (whole ++ '.' :: (kept ++ List.replicate n '0')) =
      whole ++ '.' :: kept := by
    rw [← cons_append, ← append_assoc, rstrip_append_replicate, rstrip_self]
    rw [getLast?_append, getLast?_cons]
    cases h : kept.getLast? with
    | none => simp
    | some =>
      rw [h] at hlast
      simpa using hlast
  rw [hzeros]
  unfold dotted
  by_cases hnil : kept = []
  · rw [if_pos hnil, hnil, append_nil]
    have hpoint : rstrip '.' (whole ++ ['.']) = rstrip '.' whole :=
      rstrip_append_replicate '.' whole 1
    rw [hpoint, rstrip_self (getLast_ne_of_digits hwhole)]
  · rw [if_neg hnil, rstrip_self]
    rw [getLast?_append, getLast?_cons]
    have hne := getLast_ne_of_digits hkept
    cases h : kept.getLast? with
    | none => exact absurd (getLast?_eq_none_iff.mp h) hnil
    | some =>
      rw [h] at hne
      simpa using hne

theorem canonicalResultDecimal_eq : canonicalResultDecimal value = value.plain.text := by
  unfold canonicalResultDecimal DecimalTuple.plain
  by_cases hzero : value.isZero = true
  · rw [if_pos hzero, if_pos hzero]
    rfl
  rw [if_neg hzero, if_neg hzero]
  have hparts := value.fixedParts_of_ne_zero (by simpa [DecimalTuple.isZero] using hzero)
  obtain ⟨hwhole, hfraction, -⟩ := value.fixedParts_spec
  -- the magnitude, however the exponent places the point
  have htext : (if 0 ≤ value.exponent then
        value.digits ++ List.replicate value.exponent.toNat '0'
      else
        rstrip '.' (rstrip '0' (if 0 < (value.digits.length : Int) + value.exponent then
          value.digits.take (↑value.digits.length + value.exponent).toNat ++
            '.' :: value.digits.drop (↑value.digits.length + value.exponent).toNat
        else '0' :: '.' :: (List.replicate (-(↑value.digits.length + value.exponent)).toNat '0' ++
          value.digits)))) =
      value.fixedParts.1 ++ dotted (rstrip '0' value.fixedParts.2) := by
    by_cases hexponent : 0 ≤ value.exponent
    · rw [if_pos hexponent, hparts]
      by_cases hpos : 0 < value.exponent
      · rw [if_pos hpos]
        simp [dotted, rstrip]
      · have he : value.exponent = 0 := by omega
        have hlength := value.digits_length_pos
        rw [if_neg hpos, he, if_pos (by omega)]
        simp [dotted, rstrip]
    · rw [if_neg (by omega)] at hparts
      rw [if_neg hexponent]
      by_cases hpoint : 0 < (value.digits.length : Int) + value.exponent
      · rw [if_pos hpoint] at hparts
        rw [hparts] at hwhole hfraction ⊢
        rw [if_pos hpoint]
        exact rstrip_placed hwhole.digits hfraction
      · rw [if_neg hpoint] at hparts
        rw [hparts] at hwhole hfraction ⊢
        rw [if_neg hpoint]
        exact rstrip_placed hwhole.digits hfraction
  dsimp only
  rw [htext]
  unfold text
  cases value.sign with
  | false => simp
  | true =>
    have hsame : ∀ text : List Char, (if text = ['0'] then ['0'] else text) = text := by
      intro text
      split
      next he => exact he.symm
      · rfl
    simp [hsame]

/-! ## Round trips -/

/-- The result models admit a value: some accepted text denotes its number. -/
def Admitted (value : DecimalTuple) : Prop :=
  ∃ text parsed, validateResultDecimalText text = .ok text ∧ decimalOfText text = some parsed ∧
    parsed.number = value.number

theorem text_of_validated {parsed : DecimalTuple} (h : validateResultDecimalText text = .ok text)
    (hparsed : decimalOfText text = some parsed) :
    text = parsed.plain.text := by
  obtain ⟨-, h⟩ := of_ite_ne h nofun
  rw [hparsed] at h
  obtain ⟨-, h⟩ := of_ite_ne h nofun
  obtain ⟨hsame, h⟩ := of_ite_ne h nofun
  rw [← canonicalResultDecimal_eq, not_ne_iff.mp hsame]

variable (other : DecimalTuple)

theorem plain_eq_iff : value.plain = other.plain ↔ value.number = other.number := by
  rw [← value.plain_value, ← other.plain_value]
  constructor
  · intro h
    rw [h]
  · exact value.plain_canonical.eq_of_value other.plain_canonical

theorem number_of_text :
    ∃ parsed, decimalOfText value.plain.text = some parsed ∧ parsed.number = value.number := by
  refine ⟨_, decimalOfText_text value.plain_canonical.toWellFormed, ?_⟩
  rw [number_of_plain, value.plain_value]

theorem plain_text_iff : value.plain.text = other.plain.text ↔ value.number = other.number := by
  constructor
  · intro h
    obtain ⟨parsed, hparsed, hnumber⟩ := number_of_text value
    obtain ⟨parsed', hparsed', hnumber'⟩ := number_of_text other
    rw [h, hparsed'] at hparsed
    rw [← hnumber, ← hnumber', Option.some.inj hparsed]
  · intro h
    rw [(plain_eq_iff value other).mpr h]

/-- A plain text is a sign and a point longer than its digits, leading zero included. -/
theorem text_length_le (h : p.WellFormed) :
    p.text.length ≤ 2 + max (Nat.toDigits 10 p.coefficient).length (1 + p.fraction.length) := by
  have htext : p.text.length ≤ 2 + (p.whole.length + p.fraction.length) := by
    unfold text dotted
    cases p.negative <;> by_cases hnil : p.fraction = [] <;> simp [hnil] <;> omega
  by_cases hzero : p.whole = ['0']
  · rw [hzero] at htext
    simp only [length_singleton] at htext
    omega
  · -- nothing leads in vain, so the coefficient has all the digits
    have hnumeral := h.whole.take_append hzero (length_pos_iff.mpr h.whole.nonempty) _ h.fraction
    rw [take_length] at hnumeral
    have hdigits : Nat.toDigits 10 p.coefficient = p.whole ++ p.fraction :=
      (numeral_toDigits _).eq_of_digitValue hnumeral (digitValue_toDigits _)
    rw [hdigits, length_append]
    omega

/-- The envelope of the validator, on the canonical decimal: at most 64 digits without
leading zeros, at most 6206 of them after the point. -/
theorem admitted_iff : Admitted value ↔ (Nat.toDigits 10 value.plain.coefficient).length ≤ 64 ∧
      value.plain.fraction.length ≤ 6206 := by
  have hcanonical := value.plain_canonical
  have hparsed := decimalOfText_text hcanonical.toWellFormed
  have hnumber := (number_of_plain value.plain).trans value.plain_value
  generalize hrow : (⟨value.plain.negative, value.plain.coefficient,
    -value.plain.fraction.length⟩ : DecimalTuple) = parsed at hparsed hnumber
  have hdigits : parsed.digits = Nat.toDigits 10 value.plain.coefficient := by
    rw [← hrow]
    rfl
  have hexponent : parsed.exponent = -value.plain.fraction.length := by rw [← hrow]
  have hsame : value.plain.text = canonicalResultDecimal parsed := by
    rw [canonicalResultDecimal_eq]
    exact (plain_text_iff value parsed).mpr hnumber.symm
  constructor
  · rintro ⟨text, other, hvalid, hother, hequal⟩
    have htext : text = value.plain.text :=
      (text_of_validated hvalid hother).trans ((plain_text_iff other value).mpr hequal)
    subst htext
    obtain ⟨-, hvalid⟩ := of_ite_ne hvalid nofun
    rw [hparsed] at hvalid
    obtain ⟨hfits, hvalid⟩ := of_ite_ne hvalid nofun
    rw [hdigits, hexponent] at hfits
    omega
  · rintro ⟨hlength, hplaces⟩
    refine ⟨value.plain.text, parsed, ?_, hparsed, hnumber⟩
    have hshort : ¬ (6211 < value.plain.text.length ∨
        matchesResultDecimal value.plain.text = false) := by
      have hbound := text_length_le hcanonical.toWellFormed
      rw [matchesResultDecimal_text hcanonical.toWellFormed]
      simp only [Bool.true_eq_false, or_false, not_lt]
      omega
    have hfits : ¬ (64 < parsed.digits.length ∨ parsed.exponent < -6206 ∨
        6144 < parsed.adjusted) := by
      unfold DecimalTuple.adjusted
      rw [hdigits, hexponent]
      omega
    unfold validateResultDecimalText
    rw [if_neg hshort, hparsed]
    dsimp only
    rw [if_neg hfits, if_neg (by simpa using hsame)]

/-- Canonical decimals round-trip. -/
theorem canonicalDecimal_roundTrip (value : DecimalTuple) (h : Admitted value) :
    (∃ text parsed, canonicalDecimal value = some text ∧
      validateResultDecimalText text = .ok text ∧ canonicalResultDecimal value = text ∧
      decimalOfText text = some parsed ∧ parsed.number = value.number) ∧
    ∀ other, Admitted other →
      (canonicalDecimal value = canonicalDecimal other ↔ value.number = other.number) := by
  obtain ⟨text, parsed, hvalid, hparsed, hnumber⟩ := h
  have htext : text = value.plain.text :=
    (text_of_validated hvalid hparsed).trans ((plain_text_iff parsed value).mpr hnumber)
  subst htext
  refine ⟨⟨_, parsed, canonicalDecimal_eq value, hvalid, canonicalResultDecimal_eq value, hparsed,
    hnumber⟩, ?_⟩
  intro other _
  rw [canonicalDecimal_eq, canonicalDecimal_eq, Option.some.injEq]
  exact plain_text_iff value other

/-- `Decimal("1.50")` renders as `1.5`, the same as `Decimal("15E-1")`; a negative zero with
an exponent is `0`. -/
theorem canonicalDecimal_roundTrip_trailingZero :
    canonicalDecimal ⟨false, 150, -2⟩ = some ['1', '.', '5'] ∧
    validateResultDecimalText ['1', '.', '5'] = .ok ['1', '.', '5'] ∧
    canonicalDecimal ⟨false, 150, -2⟩ = canonicalDecimal ⟨false, 15, -1⟩ ∧
    canonicalDecimal ⟨true, 0, 3⟩ = some ['0'] := by
  have hadmitted : Admitted ⟨false, 150, -2⟩ := (admitted_iff _).mpr (by decide +kernel)
  have hother : Admitted ⟨false, 15, -1⟩ := (admitted_iff _).mpr (by decide +kernel)
  obtain ⟨⟨text, -, htext, hvalid, -⟩, hsame⟩ := canonicalDecimal_roundTrip _ hadmitted
  have hrendered : canonicalDecimal ⟨false, 150, -2⟩ = some ['1', '.', '5'] := by decide +kernel
  obtain rfl : text = ['1', '.', '5'] := Option.some.inj (htext.symm.trans hrendered)
  refine ⟨hrendered, hvalid, (hsame _ hother).mpr ?_, by decide +kernel⟩
  norm_num [DecimalTuple.number]

end Thytrader.Backtest

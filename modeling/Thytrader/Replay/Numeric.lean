import Thytrader.Backtest.ResultDecimals
import Thytrader.MarketData.Instruments

/-!
# The financial envelope of a replay

`replay/numeric.py`: the limits on a `Decimal` of a replay package, and the bounded reading of
financial text.

The limits are checked on the stored representation: adjusted and raw exponent, length of the
coefficient, digits left without its trailing zeros. The text that `canonical_decimal` writes reads
back as another representation of the same number, so the limits are stated about the number
(`InEnvelope`).

Mirroring notes: `Decimal(text)` is the constructor of the standard library, exact, with the
documented grammar (outer white space stripped, underscores dropped, Unicode digits, an
exponent, the nonfinite names) and the exponent range of its C implementation. A signal it
raises is `none`, as for `decimalOfText`.
-/

namespace Thytrader.Replay

open Lib Backtest MarketData List PlainDecimal Nat

/-! ## `Decimal(text)` -/

/-- A `Decimal`, the nonfinite ones included. -/
inductive DecimalValue where
  | finite (tuple : DecimalTuple)
  | infinity (sign : Bool)
  | nan (sign signaling : Bool)
  deriving DecidableEq, Repr

/-- `Py_UNICODE_TODECIMAL`, the digit put back as ASCII. Other characters stay. -/
def asciiDigit (c : Char) : Char :=
  match digitZeros.find? (fun start => start ≤ c.toNat && c.toNat ≤ start + 9) with
  | some start => Char.ofNat (48 + (c.toNat - start))
  | none => c

/-- An optional sign, and what follows it. -/
def splitSign (text : List Char) : Bool × List Char :=
  if text.head? = some '-' then (true, text.tail)
  else if text.head? = some '+' then (false, text.tail)
  else (false, text)

/-- The leading digits, and what follows them. -/
def splitDigits (text : List Char) : List Char × List Char :=
  (text.takeWhile (·.isDigit), text.dropWhile (·.isDigit))

/-- The digits after a point, if there is one, and what follows them. -/
def splitFraction (text : List Char) : List Char × List Char :=
  if text.head? = some '.' then splitDigits text.tail else ([], text)

/-- `(?:[eE][+-]?\d+)?`, up to the end of the text. -/
def readExponent : List Char → Option Int
  | [] => some 0
  | c :: rest =>
    let (negative, digits) := splitSign rest
    if (c = 'e' ∨ c = 'E') ∧ digits ≠ [] ∧ digits.all (·.isDigit) then
      some (if negative then -digitValue digits else digitValue digits)
    else none

/-- `(?:\d+(?:\.\d*)?|\.\d+)` with its exponent. -/
def readNumeric (negative : Bool) (text : List Char) : Option DecimalTuple :=
  let (whole, rest) := splitDigits text
  let (fraction, rest) := splitFraction rest
  if whole ++ fraction = [] then none
  else (readExponent rest).map fun exponent =>
    ⟨negative, digitValue (whole ++ fraction), exponent - fraction.length⟩

/-- `Inf`, `Infinity`, `NaN` and `sNaN` with their diagnostics, in lower case. -/
def readSpecial (negative : Bool) (lower : List Char) : Option DecimalValue :=
  if lower = ['i', 'n', 'f'] ∨ lower = ['i', 'n', 'f', 'i', 'n', 'i', 't', 'y'] then
    some (.infinity negative)
  else if lower.take 3 = ['n', 'a', 'n'] ∧ (lower.drop 3).all (·.isDigit) then
    some (.nan negative false)
  else if lower.take 4 = ['s', 'n', 'a', 'n'] ∧ (lower.drop 4).all (·.isDigit) then
    some (.nan negative true)
  else none

/-- The range `MIN_ETINY` to `MAX_EMAX` in which a tuple is kept exactly. -/
def Representable (tuple : DecimalTuple) : Prop :=
  -1999999999999999997 ≤ tuple.exponent ∧ tuple.adjusted ≤ 999999999999999999

instance (tuple : DecimalTuple) : Decidable (Representable tuple) :=
  inferInstanceAs (Decidable (_ ∧ _))

/-- `Decimal(text)`; `none` is `InvalidOperation`. -/
def decimalFromText (text : List Char) : Option DecimalValue :=
  let ascii := ((strip text).filter (· ≠ '_')).map asciiDigit
  let (negative, body) := splitSign ascii
  match readSpecial negative (body.map Char.toLower) with
  | some special => some special
  | none =>
    match readNumeric negative body with
    | some tuple => if Representable tuple then some (.finite tuple) else none
    | none => none

/-! ## The limits -/

def precision : Nat := 64

def minAdjusted : Int := -128

def maxAdjusted : Int := 128

def minExponent : Int := minAdjusted - precision + 1

def maxTextLength : Nat := 196

/-- The loop of `validate_decimal`: the digits left when trailing zeros are cut. -/
def trimmedSize (digits : List Char) : Nat → Nat
  | size + 2 => if digits[size + 1]? = some '0' then trimmedSize digits (size + 1) else size + 2
  | size => size

def validateDecimal (value : DecimalValue) : Result DecimalTuple :=
  match value with
  | .finite tuple =>
    if tuple.adjusted < minAdjusted ∨ maxAdjusted < tuple.adjusted then
      .error (.valueError "replay financial evidence exceeds the finite Decimal envelope")
    else if tuple.exponent < minExponent ∨ maxAdjusted < tuple.exponent then
      .error (.valueError "replay financial evidence exceeds the finite Decimal envelope")
    else if maxTextLength < tuple.digits.length then
      .error (.valueError "replay financial coefficient exceeds the lexical budget")
    else if precision < trimmedSize tuple.digits tuple.digits.length then
      .error (.valueError "replay financial evidence exceeds the finite Decimal envelope")
    else .ok tuple
  | _ => .error (.valueError "replay financial evidence exceeds the finite Decimal envelope")

def financialText (text : List Char) : Result DecimalTuple :=
  if maxTextLength < text.length then
    .error (.valueError "replay financial text exceeds the lexical budget")
  else
    match decimalFromText text with
    | some value => validateDecimal value
    | none => .error (.valueError "replay financial text exceeds the finite Decimal envelope")

/-! ## Reading plain texts -/

/-- The characters of a plain decimal. -/
def PlainChar (c : Char) : Prop := c = '-' ∨ c = '.' ∨ c.isDigit = true

section

variable {c : Char} (h : PlainChar c)
include h

theorem plain_bounds : 45 ≤ c.toNat ∧ c.toNat ≤ 57 := by
  obtain rfl | rfl | hdigit := h
  · decide
  · decide
  · obtain ⟨hlow, hhigh⟩ := isDigit_bounds hdigit
    omega

theorem plain_not_space : c.toNat ∉ whitespacePoints := by
  obtain ⟨hlow, hhigh⟩ := plain_bounds h
  simp only [whitespacePoints, mem_cons, not_mem_nil, or_false]
  omega

theorem plain_ne_underscore : c ≠ '_' := by
  rintro rfl
  have hbounds := plain_bounds h
  exact absurd hbounds (by decide)

theorem asciiDigit_plain : asciiDigit c = c := by
  obtain rfl | rfl | hdigit := h
  · rfl
  · rfl
  · obtain ⟨hlow, hhigh⟩ := isDigit_bounds hdigit
    have hfind : digitZeros.find? (fun start => start ≤ c.toNat && c.toNat ≤ start + 9) =
        some 0x30 := by
      unfold digitZeros
      rw [find?_cons_of_pos]
      simp only [Bool.and_eq_true, decide_eq_true_eq]
      omega
    unfold asciiDigit
    rw [hfind]
    dsimp only
    rw [show 48 + (c.toNat - 48) = c.toNat by omega]
    exact Char.ofNat_toNat c

end

variable {text : List Char} {value : DecimalValue}

theorem strip_plain (h : ∀ c ∈ text, PlainChar c) : strip text = text := by
  have hkeep : ∀ cs : List Char, (∀ c ∈ cs, PlainChar c) →
      cs.dropWhile (fun c : Char => decide (c.toNat ∈ whitespacePoints)) = cs := by
    intro cs hcs
    cases cs with
    | nil => rfl
    | cons c =>
      simpa using plain_not_space (hcs c (by simp))
  unfold strip
  dsimp only
  rw [hkeep text h, hkeep text.reverse (fun c hc => h c (mem_reverse.mp hc)), reverse_reverse]

variable {p : PlainDecimal}

theorem text_plain (h : p.WellFormed) : ∀ c ∈ p.text, PlainChar c := by
  intro c hc
  unfold text dotted at hc
  rw [mem_append, mem_append] at hc
  obtain (hsign | hwhole) | hfraction := hc
  · cases hneg : p.negative <;> rw [hneg] at hsign <;> simp at hsign
    exact .inl hsign
  · exact .inr (.inr (h.whole.digits c hwhole))
  · by_cases hnil : p.fraction = []
    · rw [if_pos hnil] at hfraction
      cases hfraction
    · rw [if_neg hnil] at hfraction
      rcases mem_cons.mp hfraction with rfl | hmem
      · exact .inr (.inl rfl)
      · exact .inr (.inr (h.fraction c hmem))

theorem ascii_plain (h : p.WellFormed) :
    ((strip p.text).filter (· ≠ '_')).map asciiDigit = p.text := by
  have hplain := text_plain h
  rw [strip_plain hplain, filter_eq_self.mpr fun c hc => by
    simpa using plain_ne_underscore (hplain c hc)]
  exact (map_congr_left fun c hc => asciiDigit_plain (hplain c hc)).trans (map_id _)

theorem digit_ne {c d : Char} (h : c.isDigit = true) (hd : d.isDigit = false) : c ≠ d := by
  rintro rfl
  exact absurd h (by simp [hd])

theorem splitSign_text (h : p.WellFormed) :
    splitSign p.text = (p.negative, p.whole ++ dotted p.fraction) := by
  obtain ⟨hsign, hbody⟩ := text_body h
  unfold splitSign
  cases hneg : p.negative with
  | true =>
    rw [if_pos (hsign.mpr hneg)] at hbody ⊢
    rw [hbody]
  | false =>
    have hhead : p.text.head? ≠ some '-' := fun hminus => by simp [hsign.mp hminus] at hneg
    rw [if_neg hhead] at hbody ⊢
    obtain ⟨c, rest, hwhole⟩ := exists_cons_of_ne_nil h.whole.nonempty
    have hplus : p.text.head? ≠ some '+' := by
      have hdigit : c.isDigit = true := h.whole.digits c (by rw [hwhole]; simp)
      rw [hbody, hwhole, cons_append, head?_cons, ne_eq, Option.some.injEq]
      exact digit_ne hdigit rfl
    rw [if_neg hplus, hbody]

theorem splitDigits_append {digits rest : List Char} (h : DigitText digits)
    (hrest : ∀ c ∈ rest.head?, c.isDigit = false) :
    splitDigits (digits ++ rest) = (digits, rest) := by
  unfold splitDigits
  rw [takeWhile_append_of_pos h, dropWhile_append_of_pos h]
  cases rest with
  | nil => simp
  | cons c =>
    have hc := hrest c rfl
    rw [takeWhile_cons_of_neg (by simp [hc]), dropWhile_cons_of_neg (by simp [hc]), append_nil]

theorem readNumeric_plain (h : p.WellFormed) :
    readNumeric p.negative (p.whole ++ dotted p.fraction) =
      some ⟨p.negative, p.coefficient, -p.fraction.length⟩ := by
  have hne : p.whole ++ p.fraction ≠ [] := by simp [h.whole.nonempty]
  have hsplit : splitDigits (p.whole ++ dotted p.fraction) =
      (p.whole, dotted p.fraction) := by
    refine splitDigits_append h.whole.digits ?_
    unfold dotted
    split
    · simp
    · intro c hc
      obtain rfl : '.' = c := by simpa using hc
      rfl
  have hfraction : splitFraction (dotted p.fraction) = (p.fraction, []) := by
    unfold splitFraction dotted
    by_cases hnil : p.fraction = []
    · rw [if_pos hnil, hnil]
      rfl
    · rw [if_neg hnil, if_pos (by rfl)]
      have hdigits := @splitDigits_append p.fraction [] h.fraction (by simp)
      rwa [append_nil] at hdigits
  unfold readNumeric
  rw [hsplit]
  dsimp only
  rw [hfraction]
  rw [if_neg hne]
  simp only [readExponent, Option.map_some, zero_sub]
  rfl

/-- No name of a nonfinite value starts with a digit. -/
theorem readSpecial_digit (negative : Bool) {c : Char} (h : c.isDigit = true) (rest : List Char) :
    readSpecial negative (c :: rest) = none := by
  have hi : c ≠ 'i' := digit_ne h rfl
  have hn : c ≠ 'n' := digit_ne h rfl
  have hs : c ≠ 's' := digit_ne h rfl
  unfold readSpecial
  rw [if_neg, if_neg, if_neg]
  · simp [hs]
  · simp [hn]
  · simp [hi]

theorem decimalFromText_text (h : p.WellFormed)
    (hrange : Representable ⟨p.negative, p.coefficient, -p.fraction.length⟩) :
    decimalFromText p.text = some (.finite ⟨p.negative, p.coefficient, -p.fraction.length⟩) := by
  obtain ⟨c, rest, hwhole⟩ := exists_cons_of_ne_nil h.whole.nonempty
  have hdigit : c.isDigit = true := h.whole.digits c (by rw [hwhole]; simp)
  have hlower : c.toLower = c := by
    obtain ⟨-, hhigh⟩ := isDigit_bounds hdigit
    refine dif_neg fun hupper => ?_
    have hlow : 65 ≤ c.toNat := by simpa [UInt32.le_iff_toNat_le] using hupper.1
    omega
  have hspecial : readSpecial p.negative
      ((p.whole ++ dotted p.fraction).map Char.toLower) = none := by
    rw [hwhole, cons_append, map_cons, hlower]
    exact readSpecial_digit p.negative hdigit _
  unfold decimalFromText
  rw [ascii_plain h]
  dsimp only
  rw [splitSign_text h]
  rw [hspecial, readNumeric_plain h]
  exact if_pos hrange

/-! ## The envelope as a set of numbers -/

/-- A number whose last digit counts is written with the fewest digits. -/
theorem le_of_not_dvd {a m : Nat} {i j : Int} (ha : ¬ 10 ∣ a)
    (h : (a : ℚ) * 10 ^ i = m * 10 ^ j) : a ≤ m := by
  have hten : (10 : ℚ) ≠ 0 := by norm_num
  by_cases hij : j ≤ i
  · obtain ⟨n, hn⟩ := Int.eq_ofNat_of_zero_le (show 0 ≤ i - j by omega)
    have hm : m = a * 10 ^ n := by
      rw [show i = n + j by omega, zpow_add₀ hten, ← mul_assoc, zpow_natCast] at h
      exact_mod_cast (mul_right_cancel₀ (zpow_ne_zero j hten) h).symm
    rw [hm]
    exact Nat.le_mul_of_pos_right a (Nat.pow_pos (by omega))
  · obtain ⟨n, hn⟩ := Int.eq_ofNat_of_zero_le (show 0 ≤ j - i - 1 by omega)
    have hm : a = m * 10 ^ (n + 1) := by
      rw [show j = (n + 1 : Nat) + i by push_cast; omega, zpow_add₀ hten, ← mul_assoc,
        zpow_natCast] at h
      exact_mod_cast mul_right_cancel₀ (zpow_ne_zero i hten) h
    exact absurd ⟨m * 10 ^ n, by rw [hm]; ring⟩ ha

/-- The numbers of the envelope: zero, and what `precision` digits and a power of ten write
within the adjusted exponents. -/
def InEnvelope (number : ℚ) : Prop :=
  number = 0 ∨ (10 : ℚ) ^ minAdjusted ≤ |number| ∧ |number| < 10 ^ (maxAdjusted + 1) ∧
    ∃ (digits : Nat) (place : Int), digits < 10 ^ precision ∧ |number| = digits * 10 ^ place

/-- The loop cuts zeros, and stops at a digit that is not one or at the first digit. -/
theorem trimmedSize_spec (digits : List Char) {size : Nat} (hsize : size ≤ digits.length) :
    trimmedSize digits size ≤ size ∧
      (∃ n, digits.take size = digits.take (trimmedSize digits size) ++ List.replicate n '0') ∧
      (1 < trimmedSize digits size → digits[trimmedSize digits size - 1]? ≠ some '0') := by
  fun_induction trimmedSize digits size with
  | case1 size hlast ih =>
    obtain ⟨hle, ⟨n, hn⟩, hstop⟩ := ih (by omega)
    refine ⟨by omega, ⟨n + 1, ?_⟩, hstop⟩
    rw [take_add_one, hlast, hn, replicate_succ', append_assoc]
    rfl
  | case2 size hlast => exact ⟨le_rfl, ⟨0, by simp⟩, fun _ => hlast⟩
  | case3 size hsmall =>
    refine ⟨le_rfl, ⟨0, by simp⟩, fun hlt => ?_⟩
    exact (hsmall (size - 2) (by omega)).elim

section

variable (tuple : DecimalTuple)

theorem abs_number : |tuple.number| = tuple.coefficient * 10 ^ tuple.exponent := by
  have hnonneg : (0 : ℚ) ≤ tuple.coefficient * 10 ^ tuple.exponent :=
    mul_nonneg (cast_nonneg _) (zpow_nonneg (by norm_num) _)
  unfold DecimalTuple.number
  rw [abs_mul, abs_of_nonneg hnonneg]
  cases tuple.sign <;> simp

theorem adjusted_decade (hzero : tuple.coefficient ≠ 0) :
    (10 : ℚ) ^ tuple.adjusted ≤ |tuple.number| ∧ |tuple.number| < 10 ^ (tuple.adjusted + 1) := by
  have hten : (10 : ℚ) ≠ 0 := by norm_num
  have hvalue : digitValue tuple.digits = tuple.coefficient := digitValue_toDigits _
  have hpos := tuple.digits_length_pos
  have hlow : 10 ^ (tuple.digits.length - 1) ≤ tuple.coefficient := by
    rw [← hvalue]
    refine tuple.digits_numeral.le_digitValue fun he => hzero ?_
    rw [← hvalue, he]
    rfl
  have hhigh : tuple.coefficient < 10 ^ tuple.digits.length := by
    rw [← hvalue]
    exact digitValue_lt tuple.digits_numeral.digits
  have hplace : (0 : ℚ) < 10 ^ tuple.exponent := zpow_pos (by norm_num) _
  have hadjusted : tuple.adjusted = (tuple.digits.length - 1 : Nat) + tuple.exponent := by
    unfold DecimalTuple.adjusted
    omega
  have hnext : tuple.adjusted + 1 = (tuple.digits.length : Nat) + tuple.exponent := by
    omega
  rw [abs_number, hnext, hadjusted, zpow_add₀ hten, zpow_add₀ hten, zpow_natCast, zpow_natCast]
  exact ⟨mul_le_mul_of_nonneg_right (by exact_mod_cast hlow) hplace.le,
    mul_lt_mul_of_pos_right (by exact_mod_cast hhigh) hplace⟩

/-- The coefficient is the digits the loop keeps, times a power of ten. -/
theorem coefficient_trimmed :
    ∃ n, tuple.coefficient =
      digitValue (tuple.digits.take (trimmedSize tuple.digits tuple.digits.length)) * 10 ^ n := by
  obtain ⟨-, ⟨n, hn⟩, -⟩ := trimmedSize_spec tuple.digits le_rfl
  refine ⟨n, ?_⟩
  have hvalue : digitValue tuple.digits = tuple.coefficient := digitValue_toDigits _
  rw [take_length] at hn
  rw [← hvalue, congrArg digitValue hn, digitValue_append, digitValue_zeros, length_replicate,
    add_zero]

theorem trimmed_iff :
    trimmedSize tuple.digits tuple.digits.length ≤ precision ↔
      ∃ (digits : Nat) (place : Int), digits < 10 ^ precision ∧
        |tuple.number| = digits * 10 ^ place := by
  have hten : (10 : ℚ) ≠ 0 := by norm_num
  obtain ⟨hle, -, hstop⟩ := trimmedSize_spec tuple.digits le_rfl
  obtain ⟨n, hcoefficient⟩ := coefficient_trimmed tuple
  have hnumeral := tuple.digits_numeral
  generalize htrimmed : trimmedSize tuple.digits tuple.digits.length = kept at *
  have hdigits : DigitText (tuple.digits.take kept) := fun c hc =>
    hnumeral.digits c (mem_of_mem_take hc)
  have hlength : (tuple.digits.take kept).length = kept := by
    rw [length_take]
    omega
  have hplaced : |tuple.number| =
      digitValue (tuple.digits.take kept) * 10 ^ ((n : Int) + tuple.exponent) := by
    rw [abs_number, congrArg Nat.cast hcoefficient, zpow_add₀ hten, zpow_natCast]
    push_cast
    ring
  constructor
  · intro hkept
    refine ⟨digitValue (tuple.digits.take kept), n + tuple.exponent, ?_, hplaced⟩
    refine (digitValue_lt hdigits).trans_le ?_
    rw [hlength]
    exact Nat.pow_le_pow_right (by omega) hkept
  · rintro ⟨digits, place, hbound, hnumber⟩
    by_contra hkept
    have hprecision : precision = 64 := rfl
    -- the last digit kept is not zero, and nothing leads in vain
    have hne : tuple.digits ≠ ['0'] := by
      intro he
      rw [he] at hle
      simp only [length_singleton] at hle
      omega
    have hkeptNumeral : Numeral (tuple.digits.take kept) := by
      have htake := hnumeral.take_append hne (by omega : 0 < kept) [] (by simp [DigitText])
      rwa [append_nil] at htake
    have hlarge : 10 ^ (kept - 1) ≤ digitValue (tuple.digits.take kept) := by
      have hbelow := hkeptNumeral.le_digitValue fun he => by
        rw [he] at hlength
        simp only [length_singleton] at hlength
        omega
      rwa [hlength] at hbelow
    have hdvd : ¬ 10 ∣ digitValue (tuple.digits.take kept) := by
      have hlast := hstop (by omega)
      obtain ⟨last, hget⟩ : ∃ last, tuple.digits[kept - 1]? = some last :=
        ⟨_, getElem?_eq_getElem (by omega)⟩
      have hdigit : last.isDigit = true := hnumeral.digits last (mem_of_getElem? hget)
      have hvalue : charValue last ≠ 0 := by
        intro hzero
        have hchar : last = '0' := charValue_inj hdigit rfl hzero
        exact hlast (by rw [hget, hchar])
      have hlt := charValue_lt hdigit
      rw [show kept = kept - 1 + 1 by omega, take_add_one, hget]
      rw [Option.toList_some, digitValue_concat]
      omega
    have hmost := le_of_not_dvd hdvd (hplaced.symm.trans hnumber)
    have hpow : 10 ^ precision ≤ 10 ^ (kept - 1) := Nat.pow_le_pow_right (by omega) (by omega)
    omega

end

variable {tuple : DecimalTuple}

/-- The limits of `validate_decimal`, on the number as far as they concern it. -/
theorem validateDecimal_iff : validateDecimal value = .ok tuple ↔ value = .finite tuple ∧
      (minAdjusted ≤ tuple.adjusted ∧ tuple.adjusted ≤ maxAdjusted) ∧
      (minExponent ≤ tuple.exponent ∧ tuple.exponent ≤ maxAdjusted) ∧
      tuple.digits.length ≤ maxTextLength ∧
      trimmedSize tuple.digits tuple.digits.length ≤ precision := by
  cases value with
  | infinity => exact ⟨fun h => absurd h (by simp [validateDecimal]), fun h => by simp at h⟩
  | nan =>
    exact ⟨fun h => absurd h (by simp [validateDecimal]), fun h => by simp at h⟩
  | finite =>
    simp only [validateDecimal, DecimalValue.finite.injEq]
    constructor
    · intro h
      obtain ⟨hadjusted, h⟩ := of_ite_ne h nofun
      obtain ⟨hexponent, h⟩ := of_ite_ne h nofun
      obtain ⟨hlength, h⟩ := of_ite_ne h nofun
      obtain ⟨htrimmed, h⟩ := of_ite_ne h nofun
      cases h
      refine ⟨rfl, ?_, ?_, ?_, ?_⟩ <;> omega
    · rintro ⟨rfl, hadjusted, hexponent, hlength, htrimmed⟩
      rw [if_neg (by omega), if_neg (by omega), if_neg (by omega), if_neg (by omega)]

theorem validated_inEnvelope (h : validateDecimal value = .ok tuple) : InEnvelope tuple.number := by
  obtain ⟨-, hadjusted, -, -, htrimmed⟩ := validateDecimal_iff.mp h
  by_cases hzero : tuple.coefficient = 0
  · exact .inl (tuple.number_eq_zero_iff.mpr hzero)
  · obtain ⟨hlow, hhigh⟩ := adjusted_decade tuple hzero
    have hten : (1 : ℚ) ≤ 10 := by norm_num
    exact .inr ⟨(zpow_le_zpow_right₀ hten hadjusted.1).trans hlow,
      hhigh.trans_le (zpow_le_zpow_right₀ hten (by omega)),
      (trimmed_iff tuple).mp htrimmed⟩

/-! ## Reading a written value -/

section

variable {q : PlainDecimal}

/-- What `Decimal(text)` makes of a plain text. -/
def readBack (q : PlainDecimal) : DecimalTuple := ⟨q.negative, q.coefficient, -q.fraction.length⟩

/-- The written digits of a number of the envelope: at most 129, at most 191 after the point. -/
theorem readBack_bounds (h : q.Canonical) (henvelope : InEnvelope q.value) :
    (minAdjusted ≤ (readBack q).adjusted ∧ (readBack q).adjusted ≤ maxAdjusted) ∧
      q.fraction.length ≤ 191 ∧ (readBack q).digits.length ≤ 129 ∧
      trimmedSize (readBack q).digits (readBack q).digits.length ≤ precision := by
  have hmin : minAdjusted = -128 := rfl
  have hmax : maxAdjusted = 128 := rfl
  have hprecision : precision = 64 := rfl
  have hadjusted : (readBack q).adjusted = -q.fraction.length + (readBack q).digits.length - 1 := rfl
  have hnumber : (readBack q).number = q.value := number_of_plain q
  by_cases hzero : q.coefficient = 0
  · have hfraction : q.fraction = [] := by
      by_contra hne
      exact h.not_dvd hne (hzero ▸ dvd_zero 10)
    have hdigits : (readBack q).digits = ['0'] := by
      unfold readBack DecimalTuple.digits
      rw [hzero, toDigits_zero]
    rw [hadjusted, hdigits, hfraction]
    simp only [length_nil, length_singleton, trimmedSize]
    omega
  · obtain hvalue | ⟨hlow, hhigh, hwritten⟩ := henvelope
    · exact absurd (value_eq_zero_iff.mp hvalue) hzero
    have hten : (1 : ℚ) < 10 := by norm_num
    obtain ⟨hbelow, habove⟩ := adjusted_decade (readBack q) hzero
    have htrimmed := (trimmed_iff (readBack q)).mpr (hnumber ▸ hwritten)
    rw [hnumber] at hbelow habove
    have hfloor := (zpow_lt_zpow_iff_right₀ hten).mp (hlow.trans_lt habove)
    have hceil := (zpow_lt_zpow_iff_right₀ hten).mp (hbelow.trans_lt hhigh)
    have hdigits : q.fraction ≠ [] → (readBack q).digits.length ≤ precision := by
      intro hne
      obtain ⟨digits, place, hbound, hequal⟩ := hwritten
      rw [← hnumber, abs_number] at hequal
      have hmost : q.coefficient ≤ digits := le_of_not_dvd (h.not_dvd hne) hequal
      by_contra hlong
      have hnumeral := (readBack q).digits_numeral
      have hlarge := hnumeral.le_digitValue fun he => by
        rw [he] at hlong
        simp only [length_singleton] at hlong
        omega
      have hcoefficient : digitValue (readBack q).digits = q.coefficient := digitValue_toDigits _
      have hpow : 10 ^ precision ≤ 10 ^ ((readBack q).digits.length - 1) :=
        Nat.pow_le_pow_right (by omega) (by omega)
      omega
    by_cases hnil : q.fraction = []
    · have hlength : q.fraction.length = 0 := by rw [hnil, length_nil]
      omega
    · have hshort := hdigits hnil
      omega

theorem financialText_text (h : q.Canonical) (henvelope : InEnvelope q.value) :
    q.text.length ≤ maxTextLength ∧ financialText q.text = .ok (readBack q) := by
  obtain ⟨hadjusted, hplaces, hlength, htrimmed⟩ := readBack_bounds h henvelope
  have hmax : maxAdjusted = 128 := rfl
  have hexponent : minExponent = -191 := rfl
  have hbudget : maxTextLength = 196 := rfl
  have hplaced : (readBack q).exponent = -q.fraction.length := rfl
  have hshort : q.text.length ≤ maxTextLength := by
    have hbound := text_length_le h.toWellFormed
    have hdigits : (readBack q).digits = toDigits 10 q.coefficient := rfl
    rw [← hdigits] at hbound
    omega
  refine ⟨hshort, ?_⟩
  unfold financialText
  have hrange : Representable (readBack q) := by
    unfold Representable
    omega
  rw [if_neg (by omega), decimalFromText_text h.toWellFormed hrange]
  refine validateDecimal_iff.mpr ⟨rfl, hadjusted, ?_, ?_, htrimmed⟩
  · omega
  · exact hlength.trans (by decide)

end

/-- What `validate_decimal` accepts is written within the budget, and the text is read as the
same number. -/
theorem validated_roundTrip (h : validateDecimal value = .ok tuple) :
    ∃ text read, canonicalDecimal tuple = some text ∧ text.length ≤ maxTextLength ∧
      financialText text = .ok read ∧ read.number = tuple.number ∧
      canonicalDecimal read = some text := by
  have hvalue := tuple.plain_value
  have henvelope : InEnvelope tuple.plain.value := by
    rw [hvalue]
    exact validated_inEnvelope h
  obtain ⟨hshort, hread⟩ := financialText_text tuple.plain_canonical henvelope
  have hnumber : (readBack tuple.plain).number = tuple.number :=
    (number_of_plain tuple.plain).trans hvalue
  refine ⟨tuple.plain.text, readBack tuple.plain, canonicalDecimal_eq tuple, hshort, hread, hnumber,
    ?_⟩
  rw [canonicalDecimal_eq, (plain_text_iff _ _).mpr hnumber]

theorem financialText_inEnvelope (h : financialText text = .ok tuple) :
    text.length ≤ maxTextLength ∧ decimalFromText text = some (.finite tuple) ∧
      validateDecimal (.finite tuple) = .ok tuple ∧ InEnvelope tuple.number := by
  obtain ⟨hlength, h⟩ := of_ite_ne h nofun
  cases hvalue : decimalFromText text with
  | none =>
    rw [hvalue] at h
    cases h
  | some =>
    rw [hvalue] at h
    obtain ⟨rfl, hbounds⟩ := validateDecimal_iff.mp h
    exact ⟨by omega, rfl, h, validated_inEnvelope h⟩

end Thytrader.Replay

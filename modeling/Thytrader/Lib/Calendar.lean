import Thytrader.Lib.Numeral

/-!
# Calendar texts

The proleptic Gregorian calendar from 1 January of year 1: the year and the day in it of a day
number, the month and the day of a day in the year, and the fixed-width text of an instant in
UTC. Within four-digit years the text names the instant (`isoText_inj`).
-/

namespace Thytrader.Lib

open List

variable {m n day width : Nat}

/-! ## Days -/

/-- Days before 1 January of the year `y + 1`. -/
def daysBeforeYear (y : Nat) : Nat := 365 * y + y / 4 - y / 100 + y / 400

def isLeapYear (year : Nat) : Bool := year % 4 = 0 ∧ (year % 100 ≠ 0 ∨ year % 400 = 0)

def yearDay (n : Nat) : Nat × Nat :=
  let n400 := n / 146097
  let n100 := n % 146097 / 36524
  let n4 := n % 146097 % 36524 / 1461
  let n1 := n % 146097 % 36524 % 1461 / 365
  let y := 400 * n400 + 100 * n100 + 4 * n4 + n1
  if n1 = 4 ∨ n100 = 4 then (y - 1, 365) else (y, n % 146097 % 36524 % 1461 % 365)

theorem daysBeforeYear_eq {a b c d : Nat} (hb : b ≤ 3) (hc : c ≤ 24) (hd : d ≤ 3) :
    daysBeforeYear (400 * a + 100 * b + 4 * c + d) =
      146097 * a + 36524 * b + 1461 * c + 365 * d := by
  have hfour : (400 * a + 100 * b + 4 * c + d) / 4 = 100 * a + 25 * b + c := by omega
  have hcentury : (400 * a + 100 * b + 4 * c + d) / 100 = 4 * a + b := by omega
  have hcycle : (400 * a + 100 * b + 4 * c + d) / 400 = a := by omega
  rw [daysBeforeYear, hfour, hcentury, hcycle]
  omega

theorem yearDay_sum (n : Nat) : daysBeforeYear (yearDay n).1 + (yearDay n).2 = n := by
  unfold yearDay
  generalize ha : n / 146097 = a
  generalize hr : n % 146097 = r
  generalize hb : r / 36524 = b
  generalize hr' : r % 36524 = r'
  generalize hc : r' / 1461 = c
  generalize hr'' : r' % 1461 = r''
  generalize hd : r'' / 365 = d
  by_cases hcentury : b = 4
  · -- the last day of a 400-year cycle
    have hyear : 400 * a + 100 * b + 4 * c + d - 1 = 400 * a + 100 * 3 + 4 * 24 + 3 := by omega
    rw [if_pos (.inr hcentury), hyear, daysBeforeYear_eq le_rfl le_rfl le_rfl]
    omega
  · by_cases hlast : d = 4
    · -- the last day of a leap year
      have hyear : 400 * a + 100 * b + 4 * c + d - 1 = 400 * a + 100 * b + 4 * c + 3 := by omega
      rw [if_pos (.inl hlast), hyear, daysBeforeYear_eq (by omega) (by omega) le_rfl]
      omega
    · rw [if_neg (by omega), daysBeforeYear_eq (by omega) (by omega) (by omega)]
      omega

theorem yearDay_inj (h : yearDay m = yearDay n) : m = n := by
  rw [← yearDay_sum m, ← yearDay_sum n, h]

/-- The year `y + 1` is a four-digit one up to day 3652058. -/
theorem yearDay_lt (h : n < 3652059) : (yearDay n).1 < 9999 := by
  have hsum := yearDay_sum n
  unfold daysBeforeYear at hsum
  omega

theorem yearDay_le (n : Nat) : (yearDay n).2 ≤ 365 := by
  unfold yearDay
  dsimp only
  split
  · exact le_rfl
  · omega

/-! ## Months -/

def monthLengths (leap : Bool) : List Nat :=
  [31, if leap then 29 else 28, 31, 30, 31, 30, 31, 31, 30, 31, 30, 31]

/-- The month a day falls in, counted from `month`, and its day in that month from 1. -/
def splitMonth : List Nat → Nat → Nat → Nat × Nat
  | [], month, day => (month, day + 1)
  | length :: rest, month, day =>
    if day < length then (month, day + 1) else splitMonth rest (month + 1) (day - length)

def monthDay (leap : Bool) (day : Nat) : Nat × Nat := splitMonth (monthLengths leap) 1 day

theorem splitMonth_month (lengths : List Nat) (month day : Nat) :
    month ≤ (splitMonth lengths month day).1 := by
  fun_induction splitMonth lengths month day with
  | case1 | case2 => exact le_rfl
  | case3 month day length rest hge ih => omega

theorem splitMonth_inj (lengths : List Nat) {month other : Nat}
    (h : splitMonth lengths month day = splitMonth lengths month other) : day = other := by
  induction lengths generalizing month day other with
  | nil => simpa [splitMonth] using h
  | cons length rest ih =>
    unfold splitMonth at h
    by_cases hday : day < length
    · by_cases hother : other < length
      · rw [if_pos hday, if_pos hother] at h
        simpa using h
      · rw [if_pos hday, if_neg hother] at h
        have hle := splitMonth_month rest (month + 1) (other - length)
        rw [← h] at hle
        omega
    · by_cases hother : other < length
      · rw [if_neg hday, if_pos hother] at h
        have hle := splitMonth_month rest (month + 1) (day - length)
        rw [h] at hle
        omega
      · rw [if_neg hday, if_neg hother] at h
        have hrest := ih h
        omega

/-! ## Texts -/

def padded (width n : Nat) : List Char :=
  List.replicate (width - (Nat.toDigits 10 n).length) '0' ++ Nat.toDigits 10 n

theorem padded_value (width n : Nat) : digitValue (padded width n) = n := by
  rw [padded, digitValue_append, digitValue_zeros, digitValue_toDigits, Nat.zero_mul, Nat.zero_add]

theorem padded_inj (h : padded width m = padded width n) : m = n := by
  rw [← padded_value width m, h, padded_value]

theorem padded_length (hpos : 0 < width) (h : n < 10 ^ width) :
    (padded width n).length = width := by
  have hdigits : (Nat.toDigits 10 n).length ≤ width := by
    by_cases hzero : Nat.toDigits 10 n = ['0']
    · rw [hzero]
      exact hpos
    · have hlow := (numeral_toDigits n).le_digitValue hzero
      rw [digitValue_toDigits] at hlow
      have hlt := (Nat.pow_lt_pow_iff_right (by omega)).mp (hlow.trans_lt h)
      omega
  rw [padded, length_append, length_replicate]
  omega

/-- Fields of one width, one after the other, are told apart. -/
theorem padded_append_inj (hpos : 0 < width) (hm : m < 10 ^ width) (hn : n < 10 ^ width)
    {rest rest' : List Char} (h : padded width m ++ rest = padded width n ++ rest') :
    m = n ∧ rest = rest' := by
  obtain ⟨hfield, hrest⟩ := append_inj h
    ((padded_length hpos hm).trans (padded_length hpos hn).symm)
  exact ⟨padded_inj hfield, hrest⟩

/-- `YYYY-MM-DD`. -/
def dateText (day : Nat) : List Char :=
  let year := (yearDay day).1 + 1
  let date := monthDay (isLeapYear year) (yearDay day).2
  padded 4 year ++ '-' :: (padded 2 date.1 ++ '-' :: padded 2 date.2)

/-- `HH:MM:SS`, with the microseconds if there are any. -/
def clockText (micros : Nat) : List Char :=
  let seconds := micros / 1000000
  padded 2 (seconds / 3600) ++ ':' :: (padded 2 (seconds / 60 % 60) ++ ':' ::
    (padded 2 (seconds % 60) ++
      if micros % 1000000 = 0 then [] else '.' :: padded 6 (micros % 1000000)))

/-- `YYYY-MM-DDTHH:MM:SS[.ffffff]`. -/
def isoText (day micros : Nat) : List Char := dateText day ++ 'T' :: clockText micros

theorem monthDay_lt (leap : Bool) (h : day ≤ 365) :
    (monthDay leap day).1 < 10 ^ 2 ∧ (monthDay leap day).2 < 10 ^ 2 := by
  have hall : ∀ leap : Bool, ∀ day : Fin 366,
      (monthDay leap day.val).1 < 10 ^ 2 ∧ (monthDay leap day.val).2 < 10 ^ 2 := by
    decide +kernel
  exact hall leap ⟨day, by omega⟩

/-- The text of an instant names it, within four-digit years. -/
theorem isoText_inj {other micros micros' : Nat} (hday : day < 3652059) (hother : other < 3652059)
    (hmicros : micros < 86400000000) (hmicros' : micros' < 86400000000)
    (h : isoText day micros = isoText other micros') : day = other ∧ micros = micros' := by
  have hyear := yearDay_lt hday
  have hyear' := yearDay_lt hother
  obtain ⟨hmonth, hdate⟩ := monthDay_lt (isLeapYear ((yearDay day).1 + 1)) (yearDay_le day)
  obtain ⟨hmonth', hdate'⟩ := monthDay_lt (isLeapYear ((yearDay other).1 + 1)) (yearDay_le other)
  simp only [isoText, dateText, clockText, append_assoc, cons_append] at h
  obtain ⟨hyears, h⟩ := padded_append_inj (by omega) (by omega) (by omega) h
  obtain ⟨hmonths, h⟩ := padded_append_inj (by omega) hmonth hmonth' (List.cons.inj h).2
  obtain ⟨hdays, h⟩ := padded_append_inj (by omega) hdate hdate' (List.cons.inj h).2
  obtain ⟨hhours, h⟩ := padded_append_inj (by omega) (by omega) (by omega) (List.cons.inj h).2
  obtain ⟨hminutes, h⟩ := padded_append_inj (by omega) (by omega) (by omega) (List.cons.inj h).2
  obtain ⟨hseconds, h⟩ := padded_append_inj (by omega) (by omega) (by omega) (List.cons.inj h).2
  have hsameYear : (yearDay day).1 = (yearDay other).1 := by omega
  refine ⟨yearDay_inj (Prod.ext hsameYear ?_), ?_⟩
  · rw [hsameYear] at hmonths hdays
    exact splitMonth_inj _ (Prod.ext hmonths hdays)
  · have hfraction : micros % 1000000 = micros' % 1000000 := by
      by_cases hzero : micros % 1000000 = 0
      · by_cases hzero' : micros' % 1000000 = 0
        · rw [hzero, hzero']
        · rw [if_pos hzero, if_neg hzero'] at h
          cases h
      · by_cases hzero' : micros' % 1000000 = 0
        · rw [if_neg hzero, if_pos hzero'] at h
          cases h
        · rw [if_neg hzero, if_neg hzero'] at h
          exact padded_inj (List.cons.inj h).2
    omega

/-- At most 26 characters, within four-digit years. -/
theorem isoText_length {micros : Nat} (hday : day < 3652059) (hmicros : micros < 86400000000) :
    (isoText day micros).length ≤ 26 := by
  have hyear := yearDay_lt hday
  obtain ⟨hmonth, hdate⟩ := monthDay_lt (isLeapYear ((yearDay day).1 + 1)) (yearDay_le day)
  have hfraction : (if micros % 1000000 = 0 then [] else
      '.' :: padded 6 (micros % 1000000)).length ≤ 7 := by
    by_cases hzero : micros % 1000000 = 0
    · rw [if_pos hzero]
      exact Nat.zero_le _
    · rw [if_neg hzero, length_cons, padded_length (by omega) (by omega)]
  simp only [isoText, dateText, clockText, length_append, length_cons,
    padded_length (show 0 < 4 by omega) (show (yearDay day).1 + 1 < 10 ^ 4 by omega),
    padded_length (show 0 < 2 by omega) hmonth, padded_length (show 0 < 2 by omega) hdate,
    padded_length (show 0 < 2 by omega) (show micros / 1000000 / 3600 < 10 ^ 2 by omega),
    padded_length (show 0 < 2 by omega) (show micros / 1000000 / 60 % 60 < 10 ^ 2 by omega),
    padded_length (show 0 < 2 by omega) (show micros / 1000000 % 60 < 10 ^ 2 by omega)]
  omega

end Thytrader.Lib

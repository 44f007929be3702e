import Thytrader.Basic

/-!
# Product identifiers

`market_data/products.py` and `market_data/instrument_ids.py`: the spot pattern
`[A-Z0-9]{2,20}-(USD|USDC|USDT)` and the futures pattern
`[A-Z0-9]{2,6}-\d{2}[A-Z]{3}\d{2}-CDE`, both tested on `strip().upper()`.

Mirroring notes: `strip` removes Unicode white space, `\d` accepts every
Unicode decimal digit, and `upper` is the full upper-casing, so a few letters
outside ASCII reach the accepted alphabet (`ß` becomes `SS`). Every other
letter outside ASCII upper-cases to text outside both patterns; such a letter
is left as it is.
-/

namespace Thytrader.MarketData

/-- Code points `str.isspace` accepts. -/
def whitespacePoints : List Nat :=
  [0x9, 0xa, 0xb, 0xc, 0xd, 0x1c, 0x1d, 0x1e, 0x1f, 0x20, 0x85, 0xa0, 0x1680, 0x2000, 0x2001,
    0x2002, 0x2003, 0x2004, 0x2005, 0x2006, 0x2007, 0x2008, 0x2009, 0x200a, 0x2028, 0x2029,
    0x202f, 0x205f, 0x3000]

/-- The zero digit of every Unicode decimal-digit block; nine digits follow it. -/
def digitZeros : List Nat :=
  [0x30, 0x660, 0x6f0, 0x7c0, 0x966, 0x9e6, 0xa66, 0xae6, 0xb66, 0xbe6, 0xc66, 0xce6, 0xd66,
    0xde6, 0xe50, 0xed0, 0xf20, 0x1040, 0x1090, 0x17e0, 0x1810, 0x1946, 0x19d0, 0x1a80, 0x1a90,
    0x1b50, 0x1bb0, 0x1c40, 0x1c50, 0xa620, 0xa8d0, 0xa900, 0xa9d0, 0xa9f0, 0xaa50, 0xabf0,
    0xff10, 0x104a0, 0x10d30, 0x10d40, 0x11066, 0x110f0, 0x11136, 0x111d0, 0x112f0, 0x11450,
    0x114d0, 0x11650, 0x116c0, 0x116d0, 0x116da, 0x11730, 0x118e0, 0x11950, 0x11bf0, 0x11c50,
    0x11d50, 0x11da0, 0x11f50, 0x16a60, 0x16ac0, 0x16b50, 0x1ccf0, 0x1d7ce, 0x1d7d8, 0x1d7e2,
    0x1d7ec, 0x1d7f6, 0x1e140, 0x1e2f0, 0x1e4f0, 0x1e5f1, 0x1e950, 0x1fbf0]

/-- Full upper-casing of the characters whose result can reach ASCII letters only. -/
def upperChar (c : Char) : List Char :=
  match c.toNat with
  | 0xdf => ['S', 'S']
  | 0x131 => ['I']
  | 0x17f => ['S']
  | 0xfb00 => ['F', 'F']
  | 0xfb01 => ['F', 'I']
  | 0xfb02 => ['F', 'L']
  | 0xfb03 => ['F', 'F', 'I']
  | 0xfb04 => ['F', 'F', 'L']
  | 0xfb05 => ['S', 'T']
  | 0xfb06 => ['S', 'T']
  | _ => [c.toUpper]

def strip (text : List Char) : List Char :=
  let blank := fun c : Char => decide (c.toNat ∈ whitespacePoints)
  ((text.dropWhile blank).reverse.dropWhile blank).reverse

/-- `product_id.strip().upper()`. -/
def normalized (productId : String) : List Char := (strip productId.toList).flatMap upperChar

/-- `[A-Z]`. -/
def isUpperLetter (c : Char) : Bool := 'A'.toNat ≤ c.toNat && c.toNat ≤ 'Z'.toNat

/-- `[A-Z0-9]`. -/
def isCodeChar (c : Char) : Bool :=
  isUpperLetter c || ('0'.toNat ≤ c.toNat && c.toNat ≤ '9'.toNat)

/-- `\d`. -/
def isDecimalDigit (c : Char) : Bool :=
  digitZeros.any (fun start => start ≤ c.toNat && c.toNat ≤ start + 9)

/-- The leading `[A-Z0-9]*` run and what follows it. -/
def splitCode (text : List Char) : List Char × List Char :=
  (text.takeWhile isCodeChar, text.dropWhile isCodeChar)

/-- `-\d{2}[A-Z]{3}\d{2}-CDE`. -/
def isFuturesTail : List Char → Bool
  | ['-', a, b, m₁, m₂, m₃, c, d, '-', 'C', 'D', 'E'] =>
    [a, b, c, d].all isDecimalDigit && [m₁, m₂, m₃].all isUpperLetter
  | _ => false

def isFuturesProductId (productId : String) : Bool :=
  let (code, tail) := splitCode (normalized productId)
  decide (2 ≤ code.length) && decide (code.length ≤ 6) && isFuturesTail tail

def isSpotProductId (productId : String) : Bool :=
  let (code, tail) := splitCode (normalized productId)
  decide (2 ≤ code.length) && decide (code.length ≤ 20) &&
    decide (tail = "-USD".toList ∨ tail = "-USDC".toList ∨ tail = "-USDT".toList)

/-- `base_currency`: the part of a spot id before its quote currency. -/
def baseCurrency (productId : String) : Result String :=
  if isSpotProductId productId then
    .ok (String.ofList (splitCode (normalized productId)).1)
  else
    .error (.valueError "product_id must be a BASE-USD, BASE-USDC, or BASE-USDT spot identifier.")

inductive SpotQuoteCurrency where
  | usd
  | usdc
  | usdt
  deriving DecidableEq, Repr

def SpotQuoteCurrency.text : SpotQuoteCurrency → String
  | .usd => "USD"
  | .usdc => "USDC"
  | .usdt => "USDT"

/-- `quote_currency`: the part of a spot id after its base. -/
def quoteCurrency (productId : String) : Result SpotQuoteCurrency :=
  let tail := (splitCode (normalized productId)).2
  if isSpotProductId productId = false then
    .error (.valueError "product_id must be a BASE-USD, BASE-USDC, or BASE-USDT spot identifier.")
  else if tail = "-USD".toList then .ok .usd
  else if tail = "-USDC".toList then .ok .usdc
  else .ok .usdt

theorem isFuturesProductId_of_spot {productId : String} (h : isSpotProductId productId = true) :
    isFuturesProductId productId = false := by
  simp only [isSpotProductId, Bool.and_eq_true, decide_eq_true_eq] at h
  have htail : isFuturesTail (splitCode (normalized productId)).2 = false := by
    rcases h.2 with htail | htail | htail
    · rw [htail]
      rfl
    · rw [htail]
      rfl
    · rw [htail]
      rfl
  simp only [isFuturesProductId, htail, Bool.and_false]

example : isFuturesProductId " bip-20dec30-CDE" = true := by decide +kernel

example : isSpotProductId "BTC-USDC" = true ∧ isFuturesProductId "BTC-USDC" = false := by
  decide +kernel

end Thytrader.MarketData

import Mathlib.Data.List.Basic

/-!
# URL-safe Base64

Three bytes in four characters, padded at the end. Decoding is the strict one: nothing outside
the alphabet, padding only at the end. It also takes the two characters of the plain alphabet,
so two texts can decode to the same bytes; encoded bytes decode to themselves.
-/

namespace Thytrader.Lib

open Option UInt8

/-- The character of six bits. -/
def sextetChar (n : Nat) : Char :=
  if n < 26 then Char.ofNat (65 + n)
  else if n < 52 then Char.ofNat (71 + n)
  else if n < 62 then Char.ofNat (n - 4)
  else if n = 62 then '-' else '_'

/-- The six bits of a character. -/
def sextetOf (c : Char) : Option Nat :=
  if 65 ≤ c.toNat ∧ c.toNat ≤ 90 then some (c.toNat - 65)
  else if 97 ≤ c.toNat ∧ c.toNat ≤ 122 then some (c.toNat - 71)
  else if 48 ≤ c.toNat ∧ c.toNat ≤ 57 then some (c.toNat + 4)
  else if c = '-' ∨ c = '+' then some 62
  else if c = '_' ∨ c = '/' then some 63
  else none

def base64Encode : List UInt8 → List Char
  | [] => []
  | [a] => [sextetChar (a.toNat / 4), sextetChar (a.toNat % 4 * 16), '=', '=']
  | [a, b] =>
    [sextetChar (a.toNat / 4), sextetChar (a.toNat % 4 * 16 + b.toNat / 16),
      sextetChar (b.toNat % 16 * 4), '=']
  | a :: b :: c :: rest =>
    sextetChar (a.toNat / 4) :: sextetChar (a.toNat % 4 * 16 + b.toNat / 16) ::
      sextetChar (b.toNat % 16 * 4 + c.toNat / 64) :: sextetChar (c.toNat % 64) :: base64Encode rest

def base64Decode : List Char → Option (List UInt8)
  | [] => some []
  | w :: x :: y :: z :: rest => do
    let p ← sextetOf w
    let q ← sextetOf x
    if y = '=' then
      if z = '=' ∧ rest = [] then some [ofNat (p * 4 + q / 16)] else none
    else
      let r ← sextetOf y
      if z = '=' then
        if rest = [] then
          some [ofNat (p * 4 + q / 16), ofNat (q % 16 * 16 + r / 4)]
        else none
      else
        let t ← sextetOf z
        let more ← base64Decode rest
        some (ofNat (p * 4 + q / 16) :: ofNat (q % 16 * 16 + r / 4) ::
          ofNat (r % 4 * 64 + t) :: more)
  | _ => none

variable {n : Nat}

theorem sextetOf_sextetChar (h : n < 64) : sextetOf (sextetChar n) = some n := by
  have hall : ∀ n : Fin 64, sextetOf (sextetChar n.val) = some n.val := by decide
  exact hall ⟨n, h⟩

theorem sextetChar_ne_pad (h : n < 64) : sextetChar n ≠ '=' := by
  have hall : ∀ n : Fin 64, sextetChar n.val ≠ '=' := by decide
  exact hall ⟨n, h⟩

/-- A byte put together from its bits. -/
theorem ofNat_eq_byte {a : UInt8} (h : n = a.toNat) : UInt8.ofNat n = a := by
  rw [h, UInt8.ofNat_toNat]

variable (bytes : List UInt8)

theorem base64Decode_encode : base64Decode (base64Encode bytes) = some bytes := by
  fun_induction base64Encode bytes with
  | case1 => rfl
  | case2 a =>
    have ha := a.toNat_lt
    unfold base64Decode
    simp only [sextetOf_sextetChar (show a.toNat / 4 < 64 by omega),
      sextetOf_sextetChar (show a.toNat % 4 * 16 < 64 by omega), bind_eq_bind,
      bind_some, if_true, and_self]
    rw [ofNat_eq_byte (show a.toNat / 4 * 4 + a.toNat % 4 * 16 / 16 = a.toNat by omega)]
  | case3 a b =>
    have ha := a.toNat_lt
    have hb := b.toNat_lt
    unfold base64Decode
    simp only [sextetOf_sextetChar (show a.toNat / 4 < 64 by omega),
      sextetOf_sextetChar (show a.toNat % 4 * 16 + b.toNat / 16 < 64 by omega),
      sextetOf_sextetChar (show b.toNat % 16 * 4 < 64 by omega),
      if_neg (sextetChar_ne_pad (show b.toNat % 16 * 4 < 64 by omega)), bind_eq_bind,
      bind_some, if_true]
    rw [ofNat_eq_byte (show a.toNat / 4 * 4 + (a.toNat % 4 * 16 + b.toNat / 16) / 16 = a.toNat by
        omega),
      ofNat_eq_byte (show (a.toNat % 4 * 16 + b.toNat / 16) % 16 * 16 + b.toNat % 16 * 4 / 4 =
        b.toNat by omega)]
  | case4 a b c rest ih =>
    have ha := a.toNat_lt
    have hb := b.toNat_lt
    have hc := c.toNat_lt
    unfold base64Decode
    simp only [sextetOf_sextetChar (show a.toNat / 4 < 64 by omega),
      sextetOf_sextetChar (show a.toNat % 4 * 16 + b.toNat / 16 < 64 by omega),
      sextetOf_sextetChar (show b.toNat % 16 * 4 + c.toNat / 64 < 64 by omega),
      sextetOf_sextetChar (show c.toNat % 64 < 64 by omega),
      if_neg (sextetChar_ne_pad (show b.toNat % 16 * 4 + c.toNat / 64 < 64 by omega)),
      if_neg (sextetChar_ne_pad (show c.toNat % 64 < 64 by omega)), ih, bind_eq_bind,
      bind_some]
    rw [ofNat_eq_byte (show a.toNat / 4 * 4 + (a.toNat % 4 * 16 + b.toNat / 16) / 16 = a.toNat by
        omega),
      ofNat_eq_byte (show (a.toNat % 4 * 16 + b.toNat / 16) % 16 * 16 +
        (b.toNat % 16 * 4 + c.toNat / 64) / 4 = b.toNat by omega),
      ofNat_eq_byte (show (b.toNat % 16 * 4 + c.toNat / 64) % 4 * 64 + c.toNat % 64 = c.toNat by
        omega)]

theorem base64Encode_length : (base64Encode bytes).length = 4 * ((bytes.length + 2) / 3) := by
  fun_induction base64Encode bytes with
  | case1 => rfl
  | case2 | case3 => simp
  | case4 a b c rest ih =>
    simp only [List.length_cons, ih]
    omega

end Thytrader.Lib

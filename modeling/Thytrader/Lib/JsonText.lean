import Thytrader.Lib.Numeral

/-!
# Compact JSON text

The ASCII text of strings, `null` and lists, without blanks. A printer is `Decodable` when the
text it writes can be told apart from whatever follows it; that is what survives putting texts
one after the other, so the printer of a list of values inherits it from the printer of a value.
A decodable printer is injective.
-/

namespace Thytrader.Lib

open List

/-- Nothing that follows can make two written values look alike. -/
def Decodable {α : Type} (write : α → List Char) : Prop :=
  ∀ a b rest rest', write a ++ rest = write b ++ rest' → a = b ∧ rest = rest'

theorem Decodable.injective {α : Type} {write : α → List Char} (h : Decodable write) :
    Function.Injective write := by
  intro a b hab
  exact (h a b [] [] (by rw [hab])).1

/-! ## Strings -/

/-- One hexadecimal digit, in lower case. -/
def hexChar (n : Nat) : Char := if n < 10 then Char.ofNat (48 + n) else Char.ofNat (87 + n)

/-- `\uXXXX`. -/
def escapeUnit (unit : Nat) : List Char :=
  ['\\', 'u', hexChar (unit / 4096 % 16), hexChar (unit / 256 % 16), hexChar (unit / 16 % 16),
    hexChar (unit % 16)]

/-- One character inside quotes. Outside the basic plane it is a surrogate pair. -/
def escapeChar (c : Char) : List Char :=
  if c = '"' then ['\\', '"']
  else if c = '\\' then ['\\', '\\']
  else if c = '\n' then ['\\', 'n']
  else if c = '\r' then ['\\', 'r']
  else if c = '\t' then ['\\', 't']
  else if c.toNat = 8 then ['\\', 'b']
  else if c.toNat = 12 then ['\\', 'f']
  else if 32 ≤ c.toNat ∧ c.toNat ≤ 126 then [c]
  else if c.toNat < 0x10000 then escapeUnit c.toNat
  else escapeUnit (0xd800 + (c.toNat - 0x10000) / 0x400) ++
    escapeUnit (0xdc00 + (c.toNat - 0x10000) % 0x400)

/-- The characters of a string and the closing quote. -/
def quotedBody : List Char → List Char
  | [] => ['"']
  | c :: rest => escapeChar c ++ quotedBody rest

/-- A JSON string. -/
def quoted (text : List Char) : List Char := '"' :: quotedBody text

theorem hexChar_inj {m n : Nat} (hm : m < 16) (hn : n < 16) (h : hexChar m = hexChar n) :
    m = n := by
  have hall : ∀ m n : Fin 16, hexChar m.val = hexChar n.val → m = n := by decide
  exact congrArg Fin.val (hall ⟨m, hm⟩ ⟨n, hn⟩ h)

theorem escapeUnit_inj {m n : Nat} (hm : m < 65536) (hn : n < 65536) {rest rest' : List Char}
    (h : escapeUnit m ++ rest = escapeUnit n ++ rest') : m = n ∧ rest = rest' := by
  simp only [escapeUnit, cons_append, nil_append, List.cons.injEq, true_and] at h
  obtain ⟨hfirst, hsecond, hthird, hfourth, hrest⟩ := h
  have hfirst := hexChar_inj (by omega) (by omega) hfirst
  have hsecond := hexChar_inj (by omega) (by omega) hsecond
  have hthird := hexChar_inj (by omega) (by omega) hthird
  have hfourth := hexChar_inj (by omega) (by omega) hfourth
  exact ⟨by omega, hrest⟩

/-- How a character is written: with a letter after the backslash, plain, as one unit or as two. -/
inductive EscapeForm (c : Char) : List Char → Prop
  | short {letter : Char} (hpair : (c, letter) ∈ [('"', '"'), ('\\', '\\'), ('\n', 'n'),
      ('\r', 'r'), ('\t', 't'), (Char.ofNat 8, 'b'), (Char.ofNat 12, 'f')]) :
      EscapeForm c ['\\', letter]
  | plain (hquote : c ≠ '"') (hslash : c ≠ '\\') : EscapeForm c [c]
  | unit (hsmall : c.toNat < 0xd800 ∨ 0xe000 ≤ c.toNat ∧ c.toNat < 0x10000) :
      EscapeForm c (escapeUnit c.toNat)
  | pair (hlarge : 0x10000 ≤ c.toNat ∧ c.toNat < 0x110000) :
      EscapeForm c (escapeUnit (0xd800 + (c.toNat - 0x10000) / 0x400) ++
        escapeUnit (0xdc00 + (c.toNat - 0x10000) % 0x400))

theorem char_toNat_inj {c d : Char} (h : c.toNat = d.toNat) : c = d :=
  Char.ext (UInt32.toNat_inj.mp h)

theorem escapeChar_form (c : Char) : EscapeForm c (escapeChar c) := by
  have hvalid : c.toNat < 0xd800 ∨ 0xdfff < c.toNat ∧ c.toNat < 0x110000 := c.valid
  unfold escapeChar
  by_cases hquote : c = '"'
  · rw [if_pos hquote]
    exact .short (by simp [hquote])
  rw [if_neg hquote]
  by_cases hslash : c = '\\'
  · rw [if_pos hslash]
    exact .short (by simp [hslash])
  rw [if_neg hslash]
  by_cases hnewline : c = '\n'
  · rw [if_pos hnewline]
    exact .short (by simp [hnewline])
  rw [if_neg hnewline]
  by_cases hreturn : c = '\r'
  · rw [if_pos hreturn]
    exact .short (by simp [hreturn])
  rw [if_neg hreturn]
  by_cases htab : c = '\t'
  · rw [if_pos htab]
    exact .short (by simp [htab])
  rw [if_neg htab]
  by_cases hback : c.toNat = 8
  · rw [if_pos hback]
    have hc : c = Char.ofNat 8 := char_toNat_inj hback
    exact .short (by simp [hc])
  rw [if_neg hback]
  by_cases hfeed : c.toNat = 12
  · rw [if_pos hfeed]
    have hc : c = Char.ofNat 12 := char_toNat_inj hfeed
    exact .short (by simp [hc])
  rw [if_neg hfeed]
  by_cases hplain : 32 ≤ c.toNat ∧ c.toNat ≤ 126
  · rw [if_pos hplain]
    exact .plain hquote hslash
  rw [if_neg hplain]
  by_cases hsmall : c.toNat < 0x10000
  · rw [if_pos hsmall]
    exact .unit (by omega)
  · rw [if_neg hsmall]
    exact .pair (by omega)

/-- No letter after a backslash stands for two characters, and `u` for none of them. -/
theorem short_letter {c d letter : Char} {pairs : List (Char × Char)}
    (hpairs : pairs = [('"', '"'), ('\\', '\\'), ('\n', 'n'), ('\r', 'r'), ('\t', 't'),
      (Char.ofNat 8, 'b'), (Char.ofNat 12, 'f')])
    (hc : (c, letter) ∈ pairs) : letter ≠ 'u' ∧ ((d, letter) ∈ pairs → c = d) := by
  have hall : ∀ first ∈ pairs, first.2 ≠ 'u' ∧
      ∀ second ∈ pairs, first.2 = second.2 → first.1 = second.1 := by
    rw [hpairs]
    decide
  obtain ⟨hu, hsame⟩ := hall _ hc
  exact ⟨hu, fun hd => hsame _ hd rfl⟩

/-- Two forms that start one text are of one character. -/
theorem escape_decodable {c d : Char} {written other rest rest' : List Char}
    (hc : EscapeForm c written) (hd : EscapeForm d other)
    (h : written ++ rest = other ++ rest') : c = d ∧ rest = rest' := by
  cases hc with
  | @short letter hpair =>
    obtain ⟨hu, hsame⟩ := @short_letter c d letter _ rfl hpair
    cases hd with
    | short hother =>
      simp only [cons_append, nil_append, List.cons.injEq, true_and] at h
      exact ⟨hsame (h.1 ▸ hother), h.2⟩
    | plain _ hslash => exact absurd (by simpa using h.symm) (fun hh => hslash (by simp_all))
    | unit | pair => exact absurd (by simp [escapeUnit] at h; exact h.1) hu
  | plain _ hslash =>
    cases hd with
    | short => exact absurd (by simp at h; exact h.1) hslash
    | plain => simpa using h
    | unit | pair => exact absurd (by simp [escapeUnit] at h; exact h.1) hslash
  | unit =>
    cases hd with
    | @short letter hother =>
      obtain ⟨hu, -⟩ := @short_letter d c letter _ rfl hother
      exact absurd (by simp [escapeUnit] at h; exact h.1.symm) hu
    | plain _ hslash => exact absurd (by simp [escapeUnit] at h; exact h.1.symm) hslash
    | unit =>
      obtain ⟨hsame, hrest⟩ := escapeUnit_inj (by omega) (by omega) h
      exact ⟨char_toNat_inj hsame, hrest⟩
    | pair =>
      obtain ⟨hsame, -⟩ := escapeUnit_inj (by omega) (by omega) h
      omega
  | pair =>
    cases hd with
    | @short letter hother =>
      obtain ⟨hu, -⟩ := @short_letter d c letter _ rfl hother
      exact absurd (by simp [escapeUnit] at h; exact h.1.symm) hu
    | plain _ hslash => exact absurd (by simp [escapeUnit] at h; exact h.1.symm) hslash
    | unit =>
      obtain ⟨hsame, -⟩ := escapeUnit_inj (by omega) (by omega) h
      omega
    | pair =>
      obtain ⟨hhigh, h⟩ := escapeUnit_inj (by omega) (by omega) h
      obtain ⟨hlow, hrest⟩ := escapeUnit_inj (by omega) (by omega) h
      exact ⟨char_toNat_inj (by omega), hrest⟩

/-- No character is written with a bare quote first. -/
theorem escapeChar_head (c : Char) (rest rest' : List Char) :
    escapeChar c ++ rest ≠ '"' :: rest' := by
  intro h
  have hform := escapeChar_form c
  generalize escapeChar c = written at hform h
  cases hform with
  | short => simp at h
  | plain hquote => exact hquote (by simp at h; exact h.1)
  | unit | pair => simp [escapeUnit] at h

theorem quotedBody_decodable : Decodable quotedBody := by
  intro text
  induction text with
  | nil =>
    intro other rest rest' h
    cases other with
    | nil => exact ⟨rfl, by simpa [quotedBody] using h⟩
    | cons d =>
      simp only [quotedBody, append_assoc] at h
      exact absurd h.symm (escapeChar_head d _ _)
  | cons c _ ih =>
    intro other rest rest' h
    cases other with
    | nil =>
      simp only [quotedBody, append_assoc] at h
      exact absurd h (escapeChar_head c _ _)
    | cons d other =>
      simp only [quotedBody, append_assoc] at h
      obtain ⟨rfl, htail⟩ := escape_decodable (escapeChar_form c) (escapeChar_form d) h
      obtain ⟨rfl, hrest⟩ := ih other rest rest' htail
      exact ⟨rfl, hrest⟩

theorem quoted_decodable : Decodable quoted := by
  intro text other rest rest' h
  exact quotedBody_decodable text other rest rest' (List.cons.inj h).2

/-! ## Values and lists -/

/-- A string or `null`. -/
def jsonText : Option (List Char) → List Char
  | some text => quoted text
  | none => ['n', 'u', 'l', 'l']

theorem jsonText_decodable : Decodable jsonText := by
  intro value other rest rest' h
  cases value with
  | none =>
    cases other with
    | none => exact ⟨rfl, by simpa [jsonText] using h⟩
    | some => simp [jsonText, quoted] at h
  | some text =>
    cases other with
    | none => simp [jsonText, quoted] at h
    | some text' =>
      obtain ⟨rfl, hrest⟩ := quoted_decodable text text' rest rest' h
      exact ⟨rfl, hrest⟩

/-- The items that follow the first one, and the closing bracket. -/
def jsonItems {α : Type} (write : α → List Char) : List α → List Char
  | [] => [']']
  | item :: rest => ',' :: (write item ++ jsonItems write rest)

def jsonList {α : Type} (write : α → List Char) : List α → List Char
  | [] => ['[', ']']
  | item :: rest => '[' :: (write item ++ jsonItems write rest)

variable {α : Type} {write : α → List Char}

theorem jsonItems_decodable (h : Decodable write) : Decodable (jsonItems write) := by
  intro items
  induction items with
  | nil =>
    intro others rest rest' heq
    cases others with
    | nil => exact ⟨rfl, by simpa [jsonItems] using heq⟩
    | cons => simp [jsonItems] at heq
  | cons _ _ ih =>
    intro others rest rest' heq
    cases others with
    | nil => simp [jsonItems] at heq
    | cons _ others =>
      simp only [jsonItems, cons_append, append_assoc, List.cons.injEq, true_and] at heq
      obtain ⟨rfl, htail⟩ := h _ _ _ _ heq
      obtain ⟨rfl, hrest⟩ := ih others rest rest' htail
      exact ⟨rfl, hrest⟩

/-- A list of decodable values, none written with a closing bracket first, is decodable. -/
theorem jsonList_decodable (h : Decodable write)
    (hopen : ∀ item rest rest', write item ++ rest ≠ ']' :: rest') :
    Decodable (jsonList write) := by
  intro items others rest rest' heq
  cases items with
  | nil =>
    cases others with
    | nil => exact ⟨rfl, by simpa [jsonList] using heq⟩
    | cons other =>
      simp only [jsonList, cons_append, nil_append, append_assoc, List.cons.injEq, true_and] at heq
      exact absurd heq.symm (hopen other _ _)
  | cons item items =>
    cases others with
    | nil =>
      simp only [jsonList, cons_append, nil_append, append_assoc, List.cons.injEq, true_and] at heq
      exact absurd heq (hopen item _ _)
    | cons _ others =>
      simp only [jsonList, cons_append, append_assoc, List.cons.injEq, true_and] at heq
      obtain ⟨rfl, htail⟩ := h _ _ _ _ heq
      obtain ⟨rfl, hrest⟩ := jsonItems_decodable h items others rest rest' htail
      exact ⟨rfl, hrest⟩

theorem jsonText_open (value : Option (List Char)) (rest rest' : List Char) :
    jsonText value ++ rest ≠ ']' :: rest' := by
  cases value <;> simp [jsonText, quoted]

theorem jsonList_open (items : List α) (rest rest' : List Char) :
    jsonList write items ++ rest ≠ ']' :: rest' := by
  cases items <;> simp [jsonList]

end Thytrader.Lib

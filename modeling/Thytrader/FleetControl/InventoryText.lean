import Thytrader.FleetControl.Inventory

/-!
# What the texts of an inventory say

The digest of an inventory is taken of its text. What it fences is the `Classification` of every
row: its identity, its place in the order and the five columns that say what it is
(`inventoryText_inj`). A cursor is read back from its text, as long as the validator reads JSON
back (`decodeCursor_encode`); that it can is `cursorJson_inj`.
-/

namespace Thytrader.FleetControl

open Trading Lib List

variable {n : Nat} {cursor : InventoryCursor}

/-! ## What the digest fences -/

theorem hexDigit_ne_dash (h : n < 16) : hexDigit n ≠ '-' := by
  have hall : ∀ n : Fin 16, hexDigit n.val ≠ '-' := by decide
  exact hall ⟨n, h⟩

variable (id : Uuid)

theorem uuidText_digits : (uuidText id).filter (· ≠ '-') =
    (List.range 32).map (fun i => hexDigit (id.toNat / 16 ^ (31 - i) % 16)) := by
  have hdigits : ∀ c ∈ (List.range 32).map (fun i => hexDigit (id.toNat / 16 ^ (31 - i) % 16)),
      decide (c ≠ '-') = true := by
    intro c hc
    obtain ⟨-, -, rfl⟩ := mem_map.mp hc
    simpa using hexDigit_ne_dash (by omega)
  unfold uuidText
  generalize (List.range 32).map (fun i => hexDigit (id.toNat / 16 ^ (31 - i) % 16)) = digits
    at hdigits
  have hkeep : ∀ cs : List Char, (∀ c ∈ cs, c ∈ digits) → cs.filter (· ≠ '-') = cs := by
    intro cs hcs
    exact filter_eq_self.mpr fun c hc => hdigits c (hcs c hc)
  simp only [filter_append, filter_cons, ne_eq, not_true_eq_false, decide_false,
    Bool.false_eq_true, if_false]
  rw [hkeep _ (fun c hc => mem_of_mem_take hc),
    hkeep _ (fun c hc => mem_of_mem_drop (mem_of_mem_take hc)),
    hkeep _ (fun c hc => mem_of_mem_drop (mem_of_mem_take hc)),
    hkeep _ (fun c hc => mem_of_mem_drop (mem_of_mem_take hc)),
    hkeep _ (fun c hc => mem_of_mem_drop hc)]
  rw [← take_add, ← take_add, ← take_add, take_append_drop]

/-- `str(uuid)` names the id. -/
theorem uuidText_inj {id other : Uuid} (h : uuidText id = uuidText other) : id = other := by
  have hdigits := congrArg (List.filter (· ≠ '-')) h
  rw [uuidText_digits, uuidText_digits, map_inj_left] at hdigits
  have hdigit : ∀ i < 32, id.toNat / 16 ^ i % 16 = other.toNat / 16 ^ i % 16 := by
    intro i hi
    have hsame := hdigits (31 - i) (mem_range.mpr (by omega))
    rw [show 31 - (31 - i) = i by omega] at hsame
    exact hexChar_inj (by omega) (by omega) hsame
  -- from the top digit down, the numbers agree above every digit
  have hagree : ∀ k ≤ 32, id.toNat / 16 ^ (32 - k) = other.toNat / 16 ^ (32 - k) := by
    intro k hk
    induction k with
    | zero =>
      have hid := id.isLt
      have hother := other.isLt
      rw [Nat.div_eq_of_lt (by simpa using hid), Nat.div_eq_of_lt (by simpa using hother)]
    | succ k ih =>
      have habove := ih (by omega)
      have hlow := hdigit (32 - (k + 1)) (by omega)
      rw [show 32 - k = 32 - (k + 1) + 1 by omega, pow_succ, ← Nat.div_div_eq_div_mul,
        ← Nat.div_div_eq_div_mul] at habove
      omega
  have hnat := hagree 32 le_rfl
  rw [Nat.sub_self, pow_zero, Nat.div_one, Nat.div_one] at hnat
  exact BitVec.eq_of_toNat_eq hnat

theorem uuidText_length : (uuidText id).length = 36 := by
  simp [uuidText]

theorem instantText_inj {t u : Int} (ht : IsDatetime t) (hu : IsDatetime u)
    (h : instantText t = instantText u) : t = u := by
  unfold IsDatetime dayNumber at ht hu
  obtain ⟨hday, hmicros⟩ := isoText_inj (by unfold dayNumber; omega) (by unfold dayNumber; omega)
    (by omega) (by omega) h
  unfold dayNumber at hday
  omega

theorem strategyText_inj {strategy other : Option Uuid}
    (h : strategyText strategy = strategyText other) : strategy = other := by
  cases strategy with
  | none =>
    cases other with
    | none => rfl
    | some =>
      have hlength := congrArg List.length h
      rw [strategyText, strategyText, uuidText_length] at hlength
      exact absurd hlength (by decide)
  | some =>
    cases other with
    | none =>
      have hlength := congrArg List.length h
      rw [strategyText, strategyText, uuidText_length] at hlength
      exact absurd hlength (by decide)
    | some => rw [uuidText_inj h]

/-- What an inventory says of a deployment: which it is, its place and what it runs. -/
structure Classification where
  id : Uuid
  createdAt : Time
  strategyId : Option Uuid
  strategyFingerprint : Option String
  productId : String
  mode : DeploymentMode
  kind : DeploymentKind
  deriving DecidableEq

def classify (row : Deployment) : Classification :=
  ⟨row.id, row.createdAt, row.strategyId, row.strategyFingerprint, row.productId, row.mode,
    row.kind⟩

theorem modeValue_inj {mode other : DeploymentMode}
    (h : (modeValue mode).toList = (modeValue other).toList) : mode = other := by
  cases mode <;> cases other <;> first | rfl | exact absurd h (by decide)

theorem kindValue_inj {kind other : DeploymentKind}
    (h : (kindValue kind).toList = (kindValue other).toList) : kind = other := by
  cases kind <;> cases other <;> first | rfl | exact absurd h (by decide)

theorem identity_iff {row other : Deployment} (hrow : IsDatetime row.createdAt)
    (hother : IsDatetime other.createdAt) :
    inventoryIdentity row = inventoryIdentity other ↔ classify row = classify other := by
  constructor
  · intro h
    simp only [inventoryIdentity, List.cons.injEq, Option.some.injEq, and_true] at h
    obtain ⟨hid, hcreated, hstrategy, hfingerprint, hproduct, hmode, hkind⟩ := h
    have hinstant := instantText_inj hrow hother (append_cancel_right hcreated)
    have hsnapshot : row.strategyFingerprint = other.strategyFingerprint :=
      Option.map_injective (fun _ _ => String.toList_inj.mp) hfingerprint
    simp only [classify, uuidText_inj hid, hinstant, strategyText_inj hstrategy, hsnapshot,
      String.toList_inj.mp hproduct, modeValue_inj hmode, kindValue_inj hkind]
  · intro h
    simp only [classify, Classification.mk.injEq] at h
    obtain ⟨hid, hcreated, hstrategy, hfingerprint, hproduct, hmode, hkind⟩ := h
    simp only [inventoryIdentity, hid, hcreated, hstrategy, hfingerprint, hproduct, hmode, hkind]

theorem inventoryText_inj {rows others : List Deployment}
    (hrows : ∀ row ∈ rows, IsDatetime row.createdAt)
    (hothers : ∀ row ∈ others, IsDatetime row.createdAt) :
    inventoryText rows = inventoryText others ↔ rows.map classify = others.map classify := by
  have hrow : Decodable (jsonList jsonText) := jsonList_decodable jsonText_decodable jsonText_open
  have htext : inventoryText rows = inventoryText others ↔
      rows.map inventoryIdentity = others.map inventoryIdentity :=
    (jsonList_decodable hrow jsonList_open).injective.eq_iff
  rw [htext]
  clear htext
  induction rows generalizing others with
  | nil => cases others <;> simp
  | cons row _ ih =>
    cases others with
    | nil => simp
    | cons other others =>
      have hhead := identity_iff (hrows row (by simp)) (hothers other (by simp))
      have htail := @ih others (fun row hmem => hrows row (by simp [hmem]))
        (fun row hmem => hothers row (by simp [hmem]))
      simp only [map_cons, List.cons.injEq, hhead, htail]

/-! ## Cursors -/

/-- `hexdigest()` of a SHA-256: 64 lower-case hexadecimal digits. -/
def IsHexdigest (text : List Char) : Prop :=
  text.length = 64 ∧ ∀ c ∈ text, ∃ n < 16, c = hexChar n

/-- A cursor of the values its fields have. -/
structure InventoryCursor.Valid (cursor : InventoryCursor) : Prop where
  asOf : IsDatetime cursor.asOf
  createdAt : IsDatetime cursor.createdAt
  fingerprint : IsHexdigest cursor.fingerprint

def ReadsBack (validate : List UInt8 → Option ParsedCursor) : Prop :=
  ∀ cursor : InventoryCursor, cursor.Valid →
    validate (utf8Bytes (cursorJson cursor)) = some ⟨cursor, true, true⟩

theorem instantText_length {t : Int} (h : IsDatetime t) : (instantText t).length ≤ 26 := by
  unfold IsDatetime dayNumber at h
  refine isoText_length ?_ ?_
  · unfold dayNumber
    omega
  · omega

/-- Text without anything to escape. -/
def Unescaped (text : List Char) : Prop := ∀ c ∈ text, (escapeChar c).length = 1

theorem hexChar_unescaped (h : n < 16) : (escapeChar (hexChar n)).length = 1 := by
  have hall : ∀ n : Fin 16, (escapeChar (hexChar n.val)).length = 1 := by decide +kernel
  exact hall ⟨n, h⟩

theorem quoted_length {text : List Char} (h : Unescaped text) :
    (quoted text).length = text.length + 2 := by
  have hbody : (quotedBody text).length = text.length + 1 := by
    induction text with
    | nil => rfl
    | cons c _ ih =>
      have hrest := ih (fun c hc => h c (by simp [hc]))
      rw [quotedBody, length_append, hrest, h c (by simp), length_cons]
      omega
  rw [quoted, length_cons, hbody]

theorem uuidText_unescaped : Unescaped (uuidText id) := by
  intro c hc
  by_cases hdash : c = '-'
  · rw [hdash]
    rfl
  · have hdigit : c ∈ (uuidText id).filter (· ≠ '-') := mem_filter.mpr ⟨hc, by simpa using hdash⟩
    rw [uuidText_digits] at hdigit
    obtain ⟨-, -, rfl⟩ := mem_map.mp hdigit
    exact hexChar_unescaped (by omega)

theorem utf8Bytes_length (text : List Char) : (utf8Bytes text).length ≤ 4 * text.length := by
  induction text with
  | nil => exact Nat.le_refl 0
  | cons c _ ih =>
    have hsize := c.utf8Size_le_four
    rw [utf8Bytes, flatMap_cons, length_append, String.length_utf8EncodeChar, length_cons]
    rw [utf8Bytes] at ih
    omega

theorem utf8Bytes_inj {text other : List Char} (h : utf8Bytes text = utf8Bytes other) :
    text = other := by
  have hencoded : (String.ofList text).toByteArray = (String.ofList other).toByteArray :=
    congrArg List.toByteArray h
  exact String.ofList_injective (String.toByteArray_inj.mp hencoded)

theorem cursorJson_length (h : cursor.Valid) : (cursorJson cursor).length ≤ 320 := by
  have hasOf := instantText_length h.asOf
  have hcreated := instantText_length h.createdAt
  have hfingerprint : (quoted cursor.fingerprint).length = 66 := by
    have hplain : Unescaped cursor.fingerprint := by
      intro c hc
      obtain ⟨n, hn, rfl⟩ := h.fingerprint.2 c hc
      exact hexChar_unescaped hn
    rw [quoted_length hplain, h.fingerprint.1]
  have hstrategy : (jsonText (cursor.strategyId.map uuidText)).length ≤ 38 := by
    cases cursor.strategyId with
    | none => exact Nat.le_of_ble_eq_true rfl
    | some id =>
      show (quoted (uuidText id)).length ≤ 38
      rw [quoted_length (uuidText_unescaped id), uuidText_length]
  have hlabels : ("\x7b\"as_of\":\"".toList).length = 10 ∧
      ("Z\",\"strategy_id\":".toList).length = 17 ∧ (",\"fingerprint\":".toList).length = 15 ∧
      (",\"created_at\":\"".toList).length = 15 ∧ ("Z\",\"deployment_id\":\"".toList).length = 20 ∧
      ("\"\x7d".toList).length = 2 := by decide +kernel
  obtain ⟨h1, h2, h3, h4, h5, h6⟩ := hlabels
  have hsum : (cursorJson cursor).length = 10 + (instantText cursor.asOf).length + 17 +
      (jsonText (cursor.strategyId.map uuidText)).length + 15 + 66 + 15 +
      (instantText cursor.createdAt).length + 20 + 36 + 2 := by
    unfold cursorJson
    simp only [length_append]
    rw [h1, h2, h3, h4, h5, h6, hfingerprint, uuidText_length]
  omega

/-- A cursor is decoded from its text. -/
theorem decodeCursor_encode {validate : List UInt8 → Option ParsedCursor}
    (hvalidate : ReadsBack validate) (h : cursor.Valid) :
    decodeCursor validate (encodeCursor cursor) = .ok cursor := by
  have hlength := cursorJson_length h
  have hshort : (encodeCursor cursor).length ≤ 2048 := by
    have hbytes := utf8Bytes_length (cursorJson cursor)
    rw [encodeCursor, base64Encode_length]
    omega
  have hdecoded : (base64Decode (encodeCursor cursor)).bind validate =
      some ⟨cursor, true, true⟩ := by
    rw [encodeCursor, base64Decode_encode, Option.bind_some, hvalidate cursor h]
  unfold decodeCursor
  rw [if_neg (by omega), hdecoded]
  rfl

/-! ## The JSON of a cursor names it -/

/-- A mark that neither text has tells where they end. -/
theorem append_mark_inj {a b rest rest' : List Char} {mark : Char} (ha : mark ∉ a) (hb : mark ∉ b)
    (h : a ++ mark :: rest = b ++ mark :: rest') : a = b ∧ rest = rest' := by
  induction a generalizing b with
  | nil =>
    cases b with
    | nil => exact ⟨rfl, (List.cons.inj h).2⟩
    | cons => exact absurd ((List.cons.inj h).1 ▸ mem_cons_self) hb
  | cons _ _ ih =>
    cases b with
    | nil => exact absurd ((List.cons.inj h).1 ▸ mem_cons_self) ha
    | cons =>
      obtain ⟨rfl, htail⟩ := List.cons.inj h
      obtain ⟨rfl, hrest⟩ := ih (fun hmem => ha (by simp [hmem])) (fun hmem => hb (by simp [hmem]))
        htail
      exact ⟨rfl, hrest⟩

theorem instantText_no_zone (t : Int) : 'Z' ∉ instantText t := by
  have hdigits : ∀ width n, 'Z' ∉ padded width n := fun width n hmem =>
    absurd ((digitText_append.mpr ⟨digitText_zeros _, digitText_toDigits n⟩) 'Z' hmem) (by decide)
  have hfraction : ∀ n, 'Z' ∉ (if n = 0 then [] else '.' :: padded 6 n) := by
    intro n
    split
    · simp
    · simpa using hdigits 6 n
  simp [instantText, isoText, dateText, clockText, hdigits, hfraction]

theorem cursorJson_inj {other : InventoryCursor} (hcursor : cursor.Valid) (hother : other.Valid)
    (h : cursorJson cursor = cursorJson other) : cursor = other := by
  have hzone : "Z\",\"strategy_id\":".toList = 'Z' :: "\",\"strategy_id\":".toList := by
    decide +kernel
  have hzone' : "Z\",\"deployment_id\":\"".toList = 'Z' :: "\",\"deployment_id\":\"".toList := by
    decide +kernel
  unfold cursorJson at h
  rw [hzone, hzone'] at h
  generalize "\x7b\"as_of\":\"".toList = asOfLabel, "\",\"strategy_id\":".toList = strategyLabel,
    ",\"fingerprint\":".toList = fingerprintLabel, ",\"created_at\":\"".toList = createdLabel,
    "\",\"deployment_id\":\"".toList = idLabel, "\"\x7d".toList = closing at h
  simp only [append_assoc, cons_append] at h
  obtain ⟨hasOf, h⟩ := append_mark_inj (instantText_no_zone _) (instantText_no_zone _)
    (append_cancel_left h)
  obtain ⟨hstrategy, h⟩ := jsonText_decodable _ _ _ _ (append_cancel_left h)
  obtain ⟨hfingerprint, h⟩ := quoted_decodable _ _ _ _ (append_cancel_left h)
  obtain ⟨hcreated, h⟩ := append_mark_inj (instantText_no_zone _) (instantText_no_zone _)
    (append_cancel_left h)
  have hid := uuidText_inj (append_cancel_right (append_cancel_left h))
  have hasOf := instantText_inj hcursor.asOf hother.asOf hasOf
  have hcreated := instantText_inj hcursor.createdAt hother.createdAt hcreated
  have hstrategy := Option.map_injective (fun _ _ => uuidText_inj) hstrategy
  obtain ⟨asOf, strategyId, fingerprint, createdAt, deploymentId⟩ := cursor
  obtain ⟨asOf', strategyId', fingerprint', createdAt', deploymentId'⟩ := other
  obtain rfl : asOf = asOf' := hasOf
  obtain rfl : strategyId = strategyId' := hstrategy
  obtain rfl : fingerprint = fingerprint' := hfingerprint
  obtain rfl : createdAt = createdAt' := hcreated
  obtain rfl : deploymentId = deploymentId' := hid
  rfl

open Classical in
/-- The validator of cursors, as far as it reads their own JSON. -/
noncomputable def validateCursor (bytes : List UInt8) : Option ParsedCursor :=
  if h : ∃ cursor : InventoryCursor, cursor.Valid ∧ utf8Bytes (cursorJson cursor) = bytes then
    some ⟨h.choose, true, true⟩
  else none

theorem validateCursor_readsBack : ReadsBack validateCursor := by
  intro cursor hvalid
  have hexists : ∃ other : InventoryCursor, other.Valid ∧
      utf8Bytes (cursorJson other) = utf8Bytes (cursorJson cursor) := ⟨cursor, hvalid, rfl⟩
  unfold validateCursor
  rw [dif_pos hexists]
  obtain ⟨hother, hbytes⟩ := hexists.choose_spec
  rw [cursorJson_inj hother hvalid (utf8Bytes_inj hbytes)]

end Thytrader.FleetControl

import Thytrader.Replay.Numeric

/-!
# Canonical replay values

`replay/codec.py`: `wire_value` turns the Python-mode dump of a replay model into JSON values.
A `Decimal` is validated and written with `canonical_decimal`; everything else keeps its text or
is refused.

`Reread` says what reading a written value gives: the same value with every `Decimal` replaced by
what `financial_text` makes of its text. So a package that was written can be read, and it is
written the same again (`wireValue_reread`, `replayDecimals_closed`).
-/

namespace Thytrader.Replay

open Backtest

/-- A value of a model dump. -/
inductive WireInput where
  | decimal (value : DecimalValue)
  | datetime (utcOffset : Option Duration) (isoformat : String)
  | uuid (text : String)
  | enum (value : WireInput)
  | null
  | text (value : String)
  | bool (value : Bool)
  | int (value : Int)
  | dict (fields : List (String × WireInput))
  | list (items : List WireInput)
  | other

/-- A `JsonValue`. -/
inductive JsonValue where
  | null
  | text (value : String)
  | bool (value : Bool)
  | int (value : Int)
  | object (fields : List (String × JsonValue))
  | array (items : List JsonValue)

/-- The text of a checked value. `canonical_decimal` raises on none of them. -/
def writeDecimal (tuple : DecimalTuple) : Result JsonValue :=
  match canonicalDecimal tuple with
  | some text => .ok (.text (String.ofList text))
  | none => .error (.valueError "invalid operation")

/-- `canonical_decimal(validate_decimal(value))`. -/
def wireDecimal (value : DecimalValue) : Result JsonValue := validateDecimal value >>= writeDecimal

mutual

def wireValue : WireInput → Result JsonValue
  | .decimal value => wireDecimal value
  | .datetime utcOffset isoformat =>
    if utcOffset ≠ some 0 then .error (.valueError "replay timestamps must be UTC")
    else .ok (.text (isoformat.replace "+00:00" "Z"))
  | .uuid text => .ok (.text text)
  | .enum value => wireValue value
  | .null => .ok .null
  | .text value => .ok (.text value)
  | .bool value => .ok (.bool value)
  | .int value => .ok (.int value)
  | .dict fields => (wireFields fields).map .object
  | .list items => (wireItems items).map .array
  | .other => .error (.valueError "unsupported or binary-floating replay value")

/-- The fields of a dictionary, in their order. -/
def wireFields : List (String × WireInput) → Result (List (String × JsonValue))
  | [] => .ok []
  | (key, item) :: rest =>
    (wireValue item).bind fun wire => (wireFields rest).map fun wires => (key, wire) :: wires

def wireItems : List WireInput → Result (List JsonValue)
  | [] => .ok []
  | item :: rest =>
    (wireValue item).bind fun wire => (wireItems rest).map fun wires => wire :: wires

end

/-- Values that are read as they were written. -/
def WireInput.isPlain : WireInput → Bool
  | .datetime .. | .uuid _ | .null | .text _ | .bool _ | .int _ => true
  | _ => false

mutual

/-- A value, what was written of it, and what is read of that. -/
inductive Reread : WireInput → JsonValue → WireInput → Prop
  | decimal {stored read : DecimalTuple} {text : List Char}
      (hread : financialText text = .ok read) (hnumber : read.number = stored.number) :
      Reread (.decimal (.finite stored)) (.text (String.ofList text)) (.decimal (.finite read))
  | plain {value : WireInput} {wire : JsonValue} (hplain : value.isPlain = true) :
      Reread value wire value
  | enum {value read : WireInput} {wire : JsonValue} (h : Reread value wire read) :
      Reread (.enum value) wire (.enum read)
  | dict {fields reads : List (String × WireInput)} {wires : List (String × JsonValue)}
      (h : RereadFields fields wires reads) : Reread (.dict fields) (.object wires) (.dict reads)
  | list {items reads : List WireInput} {wires : List JsonValue}
      (h : RereadItems items wires reads) : Reread (.list items) (.array wires) (.list reads)

inductive RereadFields :
    List (String × WireInput) → List (String × JsonValue) → List (String × WireInput) → Prop
  | nil : RereadFields [] [] []
  | cons {key : String} {value read : WireInput} {wire : JsonValue}
      {fields reads : List (String × WireInput)} {wires : List (String × JsonValue)}
      (h : Reread value wire read) (hrest : RereadFields fields wires reads) :
      RereadFields ((key, value) :: fields) ((key, wire) :: wires) ((key, read) :: reads)

inductive RereadItems : List WireInput → List JsonValue → List WireInput → Prop
  | nil : RereadItems [] [] []
  | cons {value read : WireInput} {wire : JsonValue} {items reads : List WireInput}
      {wires : List JsonValue} (h : Reread value wire read)
      (hrest : RereadItems items wires reads) :
      RereadItems (value :: items) (wire :: wires) (read :: reads)

end

theorem wireDecimal_reread {value : DecimalValue} {wire : JsonValue}
    (h : wireDecimal value = .ok wire) :
    ∃ read, Reread (.decimal value) wire (.decimal (.finite read)) ∧
      wireDecimal (.finite read) = .ok wire := by
  obtain ⟨tuple, hvalid, hwrite⟩ := bind_eq_ok h
  obtain ⟨text, read, htext, -, hread, hnumber, hagain⟩ := validated_roundTrip hvalid
  obtain ⟨rfl, -⟩ := validateDecimal_iff.mp hvalid
  have hsame : ∀ other, canonicalDecimal other = some text →
      writeDecimal other = .ok (.text (String.ofList text)) := by
    intro other hother
    unfold writeDecimal
    rw [hother]
  rw [hsame tuple htext] at hwrite
  cases hwrite
  obtain ⟨-, -, hvalidRead, -⟩ := financialText_inEnvelope hread
  refine ⟨read, .decimal hread hnumber, ?_⟩
  unfold wireDecimal
  rw [hvalidRead]
  exact hsame read hagain

theorem map_eq_ok {α β : Type} {x : Result α} {f : α → β} {r : β} (h : x.map f = .ok r) :
    ∃ a, x = .ok a ∧ f a = r := by
  cases x with
  | error => exact absurd h (by simp [Except.map])
  | ok a => exact ⟨a, rfl, Except.ok.inj h⟩

mutual

/-- What was written is read, and written the same again. -/
theorem wireValue_reread : ∀ (value : WireInput) (wire : JsonValue), wireValue value = .ok wire →
    ∃ read, Reread value wire read ∧ wireValue read = .ok wire
  | .decimal value, wire, h => by
    obtain ⟨read, hread, hagain⟩ := wireDecimal_reread (by simpa only [wireValue] using h)
    exact ⟨_, hread, by simpa only [wireValue] using hagain⟩
  | .datetime utcOffset isoformat, _, h => ⟨.datetime utcOffset isoformat, .plain rfl, h⟩
  | .uuid text, _, h => ⟨.uuid text, .plain rfl, h⟩
  | .enum value, wire, h => by
    obtain ⟨read, hread, hagain⟩ := wireValue_reread value wire (by simpa only [wireValue] using h)
    exact ⟨.enum read, .enum hread, by simpa only [wireValue] using hagain⟩
  | .null, _, h => ⟨.null, .plain rfl, h⟩
  | .text value, _, h => ⟨.text value, .plain rfl, h⟩
  | .bool value, _, h => ⟨.bool value, .plain rfl, h⟩
  | .int value, _, h => ⟨.int value, .plain rfl, h⟩
  | .dict fields, wire, h => by
    obtain ⟨wires, hwires, rfl⟩ := map_eq_ok (by simpa only [wireValue] using h)
    obtain ⟨reads, hreads, hagain⟩ := wireFields_reread fields wires hwires
    exact ⟨.dict reads, .dict hreads, by simp only [wireValue, hagain, Except.map]⟩
  | .list items, wire, h => by
    obtain ⟨wires, hwires, rfl⟩ := map_eq_ok (by simpa only [wireValue] using h)
    obtain ⟨reads, hreads, hagain⟩ := wireItems_reread items wires hwires
    exact ⟨.list reads, .list hreads, by simp only [wireValue, hagain, Except.map]⟩
  | .other, _, h => absurd h (by simp [wireValue])

theorem wireFields_reread : ∀ (fields : List (String × WireInput))
    (wires : List (String × JsonValue)), wireFields fields = .ok wires →
    ∃ reads, RereadFields fields wires reads ∧ wireFields reads = .ok wires
  | [], wires, h => by
    obtain rfl := Except.ok.inj (by simpa only [wireFields] using h)
    exact ⟨[], .nil, by simp only [wireFields]⟩
  | (key, item) :: rest, wires, h => by
    obtain ⟨wire, hwire, h⟩ := bind_eq_ok h
    obtain ⟨others, hothers, rfl⟩ := map_eq_ok h
    obtain ⟨read, hread, hagain⟩ := wireValue_reread item wire hwire
    obtain ⟨reads, hreads, hrest⟩ := wireFields_reread rest others hothers
    exact ⟨(key, read) :: reads, .cons hread hreads, by
      simp only [wireFields, hagain, hrest, Except.bind, Except.map]⟩

theorem wireItems_reread : ∀ (items : List WireInput) (wires : List JsonValue),
    wireItems items = .ok wires →
    ∃ reads, RereadItems items wires reads ∧ wireItems reads = .ok wires
  | [], wires, h => by
    obtain rfl := Except.ok.inj (by simpa only [wireItems] using h)
    exact ⟨[], .nil, by simp only [wireItems]⟩
  | item :: rest, wires, h => by
    obtain ⟨wire, hwire, h⟩ := bind_eq_ok h
    obtain ⟨others, hothers, rfl⟩ := map_eq_ok h
    obtain ⟨read, hread, hagain⟩ := wireValue_reread item wire hwire
    obtain ⟨reads, hreads, hrest⟩ := wireItems_reread rest others hothers
    exact ⟨read :: reads, .cons hread hreads, by
      simp only [wireItems, hagain, hrest, Except.bind, Except.map]⟩

end

/-- The decimal envelope is closed under encoding. -/
theorem replayDecimals_closed :
    (∀ value tuple, validateDecimal value = .ok tuple →
      ∃ text read, canonicalDecimal tuple = some text ∧ text.length ≤ maxTextLength ∧
        financialText text = .ok read ∧ read.number = tuple.number ∧
        canonicalDecimal read = some text) ∧
    (∀ text tuple, financialText text = .ok tuple →
      text.length ≤ maxTextLength ∧ decimalFromText text = some (.finite tuple) ∧
        validateDecimal (.finite tuple) = .ok tuple ∧ InEnvelope tuple.number) ∧
    ∀ value wire, wireValue value = .ok wire →
      ∃ read, Reread value wire read ∧ wireValue read = .ok wire :=
  ⟨fun _ _ => validated_roundTrip, fun _ _ => financialText_inEnvelope, wireValue_reread⟩

end Thytrader.Replay

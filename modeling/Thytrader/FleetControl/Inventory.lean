import Thytrader.FleetControl.Models
import Thytrader.Lib.Base64
import Thytrader.Lib.Calendar
import Thytrader.Lib.JsonText
import Mathlib.Data.Prod.Lex

/-!
# Fleet inventory pages

`fleet_control/inventory.py`: one page of the deployments that existed at an instant, newest
first, and the cursor that continues it. A cursor carries the digest of the identity of every
deployment of the inventory, and a later read whose own digest differs is refused.

Mirroring notes:
- A `datetime` is its instant in UTC; `isoformat` writes it with the offset `+00:00`, the JSON of
  a cursor with `Z`. `IsDatetime` is the range of the type, the years 1 to 9999.
- The SHA-256 digest is an argument, and so is the reading of a cursor's JSON, which is the
  validator of a library; the JSON it writes is `cursorJson`.
-/

namespace Thytrader.FleetControl

open Trading Lib

/-! ## Texts -/

/-- The day of an instant, counted from 1 January of year 1. -/
def dayNumber (t : Int) : Int := t / 86400000000 + 719162

/-- The range of `datetime`. -/
def IsDatetime (t : Time) : Prop := 0 ≤ dayNumber t ∧ dayNumber t < 3652059

def instantText (t : Int) : List Char :=
  isoText (dayNumber t).toNat (t % 86400000000).toNat

/-- `datetime.isoformat()` in UTC. -/
def isoformat (t : Time) : List Char := instantText t ++ ['+', '0', '0', ':', '0', '0']

/-- `str(strategy_id)`. -/
def strategyText : Option Uuid → List Char
  | some id => uuidText id
  | none => ['N', 'o', 'n', 'e']

/-- `DeploymentKind.value`. -/
def kindValue : DeploymentKind → String
  | .strategy => "strategy"
  | .discretionary => "discretionary"

def inventoryIdentity (row : Deployment) : List (Option (List Char)) :=
  [some (uuidText row.id), some (isoformat row.createdAt), some (strategyText row.strategyId),
    row.strategyFingerprint.map String.toList, some row.productId.toList,
    some (modeValue row.mode).toList, some (kindValue row.kind).toList]

/-- `json.dumps(identity, separators=(",", ":"))`. -/
def inventoryText (selected : List Deployment) : List Char :=
  jsonList (jsonList jsonText) (selected.map inventoryIdentity)

/-! ## Cursors -/

structure InventoryCursor where
  asOf : Time
  strategyId : Option Uuid
  fingerprint : List Char
  createdAt : Time
  deploymentId : Uuid
  deriving DecidableEq

/-- A validated cursor, and whether its timestamps carry an offset. -/
structure ParsedCursor where
  cursor : InventoryCursor
  asOfAware : Bool
  createdAtAware : Bool

/-- `model_dump_json`. -/
def cursorJson (cursor : InventoryCursor) : List Char :=
  "\x7b\"as_of\":\"".toList ++ instantText cursor.asOf ++ "Z\",\"strategy_id\":".toList ++
    jsonText (cursor.strategyId.map uuidText) ++ ",\"fingerprint\":".toList ++
      quoted cursor.fingerprint ++ ",\"created_at\":\"".toList ++ instantText cursor.createdAt ++
        "Z\",\"deployment_id\":\"".toList ++ uuidText cursor.deploymentId ++ "\"\x7d".toList

/-- `text.encode()`. -/
def utf8Bytes (text : List Char) : List UInt8 := text.flatMap String.utf8EncodeChar

/-- `urlsafe_b64encode` of a cursor's JSON. -/
def encodeCursor (cursor : InventoryCursor) : List Char :=
  base64Encode (utf8Bytes (cursorJson cursor))

/-- `_decode`. -/
def decodeCursor (validate : List UInt8 → Option ParsedCursor) (cursor : List Char) :
    Result InventoryCursor :=
  if 2048 < cursor.length then .error (.conflict "Invalid inventory cursor: too long.")
  else
    match (base64Decode cursor).bind validate with
    | none => .error (.conflict "Invalid inventory cursor.")
    | some decoded =>
      if decoded.asOfAware = false ∨ decoded.createdAtAware = false then
        .error (.conflict "Invalid inventory cursor: naive timestamp.")
      else .ok decoded.cursor

/-! ## Pages -/

structure InventoryPage where
  deployments : List Deployment
  limit : Nat
  offset : Nat
  returned : Nat
  total : Nat
  hasMore : Bool
  asOf : Time
  fingerprint : List Char
  nextCursor : Option (List Char)
  order : String := "created_at_desc_id_desc"

/-- `(row.created_at, row.id.int)`. -/
def inventoryKey (row : Deployment) : Time ×ₗ Nat := toLex (row.createdAt, row.id.toNat)

/-- The filter of an inventory: its strategy, and what existed at the instant. -/
def inventoryMatches (strategyId : Option Uuid) (asOf : Time) (row : Deployment) : Bool :=
  (strategyId = none ∨ row.strategyId = strategyId) ∧ row.createdAt ≤ asOf

/-- `selected`, newest first. -/
def selectRows (rows : List Deployment) (strategyId : Option Uuid) (asOf : Time) :
    List Deployment :=
  (rows.filter (inventoryMatches strategyId asOf)).insertionSort
    (fun a b => inventoryKey b ≤ inventoryKey a)

/-- The refusal of a stale cursor. -/
def inventoryChanged : Failure :=
  .conflict "inventory_changed: membership or classification changed; restart inventory read."

def remainingRows (selected : List Deployment) : Option InventoryCursor → List Deployment
  | none => selected
  | some continuation => selected.filter (fun row =>
      inventoryKey row < toLex (continuation.createdAt, continuation.deploymentId.toNat))

def pageDeployments (sha256 : List Char → List Char) (rows : List Deployment)
    (limit offset : Nat) (strategyId : Option Uuid) (asOf : Time)
    (continuation : Option InventoryCursor) : Result InventoryPage :=
  let selected := selectRows rows strategyId asOf
  let fingerprint := sha256 (inventoryText selected)
  if continuation.any (fun cursor => fingerprint ≠ cursor.fingerprint) then
    .error inventoryChanged
  else
    let total := selected.length
    let remaining := remainingRows selected continuation
    let start := if continuation.isSome then total - remaining.length else offset
    let page :=
      if continuation.isSome then remaining.take limit else (remaining.drop offset).take limit
    let hasMore : Bool := start + page.length < total
    let nextCursor := if hasMore then page.getLast?.map (fun last =>
      encodeCursor ⟨asOf, strategyId, fingerprint, last.createdAt, last.id⟩) else none
    .ok { deployments := page
          limit := limit
          offset := start
          returned := page.length
          total := total
          hasMore := hasMore
          asOf := asOf
          fingerprint := fingerprint
          nextCursor := nextCursor }

def checkContinuation (offset : Int) (strategyId : Option Uuid) (asOf : Option Time)
    (continuation : InventoryCursor) : Result Unit :=
  if offset ≠ 0 ∨ strategyId ≠ continuation.strategyId then
    .error (.conflict "Inventory cursor cannot change offset or strategy filter.")
  else if asOf.any (· ≠ continuation.asOf) then
    .error (.conflict "Inventory cursor cannot change as_of.")
  else .ok ()

/-- `read_stable_inventory`, on the rows the store lists and the clock. -/
def readStableInventory (sha256 : List Char → List Char)
    (validate : List UInt8 → Option ParsedCursor) (rows : List Deployment) (now : Time)
    (limit offset : Int) (strategyId : Option Uuid) (asOf : Option Time)
    (cursor : Option (List Char)) : Result InventoryPage :=
  if limit < 1 ∨ offset < 0 then .error (.storeError "Inventory page bounds are invalid.")
  else
    match cursor with
    | none =>
      pageDeployments sha256 rows limit.toNat offset.toNat strategyId (asOf.getD now) none
    | some text => do
      let continuation ← decodeCursor validate text
      checkContinuation offset strategyId asOf continuation
      pageDeployments sha256 rows limit.toNat offset.toNat strategyId continuation.asOf
        (some continuation)

end Thytrader.FleetControl

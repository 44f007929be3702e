import Thytrader.Risk.EntryLimits

/-!
# The BTC-beta cap

`risk/beta_exposure.py`, the evidence lookups of `risk/beta.py` and the netting
of `risk/futures_beta.py`: beta-weighted exposure over the entry's same-quote
books plus the proposed notional, against a fraction of capital and, on live, an
absolute ceiling. A missing or stale beta denies. With base-unit netting a paper
futures leg may lower the figure.

Mirroring notes: beta estimation itself is floating point and stays outside; the
gate reads its rounded results. `beta_reference` raises on a malformed id, so a
lookup returns a `Result`.
-/

namespace Thytrader.Risk

open Lib MarketData Trading

/-! ## Evidence -/

/-- `BETA_STALE_AFTER`: 48 hours. -/
def betaStaleAfter : Duration := 48 * 3600 * 1000000

/-- `beta_reference`: the BTC product in the product's quote. -/
def betaReference (productId : String) : Result String :=
  (quoteCurrency productId).map (fun quote => "BTC-" ++ quote.text)

/-- `BetaEvidence.result_for`: the loaded result; the reference itself is always 1. -/
def BetaEvidence.resultFor (evidence : BetaEvidence) (productId : String) : Result BetaResult :=
  match evidence.results.get? productId with
  | some loaded => .ok loaded
  | none =>
    (betaReference productId).map (fun reference =>
      if productId = reference then .estimate { beta := 1, returns := 0, lastClose := none }
      else .unavailable { reason := .notLoaded })

/-- `fresh_beta`: stale when its last bar closed over 48 hours ago. -/
def freshBeta (result : BetaResult) (asOf : Time) : BetaResult :=
  match result with
  | .unavailable cause => .unavailable cause
  | .estimate value =>
    match value.lastClose with
    | none => .estimate value
    | some lastClose =>
      if asOf - lastClose ≤ betaStaleAfter then .estimate value
      else .unavailable { reason := .stale, returns := value.returns, lastClose := some lastClose }

def BetaUnavailable.describe (cause : BetaUnavailable) : List DetailPart :=
  match cause.reason with
  | .insufficientHistory =>
    [.text "insufficient_history n=", .count cause.returns, .text "<60"]
  | .stale =>
    [.text "stale last_close=",
      match cause.lastClose with
      | none => .text "unknown"
      | some lastClose => .instant lastClose]
  | .invalidHistory => [.text "invalid_history"]
  | .fetchFailed => [.text "fetch_failed"]
  | .notLoaded => [.text "not_loaded"]

def referenceLabel (productId : String) : String :=
  match betaReference productId with
  | .ok reference => reference
  | .error _ => "BTC-?"

/-! ## Base-unit netting -/

/-- `_signed_base`: signed base quantity a futures book holds. -/
def signedBase (book : DeploymentSnapshot) (productId : String) : Decimal :=
  (((snapshotPositions book).filter (fun position =>
    resolvedProductId position.productId book.deployment = productId)).map Position.signed).sum

/-- The loop of `_futures_base_by_underlying`: totals and unknown underlyings, none
when a book has no readable binding. -/
def futuresBases (legs : FuturesLegs) (marks : Dict String Decimal)
    (totals : Dict String Decimal) (unknown : List String) :
    List DeploymentSnapshot → Option (Dict String Decimal × List String)
  | [] => some (totals, unknown)
  | book :: rest =>
    let productId := book.deployment.productId
    if isFuturesProductId productId = false then futuresBases legs marks totals unknown rest
    else
      match legs.underlyings.get? book.deployment.id with
      | none => none
      | some underlying =>
        let signed := signedBase book productId
        if signed = 0 then futuresBases legs marks totals unknown rest
        else if book.deployment.id ∉ legs.fundingCurrent ∨ marks.contains productId = false then
          futuresBases legs marks totals (underlying :: unknown) rest
        else
          futuresBases legs marks
            (totals.set underlying ((totals.get? underlying).getD 0 + signed)) unknown rest

/-- `_futures_base_by_underlying`: an underlying with any unknown leg is dropped. -/
def futuresBaseByUnderlying (snapshots : List DeploymentSnapshot) (mode : DeploymentMode)
    (legs : FuturesLegs) (marks : Dict String Decimal) : List (String × Decimal) :=
  match futuresBases legs marks Dict.empty [] (riskBearingSnapshots snapshots mode) with
  | none => []
  | some (totals, unknown) => totals.entries.filter (fun entry => entry.1 ∉ unknown)

/-- `_spot_leg`: signed base and gross position cost of one product across the spot books. -/
def spotLeg (occupied : List DeploymentSnapshot) (spotProduct : String) : Decimal × Decimal :=
  let held := occupied.flatMap (fun book =>
    (snapshotPositions book).filter (fun position =>
      resolvedProductId position.productId book.deployment = spotProduct))
  ((held.map Position.signed).sum, (held.map Position.cost).sum)

def nettedUnderlying (policy : RiskPolicyDefinition) (proposed : ProposedEntry)
    (side : PositionSide) (occupied : List DeploymentSnapshot) (betas marks : Dict String Decimal)
    (underlying : String) (futuresBase : Decimal) : Decimal :=
  let spotProduct := underlying ++ "-" ++ policy.quoteCurrency.text
  match betas.get? spotProduct, marks.get? spotProduct with
  | some beta, some mark =>
    if futuresBase = 0 ∨ mark ≤ 0 then 0
    else
      let (spotBase, gross) := spotLeg occupied spotProduct
      let (spotBase, gross) :=
        match proposed.quantity with
        | some quantity =>
          if proposed.productId = spotProduct then
            (spotBase + (if side = .short then -quantity else quantity),
              gross + |proposed.notional|)
          else (spotBase, gross)
        | none => (spotBase, gross)
      if gross = 0 then 0
      else min (|spotBase + futuresBase| * mark - gross) 0 * beta
  | _, _ => 0

/-- `netting_adjustment`: how much base-unit netting lowers the spot figure. -/
def nettingAdjustment (policy : RiskPolicyDefinition) (mode : DeploymentMode)
    (proposed : ProposedEntry) (occupied snapshots : List DeploymentSnapshot)
    (legs : Option FuturesLegs) (betas marks : Dict String Decimal) : Decimal :=
  match legs, proposed.side with
  | some legs, some side =>
    if policy.netsByUnderlying = false ∨ mode ≠ .paper then 0
    else
      ((futuresBaseByUnderlying snapshots mode legs marks).map (fun entry =>
        nettedUnderlying policy proposed side occupied betas marks entry.1 entry.2)).sum
  | _, _ => 0

/-! ## The cap -/

def betaCapApplies (policy : RiskPolicyDefinition) (mode : DeploymentMode) : Bool :=
  policy.maxBtcBetaExposureFraction.isSome ∨
    (policy.maxBtcBetaExposureQuote.isSome ∧ mode = .live)

/-- `_beta_cap`: the tighter of the bounds that bind the mode. -/
def betaCap (policy : RiskPolicyDefinition) (mode : DeploymentMode) (capital : Decimal) :
    Decimal :=
  let absolute := if mode = .live then policy.maxBtcBetaExposureQuote else none
  match policy.maxBtcBetaExposureFraction, absolute with
  | some fraction, some ceiling => min (capital * fraction) ceiling
  | some fraction, none => capital * fraction
  | none, some ceiling => ceiling
  -- Not reached: the cap is asked for only when one of the bounds is set.
  | none, none => 0

/-- `_held_products`: sorted products with non-zero exposure. -/
def heldProducts (books : List DeploymentSnapshot) : List String :=
  (books.flatMap (fun book => (bookProducts book).filter
    (fun productId => productExposure book productId ≠ 0))).dedup.insertionSort (· ≤ ·)

/-- The beta loop of `beta_verdict`: every needed beta, floored at zero, or the denial. -/
def collectBetas (evidence : BetaEvidence) (asOf : Time) (reference : String)
    (betas : Dict String Decimal) : List String → Result (Except Denial (Dict String Decimal))
  | [] => .ok (.ok betas)
  | productId :: rest =>
    match evidence.resultFor productId with
    | .error failure => .error failure
    | .ok result =>
      match freshBeta result asOf with
      | .unavailable cause =>
        .ok (.error
          { reasonCode := .btcBetaUnavailable
            detail := [.text "BTC beta unavailable for ", .text productId, .text " vs ",
              .text reference, .text ": "] ++ cause.describe ++
              [.text "; new entries blocked."] })
      | .estimate value =>
        collectBetas evidence asOf reference (betas.set productId (max value.beta 0)) rest

def weightedExposure (occupied : List DeploymentSnapshot) (betas : Dict String Decimal) :
    Decimal :=
  (occupied.map (fun book => ((bookProducts book).map (fun productId =>
    match betas.get? productId with
    | some beta => |productExposure book productId| * beta
    | none => 0)).sum)).sum

/-- `beta_verdict`: the beta-weighted cap, or a denial when a needed beta is unknown. -/
def betaVerdict (policy : RiskPolicyDefinition) (mode : DeploymentMode)
    (proposed : ProposedEntry) (occupied : List DeploymentSnapshot)
    (liveQuoteCash : Option Decimal) (beta : Option BetaEvidence) (asOf : Option Time)
    (snapshots : List DeploymentSnapshot) (legs : Option FuturesLegs)
    (marks : Dict String Decimal) : Objection :=
  if betaCapApplies policy mode = false then .pass
  else
    let reference := referenceLabel proposed.productId
    match beta, asOf with
    | some beta, some asOf =>
      match collectBetas beta asOf reference Dict.empty
          (proposed.productId :: heldProducts occupied) with
      | .error failure => .error failure
      | .ok (.error denial) => .ok (some denial)
      | .ok (.ok betas) =>
        let proposedBeta := (betas.get? proposed.productId).getD 0
        let weighted := |proposed.notional| * proposedBeta
        let existing := weightedExposure occupied betas +
          nettingAdjustment policy mode proposed occupied snapshots legs betas marks
        let capital := capitalBase policy mode liveQuoteCash occupied proposed.inKindCapital
        let cap := betaCap policy mode capital
        .require (0 < capital ∧ existing + weighted ≤ cap)
          { reasonCode := .btcBetaExposureExceeded
            detail := [.text "BTC-beta exposure exceeded (reference ", .text reference,
              .text "): existing=", .cents existing, .text ", proposed=",
              .cents proposed.notional, .text "*β", .decimal proposedBeta, .text "=",
              .cents weighted, .text ", cap=", .cents cap, .text ", capital=", .cents capital,
              .text ", fraction=", .setting policy.maxBtcBetaExposureFraction,
              .text ", absolute=", .setting policy.maxBtcBetaExposureQuote, .text "."] }
    | _, _ =>
      deny .btcBetaUnavailable
        [.text "BTC beta unavailable for ", .text proposed.productId, .text " vs ",
          .text reference, .text ": evidence was not loaded; new entries blocked."]

/-! ## What a passing cap compared -/

variable {policy : RiskPolicyDefinition}

theorem nettingAdjustment_off (hoff : policy.netsByUnderlying = false) (mode : DeploymentMode)
    (proposed : ProposedEntry) (occupied snapshots : List DeploymentSnapshot)
    (legs : Option FuturesLegs) (betas marks : Dict String Decimal) :
    nettingAdjustment policy mode proposed occupied snapshots legs betas marks = 0 := by
  unfold nettingAdjustment
  split
  · rw [if_pos (.inl hoff)]
  · rfl

theorem collectBetas_nonneg {evidence : BetaEvidence} {asOf : Time} {reference : String}
    {betas collected : Dict String Decimal} {products : List String}
    (h : collectBetas evidence asOf reference betas products = .ok (.ok collected))
    (hstart : ∀ product beta, betas.get? product = some beta → 0 ≤ beta) (product : String)
    (beta : Decimal) (hbeta : collected.get? product = some beta) : 0 ≤ beta := by
  induction products generalizing betas with
  | nil =>
    cases h
    exact hstart product beta hbeta
  | cons _ _ ih =>
    unfold collectBetas at h
    split at h
    · cases h
    next result hresult =>
      split at h
      · cases h
      next value hvalue =>
        exact ih h (Dict.forall_set rfl (le_max_right _ _) hstart)

/-- The comparison behind a passing beta cap that binds. -/
structure WithinBetaCap (policy : RiskPolicyDefinition) (mode : DeploymentMode)
    (proposed : ProposedEntry) (occupied snapshots : List DeploymentSnapshot)
    (liveQuoteCash : Option Decimal) (legs : Option FuturesLegs)
    (betas marks : Dict String Decimal) : Prop where
  capital : 0 < capitalBase policy mode liveQuoteCash occupied proposed.inKindCapital
  exposure : weightedExposure occupied betas +
      nettingAdjustment policy mode proposed occupied snapshots legs betas marks +
        |proposed.notional| * (betas.get? proposed.productId).getD 0 ≤
      betaCap policy mode (capitalBase policy mode liveQuoteCash occupied proposed.inKindCapital)

theorem betaVerdict_pass_iff {mode : DeploymentMode} {proposed : ProposedEntry}
    {occupied : List DeploymentSnapshot} {liveQuoteCash : Option Decimal}
    {beta : Option BetaEvidence} {asOf : Option Time} {snapshots : List DeploymentSnapshot}
    {legs : Option FuturesLegs} {marks : Dict String Decimal}
    (hbinds : betaCapApplies policy mode = true) :
    betaVerdict policy mode proposed occupied liveQuoteCash beta asOf snapshots legs marks =
        .pass ↔
      ∃ evidence observed betas, beta = some evidence ∧ asOf = some observed ∧
        collectBetas evidence observed (referenceLabel proposed.productId) Dict.empty
          (proposed.productId :: heldProducts occupied) = .ok (.ok betas) ∧
        WithinBetaCap policy mode proposed occupied snapshots liveQuoteCash legs betas marks := by
  unfold betaVerdict
  rw [if_neg (by simp [hbinds])]
  dsimp only
  split
  next evidence observed =>
    split
    next failure hcollect => simp [hcollect, Check.pass]
    next denial hcollect => simp [hcollect, Check.pass]
    next betas hcollect =>
      rw [Check.require_pass_iff]
      constructor
      · rintro ⟨hcapital, hexposure⟩
        exact ⟨evidence, observed, betas, rfl, rfl, hcollect, hcapital, hexposure⟩
      · rintro ⟨_, _, _, hevidence, hobserved, hcollected, hwithin⟩
        cases hevidence
        cases hobserved
        cases hcollect.symm.trans hcollected
        exact ⟨hwithin.capital, hwithin.exposure⟩
  next hmissing =>
    refine iff_of_false deny_ne_pass ?_
    rintro ⟨evidence, observed, _, hevidence, hobserved, _⟩
    exact hmissing evidence observed hevidence hobserved

end Thytrader.Risk

import Thytrader.Alerts.Delivery
import Thytrader.Alerts.RowChanges

/-!
# Pages and their claims

Dispatchers run side by side on one store while observations refresh and resolve rows. A
claim holds its row until it is finished or its term is over; each severity of a row has a
budget of its own; and a page is claimed only above what the row's coverage says was sent
(`paged_once_per_severity`).

A continuation skip stores the severity of an older page and can lower the coverage; the invariant
(`Paged`) is about runs whose skips do not (`CalmStep`).
-/

namespace Thytrader.Alerts

open Lib AlertStore List Option List.Subset OperatorAlert

variable {now : Time} {provider : String} {ttl : Duration} {index : Nat} {old : OperatorAlert}
  {inputs : DeliveryInputs}

/-! ## What a dispatcher knows -/

/-- The instant a dispatcher read and the claim it was granted. -/
structure Known where
  now : Option Time := none
  claim : Option DeliveryClaim := none

def deliveryProtocol : Protocol DeliveryOp DeliveryOp.Answer Known where
  require known
    | .claim _ _ now _ _ => known.now = some now
    | .finish alertId token _ _ covered => ∃ claim, known.claim = some claim ∧
        claim.alert.id = alertId ∧ claim.token = token ∧
        ∀ severity, covered = some severity → severity = claim.alert.severity
    | _ => True
  answers _
    | .claim alertId _ _ _ _, answer => ∀ claim, answer = some claim → claim.alert.id = alertId
    | _, _ => True
  learn known
    | .clock, now => { known with now := some now }
    | .claim _ _ _ _ _, answer => { known with claim := answer }
    | _, _ => known

/-- The rest of a dispatcher keeps the protocol. -/
def Follow (known : Known) (program : DeliveryProgram Unit) : Prop :=
  Follows deliveryProtocol known program (fun _ _ => True) (fun _ => True)

section

variable (settings : DeliverySettings) (alert : OperatorAlert)
variable {known : Known}

theorem follow_claimAndSend (hnow : known.now = some now) :
    Follow known (claimAndSend settings alert now) := by
  refine ⟨hnow, fun answer hanswer => ?_⟩
  cases answer with
  | none => exact trivial
  | some claim =>
    refine ⟨trivial, fun status _ => ⟨⟨claim, rfl, hanswer claim rfl, rfl, ?_⟩, fun _ _ => trivial⟩⟩
    intro severity hcovered
    obtain ⟨-, hcovered⟩ := of_ite_ne_else hcovered nofun
    exact (Option.some.inj hcovered).symm

theorem follows_entryBlockDue :
    Follows deliveryProtocol known (entryBlockDue settings alert now)
      (fun known' _ => known' = known) (fun _ => True) := by
  unfold entryBlockDue
  split
  · exact rfl
  · refine ⟨trivial, fun history _ => ?_⟩
    dsimp only [Program.bind]
    split
    · exact rfl
    · split
      · split
        · exact rfl
        · exact ⟨trivial, fun _ _ => rfl⟩
      · exact rfl

theorem follow_deliver (hnow : known.now = some now) :
    Follow known (deliver settings alert now) := by
  unfold deliver
  split
  · dsimp only
    split
    · exact ⟨trivial, fun _ _ => trivial⟩
    · exact trivial
  · split
    · refine (follows_entryBlockDue settings alert).bind (fun known' due hknown => ?_)
      subst hknown
      split
      · exact follow_claimAndSend settings alert hnow
      · exact trivial
    · exact follow_claimAndSend settings alert hnow

end

/-! ## The invariant -/

namespace Desk

/-- The claims granted on a row, oldest first. -/
def claimsOf (desk : Desk) (alertId : Uuid) : List ClaimRecord :=
  desk.claims.filter (fun claim => claim.alertId = alertId)

/-- The severities of a row's acknowledged sends, oldest first. -/
def sendsOf (desk : Desk) (alertId : Uuid) : List AlertSeverity :=
  (desk.sends.filter (fun send => send.1 = alertId)).map Prod.snd

/-- A claim that is neither finished nor expired. -/
def Outstanding (desk : Desk) (claim : ClaimRecord) : Prop :=
  claim.token ∉ desk.finished ∧ desk.clock < claim.expiresAt

/-- A held token is that of the last claim, whose page is above the coverage; an outstanding claim
holds the row; the counters count the claims; the coverage is at least what was sent. -/
structure RowInv (maxAttempts : Nat) (desk : Desk) (row : OperatorAlert) : Prop where
  held : ∀ token, row.deliveryToken = some token → row.deliveryStatus = .failed ∧
    ∃ claim, (desk.claimsOf row.id).getLast? = some claim ∧ claim.token = token ∧
      row.deliveryExpiresAt = some claim.expiresAt ∧
      ∀ covered, row.coveredSeverity = some covered → covered.rank < claim.severity.rank
  live : ∀ claim ∈ desk.claimsOf row.id, desk.Outstanding claim →
    row.deliveryToken = some claim.token
  counted : ∀ severity, row.attemptsAt severity =
    ((desk.claimsOf row.id).filter (fun claim => claim.severity = severity)).length
  budget : ∀ severity, row.attemptsAt severity ≤ maxAttempts
  covered : ∀ severity ∈ desk.sendsOf row.id,
    ∃ covered, row.coveredSeverity = some covered ∧ severity.rank ≤ covered.rank
  rising : (desk.sendsOf row.id).Pairwise (fun earlier later => earlier.rank < later.rank)

variable {detail : String} {claim' record : ClaimRecord} {status : DeliveryStatus}

section

variable {maxAttempts : Nat} {desk desk' : Desk} {row row' : OperatorAlert}

/-- The history of a row's own claims and sends decides its invariant. -/
theorem RowInv.mono (h : RowInv maxAttempts desk row) (hsame : SameDelivery row row')
    (hclaims : desk'.claimsOf row.id = desk.claimsOf row.id)
    (hsends : desk'.sendsOf row.id = desk.sendsOf row.id)
    (hfinished : desk.finished ⊆ desk'.finished) (hclock : desk.clock ≤ desk'.clock) :
    RowInv maxAttempts desk' row' where
  held token htoken := by
    rw [hsame.token] at htoken
    rw [hsame.status, hsame.id, hsame.expiresAt, hsame.covered, hclaims]
    exact h.held token htoken
  live claim hclaim hout := by
    rw [hsame.id, hclaims] at hclaim
    rw [hsame.token]
    exact h.live claim hclaim ⟨fun hmem => hout.1 (hfinished hmem), lt_of_le_of_lt hclock hout.2⟩
  counted severity := by
    rw [hsame.id, hclaims, hsame.attempts]
    exact h.counted severity
  budget severity := by
    rw [hsame.attempts]
    exact h.budget severity
  covered severity hsent := by
    rw [hsame.id, hsends] at hsent
    rw [hsame.covered]
    exact h.covered severity hsent
  rising := by
    rw [hsame.id, hsends]
    exact h.rising

theorem rowInv_newAlert {finding : SupervisionFinding} {id : Uuid} (hclaims : desk.claimsOf id = [])
    (hsends : desk.sendsOf id = []) :
    RowInv maxAttempts desk (newAlert finding now id) where
  held := by simp [newAlert]
  live claim hclaim := by
    rw [show desk.claimsOf (newAlert finding now id).id = [] from hclaims] at hclaim
    cases hclaim
  counted severity := by
    rw [show desk.claimsOf (newAlert finding now id).id = [] from hclaims]
    cases severity <;> rfl
  budget severity := by cases severity <;> exact Nat.zero_le _
  covered severity hsent := by
    rw [show desk.sendsOf (newAlert finding now id).id = [] from hsends] at hsent
    cases hsent
  rising := by
    rw [show desk.sendsOf (newAlert finding now id).id = [] from hsends]
    exact List.Pairwise.nil

section

variable (h : RowInv maxAttempts desk row)
  (hstatus : row.deliveryStatus = .pending ∨ row.deliveryStatus = .skipped)
include h hstatus

/-- A row that waits for a page has no claim. -/
theorem RowInv.token_eq_none : row.deliveryToken = none := by
  cases htoken : row.deliveryToken with
  | none => rfl
  | some token =>
    have hfailed := (h.held token htoken).1
    rcases hstatus with hpending | hskipped
    · rw [hpending] at hfailed
      exact absurd hfailed (by decide)
    · rw [hskipped] at hfailed
      exact absurd hfailed (by decide)

theorem RowInv.skip {covered : Option AlertSeverity}
    (hcovered : ∀ severity, covered = some severity → ∀ known, row.coveredSeverity = some known →
      known.rank ≤ severity.rank) :
    RowInv maxAttempts desk
      { skippedRow row provider detail with
        coveredSeverity := covered.or row.coveredSeverity } where
  held token htoken := absurd htoken (by simp [skippedRow])
  live claim hclaim hout := by
    have htoken := h.live claim hclaim hout
    rw [h.token_eq_none hstatus] at htoken
    cases htoken
  counted severity := by
    refine Eq.trans ?_ (h.counted severity)
    cases severity <;> rfl
  budget severity := by
    refine le_trans (le_of_eq ?_) (h.budget severity)
    cases severity <;> rfl
  covered severity hsent := by
    obtain ⟨known, hknown, hle⟩ := h.covered severity hsent
    cases covered with
    | none => exact ⟨known, by simpa [skippedRow] using hknown, hle⟩
    | some written =>
      exact ⟨written, rfl, hle.trans (hcovered written rfl known hknown)⟩
  rising := h.rising

end

theorem pageClaimable_above (h : pageClaimable row = true) {covered : AlertSeverity}
    (hcovered : row.coveredSeverity = some covered) : covered.rank < row.severity.rank := by
  unfold pageClaimable at h
  rw [hcovered] at h
  cases hstatus : row.deliveryStatus <;> rw [hstatus] at h <;> simpa using h

section

variable (row : OperatorAlert) (provider : String) (token : Uuid) (expiresAt : Time)

theorem attemptsAt_claimedRow (severity : AlertSeverity) :
    (claimedRow row provider token expiresAt).attemptsAt severity =
      row.attemptsAt severity + if severity = row.severity then 1 else 0 := by
  cases hseverity : row.severity <;> cases severity <;>
    simp [claimedRow, countAttempt, pageAttempts, hseverity, attemptsAt]

theorem id_claimedRow : (claimedRow row provider token expiresAt).id = row.id := by
  cases hseverity : row.severity <;>
    simp [claimedRow, countAttempt, hseverity]

theorem severity_claimedRow :
    (claimedRow row provider token expiresAt).severity = row.severity := by
  cases hseverity : row.severity <;>
    simp [claimedRow, countAttempt, hseverity]

theorem covered_claimedRow :
    (claimedRow row provider token expiresAt).coveredSeverity = row.coveredSeverity := by
  cases hseverity : row.severity <;>
    simp [claimedRow, countAttempt, hseverity]

theorem isOpen_claimedRow :
    (claimedRow row provider token expiresAt).isOpen = row.isOpen := by
  cases hseverity : row.severity <;>
    simp [claimedRow, countAttempt, hseverity, isOpen]

end

theorem claimsOf_append (desk : Desk) (claim : ClaimRecord) (alertId : Uuid) :
    claimsOf { desk with claims := desk.claims ++ [claim] } alertId =
      desk.claimsOf alertId ++ if claim.alertId = alertId then [claim] else [] := by
  simp only [claimsOf, filter_append, filter_cons, filter_nil]
  split <;> simp_all

theorem claim_eq_of_token (htokens : (desk.claims.map ClaimRecord.token).Nodup)
    {claim : ClaimRecord} (hclaim : claim ∈ desk.claims) (hclaim' : claim' ∈ desk.claims)
    (hsame : claim.token = claim'.token) : claim = claim' :=
  inj_on_of_nodup_map htokens hclaim hclaim' hsame

variable {alertId : Uuid}

theorem mem_of_claimsOf {claim : ClaimRecord}
    (h : claim ∈ desk.claimsOf alertId) : claim ∈ desk.claims ∧ claim.alertId = alertId := by
  simpa [claimsOf] using h

variable (h : RowInv maxAttempts desk row) (htokens : (desk.claims.map ClaimRecord.token).Nodup)
include h htokens

/-- A new claim: the one before it, if any, is finished or over. -/
theorem RowInv.claim (hnow : now ≤ desk.clock) (hfree : row.claimedAt now = false)
    (hclaimable : pageClaimable row = true) (hbudget : pageAttempts row < maxAttempts)
    {token : Uuid} :
    RowInv maxAttempts
      { desk with claims := desk.claims ++ [⟨row.id, token, row.severity, now + ttl⟩] }
      (claimedRow row provider token (now + ttl)) where
  held token' htoken := by
    obtain rfl : token = token' := Option.some.inj htoken
    refine ⟨rfl, ⟨row.id, token, row.severity, now + ttl⟩, ?_, rfl, rfl, ?_⟩
    · rw [id_claimedRow, claimsOf_append, if_pos rfl, getLast?_concat]
    · intro covered hcovered
      rw [covered_claimedRow] at hcovered
      exact pageClaimable_above hclaimable hcovered
  live claim hclaim hout := by
    rw [id_claimedRow, claimsOf_append, if_pos rfl] at hclaim
    rcases mem_append.mp hclaim with hold | hnew
    · -- an outstanding claim would still hold the row
      have htoken := h.live claim hold hout
      obtain ⟨-, last, hlast, hsame, hexpires, -⟩ := h.held _ htoken
      have hlastMem := mem_of_claimsOf (mem_of_getLast? hlast)
      obtain rfl := claim_eq_of_token htokens hlastMem.1 (mem_of_claimsOf hold).1 hsame
      have hover : last.expiresAt ≤ now := by
        simpa [claimedAt, hexpires] using hfree
      exact absurd hout.2 (not_lt.mpr (hover.trans hnow))
    · rw [mem_singleton.mp hnew]
      rfl
  counted severity := by
    rw [attemptsAt_claimedRow, id_claimedRow, claimsOf_append, if_pos rfl, filter_append,
      length_append, h.counted severity]
    by_cases hseverity : severity = row.severity
    · simp [hseverity]
    · simp [hseverity, Ne.symm hseverity]
  budget severity := by
    rw [attemptsAt_claimedRow]
    split
    next hseverity =>
      have hsame : row.attemptsAt severity = pageAttempts row := by
        rw [hseverity]
        unfold pageAttempts attemptsAt
        cases row.severity <;> rfl
      omega
    · exact h.budget severity
  covered severity hsent := by
    rw [covered_claimedRow]
    rw [id_claimedRow] at hsent
    exact h.covered severity hsent
  rising := by
    rw [id_claimedRow]
    exact h.rising

/-- A finish that still holds the claim: the coverage rises to the severity of the page. -/
theorem RowInv.finish {token : Uuid} (htoken : row.deliveryToken = some token)
    (hrecord : record ∈ desk.claims) (hsame : record.token = token) {covered : Option AlertSeverity}
    (hcovered : ∀ severity, covered = some severity → severity = record.severity) :
    RowInv maxAttempts
      { desk with
        finished := token :: desk.finished
        sends := desk.sends ++ (covered.map (fun severity => (row.id, severity))).toList }
      (acknowledgedRow row status detail covered) := by
  obtain ⟨-, last, hlast, hlastToken, -, habove⟩ := h.held token htoken
  obtain rfl := claim_eq_of_token htokens (mem_of_claimsOf (mem_of_getLast? hlast)).1 hrecord
    (hlastToken.trans hsame.symm)
  have hsends : sendsOf
      { desk with
        finished := token :: desk.finished
        sends := desk.sends ++ (covered.map (fun severity => (row.id, severity))).toList } row.id =
      desk.sendsOf row.id ++ covered.toList := by
    cases covered with
    | none | some => simp [sendsOf]
  have hbelow : ∀ severity ∈ desk.sendsOf row.id, severity.rank < last.severity.rank := by
    intro severity hsent
    obtain ⟨known, hknown, hle⟩ := h.covered severity hsent
    exact lt_of_le_of_lt hle (habove known hknown)
  refine ⟨?_, ?_, ?_, ?_, ?_, ?_⟩
  · intro token' htoken'
    exact absurd htoken' (by simp [acknowledgedRow])
  · intro claim hclaim hout
    have hstill : desk.Outstanding claim := ⟨fun hmem => hout.1 (mem_cons_of_mem _ hmem), hout.2⟩
    have hheld := h.live claim hclaim hstill
    rw [htoken] at hheld
    exact absurd (by rw [Option.some.inj hheld]; exact mem_cons_self) hout.1
  · intro severity
    refine Eq.trans ?_ (h.counted severity)
    cases severity <;> rfl
  · intro severity
    refine le_trans (le_of_eq ?_) (h.budget severity)
    cases severity <;> rfl
  · intro severity hsent
    change severity ∈ sendsOf _ row.id at hsent
    rw [hsends] at hsent
    cases covered with
    | none =>
      rw [toList_none, append_nil] at hsent
      exact h.covered severity hsent
    | some written =>
      refine ⟨written, rfl, ?_⟩
      rcases mem_append.mp hsent with hold | hnew
      · rw [hcovered written rfl]
        exact (hbelow severity hold).le
      · rw [mem_singleton.mp hnew]
  · change (sendsOf _ row.id).Pairwise _
    rw [hsends, pairwise_append]
    refine ⟨h.rising, by cases covered <;> simp, ?_⟩
    intro earlier hearlier later hlater
    rw [hcovered later (mem_toList.mp hlater)]
    exact hbelow earlier hearlier

end

/-- What a dispatcher knows is true: its instant has passed, its claim was granted. -/
structure Trusted (desk : Desk) (known : Known) : Prop where
  now : ∀ now, known.now = some now → now ≤ desk.clock
  claim : ∀ claim, known.claim = some claim → ∃ record ∈ desk.claims,
    record.token = claim.token ∧ record.alertId = claim.alert.id ∧
      record.severity = claim.alert.severity

def Stored (desk : Desk) (alertId : Uuid) : Prop :=
  ∃ check index row, desk.store.rowAt check index = some row ∧ row.id = alertId

/-- The invariant of the desk. -/
structure Paged (maxAttempts : Nat) (desk : Desk) : Prop where
  lastOpen : desk.store.LastOpen
  uniqueIds : desk.store.UniqueIds
  tokens : (desk.claims.map ClaimRecord.token).Nodup
  claimed : ∀ claim ∈ desk.claims, desk.Stored claim.alertId
  sent : ∀ send ∈ desk.sends, desk.Stored send.1
  rows : ∀ check index row, desk.store.rowAt check index = some row → RowInv maxAttempts desk row
  tasks : ∀ program ∈ desk.tasks, ∃ known, desk.Trusted known ∧ Follow known program

section

variable {maxAttempts : Nat} {desk desk' : Desk}
variable {known : Known} {check : AlertCheck} {new : OperatorAlert} {store : AlertStore}
  {covered : Option AlertSeverity}

theorem Trusted.mono (h : desk.Trusted known) (hclock : desk.clock ≤ desk'.clock)
    (hclaims : desk.claims ⊆ desk'.claims) : desk'.Trusted known where
  now now hnow := (h.now now hnow).trans hclock
  claim claim hclaim := by
    obtain ⟨record, hrecord, hfields⟩ := h.claim claim hclaim
    exact ⟨record, hclaims hrecord, hfields⟩

theorem Stored.replaced (hstored : desk.Stored alertId)
    (h : desk.store.Replaced desk'.store check index old new) (hid : new.id = old.id) :
    desk'.Stored alertId := by
  obtain ⟨check', index', row, hrow, hrowId⟩ := hstored
  by_cases hplace : (check', index') = (check, index)
  · obtain ⟨rfl, rfl⟩ := Prod.mk.inj hplace
    rw [h.before] at hrow
    exact ⟨check', index', new, h.after, by rw [hid, Option.some.inj hrow, hrowId]⟩
  · exact ⟨check', index', row, by rw [h.others _ _ hplace, hrow], hrowId⟩

variable {row : OperatorAlert}

section

variable (h : Paged maxAttempts desk)
include h

theorem claimsOf_eq_nil (hnew : ¬ desk.Stored alertId) :
    desk.claimsOf alertId = [] := by
  rw [claimsOf, filter_eq_nil_iff]
  intro claim hclaim hid
  have hid : claim.alertId = alertId := by simpa using hid
  exact hnew (hid ▸ h.claimed claim hclaim)

theorem sendsOf_eq_nil (hnew : ¬ desk.Stored alertId) :
    desk.sendsOf alertId = [] := by
  rw [sendsOf, map_eq_nil_iff, filter_eq_nil_iff]
  intro send hsend hid
  have hid : send.1 = alertId := by simpa using hid
  exact hnew (hid ▸ h.sent send hsend)

/-- What the dispatchers know stays true while the clock and the claims only grow. -/
theorem Paged.tasks_mono {desk' : Desk} (hclock : desk.clock ≤ desk'.clock)
    (hclaims : desk.claims ⊆ desk'.claims) :
    ∀ program ∈ desk.tasks, ∃ known, desk'.Trusted known ∧ Follow known program := by
  intro program hprogram
  obtain ⟨known, htrusted, hfollow⟩ := h.tasks program hprogram
  exact ⟨known, htrusted.mono hclock hclaims, hfollow⟩

theorem Paged.withRows (hreplaced : desk.store.Replaced store check index old new)
    (hid : new.id = old.id) (hopen : new.isOpen = old.isOpen)
    (hnew : RowInv maxAttempts desk old → RowInv maxAttempts desk new) :
    Paged maxAttempts { desk with store } where
  lastOpen := hreplaced.lastOpen hopen h.lastOpen
  uniqueIds := hreplaced.uniqueIds hid h.uniqueIds
  tokens := h.tokens
  claimed claim hclaim := (h.claimed claim hclaim).replaced hreplaced hid
  sent send hsend := (h.sent send hsend).replaced hreplaced hid
  rows := by
    have hrows := hreplaced.forall_rows h.uniqueIds h.rows hnew (fun _ _ hrow => hrow)
    intro check' index' row hrow
    exact (hrows check' index' row hrow).mono (.refl row) rfl rfl (refl _) le_rfl
  tasks := h.tasks_mono le_rfl (refl _)

theorem Paged.claim {token : Uuid}
    (hreplaced : desk.store.Replaced store check index row (claimedRow row provider token
      (now + ttl))) (hnow : now ≤ desk.clock) (hfree : row.claimedAt now = false)
    (hclaimable : pageClaimable row = true) (hbudget : pageAttempts row < maxAttempts)
    (hfresh : desk.tokenFresh token = true) :
    Paged maxAttempts { desk with
      store, claims := desk.claims ++ [⟨row.id, token, row.severity, now + ttl⟩] } where
  lastOpen := hreplaced.lastOpen (isOpen_claimedRow _ _ _ _) h.lastOpen
  uniqueIds := hreplaced.uniqueIds (id_claimedRow _ _ _ _) h.uniqueIds
  tokens := by
    rw [map_append, nodup_append]
    refine ⟨h.tokens, by simp, ?_⟩
    intro token' htoken' token'' htoken'' hsame
    obtain ⟨claim, hclaim, rfl⟩ := mem_map.mp htoken'
    have hne := all_eq_true.mp hfresh claim hclaim
    simp only [map_cons, map_nil, mem_singleton] at htoken''
    exact absurd (hsame.trans htoken'') (by simpa using hne)
  claimed claim hclaim := by
    rcases mem_append.mp hclaim with hold | hnew
    · exact (h.claimed claim hold).replaced hreplaced (id_claimedRow _ _ _ _)
    · rw [mem_singleton.mp hnew]
      exact ⟨check, index, _, hreplaced.after, id_claimedRow _ _ _ _⟩
  sent send hsend := (h.sent send hsend).replaced hreplaced (id_claimedRow _ _ _ _)
  rows := by
    refine hreplaced.forall_rows h.uniqueIds h.rows ?_ ?_
    · intro hold
      exact (hold.claim h.tokens hnow hfree hclaimable hbudget).mono (.refl _) rfl rfl
        (refl _) le_rfl
    · intro other hid hother
      refine hother.mono (.refl _) ?_ rfl (refl _) le_rfl
      have happend := claimsOf_append { desk with store } ⟨row.id, token, row.severity, now + ttl⟩
        other.id
      rw [if_neg (Ne.symm hid), append_nil] at happend
      exact happend
  tasks := h.tasks_mono le_rfl (subset_append_left _ _)

variable {alertId token : Uuid}

theorem Paged.finish {covered : Option AlertSeverity} (hrecord : record ∈ desk.claims)
    (hsame : record.token = token)
    (hcovered : ∀ severity, covered = some severity → severity = record.severity) :
    Paged maxAttempts { desk.acknowledged alertId token covered with
      store := desk.store.finishDelivery alertId token status detail covered } := by
  cases hplace : desk.store.claimPlace alertId token with
  | none =>
    have hdesk : { desk.acknowledged alertId token covered with
        store := desk.store.finishDelivery alertId token status detail covered } =
        { desk with finished := token :: desk.finished } := by
      simp only [acknowledged, finishDelivery, hplace]
    rw [hdesk]
    refine ⟨h.lastOpen, h.uniqueIds, h.tokens, h.claimed, h.sent, ?_,
      h.tasks_mono le_rfl (refl _)⟩
    intro check index row hrow
    exact (h.rows check index row hrow).mono (.refl row) rfl rfl (subset_cons_self _ _) le_rfl
  | some place =>
    obtain ⟨check, index⟩ := place
    obtain ⟨row, hid, htoken, hreplaced⟩ := replaced_finish hplace
    have hsends : (desk.acknowledged alertId token covered).sends =
        desk.sends ++ (covered.map (fun severity => (row.id, severity))).toList := by
      cases covered with
      | none => simp [acknowledged, hplace]
      | some => simp [acknowledged, hplace, hid]
    refine ⟨hreplaced.lastOpen rfl h.lastOpen, hreplaced.uniqueIds rfl h.uniqueIds, h.tokens,
      fun claim hclaim => (h.claimed claim hclaim).replaced hreplaced rfl, ?_, ?_,
      h.tasks_mono le_rfl (refl _)⟩
    · intro send hsend
      rw [hsends] at hsend
      rcases mem_append.mp hsend with hold | hnew
      · exact (h.sent send hold).replaced hreplaced rfl
      · obtain ⟨severity, -, rfl⟩ := map_eq_some_iff.mp (mem_toList.mp hnew)
        exact ⟨check, index, _, hreplaced.after, rfl⟩
    · refine hreplaced.forall_rows h.uniqueIds h.rows ?_ ?_
      · intro hold
        refine (hold.finish h.tokens htoken hrecord hsame hcovered).mono (.refl _) rfl ?_
          (refl _) le_rfl
        simp only [sendsOf, hsends]
      · intro other hother hinv
        refine hinv.mono (.refl _) rfl ?_ (subset_cons_self _ _) le_rfl
        simp only [sendsOf, hsends, filter_append, map_append]
        cases covered with
        | none => simp
        | some => simp [Ne.symm hother]

end

/-- A row's coverage after a step is not below what it was. -/
def CoverageKept (desk desk' : Desk) : Prop :=
  ∀ check index row, desk.store.rowAt check index = some row →
    ∃ row', desk'.store.rowAt check index = some row' ∧ row'.id = row.id ∧
      ∀ covered, row.coveredSeverity = some covered →
        ∃ covered', row'.coveredSeverity = some covered' ∧ covered.rank ≤ covered'.rank

theorem CoverageKept.of_store (h : desk'.store = desk.store) : CoverageKept desk desk' := by
  intro check index row hrow
  exact ⟨row, by rw [h, hrow], rfl, fun covered hcovered => ⟨covered, hcovered, le_rfl⟩⟩

theorem CoverageKept.replaced (h : desk.store.Replaced desk'.store check index old new)
    (hid : new.id = old.id)
    (hcovered : ∀ covered, old.coveredSeverity = some covered → ∃ covered', new.coveredSeverity =
      some covered' ∧ covered.rank ≤ covered'.rank) : CoverageKept desk desk' := by
  intro check' index' row hrow
  by_cases hplace : (check', index') = (check, index)
  · cases hplace
    obtain rfl : old = row := by
      rw [h.before] at hrow
      exact Option.some.inj hrow
    exact ⟨new, h.after, hid, hcovered⟩
  · exact ⟨row, by rw [h.others _ _ hplace, hrow], rfl,
      fun covered hcovered => ⟨covered, hcovered, le_rfl⟩⟩

/-- A skip that carries a coverage does not lower that of its row. -/
def Welcomes (desk : Desk) : DeliveryOp → Prop
  | .skip alertId _ _ _ covered => ∀ check row, desk.store.latest alertId = some (check, row) →
      (row.deliveryStatus = .pending ∨ row.deliveryStatus = .skipped) →
      ∀ severity, covered = some severity →
        ∀ known, row.coveredSeverity = some known → known.rank ≤ severity.rank
  | _ => True

/-- The outcome of a call, for the desk and for the dispatcher that made it. -/
structure Performed (maxAttempts : Nat) (desk : Desk) (known : Known) (op : DeliveryOp)
    (answer : op.Answer) (desk' : Desk) : Prop where
  answers : deliveryProtocol.answers known op answer
  paged : Paged maxAttempts desk'
  trusted : desk'.Trusted (deliveryProtocol.learn known op answer)
  tasks : desk'.tasks = desk.tasks
  covered : CoverageKept desk desk'

section

variable (h : Paged maxAttempts desk) (hknown : desk.Trusted known)
include h hknown

variable {provider : NotifyProvider}

theorem Paged.performClaim {severity : AlertSeverity}
    (hnow : known.now = some now) (hfresh : desk.tokenFresh inputs.token = true)
    {answer : Option DeliveryClaim}
    (hperform : desk.perform maxAttempts inputs (.claim alertId provider now ttl severity) = some
      (answer, desk')) :
    Performed maxAttempts desk known (.claim alertId provider now ttl severity) answer desk' := by
  have heffect := claimDelivery_effect desk.store alertId provider.value now maxAttempts
    ttl (some severity) inputs.token
  simp only [Desk.perform] at hperform
  generalize desk.store.claimDelivery alertId provider.value now maxAttempts ttl
    (some severity) inputs.token = result at heffect hperform
  obtain ⟨claim, store⟩ := result
  cases hperform
  have hnothing : ∀ desk'' : Desk, desk''.clock = desk.clock →
      desk''.Trusted { known with claim := none } := fun desk'' hclock =>
    ⟨fun now' hnow' => (hknown.now now' hnow').trans hclock.ge, by simp⟩
  cases heffect with
  | refused =>
    exact ⟨fun claim hclaim => absurd hclaim (by simp), h, hnothing _ rfl, rfl, .of_store rfl⟩
  | disabled _ _ row provider' detail _ hreplaced hstatus =>
    have hkept : CoverageKept desk { desk with store } := CoverageKept.replaced hreplaced rfl
      (fun covered hcovered => ⟨covered, hcovered, le_rfl⟩)
    refine ⟨fun claim hclaim => absurd hclaim (by simp), ?_, hnothing _ rfl, rfl, hkept⟩
    refine h.withRows hreplaced rfl rfl (fun hrow => ?_)
    have hskipped : RowInv maxAttempts desk
        { skippedRow row provider' detail with
          coveredSeverity := (none : Option AlertSeverity).or row.coveredSeverity } :=
      hrow.skip hstatus (by simp)
    exact hskipped
  | granted _ _ row provider' _ hreplaced hid hfree hclaimable hbudget =>
    have hpaged := h.claim hreplaced (hknown.now now hnow) hfree hclaimable hbudget hfresh
    have hkept : CoverageKept desk { desk with store } :=
      CoverageKept.replaced hreplaced (id_claimedRow _ _ _ _) (fun covered hcovered =>
        ⟨covered, by rw [covered_claimedRow, hcovered], le_rfl⟩)
    have hgranted : Desk.granted { desk with store } (now + ttl)
        (some ⟨claimedRow row provider' inputs.token (now + ttl), inputs.token⟩) =
        { desk with
          store, claims := desk.claims ++ [⟨row.id, inputs.token, row.severity, now + ttl⟩] } := by
      simp only [Desk.granted, id_claimedRow, severity_claimedRow]
    rw [hgranted]
    refine ⟨?_, hpaged, ⟨hknown.now, ?_⟩, rfl, hkept⟩
    · intro claim hclaim
      rw [← Option.some.inj hclaim]
      exact (id_claimedRow _ _ _ _).trans hid
    · intro claim hclaim
      cases hclaim
      refine ⟨_, mem_append_right _ (mem_singleton_self _), rfl, ?_, ?_⟩
      · exact (id_claimedRow _ _ _ _).symm
      · exact (severity_claimedRow _ _ _ _).symm

theorem Paged.performSkip
    (hwelcome : desk.Welcomes (.skip alertId provider now detail covered)) {answer : Unit}
    (hperform : desk.perform maxAttempts inputs (.skip alertId provider now detail covered) = some
      (answer, desk')) :
    Performed maxAttempts desk known (.skip alertId provider now detail covered) answer desk' := by
  obtain ⟨-, hdesk⟩ := Prod.mk.inj (Option.some.inj hperform)
  subst hdesk
  rcases skipDelivery_effect desk.store alertId provider.value now detail covered with
    hsame | ⟨check, index, row, hlatest, hstatus, hreplaced⟩
  · have hdesk : { desk with
        store := desk.store.skipDelivery alertId provider.value now detail covered } = desk := by
      rw [hsame]
    rw [hdesk]
    exact ⟨trivial, h, hknown, rfl, .of_store rfl⟩
  · have hraised := hwelcome check row hlatest hstatus
    refine ⟨trivial, h.withRows hreplaced rfl rfl (fun hrow => hrow.skip hstatus hraised),
      hknown.mono le_rfl (refl _), rfl, CoverageKept.replaced hreplaced rfl ?_⟩
    intro known' hknown'
    cases covered with
    | none => exact ⟨known', by simpa [skippedRow] using hknown', le_rfl⟩
    | some severity => exact ⟨severity, rfl, hraised severity rfl known' hknown'⟩

theorem Paged.performFinish
    (hown : deliveryProtocol.require known (.finish alertId token status detail covered))
    {answer : Unit}
    (hperform : desk.perform maxAttempts inputs (.finish alertId token status detail covered) =
      some (answer, desk')) :
    Performed maxAttempts desk known (.finish alertId token status detail covered) answer desk' := by
  obtain ⟨-, hdesk⟩ := Prod.mk.inj (Option.some.inj hperform)
  subst hdesk
  obtain ⟨claim, hclaim, -, htoken, hseverity⟩ := hown
  obtain ⟨record, hrecord, hsame, -, hrecordSeverity⟩ := hknown.claim claim hclaim
  have hcarried : ∀ severity, covered = some severity → severity = record.severity :=
    fun severity hcovered => (hseverity severity hcovered).trans hrecordSeverity.symm
  refine ⟨trivial, h.finish hrecord (hsame.trans htoken) hcarried,
    hknown.mono le_rfl (refl _), rfl, ?_⟩
  cases hplace : desk.store.claimPlace alertId token with
  | none => exact .of_store (by simp only [finishDelivery, hplace])
  | some place =>
    obtain ⟨check, index⟩ := place
    obtain ⟨row, -, hheld, hreplaced⟩ := replaced_finish hplace
    refine CoverageKept.replaced hreplaced rfl ?_
    intro known' hknown'
    cases covered with
    | none => exact ⟨known', by simpa [acknowledgedRow] using hknown', le_rfl⟩
    | some severity =>
      -- the page was claimed above the coverage, which no one else may write meanwhile
      obtain ⟨-, last, hlast, hlastToken, -, habove⟩ :=
        (h.rows check index row hreplaced.before).held token hheld
      obtain rfl := claim_eq_of_token h.tokens (mem_of_claimsOf (mem_of_getLast? hlast)).1
        hrecord (hlastToken.trans (hsame.trans htoken).symm)
      refine ⟨severity, rfl, ?_⟩
      rw [hcarried severity rfl]
      exact (habove known' hknown').le

theorem Paged.perform {op : DeliveryOp} (hrequire : deliveryProtocol.require known op)
    (hwelcome : desk.Welcomes op) (hfresh : desk.tokenFresh inputs.token = true)
    {answer : op.Answer} (hperform : desk.perform maxAttempts inputs op = some (answer, desk')) :
    Performed maxAttempts desk known op answer desk' := by
  cases op with
  | readOpen =>
    obtain ⟨row, -, hsame⟩ := map_eq_some_iff.mp hperform
    cases hsame
    exact ⟨trivial, h, hknown, rfl, .of_store rfl⟩
  | clock =>
    cases hperform
    refine ⟨trivial, h, ⟨?_, hknown.claim⟩, rfl, .of_store rfl⟩
    intro now hnow
    exact (Option.some.inj hnow).ge
  | listResolved | send =>
    cases hperform
    exact ⟨trivial, h, hknown, rfl, .of_store rfl⟩
  | claim => exact h.performClaim hknown hrequire hfresh hperform
  | skip => exact h.performSkip hknown hwelcome hperform
  | finish => exact h.performFinish hknown hrequire hperform

end

theorem not_mem_ids_of_fresh {pass : Pass} (hfresh : idsFresh store pass = true)
    (hrow : store.rowAt check index = some row) {other : AlertCheck}
    (hother : other ∈ observationKeys pass.findings pass.evaluated) : row.id ≠ pass.ids other := by
  unfold rowAt rows at hrow
  cases hrows : store.history.get? check with
  | none =>
    rw [hrows] at hrow
    cases hrow
  | some =>
    rw [hrows] at hrow
    have hentry := Dict.get?_eq_some_iff.mp hrows
    have hall := all_eq_true.mp (Bool.and_eq_true_iff.mp hfresh).2 _ hentry
    have hnot := of_decide_eq_true (all_eq_true.mp hall row (mem_of_getElem? hrow))
    intro hsame
    exact hnot (hsame ▸ mem_map_of_mem hother)

section

variable (h : Paged maxAttempts desk)
include h

theorem Paged.observe {pass : Pass} (hfresh : idsFresh desk.store pass = true) :
    Paged maxAttempts { desk with store := (desk.store.applyObservations pass).2 } ∧
    CoverageKept desk { desk with store := (desk.store.applyObservations pass).2 } := by
  have hsteps := rowsStep_applyObservations h.lastOpen pass
  -- where the row at a place of the new history comes from
  have hback : ∀ check index row', (desk.store.applyObservations pass).2.rowAt check index =
      some row' →
      (∃ row, desk.store.rowAt check index = some row ∧ SameDelivery row row') ∨
      (index = (desk.store.rows check).length ∧
        check ∈ observationKeys pass.findings pass.evaluated ∧
        ∃ finding, row' = newAlert finding pass.now (pass.ids check)) := by
    intro check index row' hrow'
    rcases hsteps check with ⟨hkey, hstep⟩ | hsame
    · rcases (hstep.places index).2 row' hrow' with hold | ⟨hindex, hnew⟩
      · exact .inl hold
      · exact .inr ⟨hindex, hkey, hnew⟩
    · rw [rowAt, hsame] at hrow'
      exact .inl ⟨row', hrow', .refl row'⟩
  have hforward : ∀ check index row, desk.store.rowAt check index = some row →
      ∃ row', (desk.store.applyObservations pass).2.rowAt check index = some row' ∧
        SameDelivery row row' := by
    intro check index row hrow
    rcases hsteps check with ⟨-, hstep⟩ | hsame
    · exact (hstep.places index).1 row hrow
    · exact ⟨row, by rw [rowAt, hsame]; exact hrow, .refl row⟩
  have hstored : ∀ alertId, desk.Stored alertId →
      Desk.Stored { desk with store := (desk.store.applyObservations pass).2 } alertId := by
    rintro alertId ⟨check, index, row, hrow, hid⟩
    obtain ⟨row', hrow', hsame⟩ := hforward check index row hrow
    exact ⟨check, index, row', hrow', hsame.id.trans hid⟩
  have hnotStored : ∀ check ∈ observationKeys pass.findings pass.evaluated,
      ¬ desk.Stored (pass.ids check) := by
    rintro check hkey ⟨check', index, row, hrow, hid⟩
    exact not_mem_ids_of_fresh hfresh hrow hkey hid
  refine ⟨⟨?_, ?_, h.tokens, fun claim hclaim => hstored _ (h.claimed claim hclaim),
    fun send hsend => hstored _ (h.sent send hsend), ?_, ?_⟩, ?_⟩
  · intro check
    rcases hsteps check with ⟨-, hstep⟩ | hsame
    · exact hstep.onlyLastOpen (h.lastOpen check)
    · rw [hsame]
      exact h.lastOpen check
  · intro check₁ index₁ row₁ check₂ index₂ row₂ hrow₁ hrow₂ hid
    rcases hback _ _ _ hrow₁ with ⟨old₁, hold₁, hsame₁⟩ | ⟨hindex₁, hkey₁, finding₁, hnew₁⟩
    · rcases hback _ _ _ hrow₂ with ⟨old₂, hold₂, hsame₂⟩ | ⟨-, hkey₂, finding₂, hnew₂⟩
      · exact h.uniqueIds _ _ _ _ _ _ hold₁ hold₂ (by rw [← hsame₁.id, ← hsame₂.id, hid])
      · refine absurd ?_ (not_mem_ids_of_fresh hfresh hold₁ hkey₂)
        rw [← hsame₁.id, hid, hnew₂]
        rfl
    · rcases hback _ _ _ hrow₂ with ⟨old₂, hold₂, hsame₂⟩ | ⟨hindex₂, hkey₂, finding₂, hnew₂⟩
      · refine absurd ?_ (not_mem_ids_of_fresh hfresh hold₂ hkey₁)
        rw [← hsame₂.id, ← hid, hnew₁]
        rfl
      · have hids : pass.ids check₁ = pass.ids check₂ := by
          rw [hnew₁, hnew₂] at hid
          exact hid
        have hnodup := of_decide_eq_true (Bool.and_eq_true_iff.mp hfresh).1
        obtain rfl := inj_on_of_nodup_map hnodup hkey₁ hkey₂ hids
        rw [hindex₁, hindex₂]
  · intro check index row' hrow'
    rcases hback _ _ _ hrow' with ⟨row, hrow, hsame⟩ | ⟨-, hkey, finding, rfl⟩
    · exact (h.rows check index row hrow).mono hsame rfl rfl (refl _) le_rfl
    · exact rowInv_newAlert (claimsOf_eq_nil h (hnotStored check hkey))
        (sendsOf_eq_nil h (hnotStored check hkey))
  · exact h.tasks_mono le_rfl (refl _)
  · intro check index row hrow
    obtain ⟨row', hrow', hsame⟩ := hforward check index row hrow
    exact ⟨row', hrow', hsame.id, fun covered hcovered =>
      ⟨covered, hsame.covered.trans hcovered, le_rfl⟩⟩

/-- A later clock and other dispatchers, none of whose knowledge is in doubt. -/
theorem Paged.resumed {tasks : List (DeliveryProgram Unit)} (hnow : desk.clock ≤ now)
    (htasks : ∀ program ∈ tasks, ∃ known, desk.Trusted known ∧ Follow known program) :
    Paged maxAttempts { desk with clock := now, tasks } where
  lastOpen := h.lastOpen
  uniqueIds := h.uniqueIds
  tokens := h.tokens
  claimed := h.claimed
  sent := h.sent
  rows check index row hrow :=
    (h.rows check index row hrow).mono (.refl row) rfl rfl (refl _) hnow
  tasks program hprogram := by
    obtain ⟨known, htrusted, hfollow⟩ := htasks program hprogram
    exact ⟨known, htrusted.mono hnow (refl _), hfollow⟩

end

/-- A step in which no skip lowers the coverage of its row. -/
def CalmStep (maxAttempts : Nat) (desk : Desk) (event : Event) (desk' : Desk) : Prop :=
  desk.play maxAttempts event = some desk' ∧
  ∀ index inputs op next, event = .advance index inputs →
    desk.tasks[index]? = some (.perform op next) → desk.Welcomes op

theorem Paged.step (h : Paged maxAttempts desk) {event : Event}
    (hstep : desk.CalmStep maxAttempts event desk') :
    Paged maxAttempts desk' ∧ CoverageKept desk desk' := by
  obtain ⟨hplay, hcalm⟩ := hstep
  cases event with
  | start settings =>
    cases hplay
    refine ⟨h.resumed le_rfl (fun program hprogram => ?_), .of_store rfl⟩
    rcases mem_append.mp hprogram with hold | hnew
    · exact h.tasks program hold
    · rw [mem_singleton.mp hnew]
      exact ⟨{}, ⟨by simp, by simp⟩, ⟨trivial, fun alert _ => ⟨trivial, fun _ _ => follow_deliver settings alert rfl⟩⟩⟩
  | advance index inputs =>
    simp only [play] at hplay
    split at hplay
    next op next htask =>
      obtain ⟨hfresh, hplay⟩ := of_ite_ne_else hplay nofun
      obtain ⟨⟨answer, mid⟩, hperform, rfl⟩ := map_eq_some_iff.mp hplay
      obtain ⟨known, htrusted, hfollow⟩ := h.tasks _ (mem_of_getElem? htask)
      have hperformed := h.perform htrusted hfollow.1 (hcalm index inputs op next rfl htask)
        hfresh hperform
      refine ⟨hperformed.paged.resumed le_rfl (fun program hprogram => ?_), hperformed.covered⟩
      rcases mem_or_eq_of_mem_set hprogram with hold | rfl
      · exact hperformed.paged.tasks program hold
      · exact ⟨_, hperformed.trusted, hfollow.2 answer hperformed.answers⟩
    · cases hplay
  | observe =>
    obtain ⟨hfresh, hplay⟩ := of_ite_ne_else hplay nofun
    cases hplay
    exact h.observe hfresh
  | tick =>
    obtain ⟨hnow, hplay⟩ := of_ite_ne_else hplay nofun
    cases hplay
    exact ⟨h.resumed hnow h.tasks, .of_store rfl⟩

end

/-- An empty store and no dispatcher. -/
structure Initial (desk : Desk) : Prop where
  store : desk.store = {}
  tasks : desk.tasks = []
  claims : desk.claims = []
  sends : desk.sends = []

theorem Initial.paged {maxAttempts : Nat} {desk : Desk} (h : Initial desk) :
    Paged maxAttempts desk := by
  have hrows : ∀ check, desk.store.rows check = [] := by
    intro check
    rw [h.store]
    rfl
  have hnone : ∀ check index row, desk.store.rowAt check index = some row → False := by
    intro check index row hrow
    rw [rowAt, hrows check] at hrow
    cases hrow
  refine ⟨fun check => ?_, ?_, ?_, ?_, ?_, ?_, ?_⟩
  · rw [hrows check]
    simp [OnlyLastOpen]
  · intro check index row check' index' row' hrow
    exact (hnone check index row hrow).elim
  · simp [h.claims]
  · simp [h.claims]
  · simp [h.sends]
  · intro check index row hrow
    exact (hnone check index row hrow).elim
  · simp [h.tasks]

theorem reachable_paged {maxAttempts : Nat} {desk : Desk}
    (h : Reachable Initial (CalmStep maxAttempts) desk) : Paged maxAttempts desk :=
  h.invariant (Paged maxAttempts) (fun _ hinitial => hinitial.paged)
    (fun _ _ _ hpaged hstep => (hpaged.step hstep).1)

def TakenOver (desk : Desk) (token : Uuid) : Prop :=
  ∃ before claim between later after,
    desk.claims = before ++ claim :: between ++ later :: after ∧
      claim.token = token ∧ later.alertId = claim.alertId

section

variable {maxAttempts : Nat} {desk desk' : Desk}

section

variable (h : Paged maxAttempts desk)
include h

theorem Paged.claimPlace_of_takenOver (hover : desk.TakenOver token) :
    desk.store.claimPlace alertId token = none := by
  rw [eq_none_iff_forall_ne_some]
  rintro ⟨check, index⟩ hplace
  obtain ⟨row, hrow, -, htoken⟩ := claimPlace_eq_some hplace
  obtain ⟨-, last, hlast, hlastToken, -⟩ := (h.rows check index row hrow).held token htoken
  obtain ⟨before, claim, between, later, after, hclaims, hclaimToken, hsame⟩ := hover
  have hmem : claim ∈ desk.claims := by
    rw [hclaims]
    simp
  obtain ⟨hlastMem, hlastId⟩ := mem_of_claimsOf (mem_of_getLast? hlast)
  obtain rfl := claim_eq_of_token h.tokens hlastMem hmem (hlastToken.trans hclaimToken.symm)
  -- the later claim, or one after it, is the last of the row
  have hsplit : desk.claimsOf row.id = (before ++ last :: between).filter
      (fun claim => claim.alertId = row.id) ++ (later :: after).filter
        (fun claim => claim.alertId = row.id) := by
    rw [claimsOf, hclaims, ← filter_append]
  have hne : (later :: after).filter (fun claim => claim.alertId = row.id) ≠ [] := by
    rw [Ne, filter_eq_nil_iff]
    intro hall
    exact hall later mem_cons_self (by simpa using hsame.trans hlastId)
  rw [hsplit, getLast?_append_of_ne_nil _ hne] at hlast
  have hagain : last ∈ later :: after := (mem_filter.mp (mem_of_getLast? hlast)).1
  have htokens := h.tokens
  rw [hclaims, map_append, nodup_append] at htokens
  exact htokens.2.2 last.token (mem_map_of_mem (by simp)) last.token (mem_map_of_mem hagain) rfl

theorem Paged.rising (alertId : Uuid) :
    (desk.sendsOf alertId).Pairwise (fun earlier later => earlier.rank < later.rank) := by
  by_cases hstored : desk.Stored alertId
  · obtain ⟨check, index, row, hrow, rfl⟩ := hstored
    exact (h.rows check index row hrow).rising
  · rw [sendsOf_eq_nil h hstored]
    exact List.Pairwise.nil

theorem Paged.claims_le (alertId : Uuid) (severity : AlertSeverity) :
    ((desk.claimsOf alertId).filter (fun claim => claim.severity = severity)).length ≤
      maxAttempts := by
  by_cases hstored : desk.Stored alertId
  · obtain ⟨check, index, row, hrow, rfl⟩ := hstored
    rw [← (h.rows check index row hrow).counted]
    exact (h.rows check index row hrow).budget severity
  · rw [claimsOf_eq_nil h hstored]
    exact Nat.zero_le _

theorem Paged.outstanding_unique {claim : ClaimRecord} (hclaim : claim ∈ desk.claims)
    (hclaim' : claim' ∈ desk.claims) (hsame : claim.alertId = claim'.alertId)
    (hout : desk.Outstanding claim) (hout' : desk.Outstanding claim') : claim = claim' := by
  obtain ⟨check, index, row, hrow, hid⟩ := h.claimed claim hclaim
  have hinv := h.rows check index row hrow
  have hheld := hinv.live claim (mem_filter.mpr ⟨hclaim, by simpa using hid.symm⟩) hout
  have hheld' := hinv.live claim'
    (mem_filter.mpr ⟨hclaim', by simpa using (hid.trans hsame).symm⟩) hout'
  rw [hheld] at hheld'
  exact claim_eq_of_token h.tokens hclaim hclaim' (Option.some.inj hheld')

end

/-- In every state reached by steps whose skips do not lower a coverage: a row has at most one
outstanding claim, each severity is claimed within the budget, and the acknowledged sends of a row
rise. Along such a step no coverage falls, and a finish whose claim was taken over leaves the store
alone. -/
theorem paged_once_per_severity (h : Reachable Initial (CalmStep maxAttempts) desk) :
    (∀ claim ∈ desk.claims, ∀ claim' ∈ desk.claims, claim.alertId = claim'.alertId →
      desk.Outstanding claim → desk.Outstanding claim' → claim = claim') ∧
    (∀ alertId severity, ((desk.claimsOf alertId).filter
      (fun claim => claim.severity = severity)).length ≤ maxAttempts) ∧
    (∀ alertId, (desk.sendsOf alertId).Pairwise (fun earlier later => earlier.rank < later.rank)) ∧
    (∀ event desk', desk.CalmStep maxAttempts event desk' → CoverageKept desk desk') ∧
    (∀ inputs alertId token status detail covered answer desk', desk.TakenOver token →
      desk.perform maxAttempts inputs (.finish alertId token status detail covered) =
        some (answer, desk') → desk'.store = desk.store) := by
  have hpaged := reachable_paged h
  refine ⟨fun claim hclaim claim' hclaim' hsame => hpaged.outstanding_unique hclaim hclaim' hsame,
    hpaged.claims_le, hpaged.rising, fun event desk' hstep => (hpaged.step hstep).2, ?_⟩
  intro inputs alertId token status detail covered answer desk' hover hperform
  cases hperform
  simp only [finishDelivery, hpaged.claimPlace_of_takenOver hover]

/-! ### A late skip -/

def Step (maxAttempts : Nat) (desk : Desk) (event : Event) (desk' : Desk) : Prop :=
  desk.play maxAttempts event = some desk'

/-- No skip that the event makes lowers a coverage. -/
def calm (desk : Desk) : Event → Bool
  | .advance index _ =>
    match desk.tasks[index]? with
    | some (.perform (.skip alertId _ _ _ covered) _) => (desk.store.latest alertId).all (fun found =>
        found.2.coveredSeverity.all (fun known => covered.all (known.rank ≤ ·.rank)))
    | _ => true
  | _ => true

theorem calmStep_of_play {event : Event}
    (h : (if desk.calm event then play maxAttempts desk event else none) = some desk') :
    CalmStep maxAttempts desk event desk' := by
  obtain ⟨hcalm, hplay⟩ := of_ite_ne_else h nofun
  refine ⟨hplay, ?_⟩
  intro index inputs op program hevent htask
  subst hevent
  cases op with
  | skip =>
    intro check row hlatest _ severity hcovered known hknown
    simpa [calm, htask, hlatest, hknown, hcovered] using hcalm
  | _ => exact trivial

end

/-- A whole number of seconds. -/
def seconds (count : Int) : Time := count * 1000000

/-- An entry block of the paper fleet, seen at `now`. -/
def blockSeen (severity : AlertSeverity) (now : Int) (id : Uuid) : Event :=
  .observe
    { findings := [{ code := .fleetEntriesBlocked, scope := .fleet, subject := "fleet:paper:USDC"
                     severity, detail := "blocked" }]
      evaluated := []
      now := seconds now
      detail := ""
      ids := fun _ => id }

/-- The block seen cleared at `now`. -/
def blockCleared (now : Int) : Event :=
  .observe
    { findings := []
      evaluated := [⟨.fleetEntriesBlocked, "fleet:paper:USDC"⟩]
      now := seconds now
      detail := "cleared"
      ids := fun _ => 0 }

def logDispatcher : Event := .start ⟨.log, "info", seconds 100⟩

/-- The first block is paged at `info`. -/
def firstPage : List Event :=
  [blockSeen .info 0 1, .tick (seconds 100), logDispatcher, .advance 0 {}, .advance 0 {},
    .advance 0 {}, .advance 0 { token := 10 }, .advance 0 { status := .logged, token := 99 },
    .advance 0 { token := 99 }]

/-- It escalates, is claimed again and clears while that send is out; it returns a minute
later. One dispatcher sees the return as a continuation of the `info` page. -/
def returningBlock : List Event :=
  [blockSeen .critical 110 4, .tick (seconds 110), logDispatcher, .advance 1 {}, .advance 1 {},
    .advance 1 { token := 11 }, .advance 1 { status := .logged, token := 99 }, blockCleared 120,
    .tick (seconds 180), blockSeen .info 180 2, logDispatcher, .advance 2 {}, .advance 2 {},
    .advance 2 { token := 99 }]

/-- The critical send is acknowledged late, the return escalates, and another dispatcher sees a
continuation of the critical page. -/
def escalatedReturn : List Event :=
  [.advance 1 { token := 99 }, blockSeen .critical 181 3, .tick (seconds 181), logDispatcher,
    .advance 3 {}, .advance 3 {}, .advance 3 { token := 99 }, .advance 3 { token := 99 }]

def returnCoverage (desk : Desk) : Option (Option AlertSeverity) :=
  (desk.store.rowAt ⟨.fleetEntriesBlocked, "fleet:paper:USDC"⟩ 1).map (·.coveredSeverity)

/-- The first dispatcher's skip lands last and lowers the coverage from critical to info. -/
theorem late_skip_lowers_coverage :
    ∃ desk desk', Reachable Initial (Step 3) desk ∧ Step 3 desk (.advance 2 { token := 99 }) desk' ∧
      returnCoverage desk = some (some .critical) ∧ returnCoverage desk' = some (some .info) ∧
      ¬ CoverageKept desk desk' := by
  have hrun : ((firstPage ++ returningBlock ++ escalatedReturn).foldlM (play 3) {}).bind
      (fun desk => (desk.play 3 (.advance 2 { token := 99 })).map
        (fun desk' => (returnCoverage desk, returnCoverage desk'))) =
      some (some (some .critical), some (some .info)) := by
    decide +kernel
  obtain ⟨desk, hdesk, hrun⟩ := bind_eq_some_iff.mp hrun
  obtain ⟨desk', hstep, hcoverage⟩ := map_eq_some_iff.mp hrun
  obtain ⟨hbefore, hafter⟩ := Prod.mk.inj hcoverage
  have hinitial : Initial {} := ⟨rfl, rfl, rfl, rfl⟩
  refine ⟨desk, desk', Reachable.replay id (.start hinitial) hdesk, hstep, hbefore, hafter, ?_⟩
  intro hkept
  obtain ⟨row, hrow, hcovered⟩ := map_eq_some_iff.mp hbefore
  obtain ⟨row', hrow', -, hraised⟩ := hkept _ _ row hrow
  obtain ⟨covered', hcovered', hle⟩ := hraised .critical hcovered
  rw [returnCoverage, hrow', map_some, hcovered'] at hafter
  cases hafter
  exact absurd hle (by decide)

/-- The block escalates, is paged again and clears; its return is a continuation of that page. -/
def secondPage : List Event :=
  [blockSeen .critical 110 4, .tick (seconds 110), logDispatcher, .advance 1 {}, .advance 1 {},
    .advance 1 { token := 11 }, .advance 1 { status := .logged, token := 99 },
    .advance 1 { token := 99 }, blockCleared 120, .tick (seconds 180), blockSeen .info 180 2,
    logDispatcher, .advance 2 {}, .advance 2 {}, .advance 2 { token := 99 },
    .advance 2 { token := 99 }]

/-- Two pages, and a skip that keeps the coverage, meet the condition. -/
theorem paged_once_per_severity_secondPage :
    ∃ desk : Desk, desk.sends = [(1, .info), (1, .critical)] ∧ (desk.sendsOf 1).Pairwise
      (fun earlier later => earlier.rank < later.rank) := by
  have hrun : ((firstPage ++ secondPage).foldlM (fun (desk : Desk) event =>
      if desk.calm event then play 3 desk event else none) {}).map Desk.sends =
      some [(1, .info), (1, .critical)] := by
    decide +kernel
  obtain ⟨desk, hdesk, hsends⟩ := map_eq_some_iff.mp hrun
  have hinitial : Initial {} := ⟨rfl, rfl, rfl, rfl⟩
  exact ⟨desk, hsends,
    (paged_once_per_severity (Reachable.replay calmStep_of_play (.start hinitial) hdesk)).2.2.1 1⟩

end Desk

end Thytrader.Alerts

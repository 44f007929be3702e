import Thytrader.Alerts.OpenAlerts

/-!
# What a store call does to the rows

Every delivery call replaces at most one row of the history, and a pass refreshes or
resolves last rows and appends new ones. Here each call is said in terms of the places of
the history: what stands there before and after it.
-/

namespace Thytrader.Alerts

open Lib List Option

variable {alertId : Uuid} {index : Nat} {old : OperatorAlert}

/-! ## Rows by place -/

namespace AlertStore

/-- The row at a place of the history. -/
def rowAt (store : AlertStore) (check : AlertCheck) (index : Nat) : Option OperatorAlert :=
  (store.rows check)[index]?

/-- One place holds a new row, every other place is as before. -/
structure Replaced (store store' : AlertStore) (check : AlertCheck) (index : Nat)
    (old new : OperatorAlert) : Prop where
  before : store.rowAt check index = some old
  after : store'.rowAt check index = some new
  others : ∀ check' index', (check', index') ≠ (check, index) →
    store'.rowAt check' index' = store.rowAt check' index'

variable {store store' : AlertStore} {check : AlertCheck} {row : OperatorAlert}

theorem rows_set (store : AlertStore) (check other : AlertCheck) (rows : List OperatorAlert) :
    AlertStore.rows { store with history := store.history.set check rows } other =
      if other = check then rows else store.rows other := by
  by_cases hsame : other = check
  · subst hsame
    simp [AlertStore.rows]
  · simp [AlertStore.rows, Dict.get?_set_ne hsame, hsame]

theorem replaced_putLast (hlast : (store.rows check).getLast? = some row) (new : OperatorAlert) :
    Replaced store (store.putLast check new) check ((store.rows check).length - 1) row new where
  before := by rwa [getLast?_eq_getElem?] at hlast
  after := by
    rw [rowAt, putLast, rows_set, if_pos rfl, getElem?_replaceLast hlast, if_pos rfl]
  others check' index' hne := by
    rw [rowAt, rowAt, putLast, rows_set]
    split
    next hcheck =>
      subst hcheck
      rw [getElem?_replaceLast hlast, if_neg (fun hindex => hne (by rw [hindex]))]
    · rfl

variable {rows : List OperatorAlert} {new : OperatorAlert}

theorem rows_of_entry {check : AlertCheck} (h : (check, rows) ∈ store.history.entries) :
    store.rows check = rows := by
  rw [AlertStore.rows, Dict.get?_eq_some_iff.mpr h]
  rfl

theorem latest_eq_some (h : store.latest alertId = some (check, row)) :
    (store.rows check).getLast? = some row ∧ row.id = alertId ∧ row.isOpen = true := by
  obtain ⟨⟨check', rows⟩, hentry, hfound⟩ := exists_of_findSome?_eq_some h
  obtain ⟨last, hlast, hsome⟩ := bind_eq_some_iff.mp hfound
  obtain ⟨hrow, hsome⟩ := of_ite_ne_else hsome nofun
  obtain ⟨rfl, rfl⟩ := Prod.mk.inj (some.inj hsome)
  rw [rows_of_entry hentry]
  exact ⟨hlast, hrow⟩

theorem claimPlace_eq_some {token : Uuid}
    (h : store.claimPlace alertId token = some (check, index)) :
    ∃ row, store.rowAt check index = some row ∧ row.id = alertId ∧
      row.deliveryToken = some token := by
  obtain ⟨⟨check', rows⟩, hentry, hfound⟩ := exists_of_findSome?_eq_some h
  obtain ⟨index', hindex, hsame⟩ := map_eq_some_iff.mp hfound
  obtain ⟨rfl, rfl⟩ := Prod.mk.inj hsame
  obtain ⟨hlt, hmatches, -⟩ := findIdx?_eq_some_iff_getElem.mp hindex
  refine ⟨rows[index'], ?_, by simpa using hmatches⟩
  rw [rowAt, rows_of_entry hentry]
  exact getElem?_eq_getElem hlt

theorem replaced_finish {token : Uuid} {status : DeliveryStatus} {detail : String}
    {covered : Option AlertSeverity} (h : store.claimPlace alertId token = some (check, index)) :
    ∃ row, row.id = alertId ∧ row.deliveryToken = some token ∧
      Replaced store (store.finishDelivery alertId token status detail covered) check index row
        (acknowledgedRow row status detail covered) := by
  obtain ⟨row, hrow, hid, htoken⟩ := claimPlace_eq_some h
  refine ⟨row, hid, htoken, ?_⟩
  unfold finishDelivery
  rw [h]
  refine ⟨hrow, ?_, ?_⟩
  · have hget : (store.rows check)[index]? = some row := hrow
    simp only [rowAt, rows_set, if_true, getElem?_modify, hget]
    rfl
  · intro check' index' hne
    simp only [rowAt, rows_set]
    split
    next hcheck =>
      subst hcheck
      have hindex : index ≠ index' := fun hindex => hne (by rw [hindex])
      simp [hindex]
    · rfl

/-- No two places hold rows with one id. -/
def UniqueIds (store : AlertStore) : Prop :=
  ∀ check index row check' index' row', store.rowAt check index = some row →
    store.rowAt check' index' = some row' → row.id = row'.id → (check, index) = (check', index')

section

variable (h : Replaced store store' check index old new)
include h

/-- A row after the change stood at its place before, with what the new row keeps. -/
theorem Replaced.back {α : Type} {f : OperatorAlert → α} {check' : AlertCheck} {index' : Nat}
    (hkept : f new = f old) (hrow : store'.rowAt check' index' = some row) :
    ∃ row', store.rowAt check' index' = some row' ∧ f row' = f row := by
  by_cases hplace : (check', index') = (check, index)
  · cases hplace
    rw [h.after] at hrow
    exact ⟨old, h.before, by rw [← some.inj hrow, hkept]⟩
  · rw [h.others _ _ hplace] at hrow
    exact ⟨row, hrow, rfl⟩

theorem Replaced.uniqueIds (hid : new.id = old.id)
    (hunique : store.UniqueIds) : store'.UniqueIds := by
  intro check₁ index₁ row₁ check₂ index₂ row₂ hrow₁ hrow₂ hsame
  obtain ⟨old₁, hold₁, hid₁⟩ := h.back hid hrow₁
  obtain ⟨old₂, hold₂, hid₂⟩ := h.back hid hrow₂
  exact hunique _ _ _ _ _ _ hold₁ hold₂ (by rw [hid₁, hid₂, hsame])

theorem Replaced.forall_rows {P P' : OperatorAlert → Prop} (hunique : store.UniqueIds)
    (hall : ∀ check index row, store.rowAt check index = some row → P row) (hnew : P old → P' new)
    (hother : ∀ row, row.id ≠ old.id → P row → P' row) :
    ∀ check index row, store'.rowAt check index = some row → P' row := by
  intro check' index' row hrow
  by_cases hplace : (check', index') = (check, index)
  · cases hplace
    rw [h.after] at hrow
    rw [← some.inj hrow]
    exact hnew (hall _ _ _ h.before)
  · rw [h.others _ _ hplace] at hrow
    refine hother row (fun hid => hplace ?_) (hall _ _ _ hrow)
    exact hunique _ _ _ _ _ _ hrow h.before hid

end

/-- Only the last row of an identity may be open. -/
def LastOpen (store : AlertStore) : Prop :=
  ∀ check, OnlyLastOpen (store.rows check)

theorem onlyLastOpen_iff :
    OnlyLastOpen rows ↔ ∀ (index : Nat) (row next : OperatorAlert), rows[index]? = some row →
      rows[index + 1]? = some next → row.isOpen = false := by
  constructor
  · intro h index row next hrow hnext
    refine h row (mem_of_getElem? (i := index) ?_)
    obtain ⟨hlt, -⟩ := List.getElem?_eq_some_iff.mp hnext
    rw [getElem?_dropLast, if_pos (by omega), hrow]
  · intro h row hrow
    obtain ⟨index, hindex⟩ := mem_iff_getElem?.mp hrow
    rw [getElem?_dropLast] at hindex
    obtain ⟨hlt, hindex⟩ := of_ite_ne_else hindex nofun
    exact h index row _ hindex (getElem?_eq_getElem (by omega))

theorem Replaced.lastOpen (h : Replaced store store' check index old new)
    (hopen : new.isOpen = old.isOpen) (hlast : store.LastOpen) : store'.LastOpen := by
  intro check'
  refine onlyLastOpen_iff.mpr (fun index' row next hrow hnext => ?_)
  obtain ⟨row', hrow', hsame⟩ := h.back hopen hrow
  obtain ⟨next', hnext', -⟩ := h.back hopen hnext
  rw [← hsame]
  exact onlyLastOpen_iff.mp (hlast check') index' row' next' hrow' hnext'

/-- What a claim call does: nothing, mark the row disabled, or claim it. -/
inductive ClaimEffect (store : AlertStore) (alertId : Uuid) (now : Time) (maxAttempts : Nat)
    (ttl : Duration) (token : Uuid) : Option DeliveryClaim → AlertStore → Prop where
  | refused : ClaimEffect store alertId now maxAttempts ttl token none store
  | disabled (check : AlertCheck) (index : Nat) (row : OperatorAlert) (provider detail : String)
      (store' : AlertStore) (hreplaced : Replaced store store' check index row
        (skippedRow row provider detail))
      (hstatus : row.deliveryStatus = .pending ∨ row.deliveryStatus = .skipped) :
      ClaimEffect store alertId now maxAttempts ttl token none store'
  | granted (check : AlertCheck) (index : Nat) (row : OperatorAlert) (provider : String)
      (store' : AlertStore) (hreplaced : Replaced store store' check index row
        (claimedRow row provider token (now + ttl)))
      (hid : row.id = alertId) (hfree : row.claimedAt now = false)
      (hclaimable : pageClaimable row = true) (hbudget : pageAttempts row < maxAttempts) :
      ClaimEffect store alertId now maxAttempts ttl token
        (some ⟨claimedRow row provider token (now + ttl), token⟩) store'

variable (store : AlertStore) (alertId : Uuid) (provider : String) (now : Time)

theorem claimDelivery_effect (maxAttempts : Nat) (ttl : Duration) (severity : Option AlertSeverity)
    (token : Uuid) :
    ClaimEffect store alertId now maxAttempts ttl token
      (store.claimDelivery alertId provider now maxAttempts ttl severity token).1
      (store.claimDelivery alertId provider now maxAttempts ttl severity token).2 := by
  unfold claimDelivery
  cases hlatest : store.latest alertId with
  | none => exact .refused
  | some found =>
    obtain ⟨check, row⟩ := found
    obtain ⟨hlast, hid, -⟩ := latest_eq_some hlatest
    dsimp only
    split
    · exact .refused
    next hfree =>
      split
      · exact .refused
      · split
        · split
          next hstatus =>
            exact .disabled check _ row _ _ _ (replaced_putLast hlast _) hstatus
          · exact .refused
        · split
          · exact .refused
          next hpage =>
            obtain ⟨hclaimable, hbudget⟩ := not_or.mp hpage
            exact .granted check _ row _ _ (replaced_putLast hlast _) hid (by simpa using hfree)
              (by simpa using hclaimable) (not_le.mp hbudget)

/-- What a skip does: nothing, or mark a row skipped that no claim holds. -/
theorem skipDelivery_effect (detail : String) (covered : Option AlertSeverity) :
    store.skipDelivery alertId provider now detail covered = store ∨
      ∃ check index row, store.latest alertId = some (check, row) ∧
        (row.deliveryStatus = .pending ∨ row.deliveryStatus = .skipped) ∧
        Replaced store (store.skipDelivery alertId provider now detail covered) check index row
          { skippedRow row provider (clipAlertText detail) with
            coveredSeverity := covered.or row.coveredSeverity } := by
  unfold skipDelivery
  cases hlatest : store.latest alertId with
  | none => exact .inl rfl
  | some found =>
    obtain ⟨check, row⟩ := found
    obtain ⟨hlast, -, -⟩ := latest_eq_some hlatest
    dsimp only
    split
    · exact .inl rfl
    next hstatus =>
      split
      · exact .inl rfl
      · refine .inr ⟨check, _, row, rfl, not_not.mp hstatus, replaced_putLast hlast _⟩

end AlertStore

/-! ## Observations and the delivery part of a row -/

def OperatorAlert.attemptsAt (row : OperatorAlert) : AlertSeverity → Nat
  | .info => row.infoAttempts
  | .warning => row.warningAttempts
  | .critical => row.criticalAttempts

/-- The delivery part of two rows is the same. -/
structure SameDelivery (row row' : OperatorAlert) : Prop where
  id : row'.id = row.id
  status : row'.deliveryStatus = row.deliveryStatus
  token : row'.deliveryToken = row.deliveryToken
  expiresAt : row'.deliveryExpiresAt = row.deliveryExpiresAt
  covered : row'.coveredSeverity = row.coveredSeverity
  attempts : row'.attemptsAt = row.attemptsAt

theorem SameDelivery.refl (row : OperatorAlert) : SameDelivery row row :=
  ⟨rfl, rfl, rfl, rfl, rfl, rfl⟩

variable {pass : Pass} {check : AlertCheck} {rows rows' : List OperatorAlert} (row : OperatorAlert)

theorem sameDelivery_refresh (finding : SupervisionFinding) (now : Time) :
    SameDelivery row (row.refresh finding now) :=
  ⟨rfl, rfl, rfl, rfl, rfl, by funext severity; cases severity <;> rfl⟩

theorem sameDelivery_resolve (resolvedAt : Option Time) (detail : String) :
    SameDelivery row { row with resolvedAt, resolutionDetail := detail } :=
  ⟨rfl, rfl, rfl, rfl, rfl, by funext severity; cases severity <;> rfl⟩

/-- Observations keep the delivery part of every row, and add rows nobody claimed. -/
theorem RowsStep.places (h : RowsStep pass check rows rows') (index : Nat) :
    (∀ row, rows[index]? = some row → ∃ row', rows'[index]? = some row' ∧ SameDelivery row row') ∧
    (∀ row', rows'[index]? = some row' →
      (∃ row, rows[index]? = some row ∧ SameDelivery row row') ∨
      (index = rows.length ∧ ∃ finding, row' = newAlert finding pass.now (pass.ids check))) := by
  -- a replaced last row, whichever way it was replaced
  have hlastCase : ∀ last new, rows.getLast? = some last → SameDelivery last new →
      (∀ row, rows[index]? = some row →
        ∃ row', (rows.dropLast ++ [new])[index]? = some row' ∧ SameDelivery row row') ∧
      (∀ row', (rows.dropLast ++ [new])[index]? = some row' →
        ∃ row, rows[index]? = some row ∧ SameDelivery row row') := by
    intro last new hlast hsame
    rw [getElem?_replaceLast hlast]
    by_cases hindex : index = rows.length - 1
    · have hrow : rows[index]? = some last := by rw [hindex, ← getLast?_eq_getElem?, hlast]
      rw [if_pos hindex, hrow]
      refine ⟨?_, ?_⟩
      · intro row heq
        exact ⟨new, rfl, some.inj heq ▸ hsame⟩
      · intro row' heq
        exact ⟨last, rfl, some.inj heq ▸ hsame⟩
    · rw [if_neg hindex]
      exact ⟨fun row hrow => ⟨row, hrow, .refl row⟩, fun row hrow => ⟨row, hrow, .refl row⟩⟩
  cases h with
  | same =>
    exact ⟨fun row hrow => ⟨row, hrow, .refl row⟩, fun row hrow => .inl ⟨row, hrow, .refl row⟩⟩
  | opened finding =>
    refine ⟨?_, ?_⟩
    · intro row hrow
      obtain ⟨hlt, -⟩ := List.getElem?_eq_some_iff.mp hrow
      exact ⟨row, by rw [getElem?_append_left hlt, hrow], .refl row⟩
    · intro row' hrow'
      rcases lt_trichotomy index rows.length with hlt | heq | hgt
      · rw [getElem?_append_left hlt] at hrow'
        exact .inl ⟨row', hrow', .refl row'⟩
      · subst heq
        rw [getElem?_concat_length] at hrow'
        exact .inr ⟨rfl, finding, (some.inj hrow').symm⟩
      · rw [getElem?_eq_none (by simp; omega)] at hrow'
        cases hrow'
  | refreshed finding last hlast =>
    obtain ⟨hforward, hback⟩ := hlastCase last _ hlast (sameDelivery_refresh last finding pass.now)
    exact ⟨hforward, fun row' hrow' => .inl (hback row' hrow')⟩
  | resolved last hlast =>
    obtain ⟨hforward, hback⟩ := hlastCase last _ hlast (sameDelivery_resolve last _ _)
    exact ⟨hforward, fun row' hrow' => .inl (hback row' hrow')⟩

theorem rowsStep_applyObservations {store : AlertStore}
    (hopen : ∀ check, OnlyLastOpen (store.rows check)) (pass : Pass) (check : AlertCheck) :
    (check ∈ observationKeys pass.findings pass.evaluated ∧
      RowsStep pass check (store.rows check) ((store.applyObservations pass).2.rows check)) ∨
    (store.applyObservations pass).2.rows check = store.rows check := by
  have hview := view_applyObservations store pass check
  split at hview
  next hkey =>
    refine .inl ⟨hkey, ?_⟩
    have hrows := congrArg CheckView.rows hview
    rw [show (store.applyObservations pass).2.rows check =
      (observeCheck pass check (store.view check)).rows from hrows]
    have hclosed : OnlyLastOpen (store.view check).rows := hopen check
    exact observeCheck_rows pass check hclosed
  · exact .inr (congrArg CheckView.rows hview)

end Thytrader.Alerts

import Thytrader.Execution.BreakerPause
import Thytrader.Risk.GateSoundness
import Thytrader.Trading.RowWrites

/-!
# A daily-loss trip stops its whole scope

The pause set of a trip, the carrier of its latch and the books the latch is read from are
three differently filtered views of the store. They agree because each is decided by a row's
mode and by the quote of its book, and nothing a trip writes changes either (`Calmer`).

`pauseForBreaker_effect` is the whole trip: what it stops, what it latches, what it leaves alone.
-/

namespace Thytrader.Execution

open Trading Risk Lib MemoryStore List Dict

variable {productId : String} {mode : DeploymentMode}

/-! ## The quote of a stored book -/

/-- The runtime rows of one book. -/
def runtimesOf (store : MemoryStore) (deploymentId : Uuid) : List InstrumentRuntime :=
  (store.instrumentRuntimes.entries.filter (fun entry => entry.1.1 = deploymentId)).map Prod.snd

def bookQuote (store : MemoryStore) (deploymentId : Uuid) : Option QuoteScope :=
  (store.getDeployment deploymentId).toOption.bind snapshotQuote

variable {snapshot : DeploymentSnapshot} {row : Deployment} {next : MemoryStore}
  {store : MemoryStore}

theorem bookQuote_of_read {deploymentId : Uuid}
    (h : store.getDeployment deploymentId = .ok snapshot) :
    bookQuote store deploymentId = snapshotQuote snapshot := by
  unfold bookQuote
  rw [h]
  rfl

theorem snapshotQuote_withOpening (evidence : OpeningEvidence) (snapshot : DeploymentSnapshot) :
    snapshotQuote (withOpening evidence snapshot) = snapshotQuote snapshot := by
  unfold withOpening
  split
  · rfl
  · rfl

theorem exists_mem_of_mapM_some {α β : Type} {f : α → Option β} {xs : List α} {ys : List β}
    (h : xs.mapM f = some ys) {x : α} (hx : x ∈ xs) : ∃ y ∈ ys, f x = some y := by
  induction xs generalizing ys with
  | nil => cases hx
  | cons _ _ ih =>
    rw [mapM_cons] at h
    obtain ⟨first, hfirst, h⟩ := Option.bind_eq_some_iff.mp h
    obtain ⟨others, hothers, h⟩ := Option.bind_eq_some_iff.mp h
    cases h
    obtain rfl | hx := mem_cons.mp hx
    · exact ⟨first, by simp, hfirst⟩
    · obtain ⟨y, hy, hvalue⟩ := ih hothers hx
      exact ⟨y, by simp [hy], hvalue⟩

variable {quote : QuoteScope}

theorem productQuote_of_snapshotQuote (h : snapshotQuote snapshot = some quote)
    (hproduct : snapshot.deployment.productId ≠ "") :
    productQuote snapshot.deployment.productId = some quote := by
  have hmem : snapshot.deployment.productId ∈ bookProducts snapshot := by
    unfold bookProducts
    simp [hproduct]
  unfold snapshotQuote at h
  split at h
  · cases h
  next quotes hquotes =>
    split at h
    next only hdedup =>
      cases h
      obtain ⟨found, hfound, hquote⟩ := exists_mem_of_mapM_some hquotes hmem
      have hsingle : found ∈ quotes.dedup := mem_dedup.mpr hfound
      rw [hdedup, mem_singleton] at hsingle
      rw [hquote, hsingle]
    · cases h

theorem ne_blank_of_productQuote (h : productQuote productId = some quote) :
    productId ≠ "" := by
  rintro rfl
  have hnone : productQuote "" = none := by decide +kernel
  cases (hnone.symm.trans h)

theorem snapshotQuote_own (hreadable : snapshotQuote snapshot ≠ none)
    (hquote : productQuote snapshot.deployment.productId = some quote) :
    snapshotQuote snapshot = some quote := by
  obtain ⟨found, hfound⟩ := Option.ne_none_iff_exists'.mp hreadable
  have hproduct := productQuote_of_snapshotQuote hfound (ne_blank_of_productQuote hquote)
  rw [hquote] at hproduct
  rw [hfound, hproduct]

/-! ## What a trip leaves alone -/

/-- A row changed by breaker writes only: same book, never restarted, never unlatched. -/
structure RowCalmer (before after : Deployment) : Prop where
  id : after.id = before.id
  mode : after.mode = before.mode
  productId : after.productId = before.productId
  status : before.status ≠ .running → after.status = before.status
  latch : before.dailyLossLatched = true → after.dailyLossLatched = true

theorem RowCalmer.refl (row : Deployment) : RowCalmer row row :=
  ⟨rfl, rfl, rfl, fun _ => rfl, fun h => h⟩

theorem RowCalmer.trans {a b c : Deployment} (hab : RowCalmer a b) (hbc : RowCalmer b c) :
    RowCalmer a c where
  id := hbc.id.trans hab.id
  mode := hbc.mode.trans hab.mode
  productId := hbc.productId.trans hab.productId
  status := by
    intro hstopped
    have hkept := hab.status hstopped
    rw [hbc.status (by rw [hkept]; exact hstopped), hkept]
  latch := fun h => hbc.latch (hab.latch h)

/-- Two stores with the same books, the rows of the later one calmer. -/
structure Calmer (store next : MemoryStore) : Prop where
  orders : next.orders = store.orders
  positions : next.positions = store.positions
  runtimes : ∀ id, (runtimesOf next id).map (·.productId) = (runtimesOf store id).map (·.productId)
  rows : ∀ id row, store.deployments.get? id = some row →
    ∃ after, next.deployments.get? id = some after ∧ RowCalmer row after
  absent : ∀ id, store.deployments.get? id = none → next.deployments.get? id = none

theorem Calmer.refl (store : MemoryStore) : Calmer store store where
  orders := rfl
  positions := rfl
  runtimes := fun _ => rfl
  rows := fun _ row h => ⟨row, h, .refl row⟩
  absent := fun _ h => h

theorem Calmer.trans {a b c : MemoryStore} (hab : Calmer a b) (hbc : Calmer b c) : Calmer a c where
  orders := hbc.orders.trans hab.orders
  positions := hbc.positions.trans hab.positions
  runtimes := fun id => (hbc.runtimes id).trans (hab.runtimes id)
  rows := by
    intro id row hrow
    obtain ⟨middle, hmiddle, hfirst⟩ := hab.rows id row hrow
    obtain ⟨after, hafter, hsecond⟩ := hbc.rows id middle hmiddle
    exact ⟨after, hafter, hfirst.trans hsecond⟩
  absent := fun id h => hbc.absent id (hab.absent id h)

variable {id : Uuid}

theorem getDeployment_eq (h : store.deployments.get? id = some row) :
    ∃ snapshot, store.getDeployment id = .ok snapshot ∧ snapshot.deployment = row ∧
      snapshot.accountingComplete = true ∧ snapshot.instrumentRuntimes = runtimesOf store id ∧
      snapshot.positions =
        (store.positions.entries.filter (fun entry => entry.1.1 = id)).map Prod.snd ∧
      snapshot.position = focusedPosition
        ((store.positions.entries.filter (fun entry => entry.1.1 = id)).map Prod.snd)
        row.productId ∧
      snapshot.orders = store.orders.values.filter (fun order => order.deploymentId = id) := by
  unfold getDeployment
  rw [h]
  exact ⟨_, rfl, rfl, rfl, rfl, rfl, rfl, rfl⟩

/-- A trip's writes change no book's quote. -/
theorem Calmer.bookQuote (h : Calmer store next) (id : Uuid) :
    bookQuote next id = bookQuote store id := by
  cases hrow : store.deployments.get? id with
  | none =>
    have hnext := h.absent id hrow
    unfold Execution.bookQuote getDeployment
    rw [hrow, hnext]
  | some row =>
    obtain ⟨after, hafter, hcalmer⟩ := h.rows id row hrow
    obtain ⟨first, hfirst, hrow₁, -, hruntimes₁, hpositions₁, hfocus₁, horders₁⟩ :=
      getDeployment_eq hrow
    obtain ⟨second, hsecond, hrow₂, -, hruntimes₂, hpositions₂, hfocus₂, horders₂⟩ :=
      getDeployment_eq hafter
    rw [bookQuote_of_read hfirst, bookQuote_of_read hsecond]
    have hproduct : second.deployment.productId = first.deployment.productId := by
      rw [hrow₁, hrow₂, hcalmer.productId]
    have hbooks : snapshotPositions second = snapshotPositions first := by
      unfold snapshotPositions
      rw [hpositions₁, hpositions₂, hfocus₁, hfocus₂, h.positions, hcalmer.productId]
    have hproducts : bookProducts second = bookProducts first := by
      unfold bookProducts resolvedProductId
      dsimp only
      rw [hbooks, hproduct, horders₁, horders₂, h.orders, hruntimes₁, hruntimes₂, h.runtimes id]
    unfold snapshotQuote
    rw [hproducts]

theorem calmer_setRow {after : Deployment} (hrow : store.deployments.get? id = some row)
    (hcalmer : RowCalmer row after) :
    Calmer store { store with deployments := store.deployments.set id after } where
  orders := rfl
  positions := rfl
  runtimes := fun _ => rfl
  rows := by
    intro other stored hstored
    by_cases hsame : other = id
    · subst hsame
      cases hrow.symm.trans hstored
      exact ⟨after, get?_set_self .., hcalmer⟩
    · exact ⟨stored, by rw [get?_set_ne hsame, hstored], .refl stored⟩
  absent := by
    intro other hnone
    have hne : other ≠ id := by
      rintro rfl
      cases (hrow.symm.trans hnone)
    rw [get?_set_ne hne, hnone]

/-! ## One peer -/

/-- The rows a step may have touched. -/
def TouchesOnly (touched : Uuid → Prop) (store next : MemoryStore) : Prop :=
  ∀ id, ¬ touched id → next.getDeployment id = store.getDeployment id

/-- A row write is seen by its own book only. -/
theorem touchesOnly_setRow (store : MemoryStore) (id : Uuid) (row : Deployment) :
    TouchesOnly (· = id) store { store with deployments := store.deployments.set id row } := by
  intro other hother
  unfold getDeployment
  rw [show ({ store with deployments := store.deployments.set id row } : MemoryStore).deployments.get?
    other = store.deployments.get? other from get?_set_ne hother row]

section

variable (row : Deployment) (detail : String) (latch : Bool) (now : Time)

theorem rowCalmer_breakerPaused :
    RowCalmer row (breakerPaused row detail latch now) where
  id := rfl
  mode := rfl
  productId := rfl
  status := fun h => if_neg h
  latch := by
    intro h
    simp [breakerPaused, h]

theorem breakerPaused_status_ne :
    (breakerPaused row detail latch now).status ≠ .running := by
  unfold breakerPaused
  split
  · simp
  next h => exact h

end

theorem quoteScoped_single (hproduct : productQuote productId = some quote)
    (hquote : snapshotQuote snapshot = some quote) :
    quoteScopedSnapshots [snapshot] productId = .ok [snapshot] := by
  unfold quoteScopedSnapshots
  rw [hproduct]
  simp [sameQuoteBooks, hquote, Except.map]

variable {store : MemoryStore}

theorem pauseDailyPeer_effect (hrow : store.deployments.get? id = some row)
    (hproduct : productQuote productId = some quote) (hquote : bookQuote store id = some quote)
    (detail : String) (latch : Bool) (now : Time) :
    ∃ next, pauseDailyPeer store id row.mode productId detail latch now 3 = (.ok (), next) ∧
      Calmer store next ∧ TouchesOnly (· = id) store next ∧
      ∃ after, next.deployments.get? id = some after ∧ after.status ≠ .running := by
  obtain ⟨current, hread, hcurrent, -⟩ := getDeployment_eq hrow
  have hscope : snapshotQuote current = some quote := (bookQuote_of_read hread).symm.trans hquote
  unfold pauseDailyPeer
  rw [hread]
  dsimp only
  rw [quoteScoped_single hproduct hscope]
  dsimp only
  rw [if_neg (by simp [hcurrent])]
  split
  next hidle =>
    exact ⟨store, rfl, .refl store, fun _ _ => rfl, row, hrow, hcurrent ▸ hidle.1⟩
  · have hsave : store.saveBreakerPause id current.deployment.revision detail latch now =
        (.ok (breakerPaused row detail latch now),
          { store with
            deployments := store.deployments.set id (breakerPaused row detail latch now) }) := by
      unfold saveBreakerPause
      rw [hrow]
      dsimp only
      rw [if_neg (by rw [hcurrent]; simp)]
    rw [hsave]
    exact ⟨_, rfl, calmer_setRow hrow (rowCalmer_breakerPaused row detail latch now),
      touchesOnly_setRow store id _, _, get?_set_self .., breakerPaused_status_ne row detail latch now⟩

/-! ## All peers -/

/-- A book of this mode and quote: one a breaker of the mode pauses. -/
structure InScope (store : MemoryStore) (mode : DeploymentMode) (quote : QuoteScope) (id : Uuid) :
    Prop where
  row : ∃ row, store.deployments.get? id = some row ∧ row.mode = mode
  quote : bookQuote store id = some quote

section

variable {store : MemoryStore} {quote : QuoteScope} {id : Uuid}

theorem InScope.calmer (h : InScope store mode quote id) (hcalmer : Calmer store next) :
    InScope next mode quote id := by
  obtain ⟨row, hrow, hmode⟩ := h.row
  obtain ⟨after, hafter, hrows⟩ := hcalmer.rows id row hrow
  exact ⟨⟨after, hafter, hrows.mode.trans hmode⟩, (hcalmer.bookQuote id).trans h.quote⟩

theorem InScope.of_calmer (h : InScope next mode quote id) (hcalmer : Calmer store next) :
    InScope store mode quote id := by
  obtain ⟨after, hafter, hmode⟩ := h.row
  refine ⟨?_, (hcalmer.bookQuote id).symm.trans h.quote⟩
  cases hrow : store.deployments.get? id with
  | none => exact absurd ((hcalmer.absent id hrow).symm.trans hafter) (by simp)
  | some row =>
    obtain ⟨found, hfound, hrows⟩ := hcalmer.rows id row hrow
    cases hfound.symm.trans hafter
    exact ⟨row, rfl, hrows.mode.symm.trans hmode⟩

end

theorem Calmer.not_running (h : Calmer store next) (hrow : store.deployments.get? id = some row)
    (hstatus : row.status ≠ .running) :
    ∃ after, next.deployments.get? id = some after ∧ after.status ≠ .running := by
  obtain ⟨after, hafter, hcalmer⟩ := h.rows id row hrow
  refine ⟨after, hafter, ?_⟩
  rw [hcalmer.status hstatus]
  exact hstatus

theorem pausePeers_effect (hproduct : productQuote productId = some quote) (detail : String)
    (anchor : Option Uuid) (now : Uuid → Time) (books : List DeploymentSnapshot)
    (hbooks : ∀ item ∈ books, InScope store mode quote item.deployment.id) :
    ∃ next, pausePeers mode productId detail anchor now books store = (.ok (), next) ∧
      Calmer store next ∧
      TouchesOnly (fun id => ∃ item ∈ books, item.deployment.id = id) store next ∧
      ∀ item ∈ books, ∃ after, next.deployments.get? item.deployment.id = some after ∧
        after.status ≠ .running := by
  induction books generalizing store with
  | nil => exact ⟨store, rfl, .refl store, fun _ _ => rfl, by simp⟩
  | cons item _ ih =>
    have hscope := hbooks item (by simp)
    obtain ⟨row, hrow, rfl⟩ := hscope.row
    obtain ⟨middle, hpaused, hfirst, htouched, after, hafter, hstopped⟩ :=
      pauseDailyPeer_effect hrow hproduct hscope.quote detail (anchor = some item.deployment.id)
        (now item.deployment.id)
    obtain ⟨next, hrest, hsecond, hothers, hpeers⟩ := @ih middle
      (fun other hother => (hbooks other (by simp [hother])).calmer hfirst)
    refine ⟨next, ?_, hfirst.trans hsecond, ?_, ?_⟩
    · unfold pausePeers
      rw [hpaused]
      exact hrest
    · intro id hid
      have hne : id ≠ item.deployment.id := fun h => hid ⟨item, by simp, h.symm⟩
      rw [hothers id (fun h => hid ⟨h.choose, by simp [h.choose_spec.1], h.choose_spec.2⟩),
        htouched id hne]
    · intro other hother
      obtain rfl | hother := mem_cons.mp hother
      · exact hsecond.not_running hafter hstopped
      · exact hpeers other hother

/-! ## The latch of the tripping book -/

theorem map_product_setEntries {own : Uuid × String} {runtime : InstrumentRuntime}
    {keep : (Uuid × String) × InstrumentRuntime → Bool}
    {entries : List ((Uuid × String) × InstrumentRuntime)}
    (hkey : ∀ first second : (Uuid × String) × InstrumentRuntime, first.1 = second.1 → keep first =
      keep second) (hrows : ∀ entry ∈ entries.filter keep, entry.2.productId = productId)
    (hruntime : runtime.productId = productId) (hpresent : own ∈ entries.map Prod.fst) :
    ((Dict.setEntries own runtime entries).filter keep).map (fun entry => entry.2.productId) =
      (entries.filter keep).map (fun entry => entry.2.productId) := by
  induction entries with
  | nil => cases hpresent
  | cons entry rest ih =>
    unfold Dict.setEntries
    by_cases hown : entry.1 = own
    · rw [if_pos hown]
      have hsame : keep (own, runtime) = keep entry := hkey _ _ hown.symm
      by_cases hkeep : keep entry = true
      · have hproduct := hrows entry (by simp [hkeep])
        simp [hsame, hkeep, hruntime, hproduct]
      · simp [hsame, hkeep]
    · rw [if_neg hown]
      have hrest : own ∈ rest.map Prod.fst := by
        obtain h | h := mem_cons.mp hpresent
        · exact absurd h.symm hown
        · exact h
      have htail := ih (fun other hother => hrows other (by
        rw [filter_cons]
        split
        · exact mem_cons_of_mem _ hother
        · exact hother)) hrest
      by_cases hkeep : keep entry = true
      · simp [hkeep, htail]
      · simp [hkeep, htail]

theorem mirrorRuntime_books (store : MemoryStore) (saved : Deployment) :
    (∀ id, (runtimesOf (store.mirrorRuntime saved) id).map (·.productId) =
      (runtimesOf store id).map (·.productId)) ∧
    (∀ id, id ≠ saved.id → runtimesOf (store.mirrorRuntime saved) id = runtimesOf store id) ∧
    (store.mirrorRuntime saved).orders = store.orders ∧
    (store.mirrorRuntime saved).positions = store.positions := by
  unfold mirrorRuntime
  dsimp only
  split
  next hmirror =>
    rw [Bool.and_eq_true] at hmirror
    obtain ⟨hcontains, hrows⟩ := hmirror
    have hother : ∀ id, id ≠ saved.id → runtimesOf { store with
        instrumentRuntimes := store.instrumentRuntimes.set (saved.id, saved.productId)
          (runtimeFromDeployment saved saved.productId) } id = runtimesOf store id := by
      intro id hid
      unfold runtimesOf
      rw [filter_set]
      · exact decide_eq_false (fun h => hid h.symm)
      · intro old hold
        exact decide_eq_false (fun h => hid h.symm)
    refine ⟨?_, hother, rfl, rfl⟩
    intro id
    by_cases hid : id = saved.id
    · subst hid
      have hpresent : (saved.id, saved.productId) ∈
          store.instrumentRuntimes.entries.map Prod.fst := by
        obtain ⟨old, hold⟩ := Option.isSome_iff_exists.mp hcontains
        exact mem_map.mpr ⟨_, get?_eq_some_iff.mp hold, rfl⟩
      have hall : ∀ entry ∈ store.instrumentRuntimes.entries.filter
          (fun entry => entry.1.1 = saved.id), entry.2.productId = saved.productId := by
        intro entry hentry
        have hmem := all_eq_true.mp hrows entry.2 (mem_map.mpr ⟨entry, hentry, rfl⟩)
        exact of_decide_eq_true hmem
      unfold runtimesOf
      rw [map_map, map_map]
      exact map_product_setEntries (fun first second h => by rw [h]) hall rfl hpresent
    · rw [hother id hid]
  · exact ⟨fun _ => rfl, fun _ _ => rfl, rfl, rfl⟩

theorem saveDeployment_calmer {saved : Deployment} (hrow : store.deployments.get? id = some row)
    (hid : row.id = id) (hcalmer : RowCalmer row saved) :
    ∃ next, store.saveDeployment saved (some row.revision) =
        (.ok (saved.withRevision (row.revision + 1)), next) ∧
      Calmer store next ∧ TouchesOnly (· = id) store next ∧
      next.deployments.get? id = some (saved.withRevision (row.revision + 1)) := by
  have hsaved : saved.id = id := hcalmer.id.trans hid
  have hkept : RowCalmer row (saved.withRevision (row.revision + 1)) :=
    ⟨hcalmer.id, hcalmer.mode, hcalmer.productId, hcalmer.status, hcalmer.latch⟩
  have hput : store.putDeployment (saved.withRevision (row.revision + 1)) =
      { store with
        deployments := store.deployments.set id (saved.withRevision (row.revision + 1)) } := by
    unfold putDeployment
    rw [show (saved.withRevision (row.revision + 1)).id = id from hsaved]
  unfold saveDeployment
  rw [if_neg (by simp), hsaved, hrow]
  dsimp only
  rw [if_neg (by simp), hput]
  obtain ⟨hproducts, hothers, horders, hpositions⟩ := mirrorRuntime_books
    { store with deployments := store.deployments.set id (saved.withRevision (row.revision + 1)) }
    (saved.withRevision (row.revision + 1))
  obtain ⟨hevidence, hdeployments⟩ := mirrorRuntime_frame
    { store with deployments := store.deployments.set id (saved.withRevision (row.revision + 1)) }
    (saved.withRevision (row.revision + 1))
  have hset := calmer_setRow hrow hkept
  refine ⟨_, rfl, ⟨horders, hpositions, hproducts, ?_, ?_⟩, ?_, ?_⟩
  · intro other stored hstored
    rw [hdeployments]
    exact hset.rows other stored hstored
  · intro other hnone
    rw [hdeployments]
    exact hset.absent other hnone
  · intro other hother
    have hruntimes := hothers other (by
      intro h
      exact hother (h.trans hsaved))
    have hrows := touchesOnly_setRow store id (saved.withRevision (row.revision + 1)) other hother
    rw [← hrows]
    unfold runtimesOf at hruntimes
    unfold getDeployment
    rw [hdeployments, horders, hpositions, hevidence.fills, hevidence.intents, hevidence.funding,
      hruntimes]
  · rw [hdeployments]
    exact get?_set_self ..

theorem rowCalmer_latchedRow (row : Deployment) (now : Time) :
    RowCalmer row (latchedRow row .dailyLoss now) where
  id := rfl
  mode := rfl
  productId := rfl
  status := fun _ => rfl
  latch := fun _ => rfl

/-! ## The loaded portfolio -/

/-- The loaded snapshot agrees with its stored row on all a breaker reads. -/
structure Shows (store : MemoryStore) (item : DeploymentSnapshot) : Prop where
  row : ∃ row, store.deployments.get? item.deployment.id = some row ∧
    item.deployment.mode = row.mode ∧ item.deployment.productId = row.productId ∧
    item.deployment.dailyLossLatched = row.dailyLossLatched
  quote : snapshotQuote item = bookQuote store item.deployment.id

theorem accountingSnapshot_shows (hkeyed : DeploymentsKeyed store) (evidence : OpeningEvidence)
    (hrow : store.deployments.get? id = some row) :
    ∃ item, accountingSnapshot store evidence id = .ok item ∧ item.deployment.id = id ∧
      Shows store item := by
  obtain ⟨snapshot, hread, hdeployment, hcomplete, -⟩ := getDeployment_eq hrow
  have hid : snapshot.deployment.id = id := by
    rw [hdeployment]
    exact hkeyed id row hrow
  have hstamped : (withOpening evidence snapshot).deployment.id = id ∧
      (withOpening evidence snapshot).deployment.mode = row.mode ∧
      (withOpening evidence snapshot).deployment.productId = row.productId ∧
      (withOpening evidence snapshot).deployment.dailyLossLatched = row.dailyLossLatched := by
    rw [← hid, ← hdeployment]
    unfold withOpening
    split
    · exact ⟨rfl, rfl, rfl, rfl⟩
    · exact ⟨rfl, rfl, rfl, rfl⟩
  refine ⟨withOpening evidence snapshot, ?_, hstamped.1, ⟨row, ?_, hstamped.2⟩, ?_⟩
  · unfold accountingSnapshot
    rw [hread]
    show (if snapshot.accountingComplete = true then _ else _) = _
    rw [if_pos hcomplete]
    rfl
  · rw [hstamped.1]
    exact hrow
  · rw [hstamped.1, snapshotQuote_withOpening, bookQuote_of_read hread]

theorem mapM_ok_of_forall {α β : Type} {f : α → Result β} {xs : List α}
    (h : ∀ x ∈ xs, ∃ y, f x = .ok y) : ∃ ys, xs.mapM f = .ok ys := by
  induction xs with
  | nil => exact ⟨[], rfl⟩
  | cons x _ ih =>
    obtain ⟨y, hy⟩ := h x (by simp)
    obtain ⟨ys, hys⟩ := ih (fun x' hx' => h x' (by simp [hx']))
    refine ⟨y :: ys, ?_⟩
    rw [mapM_cons, hy, hys]
    rfl

theorem accountingPortfolio_shows (hkeyed : DeploymentsKeyed store) (evidence : OpeningEvidence) :
    ∃ loaded, accountingPortfolio store evidence = .ok loaded ∧
      (∀ item ∈ loaded, Shows store item) ∧
      ∀ id row, store.deployments.get? id = some row → ∃ item ∈ loaded, item.deployment.id = id := by
  have hlisted : ∀ deployment, deployment ∈ listDeployments store ↔
      ∃ id, store.deployments.get? id = some deployment := by
    intro deployment
    unfold listDeployments
    rw [mem_insertionSort]
    exact mem_values_iff
  have hstored : ∀ deployment ∈ listDeployments store,
      store.deployments.get? deployment.id = some deployment := by
    intro deployment hdeployment
    obtain ⟨id, hid⟩ := (hlisted deployment).mp hdeployment
    rw [hkeyed id deployment hid]
    exact hid
  have hread : ∀ deployment ∈ listDeployments store,
      ∃ item, accountingSnapshot store evidence deployment.id = .ok item := by
    intro deployment hdeployment
    obtain ⟨item, hitem, -⟩ := accountingSnapshot_shows hkeyed evidence (hstored _ hdeployment)
    exact ⟨item, hitem⟩
  obtain ⟨loaded, hloaded⟩ := mapM_ok_of_forall hread
  refine ⟨loaded, hloaded, ?_, ?_⟩
  · intro item hitem
    obtain ⟨deployment, hdeployment, hrun⟩ := mapM_mem hloaded hitem
    obtain ⟨found, hfound, -, hshows⟩ :=
      accountingSnapshot_shows hkeyed evidence (hstored deployment hdeployment)
    cases hrun.symm.trans hfound
    exact hshows
  · intro id row hrow
    have hdeployment := (hlisted row).mpr ⟨id, hrow⟩
    obtain ⟨item, hitem, hrun⟩ := mapM_ok_of_mem hloaded hdeployment
    obtain ⟨found, hfound, hid, -⟩ :=
      accountingSnapshot_shows hkeyed evidence (hstored row hdeployment)
    cases hrun.symm.trans hfound
    exact ⟨item, hitem, hid.trans (hkeyed id row hrow)⟩

/-! ## The trip -/

theorem sameQuoteBooks_of_readable (purpose : String) {items : List DeploymentSnapshot}
    (h : ∀ item ∈ items, snapshotQuote item ≠ none) :
    sameQuoteBooks quote purpose items =
      .ok (items.filter (fun item => snapshotQuote item = some quote)) := by
  induction items with
  | nil => rfl
  | cons item _ ih =>
    have hrest := ih (fun other hother => h other (by simp [hother]))
    unfold sameQuoteBooks
    cases hquote : snapshotQuote item with
    | none => exact absurd hquote (h item (by simp))
    | some found =>
      rw [hrest, filter_cons]
      by_cases hsame : found = quote
      · simp [Except.map, hquote, hsame]
      · simp [Except.map, hquote, hsame]

theorem Calmer.keyed (h : Calmer store next) (hkeyed : DeploymentsKeyed store) :
    DeploymentsKeyed next := by
  intro id after hafter
  cases hrow : store.deployments.get? id with
  | none => exact absurd ((h.absent id hrow).symm.trans hafter) (by simp)
  | some row =>
    obtain ⟨found, hfound, hcalmer⟩ := h.rows id row hrow
    cases hfound.symm.trans hafter
    exact hcalmer.id.trans (hkeyed id row hrow)

/-- A trip: a stored book with a supported quote, readable quotes in its mode, a caller that knows
only stored books. -/
structure TripContext (store : MemoryStore) (id : Uuid) (trip : Deployment) (quote : QuoteScope)
    (portfolio : List Uuid) : Prop where
  row : store.deployments.get? id = some trip
  quote : productQuote trip.productId = some quote
  readable : ∀ other row, store.deployments.get? other = some row → row.mode = trip.mode →
    bookQuote store other ≠ none
  known : ∀ other ∈ portfolio, store.deployments.get? other ≠ none

variable {store : MemoryStore} {id : Uuid} {trip : Deployment} {quote : QuoteScope}
  {portfolio : List Uuid}

theorem TripContext.inScope (h : TripContext store id trip quote portfolio) :
    InScope store trip.mode quote id := by
  refine ⟨⟨trip, h.row, rfl⟩, ?_⟩
  obtain ⟨snapshot, hread, hdeployment, -⟩ := getDeployment_eq h.row
  have hreadable := h.readable id trip h.row rfl
  rw [bookQuote_of_read hread] at hreadable ⊢
  exact snapshotQuote_own hreadable (by rw [hdeployment, h.quote])

theorem Shows.inScope {item : DeploymentSnapshot} (h : Shows store item)
    (hmode : item.deployment.mode = mode) (hquote : snapshotQuote item = some quote) :
    InScope store mode quote item.deployment.id := by
  obtain ⟨row, hrow, hsame, -⟩ := h.row
  exact ⟨⟨row, hrow, hsame ▸ hmode⟩, h.quote ▸ hquote⟩

/-- Pausing the mode's running books once the tripping book carries the latch. -/
theorem pauseModeRunning_effect (productId : String) {loaded : List DeploymentSnapshot}
    (hproduct : productQuote productId = some quote) (hshows : ∀ item ∈ loaded, Shows store item)
    (hall : ∀ other row, store.deployments.get? other = some row → ∃ item ∈ loaded,
      item.deployment.id = other)
    (hreadable : ∀ other row, store.deployments.get? other = some row → row.mode = mode → bookQuote
      store other ≠ none) (detail : String) (now : Uuid → Time) :
    ∃ next, pauseModeRunning store mode productId loaded detail now = (.ok (), next) ∧
      Calmer store next ∧ TouchesOnly (InScope store mode quote) store next ∧
      ∀ other, InScope store mode quote other →
        ∃ after, next.deployments.get? other = some after ∧ after.status ≠ .running := by
  have hquotes : ∀ item ∈ loaded.filter (fun item => item.deployment.mode = mode),
      snapshotQuote item ≠ none := by
    intro item hitem
    obtain ⟨hmem, hmode⟩ := mem_filter.mp hitem
    obtain ⟨row, hrow, hsame, -⟩ := (hshows item hmem).row
    rw [(hshows item hmem).quote]
    exact hreadable _ row hrow (hsame ▸ of_decide_eq_true hmode)
  have hbooks : ∀ item ∈ (loaded.filter (fun item => item.deployment.mode = mode)).filter
      (fun item => snapshotQuote item = some quote),
      InScope store mode quote item.deployment.id := by
    intro item hitem
    obtain ⟨hmoded, hquote⟩ := mem_filter.mp hitem
    obtain ⟨hmem, hmode⟩ := mem_filter.mp hmoded
    exact (hshows item hmem).inScope (of_decide_eq_true hmode) (of_decide_eq_true hquote)
  unfold pauseModeRunning quoteScopedSnapshots
  rw [hproduct]
  dsimp only
  rw [sameQuoteBooks_of_readable _ hquotes]
  obtain ⟨next, hrun, hcalmer, htouched, hpeers⟩ := pausePeers_effect hproduct detail _ now _ hbooks
  refine ⟨next, hrun, hcalmer, ?_, ?_⟩
  · intro other hother
    refine htouched other (fun hlisted => hother ?_)
    obtain ⟨item, hitem, rfl⟩ := hlisted
    exact hbooks item hitem
  · intro other hother
    obtain ⟨row, hrow, hmode⟩ := hother.row
    obtain ⟨item, hitem, rfl⟩ := hall other row hrow
    obtain ⟨stored, hstored, hsame, -⟩ := (hshows item hitem).row
    cases hrow.symm.trans hstored
    refine hpeers item (mem_filter.mpr ⟨mem_filter.mpr ⟨hitem, ?_⟩, ?_⟩)
    · exact decide_eq_true (hsame.trans hmode)
    · exact decide_eq_true ((hshows item hitem).quote.trans hother.quote)

theorem pauseForBreaker_effect (hkeyed : DeploymentsKeyed store)
    (h : TripContext store id trip quote portfolio) (text : String) (draws : TripDraws) :
    ∃ snapshot after, pauseForBreaker store id portfolio .dailyLoss text draws = (.ok snapshot, after) ∧
      Calmer store after ∧ TouchesOnly (InScope store trip.mode quote) store after ∧
      (∀ other, InScope store trip.mode quote other →
        ∃ row, after.deployments.get? other = some row ∧ row.status ≠ .running) ∧
      ∃ row, after.deployments.get? id = some row ∧ row.dailyLossLatched = true := by
  obtain ⟨snapshot, hread, hdeployment, -⟩ := getDeployment_eq h.row
  have hid : trip.id = id := hkeyed id trip h.row
  obtain ⟨middle, hsave, hfirst, htouched, hlatched⟩ := saveDeployment_calmer h.row hid
    (rowCalmer_latchedRow trip draws.latchedAt)
  obtain ⟨stamped, hstamped, hrow, -⟩ := getDeployment_eq hlatched
  have hstampedId : stamped.deployment.id = id := by
    rw [hrow]
    exact hid
  obtain ⟨loaded, hloaded, hshows, hall⟩ :=
    accountingPortfolio_shows (hfirst.keyed hkeyed) draws.evidence
  have hknown : portfolioWithCurrent middle draws.evidence (stamped.deployment.id :: portfolio) =
      .ok loaded := by
    unfold portfolioWithCurrent
    rw [hloaded]
    show (if _ then _ else _) = _
    rw [if_pos]
    · rfl
    · rw [all_eq_true]
      intro other hother
      have hstored : middle.deployments.get? other ≠ none := by
        obtain rfl | hother := mem_cons.mp hother
        · rw [hstampedId, hlatched]
          simp
        · obtain ⟨row, hother⟩ := Option.ne_none_iff_exists'.mp (h.known other hother)
          obtain ⟨after, hafter, -⟩ := hfirst.rows other row hother
          rw [hafter]
          simp
      obtain ⟨row, hstored⟩ := Option.ne_none_iff_exists'.mp hstored
      obtain ⟨item, hitem, rfl⟩ := hall other row hstored
      exact decide_eq_true (mem_map.mpr ⟨item, hitem, rfl⟩)
  have hmode : stamped.deployment.mode = trip.mode := by rw [hrow]; rfl
  have hproduct : stamped.deployment.productId = trip.productId := by rw [hrow]; rfl
  have hreadable : ∀ other row, middle.deployments.get? other = some row → row.mode = trip.mode →
      bookQuote middle other ≠ none := by
    intro other row hother hsame
    rw [hfirst.bookQuote]
    cases hbefore : store.deployments.get? other with
    | none => exact absurd ((hfirst.absent other hbefore).symm.trans hother) (by simp)
    | some before =>
      obtain ⟨found, hfound, hcalmer⟩ := hfirst.rows other before hbefore
      cases hfound.symm.trans hother
      exact h.readable other before hbefore (hcalmer.mode ▸ hsame)
  obtain ⟨after, hpaused, hsecond, hothers, hpeers⟩ := pauseModeRunning_effect trip.productId
    h.quote hshows hall hreadable (breakerPauseDetail .dailyLoss text) draws.peerAt
  obtain ⟨final, hfinal, hcalmer⟩ := hsecond.rows id _ hlatched
  obtain ⟨result, hresult, -⟩ := getDeployment_eq hfinal
  refine ⟨result, after, ?_, hfirst.trans hsecond, ?_, ?_, final, hfinal, hcalmer.latch rfl⟩
  · unfold pauseForBreaker
    rw [hread]
    dsimp only
    rw [if_pos (Or.inl rfl), hdeployment, hsave, hid]
    dsimp only
    rw [hstamped]
    dsimp only
    unfold pauseTripped
    rw [if_pos rfl, hknown]
    dsimp only
    rw [hmode, hproduct, hpaused, hstampedId]
    dsimp only
    rw [hresult]
  · -- the latched row is in scope itself, so both halves write inside the scope
    intro other hother
    have hne : other ≠ id := by
      intro hsame
      exact hother (hsame ▸ h.inScope)
    rw [hothers other (fun hscope => hother (hscope.of_calmer hfirst)), htouched other hne]
  · intro other hother
    exact hpeers other (hother.calmer hfirst)

end Thytrader.Execution

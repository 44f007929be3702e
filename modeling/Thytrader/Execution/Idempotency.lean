import Thytrader.Execution.Submit

/-!
# Idempotency keys

The key check of `_insert_intent` and its insert are separated by awaits: a gated entry waits for
the fleet latch between them. Two submissions under one key can both pass the check and then both
insert (`race_two_orders`). As long as each check is alone, at most one row and one venue order
exist per key, and every later submission under it fails with a conflict (`submit_unique`).
-/

namespace Thytrader.Execution

open Trading Lib MemoryStore List World Stage

/-! ## The condition -/

/-- When a submission runs its key check, no other submission under its key
stands between check and insert. -/
def CheckAlone (world : World) (action : Action) : Prop :=
  ∀ index task held key, action = .advance index → world.tasks[index]? = some task →
    task.stage = .checking held → task.intent.idempotencyKey = some key →
    ∀ other ∈ world.tasks, other.intent.id ≠ task.intent.id →
      other.intent.idempotencyKey = some key → other.stage.passedCheck = false

def aloneStep (world : World) (action : Action) (next : World) : Prop :=
  submitStep world action next ∧ CheckAlone world action

/-! ## What one task step can do -/

/-- The four kinds of task step: nothing visible, past the key check, the
insert, the venue call. -/
inductive Moved (world : World) (task : Submission) :
    Stage × MemoryStore × Bool → Prop where
  | quiet {stage : Stage} {store : MemoryStore} (hintents : store.intents = world.store.intents)
      (hsaved : stage.hasSaved = task.stage.hasSaved)
      (hwindow : stage.passedCheck = true → task.stage.passedCheck = true)
      (hsubmitted : task.stage = .submitted ↔ stage = .submitted) :
      Moved world task (stage, store, false)
  | pass {stage : Stage} {held : Option BaseLock} (hstage : task.stage = .checking held)
      (hunused : keyUsed world.store task.intent = false) (hpassed : stage.passedCheck = true) :
      Moved world task (stage, world.store, false)
  | insert {store : MemoryStore} (hpassed : task.stage.passedCheck = true)
      (hintents : store.intents = world.store.intents.set task.intent.id task.intent) :
      Moved world task (.saved, store, false)
  | place (hstage : task.stage = .recorded) : Moved world task (.submitted, world.store, true)

/-- A step among the stages before the insert that does not pass the check. -/
theorem Moved.unsaved {world : World} {task : Submission} {stage : Stage}
    (hbefore : task.stage.hasSaved = false) (hafter : stage.hasSaved = false)
    (hwindow : stage.passedCheck = false) : Moved world task (stage, world.store, false) := by
  refine Moved.quiet rfl (by rw [hbefore, hafter]) (fun h => ?_) ?_
  · rw [hwindow] at h
    cases h
  · constructor
    · intro h
      rw [h] at hbefore
      exact absurd hbefore (by decide)
    · intro h
      rw [h] at hafter
      exact absurd hafter (by decide)

theorem passedCheck_unsaved {stage : Stage} (h : stage.passedCheck = true) :
    stage.hasSaved = false := by
  cases stage with
  | awaitingGate | inserting => rfl
  | _ => exact absurd h (by simp [passedCheck])

theorem insertStep_moved {world : World} {task : Submission}
    (hpassed : task.stage.passedCheck = true) :
    Moved world task ((insertStep world.store task).1, (insertStep world.store task).2, false) := by
  unfold insertStep
  rcases insertLeasedIntent_cases world.store task.fence task.intent with
    ⟨failure, hrun⟩ | ⟨_, hrun⟩
  · rw [hrun]
    exact Moved.unsaved (passedCheck_unsaved hpassed) rfl rfl
  · rw [hrun]
    exact Moved.insert hpassed rfl

theorem advance_moved (world : World) (task : Submission) :
    Moved world task (advance world task) := by
  unfold advance
  split
  next hstage =>
    split
    · exact Moved.unsaved (by rw [hstage]; rfl) rfl rfl
    · exact Moved.unsaved (by rw [hstage]; rfl) rfl rfl
  next lock hstage =>
    split
    · exact Moved.unsaved (by rw [hstage]; rfl) rfl rfl
    · exact Moved.unsaved (by rw [hstage]; rfl) rfl rfl
  next held hstage =>
    split
    · exact Moved.unsaved (by rw [hstage]; rfl) rfl rfl
    next hunused =>
      split
      · split
        · exact Moved.unsaved (by rw [hstage]; rfl) rfl rfl
        · exact Moved.pass hstage (by simpa using hunused) rfl
      · exact Moved.pass hstage (by simpa using hunused) rfl
  next held mode hstage =>
    split
    · exact Moved.unsaved (by rw [hstage]; rfl) rfl rfl
    · exact insertStep_moved (by rw [hstage]; rfl)
  next held hstage => exact insertStep_moved (by rw [hstage]; rfl)
  next hstage =>
    obtain ⟨hsame, _⟩ := replaceOrder_frame world.store
      (withCancelTime task.order (world.store.orders.values.find?
        (fun item => item.clientOrderId = task.order.clientOrderId)))
    refine Moved.quiet hsame.intents (by rw [hstage]; rfl) (fun h => ?_) (by rw [hstage]; simp)
    exact absurd h (by simp [passedCheck])
  next hstage => exact Moved.place hstage
  next hstage =>
    refine Moved.quiet rfl (by rw [hstage]) (fun h => ?_) (by rw [hstage])
    exact absurd h (by simp [passedCheck])
  next failure hstage => exact Moved.unsaved (by rw [hstage]; rfl) rfl rfl

/-! ## The invariant -/

/-- Rows and tasks of an interleaving whose checks are alone. -/
structure SubmitInv (world : World) : Prop where
  rowIds : ∀ i row, world.store.intents.get? i = some row → row.id = i
  taskIds : (world.tasks.map (·.intent.id)).Nodup
  fresh : ∀ task ∈ world.tasks, task.stage.hasSaved = false →
    world.store.intents.get? task.intent.id = none
  stored : ∀ task ∈ world.tasks, task.stage.hasSaved = true →
    world.store.intents.get? task.intent.id = some task.intent
  keys : ∀ i j row row' key, world.store.intents.get? i = some row →
    world.store.intents.get? j = some row' → row.idempotencyKey = some key →
    row'.idempotencyKey = some key → i = j
  window : ∀ task ∈ world.tasks, task.stage.passedCheck = true →
    ∀ key, task.intent.idempotencyKey = some key →
      ∀ i row, world.store.intents.get? i = some row → row.idempotencyKey ≠ some key
  alone : ∀ task ∈ world.tasks, ∀ other ∈ world.tasks, task.stage.passedCheck = true →
    other.stage.passedCheck = true → ∀ key, task.intent.idempotencyKey = some key →
      other.intent.idempotencyKey = some key → task.intent.id = other.intent.id
  venueTasks : ∀ order ∈ world.venue, ∃ task ∈ world.tasks, task.intent = order ∧
    task.stage = .submitted
  venueIds : (world.venue.map (·.id)).Nodup

theorem keyUsed_false {store : MemoryStore} {intent : OrderIntent} {key : String}
    (hkey : intent.idempotencyKey = some key) (h : keyUsed store intent = false) :
    ∀ i row, store.intents.get? i = some row → row.idempotencyKey ≠ some key := by
  intro i row hrow hused
  unfold keyUsed at h
  rw [hkey] at h
  have hnone : store.getIntentByIdempotencyKey key = none := by simpa using h
  unfold getIntentByIdempotencyKey at hnone
  rw [find?_eq_none] at hnone
  exact hnone row (Dict.mem_values_iff.mpr ⟨i, hrow⟩) (by simpa using hused)

/-- A replaced element of a list with distinct keys: the new one, or another key. -/
theorem mem_set_of_nodup {α κ : Type} {f : α → κ} {l : List α} {n : Nat} {old new a : α}
    (hnodup : (l.map f).Nodup) (hold : l[n]? = some old) (ha : a ∈ l.set n new) :
    a = new ∨ (a ∈ l ∧ f a ≠ f old) := by
  obtain ⟨i, hi⟩ := mem_iff_getElem?.mp ha
  rw [getElem?_set] at hi
  split at hi
  next heq =>
    obtain ⟨-, hi⟩ := of_ite_ne_else hi nofun
    exact .inl (Option.some.inj hi).symm
  next hne =>
    refine .inr ⟨mem_iff_getElem?.mpr ⟨i, hi⟩, ?_⟩
    intro hkey
    obtain ⟨hn, _⟩ := List.getElem?_eq_some_iff.mp hold
    have hmap : (l.map f)[n]? = (l.map f)[i]? := by
      rw [getElem?_map, getElem?_map, hold, hi, Option.map_some, Option.map_some, hkey]
    exact hne ((getElem?_inj (by simpa using hn) hnodup).mp hmap)

section

variable {world : World} {index : Nat} {task : Submission} {stage : Stage} {store : MemoryStore}

variable (hinv : SubmitInv world) (hat : world.tasks[index]? = some task)
include hinv hat

theorem SubmitInv.mem_tasks {other : Submission}
    (hother : other ∈ world.tasks.set index { task with stage }) :
    other = { task with stage } ∨ (other ∈ world.tasks ∧ other.intent.id ≠ task.intent.id) :=
  mem_set_of_nodup hinv.taskIds hat hother

theorem SubmitInv.taskIds_set :
    ((world.tasks.set index { task with stage }).map (·.intent.id)).Nodup := by
  obtain ⟨hlt, rfl⟩ := List.getElem?_eq_some_iff.mp hat
  have hsame : (world.tasks.map (·.intent.id)).set index _ = world.tasks.map (·.intent.id) :=
    set_getElem_self (by simpa using hlt)
  rw [getElem_map] at hsame
  rw [map_set, hsame]
  exact hinv.taskIds

/-- A task past its check is another one, while the moved one is not. -/
theorem SubmitInv.mem_passed (hstage : stage.passedCheck = false) {other : Submission}
    (hother : other ∈ world.tasks.set index { task with stage })
    (hpass : other.stage.passedCheck = true) :
    other ∈ world.tasks ∧ other.intent.id ≠ task.intent.id := by
  rcases hinv.mem_tasks hat hother with rfl | hold
  · exact absurd hpass (by simp [hstage])
  · exact hold

theorem SubmitInv.venue_set (hkept : task.stage = .submitted → stage = .submitted) :
    ∀ order ∈ world.venue, ∃ other ∈ world.tasks.set index { task with stage },
      other.intent = order ∧ other.stage = .submitted := by
  intro order horder
  obtain ⟨other, hother, hintent, hstage⟩ := hinv.venueTasks order horder
  obtain ⟨i, hi⟩ := mem_iff_getElem?.mp hother
  by_cases he : index = i
  · subst he
    rw [hat] at hi
    have hsame := Option.some.inj hi
    refine ⟨{ task with stage }, ?_, by rw [← hintent, ← hsame],
      hkept (by rw [hsame]; exact hstage)⟩
    exact mem_iff_getElem?.mpr ⟨index, by
      rw [getElem?_set_self (List.getElem?_eq_some_iff.mp hat).1]⟩
  · exact ⟨other, mem_iff_getElem?.mpr ⟨i, by rw [getElem?_set_ne he]; exact hi⟩, hintent, hstage⟩

omit hat in
theorem SubmitInv.withStore (hintents : store.intents = world.store.intents) :
    SubmitInv { world with store } :=
  ⟨hintents ▸ hinv.rowIds, hinv.taskIds, hintents ▸ hinv.fresh, hintents ▸ hinv.stored,
    hintents ▸ hinv.keys, hintents ▸ hinv.window, hinv.alone, hinv.venueTasks, hinv.venueIds⟩

/-- A task moves on between its check and its insert, or outside them. -/
theorem SubmitInv.restage (hsaved : stage.hasSaved = task.stage.hasSaved)
    (hwindow : stage.passedCheck = true → task.stage.passedCheck = true)
    (hkept : task.stage = .submitted → stage = .submitted) :
    SubmitInv { world with tasks := world.tasks.set index { task with stage } } := by
  have hmem : task ∈ world.tasks := mem_of_getElem? hat
  -- every fact about the moved task is the old task's fact
  have hback : ∀ other ∈ world.tasks.set index { task with stage },
      ∃ old ∈ world.tasks, old.intent = other.intent ∧
        other.stage.hasSaved = old.stage.hasSaved ∧
        (other.stage.passedCheck = true → old.stage.passedCheck = true) := by
    intro other hother
    rcases hinv.mem_tasks hat hother with rfl | ⟨hold, _⟩
    · exact ⟨task, hmem, rfl, hsaved, hwindow⟩
    · exact ⟨other, hold, rfl, rfl, id⟩
  refine ⟨hinv.rowIds, hinv.taskIds_set hat, ?_, ?_, hinv.keys, ?_, ?_, hinv.venue_set hat hkept,
    hinv.venueIds⟩
  · intro other hother hunsaved
    obtain ⟨old, hold, hintent, hsame, _⟩ := hback other hother
    rw [← hintent]
    exact hinv.fresh old hold (hsame ▸ hunsaved)
  · intro other hother hdone
    obtain ⟨old, hold, hintent, hsame, _⟩ := hback other hother
    rw [← hintent]
    exact hinv.stored old hold (hsame ▸ hdone)
  · intro other hother hpassed key hkey
    obtain ⟨old, hold, hintent, _, hpass⟩ := hback other hother
    exact hinv.window old hold (hpass hpassed) key (hintent ▸ hkey)
  · intro first hfirst second hsecond hpassed hpassed' key hkey hkey'
    obtain ⟨old, hold, hintent, _, hpass⟩ := hback first hfirst
    obtain ⟨old', hold', hintent', _, hpass'⟩ := hback second hsecond
    rw [← hintent, ← hintent']
    exact hinv.alone old hold old' hold' (hpass hpassed) (hpass' hpassed') key (hintent ▸ hkey)
      (hintent' ▸ hkey')

theorem SubmitInv.pass {held : Option BaseLock} (hstage : task.stage = .checking held)
    (hunused : keyUsed world.store task.intent = false) (hpassed : stage.passedCheck = true)
    (halone : CheckAlone world (.advance index)) :
    SubmitInv { world with tasks := world.tasks.set index { task with stage } } := by
  have hmem : task ∈ world.tasks := mem_of_getElem? hat
  have hunsaved := passedCheck_unsaved hpassed
  have hothers : ∀ other ∈ world.tasks, other.intent.id ≠ task.intent.id →
      other.stage.passedCheck = true → ∀ key, task.intent.idempotencyKey = some key →
      other.intent.idempotencyKey ≠ some key := by
    intro other hother hne hpass key hkey hkey'
    have hnot := halone index task held key rfl hat hstage hkey other hother hne hkey'
    rw [hpass] at hnot
    cases hnot
  refine ⟨hinv.rowIds, hinv.taskIds_set hat, ?_, ?_, hinv.keys, ?_, ?_,
    hinv.venue_set hat (fun h => by rw [hstage] at h; exact absurd h (by simp)), hinv.venueIds⟩
  · intro other hother hsaved
    rcases hinv.mem_tasks hat hother with rfl | ⟨hold, _⟩
    · exact hinv.fresh task hmem (by rw [hstage]; rfl)
    · exact hinv.fresh other hold hsaved
  · intro other hother hsaved
    rcases hinv.mem_tasks hat hother with rfl | ⟨hold, _⟩
    · have hsaved' : stage.hasSaved = true := hsaved
      rw [hunsaved] at hsaved'
      cases hsaved'
    · exact hinv.stored other hold hsaved
  · intro other hother hpass key hkey
    rcases hinv.mem_tasks hat hother with rfl | ⟨hold, _⟩
    · exact keyUsed_false hkey hunused
    · exact hinv.window other hold hpass key hkey
  · intro first hfirst second hsecond hpass hpass' key hkey hkey'
    rcases hinv.mem_tasks hat hfirst with rfl | ⟨hold, hne⟩
    · rcases hinv.mem_tasks hat hsecond with rfl | ⟨hold', hne'⟩
      · rfl
      · exact absurd hkey' (hothers second hold' hne' hpass' key hkey)
    · rcases hinv.mem_tasks hat hsecond with rfl | ⟨hold', hne'⟩
      · exact absurd hkey (hothers first hold hne hpass key hkey')
      · exact hinv.alone first hold second hold' hpass hpass' key hkey hkey'

theorem SubmitInv.insert (hpassed : task.stage.passedCheck = true)
    (hintents : store.intents = world.store.intents.set task.intent.id task.intent) :
    SubmitInv { world with store, tasks := world.tasks.set index { task with stage := .saved } } := by
  have hmem : task ∈ world.tasks := mem_of_getElem? hat
  have hrow : ∀ i row, store.intents.get? i = some row →
      (i = task.intent.id ∧ row = task.intent) ∨
        (i ≠ task.intent.id ∧ world.store.intents.get? i = some row) :=
    fun _ _ => Dict.get?_set_cases hintents
  have hnew := fun key hkey => hinv.window task hmem hpassed key hkey
  refine ⟨?_, hinv.taskIds_set hat, ?_, ?_, ?_, ?_, ?_, ?_, hinv.venueIds⟩
  · intro i row h
    rcases hrow i row h with ⟨rfl, rfl⟩ | ⟨_, h⟩
    · rfl
    · exact hinv.rowIds i row h
  · intro other hother hsaved
    rcases hinv.mem_tasks hat hother with rfl | ⟨hold, hne⟩
    · exact absurd hsaved (by simp [hasSaved])
    · rw [hintents, Dict.get?_set_ne hne]
      exact hinv.fresh other hold hsaved
  · intro other hother hsaved
    rcases hinv.mem_tasks hat hother with rfl | ⟨hold, hne⟩
    · rw [hintents, Dict.get?_set_self]
    · rw [hintents, Dict.get?_set_ne hne]
      exact hinv.stored other hold hsaved
  · intro i j row row' key hi hj hkey hkey'
    rcases hrow i row hi with ⟨rfl, rfl⟩ | ⟨_, hi⟩
    · rcases hrow j row' hj with ⟨rfl, rfl⟩ | ⟨_, hj⟩
      · rfl
      · exact absurd hkey' (hnew key hkey j row' hj)
    · rcases hrow j row' hj with ⟨rfl, rfl⟩ | ⟨_, hj⟩
      · exact absurd hkey (hnew key hkey' i row hi)
      · exact hinv.keys i j row row' key hi hj hkey hkey'
  · intro other hother hpass key hkey i row h hused
    obtain ⟨hold, hne⟩ := hinv.mem_passed hat rfl hother hpass
    rcases hrow i row h with ⟨rfl, rfl⟩ | ⟨_, h⟩
    · exact hne (hinv.alone other hold task hmem hpass hpassed key hkey hused)
    · exact hinv.window other hold hpass key hkey i row h hused
  · intro first hfirst second hsecond hpass hpass'
    exact hinv.alone first (hinv.mem_passed hat rfl hfirst hpass).1 second
      (hinv.mem_passed hat rfl hsecond hpass').1 hpass hpass'
  · refine hinv.venue_set hat (fun h => ?_)
    rw [h] at hpassed
    exact absurd hpassed (by simp [passedCheck])

/-- The venue call: one order per saved intent. -/
theorem SubmitInv.place (hstage : task.stage = .recorded) :
    SubmitInv { world with
      tasks := world.tasks.set index { task with stage := .submitted }
      venue := world.venue ++ [task.intent] } := by
  have hmem : task ∈ world.tasks := mem_of_getElem? hat
  have hplaced : { task with stage := submitted } ∈
      world.tasks.set index { task with stage := .submitted } :=
    mem_iff_getElem?.mpr ⟨index, getElem?_set_self (List.getElem?_eq_some_iff.mp hat).1⟩
  have hmoved := hinv.restage hat (show submitted.hasSaved = task.stage.hasSaved by rw [hstage]; rfl)
    (by simp [passedCheck]) (fun _ => rfl)
  refine ⟨hmoved.rowIds, hmoved.taskIds, hmoved.fresh, hmoved.stored, hmoved.keys, hmoved.window,
    hmoved.alone, ?_, ?_⟩
  · intro order horder
    rcases mem_append.mp horder with hold | hnew
    · exact hmoved.venueTasks order hold
    · exact ⟨_, hplaced, (mem_singleton.mp hnew).symm, rfl⟩
  · rw [map_append, nodup_append]
    refine ⟨hinv.venueIds, by simp, ?_⟩
    intro id hid id' hid' heq
    obtain ⟨order, horder, rfl⟩ := mem_map.mp hid
    rw [map_singleton, mem_singleton] at hid'
    -- an order already at the venue belongs to another, submitted task
    obtain ⟨other, hother, hintent, hsubmitted⟩ := hinv.venueTasks order horder
    have hsame : other = task := inj_on_of_nodup_map hinv.taskIds hother hmem (by
      rw [hintent, heq, hid'])
    rw [hsame, hstage] at hsubmitted
    cases hsubmitted

end

variable {world : World}

theorem SubmitInv.advance (hinv : SubmitInv world) {index : Nat}
    (halone : CheckAlone world (.advance index)) : SubmitInv (world.apply (.advance index)) := by
  cases hat : world.tasks[index]? with
  | none =>
    simp only [apply, hat]
    exact hinv
  | some task =>
    have hmoved := advance_moved world task
    simp only [apply, hat]
    generalize Execution.advance world task = outcome at hmoved
    cases hmoved with
    | quiet hintents hsaved hwindow hsubmitted =>
      exact (hinv.restage hat hsaved hwindow hsubmitted.mp).withStore hintents
    | pass hstage hunused hpassed => exact hinv.pass hat hstage hunused hpassed halone
    | insert hpassed hintents => exact hinv.insert hat hpassed hintents
    | place hstage => exact hinv.place hat hstage

/-! ## Other clients -/

theorem storeCall_intents (store : MemoryStore) (call : StoreCall)
    (hcall : ∀ fence intent, call ≠ .insertLeasedIntent fence intent) :
    (call.run store).intents = store.intents := by
  have hleft := call.run_leaves store
  generalize call.run store = next at hleft ⊢
  cases hleft with
  | saved _ _ _ _ hsame => exact hsame.intents
  | inserted fence intent => exact absurd rfl (hcall fence intent)
  | restored order => exact (replaceOrder_frame store order).1.intents
  | ordered => exact (replaceOrder_frame store _).1.intents
  | applied call => exact (call.run_frame store).1
  | _ => rfl

variable {task : Submission}

/-- A new submission has neither checked nor saved. -/
theorem SubmitInv.call (hinv : SubmitInv world) (hstage : task.stage = .called)
    (hfresh : ∀ other ∈ world.tasks, other.intent.id ≠ task.intent.id)
    (hnone : world.store.intents.get? task.intent.id = none) :
    SubmitInv { world with tasks := world.tasks ++ [task] } := by
  have hpassed : task.stage.passedCheck = false := by rw [hstage]; rfl
  have hsaved : task.stage.hasSaved = false := by rw [hstage]; rfl
  have hcases : ∀ other ∈ world.tasks ++ [task], other ∈ world.tasks ∨ other = task := by
    intro other hother
    rcases mem_append.mp hother with hold | hnew
    · exact .inl hold
    · exact .inr (mem_singleton.mp hnew)
  refine ⟨hinv.rowIds, ?_, ?_, ?_, hinv.keys, ?_, ?_, ?_, hinv.venueIds⟩
  · rw [map_append, nodup_append]
    refine ⟨hinv.taskIds, by simp, ?_⟩
    intro id hid id' hid' heq
    obtain ⟨other, hother, rfl⟩ := mem_map.mp hid
    rw [map_singleton, mem_singleton] at hid'
    exact hfresh other hother (by rw [heq, hid'])
  · intro other hother hunsaved
    rcases hcases other hother with hold | rfl
    · exact hinv.fresh other hold hunsaved
    · exact hnone
  · intro other hother hdone
    rcases hcases other hother with hold | rfl
    · exact hinv.stored other hold hdone
    · rw [hsaved] at hdone
      cases hdone
  · intro other hother hpass key hkey
    rcases hcases other hother with hold | rfl
    · exact hinv.window other hold hpass key hkey
    · rw [hpassed] at hpass
      cases hpass
  · intro first hfirst second hsecond hpass hpass' key hkey hkey'
    rcases hcases first hfirst with hold | rfl
    · rcases hcases second hsecond with hold' | rfl
      · exact hinv.alone first hold second hold' hpass hpass' key hkey hkey'
      · rw [hpassed] at hpass'
        cases hpass'
    · rw [hpassed] at hpass
      cases hpass
  · intro order horder
    obtain ⟨other, hother, hintent⟩ := hinv.venueTasks order horder
    exact ⟨other, mem_append_left _ hother, hintent⟩

/-! ## Every run whose checks are alone -/

theorem submitInv_initial (h : world.Initial) : SubmitInv world := by
  have hidle (P : Submission → Prop) : ∀ task ∈ world.tasks, P task := by
    rw [h.tasks]
    exact fun _ htask => nomatch htask
  refine ⟨h.rows, ?_, hidle _, hidle _, h.keys, hidle _, hidle _, ?_, ?_⟩
  · rw [h.tasks]
    exact nodup_nil
  · intro order horder
    rw [h.venue] at horder
    cases horder
  · rw [h.venue]
    exact nodup_nil

theorem aloneStep_inv {world next : World} {action : Action} (hinv : SubmitInv world)
    (hstep : aloneStep world action next) : SubmitInv next := by
  obtain ⟨⟨hpromised, rfl⟩, halone⟩ := hstep
  cases action with
  | call => exact hinv.call rfl hpromised.1 hpromised.2
  | advance => exact hinv.advance halone
  | gate =>
    exact ⟨hinv.rowIds, hinv.taskIds, hinv.fresh, hinv.stored, hinv.keys, hinv.window, hinv.alone,
      hinv.venueTasks, hinv.venueIds⟩
  | release => exact hinv.withStore rfl
  | store call =>
    refine hinv.withStore (storeCall_intents world.store call ?_)
    rintro fence intent rfl
    exact hpromised

theorem check_conflict {index : Nat} {held : Option BaseLock}
    (hat : world.tasks[index]? = some task) (hstage : task.stage = .checking held)
    (hused : keyUsed world.store task.intent = true) :
    world.apply (.advance index) = { world with
      tasks := world.tasks.set index { task with stage := .failed keyConflict } } := by
  simp only [apply, hat, Execution.advance, hstage, hused, if_true, Bool.false_eq_true,
    if_false]

/-- In every run in which each key check is alone: at most one row holds a key, at most one
submission under it saves, one that checks a used key fails with the conflict and changes nothing,
and the venue receives at most one order under it. -/
theorem submit_unique {start world : World} {actions : List Action} (hstart : start.Initial)
    (hrun : Run aloneStep start actions world) (key : String) :
    (∀ i j row row', world.store.intents.get? i = some row →
      world.store.intents.get? j = some row' → row.idempotencyKey = some key →
      row'.idempotencyKey = some key → i = j) ∧
    (∀ task ∈ world.tasks, ∀ other ∈ world.tasks, task.stage.hasSaved = true →
      other.stage.hasSaved = true → task.intent.idempotencyKey = some key →
      other.intent.idempotencyKey = some key → task = other) ∧
    (∀ index task held row i, world.tasks[index]? = some task → task.stage = .checking held →
      task.intent.idempotencyKey = some key → world.store.intents.get? i = some row →
      row.idempotencyKey = some key →
      world.apply (.advance index) = { world with
        tasks := world.tasks.set index { task with stage := .failed keyConflict } }) ∧
    (world.venue.filter (fun order => order.idempotencyKey = some key)).length ≤ 1 := by
  have hinv : SubmitInv world :=
    Run.invariant SubmitInv (fun _ _ _ h hstep => aloneStep_inv h hstep) hrun
      (submitInv_initial hstart)
  have hsaved : ∀ task ∈ world.tasks, ∀ other ∈ world.tasks, task.stage.hasSaved = true →
      other.stage.hasSaved = true → task.intent.idempotencyKey = some key →
      other.intent.idempotencyKey = some key → task = other := by
    intro task htask other hother hdone hdone' hkey hkey'
    have hid := hinv.keys _ _ _ _ key (hinv.stored task htask hdone)
      (hinv.stored other hother hdone') hkey hkey'
    exact inj_on_of_nodup_map hinv.taskIds htask hother hid
  refine ⟨fun i j row row' hi hj hkey hkey' => hinv.keys i j row row' key hi hj hkey hkey',
    hsaved, ?_, ?_⟩
  · intro index task held row i hat hstage hkey hrow hused
    apply check_conflict hat hstage
    by_contra hunused
    exact keyUsed_false hkey (by simpa using hunused) i row hrow hused
  · by_contra hmany
    -- two venue orders under the key would be two submitted tasks under it
    have hnodup : ((world.venue.filter (fun order => order.idempotencyKey = some key)).map
        (·.id)).Nodup := hinv.venueIds.sublist (filter_sublist.map _)
    cases hfiltered : world.venue.filter (fun order => order.idempotencyKey = some key) with
    | nil =>
      rw [hfiltered] at hmany
      exact hmany (by simp)
    | cons first rest =>
      cases rest with
      | nil =>
        rw [hfiltered] at hmany
        exact hmany (by simp)
      | cons second rest =>
        rw [hfiltered] at hnodup
        have hmem : ∀ order ∈ first :: second :: rest, order ∈ world.venue ∧
            order.idempotencyKey = some key := by
          intro order horder
          rw [← hfiltered, mem_filter, decide_eq_true_eq] at horder
          exact horder
        obtain ⟨hvenue, hkey⟩ := hmem first (by simp)
        obtain ⟨hvenue', hkey'⟩ := hmem second (by simp)
        obtain ⟨task, htask, hintent, hstage⟩ := hinv.venueTasks first hvenue
        obtain ⟨other, hother, hintent', hstage'⟩ := hinv.venueTasks second hvenue'
        have hsame := hsaved task htask other hother (by rw [hstage]; rfl) (by rw [hstage']; rfl)
          (by rw [hintent]; exact hkey) (by rw [hintent']; exact hkey')
        have hids : first.id = second.id := by rw [← hintent, ← hintent', hsame]
        simp [hids] at hnodup

/-! ## The race -/

/-- An entry intent of the sample book under the key `"k"`. -/
def sampleIntent (id : Uuid) : OrderIntent :=
  { id
    deploymentId := 1
    clientOrderId := "entry"
    purpose := .entry
    side := .buy
    kind := .postOnlyLimit
    quantity := 1
    createdAt := 0
    candleStartsAt := 0
    idempotencyKey := some "k" }

/-- The sample book behind a bound, uninhibited entry gate. -/
def sampleWorld : World :=
  { store := MemoryStore.empty.createDeployment sampleDeployment
    gate := some (fun _ => false)
    tasks := []
    venue := [] }

theorem sampleWorld_initial : sampleWorld.Initial := by
  refine ⟨rfl, rfl, ?_, ?_⟩
  · intro i row h
    exact absurd h (by simp [sampleWorld, createDeployment, putDeployment, MemoryStore.empty])
  · intro i j row row' key h
    exact absurd h (by simp [sampleWorld, createDeployment, putDeployment, MemoryStore.empty])

/-- Two submissions under one key, both suspended at the gate, then both resumed. -/
def raceActions : List Action :=
  [.call (sampleIntent 20) none 30 false, .call (sampleIntent 21) none 31 false,
    .advance 0, .advance 0, .advance 1, .advance 1, .advance 0, .advance 1,
    .advance 0, .advance 0, .advance 1, .advance 1]

def promised (world : World) : Action → Bool
  | .call intent _ _ _ => world.tasks.all (fun task => task.intent.id ≠ intent.id) &&
      (world.store.intents.get? intent.id).isNone
  | .store _ => false
  | _ => true

theorem submitStep_of_promised (world : World) (action : Action)
    (h : promised world action = true) : submitStep world action (world.apply action) := by
  refine ⟨?_, rfl⟩
  cases action with
  | call => simpa [promised, Action.Promised] using h
  | store => cases h
  | _ => trivial

def alone (world : World) (action : Action) : Bool :=
  promised world action && match action with
    | .advance index => (world.tasks[index]?).all (fun task => match task.stage with
      | .checking _ => world.tasks.all (fun other => other.intent.id = task.intent.id ||
          other.intent.idempotencyKey ≠ task.intent.idempotencyKey || !other.stage.passedCheck)
      | _ => true)
    | _ => true

theorem aloneStep_of_alone (world : World) (action : Action) (h : alone world action = true) :
    aloneStep world action (world.apply action) := by
  obtain ⟨hpromised, halone⟩ := (Bool.and_eq_true _ _).mp h
  refine ⟨submitStep_of_promised world action hpromised, ?_⟩
  intro index task held key haction hat hstage hkey other hother hne hsame
  subst haction
  simp only [hat, hstage, Option.all_some, all_eq_true] at halone
  simpa [hne, hkey, hsame] using halone other hother

/-- A reachable world holds two rows and two venue orders under one key. -/
theorem race_two_orders :
    sampleWorld.Initial ∧
    Run submitStep sampleWorld raceActions (raceActions.foldl apply sampleWorld) ∧
    ((raceActions.foldl apply sampleWorld).store.intents.values.filter
      (fun row => row.idempotencyKey = some "k")).length = 2 ∧
    ((raceActions.foldl apply sampleWorld).venue.filter
      (fun order => order.idempotencyKey = some "k")).length = 2 := by
  exact ⟨sampleWorld_initial, .of_along submitStep_of_promised
    (show Along promised _ _ raceActions = true by decide +kernel), by decide +kernel,
    by decide +kernel⟩

/-- One submission, then a second one under the same key after the first was sent. -/
def retryActions : List Action :=
  [.call (sampleIntent 20) none 30 false, .advance 0, .advance 0, .advance 0, .advance 0,
    .advance 0, .call (sampleIntent 21) none 31 false, .advance 1]

/-- The retry meets the condition, and its own check fails with the conflict. -/
theorem submit_unique_retry :
    Run aloneStep sampleWorld retryActions (retryActions.foldl apply sampleWorld) ∧
    ((retryActions.foldl apply sampleWorld).venue.filter
      (fun order => order.idempotencyKey = some "k")).length ≤ 1 ∧
    (((retryActions.foldl apply sampleWorld).apply (.advance 1)).tasks.map (·.stage)) =
      [.submitted, .failed keyConflict] := by
  have hrun : Run aloneStep sampleWorld retryActions (retryActions.foldl apply sampleWorld) :=
    .of_along aloneStep_of_alone (show Along alone _ _ retryActions = true by decide +kernel)
  obtain ⟨_, _, -, hvenue⟩ := submit_unique sampleWorld_initial hrun "k"
  refine ⟨hrun, hvenue, ?_⟩
  rfl

end Thytrader.Execution

import Thytrader.Replay.BrokerTape

/-!
# Recorded tapes replay

The recorder is transparent: its calls reach the delegate once, in order, and answer what
the delegate answers. A scripted broker over a tape with one event for each call follows
those calls to the end and refuses any other sequence where it first differs.

A quote or a match that raises leaves no event, unlike an asynchronous call: the tape is
then one event short and every later call is refused. So a run replays exactly when none of
its quotes and matches raised (`replaysExactly_iff`).
-/

namespace Thytrader.Replay

open MarketData Trading List ScriptedBroker

variable {event : BrokerEvent} {events : List BrokerEvent}

/-! ## Calls and their requests -/

theorem delegateCall_request (call : BrokerCall) :
    delegateCall call.operation call.request = .ok call := by
  cases call <;> rfl

variable {other : BrokerCall}

theorem request_inj {call : BrokerCall} (hoperation : call.operation = other.operation)
    (hrequest : call.request = other.request) : call = other := by
  have h := delegateCall_request call
  rw [hoperation, hrequest, delegateCall_request] at h
  exact (Except.ok.inj h).symm

section

variable (times : CallTimes) (call : BrokerCall) (answer : call.Answer)

theorem readAnswer_answerEvent : readAnswer (answerEvent times call answer) call = .ok answer := by
  cases call <;> rfl

end

/-- A recorded failure is raised again with its category. -/
theorem readAnswer_error {category : ErrorCategory} (h : event.error = some category)
    (call : BrokerCall) : ∃ message, readAnswer event call = .error ⟨category, message⟩ := by
  have hraise : ∃ message, raiseRecordedError event = .error ⟨category, message⟩ := by
    cases category <;> exact ⟨_, by rw [raiseRecordedError, h]⟩
  obtain ⟨message, hraise⟩ := hraise
  refine ⟨message, ?_⟩
  cases call <;> simp only [readAnswer, requireResult, hraise] <;> rfl

/-! ## Recording -/

section

variable {σ : Type} {delegate : Delegate σ}

def tapeEvent (times : CallTimes) (call : BrokerCall) : call.Outcome → Option BrokerEvent
  | .ok answer => some (answerEvent times call answer)
  | .error failure =>
    if call.isSynchronous then none
    else some { operation := call.operation, request := call.request, times := times,
                error := some failure.category }

variable (broker : RecordingBroker σ)

theorem ask_eq (call : BrokerCall) (times : CallTimes) :
    (broker.ask delegate call times).2 = (delegate broker.delegate call).2 ∧
      (broker.ask delegate call times).1 =
        match tapeEvent times call (delegate broker.delegate call).2 with
        | none => { broker with delegate := (delegate broker.delegate call).1 }
        | some event =>
          RecordingBroker.keep { broker with delegate := (delegate broker.delegate call).1 } event := by
  unfold RecordingBroker.ask
  rw [delegateCall_request]
  simp only [RecordingBroker.synchronous, RecordingBroker.record]
  cases hanswer : delegate broker.delegate call with
  | mk _ outcome =>
    cases hkind : call.isSynchronous with
    | true | false =>
      cases outcome with
      | error => simp [tapeEvent, hkind, Except.bind]
      | ok => simp [tapeEvent, Except.bind, readAnswer_answerEvent]

def tapeOf (delegate : Delegate σ) : σ → List (BrokerCall × CallTimes) → List BrokerEvent
  | _, [] => []
  | state, (call, times) :: calls =>
    (tapeEvent times call (delegate state call).2).toList ++
      tapeOf delegate (delegate state call).1 calls

theorem length_tapeOf_le (delegate : Delegate σ) (state : σ) (calls : List (BrokerCall × CallTimes)) :
    (tapeOf delegate state calls).length ≤ calls.length := by
  induction calls generalizing state with
  | nil => rfl
  | cons first _ ih =>
    obtain ⟨call, times⟩ := first
    have hrest := ih (delegate state call).1
    have hone : (tapeEvent times call (delegate state call).2).toList.length ≤ 1 := by
      cases tapeEvent times call (delegate state call).2 <;> simp
    rw [tapeOf, length_append, length_cons]
    omega

theorem ask_delegate (call : BrokerCall) (times : CallTimes) :
    (broker.ask delegate call times).1.delegate = (delegate broker.delegate call).1 := by
  rw [(ask_eq broker call times).2]
  cases tapeEvent times call (delegate broker.delegate call).2 with
  | none => rfl
  | some =>
    simp only [RecordingBroker.keep]
    split <;> rfl

variable (broker : RecordingBroker σ) (calls : List (BrokerCall × CallTimes))

theorem runRecording_transparent :
    (runRecording delegate broker calls).2 =
        (runDelegate delegate broker.delegate (calls.map Prod.fst)).2 ∧
      (runRecording delegate broker calls).1.delegate =
        (runDelegate delegate broker.delegate (calls.map Prod.fst)).1 := by
  induction calls generalizing broker with
  | nil => exact ⟨rfl, rfl⟩
  | cons first _ ih =>
    obtain ⟨call, times⟩ := first
    obtain ⟨houtcomes, hstate⟩ := ih (broker.ask delegate call times).1
    rw [ask_delegate] at houtcomes hstate
    simp only [runRecording, map_cons, runDelegate]
    rw [houtcomes, hstate, (ask_eq broker call times).1]
    exact ⟨rfl, rfl⟩

/-- Within its budget the recorder keeps the whole tape. -/
theorem runRecording_events (hbudget : broker.events.length + calls.length ≤ maxBrokerEvents) :
    (runRecording delegate broker calls).1.events =
      broker.events ++ tapeOf delegate broker.delegate calls := by
  induction calls generalizing broker with
  | nil => exact (append_nil _).symm
  | cons first _ ih =>
    obtain ⟨call, times⟩ := first
    rw [length_cons] at hbudget
    have hkept : (broker.ask delegate call times).1.events = broker.events ++
        (tapeEvent times call (delegate broker.delegate call).2).toList := by
      rw [(ask_eq broker call times).2]
      cases tapeEvent times call (delegate broker.delegate call).2 with
      | none => exact (append_nil _).symm
      | some =>
        simp only [RecordingBroker.keep]
        rw [if_neg (by omega)]
        rfl
    have hlength : (broker.ask delegate call times).1.events.length ≤ broker.events.length + 1 := by
      rw [hkept, length_append]
      cases tapeEvent times call (delegate broker.delegate call).2 <;> simp
    have hrest := ih (broker.ask delegate call times).1 (by omega)
    rw [ask_delegate] at hrest
    rw [runRecording, tapeOf]
    rw [hrest, hkept, append_assoc]

end

/-! ## Scripts -/

/-- The events of a script expect exactly these calls, in this order. -/
def Expects (events : List BrokerEvent) (calls : List BrokerCall) : Prop :=
  List.Forall₂ (fun event (call : BrokerCall) =>
    event.operation = call.operation ∧ event.request = call.request) events calls

section

variable (script : ScriptedBroker) {call : BrokerCall}

theorem take_match (hevent : script.events[script.index]? = some event)
    (hoperation : event.operation = call.operation) (hrequest : event.request = call.request) :
    script.take call.operation call.request =
      ({ script with index := script.index + 1 }, .ok event) := by
  rw [ScriptedBroker.take, hevent]
  simp only
  rw [if_neg (by simp [hoperation, hrequest])]

/-- A refusal of `take`: the tape is at its end, or its next event is another call's. -/
def Refused (call : BrokerCall) (outcome : call.Outcome) : Prop :=
  outcome = valueError "broker request exceeds recorded input sequence" ∨
    outcome = valueError "broker request or cause order differs from recorded input"

theorem ask_refused (script : ScriptedBroker) {call : BrokerCall}
    (h : ∀ event, script.events[script.index]? = some event →
      ¬ (event.operation = call.operation ∧ event.request = call.request)) :
    (script.ask call).1 = { script with failed := true } ∧ Refused call (script.ask call).2 := by
  unfold ScriptedBroker.ask ScriptedBroker.take
  cases hevent : script.events[script.index]? with
  | none => exact ⟨rfl, .inl rfl⟩
  | some event =>
    have hother : event.operation ≠ call.operation ∨ event.request ≠ call.request :=
      not_and_or.mp (h event hevent)
    simp only [if_pos hother, true_and]
    exact .inr rfl

theorem ask_script (call : BrokerCall) : (script.ask call).1.events = script.events ∧
      ((script.ask call).1.index = script.index + 1 ∧ (script.ask call).1.failed = script.failed ∨
        (script.ask call).1.index = script.index ∧ (script.ask call).1.failed = true) := by
  unfold ScriptedBroker.ask ScriptedBroker.take
  cases script.events[script.index]? with
  | none => exact ⟨rfl, .inr ⟨rfl, rfl⟩⟩
  | some =>
    simp only
    split
    · exact ⟨rfl, .inr ⟨rfl, rfl⟩⟩
    · exact ⟨rfl, .inl ⟨rfl, rfl⟩⟩

variable (calls : List BrokerCall)

theorem runScript_index :
    (runScript script calls).1.events = script.events ∧
      ((runScript script calls).1.failed = true ∨ (runScript script calls).1.failed = script.failed ∧
        (runScript script calls).1.index = script.index + calls.length) := by
  induction calls generalizing script with
  | nil => exact ⟨rfl, .inr ⟨rfl, rfl⟩⟩
  | cons call _ ih =>
    obtain ⟨hevents, hone⟩ := ask_script script call
    obtain ⟨hrest, hlast⟩ := ih (script.ask call).1
    simp only [runScript, length_cons]
    refine ⟨hrest.trans hevents, ?_⟩
    rcases hlast with hfailed | ⟨hkept, hindex⟩
    · exact .inl hfailed
    · rcases hone with ⟨hnext, hsame⟩ | ⟨-, hfailed⟩
      · exact .inr ⟨hkept.trans hsame, by rw [hindex, hnext]; omega⟩
      · exact .inl (hkept.trans hfailed)

variable {calls : List BrokerCall}

theorem length_of_complete (h : (runScript ⟨events, 0, false⟩ calls).1.complete) :
    calls.length = events.length := by
  obtain ⟨hevents, hlast⟩ := runScript_index ⟨events, 0, false⟩ calls
  simp only [complete, decide_eq_true_eq] at h
  rcases hlast with hfailed | ⟨-, hindex⟩
  · exact absurd hfailed h.1
  · have hend := h.2
    rw [hevents, hindex] at hend
    simpa using hend

def readEvent (event : BrokerEvent) (call : BrokerCall) : Answered := ⟨call, readAnswer event call⟩

theorem runScript_expected (done : List BrokerEvent) {rest : List BrokerEvent}
    (beyond : List BrokerEvent) (h : Expects rest calls) :
    (runScript ⟨done ++ (rest ++ beyond), done.length, false⟩ calls).1 =
        ⟨done ++ (rest ++ beyond), done.length + calls.length, false⟩ ∧
      (runScript ⟨done ++ (rest ++ beyond), done.length, false⟩ calls).2 =
        List.zipWith readEvent rest calls := by
  induction h generalizing done with
  | nil => exact ⟨rfl, rfl⟩
  | @cons event call rest calls hmatch _ ih =>
    obtain ⟨hoperation, hrequest⟩ := hmatch
    have hevent : (done ++ (event :: rest ++ beyond))[done.length]? = some event := by simp
    have htake := take_match ⟨done ++ (event :: rest ++ beyond), done.length, false⟩
      hevent hoperation hrequest
    have hnext := ih (done ++ [event])
    rw [← append_cons, length_append, length_singleton] at hnext
    simp only [runScript, ask, htake, length_cons]
    rw [cons_append, hnext.1, hnext.2]
    refine ⟨?_, rfl⟩
    congr 1
    omega

theorem runScript_append (first second : List BrokerCall) :
    (runScript script (first ++ second)).1 = (runScript (runScript script first).1 second).1 ∧
      (runScript script (first ++ second)).2 =
        (runScript script first).2 ++ (runScript (runScript script first).1 second).2 := by
  induction first generalizing script with
  | nil => exact ⟨rfl, rfl⟩
  | cons call _ ih =>
    obtain ⟨hstate, houtcomes⟩ := ih (script.ask call).1
    simp only [cons_append, runScript]
    rw [hstate, houtcomes]
    exact ⟨rfl, rfl⟩

theorem length_runScript :
    (runScript script calls).2.length = calls.length := by
  induction calls generalizing script with
  | nil => rfl
  | cons _ _ ih => simp only [runScript, length_cons, ih]

theorem Expects.split {first second : List BrokerCall} (h : Expects events (first ++ second)) :
    ∃ head tail, events = head ++ tail ∧ Expects head first ∧ Expects tail second := by
  induction first generalizing events with
  | nil => exact ⟨[], events, rfl, .nil, h⟩
  | cons _ _ ih =>
    cases h with
    | cons hmatch hrest =>
      obtain ⟨head, tail, rfl, hhead, htail⟩ := ih hrest
      exact ⟨_ :: head, tail, rfl, .cons hmatch hhead, htail⟩

theorem runScript_refuses {common : List BrokerCall} {rest : List BrokerCall}
    (h : Expects events calls) (hcommon : common <+: calls)
    (hother : ¬ common ++ [other] <+: calls) :
    (runScript ⟨events, 0, false⟩ (common ++ other :: rest)).1.complete = false ∧
      ∃ outcome, (runScript ⟨events, 0, false⟩ (common ++ other :: rest)).2[common.length]? =
        some ⟨other, outcome⟩ ∧ Refused other outcome := by
  obtain ⟨later, rfl⟩ := hcommon
  obtain ⟨head, tail, rfl, hhead, htail⟩ := h.split
  have hlength := hhead.length_eq
  have hrun := (runScript_expected [] tail hhead).1
  simp only [nil_append, length_nil, Nat.zero_add] at hrun
  -- the next event is of the call that follows in the tape, or there is none
  have hnext : ∀ event, (head ++ tail)[common.length]? = some event →
      ¬ (event.operation = other.operation ∧ event.request = other.request) := by
    intro event hevent hsame
    rw [← hlength, getElem?_append_right le_rfl, Nat.sub_self] at hevent
    cases htail with
    | nil => cases hevent
    | @cons first call tail later hmatch _ =>
      obtain rfl : first = event := by simpa using hevent
      have hcall : call = other :=
        request_inj (hmatch.1.symm.trans hsame.1) (hmatch.2.symm.trans hsame.2)
      exact hother ⟨later, by rw [hcall, append_assoc, singleton_append]⟩
  obtain ⟨hstate, houtcome⟩ := ask_refused ⟨head ++ tail, common.length, false⟩ hnext
  obtain ⟨hlast, houtcomes⟩ := runScript_append ⟨head ++ tail, 0, false⟩ common (other :: rest)
  rw [hrun] at hlast houtcomes
  simp only [runScript] at hlast houtcomes
  constructor
  · rw [hlast, hstate]
    obtain ⟨-, hfailed | ⟨hfailed, -⟩⟩ := runScript_index ⟨head ++ tail, common.length, true⟩ rest
    · simp [complete, hfailed]
    · simp [complete, hfailed]
  · refine ⟨_, ?_, houtcome⟩
    rw [houtcomes, getElem?_append_right (by rw [length_runScript]), length_runScript, Nat.sub_self]
    rfl

/-- Two different lists of calls part at a first call, or one is a proper prefix. -/
theorem differ_or_shorter {others : List BrokerCall} (h : others ≠ calls) :
    (∃ common other rest, others = common ++ other :: rest ∧ common <+: calls ∧
      ¬ common ++ [other] <+: calls) ∨ others.length < calls.length := by
  induction others generalizing calls with
  | nil =>
    right
    cases calls with
    | nil => exact absurd rfl h
    | cons => simp
  | cons other others ih =>
    cases calls with
    | nil => exact .inl ⟨[], other, others, rfl, nil_prefix, by simp⟩
    | cons call =>
      by_cases hsame : other = call
      · subst hsame
        rcases ih (fun heq => h (by rw [heq])) with ⟨common, next, rest, rfl, hcommon, hpart⟩ | hlt
        · left
          refine ⟨other :: common, next, rest, rfl, ?_, ?_⟩
          · exact cons_prefix_cons.mpr ⟨rfl, hcommon⟩
          · intro hlonger
            exact hpart (cons_prefix_cons.mp hlonger).2
        · right
          simp only [length_cons]
          omega
      · refine .inl ⟨[], other, others, rfl, nil_prefix, ?_⟩
        intro hlonger
        exact hsame (cons_prefix_cons.mp hlonger).1

end

/-! ## Replays -/

inductive SameAnswer : Answered → Answered → Prop
  | value (call : BrokerCall) (answer : call.Answer) :
      SameAnswer ⟨call, .ok answer⟩ ⟨call, .ok answer⟩
  | failure (call : BrokerCall) (first second : BrokerFailure) (h : first.category = second.category) :
      SameAnswer ⟨call, .error first⟩ ⟨call, .error second⟩

/-- A tape replays a run of calls: observing changed nothing, the scripted broker answers the
same calls alike and ends complete, and it neither follows nor completes any other calls. -/
structure ReplaysExactly {σ : Type} (delegate : Delegate σ) (state : σ)
    (calls : List (BrokerCall × CallTimes)) : Prop where
  observed : (runRecording delegate { delegate := state } calls).2 =
    (runDelegate delegate state (calls.map Prod.fst)).2
  delegated : (runRecording delegate { delegate := state } calls).1.delegate =
    (runDelegate delegate state (calls.map Prod.fst)).1
  answers : List.Forall₂ SameAnswer (runDelegate delegate state (calls.map Prod.fst)).2
    (runScript ⟨(runRecording delegate { delegate := state } calls).1.events, 0, false⟩
      (calls.map Prod.fst)).2
  complete : (runScript ⟨(runRecording delegate { delegate := state } calls).1.events, 0, false⟩
    (calls.map Prod.fst)).1.complete = true
  strict : ∀ others ≠ calls.map Prod.fst,
    (runScript ⟨(runRecording delegate { delegate := state } calls).1.events, 0, false⟩
      others).1.complete = false ∧
    ∀ common other rest, others = common ++ other :: rest → common <+: calls.map Prod.fst →
      ¬ common ++ [other] <+: calls.map Prod.fst → ∃ outcome,
        (runScript ⟨(runRecording delegate { delegate := state } calls).1.events, 0, false⟩
          others).2[common.length]? = some ⟨other, outcome⟩ ∧ Refused other outcome

/-- No quote and no match of the run raised. -/
def NoSynchronousFailure {σ : Type} (delegate : Delegate σ) (state : σ) (calls : List BrokerCall) :
    Prop :=
  ∀ answered ∈ (runDelegate delegate state calls).2, answered.1.isSynchronous = true →
    ∃ answer, answered.2 = .ok answer

section

variable {σ : Type} {delegate : Delegate σ} {call : BrokerCall} {outcome : call.Outcome}

theorem tapeEvent_eq_some {times : CallTimes} (h : tapeEvent times call outcome = some event) :
    event.operation = call.operation ∧ event.request = call.request ∧
      SameAnswer ⟨call, outcome⟩ (readEvent event call) := by
  cases outcome with
  | ok answer =>
    cases h
    rw [readEvent, readAnswer_answerEvent]
    exact ⟨by cases call <;> rfl, by cases call <;> rfl, .value call answer⟩
  | error failure =>
    obtain ⟨-, h⟩ := of_ite_ne h nofun
    have herror : event.error = some failure.category := by rw [← Option.some.inj h]
    obtain ⟨message, hread⟩ := readAnswer_error herror call
    rw [readEvent, hread, ← Option.some.inj h]
    exact ⟨rfl, rfl, .failure call _ _ rfl⟩

theorem tapeEvent_ne_none (times : CallTimes)
    (h : call.isSynchronous = true → ∃ answer, outcome = .ok answer) :
    ∃ event, tapeEvent times call outcome = some event := by
  cases outcome with
  | ok => exact ⟨_, rfl⟩
  | error =>
    cases hkind : call.isSynchronous with
    | true =>
      obtain ⟨answer, hanswer⟩ := h hkind
      cases hanswer
    | false => exact ⟨_, by simp only [tapeEvent, hkind]; rfl⟩

section

variable (state : σ) (calls : List (BrokerCall × CallTimes))

theorem tapeOf_expects (h : NoSynchronousFailure delegate state (calls.map Prod.fst)) :
    Expects (tapeOf delegate state calls) (calls.map Prod.fst) ∧
      List.Forall₂ SameAnswer (runDelegate delegate state (calls.map Prod.fst)).2
        (List.zipWith readEvent (tapeOf delegate state calls) (calls.map Prod.fst)) := by
  induction calls generalizing state with
  | nil => exact ⟨.nil, .nil⟩
  | cons first _ ih =>
    obtain ⟨call, times⟩ := first
    obtain ⟨event, hevent⟩ := tapeEvent_ne_none times (h ⟨call, _⟩ (.head _))
    obtain ⟨hoperation, hrequest, hsame⟩ := tapeEvent_eq_some hevent
    obtain ⟨hrest, hanswers⟩ := ih _ (fun answered hmem => h answered (.tail _ hmem))
    rw [tapeOf, hevent]
    exact ⟨.cons ⟨hoperation, hrequest⟩ hrest, .cons hsame hanswers⟩

/-- A tape with an event for every call is one of a run whose quotes and matches answered. -/
theorem noSynchronousFailure_of_length (h : (tapeOf delegate state calls).length = calls.length) :
    NoSynchronousFailure delegate state (calls.map Prod.fst) := by
  induction calls generalizing state with
  | nil => exact fun answered hmem => absurd hmem (by simp [runDelegate])
  | cons first calls ih =>
    obtain ⟨call, times⟩ := first
    rw [tapeOf, length_append, length_cons] at h
    have hrest := length_tapeOf_le delegate (delegate state call).1 calls
    cases hevent : tapeEvent times call (delegate state call).2 with
    | none =>
      rw [hevent] at h
      simp only [Option.toList_none, length_nil] at h
      omega
    | some =>
      rw [hevent] at h
      simp only [Option.toList_some, length_singleton] at h
      intro answered hmem
      simp only [map_cons, runDelegate, mem_cons] at hmem
      rcases hmem with rfl | hmem
      · intro hkind
        cases houtcome : (delegate state call).2 with
        | ok answer => exact ⟨answer, rfl⟩
        | error =>
          simp [houtcome, tapeEvent, hkind] at hevent
      · exact ih _ (by omega) answered hmem

end

/-- Within its budget a run replays exactly from its tape when, and only when, none of its
quotes and matches raised: a failure of these is not recorded, and the tape is then short. -/
theorem replaysExactly_iff (delegate : Delegate σ) (state : σ)
    (calls : List (BrokerCall × CallTimes)) (hbudget : calls.length ≤ maxBrokerEvents) :
    ReplaysExactly delegate state calls ↔
      NoSynchronousFailure delegate state (calls.map Prod.fst) := by
  have hevents : (runRecording delegate { delegate := state } calls).1.events =
      tapeOf delegate state calls := by
    rw [runRecording_events _ _ (by simpa using hbudget)]
    rfl
  obtain ⟨hobserved, hdelegated⟩ := @runRecording_transparent σ delegate { delegate := state } calls
  constructor
  · intro h
    refine noSynchronousFailure_of_length state calls ?_
    have hcomplete := length_of_complete h.complete
    rw [hevents, length_map] at hcomplete
    exact hcomplete.symm
  · intro h
    obtain ⟨hexpects, hanswers⟩ := tapeOf_expects state calls h
    obtain ⟨hlast, hread⟩ := runScript_expected [] [] hexpects
    simp only [append_nil, nil_append, length_nil, Nat.zero_add] at hlast hread
    have hlength : (tapeOf delegate state calls).length = (calls.map Prod.fst).length :=
      hexpects.length_eq
    refine ⟨hobserved, hdelegated, ?_, ?_, ?_⟩
    · rwa [hevents, hread]
    · rw [hevents, hlast]
      simp [complete, hlength]
    · rw [hevents]
      intro others hothers
      constructor
      · rcases differ_or_shorter hothers with ⟨common, other, rest, rfl, hcommon, hpart⟩ | hshort
        · exact (runScript_refuses hexpects hcommon hpart).1
        · rw [Bool.eq_false_iff]
          intro hcomplete
          have hsame := length_of_complete hcomplete
          omega
      · intro common other rest hsplit hcommon hpart
        rw [hsplit]
        exact (runScript_refuses hexpects hcommon hpart).2

end

/-! A venue without a quote: the maker price raises, and the tape keeps only the read of the
order that follows it. -/

def openOrder : SubmitResult := { status := .open, venueOrderId := "venue-1" }

def quotelessVenue : Delegate Unit
  | _, .place .. => ((), .ok openOrder)
  | _, .cancel .. => ((), .ok openOrder)
  | _, .get .. => ((), .ok openOrder)
  | _, .fills .. => ((), .ok [])
  | _, .lookup .. => ((), .ok none)
  | _, .match_ .. => ((), .ok none)
  | _, .maker .. => ((), .error ⟨.brokerError, "Coinbase best ask is unavailable."⟩)

def orderRead : BrokerCall × CallTimes := (.get "venue-1" "client-1", ⟨0, 1⟩)

/-- The calls of a cycle that asks for no quote. -/
def quotelessCycle : List (BrokerCall × CallTimes) :=
  [orderRead, (.fills "BTC-USD" "venue-1", ⟨2, 3⟩), (.cancel "venue-1" "client-1", ⟨4, 5⟩)]

theorem quotelessVenue_replays : ReplaysExactly quotelessVenue () quotelessCycle := by
  refine (replaysExactly_iff quotelessVenue () quotelessCycle (by decide)).mpr ?_
  intro answered hmem hkind
  simp only [quotelessCycle, orderRead, map_cons, map_nil, runDelegate, quotelessVenue, mem_cons,
    not_mem_nil, or_false] at hmem
  rcases hmem with rfl | rfl | rfl
  · exact ⟨_, rfl⟩
  · exact ⟨_, rfl⟩
  · exact ⟨_, rfl⟩

theorem quotelessVenue_differs :
    ¬ ∀ (σ : Type) (delegate : Delegate σ) (state : σ) (calls : List (BrokerCall × CallTimes)),
      calls.length ≤ maxBrokerEvents → ReplaysExactly delegate state calls := by
  intro h
  have hreplay := (h Unit quotelessVenue () [(.maker "BTC-USD" 100 .buy, ⟨0, 1⟩), orderRead]
    (by decide)).complete
  revert hreplay
  decide +kernel

end Thytrader.Replay

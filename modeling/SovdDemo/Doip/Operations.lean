import SovdDemo.Doip.Sending
import SovdDemo.Foundations.CallLog

/-!
# What a step is made of

Outside an activation and an alive check, a step of the handler does a little of its own first
(`Event.prepared`), and then exchanges calls with the connection and the message handlers, sends at
most one message and closes at most once. A relation between a handler and what becomes of it that
admits those operations admits the rest of every such step, so that a statement about runs needs
only to look at the beginnings of the steps.

## Main definitions

- `Admits` — a relation that admits the exchange of calls, a message and a closing
- `Event.prepared` — the handler once a step has done what is its own
- `Activates` — the steps that take an activation further
- `checking` — the handler once an alive check has been sent

## Main results

- `Admits.step` — what such a relation admits of a step
- `startAliveCheck_cases` — what starting an alive check does
-/

namespace SovdDemo.Doip

open Foundations DoIpServerConnectionHandler

/-- What holds before a message, after a closing if it held before, and once the message has been
sent, holds after the message in all cases. -/
theorem DoIpServerConnectionHandler.sendAllocated_of_sent (h : DoIpServerConnectionHandler)
    {P : DoIpServerConnectionHandler → Prop} (hsame : P h) (hclose : ∀ {g}, P g → P (close g))
    {payloadType : PayloadType} {payload : List UInt8} {closeAfterSend : Bool}
    {outcome : SendOutcome}
    (hsent : ∀ slot free, h.state ≠ .shutdown → h.sendJobPool = slot :: free →
      P (h.sent slot free payloadType payload closeAfterSend outcome)) :
    P (h.sendAllocated payloadType payload closeAfterSend outcome) := by
  obtain ⟨-, heq⟩ | ⟨-, -, heq⟩ | ⟨hs, slot, free, hp, heq | ⟨-, heq⟩⟩ :=
    h.sendAllocated_cases payloadType payload closeAfterSend outcome
  · rwa [heq]
  · rw [heq]
    exact hclose hsame
  · rw [heq]
    exact hsent slot free hs hp
  · rw [heq]
    exact hclose (hsent slot free hs hp)

/-- The calls about the message at hand: what to do with it, and who takes it. -/
def Call.isExchange : Call → Bool
  | .connectionSetCloseModeAbort | .connectionReceivePayload _ _ _ | .connectionEndReceiveMessage
  | .messageHandlerHeaderReceived _ _ _ | .ownerCheckRoutingActivation _ _ _ _ => true
  | _ => false

/-- What holds of the five kinds of calls of an exchange holds of all of them. -/
theorem Call.forall_of_isExchange {P : Call → Prop} (habort : P .connectionSetCloseModeAbort)
    (hreceive : ∀ callback length accepted,
      P (.connectionReceivePayload callback length accepted))
    (hend : P .connectionEndReceiveMessage)
    (hoffer : ∀ i header accepted, P (.messageHandlerHeaderReceived i header accepted))
    (hcheck : ∀ address type oem isResuming,
      P (.ownerCheckRoutingActivation address type oem isResuming))
    {cs : List Call} (hcs : ∀ c ∈ cs, c.isExchange = true) : ∀ c ∈ cs, P c := by
  intro c hc
  have hex := hcs c hc
  cases c with
  | connectionSetCloseModeAbort => exact habort
  | connectionReceivePayload callback length accepted => exact hreceive callback length accepted
  | connectionEndReceiveMessage => exact hend
  | messageHandlerHeaderReceived i header accepted => exact hoffer i header accepted
  | ownerCheckRoutingActivation address type oem isResuming =>
    exact hcheck address type oem isResuming
  | _ => cases hex

/-- The relation `R` between a handler and what becomes of it admits an exchange of calls before and
after, the use of payload requests, a message and a closing. -/
structure Admits (R : DoIpServerConnectionHandler → DoIpServerConnectionHandler → Prop) :
    Prop where
  refl (h) : R h h
  after_log {h g cs} (hcs : ∀ c ∈ cs, Call.isExchange c = true) (hg : R (h.log cs) g) : R h g
  before_log {h g cs} (hcs : ∀ c ∈ cs, Call.isExchange c = true) (hg : R h g) : R h (g.log cs)
  after_payloadRequests {h g requests} (hg : R (h.setPayloadRequests requests) g) : R h g
  close (h) : R h h.close
  sendAllocated (h payloadType payload closeAfterSend outcome) :
    R h (h.sendAllocated payloadType payload closeAfterSend outcome)

/-- The steps that take an activation further: the request that is passed on to the owner, and its
successful completion. -/
def Activates (h : DoIpServerConnectionHandler) : Event → Prop
  | .routingActivationRequestReceived _ answers =>
    answers.check.action = .continue ∧ h.state = .inactive
  | .routingActivationCompleted _ _ _ => h.state = .activating
  | _ => False

theorem not_activates (h : DoIpServerConnectionHandler) (e : Event) (hi : h.state ≠ .inactive)
    (ha : h.state ≠ .activating) : ¬ Activates h e := by
  cases e <;> simp [Activates, hi, ha]

/-- The handler once the step of an event has done what is its own: a header of the right version
restarts the timer, a response is passed on, a job goes back to the pool. -/
def Event.prepared (U : Upstream) (h : DoIpServerConnectionHandler) :
    Event → DoIpServerConnectionHandler
  | .headerReceived header _ =>
    if U.checkProtocolVersion header h.protocolVersion then h.restarted U else h
  | .aliveCheckResponseReceived payload =>
    (h.setPayloadRequests (h.payloadRequests.erase
      ⟨.aliveCheckResponseReceived, payload.length⟩)).answered payload
  | .timerExpired => h.disarmTimer
  | .jobReleased job success =>
    (h.setJobsInFlight (h.jobsInFlight.erase job)).releaseSendJob job success
  | .shutdown => h.shutdown
  | _ => h

namespace Admits

variable {R : DoIpServerConnectionHandler → DoIpServerConnectionHandler → Prop}

/-- A relation that composes admits an exchange of calls on both sides if it admits it at all, and a
message if it admits one that is sent. -/
theorem of_trans (hrefl : ∀ h, R h h) (htrans : ∀ {h g k}, R h g → R g k → R h k)
    (hlog : ∀ h cs, (∀ c ∈ cs, Call.isExchange c = true) → R h (h.log cs))
    (hrequests : ∀ h requests, R h (h.setPayloadRequests requests)) (hclose : ∀ h, R h h.close)
    (hsent : ∀ {h : DoIpServerConnectionHandler} {slot free}, h.state ≠ .shutdown →
      h.sendJobPool = slot :: free → ∀ payloadType payload closeAfterSend outcome,
        R h (h.sent slot free payloadType payload closeAfterSend outcome)) : Admits R where
  refl := hrefl
  after_log hcs hg := htrans (hlog _ _ hcs) hg
  before_log hcs hg := htrans hg (hlog _ _ hcs)
  after_payloadRequests hg := htrans (hrequests _ _) hg
  close := hclose
  sendAllocated h _ _ _ _ := h.sendAllocated_of_sent (hrefl h) (fun hg => htrans hg (hclose _))
    fun _ _ hs hp => hsent hs hp _ _ _ _

theorem log_one (hR : Admits R) (h : DoIpServerConnectionHandler) {c : Call}
    (hc : c.isExchange = true) : R h (h.log [c]) :=
  hR.before_log (List.forall_mem_singleton.mpr hc) (hR.refl h)

theorem receivePayload (hR : Admits R) (h : DoIpServerConnectionHandler)
    (callback : PayloadCallback) (length : Nat) (accepted : Bool) :
    R h (h.receivePayload callback length accepted).2 := by
  cases accepted with
  | false => exact hR.log_one h rfl
  | true =>
    have hask : ∀ c ∈ [Call.connectionReceivePayload callback length true],
        c.isExchange = true := List.forall_mem_singleton.mpr rfl
    exact hR.after_log hask (hR.after_payloadRequests (hR.refl _))

theorem headerReceivedDefault (hR : Admits R) (h : DoIpServerConnectionHandler) (U : Upstream)
    (header : DoIpHeader) (answers : HeaderAnswers) :
    R h (h.headerReceivedDefault U header answers).2 := by
  obtain ⟨cs, hoffers, hd⟩ := h.headerReceivedDefault_cases U header answers
  have hcs : ∀ c ∈ cs, Call.isExchange c = true := by
    intro c hc
    obtain ⟨i, a, rfl⟩ := hoffers c hc
    rfl
  rcases hd with hd | hd
  · rw [hd]
    exact hR.before_log hcs (hR.refl h)
  · rw [hd]
    exact hR.after_log hcs (hR.sendAllocated _ _ _ _ _)

/-- What happens to a header once its version has been looked at. -/
theorem headerReceived (hR : Admits R) (h : DoIpServerConnectionHandler) (U : Upstream)
    (header : DoIpHeader) (answers : HeaderAnswers) :
    R ((Event.headerReceived header answers).prepared U h)
      (h.headerReceived U header answers).2 := by
  rw [Event.prepared]
  cases hv : U.checkProtocolVersion header h.protocolVersion with
  | false =>
    rw [h.headerReceived_of_not_version hv]
    exact hR.sendAllocated h _ _ _ _
  | true =>
    rw [h.headerReceived_of_version hv, if_pos rfl]
    split
    · rw [headerReceivedRoutingActivationRequest]
      split
      · exact hR.sendAllocated _ _ _ _ _
      · exact hR.receivePayload _ _ _ _
    · rw [headerReceivedAliveCheckResponse]
      split
      · exact hR.sendAllocated _ _ _ _ _
      · exact hR.receivePayload _ _ _ _
    · exact hR.log_one _ rfl
    · exact hR.log_one _ rfl
    · exact hR.log_one _ rfl
    · exact hR.headerReceivedDefault _ U header answers

/-- Once the owner has its answer, the message is ended or the connection closed. -/
theorem aliveCheckResponseReceived (hR : Admits R) (h : DoIpServerConnectionHandler)
    (payload : List UInt8) : R (h.answered payload) (h.aliveCheckResponseReceived payload) := by
  rw [h.aliveCheckResponseReceived_eq]
  split
  · exact hR.log_one _ rfl
  · exact hR.close _

theorem timerExpired (hR : Admits R) (h : DoIpServerConnectionHandler) : R h h.timerExpired := by
  rw [DoIpServerConnectionHandler.timerExpired]
  split
  · exact hR.close h
  · dsimp only
    split
    · exact hR.close h
    · exact hR.after_log (List.forall_mem_singleton.mpr rfl) (hR.close _)
  · exact hR.refl h

theorem runReleaseCallback (hR : Admits R) (h : DoIpServerConnectionHandler) (job : SendJob)
    (success : Bool) : R (h.releaseSendJob job success) (h.runReleaseCallback job success) := by
  cases hj : job.releaseCallback with
  | releaseSendJob =>
    rw [runReleaseCallback_of_releaseSendJob h hj]
    exact hR.refl _
  | releaseSendJobAndClose =>
    rw [runReleaseCallback_of_releaseSendJobAndClose h hj]
    exact hR.close _

/-- A routing activation request that is not the first gets a response and an end. -/
theorem routingActivationRequestReceived (hR : Admits R) (h : DoIpServerConnectionHandler)
    (U : Upstream) (payload : List UInt8) {answers : ActivationAnswers}
    (hn : answers.check.action = .continue → h.state ≠ .inactive) :
    R h (h.routingActivationRequestReceived U payload answers) := by
  have hanswer : ∀ responsePayload closeAfterSend,
      R h (((h.checked payload).sendAllocated .routingActivationResponse responsePayload
        closeAfterSend answers.send).log [.connectionEndReceiveMessage]) := by
    intro responsePayload closeAfterSend
    refine hR.before_log (List.forall_mem_singleton.mpr rfl) ?_
    exact hR.after_log (List.forall_mem_singleton.mpr rfl) (hR.sendAllocated _ _ _ _ _)
  by_cases ha : answers.check.action = .continue
  · rw [h.routingActivationRequestReceived_of_ne_inactive U payload ha (hn ha)]
    exact hanswer _ _
  · rw [h.routingActivationRequestReceived_of_ne_continue U payload ha]
    exact hanswer _ _

/-- After what is its own, a step does nothing but exchange calls, send a message and close, unless
it takes an activation further or starts an alive check. -/
theorem step (hR : Admits R) {U : Upstream} {h : DoIpServerConnectionHandler} {e : Event}
    (ha : ¬ Activates h e) (hs : ¬ ∃ send, e = .startAliveCheck send) :
    R (e.prepared U h) (e.step U h) := by
  cases e with
  | headerReceived header answers => exact hR.headerReceived h U header answers
  | routingActivationRequestReceived payload answers =>
    refine hR.after_payloadRequests (hR.routingActivationRequestReceived _ U payload ?_)
    intro hc hin
    exact ha ⟨hc, hin⟩
  | aliveCheckResponseReceived payload => exact hR.aliveCheckResponseReceived _ payload
  | startAliveCheck send => exact absurd ⟨send, rfl⟩ hs
  | routingActivationCompleted success responseCode send =>
    show R h (h.routingActivationCompleted success responseCode send)
    rw [h.routingActivationCompleted_of_ne_activating ha]
    exact hR.refl h
  | connectionClosed closedByRemotePeer => exact hR.close h
  | timerExpired => exact hR.timerExpired h.disarmTimer
  | jobReleased job success => exact hR.runReleaseCallback _ job success
  | close => exact hR.close h
  | sendNack nackCode closeAfterSend send => exact hR.sendAllocated h _ _ closeAfterSend send
  | shutdown => exact hR.refl _

end Admits

/-! What `close`, `start` and an activation write, seen through a function that picks out none of
it -/

namespace DoIpServerConnectionHandler

variable (h : DoIpServerConnectionHandler) {β : Type*} {p : Call → Option β}

theorem writes_close (hclose : p .connectionClose = none)
    (hhandlers : ∀ i, p (.messageHandlerConnectionClosed i) = none)
    (hcancel : p .timerCancel = none) (howner : p .ownerConnectionClosed = none)
    (hanswer : p (.ownerAliveCheckResponseReceived false) = none) :
    Writes p h.calls h.close.calls [] := by
  by_cases hs : h.state = .shutdown
  · rw [h.close_of_shutdown hs]
    exact .refl _
  · rw [h.close_of_ne_shutdown hs]
    exact .append_of_forall
      (h.forall_mem_closingCalls hclose hhandlers hcancel howner hanswer) _

theorem writes_setTimer (hcancel : p .timerCancel = none)
    (hschedule : ∀ t, p (.timerSchedule t) = none) (t : UInt32) :
    Writes p h.calls (h.setTimer t).calls [] :=
  .append_of_forall
    (List.forall_mem_cons.mpr ⟨hcancel, List.forall_mem_singleton.mpr (hschedule t)⟩) _

theorem writes_sendRoutingActive (hhandlers : ∀ i, p (.messageHandlerRoutingActive i) = none)
    (howner : p .ownerRoutingActive = none) :
    Writes p h.calls h.sendRoutingActive.calls [] := by
  have htold : Writes p h.calls
      (h.calls ++ (List.range h.messageHandlers).map .messageHandlerRoutingActive) [] :=
    .append_of_forall (List.forall_mem_map.mpr fun i _ => hhandlers i) _
  exact htold.trans (.append_of_forall (List.forall_mem_singleton.mpr howner) _)

theorem writes_activate (hcancel : p .timerCancel = none)
    (hschedule : ∀ t, p (.timerSchedule t) = none)
    (hhandlers : ∀ i, p (.messageHandlerRoutingActive i) = none)
    (howner : p .ownerRoutingActive = none) : Writes p h.calls h.activate.calls [] := by
  have htimer := ({ h.setState .active with isOrWasRouting := true } :
    DoIpServerConnectionHandler).writes_setTimer hcancel hschedule
      h.parameters.generalInactivityTimeout
  exact htimer.trans (writes_sendRoutingActive _ hhandlers howner)

theorem start_state (check : RoutingActivationCheckResult) :
    (h.start check).state = h.state := by
  rw [start]
  split
  · dsimp only
    split <;> rfl
  · rfl

/-- `start` resolves the address of a resumed handler, and leaves it as it is. -/
theorem start_sourceAddress (check : RoutingActivationCheckResult) :
    (h.start check).sourceAddress = h.sourceAddress := by
  rw [start]
  split
  · dsimp only
    split <;> rfl
  · rfl

theorem start_sendJobPool (check : RoutingActivationCheckResult) :
    (h.start check).sendJobPool = h.sendJobPool := by
  rw [start]
  split
  · dsimp only
    split <;> rfl
  · rfl

theorem start_jobsInFlight (check : RoutingActivationCheckResult) :
    (h.start check).jobsInFlight = h.jobsInFlight := by
  rw [start]
  split
  · dsimp only
    split <;> rfl
  · rfl

theorem writes_start (hinit : p .connectionInit = none)
    (hopened : ∀ i, p (.messageHandlerConnectionOpened i) = none)
    (hcancel : p .timerCancel = none) (hschedule : ∀ t, p (.timerSchedule t) = none)
    (hcheck : ∀ a t o r, p (.ownerCheckRoutingActivation a t o r) = none)
    (hhandlers : ∀ i, p (.messageHandlerRoutingActive i) = none)
    (howner : p .ownerRoutingActive = none) (check : RoutingActivationCheckResult) :
    Writes p h.calls (h.start check).calls [] := by
  rw [start]
  split
  · let g := ({ h with hasCallback := true }.log [.connectionInit]).sendConnectionOpened
    have hopened' : Writes p h.calls g.calls [] := by
      have hinit' : Writes p h.calls (h.calls ++ [.connectionInit]) [] :=
        .append_of_forall (List.forall_mem_singleton.mpr hinit) _
      exact hinit'.trans (.append_of_forall (List.forall_mem_map.mpr fun i _ => hopened i) _)
    dsimp only
    split
    · exact hopened'.trans (writes_setTimer g hcancel hschedule _)
    · let k := (g.log [.ownerCheckRoutingActivation g.sourceAddress 0 (some 0)
        true]).setSourceAddress g.sourceAddress (check.resolveInternalSourceAddress g.sourceAddress)
      have hchecked : Writes p h.calls k.calls [] :=
        hopened'.trans (.append_of_forall (List.forall_mem_singleton.mpr (hcheck _ _ _ _)) _)
      exact (hchecked.trans (writes_setTimer k hcancel hschedule _)).trans
        (writes_sendRoutingActive _ hhandlers howner)
  · exact .refl _

/-! Alive checks -/

/-- The handler once an alive check has been sent with the job in `slot`. The timer is armed before
the connection gets the job. -/
def checking (slot : Nat) (free : List Nat) (outcome : SendOutcome) :
    DoIpServerConnectionHandler :=
  let job := h.jobFor slot .aliveCheckRequest [] false
  { h with
    aliveCheckPending := true
    timer := some h.parameters.aliveCheckTimeout
    sendJobPool := if outcome = .accepted then free else free ++ [slot]
    jobsInFlight := if outcome = .accepted then h.jobsInFlight ++ [job] else h.jobsInFlight
    calls := h.calls ++ ([.poolAllocate slot, .timerCancel,
      .timerSchedule h.parameters.aliveCheckTimeout] ++ (sendingCalls job outcome).tail) }

theorem startAliveCheck_of_job_eq_checking {slot : Nat} {free : List Nat}
    (hs : h.state = .active) (hp : h.sendJobPool = slot :: free) (outcome : SendOutcome) :
    h.startAliveCheck outcome = h.checking slot free outcome := by
  rw [h.startAliveCheck_of_job hs hp]
  cases outcome with
  | rejected =>
    rw [sendOrReleaseMessage_rejected]
    simp [releaseSendJob, setSendJobPool, setTimer, armTimer, allocated, setState,
      setAliveCheckPending, stateAfterAllocation, log, checking, sendingCalls, jobFor]
  | accepted =>
    rw [sendOrReleaseMessage_accepted]
    simp [setJobsInFlight, setSendJobPool, setTimer, armTimer, allocated, setState,
      setAliveCheckPending, stateAfterAllocation, log, checking, sendingCalls, jobFor]
  | released success =>
    rw [sendOrReleaseMessage_released, runReleaseCallback_of_releaseSendJob _ rfl]
    simp [releaseSendJob, setSendJobPool, setTimer, armTimer, allocated, setState,
      setAliveCheckPending, stateAfterAllocation, log, checking, sendingCalls, jobFor]

/-- What starting an alive check does: outside ACTIVE the owner is told that nobody is alive, and in
ACTIVE the handler closes without a job, and sends the check with one. -/
theorem startAliveCheck_cases (outcome : SendOutcome) :
    (h.state ≠ .active ∧ h.startAliveCheck outcome =
      if h.hasCallback then h.log [.ownerAliveCheckResponseReceived false] else h) ∨
    (h.state = .active ∧ h.sendJobPool = [] ∧
      h.startAliveCheck outcome = (h.setAliveCheckPending true).close) ∨
    (h.state = .active ∧ ∃ slot free, h.sendJobPool = slot :: free ∧
      h.startAliveCheck outcome = h.checking slot free outcome) := by
  by_cases hs : h.state = .active
  · cases hp : h.sendJobPool with
    | nil => exact .inr (.inl ⟨hs, rfl, h.startAliveCheck_of_no_job hs hp outcome⟩)
    | cons slot free =>
      exact .inr (.inr ⟨hs, slot, free, rfl,
        h.startAliveCheck_of_job_eq_checking hs hp outcome⟩)
  · exact .inl ⟨hs, h.startAliveCheck_of_ne_active hs outcome⟩

end DoIpServerConnectionHandler

end SovdDemo.Doip

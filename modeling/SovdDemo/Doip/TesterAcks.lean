import SovdDemo.Doip.Sending

/-!
# Tester acknowledgements are transparent

Some testers acknowledge the responses they get. The handler consumes such an acknowledgement: it
ends the message, and restarts the inactivity timer as for any header, but nothing else can be seen
of it. This is a statement about two runs, one with the acknowledgements and one without; `Agree`
relates the two handlers at every point, and every operation keeps it.

## Main definitions

- `Agree` — two handlers that differ in the timer and in the calls for timers and finished messages
- `Inserted` — a trace, with tester acknowledgements where a header may arrive

## Main results

- `Agree.step` — every event keeps the relation
- `agree_of_inserted` — a trace with acknowledgements ends where the trace without them does
-/

namespace SovdDemo.Doip

open Foundations DoIpServerConnectionHandler

/-- The calls that do not stem from a timer or from the end of a message. -/
def Call.isObserved : Call → Bool
  | .timerCancel | .timerSchedule _ | .connectionEndReceiveMessage => false
  | _ => true

/-- The two handlers differ in the armed timer at most, and have made the same calls, but for those
on the timer and `endReceiveMessage`. -/
structure Agree (g h : DoIpServerConnectionHandler) : Prop where
  members : { g with timer := h.timer, calls := h.calls } = h
  calls : g.calls.filter Call.isObserved = h.calls.filter Call.isObserved

/-- An acknowledgement of a diagnostic message, with the protocol version that is expected. -/
structure IsTesterAck (U : Upstream) (h : DoIpServerConnectionHandler) (header : DoIpHeader) :
    Prop where
  version : U.checkProtocolVersion header h.protocolVersion = true
  payloadType : header.payloadType = .diagnosticMessagePositiveAck ∨
    header.payloadType = .diagnosticMessageNegativeAck

/-- `Inserted U h es es'`: the trace `es'` from `h` is `es` with tester acknowledgements inserted at
points where a header may arrive. -/
inductive Inserted (U : Upstream) :
    DoIpServerConnectionHandler → List Event → List Event → Prop
  | nil (h : DoIpServerConnectionHandler) : Inserted U h [] []
  | event {h : DoIpServerConnectionHandler} {e : Event} {es es' : List Event}
      (hes : Inserted U (e.step U h) es es') : Inserted U h (e :: es) (e :: es')
  | ack {h : DoIpServerConnectionHandler} {header : DoIpHeader} {answers : HeaderAnswers}
      {es es' : List Event} (ha : IsTesterAck U h header)
      (he : (Event.headerReceived header answers).enabled h)
      (hes : Inserted U ((Event.headerReceived header answers).step U h) es es') :
      Inserted U h es (.headerReceived header answers :: es')

namespace Agree

variable {g h : DoIpServerConnectionHandler}

theorem refl (h : DoIpServerConnectionHandler) : Agree h h := ⟨rfl, rfl⟩

theorem trans {k : DoIpServerConnectionHandler} (hg : Agree g h) (hk : Agree h k) : Agree g k := by
  refine ⟨?_, hg.calls.trans hk.calls⟩
  have hm := congrArg (fun m : DoIpServerConnectionHandler =>
    { m with timer := k.timer, calls := k.calls }) hg.members
  exact hm.trans hk.members

/-- What does not depend on the timer and the log is the same. -/
theorem member {α : Type} (ha : Agree g h) (f : DoIpServerConnectionHandler → α) :
    f { g with timer := h.timer, calls := h.calls } = f h :=
  congrArg f ha.members

theorem state (ha : Agree g h) : g.state = h.state :=
  ha.member DoIpServerConnectionHandler.state

theorem sendJobPool (ha : Agree g h) : g.sendJobPool = h.sendJobPool :=
  ha.member DoIpServerConnectionHandler.sendJobPool

theorem sourceAddress (ha : Agree g h) : g.sourceAddress = h.sourceAddress :=
  ha.member DoIpServerConnectionHandler.sourceAddress

theorem aliveCheckPending (ha : Agree g h) : g.aliveCheckPending = h.aliveCheckPending :=
  ha.member DoIpServerConnectionHandler.aliveCheckPending

theorem hasCallback (ha : Agree g h) : g.hasCallback = h.hasCallback :=
  ha.member DoIpServerConnectionHandler.hasCallback

theorem messageHandlers (ha : Agree g h) : g.messageHandlers = h.messageHandlers :=
  ha.member DoIpServerConnectionHandler.messageHandlers

theorem protocolVersion (ha : Agree g h) : g.protocolVersion = h.protocolVersion :=
  ha.member DoIpServerConnectionHandler.protocolVersion

/-! Assignments and log entries -/

theorem log (ha : Agree g h) (cs : List Call) : Agree (g.log cs) (h.log cs) := by
  refine ⟨ha.member (·.log cs), ?_⟩
  rw [log_calls, log_calls, List.filter_append, List.filter_append, ha.calls]

theorem setState (ha : Agree g h) (s : State) : Agree (g.setState s) (h.setState s) :=
  ⟨ha.member (·.setState s), ha.calls⟩

theorem setSendJobPool (ha : Agree g h) (free : List Nat) :
    Agree (g.setSendJobPool free) (h.setSendJobPool free) :=
  ⟨ha.member (·.setSendJobPool free), ha.calls⟩

theorem setAliveCheckPending (ha : Agree g h) (pending : Bool) :
    Agree (g.setAliveCheckPending pending) (h.setAliveCheckPending pending) :=
  ⟨ha.member (·.setAliveCheckPending pending), ha.calls⟩

theorem setJobsInFlight (ha : Agree g h) {jobs jobs' : List SendJob} (hj : jobs = jobs') :
    Agree (g.setJobsInFlight jobs) (h.setJobsInFlight jobs') :=
  hj ▸ ⟨ha.member (·.setJobsInFlight jobs), ha.calls⟩

theorem setPayloadRequests (ha : Agree g h) {rs rs' : List PayloadRequest} (hr : rs = rs') :
    Agree (g.setPayloadRequests rs) (h.setPayloadRequests rs') :=
  hr ▸ ⟨ha.member (·.setPayloadRequests rs), ha.calls⟩

theorem disarmTimer (ha : Agree g h) : Agree g.disarmTimer h.disarmTimer :=
  ⟨ha.member (·.disarmTimer), ha.calls⟩

/-- The timer can be set in one of the two only. -/
theorem setTimer_left (ha : Agree g h) (t : UInt32) : Agree (g.setTimer t) h := by
  refine ⟨ha.members, ?_⟩
  show (g.calls ++ [Call.timerCancel, Call.timerSchedule t]).filter Call.isObserved = _
  rw [List.filter_append, ha.calls]
  exact List.append_nil _

theorem symm (ha : Agree g h) : Agree h g := by
  refine ⟨?_, ha.calls.symm⟩
  exact (congrArg (fun m : DoIpServerConnectionHandler =>
    { m with timer := g.timer, calls := g.calls }) ha.members).symm

theorem setTimer (ha : Agree g h) (t : UInt32) : Agree (g.setTimer t) (h.setTimer t) :=
  ((ha.setTimer_left t).symm.setTimer_left t).symm

/-- Whether routing is on may look different in the two, since only the timer depends on it. -/
theorem restarted_left (ha : Agree g h) (U : Upstream) : Agree (g.restarted U) h := by
  rw [DoIpServerConnectionHandler.restarted]
  split
  · exact ha.setTimer_left _
  · exact ha

theorem restarted (ha : Agree g h) (U : Upstream) : Agree (g.restarted U) (h.restarted U) :=
  ((ha.restarted_left U).symm.restarted_left U).symm

/-! Closing and sending -/

theorem close (ha : Agree g h) : Agree g.close h.close := by
  by_cases hs : h.state = .shutdown
  · rw [g.close_of_shutdown (ha.state.trans hs), h.close_of_shutdown hs]
    exact ha
  · have hs' : g.state ≠ .shutdown := by rwa [ha.state]
    have hc : g.closingCalls = h.closingCalls :=
      ha.member DoIpServerConnectionHandler.closingCalls
    rw [g.close_of_ne_shutdown hs', h.close_of_ne_shutdown hs, hc]
    refine Agree.log ?_ _
    exact ⟨ha.member (·.shutDown), ha.calls⟩

theorem releaseSendJob (ha : Agree g h) (job : SendJob) (success : Bool) :
    Agree (g.releaseSendJob job success) (h.releaseSendJob job success) := by
  refine Agree.log ?_ [.poolRelease job.slot]
  rw [ha.sendJobPool]
  exact ha.setSendJobPool _

theorem runReleaseCallback (ha : Agree g h) (job : SendJob) (success : Bool) :
    Agree (g.runReleaseCallback job success) (h.runReleaseCallback job success) := by
  cases hj : job.releaseCallback with
  | releaseSendJob =>
    rw [runReleaseCallback_of_releaseSendJob g hj, runReleaseCallback_of_releaseSendJob h hj]
    exact ha.releaseSendJob job success
  | releaseSendJobAndClose =>
    rw [runReleaseCallback_of_releaseSendJobAndClose g hj,
      runReleaseCallback_of_releaseSendJobAndClose h hj]
    exact (ha.releaseSendJob job success).close

theorem sendOrReleaseMessage (ha : Agree g h) (job : SendJob) (outcome : SendOutcome) :
    Agree (g.sendOrReleaseMessage job outcome).2 (h.sendOrReleaseMessage job outcome).2 := by
  cases outcome with
  | rejected => exact (ha.log [.connectionSendMessage job false]).releaseSendJob job false
  | accepted =>
    have hj : g.jobsInFlight = h.jobsInFlight :=
      ha.member DoIpServerConnectionHandler.jobsInFlight
    exact (ha.setJobsInFlight (by rw [hj])).log [.connectionSendMessage job true]
  | released success =>
    exact (ha.log [.connectionSendMessage job true]).runReleaseCallback job success

theorem allocated (ha : Agree g h) (slot : Nat) (free : List Nat) (closeAfterSend : Bool) :
    Agree (g.allocated slot free closeAfterSend) (h.allocated slot free closeAfterSend) := by
  rw [DoIpServerConnectionHandler.allocated, stateAfterAllocation, ha.state]
  exact ((ha.setState _).setSendJobPool free).log _

theorem sendAllocated (ha : Agree g h) (payloadType : PayloadType) (payload : List UInt8)
    (closeAfterSend : Bool) (outcome : SendOutcome) :
    Agree (g.sendAllocated payloadType payload closeAfterSend outcome)
      (h.sendAllocated payloadType payload closeAfterSend outcome) := by
  by_cases hs : h.state = .shutdown
  · rw [g.sendAllocated_of_shutdown (ha.state.trans hs), h.sendAllocated_of_shutdown hs]
    exact ha
  · have hs' : g.state ≠ .shutdown := by rwa [ha.state]
    cases hp : h.sendJobPool with
    | nil =>
      rw [g.sendAllocated_of_no_job hs' (ha.sendJobPool.trans hp),
        h.sendAllocated_of_no_job hs hp]
      exact ha.close
    | cons slot free =>
      have hj : g.jobFor slot payloadType payload closeAfterSend =
          h.jobFor slot payloadType payload closeAfterSend :=
        ha.member (·.jobFor slot payloadType payload closeAfterSend)
      rw [g.sendAllocated_of_job hs' (ha.sendJobPool.trans hp), h.sendAllocated_of_job hs hp, hj]
      exact (ha.allocated slot free closeAfterSend).sendOrReleaseMessage _ outcome

/-! Alive checks and activations -/

theorem startAliveCheck (ha : Agree g h) (outcome : SendOutcome) :
    Agree (g.startAliveCheck outcome) (h.startAliveCheck outcome) := by
  by_cases hs : h.state = .active
  · have hs' : g.state = .active := ha.state.trans hs
    have hpending := ha.setAliveCheckPending true
    cases hp : h.sendJobPool with
    | nil =>
      rw [g.startAliveCheck_of_no_job hs' (ha.sendJobPool.trans hp),
        h.startAliveCheck_of_no_job hs hp]
      exact hpending.close
    | cons slot free =>
      have hj : g.jobFor slot .aliveCheckRequest [] false =
          h.jobFor slot .aliveCheckRequest [] false :=
        ha.member (·.jobFor slot .aliveCheckRequest [] false)
      have ht : g.parameters = h.parameters := ha.member DoIpServerConnectionHandler.parameters
      rw [g.startAliveCheck_of_job hs' (ha.sendJobPool.trans hp), h.startAliveCheck_of_job hs hp,
        hj, ht]
      exact ((hpending.allocated slot free false).setTimer _).sendOrReleaseMessage _ outcome
  · have hs' : g.state ≠ .active := by rwa [ha.state]
    rw [g.startAliveCheck_of_ne_active hs', h.startAliveCheck_of_ne_active hs, ha.hasCallback]
    split
    · exact ha.log _
    · exact ha

theorem sendRoutingActive (ha : Agree g h) : Agree g.sendRoutingActive h.sendRoutingActive := by
  refine Agree.log ?_ [.ownerRoutingActive]
  rw [forMessageHandlers, forMessageHandlers, ha.messageHandlers]
  exact ha.log _

theorem activate (ha : Agree g h) : Agree g.activate h.activate := by
  have hactive : Agree { g.setState .active with isOrWasRouting := true }
      { h.setState .active with isOrWasRouting := true } :=
    ⟨ha.member fun k => { k.setState .active with isOrWasRouting := true }, ha.calls⟩
  have ht : g.parameters = h.parameters := ha.member DoIpServerConnectionHandler.parameters
  have htimer := (hactive.setTimer g.parameters.generalInactivityTimeout).sendRoutingActive
  rw [DoIpServerConnectionHandler.activate, DoIpServerConnectionHandler.activate]
  exact ht ▸ htimer

theorem responsePayload (ha : Agree g h) (sourceAddress : UInt16) (responseCode : UInt8) :
    g.responsePayload sourceAddress responseCode = h.responsePayload sourceAddress responseCode :=
  ha.member (·.responsePayload sourceAddress responseCode)

theorem routingActivationCompleted (ha : Agree g h) (success : Bool) (responseCode : UInt8)
    (outcome : SendOutcome) :
    Agree (g.routingActivationCompleted success responseCode outcome)
      (h.routingActivationCompleted success responseCode outcome) := by
  by_cases hs : h.state = .activating
  · rw [g.routingActivationCompleted_of_activating (ha.state.trans hs),
      h.routingActivationCompleted_of_activating hs, ha.responsePayload, ha.sourceAddress]
    split
    · exact (ha.sendAllocated _ _ _ outcome).activate
    · exact ha.sendAllocated _ _ _ outcome
  · have hs' : g.state ≠ .activating := by rwa [ha.state]
    rw [g.routingActivationCompleted_of_ne_activating hs',
      h.routingActivationCompleted_of_ne_activating hs]
    exact ha

/-! Headers -/

theorem receivePayload (ha : Agree g h) (callback : PayloadCallback) (length : Nat)
    (accepted : Bool) : Agree (g.receivePayload callback length accepted).2
      (h.receivePayload callback length accepted).2 := by
  have hl := ha.log [.connectionReceivePayload callback length accepted]
  cases accepted with
  | false => exact hl
  | true =>
    have hr : g.payloadRequests ++ [⟨callback, length⟩] =
        h.payloadRequests ++ [⟨callback, length⟩] :=
      ha.member (·.payloadRequests ++ [⟨callback, length⟩])
    exact hl.setPayloadRequests hr

theorem headerReceivedDefault (ha : Agree g h) (U : Upstream) (header : DoIpHeader)
    (answers : HeaderAnswers) : Agree (g.headerReceivedDefault U header answers).2
      (h.headerReceivedDefault U header answers).2 := by
  rw [headerReceivedDefault_eq, headerReceivedDefault_eq, ha.messageHandlers]
  split
  · exact ha.log _
  · exact (ha.log _).sendAllocated _ _ _ answers.send

theorem headerReceived (ha : Agree g h) (U : Upstream) (header : DoIpHeader)
    (answers : HeaderAnswers) :
    Agree (g.headerReceived U header answers).2 (h.headerReceived U header answers).2 := by
  cases hv : U.checkProtocolVersion header h.protocolVersion with
  | false =>
    rw [h.headerReceived_of_not_version hv,
      g.headerReceived_of_not_version (by rw [ha.protocolVersion, hv])]
    exact ha.sendAllocated _ _ _ answers.send
  | true =>
    rw [h.headerReceived_of_version hv,
      g.headerReceived_of_version (by rw [ha.protocolVersion, hv])]
    have hr := ha.restarted U
    split
    · rw [headerReceivedRoutingActivationRequest, headerReceivedRoutingActivationRequest]
      split
      · exact hr.sendAllocated _ _ _ answers.send
      · exact hr.receivePayload _ _ _
    · rw [headerReceivedAliveCheckResponse, headerReceivedAliveCheckResponse]
      split
      · exact hr.sendAllocated _ _ _ answers.send
      · exact hr.receivePayload _ _ _
    · exact hr.log _
    · exact hr.log _
    · exact hr.log _
    · exact hr.headerReceivedDefault U header answers

/-! Payloads -/

theorem handleRoutingActivationRequest (ha : Agree g h) (answers : ActivationAnswers) :
    Agree (g.handleRoutingActivationRequest answers)
      (h.handleRoutingActivationRequest answers) := by
  have hl := ha.log [.ownerHandleRoutingActivationRequest]
  rw [DoIpServerConnectionHandler.handleRoutingActivationRequest,
    DoIpServerConnectionHandler.handleRoutingActivationRequest]
  split
  · exact hl.routingActivationCompleted _ _ answers.send
  · exact hl

theorem routingActivationRequestReceived (ha : Agree g h) (U : Upstream) (payload : List UInt8)
    (answers : ActivationAnswers) :
    Agree (g.routingActivationRequestReceived U payload answers)
      (h.routingActivationRequestReceived U payload answers) := by
  have hc : Agree (g.checked payload) (h.checked payload) := ha.log _
  by_cases hact : answers.check.action = .continue
  · by_cases hs : h.state = .inactive
    · rw [g.routingActivationRequestReceived_of_inactive U payload hact (ha.state.trans hs),
        h.routingActivationRequestReceived_of_inactive U payload hact hs]
      have hactivating : Agree (g.activating payload answers.check)
          (h.activating payload answers.check) :=
        ⟨hc.member fun k => (k.setSourceAddress (takeBeUInt16 payload 0)
          (answers.check.resolveInternalSourceAddress (takeBeUInt16 payload 0))).setState
            .activating, hc.calls⟩
      exact (hactivating.handleRoutingActivationRequest answers).log _
    · have hs' : g.state ≠ .inactive := by rwa [ha.state]
      rw [g.routingActivationRequestReceived_of_ne_inactive U payload hact hs',
        h.routingActivationRequestReceived_of_ne_inactive U payload hact hs,
        ha.responsePayload, ha.sourceAddress]
      exact (hc.sendAllocated _ _ _ answers.send).log _
  · rw [g.routingActivationRequestReceived_of_ne_continue U payload hact,
      h.routingActivationRequestReceived_of_ne_continue U payload hact, ha.responsePayload]
    exact (hc.sendAllocated _ _ _ answers.send).log _

theorem aliveCheckResponseReceived (ha : Agree g h) (payload : List UInt8) :
    Agree (g.aliveCheckResponseReceived payload) (h.aliveCheckResponseReceived payload) := by
  have hanswered : Agree (g.answered payload) (h.answered payload) := by
    rw [answered, answered, ha.aliveCheckPending, ha.sourceAddress]
    split
    · exact (ha.setAliveCheckPending false).log _
    · exact ha
  rw [g.aliveCheckResponseReceived_eq, h.aliveCheckResponseReceived_eq, ha.sourceAddress]
  split
  · exact hanswered.log _
  · exact hanswered.close

theorem timerExpired (ha : Agree g h) : Agree g.timerExpired h.timerExpired := by
  rw [DoIpServerConnectionHandler.timerExpired, DoIpServerConnectionHandler.timerExpired,
    ha.state, ha.aliveCheckPending]
  split
  · exact ha.close
  · refine Agree.close ?_
    split
    · exact ha
    · exact ha.log _
  · exact ha

/-- Every event keeps the relation. -/
theorem step (ha : Agree g h) (U : Upstream) (e : Event) : Agree (e.step U g) (e.step U h) := by
  have hr : g.payloadRequests = h.payloadRequests :=
    ha.member DoIpServerConnectionHandler.payloadRequests
  have hj : g.jobsInFlight = h.jobsInFlight := ha.member DoIpServerConnectionHandler.jobsInFlight
  cases e with
  | headerReceived header answers => exact ha.headerReceived U header answers
  | routingActivationRequestReceived payload answers =>
    exact (ha.setPayloadRequests (by rw [hr])).routingActivationRequestReceived U payload answers
  | aliveCheckResponseReceived payload =>
    exact (ha.setPayloadRequests (by rw [hr])).aliveCheckResponseReceived payload
  | startAliveCheck send => exact ha.startAliveCheck send
  | routingActivationCompleted success responseCode send =>
    exact ha.routingActivationCompleted success responseCode send
  | connectionClosed closedByRemotePeer => exact ha.close
  | timerExpired => exact ha.disarmTimer.timerExpired
  | jobReleased job success =>
    exact (ha.setJobsInFlight (by rw [hj])).runReleaseCallback job success
  | close => exact ha.close
  | sendNack nackCode closeAfterSend send => exact ha.sendAllocated _ _ closeAfterSend send
  | shutdown => exact ha.disarmTimer.log _

end Agree

/-- The header is consumed: the handler keeps it to itself, ends it once, and makes no other call
but on its timer. -/
def Consumed (U : Upstream) (h : DoIpServerConnectionHandler) (header : DoIpHeader)
    (answers : HeaderAnswers) : Prop :=
  (h.headerReceived U header answers).1 = .handledByThisHandler ∧
    ∃ ts : List Call, (∀ c ∈ ts, c = .timerCancel ∨ ∃ t, c = .timerSchedule t) ∧
      (Event.headerReceived header answers).callsMade U h = ts ++ [.connectionEndReceiveMessage]

namespace IsTesterAck

variable {U : Upstream} {h : DoIpServerConnectionHandler} {header : DoIpHeader}

theorem headerReceived_eq (ha : IsTesterAck U h header) (answers : HeaderAnswers) :
    h.headerReceived U header answers =
      (.handledByThisHandler, (h.restarted U).log [.connectionEndReceiveMessage]) := by
  rw [h.headerReceived_of_version ha.version]
  rcases ha.payloadType with hp | hp <;> rw [hp]

theorem consumed (ha : IsTesterAck U h header) (answers : HeaderAnswers) :
    Consumed U h header answers := by
  refine ⟨by rw [ha.headerReceived_eq], ?_⟩
  have hstep : (Event.headerReceived header answers).step U h =
      (h.restarted U).log [.connectionEndReceiveMessage] :=
    congrArg Prod.snd (ha.headerReceived_eq answers)
  cases hr : U.isRouting h with
  | true =>
    refine ⟨[.timerCancel, .timerSchedule h.parameters.generalInactivityTimeout], ?_, ?_⟩
    · simp
    · refine Event.callsMade_eq ?_
      rw [hstep, restarted, if_pos hr]
      exact List.append_assoc _ _ _
  | false =>
    refine ⟨[], by simp, Event.callsMade_eq ?_⟩
    rw [hstep, restarted, if_neg (by simp [hr])]
    rfl

theorem agree_step (ha : IsTesterAck U h header) (answers : HeaderAnswers) :
    Agree ((Event.headerReceived header answers).step U h) h := by
  have hend : Agree ((h.restarted U).log [.connectionEndReceiveMessage]) (h.restarted U) := by
    refine ⟨rfl, ?_⟩
    rw [log_calls, List.filter_append]
    exact List.append_nil _
  rw [show (Event.headerReceived header answers).step U h = _ from
    congrArg Prod.snd (ha.headerReceived_eq answers)]
  exact hend.trans ((Agree.refl h).restarted_left U)

end IsTesterAck

theorem agree_of_inserted_of_agree {U : Upstream} {g h : DoIpServerConnectionHandler}
    {es es' : List Event} (ha : Agree g h) (hi : Inserted U g es es') :
    Agree (es'.foldl (connection U).step g) (es.foldl (connection U).step h) := by
  induction hi generalizing h with
  | nil g => exact ha
  | event _ ih => exact ih (ha.step U _)
  | ack hack _ _ ih => exact ih ((hack.agree_step _).trans ha)

/-- Tester acknowledgements are transparent: however many are inserted into a trace, and wherever a
header may arrive, the handler ends with the same members and has made the same calls, and each of
them is consumed. -/
theorem agree_of_inserted (U : Upstream) {h : DoIpServerConnectionHandler} {es es' : List Event}
    (hi : Inserted U h es es') :
    Agree (es'.foldl (connection U).step h) (es.foldl (connection U).step h) ∧
      ∀ k header answers, IsTesterAck U k header → Consumed U k header answers :=
  ⟨agree_of_inserted_of_agree (.refl h) hi, fun _ _ answers ha => ha.consumed answers⟩

/-- A positive acknowledgement of the tester that carries five bytes. -/
def positiveAck : Event :=
  .headerReceived ⟨2, 0xFD, .diagnosticMessagePositiveAck, 5⟩ ⟨true, fun _ => false, .accepted⟩

/-- The acknowledgement before and after an alive check of a resumed connection. -/
theorem agree_of_inserted_positiveAck :
    Agree ([positiveAck, .startAliveCheck .accepted, positiveAck].foldl
        (connection .iso13400).step (resumedWith 1))
      ([.startAliveCheck .accepted].foldl (connection .iso13400).step (resumedWith 1)) ∧
      ∀ k header answers, IsTesterAck .iso13400 k header →
        Consumed .iso13400 k header answers := by
  refine agree_of_inserted .iso13400 (.ack ?_ rfl (.event (.ack ?_ rfl (.nil _))))
  · exact ⟨by decide, .inl rfl⟩
  · exact ⟨by decide, .inl rfl⟩

end SovdDemo.Doip

import SovdDemo.Doip.Run
import Mathlib.Logic.Basic

/-!
# What closing and sending do

`close` can run inside almost every operation: each message needs a job from the pool, and a sender
that finds none closes the connection. The lemmas here say once what `close`, the senders and
`startAliveCheck` do in each case; the invariants of the handler are derived from them.
-/

namespace SovdDemo.Doip

namespace DoIpServerConnectionHandler

variable (h : DoIpServerConnectionHandler)

@[simp] theorem log_state (cs : List Call) : (h.log cs).state = h.state := rfl

@[simp] theorem log_jobsInFlight (cs : List Call) :
    (h.log cs).jobsInFlight = h.jobsInFlight := rfl

@[simp] theorem log_calls (cs : List Call) : (h.log cs).calls = h.calls ++ cs := rfl

@[simp] theorem setJobsInFlight_state (jobs : List SendJob) :
    (h.setJobsInFlight jobs).state = h.state := rfl

@[simp] theorem setJobsInFlight_jobsInFlight (jobs : List SendJob) :
    (h.setJobsInFlight jobs).jobsInFlight = jobs := rfl

@[simp] theorem setPayloadRequests_aliveCheckPending (requests : List PayloadRequest) :
    (h.setPayloadRequests requests).aliveCheckPending = h.aliveCheckPending := rfl

@[simp] theorem setAliveCheckPending_state (pending : Bool) :
    (h.setAliveCheckPending pending).state = h.state := rfl

/-! Closing -/

/-- The members `close` changes. -/
def shutDown : DoIpServerConnectionHandler :=
  { h with state := .shutdown, connectionIsClosed := true, timer := none }

/-- The calls of one execution of `close`. -/
def closingCalls : List Call :=
  [.connectionClose] ++ (List.range h.messageHandlers).map .messageHandlerConnectionClosed ++
    [.timerCancel, .ownerConnectionClosed] ++
    if h.aliveCheckPending then [.ownerAliveCheckResponseReceived false] else []

theorem connectionClose_mem_closingCalls : .connectionClose ∈ h.closingCalls := by
  simp [closingCalls]

/-- What holds of the five kinds of calls that `close` makes holds of all of them. -/
theorem forall_mem_closingCalls {p : Call → Prop} (hclose : p .connectionClose)
    (hhandlers : ∀ i, p (.messageHandlerConnectionClosed i)) (hcancel : p .timerCancel)
    (howner : p .ownerConnectionClosed) (hanswer : p (.ownerAliveCheckResponseReceived false)) :
    ∀ c ∈ h.closingCalls, p c := by
  intro c hc
  simp only [closingCalls, List.mem_append, List.mem_map, List.mem_cons, List.not_mem_nil,
    or_false] at hc
  rcases hc with ((rfl | ⟨i, _, rfl⟩) | rfl | rfl) | hc
  · exact hclose
  · exact hhandlers i
  · exact hcancel
  · exact howner
  · split at hc
    · rwa [List.mem_singleton.mp hc]
    · cases hc

theorem close_of_shutdown (hs : h.state = .shutdown) : h.close = h := by
  simp [close, hs]

theorem close_of_ne_shutdown (hs : h.state ≠ .shutdown) :
    h.close = h.shutDown.log h.closingCalls := by
  rw [close, if_pos hs]
  cases hp : h.aliveCheckPending <;>
    simp [log, forMessageHandlers, disarmTimer, setState, shutDown, closingCalls, hp]

@[simp] theorem close_state : h.close.state = .shutdown := by
  by_cases hs : h.state = .shutdown
  · rw [close_of_shutdown h hs, hs]
  · rw [close_of_ne_shutdown h hs]
    rfl

/-- What `close` leaves behind does not depend on the state it was called in. -/
theorem close_setState (s : State) (hs : h.state ≠ .shutdown) (hs' : s ≠ .shutdown) :
    (h.setState s).close = h.close := by
  rw [close_of_ne_shutdown h hs, close_of_ne_shutdown _ hs']
  rfl

/-! Sending -/

/-- The state a message leaves behind once its job is allocated. -/
def stateAfterAllocation (closeAfterSend : Bool) : State :=
  if closeAfterSend then .closing else h.state

theorem stateAfterAllocation_ne_shutdown (hs : h.state ≠ .shutdown) (closeAfterSend : Bool) :
    h.stateAfterAllocation closeAfterSend ≠ .shutdown := by
  cases closeAfterSend
  · exact hs
  · exact State.noConfusion

/-- The job for a message, in the pool slot `slot`. -/
def jobFor (slot : Nat) (payloadType : PayloadType) (payload : List UInt8)
    (closeAfterSend : Bool) : SendJob where
  slot := slot
  protocolVersion := h.protocolVersion
  payloadType := payloadType
  payload := payload
  releaseCallback := if closeAfterSend then .releaseSendJobAndClose else .releaseSendJob

/-- The handler once the job in `slot` has been allocated for a message. -/
def allocated (slot : Nat) (free : List Nat) (closeAfterSend : Bool) :
    DoIpServerConnectionHandler :=
  ((h.setState (h.stateAfterAllocation closeAfterSend)).setSendJobPool free).log
    [.poolAllocate slot]

@[simp] theorem allocated_state (slot : Nat) (free : List Nat) (closeAfterSend : Bool) :
    (h.allocated slot free closeAfterSend).state = h.stateAfterAllocation closeAfterSend := rfl

@[simp] theorem allocated_jobsInFlight (slot : Nat) (free : List Nat) (closeAfterSend : Bool) :
    (h.allocated slot free closeAfterSend).jobsInFlight = h.jobsInFlight := rfl

theorem allocateSendJob_of_job {slot : Nat} {free : List Nat} (hs : h.state ≠ .shutdown)
    (hp : h.sendJobPool = slot :: free) (payloadType : PayloadType) (payloadLength : Nat)
    (closeAfterSend : Bool) :
    h.allocateSendJob payloadType payloadLength closeAfterSend =
      (some (h.jobFor slot payloadType (List.replicate payloadLength 0) closeAfterSend),
        h.allocated slot free closeAfterSend) := by
  rw [allocateSendJob, if_neg hs]
  cases closeAfterSend with
  | false =>
    simp only [Bool.false_eq_true, if_false, hp]
    rfl
  | true =>
    have hp' : (h.setState .closing).sendJobPool = slot :: free := hp
    simp only [if_true, hp']
    rfl

theorem allocateSendJob_of_no_job (hs : h.state ≠ .shutdown) (hp : h.sendJobPool = [])
    (payloadType : PayloadType) (payloadLength : Nat) (closeAfterSend : Bool) :
    h.allocateSendJob payloadType payloadLength closeAfterSend =
      (none, h.setState (h.stateAfterAllocation closeAfterSend)) := by
  rw [allocateSendJob, if_neg hs]
  cases closeAfterSend with
  | false =>
    simp only [Bool.false_eq_true, if_false, hp]
    rfl
  | true =>
    have hp' : (h.setState .closing).sendJobPool = [] := hp
    simp only [if_true, hp']
    rfl

theorem sendAllocated_of_shutdown (hs : h.state = .shutdown) (payloadType : PayloadType)
    (payload : List UInt8) (closeAfterSend : Bool) (outcome : SendOutcome) :
    h.sendAllocated payloadType payload closeAfterSend outcome = h := by
  simp [sendAllocated, allocateSendJob, hs, close_of_shutdown]

theorem sendAllocated_of_no_job (hs : h.state ≠ .shutdown) (hp : h.sendJobPool = [])
    (payloadType : PayloadType) (payload : List UInt8) (closeAfterSend : Bool)
    (outcome : SendOutcome) :
    h.sendAllocated payloadType payload closeAfterSend outcome = h.close := by
  rw [sendAllocated, h.allocateSendJob_of_no_job hs hp]
  exact h.close_setState _ hs (h.stateAfterAllocation_ne_shutdown hs closeAfterSend)

theorem sendAllocated_of_job {slot : Nat} {free : List Nat} (hs : h.state ≠ .shutdown)
    (hp : h.sendJobPool = slot :: free) (payloadType : PayloadType) (payload : List UInt8)
    (closeAfterSend : Bool) (outcome : SendOutcome) :
    h.sendAllocated payloadType payload closeAfterSend outcome =
      ((h.allocated slot free closeAfterSend).sendOrReleaseMessage
        (h.jobFor slot payloadType payload closeAfterSend) outcome).2 := by
  rw [sendAllocated, h.allocateSendJob_of_job hs hp]
  rfl

theorem sendOrReleaseMessage_rejected (job : SendJob) :
    (h.sendOrReleaseMessage job .rejected).2 =
      (h.log [.connectionSendMessage job false]).releaseSendJob job false := rfl

theorem sendOrReleaseMessage_accepted (job : SendJob) :
    (h.sendOrReleaseMessage job .accepted).2 =
      (h.setJobsInFlight (h.jobsInFlight ++ [job])).log [.connectionSendMessage job true] := rfl

theorem sendOrReleaseMessage_released (job : SendJob) (success : Bool) :
    (h.sendOrReleaseMessage job (.released success)).2 =
      (h.log [.connectionSendMessage job true]).runReleaseCallback job success := rfl

@[simp] theorem releaseSendJob_state (job : SendJob) (success : Bool) :
    (h.releaseSendJob job success).state = h.state := rfl

@[simp] theorem releaseSendJob_jobsInFlight (job : SendJob) (success : Bool) :
    (h.releaseSendJob job success).jobsInFlight = h.jobsInFlight := rfl

theorem runReleaseCallback_of_releaseSendJob {job : SendJob}
    (hj : job.releaseCallback = .releaseSendJob) (success : Bool) :
    h.runReleaseCallback job success = h.releaseSendJob job success := by
  rw [runReleaseCallback, hj]

theorem runReleaseCallback_of_releaseSendJobAndClose {job : SendJob}
    (hj : job.releaseCallback = .releaseSendJobAndClose) (success : Bool) :
    h.runReleaseCallback job success = (h.releaseSendJob job success).close := by
  rw [runReleaseCallback, hj]
  rfl

/-- A message that does not close leaves the state alone, as long as there is a job for it. -/
theorem sendAllocated_state_of_job (hs : h.state ≠ .shutdown) (hp : h.sendJobPool ≠ [])
    (payloadType : PayloadType) (payload : List UInt8) (outcome : SendOutcome) :
    (h.sendAllocated payloadType payload false outcome).state = h.state := by
  obtain ⟨slot, free, hp⟩ := List.exists_cons_of_ne_nil hp
  rw [h.sendAllocated_of_job hs hp]
  cases outcome with
  | rejected => simp [sendOrReleaseMessage_rejected, stateAfterAllocation]
  | accepted => simp [sendOrReleaseMessage_accepted, stateAfterAllocation]
  | released success =>
    rw [sendOrReleaseMessage_released, runReleaseCallback_of_releaseSendJob _ rfl]
    simp [stateAfterAllocation]

/-- What a job that is allocated and sent writes to the log. -/
def sendingCalls (job : SendJob) : SendOutcome → List Call
  | .rejected =>
    [.poolAllocate job.slot, .connectionSendMessage job false, .poolRelease job.slot]
  | .accepted => [.poolAllocate job.slot, .connectionSendMessage job true]
  | .released _ =>
    [.poolAllocate job.slot, .connectionSendMessage job true, .poolRelease job.slot]

/-- The handler once a message has been sent: the job is in flight if the connection keeps it, and
back in the pool otherwise. -/
def sent (slot : Nat) (free : List Nat) (payloadType : PayloadType) (payload : List UInt8)
    (closeAfterSend : Bool) (outcome : SendOutcome) : DoIpServerConnectionHandler :=
  let job := h.jobFor slot payloadType payload closeAfterSend
  { h with
    state := h.stateAfterAllocation closeAfterSend
    sendJobPool := if outcome = .accepted then free else free ++ [slot]
    jobsInFlight := if outcome = .accepted then h.jobsInFlight ++ [job] else h.jobsInFlight
    calls := h.calls ++ sendingCalls job outcome }

theorem sent_calls (slot : Nat) (free : List Nat) (payloadType : PayloadType)
    (payload : List UInt8) (closeAfterSend : Bool) (outcome : SendOutcome) :
    (h.sent slot free payloadType payload closeAfterSend outcome).calls =
      h.calls ++ sendingCalls (h.jobFor slot payloadType payload closeAfterSend) outcome := rfl

/-- A job that is sent changes nothing but the pool, the jobs in flight and the log, and closes the
connection only from its release callback. -/
theorem sendOrReleaseMessage_allocated (slot : Nat) (free : List Nat) (payloadType : PayloadType)
    (payload : List UInt8) (closeAfterSend : Bool) (outcome : SendOutcome) :
    ((h.allocated slot free closeAfterSend).sendOrReleaseMessage
      (h.jobFor slot payloadType payload closeAfterSend) outcome).2 =
        h.sent slot free payloadType payload closeAfterSend outcome ∨
    closeAfterSend = true ∧ ((h.allocated slot free closeAfterSend).sendOrReleaseMessage
      (h.jobFor slot payloadType payload closeAfterSend) outcome).2 =
        (h.sent slot free payloadType payload closeAfterSend outcome).close := by
  cases outcome with
  | rejected =>
    rw [sendOrReleaseMessage_rejected]
    left
    simp [releaseSendJob, allocated, setState, setSendJobPool, log, sent, sendingCalls, jobFor]
  | accepted =>
    rw [sendOrReleaseMessage_accepted]
    left
    simp [allocated, setState, setSendJobPool, setJobsInFlight, log, sent, sendingCalls, jobFor]
  | released success =>
    rw [sendOrReleaseMessage_released]
    have hsent : ((h.allocated slot free closeAfterSend).log [.connectionSendMessage
        (h.jobFor slot payloadType payload closeAfterSend) true]).releaseSendJob
          (h.jobFor slot payloadType payload closeAfterSend) success =
            h.sent slot free payloadType payload closeAfterSend (.released success) := by
      simp [releaseSendJob, allocated, setState, setSendJobPool, log, sent, sendingCalls, jobFor]
    cases closeAfterSend with
    | false =>
      left
      rw [runReleaseCallback_of_releaseSendJob _ rfl, hsent]
    | true =>
      right
      rw [runReleaseCallback_of_releaseSendJobAndClose _ rfl, hsent]
      exact ⟨rfl, rfl⟩

/-- What a sender does: nothing in SHUTDOWN, `close` without a job, and otherwise it sends, after
which the release callback may close. -/
theorem sendAllocated_cases (payloadType : PayloadType) (payload : List UInt8)
    (closeAfterSend : Bool) (outcome : SendOutcome) :
    (h.state = .shutdown ∧
      h.sendAllocated payloadType payload closeAfterSend outcome = h) ∨
    (h.state ≠ .shutdown ∧ h.sendJobPool = [] ∧
      h.sendAllocated payloadType payload closeAfterSend outcome = h.close) ∨
    (h.state ≠ .shutdown ∧ ∃ slot free, h.sendJobPool = slot :: free ∧
      (h.sendAllocated payloadType payload closeAfterSend outcome =
          h.sent slot free payloadType payload closeAfterSend outcome ∨
        closeAfterSend = true ∧ h.sendAllocated payloadType payload closeAfterSend outcome =
          (h.sent slot free payloadType payload closeAfterSend outcome).close)) := by
  by_cases hs : h.state = .shutdown
  · exact .inl ⟨hs, h.sendAllocated_of_shutdown hs _ _ _ _⟩
  · cases hp : h.sendJobPool with
    | nil => exact .inr (.inl ⟨hs, rfl, h.sendAllocated_of_no_job hs hp _ _ _ _⟩)
    | cons slot free =>
      refine .inr (.inr ⟨hs, slot, free, rfl, ?_⟩)
      rw [h.sendAllocated_of_job hs hp]
      exact h.sendOrReleaseMessage_allocated slot free payloadType payload closeAfterSend outcome

/-! Alive checks and activations -/

theorem setAliveCheckPending_ne_shutdown (hs : h.state = .active) (pending : Bool) :
    (h.setAliveCheckPending pending).state ≠ .shutdown := by
  show h.state ≠ _
  rw [hs]
  decide

theorem startAliveCheck_of_no_job (hs : h.state = .active) (hp : h.sendJobPool = [])
    (outcome : SendOutcome) :
    h.startAliveCheck outcome = (h.setAliveCheckPending true).close := by
  rw [startAliveCheck, if_pos hs]
  dsimp only
  rw [allocateSendJob_of_no_job _ (h.setAliveCheckPending_ne_shutdown hs true) hp]
  rfl

theorem startAliveCheck_of_job {slot : Nat} {free : List Nat} (hs : h.state = .active)
    (hp : h.sendJobPool = slot :: free) (outcome : SendOutcome) :
    h.startAliveCheck outcome =
      ((((h.setAliveCheckPending true).allocated slot free false).setTimer
        h.parameters.aliveCheckTimeout).sendOrReleaseMessage
          (h.jobFor slot .aliveCheckRequest [] false) outcome).2 := by
  rw [startAliveCheck, if_pos hs]
  dsimp only
  rw [allocateSendJob_of_job _ (h.setAliveCheckPending_ne_shutdown hs true) hp]
  rfl

theorem startAliveCheck_of_ne_active (hs : h.state ≠ .active) (outcome : SendOutcome) :
    h.startAliveCheck outcome =
      if h.hasCallback then h.log [.ownerAliveCheckResponseReceived false] else h := by
  rw [startAliveCheck, if_neg hs]

/-- The handler once an alive-check response has been passed on to the owner. -/
def answered (payload : List UInt8) : DoIpServerConnectionHandler :=
  if h.aliveCheckPending then
    (h.setAliveCheckPending false).log
      [.ownerAliveCheckResponseReceived (takeBeUInt16 payload 0 == h.sourceAddress)]
  else h

@[simp] theorem answered_state (payload : List UInt8) : (h.answered payload).state = h.state := by
  rw [answered]
  split <;> rfl

theorem aliveCheckResponseReceived_eq (payload : List UInt8) :
    h.aliveCheckResponseReceived payload =
      if takeBeUInt16 payload 0 == h.sourceAddress then
        (h.answered payload).log [.connectionEndReceiveMessage]
      else (h.answered payload).close := rfl

/-- The payload of a routing activation response. -/
def responsePayload (sourceAddress : UInt16) (responseCode : UInt8) : List UInt8 :=
  beUInt16 sourceAddress ++ beUInt16 h.logicalEntityAddress ++ [responseCode] ++ List.replicate 4 0

theorem routingActivationCompleted_of_activating (hs : h.state = .activating) (success : Bool)
    (responseCode : UInt8) (outcome : SendOutcome) :
    h.routingActivationCompleted success responseCode outcome =
      if success then
        (h.sendAllocated .routingActivationResponse (h.responsePayload h.sourceAddress responseCode)
          false outcome).activate
      else
        h.sendAllocated .routingActivationResponse (h.responsePayload h.sourceAddress responseCode)
          true outcome := by
  rw [routingActivationCompleted, if_pos hs]
  cases success <;> rfl

theorem routingActivationCompleted_of_ne_activating (hs : h.state ≠ .activating) (success : Bool)
    (responseCode : UInt8) (outcome : SendOutcome) :
    h.routingActivationCompleted success responseCode outcome = h := by
  rw [routingActivationCompleted, if_neg hs]

/-! Headers -/

/-- Any valid header restarts the inactivity timer while routing is on. -/
def restarted (U : Upstream) : DoIpServerConnectionHandler :=
  if U.isRouting h then h.setTimer h.parameters.generalInactivityTimeout else h

theorem restarted_state (U : Upstream) : (h.restarted U).state = h.state := by
  rw [restarted]
  split <;> rfl

theorem restarted_sendJobPool (U : Upstream) : (h.restarted U).sendJobPool = h.sendJobPool := by
  rw [restarted]
  split <;> rfl

theorem restarted_payloadRequests (U : Upstream) :
    (h.restarted U).payloadRequests = h.payloadRequests := by
  rw [restarted]
  split <;> rfl

theorem restarted_messageHandlers (U : Upstream) :
    (h.restarted U).messageHandlers = h.messageHandlers := by
  rw [restarted]
  split <;> rfl

theorem restarted_jobsInFlight (U : Upstream) :
    (h.restarted U).jobsInFlight = h.jobsInFlight := by
  rw [restarted]
  split <;> rfl

theorem headerReceived_of_version {U : Upstream} {header : DoIpHeader}
    (hv : U.checkProtocolVersion header h.protocolVersion = true) (answers : HeaderAnswers) :
    h.headerReceived U header answers =
      match header.payloadType with
      | .routingActivationRequest =>
        (h.restarted U).headerReceivedRoutingActivationRequest U header answers
      | .aliveCheckResponse => (h.restarted U).headerReceivedAliveCheckResponse U header answers
      | .negativeAck => (h.restarted U).headerReceivedNegativeAck header
      | .diagnosticMessagePositiveAck | .diagnosticMessageNegativeAck =>
        (.handledByThisHandler, (h.restarted U).log [.connectionEndReceiveMessage])
      | _ => (h.restarted U).headerReceivedDefault U header answers := by
  rw [headerReceived, if_neg (by simp [hv])]
  rfl

theorem headerReceived_of_not_version {U : Upstream} {header : DoIpHeader}
    (hv : U.checkProtocolVersion header h.protocolVersion = false) (answers : HeaderAnswers) :
    h.headerReceived U header answers =
      (.payloadDiscarded, h.sendNack U.nackIncorrectPattern true answers.send) := by
  rw [headerReceived, if_pos (by simp [hv])]

/-- The offers of a header to the message handlers in `is`, up to the first that accepts it. -/
def offers (header : DoIpHeader) (accepts : Nat → Bool) : List Nat → List Call
  | [] => []
  | i :: is => .messageHandlerHeaderReceived i header (accepts i) ::
      if accepts i then [] else offers header accepts is

theorem exists_of_mem_offers {header : DoIpHeader} {accepts : Nat → Bool} {is : List Nat} {c : Call}
    (hc : c ∈ offers header accepts is) : ∃ i a, c = .messageHandlerHeaderReceived i header a := by
  induction is with
  | nil => cases hc
  | cons i is ih =>
    obtain rfl | hc := List.mem_cons.mp hc
    · exact ⟨i, accepts i, rfl⟩
    · split at hc
      · cases hc
      · exact ih hc

/-- Offering a header to the message handlers only writes the offers to the log. -/
theorem offerHeader_eq_log (header : DoIpHeader) (accepts : Nat → Bool) (is : List Nat) :
    offerHeader header accepts h is = (is.any accepts, h.log (offers header accepts is)) := by
  induction is generalizing h with
  | nil => simp [offerHeader, offers, log]
  | cons i is ih =>
    -- the first handler that accepts ends the loop
    rw [offerHeader, offers, List.any_cons]
    cases hi : accepts i with
    | true => rfl
    | false =>
      simp only [Bool.false_eq_true, if_false, Bool.false_or, ih]
      simp [log]

/-- A header of a type the handler does not deal with leaves a log entry for each offer, and a NACK
when nobody takes it. -/
theorem headerReceivedDefault_eq (U : Upstream) (header : DoIpHeader) (answers : HeaderAnswers) :
    h.headerReceivedDefault U header answers =
      if (List.range h.messageHandlers).any answers.headerReceived then
        (.handledByThisHandler,
          h.log (offers header answers.headerReceived (List.range h.messageHandlers)))
      else
        (.payloadDiscarded,
          (h.log (offers header answers.headerReceived (List.range h.messageHandlers))).sendNack
            U.nackUnknownPayloadType false answers.send) := by
  rw [headerReceivedDefault, offerHeader_eq_log]
  cases (List.range h.messageHandlers).any answers.headerReceived <;> rfl

theorem headerReceivedDefault_cases (U : Upstream) (header : DoIpHeader)
    (answers : HeaderAnswers) :
    ∃ cs : List Call, (∀ c ∈ cs, ∃ i a, c = .messageHandlerHeaderReceived i header a) ∧
      ((h.headerReceivedDefault U header answers).2 = h.log cs ∨
        (h.headerReceivedDefault U header answers).2 =
          (h.log cs).sendAllocated .negativeAck [U.nackUnknownPayloadType] false answers.send) := by
  refine ⟨offers header answers.headerReceived (List.range h.messageHandlers),
    fun c hc => exists_of_mem_offers hc, ?_⟩
  rw [headerReceivedDefault_eq]
  split
  · exact .inl rfl
  · exact .inr rfl

/-! Routing activation requests -/

/-- The handler once the owner has been asked about a routing activation request. -/
def checked (payload : List UInt8) : DoIpServerConnectionHandler :=
  h.log [.ownerCheckRoutingActivation (takeBeUInt16 payload 0) (payload.getD 2 0)
    (oemField payload) false]

/-- The handler that passes an accepted request on to the owner. -/
def activating (payload : List UInt8) (check : RoutingActivationCheckResult) :
    DoIpServerConnectionHandler :=
  ((h.checked payload).setSourceAddress (takeBeUInt16 payload 0)
    (check.resolveInternalSourceAddress (takeBeUInt16 payload 0))).setState .activating

theorem routingActivationRequestReceived_of_ne_continue (U : Upstream) (payload : List UInt8)
    {answers : ActivationAnswers} (ha : answers.check.action ≠ .continue) :
    h.routingActivationRequestReceived U payload answers =
      ((h.checked payload).sendAllocated .routingActivationResponse
        (h.responsePayload (takeBeUInt16 payload 0) answers.check.responseCode)
        (answers.check.action = .reject) answers.send).log [.connectionEndReceiveMessage] := by
  simp only [routingActivationRequestReceived]
  rw [if_pos ha]
  rfl

theorem routingActivationRequestReceived_of_inactive (U : Upstream) (payload : List UInt8)
    {answers : ActivationAnswers} (ha : answers.check.action = .continue)
    (hs : h.state = .inactive) :
    h.routingActivationRequestReceived U payload answers =
      ((h.activating payload answers.check).handleRoutingActivationRequest answers).log
        [.connectionEndReceiveMessage] := by
  simp only [routingActivationRequestReceived]
  rw [if_neg (not_not.mpr ha)]
  rw [if_pos (show (h.log _).state = .inactive from hs)]
  rfl

theorem routingActivationRequestReceived_of_ne_inactive (U : Upstream) (payload : List UInt8)
    {answers : ActivationAnswers} (ha : answers.check.action = .continue)
    (hs : h.state ≠ .inactive) :
    h.routingActivationRequestReceived U payload answers =
      ((h.checked payload).sendAllocated .routingActivationResponse
        (h.responsePayload (takeBeUInt16 payload 0)
          (if h.sourceAddress = takeBeUInt16 payload 0 then U.routingSuccess
            else U.routingWrongSourceAddress))
        (h.sourceAddress ≠ takeBeUInt16 payload 0) answers.send).log
          [.connectionEndReceiveMessage] := by
  simp only [routingActivationRequestReceived]
  rw [if_neg (not_not.mpr ha)]
  rw [if_neg (show (h.log _).state ≠ .inactive from hs)]
  by_cases hx : h.sourceAddress = takeBeUInt16 payload 0
  · rw [if_pos (show (h.log _).sourceAddress = _ from hx), if_pos hx]
    simp only [hx, ne_eq, not_true_eq_false, decide_false]
    rfl
  · rw [if_neg (show (h.log _).sourceAddress ≠ _ from hx), if_neg hx]
    simp only [hx, ne_eq, not_false_eq_true, decide_true]
    rfl

end DoIpServerConnectionHandler

end SovdDemo.Doip

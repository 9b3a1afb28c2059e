import SovdDemo.Doip.Types

/-!
# `DoIpServerConnectionHandler`

The methods of the overlay's connection handler, in the order of
`DoIpServerConnectionHandler.cpp`. A handler carries its data members and, beside them, what its
calls have done to the surroundings: the timer that is armed, the payloads it asked for, the jobs
the connection has accepted and not yet released, and the log of all calls.

Logging and the RAII lock of the send-job pool have no effect here and are left out, as are
`suspendSending` and `resumeSending`, which only forward to the connection.
-/

namespace SovdDemo.Doip

/-- A payload callback that `receivePayload` has accepted and that has not run yet. -/
structure PayloadRequest where
  callback : PayloadCallback
  length : Nat
  deriving DecidableEq, Repr

/-- The data members of the handler, and below them the state of its surroundings. -/
structure DoIpServerConnectionHandler where
  /-- `_callback != nullptr` -/
  hasCallback : Bool
  parameters : Parameters
  logicalEntityAddress : UInt16
  sourceAddress : UInt16
  internalSourceAddress : UInt16
  protocolVersion : UInt8
  state : State
  socketGroupId : UInt8
  aliveCheckPending : Bool
  isOrWasRouting : Bool
  /-- the number of registered message handlers -/
  messageHandlers : Nat
  /-- the free slots of `_sendJobPool` -/
  sendJobPool : List Nat
  /-- the timeout `_timerTimeout` is scheduled with -/
  timer : Option UInt32
  /-- `_connection.close()` has been called -/
  connectionIsClosed : Bool
  payloadRequests : List PayloadRequest
  /-- accepted by the connection and not yet released -/
  jobsInFlight : List SendJob
  calls : List Call
  deriving DecidableEq, Repr

/-- What is not under the overlay: the protocol constants, the header's version check and the
inline predicate `isRouting`. -/
structure Upstream where
  checkProtocolVersion : DoIpHeader → UInt8 → Bool
  isRouting : DoIpServerConnectionHandler → Bool
  invalidAddress : UInt16
  nackIncorrectPattern : UInt8
  nackUnknownPayloadType : UInt8
  nackInvalidPayloadLength : UInt8
  routingSuccess : UInt8
  routingWrongSourceAddress : UInt8

/-- The arguments of the constructor, and the sizes fixed before `start`. -/
structure Construction where
  protocolVersion : UInt8
  socketGroupId : UInt8
  logicalEntityAddress : UInt16
  parameters : Parameters
  messageHandlers : Nat
  sendJobs : Nat

/-- The two bytes `be_uint16_t` writes. -/
def beUInt16 (value : UInt16) : List UInt8 := [(value >>> 8).toUInt8, value.toUInt8]

/-- `estd::memory::take<be_uint16_t>` at position `i` of a payload. -/
def takeBeUInt16 (payload : List UInt8) (i : Nat) : UInt16 :=
  (payload.getD i 0).toUInt16 <<< 8 ||| (payload.getD (i + 1) 0).toUInt16

/-- `estd::memory::take<be_uint32_t>` at position `i` of a payload. -/
def takeBeUInt32 (payload : List UInt8) (i : Nat) : UInt32 :=
  (takeBeUInt16 payload i).toUInt32 <<< 16 ||| (takeBeUInt16 payload (i + 2)).toUInt32

namespace DoIpServerConnectionHandler

/-- The constructor, with its message handlers added and every send job in the pool. -/
def construct (U : Upstream) (c : Construction) : DoIpServerConnectionHandler where
  hasCallback := false
  parameters := c.parameters
  logicalEntityAddress := c.logicalEntityAddress
  sourceAddress := U.invalidAddress
  internalSourceAddress := U.invalidAddress
  protocolVersion := c.protocolVersion
  state := .inactive
  socketGroupId := c.socketGroupId
  aliveCheckPending := false
  isOrWasRouting := false
  messageHandlers := c.messageHandlers
  sendJobPool := List.range c.sendJobs
  timer := none
  connectionIsClosed := false
  payloadRequests := []
  jobsInFlight := []
  calls := []

variable (h : DoIpServerConnectionHandler)

/-! Assignments to single members. -/

def setState (state : State) : DoIpServerConnectionHandler := { h with state := state }

def setAliveCheckPending (pending : Bool) : DoIpServerConnectionHandler :=
  { h with aliveCheckPending := pending }

def setSourceAddress (sourceAddress internalSourceAddress : UInt16) :
    DoIpServerConnectionHandler :=
  { h with sourceAddress := sourceAddress, internalSourceAddress := internalSourceAddress }

def setSendJobPool (free : List Nat) : DoIpServerConnectionHandler :=
  { h with sendJobPool := free }

def setJobsInFlight (jobs : List SendJob) : DoIpServerConnectionHandler :=
  { h with jobsInFlight := jobs }

def setPayloadRequests (requests : List PayloadRequest) : DoIpServerConnectionHandler :=
  { h with payloadRequests := requests }

def disarmTimer : DoIpServerConnectionHandler := { h with timer := none }

def armTimer (timeoutInMs : UInt32) : DoIpServerConnectionHandler :=
  { h with timer := some timeoutInMs }

/-- Write calls to the log. -/
def log (cs : List Call) : DoIpServerConnectionHandler := { h with calls := h.calls ++ cs }

/-! The methods. -/

/-- One call for each message handler, in the order they were added. -/
def forMessageHandlers (call : Nat → Call) : DoIpServerConnectionHandler :=
  h.log ((List.range h.messageHandlers).map call)

def setTimer (timeoutInMs : UInt32) : DoIpServerConnectionHandler :=
  (h.armTimer timeoutInMs).log [.timerCancel, .timerSchedule timeoutInMs]

def sendConnectionOpened : DoIpServerConnectionHandler :=
  h.forMessageHandlers .messageHandlerConnectionOpened

def sendRoutingActive : DoIpServerConnectionHandler :=
  (h.forMessageHandlers .messageHandlerRoutingActive).log [.ownerRoutingActive]

def resume (sourceAddress : UInt16) : Bool × DoIpServerConnectionHandler :=
  if !h.hasCallback then
    (true, { h with sourceAddress := sourceAddress, state := .active, isOrWasRouting := true })
  else (false, h)

/-- `check` is the owner's answer, asked for only when the connection is being resumed. -/
def start (check : RoutingActivationCheckResult) : DoIpServerConnectionHandler :=
  if !h.hasCallback then
    let h := { h with hasCallback := true }.log [.connectionInit]
    let h := h.sendConnectionOpened
    if h.state = .inactive then h.setTimer h.parameters.initialInactivityTimeout
    else
      let h := h.log [.ownerCheckRoutingActivation h.sourceAddress 0 (some 0) true]
      let h := h.setSourceAddress h.sourceAddress
        (check.resolveInternalSourceAddress h.sourceAddress)
      (h.setTimer h.parameters.generalInactivityTimeout).sendRoutingActive
  else h

def close : DoIpServerConnectionHandler :=
  if h.state ≠ .shutdown then
    let h := { h.setState .shutdown with connectionIsClosed := true }.log [.connectionClose]
    let h := h.forMessageHandlers .messageHandlerConnectionClosed
    let h := h.disarmTimer.log [.timerCancel, .ownerConnectionClosed]
    -- the owner hears of a pending alive check only after it has been told of the closing
    if h.aliveCheckPending then h.log [.ownerAliveCheckResponseReceived false] else h
  else h

/-! The send-job pool. `allocateSendJob` hands out the first free slot; the job's payload is
written by the caller. -/

def allocateSendJob (payloadType : PayloadType) (payloadLength : Nat) (closeAfterSend : Bool) :
    Option SendJob × DoIpServerConnectionHandler :=
  if h.state = .shutdown then (none, h)
  else
    -- CLOSING is entered before it is known whether there is a job
    let h := if closeAfterSend then h.setState .closing else h
    match h.sendJobPool with
    | [] => (none, h)
    | slot :: free =>
      (some {
          slot := slot
          protocolVersion := h.protocolVersion
          payloadType := payloadType
          payload := List.replicate payloadLength 0
          releaseCallback :=
            if closeAfterSend then .releaseSendJobAndClose else .releaseSendJob },
        (h.setSendJobPool free).log [.poolAllocate slot])

def releaseSendJob (job : SendJob) (_success : Bool) : DoIpServerConnectionHandler :=
  (h.setSendJobPool (h.sendJobPool ++ [job.slot])).log [.poolRelease job.slot]

def releaseSendJobAndClose (job : SendJob) (success : Bool) : DoIpServerConnectionHandler :=
  (h.releaseSendJob job success).close

/-- The connection calls the release callback of a job. -/
def runReleaseCallback (job : SendJob) (success : Bool) : DoIpServerConnectionHandler :=
  match job.releaseCallback with
  | .releaseSendJob => h.releaseSendJob job success
  | .releaseSendJobAndClose => h.releaseSendJobAndClose job success

def sendOrReleaseMessage (job : SendJob) (outcome : SendOutcome) :
    Bool × DoIpServerConnectionHandler :=
  match outcome with
  -- `releaseSendJob` is called directly, whatever the release callback of the job is
  | .rejected => (false, (h.log [.connectionSendMessage job false]).releaseSendJob job false)
  | .accepted =>
    (true, (h.setJobsInFlight (h.jobsInFlight ++ [job])).log [.connectionSendMessage job true])
  | .released success =>
    (true, (h.log [.connectionSendMessage job true]).runReleaseCallback job success)

/-- The shape of `sendNack` and `sendRoutingActivationResponse`: allocate a job, write its payload
and send it; without a free job, close. -/
def sendAllocated (payloadType : PayloadType) (payload : List UInt8) (closeAfterSend : Bool)
    (outcome : SendOutcome) : DoIpServerConnectionHandler :=
  match h.allocateSendJob payloadType payload.length closeAfterSend with
  | (some job, h) => (h.sendOrReleaseMessage { job with payload := payload } outcome).2
  | (none, h) => h.close

def sendNack (nackCode : UInt8) (closeAfterSend : Bool) (outcome : SendOutcome) :
    DoIpServerConnectionHandler :=
  h.sendAllocated .negativeAck [nackCode] closeAfterSend outcome

/-- Nine bytes: the tester's address, the entity's address, the code and four reserved bytes. -/
def sendRoutingActivationResponse (sourceAddress : UInt16) (responseCode : UInt8)
    (closeAfterSend : Bool) (outcome : SendOutcome) : DoIpServerConnectionHandler :=
  h.sendAllocated .routingActivationResponse
    (beUInt16 sourceAddress ++ beUInt16 h.logicalEntityAddress ++ [responseCode] ++
      List.replicate 4 0)
    closeAfterSend outcome

def startAliveCheck (outcome : SendOutcome) : DoIpServerConnectionHandler :=
  if h.state = .active then
    let h := h.setAliveCheckPending true
    match h.allocateSendJob .aliveCheckRequest 0 false with
    | (some job, h) =>
      ((h.setTimer h.parameters.aliveCheckTimeout).sendOrReleaseMessage job outcome).2
    | (none, h) => h.close
  else if h.hasCallback then h.log [.ownerAliveCheckResponseReceived false]
  else h

/-- What `routingActivationCompleted` does after the response to a successful activation. -/
def activate : DoIpServerConnectionHandler :=
  let h := { h.setState .active with isOrWasRouting := true }
  (h.setTimer h.parameters.generalInactivityTimeout).sendRoutingActive

def routingActivationCompleted (success : Bool) (responseCode : UInt8) (outcome : SendOutcome) :
    DoIpServerConnectionHandler :=
  if h.state = .activating then
    let h := h.sendRoutingActivationResponse h.sourceAddress responseCode (!success) outcome
    -- the response may have closed the connection; `_state` is not looked at again
    if success then h.activate else h
  else h

def connectionClosed (_closedByRemotePeer : Bool) : DoIpServerConnectionHandler := h.close

/-! Headers. The answers the handler gets while it deals with a header: whether the connection
takes a `receivePayload`, which message handlers accept the header, and what becomes of a NACK. -/

structure HeaderAnswers where
  receivePayload : Bool
  headerReceived : Nat → Bool
  send : SendOutcome

def receivePayload (callback : PayloadCallback) (length : Nat) (accepted : Bool) :
    HeaderReceivedContinuation × DoIpServerConnectionHandler :=
  let h := h.log [.connectionReceivePayload callback length accepted]
  if accepted then
    (.handledByThisHandler, h.setPayloadRequests (h.payloadRequests ++ [⟨callback, length⟩]))
  else (.payloadDiscarded, h)

def headerReceivedRoutingActivationRequest (U : Upstream) (header : DoIpHeader)
    (answers : HeaderAnswers) : HeaderReceivedContinuation × DoIpServerConnectionHandler :=
  if header.payloadLength ≠ 7 ∧ header.payloadLength ≠ 11 then
    (.payloadDiscarded, h.sendNack U.nackInvalidPayloadLength true answers.send)
  else
    h.receivePayload .routingActivationRequestReceived header.payloadLength.toNat
      answers.receivePayload

def headerReceivedAliveCheckResponse (U : Upstream) (header : DoIpHeader)
    (answers : HeaderAnswers) : HeaderReceivedContinuation × DoIpServerConnectionHandler :=
  if header.payloadLength ≠ 2 then
    (.payloadDiscarded, h.sendNack U.nackInvalidPayloadLength true answers.send)
  else h.receivePayload .aliveCheckResponseReceived 2 answers.receivePayload

def headerReceivedNegativeAck (_header : DoIpHeader) :
    HeaderReceivedContinuation × DoIpServerConnectionHandler :=
  (.handledByThisHandler, h.log [.connectionEndReceiveMessage])

/-- Offer the header to the message handlers in `is`, up to the first that accepts it. -/
def offerHeader (header : DoIpHeader) (accepts : Nat → Bool) (h : DoIpServerConnectionHandler) :
    List Nat → Bool × DoIpServerConnectionHandler
  | [] => (false, h)
  | i :: is =>
    let h := h.log [.messageHandlerHeaderReceived i header (accepts i)]
    if accepts i then (true, h) else offerHeader header accepts h is

def headerReceivedDefault (U : Upstream) (header : DoIpHeader) (answers : HeaderAnswers) :
    HeaderReceivedContinuation × DoIpServerConnectionHandler :=
  match offerHeader header answers.headerReceived h (List.range h.messageHandlers) with
  | (true, h) => (.handledByThisHandler, h)
  | (false, h) => (.payloadDiscarded, h.sendNack U.nackUnknownPayloadType false answers.send)

def headerReceived (U : Upstream) (header : DoIpHeader) (answers : HeaderAnswers) :
    HeaderReceivedContinuation × DoIpServerConnectionHandler :=
  if !U.checkProtocolVersion header h.protocolVersion then
    (.payloadDiscarded, h.sendNack U.nackIncorrectPattern true answers.send)
  else
    let h := if U.isRouting h then h.setTimer h.parameters.generalInactivityTimeout else h
    match header.payloadType with
    | .routingActivationRequest => h.headerReceivedRoutingActivationRequest U header answers
    | .aliveCheckResponse => h.headerReceivedAliveCheckResponse U header answers
    | .negativeAck => h.headerReceivedNegativeAck header
    | .diagnosticMessagePositiveAck | .diagnosticMessageNegativeAck =>
      (.handledByThisHandler, h.log [.connectionEndReceiveMessage])
    | _ => h.headerReceivedDefault U header answers

/-! Payloads. -/

/-- The answers the handler gets while it deals with a routing activation request: the owner's
verdict, the activation result when the owner completes the activation within
`handleRoutingActivationRequest`, and what becomes of the response. -/
structure ActivationAnswers where
  check : RoutingActivationCheckResult
  completion : Option (Bool × UInt8)
  send : SendOutcome

/-- The OEM field is there when four bytes are left after the reserved ones. -/
def oemField (payload : List UInt8) : Option UInt32 :=
  if payload.length - 7 = 4 then some (takeBeUInt32 payload 7) else none

/-- `_callback->handleRoutingActivationRequest`, with an immediate completion if there is one. -/
def handleRoutingActivationRequest (answers : ActivationAnswers) : DoIpServerConnectionHandler :=
  let h := h.log [.ownerHandleRoutingActivationRequest]
  match answers.completion with
  | some (success, responseCode) => h.routingActivationCompleted success responseCode answers.send
  | none => h

def routingActivationRequestReceived (U : Upstream) (payload : List UInt8)
    (answers : ActivationAnswers) : DoIpServerConnectionHandler :=
  let sourceAddress := takeBeUInt16 payload 0
  let activationType := payload.getD 2 0
  let h := h.log
    [.ownerCheckRoutingActivation sourceAddress activationType (oemField payload) false]
  let result := answers.check
  let h :=
    if result.action ≠ .continue then
      h.sendRoutingActivationResponse sourceAddress result.responseCode
        (result.action = .reject) answers.send
    else if h.state = .inactive then
      let h := h.setSourceAddress sourceAddress (result.resolveInternalSourceAddress sourceAddress)
      (h.setState .activating).handleRoutingActivationRequest answers
    else if h.sourceAddress = sourceAddress then
      h.sendRoutingActivationResponse sourceAddress U.routingSuccess false answers.send
    else
      h.sendRoutingActivationResponse sourceAddress U.routingWrongSourceAddress true answers.send
  h.log [.connectionEndReceiveMessage]

def aliveCheckResponseReceived (payload : List UInt8) : DoIpServerConnectionHandler :=
  let sourceAddress := takeBeUInt16 payload 0
  let isExpectedAddress := sourceAddress == h.sourceAddress
  let h :=
    if h.aliveCheckPending then
      (h.setAliveCheckPending false).log [.ownerAliveCheckResponseReceived isExpectedAddress]
    else h
  if isExpectedAddress then h.log [.connectionEndReceiveMessage] else h.close

def timerExpired : DoIpServerConnectionHandler :=
  match h.state with
  | .inactive => h.close
  | .active =>
    let h := if h.aliveCheckPending then h else h.log [.connectionSetCloseModeAbort]
    h.close
  | _ => h

def execute : DoIpServerConnectionHandler := h.timerExpired

def shutdown : DoIpServerConnectionHandler := h.disarmTimer.log [.timerCancel]

end DoIpServerConnectionHandler

end SovdDemo.Doip

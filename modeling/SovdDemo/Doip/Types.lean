/-!
# What the DoIP connection handler exchanges with its surroundings

`DoIpServerConnectionHandler.cpp` is an overlay file: the classes it talks to (the TCP connection,
the owner behind `IDoIpServerConnectionHandlerCallback`, the message handlers, the timer, the
send-job pool) belong to the upstream framework. Every call the handler makes on one of them is an
entry of `Call`; every answer it gets back is data of the event that caused the call.

## Main definitions

- `State` — the connection states of the handler
- `SendJob` — a message taken from the send-job pool, with its release callback
- `Call` — one call of the handler on its surroundings
- `SendOutcome` — what `sendMessage` does with a job
-/

namespace SovdDemo.Doip

/-- `DoIpServerConnectionHandler::State`. -/
inductive State
  | inactive
  | activating
  | active
  | closing
  | shutdown
  deriving DecidableEq, Repr

/-- The payload types of `DoIpConstants::PayloadTypes` that the handler names, and all others. -/
inductive PayloadType
  | negativeAck
  | routingActivationRequest
  | routingActivationResponse
  | aliveCheckRequest
  | aliveCheckResponse
  | diagnosticMessagePositiveAck
  | diagnosticMessageNegativeAck
  | other (code : UInt16)
  deriving DecidableEq, Repr

/-- `DoIpHeader`, with the payload length as the 32-bit field of the wire. -/
structure DoIpHeader where
  protocolVersion : UInt8
  invertedProtocolVersion : UInt8
  payloadType : PayloadType
  payloadLength : UInt32
  deriving DecidableEq, Repr

/-- The release callback a send job is constructed with. -/
inductive ReleaseCallback
  | releaseSendJob
  | releaseSendJobAndClose
  deriving DecidableEq, Repr

/-- A `StaticPayloadSendJobType` in the pool slot `slot`. -/
structure SendJob where
  slot : Nat
  protocolVersion : UInt8
  payloadType : PayloadType
  payload : List UInt8
  releaseCallback : ReleaseCallback
  deriving DecidableEq, Repr

/-- The handler's own payload callbacks. -/
inductive PayloadCallback
  | routingActivationRequestReceived
  | aliveCheckResponseReceived
  deriving DecidableEq, Repr

/-- `IDoIpConnectionHandler::HeaderReceivedContinuation`. -/
inductive HeaderReceivedContinuation
  | payloadDiscarded
  | handledByThisHandler
  deriving DecidableEq, Repr

/-- `IDoIpServerConnectionFilter::Action`: the handler tells two of its values apart from all
others. -/
inductive Action
  | «continue»
  | reject
  | other (code : UInt8)
  deriving DecidableEq, Repr

/-- `IDoIpServerConnectionFilter::RoutingActivationCheckResult`. -/
structure RoutingActivationCheckResult where
  action : Action
  responseCode : UInt8
  resolveInternalSourceAddress : UInt16 → UInt16

/-- What the connection does with a job given to `sendMessage`. An accepted job is released later,
or, when the message goes out at once, within the call. -/
inductive SendOutcome
  | rejected
  | accepted
  | released (success : Bool)
  deriving DecidableEq, Repr

/-- The timeouts of `DoIpServerTransportLayerParameters` that the handler uses, in milliseconds. -/
structure Parameters where
  initialInactivityTimeout : UInt32
  generalInactivityTimeout : UInt32
  aliveCheckTimeout : UInt32
  deriving DecidableEq, Repr

/-- One call of the handler on its surroundings. Message handlers are named by their position. -/
inductive Call
  | connectionInit
  | connectionClose
  | connectionSetCloseModeAbort
  | connectionSendMessage (job : SendJob) (accepted : Bool)
  | connectionReceivePayload (callback : PayloadCallback) (length : Nat) (accepted : Bool)
  | connectionEndReceiveMessage
  | timerCancel
  | timerSchedule (timeoutInMs : UInt32)
  | poolAllocate (slot : Nat)
  | poolRelease (slot : Nat)
  | messageHandlerConnectionOpened (i : Nat)
  | messageHandlerConnectionClosed (i : Nat)
  | messageHandlerRoutingActive (i : Nat)
  | messageHandlerHeaderReceived (i : Nat) (header : DoIpHeader) (accepted : Bool)
  | ownerConnectionClosed
  | ownerRoutingActive
  | ownerAliveCheckResponseReceived (isAlive : Bool)
  | ownerHandleRoutingActivationRequest
  | ownerCheckRoutingActivation (sourceAddress : UInt16) (activationType : UInt8)
      (oemField : Option UInt32) (isResuming : Bool)
  deriving DecidableEq, Repr

end SovdDemo.Doip

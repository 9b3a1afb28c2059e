import SovdDemo.Doip.Handler
import SovdDemo.Foundations.Transition

/-!
# Runs of the connection handler

An `Event` is one call the surroundings make on the handler after `start`, together with the
answers the handler gets while it deals with the call. `enabled` holds what the upstream framework
promises about the order of these calls, and nothing more:

- the connection delivers no header and no payload after its `close`;
- a payload callback answers a `receivePayload` that was accepted, once, with the announced length;
- a timer expires only while it is armed, and is disarmed by expiring;
- the connection releases a job it has accepted, once, and never a job it has rejected.

A send that is rejected, an exhausted pool, a remote close, and a completion inside or after the
call that caused it can all occur at any point.
-/

namespace SovdDemo.Doip

open Foundations DoIpServerConnectionHandler

/-- A call on the handler, with the answers it gets from its surroundings. -/
inductive Event
  | headerReceived (header : DoIpHeader) (answers : HeaderAnswers)
  | routingActivationRequestReceived (payload : List UInt8) (answers : ActivationAnswers)
  | aliveCheckResponseReceived (payload : List UInt8)
  | startAliveCheck (send : SendOutcome)
  | routingActivationCompleted (success : Bool) (responseCode : UInt8) (send : SendOutcome)
  | connectionClosed (closedByRemotePeer : Bool)
  | timerExpired
  | jobReleased (job : SendJob) (success : Bool)
  | close
  | sendNack (nackCode : UInt8) (closeAfterSend : Bool) (send : SendOutcome)
  | shutdown

namespace Event

/-- What the upstream framework promises about when an event can occur. -/
def enabled (h : DoIpServerConnectionHandler) : Event → Prop
  | .headerReceived _ _ => h.connectionIsClosed = false
  | .routingActivationRequestReceived payload _ => h.connectionIsClosed = false ∧
      (⟨.routingActivationRequestReceived, payload.length⟩ : PayloadRequest) ∈ h.payloadRequests
  | .aliveCheckResponseReceived payload => h.connectionIsClosed = false ∧
      (⟨.aliveCheckResponseReceived, payload.length⟩ : PayloadRequest) ∈ h.payloadRequests
  | .timerExpired => h.timer.isSome
  | .jobReleased job _ => job ∈ h.jobsInFlight
  | .startAliveCheck _ | .routingActivationCompleted _ _ _ | .connectionClosed _ | .close
  | .sendNack _ _ _ | .shutdown => True

instance (h : DoIpServerConnectionHandler) (e : Event) : Decidable (e.enabled h) := by
  cases e <;> unfold enabled <;> infer_instance

def isShutdown : Event → Bool
  | .shutdown => true
  | _ => false

/-- The handler after the event. What the event itself uses up of the surroundings (the payload
request, the armed timer, the job in flight) goes first. -/
def step (U : Upstream) (h : DoIpServerConnectionHandler) : Event → DoIpServerConnectionHandler
  | .headerReceived header answers => (h.headerReceived U header answers).2
  | .routingActivationRequestReceived payload answers =>
    let request : PayloadRequest := ⟨.routingActivationRequestReceived, payload.length⟩
    (h.setPayloadRequests (h.payloadRequests.erase request)).routingActivationRequestReceived
      U payload answers
  | .aliveCheckResponseReceived payload =>
    let request : PayloadRequest := ⟨.aliveCheckResponseReceived, payload.length⟩
    (h.setPayloadRequests (h.payloadRequests.erase request)).aliveCheckResponseReceived payload
  | .startAliveCheck send => h.startAliveCheck send
  | .routingActivationCompleted success responseCode send =>
    h.routingActivationCompleted success responseCode send
  | .connectionClosed closedByRemotePeer => h.connectionClosed closedByRemotePeer
  | .timerExpired => h.disarmTimer.execute
  | .jobReleased job success =>
    (h.setJobsInFlight (h.jobsInFlight.erase job)).runReleaseCallback job success
  | .close => h.close
  | .sendNack nackCode closeAfterSend send => h.sendNack nackCode closeAfterSend send
  | .shutdown => h.shutdown

/-- The calls the handler makes in the step of an event. -/
def callsMade (U : Upstream) (h : DoIpServerConnectionHandler) (e : Event) : List Call :=
  (e.step U h).calls.drop h.calls.length

theorem callsMade_eq {U : Upstream} {h : DoIpServerConnectionHandler} {e : Event}
    {cs : List Call} (hcs : (e.step U h).calls = h.calls ++ cs) : e.callsMade U h = cs := by
  rw [callsMade, hcs, List.drop_left]

end Event

/-- A handler that has just been started, fresh or after `resume`. -/
def Started (U : Upstream) (h : DoIpServerConnectionHandler) : Prop :=
  ∃ c check, h = (construct U c).start check ∨
    ∃ sourceAddress, h = ((construct U c).resume sourceAddress).2.start check

/-- The handler after `start`, among its surroundings. -/
def connection (U : Upstream) : System DoIpServerConnectionHandler Event where
  init := Started U
  enabled h e := e.enabled h
  step h e := e.step U h

instance (U : Upstream) (h : DoIpServerConnectionHandler) (e : Event) :
    Decidable ((connection U).enabled h e) :=
  inferInstanceAs (Decidable (e.enabled h))

/-- The protocol's own constants and checks: the version byte and its complement have to agree, and
routing is on in ACTIVE. -/
def Upstream.iso13400 : Upstream where
  checkProtocolVersion header version :=
    header.protocolVersion == version && header.invertedProtocolVersion == ~~~version
  isRouting h := h.state = .active
  invalidAddress := 0xFFFF
  nackIncorrectPattern := 0x00
  nackUnknownPayloadType := 0x01
  nackInvalidPayloadLength := 0x04
  routingSuccess := 0x10
  routingWrongSourceAddress := 0x02

/-- A connection with one message handler and `sendJobs` jobs in its pool. -/
def Construction.withSendJobs (sendJobs : Nat) : Construction where
  protocolVersion := 2
  socketGroupId := 0
  logicalEntityAddress := 0x0600
  parameters := ⟨2000, 300000, 500⟩
  messageHandlers := 1
  sendJobs := sendJobs

/-- The handler with `sendJobs` jobs, just started. -/
def startedWith (sendJobs : Nat) : DoIpServerConnectionHandler :=
  (construct .iso13400 (.withSendJobs sendJobs)).start ⟨.continue, 0x10, id⟩

theorem started_startedWith (sendJobs : Nat) : Started .iso13400 (startedWith sendJobs) :=
  ⟨.withSendJobs sendJobs, ⟨.continue, 0x10, id⟩, .inl rfl⟩

/-- The handler with `sendJobs` jobs, resumed for the tester 0x0E00 and started: it is ACTIVE. -/
def resumedWith (sendJobs : Nat) : DoIpServerConnectionHandler :=
  ((construct .iso13400 (.withSendJobs sendJobs)).resume 0x0E00).2.start ⟨.continue, 0x10, id⟩

theorem started_resumedWith (sendJobs : Nat) : Started .iso13400 (resumedWith sendJobs) :=
  ⟨.withSendJobs sendJobs, ⟨.continue, 0x10, id⟩, .inr ⟨0x0E00, rfl⟩⟩

end SovdDemo.Doip

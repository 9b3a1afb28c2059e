import SovdDemo.Doip.Payloads
import SovdDemo.Doip.SendJobs

/-!
# Which messages a tester gets

The handler sends three kinds of messages: a NACK, the response to a routing activation request, and
an alive-check request. The response is due from the request on until the owner completes the
activation; everything else is sent in the step that calls for it, if there is a job for it.

## Main definitions

- `WellFormed` — the format of a message that the handler sends
- `Sends` — what an operation gives to the connection
- `Event.stimulus` — the kind of message an event calls for
- `due` — the response that the owner has not decided on yet

## Main results

- `readRoutingActivationResponse_responsePayload` — the tester reads back what the handler writes
- `Solicited.step` — a step sends what it calls for, or what has been due
- `wellFormed_of_run` — every message of a run is well formed
- `solicited_of_run` — and there is an event that called for it
-/

namespace SovdDemo.Doip

open Foundations DoIpServerConnectionHandler

/-! The format of a message -/

/-- What a tester reads in a routing activation response. -/
structure RoutingActivationResponse where
  sourceAddress : UInt16
  logicalEntityAddress : UInt16
  responseCode : UInt8
  deriving DecidableEq, Repr

/-- Nine bytes, of which the last four are reserved. -/
def readRoutingActivationResponse (payload : List UInt8) : Option RoutingActivationResponse :=
  if payload.length = 9 ∧ payload.drop 5 = [0, 0, 0, 0] then
    some ⟨takeBeUInt16 payload 0, takeBeUInt16 payload 2, payload.getD 4 0⟩
  else none

/-- The two bytes of an address give it back. -/
theorem takeBeUInt16_beUInt16 (value : UInt16) :
    takeBeUInt16 [(value >>> 8).toUInt8, value.toUInt8] 0 = value := by
  have hlt := value.toNat_lt
  have height : (8 : UInt16).toNat % 16 = 8 := rfl
  have hhigh : ((value >>> 8).toUInt8.toUInt16 <<< 8).toNat = (value.toNat / 256) <<< 8 := by
    simp only [UInt16.toNat_shiftLeft, UInt8.toNat_toUInt16, UInt16.toNat_toUInt8,
      UInt16.toNat_shiftRight, Nat.shiftRight_eq_div_pow, Nat.shiftLeft_eq, height]
    omega
  have hlow : value.toUInt8.toUInt16.toNat = value.toNat % 256 := by
    simp only [UInt8.toNat_toUInt16, UInt16.toNat_toUInt8]
  show (value >>> 8).toUInt8.toUInt16 <<< 8 ||| value.toUInt8.toUInt16 = value
  apply UInt16.toNat_inj.mp
  rw [UInt16.toNat_or, hhigh, hlow,
    ← Nat.shiftLeft_add_eq_or_of_lt (Nat.mod_lt _ (by decide)), Nat.shiftLeft_eq]
  omega

/-- The tester reads back what the handler writes. -/
theorem readRoutingActivationResponse_responsePayload (h : DoIpServerConnectionHandler)
    (sourceAddress : UInt16) (responseCode : UInt8) :
    readRoutingActivationResponse (h.responsePayload sourceAddress responseCode) =
      some ⟨sourceAddress, h.logicalEntityAddress, responseCode⟩ := by
  have hsource := takeBeUInt16_beUInt16 sourceAddress
  have hentity := takeBeUInt16_beUInt16 h.logicalEntityAddress
  rw [readRoutingActivationResponse, if_pos ⟨rfl, rfl⟩]
  have hread : takeBeUInt16 (h.responsePayload sourceAddress responseCode) 0 = sourceAddress ∧
      takeBeUInt16 (h.responsePayload sourceAddress responseCode) 2 = h.logicalEntityAddress :=
    ⟨hsource, hentity⟩
  rw [hread.1, hread.2]
  rfl

/-- The payload of a message of its type. -/
def PayloadFits (entityAddress : UInt16) : PayloadType → List UInt8 → Prop
  | .negativeAck, payload => ∃ nackCode, payload = [nackCode]
  | .aliveCheckRequest, payload => payload = []
  | .routingActivationResponse, payload => ∃ sourceAddress responseCode,
    readRoutingActivationResponse payload = some ⟨sourceAddress, entityAddress, responseCode⟩
  | _, _ => False

/-- A message that the handler sends: of its own protocol version, and of one of three types with
the payload that goes with it. -/
structure WellFormed (protocolVersion : UInt8) (entityAddress : UInt16) (job : SendJob) : Prop where
  version : job.protocolVersion = protocolVersion
  payload : PayloadFits entityAddress job.payloadType job.payload

/-! The messages of an operation -/

/-- The operation gives well-formed messages of the types in `allowed` to the connection, one for
each entry at most. -/
structure Sends (allowed : List PayloadType) (h g : DoIpServerConnectionHandler) : Prop where
  version : g.protocolVersion = h.protocolVersion
  entity : g.logicalEntityAddress = h.logicalEntityAddress
  jobs : ∃ jobs, Writes Call.sentJob h.calls g.calls jobs ∧
    (∀ job ∈ jobs, WellFormed h.protocolVersion h.logicalEntityAddress job) ∧
    ∀ payloadType, (jobs.map SendJob.payloadType).count payloadType ≤ allowed.count payloadType

namespace Sends

variable {allowed allowed' : List PayloadType} {h g k : DoIpServerConnectionHandler}

/-- An operation that sends nothing. -/
theorem of_silent (hg : Silent h g) : Sends [] h g :=
  ⟨hg.version, hg.entity, [], hg.jobs, List.forall_mem_nil _, fun _ => Nat.le_refl 0⟩

theorem refl (h : DoIpServerConnectionHandler) : Sends [] h h := of_silent (.refl h)

theorem trans (hg : Sends allowed h g) (hk : Sends allowed' g k) :
    Sends (allowed ++ allowed') h k := by
  obtain ⟨hv, he, jobs, hjobs, hfits, hcount⟩ := hg
  obtain ⟨hv', he', jobs', hjobs', hfits', hcount'⟩ := hk
  rw [hv, he] at hfits'
  refine ⟨hv'.trans hv, he'.trans he, jobs ++ jobs', hjobs.trans hjobs',
    List.forall_mem_append.mpr ⟨hfits, hfits'⟩, fun payloadType => ?_⟩
  rw [List.map_append, List.count_append, List.count_append]
  exact Nat.add_le_add (hcount _) (hcount' _)

theorem after_silent (hg : Silent h g) (hk : Sends allowed g k) : Sends allowed h k :=
  (of_silent hg).trans hk

theorem then_silent (hg : Sends allowed h g) (hk : Silent g k) : Sends allowed h k := by
  have hall := hg.trans (of_silent hk)
  rwa [List.append_nil] at hall

/-- What has been asked for before does not matter. -/
theorem congr (hg : Sends allowed h g) (hv : h.protocolVersion = k.protocolVersion)
    (he : h.logicalEntityAddress = k.logicalEntityAddress) (hc : h.calls = k.calls) :
    Sends allowed k g := by
  obtain ⟨hv', he', jobs, hjobs, hfits, hcount⟩ := hg
  rw [hv, he] at hfits
  exact ⟨hv'.trans hv, he'.trans he, jobs, hc ▸ hjobs, hfits, hcount⟩

/-- Nothing has to be sent. -/
theorem weaken (hg : Sends [] h g) (allowed : List PayloadType) : Sends allowed h g := by
  obtain ⟨hv, he, jobs, hjobs, hfits, hcount⟩ := hg
  exact ⟨hv, he, jobs, hjobs, hfits, fun payloadType =>
    Nat.le_trans (hcount payloadType) (Nat.zero_le _)⟩

/-- A message of a type with a payload that fits. -/
theorem sendAllocated (h : DoIpServerConnectionHandler) {payloadType : PayloadType}
    {payload : List UInt8} (hfits : PayloadFits h.logicalEntityAddress payloadType payload)
    (closeAfterSend : Bool) (outcome : SendOutcome) :
    Sends [payloadType] h (h.sendAllocated payloadType payload closeAfterSend outcome) := by
  refine h.sendAllocated_of_sent ((refl h).weaken _) (fun hg => hg.then_silent (.close _)) ?_
  intro slot free _ _
  refine ⟨rfl, rfl, [h.jobFor slot payloadType payload closeAfterSend], ?_, ?_, ?_⟩
  · cases outcome <;> exact .append _ _
  · exact List.forall_mem_singleton.mpr ⟨rfl, hfits⟩
  · exact fun _ => Nat.le_refl _

theorem sendNack (h : DoIpServerConnectionHandler) (nackCode : UInt8) (closeAfterSend : Bool)
    (outcome : SendOutcome) : Sends [.negativeAck] h (h.sendNack nackCode closeAfterSend outcome) :=
  sendAllocated h (show PayloadFits _ .negativeAck [nackCode] from ⟨nackCode, rfl⟩)
    closeAfterSend outcome

theorem response (h : DoIpServerConnectionHandler) (sourceAddress : UInt16) (responseCode : UInt8)
    (closeAfterSend : Bool) (outcome : SendOutcome) :
    Sends [.routingActivationResponse] h (h.sendAllocated .routingActivationResponse
      (h.responsePayload sourceAddress responseCode) closeAfterSend outcome) := by
  have hfits : PayloadFits h.logicalEntityAddress .routingActivationResponse
      (h.responsePayload sourceAddress responseCode) :=
    ⟨_, _, readRoutingActivationResponse_responsePayload h sourceAddress responseCode⟩
  exact sendAllocated h hfits closeAfterSend outcome

theorem receivePayload (h : DoIpServerConnectionHandler) (callback : PayloadCallback)
    (length : Nat) (accepted : Bool) :
    Sends [] h (h.receivePayload callback length accepted).2 := by
  cases accepted <;>
    exact ⟨rfl, rfl, [], .append _ _, List.forall_mem_nil _, fun _ => Nat.le_refl 0⟩

theorem headerReceivedDefault (h : DoIpServerConnectionHandler) (U : Upstream)
    (header : DoIpHeader) (answers : HeaderAnswers) :
    Sends [.negativeAck] h (h.headerReceivedDefault U header answers).2 := by
  obtain ⟨cs, hoffers, hd⟩ := h.headerReceivedDefault_cases U header answers
  have hoffered : Silent h (h.log cs) := by
    refine .log h fun c hc => ?_
    obtain ⟨i, a, rfl⟩ := hoffers c hc
    exact ⟨rfl, rfl⟩
  rcases hd with hd | hd
  · rw [hd]
    exact (of_silent hoffered).weaken _
  · rw [hd]
    exact after_silent hoffered (sendNack _ U.nackUnknownPayloadType false answers.send)

/-- A header is answered with a NACK at most. -/
theorem headerReceived (h : DoIpServerConnectionHandler) (U : Upstream) (header : DoIpHeader)
    (answers : HeaderAnswers) :
    Sends [.negativeAck] h (h.headerReceived U header answers).2 := by
  cases hv : U.checkProtocolVersion header h.protocolVersion with
  | false =>
    rw [h.headerReceived_of_not_version hv]
    exact sendNack h _ _ _
  | true =>
    rw [h.headerReceived_of_version hv]
    refine after_silent (.restarted U h) ?_
    split
    · rw [headerReceivedRoutingActivationRequest]
      split
      · exact sendNack _ _ _ _
      · exact (receivePayload _ _ _ _).weaken _
    · rw [headerReceivedAliveCheckResponse]
      split
      · exact sendNack _ _ _ _
      · exact (receivePayload _ _ _ _).weaken _
    · exact (of_silent (.endReceiveMessage _)).weaken _
    · exact (of_silent (.endReceiveMessage _)).weaken _
    · exact (of_silent (.endReceiveMessage _)).weaken _
    · exact headerReceivedDefault _ U header answers

theorem startAliveCheck (h : DoIpServerConnectionHandler) (outcome : SendOutcome) :
    Sends [.aliveCheckRequest] h (h.startAliveCheck outcome) := by
  obtain ⟨-, heq⟩ | ⟨-, -, heq⟩ | ⟨-, slot, free, -, heq⟩ := h.startAliveCheck_cases outcome
  · rw [heq]
    split
    · exact (of_silent (.log_one h rfl rfl)).weaken _
    · exact (refl h).weaken _
  · rw [heq]
    have hup : Silent h (h.setAliveCheckPending true) := ⟨rfl, rfl, rfl, .refl _, .refl _⟩
    exact (of_silent (hup.trans (.close _))).weaken _
  · rw [heq]
    refine ⟨rfl, rfl, [h.jobFor slot .aliveCheckRequest [] false], ?_, ?_, fun _ => Nat.le_refl _⟩
    · cases outcome <;> exact .append _ _
    · have hfits : PayloadFits h.logicalEntityAddress .aliveCheckRequest [] := rfl
      exact List.forall_mem_singleton.mpr ⟨rfl, hfits⟩

/-- The owner's completion of an activation. -/
theorem routingActivationCompleted (h : DoIpServerConnectionHandler) (success : Bool)
    (responseCode : UInt8) (outcome : SendOutcome) :
    Sends [.routingActivationResponse] h
      (h.routingActivationCompleted success responseCode outcome) := by
  by_cases hs : h.state = .activating
  · rw [h.routingActivationCompleted_of_activating hs]
    split
    · exact (response h h.sourceAddress responseCode false outcome).then_silent (.activate _)
    · exact response h _ _ _ _
  · rw [h.routingActivationCompleted_of_ne_activating hs]
    exact (refl h).weaken _

/-- A routing activation request is answered at once or passed on to the owner. -/
theorem routingActivationRequestReceived (h : DoIpServerConnectionHandler) (U : Upstream)
    (payload : List UInt8) (answers : ActivationAnswers) :
    Sends [.routingActivationResponse] h
      (h.routingActivationRequestReceived U payload answers) := by
  have hchecked : Silent h (h.checked payload) := .checked h payload
  by_cases ha : answers.check.action = .continue
  · by_cases hs : h.state = .inactive
    · rw [h.routingActivationRequestReceived_of_inactive U payload ha hs]
      refine then_silent ?_ (.endReceiveMessage _)
      rw [handleRoutingActivationRequest]
      split
      · exact after_silent (.activating h payload _) (routingActivationCompleted _ _ _ _)
      · exact (of_silent (.activating h payload _)).weaken _
    · rw [h.routingActivationRequestReceived_of_ne_inactive U payload ha hs]
      exact (after_silent hchecked (response _ _ _ _ _)).then_silent (.endReceiveMessage _)
  · rw [h.routingActivationRequestReceived_of_ne_continue U payload ha]
    exact (after_silent hchecked (response _ _ _ _ _)).then_silent (.endReceiveMessage _)

end Sends

/-! The messages of a step -/

/-- The kind of message that an event calls for, in its own step or once the owner has decided. -/
def Event.stimulus : Event → Option PayloadType
  | .headerReceived _ _ | .sendNack _ _ _ => some .negativeAck
  | .routingActivationRequestReceived _ _ => some .routingActivationResponse
  | .startAliveCheck _ => some .aliveCheckRequest
  | _ => none

/-- A step sends what its event calls for. A response that has been due is sent when the owner
completes the activation. -/
theorem Sends.step (U : Upstream) (h : DoIpServerConnectionHandler) {e : Event}
    (ha : ¬ ∃ success responseCode send,
      e = .routingActivationCompleted success responseCode send) :
    Sends e.stimulus.toList h (e.step U h) := by
  cases e with
  | headerReceived header answers => exact headerReceived h U header answers
  | routingActivationRequestReceived payload answers =>
    exact (routingActivationRequestReceived (h.setPayloadRequests _) U payload answers).congr
      rfl rfl rfl
  | aliveCheckResponseReceived payload =>
    exact (of_silent (.aliveCheckResponseReceived (h.setPayloadRequests _) payload)).congr
      rfl rfl rfl
  | startAliveCheck send => exact startAliveCheck h send
  | routingActivationCompleted success responseCode send =>
    exact absurd ⟨success, responseCode, send, rfl⟩ ha
  | connectionClosed closedByRemotePeer => exact of_silent (.close h)
  | timerExpired => exact of_silent (.timerExpired h)
  | jobReleased job success => exact of_silent (.jobReleased h job success)
  | close => exact of_silent (.close h)
  | sendNack nackCode closeAfterSend send => exact sendNack h nackCode closeAfterSend send
  | shutdown => exact of_silent (.shutdown h)

/-! The response that is due -/

/-- The response that the handler owes the tester until the owner has decided. -/
def due (h : DoIpServerConnectionHandler) : List PayloadType :=
  if h.state = .activating then [.routingActivationResponse] else []

theorem due_of_ne_activating {h : DoIpServerConnectionHandler} (hs : h.state ≠ .activating) :
    due h = [] := if_neg hs

/-- The owner's decision ends an activation. -/
theorem routingActivationCompleted_state_ne (h : DoIpServerConnectionHandler) (success : Bool)
    (responseCode : UInt8) (outcome : SendOutcome) :
    (h.routingActivationCompleted success responseCode outcome).state ≠ .activating := by
  by_cases hs : h.state = .activating
  · rw [h.routingActivationCompleted_of_activating hs]
    split
    · exact State.noConfusion
    · obtain ⟨hdown, -⟩ | ⟨-, -, heq⟩ | ⟨-, slot, free, -, heq | ⟨-, heq⟩⟩ :=
        h.sendAllocated_cases .routingActivationResponse
          (h.responsePayload h.sourceAddress responseCode) true outcome
      · rw [hs] at hdown
        cases hdown
      · rw [heq, close_state]
        exact State.noConfusion
      · rw [heq]
        exact State.noConfusion
      · rw [heq, close_state]
        exact State.noConfusion
  · rw [h.routingActivationCompleted_of_ne_activating hs]
    exact hs

/-- What is sent and what is due afterwards has been due before, or is called for. -/
def Solicited (stimuli : List PayloadType) (h g : DoIpServerConnectionHandler) : Prop :=
  ∃ sent, Sends sent h g ∧ ∀ payloadType,
    sent.count payloadType + (due g).count payloadType ≤
      stimuli.count payloadType + (due h).count payloadType

namespace Solicited

variable {stimuli stimuli' : List PayloadType} {h g k : DoIpServerConnectionHandler}

theorem refl (h : DoIpServerConnectionHandler) : Solicited [] h h :=
  ⟨[], .refl h, fun _ => Nat.le_refl _⟩

theorem trans (hg : Solicited stimuli h g) (hk : Solicited stimuli' g k) :
    Solicited (stimuli ++ stimuli') h k := by
  obtain ⟨sent, hsends, hcount⟩ := hg
  obtain ⟨sent', hsends', hcount'⟩ := hk
  refine ⟨sent ++ sent', hsends.trans hsends', fun payloadType => ?_⟩
  have hfirst := hcount payloadType
  have hsecond := hcount' payloadType
  rw [List.count_append, List.count_append]
  omega

/-- An operation after which no more is due than before. -/
theorem of_sends (hg : Sends stimuli h g)
    (hs : g.state = .activating → h.state = .activating) : Solicited stimuli h g := by
  refine ⟨stimuli, hg, fun payloadType => Nat.add_le_add_left ?_ _⟩
  by_cases hact : g.state = .activating
  · rw [due, due, if_pos hact, if_pos (hs hact)]
  · rw [due_of_ne_activating hact]
    exact Nat.zero_le _

/-- The owner's decision settles what is due. -/
theorem routingActivationCompleted (h : DoIpServerConnectionHandler) (success : Bool)
    (responseCode : UInt8) (outcome : SendOutcome) :
    Solicited [] h (h.routingActivationCompleted success responseCode outcome) := by
  by_cases hs : h.state = .activating
  · refine ⟨_, .routingActivationCompleted h success responseCode outcome, fun payloadType => ?_⟩
    rw [due_of_ne_activating (routingActivationCompleted_state_ne h success responseCode outcome),
      due, if_pos hs, List.count_nil, Nat.add_zero, Nat.zero_add]
  · rw [h.routingActivationCompleted_of_ne_activating hs]
    exact refl h

/-- The request that is passed on to the owner makes a response due, unless the owner decides within
the call. -/
theorem routingActivationRequestReceived (U : Upstream) (payload : List UInt8)
    {answers : ActivationAnswers} (ha : answers.check.action = .continue)
    (hs : h.state = .inactive) :
    Solicited [.routingActivationResponse] h
      (h.routingActivationRequestReceived U payload answers) := by
  rw [h.routingActivationRequestReceived_of_inactive U payload ha hs]
  have hasked : Solicited [.routingActivationResponse] h
      ((h.activating payload answers.check).log [.ownerHandleRoutingActivationRequest]) := by
    refine ⟨[], .of_silent (.activating h payload _), fun payloadType => ?_⟩
    have hresponse : due ((h.activating payload answers.check).log
        [.ownerHandleRoutingActivationRequest]) = [.routingActivationResponse] := if_pos rfl
    rw [hresponse, List.count_nil, Nat.zero_add]
    exact Nat.le_add_right _ _
  have hend : ∀ g : DoIpServerConnectionHandler,
      Solicited [] g (g.log [.connectionEndReceiveMessage]) :=
    fun g => of_sends (.of_silent (.endReceiveMessage g)) id
  rw [handleRoutingActivationRequest]
  split
  · exact (hasked.trans (routingActivationCompleted _ _ _ _)).trans (hend _)
  · exact hasked.trans (hend _)

/-- A step sends what it calls for, or what has been due. -/
theorem step (U : Upstream) (h : DoIpServerConnectionHandler) (e : Event) :
    Solicited e.stimulus.toList h (e.step U h) := by
  by_cases ha : Activates h e
  · cases e with
    | routingActivationRequestReceived payload answers =>
      have hused : Solicited [] h (h.setPayloadRequests (h.payloadRequests.erase
          ⟨.routingActivationRequestReceived, payload.length⟩)) :=
        of_sends ((Sends.refl (h.setPayloadRequests _)).congr rfl rfl rfl) id
      exact hused.trans (routingActivationRequestReceived U payload ha.1 ha.2)
    | routingActivationCompleted success responseCode send =>
      exact routingActivationCompleted h success responseCode send
    | _ => exact ha.elim
  · by_cases hc : ∃ success responseCode send,
      e = .routingActivationCompleted success responseCode send
    · obtain ⟨success, responseCode, send, rfl⟩ := hc
      exact routingActivationCompleted h success responseCode send
    · refine of_sends (.step U h hc) (Steady.step U ?_).activating
      cases e with
      | routingActivationRequestReceived payload answers => exact if_neg ha
      | _ => rfl

end Solicited

/-! The messages of a life -/

def Life.stimulus : Life → Option PayloadType
  | .event e => e.stimulus
  | .resume _ | .start _ => none

theorem Solicited.life (U : Upstream) (c : Construction) (h : DoIpServerConnectionHandler)
    (l : Life) : Solicited l.stimulus.toList h ((lifetime U c).step h l) := by
  cases l with
  | resume sourceAddress =>
    have hresumed : Sends [] h (h.resume sourceAddress).2 := by
      rw [resume]
      split <;> exact .of_silent ⟨rfl, rfl, rfl, .refl _, .refl _⟩
    refine .of_sends hresumed ?_
    show (h.resume sourceAddress).2.state = _ → _
    rw [resume]
    split
    · exact State.noConfusion
    · exact id
  | start check =>
    refine .of_sends (.of_silent (.start h check)) ?_
    show (h.start check).state = _ → _
    rw [start_state]
    exact id
  | event e => exact .step U h e

/-- All messages of a run are called for, from any state. -/
theorem solicited_from {U : Upstream} {c : Construction} {ls : List Life}
    {h t : DoIpServerConnectionHandler} (hr : (lifetime U c).Run h ls t) :
    Solicited (ls.filterMap Life.stimulus) h t := by
  rw [List.filterMap_eq_flatMap_toList]
  induction hr with
  | nil h => exact .refl h
  | cons _ _ ih => exact (Solicited.life U c _ _).trans ih

/-- Whatever happens in the life of a handler, every message that it gives to the connection is well
formed, and carries its own protocol version and address. -/
theorem wellFormed_of_run (U : Upstream) (c : Construction) {ls : List Life}
    {h : DoIpServerConnectionHandler} (hr : (lifetime U c).Run (construct U c) ls h) :
    ∀ job accepted, .connectionSendMessage job accepted ∈ h.calls →
      WellFormed c.protocolVersion c.logicalEntityAddress job := by
  intro job accepted hm
  obtain ⟨sent, ⟨-, -, jobs, hjobs, hfits, -⟩, -⟩ := solicited_from hr
  have hall : h.calls.filterMap Call.sentJob = jobs := hjobs.filterMap_eq
  apply hfits
  rw [← hall]
  exact List.mem_filterMap.mpr ⟨_, hm, rfl⟩

/-- A handler that is started, and then deals with two testers. -/
def lifeWithTwoTesters : List Life :=
  .start ⟨.continue, 0x10, id⟩ :: twoTesters.map .event

/-- The handler tells the second tester that the address is not the one of the connection. -/
theorem wellFormed_lifeWithTwoTesters :
    WellFormed (Construction.withSendJobs 2).protocolVersion
      (Construction.withSendJobs 2).logicalEntityAddress
      ⟨1, 0x02, .routingActivationResponse, [0x0F, 0x00, 0x06, 0x00, 0x02, 0, 0, 0, 0],
        .releaseSendJobAndClose⟩ := by
  have hr : (lifetime .iso13400 (.withSendJobs 2)).Run (construct .iso13400 (.withSendJobs 2))
      lifeWithTwoTesters _ := .of_enabledAll (by decide)
  exact wellFormed_of_run .iso13400 (.withSendJobs 2) hr _ true (by decide)

/-- No message comes unasked for: of each kind, what has been sent, and the response that is due,
are not more than the events that called for one. -/
theorem solicited_of_run (U : Upstream) (c : Construction) {ls : List Life}
    {h : DoIpServerConnectionHandler} (hr : (lifetime U c).Run (construct U c) ls h)
    (payloadType : PayloadType) :
    ((h.calls.filterMap Call.sentJob).map SendJob.payloadType).count payloadType +
      (due h).count payloadType ≤ (ls.filterMap Life.stimulus).count payloadType := by
  obtain ⟨sent, ⟨-, -, jobs, hjobs, -, hcount⟩, hdue⟩ := solicited_from hr
  have hall : h.calls.filterMap Call.sentJob = jobs := hjobs.filterMap_eq
  rw [hall]
  exact Nat.le_trans (Nat.add_le_add_right (hcount payloadType) _) (hdue payloadType)

theorem solicited_lifeWithTwoTesters :
    (((lifeWithTwoTesters.foldl (lifetime .iso13400 (.withSendJobs 2)).step
        (construct .iso13400 (.withSendJobs 2))).calls.filterMap Call.sentJob).map
          SendJob.payloadType).count .routingActivationResponse +
      (due (lifeWithTwoTesters.foldl (lifetime .iso13400 (.withSendJobs 2)).step
        (construct .iso13400 (.withSendJobs 2)))).count .routingActivationResponse ≤
      (lifeWithTwoTesters.filterMap Life.stimulus).count .routingActivationResponse :=
  solicited_of_run .iso13400 (.withSendJobs 2) (.of_enabledAll (by decide))
    .routingActivationResponse

end SovdDemo.Doip

import SovdDemo.Doip.Operations

/-!
# Every message is finished once

A header starts a message, and somebody has to finish it: the connection when the handler returns
the discard continuation, a message handler that takes it, or the handler itself, which calls
`endReceiveMessage` at once or asks for the payload and calls it from the payload callback. A
message that is finished twice, or never, leaves the stream out of step.

## Main definitions

- `Call.disposal` — the calls by which a message is taken over or finished
- `Disposed` — the ways in which a header can be dealt with
- `Finishes` — a payload callback finishes its message

## Main results

- `disposed_headerReceived` — every header is dealt with in one of them
- `finishes` — and so is the payload of each callback
- `disposed_once` — no other event takes over or finishes a message
-/

namespace SovdDemo.Doip

open Foundations DoIpServerConnectionHandler

/-- A message is ended, its payload asked for with success, or taken by a message handler. -/
def Call.isDisposal : Call → Bool
  | .connectionEndReceiveMessage => true
  | .connectionReceivePayload _ _ accepted => accepted
  | .messageHandlerHeaderReceived _ _ accepted => accepted
  | _ => false

def Call.disposal (c : Call) : Option Call := if c.isDisposal then some c else none

namespace Event

/-- The calls of a step by which a message is taken over or finished. -/
def disposals (U : Upstream) (h : DoIpServerConnectionHandler) (e : Event) : List Call :=
  (e.callsMade U h).filterMap Call.disposal

/-- The events by which the connection delivers a message. -/
def isReceiving : Event → Bool
  | .headerReceived _ _ | .routingActivationRequestReceived _ _
  | .aliveCheckResponseReceived _ => true
  | _ => false

end Event

/-- The payload callback finishes the message of `length` bytes, whatever has happened since it was
asked for: it ends the message once, or, for an alive-check response with another address than the
bound one, closes instead. -/
def Finishes (U : Upstream) (callback : PayloadCallback) (length : Nat) : Prop :=
  ∀ (h : DoIpServerConnectionHandler) (payload : List UInt8), payload.length = length →
    match callback with
    | .routingActivationRequestReceived => ∀ answers : ActivationAnswers,
        (Event.routingActivationRequestReceived payload answers).disposals U h =
          [.connectionEndReceiveMessage]
    | .aliveCheckResponseReceived =>
      if takeBeUInt16 payload 0 = h.sourceAddress then
        (Event.aliveCheckResponseReceived payload).disposals U h = [.connectionEndReceiveMessage]
      else
        (Event.aliveCheckResponseReceived payload).disposals U h = [] ∧
          ((Event.aliveCheckResponseReceived payload).step U h).state = .shutdown ∧
          (h.state ≠ .shutdown →
            .connectionClose ∈ (Event.aliveCheckResponseReceived payload).callsMade U h)

/-- The ways in which a header is dealt with, by the continuation that is returned and by all calls
that take over or finish the message. -/
inductive Disposed (U : Upstream) (h : DoIpServerConnectionHandler) (header : DoIpHeader)
    (answers : HeaderAnswers) : Prop
  /-- the connection discards the payload -/
  | discarded
      (hcontinuation : (h.headerReceived U header answers).1 = .payloadDiscarded)
      (hdisposals : (Event.headerReceived header answers).disposals U h = [])
  /-- the first message handler that accepts the header takes the message -/
  | taken (i : Nat) (hi : i < h.messageHandlers) (haccepts : answers.headerReceived i = true)
      (hfirst : ∀ j < i, answers.headerReceived j = false)
      (hcontinuation : (h.headerReceived U header answers).1 = .handledByThisHandler)
      (hdisposals : (Event.headerReceived header answers).disposals U h =
        [.messageHandlerHeaderReceived i header true])
  /-- the handler ends the message at once -/
  | ended
      (hcontinuation : (h.headerReceived U header answers).1 = .handledByThisHandler)
      (hdisposals : (Event.headerReceived header answers).disposals U h =
        [.connectionEndReceiveMessage])
  /-- the handler asks for the payload, and its callback finishes the message -/
  | requested (callback : PayloadCallback)
      (hcontinuation : (h.headerReceived U header answers).1 = .handledByThisHandler)
      (hdisposals : (Event.headerReceived header answers).disposals U h =
        [.connectionReceivePayload callback header.payloadLength.toNat true])
      (hrequest : ((Event.headerReceived header answers).step U h).payloadRequests =
        h.payloadRequests ++ [⟨callback, header.payloadLength.toNat⟩])
      (hfinishes : Finishes U callback header.payloadLength.toNat)

/-! What an operation takes over or finishes -/

/-- The operation makes the calls `ds`, and no others, to take over or finish a message. -/
def Disposes (h g : DoIpServerConnectionHandler) (ds : List Call) : Prop :=
  Writes Call.disposal h.calls g.calls ds

theorem Event.disposals_eq {U : Upstream} {h : DoIpServerConnectionHandler} {e : Event}
    {ds : List Call} (hd : Disposes h (e.step U h) ds) : e.disposals U h = ds := hd.filterMap_drop

namespace Disposes

variable {h g k : DoIpServerConnectionHandler} {ds es : List Call}

theorem refl (h : DoIpServerConnectionHandler) : Disposes h h [] := Writes.refl _

theorem of_calls_eq (hc : g.calls = h.calls) : Disposes h g [] := by
  rw [Disposes, hc]
  exact Writes.refl h.calls

/-- An operation that follows one that takes over nothing. -/
theorem after (hg : Disposes h g []) (hk : Disposes g k es) : Disposes h k es := Writes.trans hg hk

theorem log (h : DoIpServerConnectionHandler) (cs : List Call) :
    Disposes h (h.log cs) (cs.filterMap Call.disposal) := Writes.append _ _

theorem close (h : DoIpServerConnectionHandler) : Disposes h h.close [] :=
  h.writes_close rfl (fun _ => rfl) rfl rfl rfl

theorem sent (h : DoIpServerConnectionHandler) (slot : Nat) (free : List Nat)
    (payloadType : PayloadType) (payload : List UInt8) (closeAfterSend : Bool)
    (outcome : SendOutcome) :
    Disposes h (h.sent slot free payloadType payload closeAfterSend outcome) [] := by
  refine ⟨_, sent_calls _ _ _ _ _ _ _, ?_⟩
  cases outcome <;> rfl

/-- Sending a message finishes none that is received. -/
theorem sendAllocated (h : DoIpServerConnectionHandler) (payloadType : PayloadType)
    (payload : List UInt8) (closeAfterSend : Bool) (outcome : SendOutcome) :
    Disposes h (h.sendAllocated payloadType payload closeAfterSend outcome) [] :=
  h.sendAllocated_of_sent (P := fun g => Disposes h g []) (refl h) (fun hg => hg.after (close _))
    fun slot free _ _ => sent h slot free _ _ _ _

theorem restarted (h : DoIpServerConnectionHandler) (U : Upstream) :
    Disposes h (h.restarted U) [] := by
  rw [DoIpServerConnectionHandler.restarted]
  split
  · exact ⟨_, rfl, rfl⟩
  · exact refl h

theorem runReleaseCallback (h : DoIpServerConnectionHandler) (job : SendJob) (success : Bool) :
    Disposes h (h.runReleaseCallback job success) [] := by
  have hr : Disposes h (h.releaseSendJob job success) [] := ⟨_, rfl, rfl⟩
  cases hj : job.releaseCallback with
  | releaseSendJob => rwa [runReleaseCallback_of_releaseSendJob h hj]
  | releaseSendJobAndClose =>
    rw [runReleaseCallback_of_releaseSendJobAndClose h hj]
    exact hr.after (close _)

theorem startAliveCheck (h : DoIpServerConnectionHandler) (outcome : SendOutcome) :
    Disposes h (h.startAliveCheck outcome) [] := by
  obtain ⟨-, heq⟩ | ⟨-, -, heq⟩ | ⟨-, slot, free, -, heq⟩ := h.startAliveCheck_cases outcome
  · rw [heq]
    split
    · exact log h [.ownerAliveCheckResponseReceived false]
    · exact refl h
  · rw [heq]
    exact (of_calls_eq rfl).after (close (h.setAliveCheckPending true))
  · rw [heq]
    cases outcome <;> exact Writes.append _ _

theorem activate (h : DoIpServerConnectionHandler) : Disposes h h.activate [] :=
  h.writes_activate rfl (fun _ => rfl) (fun _ => rfl) rfl

theorem routingActivationCompleted (h : DoIpServerConnectionHandler) (success : Bool)
    (responseCode : UInt8) (outcome : SendOutcome) :
    Disposes h (h.routingActivationCompleted success responseCode outcome) [] := by
  by_cases hs : h.state = .activating
  · rw [h.routingActivationCompleted_of_activating hs]
    split
    · exact (sendAllocated h _ _ _ outcome).after (activate _)
    · exact sendAllocated h _ _ _ outcome
  · rw [h.routingActivationCompleted_of_ne_activating hs]
    exact refl h

theorem timerExpired (h : DoIpServerConnectionHandler) : Disposes h h.timerExpired [] := by
  rw [DoIpServerConnectionHandler.timerExpired]
  split
  · exact close h
  · refine after ?_ (close _)
    split
    · exact refl h
    · exact log h [.connectionSetCloseModeAbort]
  · exact refl h

/-! Payloads -/

theorem handleRoutingActivationRequest (h : DoIpServerConnectionHandler)
    (answers : ActivationAnswers) : Disposes h (h.handleRoutingActivationRequest answers) [] := by
  have hl := log h [.ownerHandleRoutingActivationRequest]
  rw [DoIpServerConnectionHandler.handleRoutingActivationRequest]
  split
  · exact hl.after (routingActivationCompleted _ _ _ answers.send)
  · exact hl

/-- Whatever becomes of a routing activation request, its message is ended. -/
theorem routingActivationRequestReceived (h : DoIpServerConnectionHandler) (U : Upstream)
    (payload : List UInt8) (answers : ActivationAnswers) :
    Disposes h (h.routingActivationRequestReceived U payload answers)
      [.connectionEndReceiveMessage] := by
  have hc : Disposes h (h.checked payload) [] := ⟨_, rfl, rfl⟩
  by_cases hact : answers.check.action = .continue
  · by_cases hs : h.state = .inactive
    · rw [h.routingActivationRequestReceived_of_inactive U payload hact hs]
      have ha : Disposes h (h.activating payload answers.check) [] := ⟨_, rfl, rfl⟩
      exact (ha.after (handleRoutingActivationRequest _ answers)).after (log _ _)
    · rw [h.routingActivationRequestReceived_of_ne_inactive U payload hact hs]
      exact (hc.after (sendAllocated _ _ _ _ answers.send)).after (log _ _)
  · rw [h.routingActivationRequestReceived_of_ne_continue U payload hact]
    exact (hc.after (sendAllocated _ _ _ _ answers.send)).after (log _ _)

theorem answered (h : DoIpServerConnectionHandler) (payload : List UInt8) :
    Disposes h (h.answered payload) [] := by
  rw [DoIpServerConnectionHandler.answered]
  split
  · exact ⟨_, rfl, rfl⟩
  · exact refl h

end Disposes

/-! Payload callbacks -/

theorem finishes_routingActivationRequestReceived (U : Upstream) (length : Nat) :
    Finishes U .routingActivationRequestReceived length := by
  intro h payload _ answers
  apply Event.disposals_eq
  have hreq : Disposes h (h.setPayloadRequests (h.payloadRequests.erase
    ⟨.routingActivationRequestReceived, payload.length⟩)) [] := .of_calls_eq rfl
  exact hreq.after (.routingActivationRequestReceived _ U payload answers)

theorem finishes_aliveCheckResponseReceived (U : Upstream) (length : Nat) :
    Finishes U .aliveCheckResponseReceived length := by
  intro h payload _
  let g := h.setPayloadRequests (h.payloadRequests.erase
    ⟨.aliveCheckResponseReceived, payload.length⟩)
  have hanswered : Disposes h (g.answered payload) [] :=
    (Disposes.of_calls_eq rfl).after (.answered g payload)
  have hstep : (Event.aliveCheckResponseReceived payload).step U h =
      if takeBeUInt16 payload 0 == h.sourceAddress then
        (g.answered payload).log [.connectionEndReceiveMessage]
      else (g.answered payload).close := g.aliveCheckResponseReceived_eq payload
  by_cases hx : takeBeUInt16 payload 0 = h.sourceAddress
  · rw [if_pos (beq_iff_eq.mpr hx)] at hstep
    show if takeBeUInt16 payload 0 = h.sourceAddress then _ else _
    rw [if_pos hx]
    apply Event.disposals_eq
    rw [hstep]
    exact hanswered.after (.log _ _)
  · rw [if_neg (by simpa using hx)] at hstep
    show if takeBeUInt16 payload 0 = h.sourceAddress then _ else _
    rw [if_neg hx]
    refine ⟨?_, ?_, ?_⟩
    · apply Event.disposals_eq
      rw [hstep]
      exact hanswered.after (.close _)
    · rw [hstep, close_state]
    · intro hs
      -- the handler was not in SHUTDOWN, so `close` has closed the connection
      obtain ⟨cs, hcs, -⟩ := hanswered
      have hs' : (g.answered payload).state ≠ .shutdown := by rwa [answered_state]
      have hcalls : ((Event.aliveCheckResponseReceived payload).step U h).calls =
          h.calls ++ (cs ++ (g.answered payload).closingCalls) := by
        rw [hstep, close_of_ne_shutdown _ hs', log_calls]
        show (g.answered payload).calls ++ _ = _
        rw [hcs, List.append_assoc]
      rw [Event.callsMade_eq hcalls]
      exact List.mem_append_right _ (connectionClose_mem_closingCalls _)

theorem finishes (U : Upstream) (callback : PayloadCallback) (length : Nat) :
    Finishes U callback length := by
  cases callback with
  | routingActivationRequestReceived => exact finishes_routingActivationRequestReceived U length
  | aliveCheckResponseReceived => exact finishes_aliveCheckResponseReceived U length

/-! Headers -/

/-- Among the offers of a header only the one that is accepted takes the message. -/
theorem filterMap_disposal_offers (header : DoIpHeader) (accepts : Nat → Bool) (is : List Nat) :
    (offers header accepts is).filterMap Call.disposal =
      ((is.find? accepts).map fun i => Call.messageHandlerHeaderReceived i header true).toList := by
  induction is with
  | nil => rfl
  | cons i is ih =>
    rw [offers, List.find?_cons]
    cases hi : accepts i with
    | true => rfl
    | false => exact ih

section

variable {U : Upstream} {h g : DoIpServerConnectionHandler} {header : DoIpHeader}
  {answers : HeaderAnswers} {continuation : HeaderReceivedContinuation} {ds : List Call}

theorem disposals_headerReceived
    (heq : h.headerReceived U header answers = (continuation, g)) (hg : Disposes h g ds) :
    (Event.headerReceived header answers).disposals U h = ds := by
  apply Event.disposals_eq
  rwa [show (Event.headerReceived header answers).step U h = g from congrArg Prod.snd heq]

namespace Disposed

theorem of_discarded (heq : h.headerReceived U header answers = (.payloadDiscarded, g))
    (hg : Disposes h g []) : Disposed U h header answers :=
  .discarded (by rw [heq]) (disposals_headerReceived heq hg)

theorem of_ended (heq : h.headerReceived U header answers = (.handledByThisHandler, g))
    (hg : Disposes h g [.connectionEndReceiveMessage]) : Disposed U h header answers :=
  .ended (by rw [heq]) (disposals_headerReceived heq hg)

/-- A header whose payload is asked for. -/
theorem of_receivePayload {callback : PayloadCallback}
    (heq : h.headerReceived U header answers =
      g.receivePayload callback header.payloadLength.toNat answers.receivePayload)
    (hg : Disposes h g []) (hr : g.payloadRequests = h.payloadRequests) :
    Disposed U h header answers := by
  cases ha : answers.receivePayload with
  | false =>
    rw [ha] at heq
    exact of_discarded heq (hg.after (.log g _))
  | true =>
    rw [ha] at heq
    refine .requested callback (by rw [heq]; rfl) ?_ ?_ (finishes U callback _)
    · exact disposals_headerReceived heq (hg.after ⟨_, rfl, rfl⟩)
    · show (h.headerReceived U header answers).2.payloadRequests = _
      rw [heq, ← hr]
      rfl

/-- A header that is offered to the message handlers. -/
theorem of_headerReceivedDefault
    (heq : h.headerReceived U header answers = g.headerReceivedDefault U header answers)
    (hg : Disposes h g []) (hm : g.messageHandlers = h.messageHandlers) :
    Disposed U h header answers := by
  rw [headerReceivedDefault_eq, hm] at heq
  have hoffers := hg.after (.log g (offers header answers.headerReceived
    (List.range h.messageHandlers)))
  rw [filterMap_disposal_offers] at hoffers
  cases hf : (List.range h.messageHandlers).find? answers.headerReceived with
  | none =>
    rw [hf] at hoffers
    rw [if_neg] at heq
    · exact of_discarded heq (hoffers.after (.sendAllocated _ _ _ _ answers.send))
    · rw [List.any_eq_true]
      rintro ⟨i, hi, ha⟩
      exact List.find?_eq_none.mp hf i hi ha
  | some i =>
    rw [hf] at hoffers
    obtain ⟨ha, hi, hfirst⟩ := List.find?_range_eq_some.mp hf
    rw [if_pos (List.any_eq_true.mpr ⟨i, hi, ha⟩)] at heq
    refine .taken i (List.mem_range.mp hi) ha ?_ (by rw [heq]) ?_
    · intro j hj
      simpa using hfirst j hj
    · exact disposals_headerReceived heq hoffers

end Disposed

/-- Every header is dealt with in one way, whatever the handler, the connection and the message
handlers do. -/
theorem disposed_headerReceived (U : Upstream) (h : DoIpServerConnectionHandler)
    (header : DoIpHeader) (answers : HeaderAnswers) : Disposed U h header answers := by
  cases hv : U.checkProtocolVersion header h.protocolVersion with
  | false =>
    exact .of_discarded (h.headerReceived_of_not_version hv answers)
      (.sendAllocated h _ _ _ answers.send)
  | true =>
    have heq := h.headerReceived_of_version hv answers
    have hr : Disposes h (h.restarted U) [] := .restarted h U
    cases hp : header.payloadType with
    | routingActivationRequest =>
      simp only [hp, headerReceivedRoutingActivationRequest] at heq
      split at heq
      · exact .of_discarded heq (hr.after (.sendAllocated _ _ _ _ answers.send))
      · exact .of_receivePayload heq hr (h.restarted_payloadRequests U)
    | aliveCheckResponse =>
      simp only [hp, headerReceivedAliveCheckResponse] at heq
      split at heq
      · exact .of_discarded heq (hr.after (.sendAllocated _ _ _ _ answers.send))
      · rename_i hl
        have hlength : header.payloadLength.toNat = 2 := by
          rw [not_not.mp hl]
          rfl
        rw [← hlength] at heq
        exact .of_receivePayload heq hr (h.restarted_payloadRequests U)
    | negativeAck | diagnosticMessagePositiveAck | diagnosticMessageNegativeAck =>
      simp only [hp] at heq
      exact .of_ended heq (hr.after (.log _ [.connectionEndReceiveMessage]))
    | _ =>
      simp only [hp] at heq
      exact .of_headerReceivedDefault heq hr (h.restarted_messageHandlers U)

end

/-- The other events take over and finish nothing. -/
theorem disposals_of_not_isReceiving (U : Upstream) (h : DoIpServerConnectionHandler) (e : Event)
    (he : e.isReceiving = false) : e.disposals U h = [] := by
  apply Event.disposals_eq
  cases e with
  | headerReceived header answers => cases he
  | routingActivationRequestReceived payload answers => cases he
  | aliveCheckResponseReceived payload => cases he
  | startAliveCheck send => exact .startAliveCheck h send
  | routingActivationCompleted success responseCode send =>
    exact .routingActivationCompleted h success responseCode send
  | connectionClosed closedByRemotePeer => exact .close h
  | timerExpired => exact .timerExpired h.disarmTimer
  | jobReleased job success => exact .runReleaseCallback (h.setJobsInFlight _) job success
  | close => exact .close h
  | sendNack nackCode closeAfterSend send => exact .sendAllocated h _ _ closeAfterSend send
  | shutdown => exact .log h.disarmTimer [.timerCancel]

/-- Every message is finished once: each header is dealt with in one of the ways of `Disposed`, and
no event but a header and a payload takes over or finishes a message. -/
theorem disposed_once (U : Upstream) (h : DoIpServerConnectionHandler) (header : DoIpHeader)
    (answers : HeaderAnswers) :
    Disposed U h header answers ∧
      ∀ (g : DoIpServerConnectionHandler) (e : Event), e.isReceiving = false →
        e.disposals U g = [] :=
  ⟨disposed_headerReceived U h header answers, disposals_of_not_isReceiving U⟩

end SovdDemo.Doip

import SovdDemo.Doip.Sending

/-!
# Who is told that routing is active?

An activation takes time: between the request and `routingActivationCompleted` the handler is
ACTIVATING, and the owner may still turn the tester down. A further request with the bound address
gets to the branch that answers ROUTING_SUCCESS in every state but INACTIVE, since the branch looks
at the address only: so a tester is told of a success while the activation is undecided, and again
once the connection has begun to close.

## Main definitions

- `SuccessOnlyWhenActive` — a step answers ROUTING_SUCCESS to a repeated request only in ACTIVE
- `SucceedsEarly` — a repeated request in ACTIVATING or CLOSING, with a job the connection takes

## Main results

- `successOnlyWhenActive_iff` — the one is the absence of the other, at every enabled step
- `successOnlyWhenActive_along_iff` — and along every run
-/

namespace SovdDemo.Doip

open Foundations DoIpServerConnectionHandler

/-- A routing activation response with the code ROUTING_SUCCESS, taken by the connection. -/
def Call.sendsRoutingSuccess (U : Upstream) : Call → Bool
  | .connectionSendMessage job true =>
    job.payloadType == .routingActivationResponse && job.payload[4]? == some U.routingSuccess
  | _ => false

/-- The request of a step, when it gets to the branch for the bound address. -/
def SameAddressBranch (h : DoIpServerConnectionHandler) : Event → Prop
  | .routingActivationRequestReceived payload answers =>
    answers.check.action = .continue ∧ h.state ≠ .inactive ∧
      h.sourceAddress = takeBeUInt16 payload 0
  | _ => False

instance (h : DoIpServerConnectionHandler) : ∀ e, Decidable (SameAddressBranch h e)
  | .routingActivationRequestReceived _ _ => inferInstanceAs (Decidable (_ ∧ _ ∧ _))
  | .headerReceived _ _ | .aliveCheckResponseReceived _ | .startAliveCheck _
  | .routingActivationCompleted _ _ _ | .connectionClosed _ | .timerExpired | .jobReleased _ _
  | .close | .sendNack _ _ _ | .shutdown => inferInstanceAs (Decidable False)

/-- In the branch for the bound address, ROUTING_SUCCESS goes out only while routing is active. -/
def SuccessOnlyWhenActive (U : Upstream) (h : DoIpServerConnectionHandler) (e : Event) : Prop :=
  SameAddressBranch h e → (∃ c ∈ e.callsMade U h, c.sendsRoutingSuccess U = true) →
    h.state = .active ∧ h.connectionIsClosed = false

instance (U : Upstream) (h : DoIpServerConnectionHandler) (e : Event) :
    Decidable (SuccessOnlyWhenActive U h e) :=
  inferInstanceAs (Decidable (_ → _ → _ ∧ _))

/-- The routing activation request repeats the bound address while the activation is undecided or
the connection closing, and finds a job that the connection takes. -/
def SucceedsEarly (h : DoIpServerConnectionHandler) : Event → Prop
  | .routingActivationRequestReceived payload answers =>
    (answers.check.action = .continue ∧ h.sourceAddress = takeBeUInt16 payload 0) ∧
      (h.state = .activating ∨ h.state = .closing) ∧
      h.sendJobPool ≠ [] ∧ answers.send ≠ .rejected
  | _ => False

instance (h : DoIpServerConnectionHandler) : ∀ e, Decidable (SucceedsEarly h e)
  | .routingActivationRequestReceived _ _ => inferInstanceAs (Decidable (_ ∧ _ ∧ _ ∧ _))
  | .headerReceived _ _ | .aliveCheckResponseReceived _ | .startAliveCheck _
  | .routingActivationCompleted _ _ _ | .connectionClosed _ | .timerExpired | .jobReleased _ _
  | .close | .sendNack _ _ _ | .shutdown => inferInstanceAs (Decidable False)

/-! What the response writes to the log -/

namespace DoIpServerConnectionHandler

variable (h : DoIpServerConnectionHandler)

/-- Nothing `close` does is a message. -/
theorem sendsRoutingSuccess_of_mem_closingCalls (U : Upstream) :
    ∀ c ∈ h.closingCalls, c.sendsRoutingSuccess U = false :=
  h.forall_mem_closingCalls rfl (fun _ => rfl) rfl rfl rfl

/-- The response code is the fifth byte. -/
theorem responsePayload_getElem?_four (sourceAddress : UInt16) (responseCode : UInt8) :
    (h.responsePayload sourceAddress responseCode)[4]? = some responseCode := by
  simp [responsePayload, beUInt16]

/-- A job with a success response is a success that is sent unless the connection rejects it. -/
theorem exists_mem_sendingCalls_iff (U : Upstream) (slot : Nat) (sourceAddress : UInt16)
    (outcome : SendOutcome) :
    (∃ c ∈ sendingCalls (h.jobFor slot .routingActivationResponse
        (h.responsePayload sourceAddress U.routingSuccess) false) outcome,
      c.sendsRoutingSuccess U = true) ↔ outcome ≠ .rejected := by
  have hcode := h.responsePayload_getElem?_four sourceAddress U.routingSuccess
  cases outcome <;> simp [sendingCalls, Call.sendsRoutingSuccess, jobFor, hcode]

/-- A success response is sent exactly when there is a job for it that the connection takes. -/
theorem exists_sendsRoutingSuccess_iff (U : Upstream) (sourceAddress : UInt16)
    (outcome : SendOutcome) :
    ∃ cs, (h.sendAllocated .routingActivationResponse
        (h.responsePayload sourceAddress U.routingSuccess) false outcome).calls = h.calls ++ cs ∧
      ((∃ c ∈ cs, c.sendsRoutingSuccess U = true) ↔
        h.state ≠ .shutdown ∧ h.sendJobPool ≠ [] ∧ outcome ≠ .rejected) := by
  obtain ⟨hs, heq⟩ | ⟨hs, hp, heq⟩ | ⟨hs, slot, free, hp, heq | ⟨hfalse, -⟩⟩ :=
    h.sendAllocated_cases .routingActivationResponse
      (h.responsePayload sourceAddress U.routingSuccess) false outcome
  · refine ⟨[], ?_, ?_⟩
    · rw [heq, List.append_nil]
    · simp [hs]
  · -- without a job the handler closes, and sends nothing
    refine ⟨h.closingCalls, ?_, ?_⟩
    · rw [heq, h.close_of_ne_shutdown hs]
      rfl
    · refine iff_of_false ?_ fun hc => hc.2.1 hp
      rintro ⟨c, hc, hsend⟩
      rw [h.sendsRoutingSuccess_of_mem_closingCalls U c hc] at hsend
      cases hsend
  · refine ⟨_, ?_, (h.exists_mem_sendingCalls_iff U slot sourceAddress outcome).trans ?_⟩
    · rw [heq, sent_calls]
    · simp [hs, hp]
  · cases hfalse

end DoIpServerConnectionHandler

/-- The calls of a request in the branch for the bound address: the owner's verdict, the response,
and the end of the message. -/
theorem exists_callsMade_sendsRoutingSuccess_iff (U : Upstream) {h : DoIpServerConnectionHandler}
    {payload : List UInt8} {answers : ActivationAnswers}
    (hb : SameAddressBranch h (.routingActivationRequestReceived payload answers)) :
    (∃ c ∈ (Event.routingActivationRequestReceived payload answers).callsMade U h,
        c.sendsRoutingSuccess U = true) ↔
      h.state ≠ .shutdown ∧ h.sendJobPool ≠ [] ∧ answers.send ≠ .rejected := by
  obtain ⟨ha, hs, hx⟩ := hb
  let g := h.setPayloadRequests (h.payloadRequests.erase
    ⟨.routingActivationRequestReceived, payload.length⟩)
  obtain ⟨cs, hcs, hiff⟩ := (g.checked payload).exists_sendsRoutingSuccess_iff U
    (takeBeUInt16 payload 0) answers.send
  have hstep : (Event.routingActivationRequestReceived payload answers).step U h =
      ((g.checked payload).sendAllocated .routingActivationResponse
        ((g.checked payload).responsePayload (takeBeUInt16 payload 0) U.routingSuccess) false
          answers.send).log [.connectionEndReceiveMessage] := by
    have hx' : g.sourceAddress = takeBeUInt16 payload 0 := hx
    refine (g.routingActivationRequestReceived_of_ne_inactive U payload ha hs).trans ?_
    rw [if_pos hx', decide_eq_false (not_not.mpr hx')]
    rfl
  have hcalls : ((Event.routingActivationRequestReceived payload answers).step U h).calls =
      h.calls ++ (.ownerCheckRoutingActivation (takeBeUInt16 payload 0) (payload.getD 2 0)
        (oemField payload) false :: (cs ++ [.connectionEndReceiveMessage])) := by
    rw [hstep, log_calls, hcs]
    show h.calls ++ _ ++ cs ++ _ = _
    simp
  rw [Event.callsMade_eq hcalls]
  -- neither the question to the owner nor the end of the message is a response
  have hcheck (a t o r) :
      (Call.ownerCheckRoutingActivation a t o r).sendsRoutingSuccess U = false := rfl
  have hend : Call.connectionEndReceiveMessage.sendsRoutingSuccess U = false := rfl
  refine Iff.trans ?_ hiff
  simp [hcheck, hend, or_and_right, exists_or]

/-- An enabled step answers ROUTING_SUCCESS outside ACTIVE exactly when it repeats the bound address
too early or too late, and finds a job that the connection takes. -/
theorem successOnlyWhenActive_iff (U : Upstream) {h : DoIpServerConnectionHandler} {e : Event}
    (he : (connection U).enabled h e) :
    SuccessOnlyWhenActive U h e ↔ ¬ SucceedsEarly h e := by
  cases e with
  | routingActivationRequestReceived payload answers =>
    by_cases hb : SameAddressBranch h (.routingActivationRequestReceived payload answers)
    · have hsent := exists_callsMade_sendsRoutingSuccess_iff U hb
      obtain ⟨ha, hs, hx⟩ := hb
      rw [SuccessOnlyWhenActive, hsent]
      have hopen : h.connectionIsClosed = false := he.1
      simp only [SameAddressBranch, SucceedsEarly, ha, hx, hopen]
      cases hstate : h.state <;> simp_all
    · refine iff_of_true (fun h' => absurd h' hb) ?_
      rintro ⟨⟨ha, hx⟩, hstate, -⟩
      refine hb ⟨ha, ?_, hx⟩
      rcases hstate with hstate | hstate <;> rw [hstate] <;> decide
  | _ => exact iff_of_true (fun hb => hb.elim) id

/-- In every run, the branch for the bound address answers ROUTING_SUCCESS only in ACTIVE exactly
when no request repeats the bound address in ACTIVATING or CLOSING with a job that is sent. -/
theorem successOnlyWhenActive_along_iff (U : Upstream) {h t : DoIpServerConnectionHandler}
    {es : List Event} (hr : (connection U).Run h es t) :
    (connection U).Along (SuccessOnlyWhenActive U) h es ↔
      (connection U).Along (fun h e => ¬ SucceedsEarly h e) h es :=
  hr.along_congr fun _ _ he => successOnlyWhenActive_iff U he

/-- A routing activation request of the tester 0x0E00: its header, and then its payload, which the
owner lets through without deciding yet. -/
def undecidedRequest : List Event :=
  [.headerReceived ⟨2, 0xFD, .routingActivationRequest, 7⟩ ⟨true, fun _ => false, .accepted⟩,
    .routingActivationRequestReceived [0x0E, 0x00, 0, 0, 0, 0, 0]
      ⟨⟨.continue, 0x10, id⟩, none, .accepted⟩]

/-- After the activation has been completed, the request can be repeated. -/
theorem successOnlyWhenActive_completed :
    (connection .iso13400).Along (SuccessOnlyWhenActive .iso13400) (startedWith 1)
      (undecidedRequest ++ .routingActivationCompleted true 0x10 (.released true) ::
        undecidedRequest) :=
  (successOnlyWhenActive_along_iff .iso13400 (.of_enabledAll (by decide))).mpr (by decide)

/-- The same request again, before the owner has decided, is answered with a success. -/
theorem not_successOnlyWhenActive_repeated :
    ¬ ∀ U h t es, Started U h → (connection U).Run h es t →
      (connection U).Along (SuccessOnlyWhenActive U) h es := by
  intro hall
  have halong := hall .iso13400 (startedWith 1) _ (undecidedRequest ++ undecidedRequest)
    (started_startedWith 1) (.of_enabledAll (by decide))
  exact absurd halong (by decide)

end SovdDemo.Doip

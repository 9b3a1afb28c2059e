import SovdDemo.Doip.AddressBinding

/-!
# Which payloads does the handler read?

The two payload callbacks read an address, an activation type and an OEM field at fixed positions,
without looking at the length of what they were given. That is fine because the length was looked at
when the payload was asked for: a header with another length never leads to a request. So the
payload requests are followed through a run, from the header to the payload that answers one.

## Main definitions

- `PayloadRequest.Fits` — the lengths that a callback can read
- `Call.request`, `Event.answered` — a request that is made, and one that is answered
- `Requests` — an operation of the handler makes these requests
- `PayloadsAccounted` — what has been asked for and answered in a run

## Main results

- `requests_step` — the requests of a step
- `payloadsAccounted_of_run` — no payload is answered unasked, and none is too short for its reads
-/

namespace SovdDemo.Doip

open Foundations DoIpServerConnectionHandler

/-- The lengths that a callback can read: an address for an alive-check response, and for a routing
activation request an address, a type and four reserved bytes, with four more for the OEM. -/
def PayloadRequest.Fits (request : PayloadRequest) : Prop :=
  match request.callback with
  | .routingActivationRequestReceived => request.length = 7 ∨ request.length = 11
  | .aliveCheckResponseReceived => request.length = 2

/-- A request that the connection has accepted. -/
def Call.request : Call → Option PayloadRequest
  | .connectionReceivePayload callback length true => some ⟨callback, length⟩
  | _ => none

/-- The request that an event answers. -/
def Event.answered : Event → Option PayloadRequest
  | .routingActivationRequestReceived payload _ =>
    some ⟨.routingActivationRequestReceived, payload.length⟩
  | .aliveCheckResponseReceived payload => some ⟨.aliveCheckResponseReceived, payload.length⟩
  | _ => none

/-! Operations that neither send nor ask -/

/-- An operation that gives no message to the connection and makes no request. -/
structure Silent (h g : DoIpServerConnectionHandler) : Prop where
  version : g.protocolVersion = h.protocolVersion
  entity : g.logicalEntityAddress = h.logicalEntityAddress
  payloadRequests : g.payloadRequests = h.payloadRequests
  jobs : Writes Call.sentJob h.calls g.calls []
  requests : Writes Call.request h.calls g.calls []

namespace Silent

variable {h g k : DoIpServerConnectionHandler}

theorem refl (h : DoIpServerConnectionHandler) : Silent h h := ⟨rfl, rfl, rfl, .refl _, .refl _⟩

theorem trans (hg : Silent h g) (hk : Silent g k) : Silent h k :=
  ⟨hk.version.trans hg.version, hk.entity.trans hg.entity,
    hk.payloadRequests.trans hg.payloadRequests, hg.jobs.trans hk.jobs,
    hg.requests.trans hk.requests⟩

theorem log (h : DoIpServerConnectionHandler) {cs : List Call}
    (hcs : ∀ c ∈ cs, c.sentJob = none ∧ c.request = none) : Silent h (h.log cs) :=
  ⟨rfl, rfl, rfl, .append_of_forall (fun c hc => (hcs c hc).1) _,
    .append_of_forall (fun c hc => (hcs c hc).2) _⟩

theorem log_one (h : DoIpServerConnectionHandler) {c : Call} (hj : c.sentJob = none)
    (hr : c.request = none) : Silent h (h.log [c]) :=
  log h (List.forall_mem_singleton.mpr ⟨hj, hr⟩)

theorem close (h : DoIpServerConnectionHandler) : Silent h h.close := by
  have hjobs : Writes Call.sentJob h.calls h.close.calls [] :=
    h.writes_close rfl (fun _ => rfl) rfl rfl rfl
  have hrequests : Writes Call.request h.calls h.close.calls [] :=
    h.writes_close rfl (fun _ => rfl) rfl rfl rfl
  by_cases hs : h.state = .shutdown
  · rw [h.close_of_shutdown hs]
    exact refl h
  · refine ⟨?_, ?_, ?_, hjobs, hrequests⟩ <;> rw [h.close_of_ne_shutdown hs] <;> rfl

theorem setTimer (h : DoIpServerConnectionHandler) (t : UInt32) : Silent h (h.setTimer t) :=
  ⟨rfl, rfl, rfl, .append _ _, .append _ _⟩

theorem restarted (U : Upstream) (h : DoIpServerConnectionHandler) : Silent h (h.restarted U) := by
  rw [DoIpServerConnectionHandler.restarted]
  split
  · exact setTimer h _
  · exact refl h

theorem activate (h : DoIpServerConnectionHandler) : Silent h h.activate :=
  ⟨rfl, rfl, rfl, h.writes_activate rfl (fun _ => rfl) (fun _ => rfl) rfl,
    h.writes_activate rfl (fun _ => rfl) (fun _ => rfl) rfl⟩

theorem start (h : DoIpServerConnectionHandler) (check : RoutingActivationCheckResult) :
    Silent h (h.start check) := by
  have hjobs : Writes Call.sentJob h.calls (h.start check).calls [] :=
    h.writes_start rfl (fun _ => rfl) rfl (fun _ => rfl) (fun _ _ _ _ => rfl) (fun _ => rfl) rfl
      check
  have hrequests : Writes Call.request h.calls (h.start check).calls [] :=
    h.writes_start rfl (fun _ => rfl) rfl (fun _ => rfl) (fun _ _ _ _ => rfl) (fun _ => rfl) rfl
      check
  refine ⟨?_, ?_, ?_, hjobs, hrequests⟩ <;>
  · rw [DoIpServerConnectionHandler.start]
    split
    · dsimp only
      split <;> rfl
    · rfl

/-- The owner is asked about a routing activation request. -/
theorem checked (h : DoIpServerConnectionHandler) (payload : List UInt8) :
    Silent h (h.checked payload) := log_one h rfl rfl

/-- The request is passed on to the owner. -/
theorem activating (h : DoIpServerConnectionHandler) (payload : List UInt8)
    (check : RoutingActivationCheckResult) :
    Silent h ((h.activating payload check).log [.ownerHandleRoutingActivationRequest]) := by
  have hset : Silent (h.checked payload) (h.activating payload check) :=
    ⟨rfl, rfl, rfl, .refl _, .refl _⟩
  exact ((checked h payload).trans hset).trans (log_one _ rfl rfl)

theorem endReceiveMessage (h : DoIpServerConnectionHandler) :
    Silent h (h.log [.connectionEndReceiveMessage]) := log_one h rfl rfl

theorem aliveCheckResponseReceived (h : DoIpServerConnectionHandler) (payload : List UInt8) :
    Silent h (h.aliveCheckResponseReceived payload) := by
  have hanswered : Silent h (h.answered payload) := by
    rw [answered]
    split
    · have hdown : Silent h (h.setAliveCheckPending false) := ⟨rfl, rfl, rfl, .refl _, .refl _⟩
      exact hdown.trans (log_one _ rfl rfl)
    · exact refl h
  rw [h.aliveCheckResponseReceived_eq]
  split
  · exact hanswered.trans (endReceiveMessage _)
  · exact hanswered.trans (close _)

theorem timerExpired (h : DoIpServerConnectionHandler) :
    Silent h h.disarmTimer.timerExpired := by
  have hdisarmed : Silent h h.disarmTimer := ⟨rfl, rfl, rfl, .refl _, .refl _⟩
  refine hdisarmed.trans ?_
  rw [DoIpServerConnectionHandler.timerExpired]
  split
  · exact close _
  · dsimp only
    split
    · exact close _
    · exact (log_one _ rfl rfl).trans (close _)
  · exact refl _

theorem jobReleased (h : DoIpServerConnectionHandler) (job : SendJob) (success : Bool) :
    Silent h ((h.setJobsInFlight (h.jobsInFlight.erase job)).runReleaseCallback job success) := by
  have hreleased : Silent h ((h.setJobsInFlight (h.jobsInFlight.erase job)).releaseSendJob job
      success) := ⟨rfl, rfl, rfl, .append _ [Call.poolRelease _], .append _ [Call.poolRelease _]⟩
  cases hj : job.releaseCallback with
  | releaseSendJob =>
    rw [runReleaseCallback_of_releaseSendJob _ hj]
    exact hreleased
  | releaseSendJobAndClose =>
    rw [runReleaseCallback_of_releaseSendJobAndClose _ hj]
    exact hreleased.trans (close _)

theorem shutdown (h : DoIpServerConnectionHandler) : Silent h h.shutdown :=
  ⟨rfl, rfl, rfl, .append _ [Call.timerCancel], .append _ [Call.timerCancel]⟩

end Silent

/-! The requests of an operation -/

/-- The operation makes the requests `rs`, and answers none. -/
structure Requests (rs : List PayloadRequest) (h g : DoIpServerConnectionHandler) : Prop where
  calls : Writes Call.request h.calls g.calls rs
  requests : g.payloadRequests = h.payloadRequests ++ rs

namespace Requests

variable {rs rs' : List PayloadRequest} {h g k : DoIpServerConnectionHandler}

/-- An operation that makes no request. -/
theorem of_eq (hr : g.payloadRequests = h.payloadRequests)
    (hc : Writes Call.request h.calls g.calls []) : Requests [] h g :=
  ⟨hc, hr.trans (List.append_nil _).symm⟩

theorem of_silent (hg : Silent h g) : Requests [] h g := of_eq hg.payloadRequests hg.requests

theorem after_silent (hg : Silent h g) (hk : Requests rs g k) : Requests rs h k :=
  ⟨hg.requests.trans hk.calls, by rw [hk.requests, hg.payloadRequests]⟩

theorem then_silent (hg : Requests rs h g) (hk : Silent g k) : Requests rs h k := by
  refine ⟨?_, by rw [hk.payloadRequests, hg.requests]⟩
  have hall := hg.calls.trans hk.requests
  rwa [List.append_nil] at hall

theorem sendAllocated (h : DoIpServerConnectionHandler) (payloadType : PayloadType)
    (payload : List UInt8) (closeAfterSend : Bool) (outcome : SendOutcome) :
    Requests [] h (h.sendAllocated payloadType payload closeAfterSend outcome) := by
  refine h.sendAllocated_of_sent (of_silent (.refl h)) (fun hg => hg.then_silent (.close _)) ?_
  intro slot free _ _
  refine of_eq rfl ?_
  cases outcome <;> exact .append _ _

theorem startAliveCheck (h : DoIpServerConnectionHandler) (outcome : SendOutcome) :
    Requests [] h (h.startAliveCheck outcome) := by
  obtain ⟨-, heq⟩ | ⟨-, -, heq⟩ | ⟨-, slot, free, -, heq⟩ := h.startAliveCheck_cases outcome
  · rw [heq]
    split
    · exact of_silent (.log_one h rfl rfl)
    · exact of_silent (.refl h)
  · rw [heq]
    have hup : Silent h (h.setAliveCheckPending true) := ⟨rfl, rfl, rfl, .refl _, .refl _⟩
    exact of_silent (hup.trans (.close _))
  · rw [heq]
    refine of_eq rfl ?_
    cases outcome <;> exact .append _ _

theorem routingActivationCompleted (h : DoIpServerConnectionHandler) (success : Bool)
    (responseCode : UInt8) (outcome : SendOutcome) :
    Requests [] h (h.routingActivationCompleted success responseCode outcome) := by
  by_cases hs : h.state = .activating
  · rw [h.routingActivationCompleted_of_activating hs]
    split
    · exact (sendAllocated h _ _ _ _).then_silent (.activate _)
    · exact sendAllocated h _ _ _ _
  · rw [h.routingActivationCompleted_of_ne_activating hs]
    exact of_silent (.refl h)

theorem routingActivationRequestReceived (h : DoIpServerConnectionHandler) (U : Upstream)
    (payload : List UInt8) (answers : ActivationAnswers) :
    Requests [] h (h.routingActivationRequestReceived U payload answers) := by
  have hanswer : ∀ responsePayload closeAfterSend,
      Requests [] h (((h.checked payload).sendAllocated .routingActivationResponse responsePayload
        closeAfterSend answers.send).log [.connectionEndReceiveMessage]) := by
    intro responsePayload closeAfterSend
    exact (after_silent (.checked h payload) (sendAllocated _ _ _ _ _)).then_silent
      (.endReceiveMessage _)
  by_cases ha : answers.check.action = .continue
  · by_cases hs : h.state = .inactive
    · rw [h.routingActivationRequestReceived_of_inactive U payload ha hs]
      refine then_silent ?_ (.endReceiveMessage _)
      rw [handleRoutingActivationRequest]
      split
      · exact after_silent (.activating h payload _) (routingActivationCompleted _ _ _ _)
      · exact of_silent (.activating h payload _)
    · rw [h.routingActivationRequestReceived_of_ne_inactive U payload ha hs]
      exact hanswer _ _
  · rw [h.routingActivationRequestReceived_of_ne_continue U payload ha]
    exact hanswer _ _

theorem receivePayload (h : DoIpServerConnectionHandler) (callback : PayloadCallback)
    (length : Nat) (accepted : Bool) :
    Requests (if accepted then [⟨callback, length⟩] else []) h
      (h.receivePayload callback length accepted).2 := by
  cases accepted with
  | false => exact of_silent (.log_one h rfl rfl)
  | true => exact ⟨.append _ _, rfl⟩

theorem headerReceivedDefault (h : DoIpServerConnectionHandler) (U : Upstream)
    (header : DoIpHeader) (answers : HeaderAnswers) :
    Requests [] h (h.headerReceivedDefault U header answers).2 := by
  obtain ⟨cs, hoffers, hd⟩ := h.headerReceivedDefault_cases U header answers
  have hoffered : Silent h (h.log cs) := by
    refine .log h fun c hc => ?_
    obtain ⟨i, a, rfl⟩ := hoffers c hc
    exact ⟨rfl, rfl⟩
  rcases hd with hd | hd
  · rw [hd]
    exact of_silent hoffered
  · rw [hd]
    exact after_silent hoffered (sendAllocated _ _ _ _ _)

/-- A header leads to a request only if its length is one that the callback can read. -/
theorem headerReceived (h : DoIpServerConnectionHandler) (U : Upstream) (header : DoIpHeader)
    (answers : HeaderAnswers) :
    ∃ rs, Requests rs h (h.headerReceived U header answers).2 ∧ ∀ r ∈ rs, r.Fits := by
  have hnone : ∀ r ∈ ([] : List PayloadRequest), r.Fits := List.forall_mem_nil _
  cases hv : U.checkProtocolVersion header h.protocolVersion with
  | false =>
    rw [h.headerReceived_of_not_version hv]
    exact ⟨[], sendAllocated h _ _ _ _, hnone⟩
  | true =>
    rw [h.headerReceived_of_version hv]
    have hrestarted : Silent h (h.restarted U) := .restarted U h
    have hask : ∀ callback length, (⟨callback, length⟩ : PayloadRequest).Fits →
        ∃ rs, Requests rs h ((h.restarted U).receivePayload callback length
          answers.receivePayload).2 ∧ ∀ r ∈ rs, r.Fits := by
      intro callback length hfits
      refine ⟨_, after_silent hrestarted (receivePayload _ callback length _), ?_⟩
      split
      · exact List.forall_mem_singleton.mpr hfits
      · exact hnone
    split
    · rw [headerReceivedRoutingActivationRequest]
      split
      · exact ⟨[], after_silent hrestarted (sendAllocated _ _ _ _ _), hnone⟩
      · next hlength =>
        refine hask _ _ ?_
        rw [not_and_or, not_not, not_not] at hlength
        rcases hlength with hlength | hlength
        · rw [hlength]
          exact .inl rfl
        · rw [hlength]
          exact .inr rfl
    · rw [headerReceivedAliveCheckResponse]
      split
      · exact ⟨[], after_silent hrestarted (sendAllocated _ _ _ _ _), hnone⟩
      · exact hask _ _ rfl
    · exact ⟨[], of_silent (hrestarted.trans (.endReceiveMessage _)), hnone⟩
    · exact ⟨[], of_silent (hrestarted.trans (.endReceiveMessage _)), hnone⟩
    · exact ⟨[], of_silent (hrestarted.trans (.endReceiveMessage _)), hnone⟩
    · exact ⟨[], after_silent hrestarted (headerReceivedDefault _ U header answers), hnone⟩

end Requests

/-! The requests of a step -/

/-- The handler once the request that the event answers has been used up. -/
def Event.used (h : DoIpServerConnectionHandler) (e : Event) : DoIpServerConnectionHandler :=
  match e.answered with
  | none => h
  | some request => h.setPayloadRequests (h.payloadRequests.erase request)

/-- A step uses up the request that it answers, and makes others only for payloads that its callback
can read. -/
theorem requests_step (U : Upstream) (h : DoIpServerConnectionHandler) (e : Event) :
    ∃ rs, Requests rs (e.used h) (e.step U h) ∧ ∀ r ∈ rs, r.Fits := by
  have hnone : ∀ r ∈ ([] : List PayloadRequest), r.Fits := List.forall_mem_nil _
  cases e with
  | headerReceived header answers => exact Requests.headerReceived h U header answers
  | routingActivationRequestReceived payload answers =>
    exact ⟨[], .routingActivationRequestReceived _ U payload answers, hnone⟩
  | aliveCheckResponseReceived payload =>
    exact ⟨[], .of_silent (.aliveCheckResponseReceived _ payload), hnone⟩
  | startAliveCheck send => exact ⟨[], .startAliveCheck h send, hnone⟩
  | routingActivationCompleted success responseCode send =>
    exact ⟨[], .routingActivationCompleted h success responseCode send, hnone⟩
  | connectionClosed closedByRemotePeer => exact ⟨[], .of_silent (.close h), hnone⟩
  | timerExpired => exact ⟨[], .of_silent (.timerExpired h), hnone⟩
  | jobReleased job success => exact ⟨[], .of_silent (.jobReleased h job success), hnone⟩
  | close => exact ⟨[], .of_silent (.close h), hnone⟩
  | sendNack nackCode closeAfterSend send =>
    exact ⟨[], .sendAllocated h _ _ closeAfterSend send, hnone⟩
  | shutdown => exact ⟨[], .of_silent (.shutdown h), hnone⟩

/-- What an event answers has been asked for, and not been answered before. -/
theorem Event.mem_of_answered {h : DoIpServerConnectionHandler} {e : Event} (he : e.enabled h)
    {request : PayloadRequest} (ha : e.answered = some request) :
    request ∈ h.payloadRequests := by
  cases e with
  | routingActivationRequestReceived payload answers =>
    cases ha
    exact he.2
  | aliveCheckResponseReceived payload =>
    cases ha
    exact he.2
  | _ => cases ha

theorem Event.used_calls (h : DoIpServerConnectionHandler) (e : Event) :
    (e.used h).calls = h.calls := by
  rw [used]
  split <;> rfl

/-- What an event uses up is what it answers. -/
theorem Event.used_perm {h : DoIpServerConnectionHandler} {e : Event} (he : e.enabled h) :
    h.payloadRequests.Perm (e.answered.toList ++ (e.used h).payloadRequests) := by
  rw [used]
  cases ha : e.answered with
  | none => exact .refl _
  | some request => exact List.perm_cons_erase (mem_of_answered he ha)

/-! The requests of a run -/

/-- What has been asked for and answered after the events `es`: every payload that was asked for has
been answered once, or is still to come. -/
structure PayloadsAccounted (es : List Event) (h : DoIpServerConnectionHandler) : Prop where
  requests : (h.calls.filterMap Call.request).Perm
    (es.filterMap Event.answered ++ h.payloadRequests)
  fits : ∀ request ∈ h.calls.filterMap Call.request, request.Fits

/-- The requests of a run, from any state. -/
theorem requests_of_run {U : Upstream} {h t : DoIpServerConnectionHandler} {es : List Event}
    (hr : (connection U).Run h es t) :
    ∃ rs, Writes Call.request h.calls t.calls rs ∧ (∀ r ∈ rs, r.Fits) ∧
      (h.payloadRequests ++ rs).Perm (es.filterMap Event.answered ++ t.payloadRequests) := by
  rw [List.filterMap_eq_flatMap_toList]
  induction hr with
  | nil h =>
    refine ⟨[], .refl _, List.forall_mem_nil _, ?_⟩
    rw [List.append_nil]
    exact .refl _
  | @cons h t e es he _ ih =>
    obtain ⟨rs, hstep, hfits⟩ := requests_step U h e
    obtain ⟨rs', hcalls', hfits', hperm'⟩ := ih
    have hcalls : Writes Call.request h.calls (e.step U h).calls rs := e.used_calls h ▸ hstep.calls
    refine ⟨rs ++ rs', hcalls.trans hcalls', List.forall_mem_append.mpr ⟨hfits, hfits'⟩, ?_⟩
    -- what the step answers comes off the old requests, what it asks for goes to the new ones
    have hused : (h.payloadRequests ++ (rs ++ rs')).Perm
        (e.answered.toList ++ ((e.step U h).payloadRequests ++ rs')) := by
      rw [hstep.requests, List.append_assoc, ← List.append_assoc e.answered.toList]
      exact (Event.used_perm he).append_right _
    refine hused.trans ?_
    rw [List.flatMap_cons, List.append_assoc]
    exact hperm'.append_left _

/-- Before the first event, nothing has been asked for. -/
theorem requests_of_started {U : Upstream} {h : DoIpServerConnectionHandler} (hs : Started U h) :
    h.calls.filterMap Call.request = [] ∧ h.payloadRequests = [] := by
  have hstart : ∀ g : DoIpServerConnectionHandler, g.calls = [] → g.payloadRequests = [] →
      ∀ check, (g.start check).calls.filterMap Call.request = [] ∧
        (g.start check).payloadRequests = [] := by
    intro g hcalls hrequests check
    have hg := Silent.start g check
    refine ⟨?_, hg.payloadRequests.trans hrequests⟩
    rw [hg.requests.filterMap_eq, hcalls]
    rfl
  obtain ⟨c, check, rfl | ⟨sourceAddress, rfl⟩⟩ := hs
  · exact hstart _ rfl rfl check
  · exact hstart _ rfl rfl check

/-- In every run, the payloads that have been answered, together with those still to come, are those
that were asked for, and each of them has a length that its callback can read. So the next payload
is never too short for the reads at fixed positions, and the OEM field is there just when the
message carries one. -/
theorem payloadsAccounted_of_run (U : Upstream) {h₀ h : DoIpServerConnectionHandler}
    {es : List Event} (hs : Started U h₀) (hr : (connection U).Run h₀ es h) :
    PayloadsAccounted es h ∧
      (∀ payload answers, Event.enabled h (.routingActivationRequestReceived payload answers) →
        (payload.length = 7 ∧ oemField payload = none) ∨
          (payload.length = 11 ∧ oemField payload = some (takeBeUInt32 payload 7))) ∧
      ∀ payload, Event.enabled h (.aliveCheckResponseReceived payload) → payload.length = 2 := by
  obtain ⟨hcalls, hrequests⟩ := requests_of_started hs
  obtain ⟨rs, hwrites, hfits, hperm⟩ := requests_of_run hr
  rw [hrequests, List.nil_append] at hperm
  have hall : h.calls.filterMap Call.request = rs := by
    rw [hwrites.filterMap_eq, hcalls, List.nil_append]
  have houtstanding : ∀ request ∈ h.payloadRequests, request.Fits := fun request hm =>
    hfits request (hperm.mem_iff.mpr (List.mem_append_right _ hm))
  rw [← hall] at hperm hfits
  refine ⟨⟨hperm, hfits⟩, ?_, ?_⟩
  · rintro payload answers ⟨-, hm⟩
    have hlength : payload.length = 7 ∨ payload.length = 11 := houtstanding _ hm
    rcases hlength with hlength | hlength
    · left
      rw [oemField, hlength]
      exact ⟨rfl, rfl⟩
    · right
      rw [oemField, hlength]
      exact ⟨rfl, rfl⟩
  · rintro payload ⟨-, hm⟩
    exact houtstanding _ hm

theorem payloadsAccounted_twoTesters :
    PayloadsAccounted twoTesters
        (twoTesters.foldl (connection .iso13400).step (startedWith 2)) ∧
      (∀ payload answers, Event.enabled
          (twoTesters.foldl (connection .iso13400).step (startedWith 2))
            (.routingActivationRequestReceived payload answers) →
        (payload.length = 7 ∧ oemField payload = none) ∨
          (payload.length = 11 ∧ oemField payload = some (takeBeUInt32 payload 7))) ∧
      ∀ payload, Event.enabled (twoTesters.foldl (connection .iso13400).step (startedWith 2))
        (.aliveCheckResponseReceived payload) → payload.length = 2 :=
  payloadsAccounted_of_run .iso13400 (started_startedWith 2) (.of_enabledAll (by decide))

end SovdDemo.Doip

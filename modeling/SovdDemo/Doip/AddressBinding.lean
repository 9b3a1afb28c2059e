import SovdDemo.Doip.Operations
import SovdDemo.Foundations.CallLog

/-!
# One connection, one tester

The handler takes the address of the first routing activation request that the owner lets through,
and moves from INACTIVE to ACTIVATING with it. The state is the only guard: no operation leads back
to INACTIVE, so that no later request, in whatever order it comes with rejects and completions, gets
to the assignment again. `Steady` is what all other steps do.

## Main definitions

- `Event.binds` — the address a step binds the connection to
- `bindings` — the addresses a run binds the connection to
- `BoundForLife` — what a run leaves of them
- `AddressStep` — what the next step does with the address, and the responses it sends

## Main results

- `bound_of_run` — the addresses of a run, from any state
- `boundForLife_of_run` — a connection has one tester address for life
-/

namespace SovdDemo.Doip

open Foundations DoIpServerConnectionHandler

def Call.asks : Call → Option Unit
  | .ownerHandleRoutingActivationRequest => some ()
  | _ => none

def Call.sentJob : Call → Option SendJob
  | .connectionSendMessage job _ => some job
  | _ => none

/-- The address a step binds the connection to: that of a routing activation request which the owner
lets through, as long as the handler is INACTIVE. -/
def Event.binds (h : DoIpServerConnectionHandler) : Event → Option UInt16
  | .routingActivationRequestReceived payload answers =>
    if answers.check.action = .continue ∧ h.state = .inactive then some (takeBeUInt16 payload 0)
    else none
  | _ => none

/-- The addresses that the events `es` bind the connection to, one after the other. -/
def bindings (U : Upstream) : DoIpServerConnectionHandler → List Event → List UInt16
  | _, [] => []
  | h, e :: es => (e.binds h).toList ++ bindings U (e.step U h) es

/-- The connection has a tester: a request has bound it, or it was resumed before `start`. -/
def HasTester (U : Upstream) (h₀ : DoIpServerConnectionHandler) (es : List Event) : Prop :=
  bindings U h₀ es ≠ [] ∨ h₀.state ≠ .inactive

/-- A routing activation response for the tester `address`. -/
def RespondsTo (address : UInt16) (job : SendJob) : Prop :=
  job.payloadType = .routingActivationResponse ∧ job.payload.take 2 = beUInt16 address

/-- The addresses after the events `es`, from the started handler `h₀` to `h`: there is at most one,
none when the handler was resumed, and it is the source address from then on. -/
structure BoundForLife (U : Upstream) (h₀ : DoIpServerConnectionHandler) (es : List Event)
    (h : DoIpServerConnectionHandler) : Prop where
  once : (bindings U h₀ es).length ≤ 1
  resumed : h₀.state ≠ .inactive → bindings U h₀ es = []
  address : h.sourceAddress = (bindings U h₀ es).head?.getD h₀.sourceAddress
  asked : h.calls.count .ownerHandleRoutingActivationRequest ≤ 1
  kept : HasTester U h₀ es → ∀ fs t, (connection U).Run h fs t → t.sourceAddress = h.sourceAddress

/-- What the event `e` does with the address after the events `es`. -/
structure AddressStep (U : Upstream) (h₀ : DoIpServerConnectionHandler) (es : List Event)
    (h : DoIpServerConnectionHandler) (e : Event) : Prop where
  /-- Only a step that binds sets the address. -/
  sets : (e.step U h).sourceAddress = (e.binds h).getD h.sourceAddress
  /-- It does so from INACTIVE, and the owner gets an ACTIVATING handler with the address. -/
  transition : ∀ a ∈ e.binds h, h.state = .inactive ∧ ∃ payload answers k,
    e = .routingActivationRequestReceived payload answers ∧ takeBeUInt16 payload 0 = a ∧
      k.state = .activating ∧ k.sourceAddress = a ∧
      e.step U h = (handleRoutingActivationRequest k answers).log [.connectionEndReceiveMessage]
  /-- The response to a completion within that call carries the address of the request. -/
  completedAtOnce : ∀ a ∈ e.binds h, ∀ job accepted,
    .connectionSendMessage job accepted ∈ e.callsMade U h → RespondsTo a job
  /-- The response to a later completion carries the address of the request that caused it. -/
  completed : ∀ success responseCode send,
    e = .routingActivationCompleted success responseCode send → ∀ job accepted,
      .connectionSendMessage job accepted ∈ e.callsMade U h →
        ∃ a, bindings U h₀ es = [a] ∧ RespondsTo a job
  /-- Another tester is turned away. -/
  other : HasTester U h₀ es → ∀ payload answers,
    e = .routingActivationRequestReceived payload answers → answers.check.action = .continue →
      takeBeUInt16 payload 0 ≠ h.sourceAddress →
        (∀ job accepted, .connectionSendMessage job accepted ∈ e.callsMade U h →
          RespondsTo (takeBeUInt16 payload 0) job ∧
            job.payload[4]? = some U.routingWrongSourceAddress ∧
            job.releaseCallback = .releaseSendJobAndClose) ∧
        ((e.step U h).state = .closing ∨ (e.step U h).state = .shutdown)

/-! Operations that leave the address alone -/

/-- An operation that keeps the address, passes no request on to the owner and does not lead to
INACTIVE or ACTIVATING. -/
structure Steady (h g : DoIpServerConnectionHandler) : Prop where
  sourceAddress : g.sourceAddress = h.sourceAddress
  asks : Writes Call.asks h.calls g.calls []
  inactive : g.state = .inactive → h.state = .inactive
  activating : g.state = .activating → h.state = .activating

namespace Steady

variable {h g k : DoIpServerConnectionHandler}

theorem refl (h : DoIpServerConnectionHandler) : Steady h h := ⟨rfl, .refl _, id, id⟩

theorem trans (hg : Steady h g) (hk : Steady g k) : Steady h k := by
  refine ⟨hk.sourceAddress.trans hg.sourceAddress, hg.asks.trans hk.asks, ?_, ?_⟩
  · intro hs
    exact hg.inactive (hk.inactive hs)
  · intro hs
    exact hg.activating (hk.activating hs)

/-- Operations that change neither the state nor the address. -/
theorem of_eq (ha : g.sourceAddress = h.sourceAddress) (hs : g.state = h.state)
    (hc : Writes Call.asks h.calls g.calls []) : Steady h g :=
  ⟨ha, hc, fun hs' => hs ▸ hs', fun hs' => hs ▸ hs'⟩

theorem log (h : DoIpServerConnectionHandler) {cs : List Call} (hcs : ∀ c ∈ cs, c.asks = none) :
    Steady h (h.log cs) := .of_eq rfl rfl (.append_of_forall hcs _)

theorem close (h : DoIpServerConnectionHandler) : Steady h h.close := by
  refine ⟨?_, h.writes_close rfl (fun _ => rfl) rfl rfl rfl, ?_, ?_⟩
  · by_cases hs : h.state = .shutdown
    · rw [h.close_of_shutdown hs]
    · rw [h.close_of_ne_shutdown hs]
      rfl
  · rw [h.close_state]
    exact State.noConfusion
  · rw [h.close_state]
    exact State.noConfusion

theorem sent (h : DoIpServerConnectionHandler) (slot : Nat) (free : List Nat)
    (payloadType : PayloadType) (payload : List UInt8) (closeAfterSend : Bool)
    (outcome : SendOutcome) :
    Steady h (h.sent slot free payloadType payload closeAfterSend outcome) := by
  have hcalls : Writes Call.asks h.calls
      (h.sent slot free payloadType payload closeAfterSend outcome).calls [] := by
    cases outcome <;> exact .append _ _
  cases closeAfterSend with
  | false => exact ⟨rfl, hcalls, id, id⟩
  | true => exact ⟨rfl, hcalls, State.noConfusion, State.noConfusion⟩

theorem admits : Admits Steady := by
  refine .of_trans refl trans ?_ (fun _ _ => .of_eq rfl rfl (.refl _)) close
    fun _ _ => sent _ _ _
  intro h cs hcs
  exact log h (Call.forall_of_isExchange (P := fun c => c.asks = none) rfl (fun _ _ _ => rfl) rfl
    (fun _ _ _ => rfl) (fun _ _ _ _ => rfl) hcs)

theorem setTimer (h : DoIpServerConnectionHandler) (t : UInt32) : Steady h (h.setTimer t) :=
  .of_eq rfl rfl (.append _ _)

theorem activate (h : DoIpServerConnectionHandler) : Steady h h.activate :=
  ⟨rfl, h.writes_activate rfl (fun _ => rfl) (fun _ => rfl) rfl, State.noConfusion,
    State.noConfusion⟩

theorem start (h : DoIpServerConnectionHandler) (check : RoutingActivationCheckResult) :
    Steady h (h.start check) :=
  .of_eq (h.start_sourceAddress check) (h.start_state check)
    (h.writes_start rfl (fun _ => rfl) rfl (fun _ => rfl) (fun _ _ _ _ => rfl) (fun _ => rfl) rfl
      check)

theorem routingActivationCompleted (h : DoIpServerConnectionHandler) (success : Bool)
    (responseCode : UInt8) (outcome : SendOutcome) :
    Steady h (h.routingActivationCompleted success responseCode outcome) := by
  by_cases hs : h.state = .activating
  · rw [h.routingActivationCompleted_of_activating hs]
    split
    · exact (admits.sendAllocated h _ _ _ _).trans (activate _)
    · exact admits.sendAllocated h _ _ _ _
  · rw [h.routingActivationCompleted_of_ne_activating hs]
    exact refl h

theorem startAliveCheck (h : DoIpServerConnectionHandler) (outcome : SendOutcome) :
    Steady h (h.startAliveCheck outcome) := by
  obtain ⟨-, heq⟩ | ⟨-, -, heq⟩ | ⟨-, slot, free, -, heq⟩ := h.startAliveCheck_cases outcome
  · rw [heq]
    split
    · exact log h (List.forall_mem_singleton.mpr rfl)
    · exact refl h
  · rw [heq]
    have hup : Steady h (h.setAliveCheckPending true) := .of_eq rfl rfl (.refl _)
    exact hup.trans (close _)
  · rw [heq]
    refine .of_eq rfl rfl ?_
    cases outcome <;> exact .append _ _

theorem prepared (U : Upstream) (h : DoIpServerConnectionHandler) (e : Event) :
    Steady h (e.prepared U h) := by
  cases e with
  | headerReceived header answers =>
    rw [Event.prepared]
    split
    · rw [restarted]
      split
      · exact setTimer h _
      · exact refl h
    · exact refl h
  | aliveCheckResponseReceived payload =>
    rw [Event.prepared, answered]
    split
    · exact .of_eq rfl rfl (.append _ [Call.ownerAliveCheckResponseReceived _])
    · exact .of_eq rfl rfl (.refl _)
  | timerExpired => exact .of_eq rfl rfl (.refl _)
  | jobReleased job success => exact .of_eq rfl rfl (.append _ [Call.poolRelease _])
  | shutdown => exact .of_eq rfl rfl (.append _ [Call.timerCancel])
  | _ => exact refl h

/-- A step that does not bind the connection leaves the address alone. -/
theorem step (U : Upstream) {h : DoIpServerConnectionHandler} {e : Event}
    (hb : e.binds h = none) : Steady h (e.step U h) := by
  by_cases ha : Activates h e
  · cases e with
    | routingActivationRequestReceived payload answers =>
      exact absurd hb (by simp [Event.binds, ha.1, ha.2])
    | routingActivationCompleted success responseCode send =>
      exact routingActivationCompleted h success responseCode send
    | _ => exact ha.elim
  · by_cases hs : ∃ send, e = .startAliveCheck send
    · obtain ⟨send, rfl⟩ := hs
      exact startAliveCheck h send
    · exact (prepared U h e).trans (admits.step ha hs)

end Steady

/-! The step that binds -/

/-- Once the request has been passed on, a completion within the call keeps the address. -/
theorem steady_handleRoutingActivationRequest (k : DoIpServerConnectionHandler)
    (answers : ActivationAnswers) :
    Steady (k.log [.ownerHandleRoutingActivationRequest])
      (k.handleRoutingActivationRequest answers) := by
  rw [handleRoutingActivationRequest]
  split
  · exact .routingActivationCompleted _ _ _ _
  · exact .refl _

/-- A step that binds the connection is a request in INACTIVE that the owner lets through. -/
theorem Event.step_of_binds (U : Upstream) {h : DoIpServerConnectionHandler} {e : Event}
    {a : UInt16} (hb : e.binds h = some a) :
    h.state = .inactive ∧ ∃ payload answers k,
      e = .routingActivationRequestReceived payload answers ∧ takeBeUInt16 payload 0 = a ∧
        k.state = .activating ∧ k.sourceAddress = a ∧
        Writes Call.asks h.calls k.calls [] ∧ Writes Call.sentJob h.calls k.calls [] ∧
        e.step U h = (handleRoutingActivationRequest k answers).log
          [.connectionEndReceiveMessage] := by
  cases e with
  | routingActivationRequestReceived payload answers =>
    rw [Event.binds] at hb
    split at hb
    · next hc =>
      let g := h.setPayloadRequests (h.payloadRequests.erase
        ⟨.routingActivationRequestReceived, payload.length⟩)
      have hg : g.state = .inactive := hc.2
      refine ⟨hc.2, payload, answers, g.activating payload answers.check, rfl,
        Option.some.inj hb, rfl, Option.some.inj hb, .append _ _, .append _ _, ?_⟩
      exact g.routingActivationRequestReceived_of_inactive U payload hc.1 hg
    · cases hb
  | _ => cases hb

/-- What a step that binds does: it starts in INACTIVE and never leads back. -/
theorem Event.binding_step (U : Upstream) {h : DoIpServerConnectionHandler} {e : Event}
    {a : UInt16} (hb : e.binds h = some a) :
    h.state = .inactive ∧ (e.step U h).sourceAddress = a ∧ (e.step U h).state ≠ .inactive ∧
      Writes Call.asks h.calls (e.step U h).calls [()] := by
  obtain ⟨hs, payload, answers, k, -, -, hk, ha, hcalls, -, hstep⟩ := Event.step_of_binds U hb
  have hend : ∀ c ∈ [Call.connectionEndReceiveMessage], c.asks = none :=
    List.forall_mem_singleton.mpr rfl
  have hsteady := (steady_handleRoutingActivationRequest k answers).trans (.log _ hend)
  rw [← hstep] at hsteady
  refine ⟨hs, hsteady.sourceAddress.trans ha, ?_, ?_⟩
  · intro hin
    have hin' : k.state = .inactive := hsteady.inactive hin
    rw [hk] at hin'
    cases hin'
  · have hask : Writes Call.asks k.calls
        (k.log [.ownerHandleRoutingActivationRequest]).calls [()] := .append _ _
    exact (hcalls.trans hask).trans hsteady.asks

/-! Runs -/

/-- The addresses that a run from `h` to `t` binds the connection to, and what is left of them. -/
structure Bound (U : Upstream) (h : DoIpServerConnectionHandler) (es : List Event)
    (t : DoIpServerConnectionHandler) : Prop where
  once : (bindings U h es).length ≤ 1
  later : h.state ≠ .inactive → bindings U h es = []
  address : t.sourceAddress = (bindings U h es).head?.getD h.sourceAddress
  asks : Writes Call.asks h.calls t.calls ((bindings U h es).map fun _ => ())
  inactive : t.state = .inactive → h.state = .inactive ∧ bindings U h es = []
  activating : t.state = .activating → h.state = .activating ∨ bindings U h es ≠ []

/-- A step that binds comes before no other. -/
theorem Bound.cons_of_binds {U : Upstream} {h t : DoIpServerConnectionHandler} {e : Event}
    {es : List Event} {a : UInt16} (hb : e.binds h = some a) (ht : Bound U (e.step U h) es t) :
    Bound U h (e :: es) t := by
  obtain ⟨hs, ha, hne, hasks⟩ := Event.binding_step U hb
  have hnil : bindings U (e.step U h) es = [] := ht.later hne
  have hone : bindings U h (e :: es) = [a] := by
    rw [bindings, hb, hnil]
    rfl
  have haddress := ht.address
  have hrest := ht.asks
  rw [hnil] at haddress hrest
  refine ⟨?_, ?_, ?_, ?_, ?_, ?_⟩
  · rw [hone]
    exact Nat.le_refl 1
  · intro hs'
    exact absurd hs hs'
  · rw [hone, haddress]
    exact ha
  · rw [hone]
    exact hasks.trans hrest
  · intro hin
    exact absurd (ht.inactive hin).1 hne
  · intro _
    right
    rw [hone]
    exact List.cons_ne_nil _ _

/-- Any other step leaves the rest of the run what it is. -/
theorem Bound.cons_of_not_binds {U : Upstream} {h t : DoIpServerConnectionHandler} {e : Event}
    {es : List Event} (hb : e.binds h = none) (ht : Bound U (e.step U h) es t) :
    Bound U h (e :: es) t := by
  have hsteady := Steady.step U hb
  have hrest : bindings U h (e :: es) = bindings U (e.step U h) es := by
    rw [bindings, hb]
    rfl
  refine ⟨?_, ?_, ?_, ?_, ?_, ?_⟩
  · rw [hrest]
    exact ht.once
  · intro hs
    rw [hrest]
    exact ht.later (mt hsteady.inactive hs)
  · rw [hrest, ← hsteady.sourceAddress]
    exact ht.address
  · rw [hrest]
    exact hsteady.asks.trans ht.asks
  · intro hin
    obtain ⟨hs, hnil⟩ := ht.inactive hin
    exact ⟨hsteady.inactive hs, hrest.trans hnil⟩
  · intro hact
    rw [hrest]
    exact (ht.activating hact).imp_left hsteady.activating

/-- The addresses of a run from any state: a step that binds leaves INACTIVE, and INACTIVE is never
entered again. -/
theorem bound_of_run {U : Upstream} {h t : DoIpServerConnectionHandler} {es : List Event}
    (hr : (connection U).Run h es t) : Bound U h es t := by
  induction hr with
  | nil h =>
    exact ⟨Nat.zero_le 1, fun _ => rfl, rfl, .refl _, fun hs => ⟨hs, rfl⟩, fun hs => .inl hs⟩
  | @cons h t e es he _ ih =>
    cases hb : e.binds h with
    | none => exact .cons_of_not_binds hb ih
    | some a => exact .cons_of_binds hb ih

/-! The messages of a step -/

/-- All jobs that an operation gives to the connection satisfy `p`. -/
def SendsOnly (p : SendJob → Prop) (h g : DoIpServerConnectionHandler) : Prop :=
  ∃ jobs, Writes Call.sentJob h.calls g.calls jobs ∧ ∀ job ∈ jobs, p job

namespace SendsOnly

variable {p : SendJob → Prop} {h g k : DoIpServerConnectionHandler}

theorem of_writes (hc : Writes Call.sentJob h.calls g.calls []) : SendsOnly p h g :=
  ⟨[], hc, List.forall_mem_nil p⟩

theorem trans (hg : SendsOnly p h g) (hk : SendsOnly p g k) : SendsOnly p h k := by
  obtain ⟨jobs, hjobs, hp⟩ := hg
  obtain ⟨jobs', hjobs', hp'⟩ := hk
  exact ⟨jobs ++ jobs', hjobs.trans hjobs', List.forall_mem_append.mpr ⟨hp, hp'⟩⟩

theorem close (h : DoIpServerConnectionHandler) : SendsOnly p h h.close :=
  of_writes (h.writes_close rfl (fun _ => rfl) rfl rfl rfl)

/-- A sender sends the job it has allocated, or none. -/
theorem sendAllocated (h : DoIpServerConnectionHandler) (payloadType : PayloadType)
    (payload : List UInt8) (closeAfterSend : Bool) (outcome : SendOutcome)
    (hp : ∀ slot, p (h.jobFor slot payloadType payload closeAfterSend)) :
    SendsOnly p h (h.sendAllocated payloadType payload closeAfterSend outcome) := by
  refine h.sendAllocated_of_sent (of_writes (.refl _)) (fun hg => hg.trans (close _)) ?_
  intro slot free _ _
  refine ⟨[h.jobFor slot payloadType payload closeAfterSend], ?_, ?_⟩
  · cases outcome <;> exact .append _ _
  · exact List.forall_mem_singleton.mpr (hp slot)

theorem activate (h : DoIpServerConnectionHandler) : SendsOnly p h h.activate :=
  of_writes (h.writes_activate rfl (fun _ => rfl) (fun _ => rfl) rfl)

/-- The response to a completed activation carries the address the connection is bound to. -/
theorem routingActivationCompleted (h : DoIpServerConnectionHandler) (success : Bool)
    (responseCode : UInt8) (outcome : SendOutcome) :
    SendsOnly (RespondsTo h.sourceAddress) h
      (h.routingActivationCompleted success responseCode outcome) := by
  by_cases hs : h.state = .activating
  · rw [h.routingActivationCompleted_of_activating hs]
    split
    · exact (sendAllocated h _ _ _ _ fun slot => ⟨rfl, rfl⟩).trans (activate _)
    · exact sendAllocated h _ _ _ _ fun slot => ⟨rfl, rfl⟩
  · rw [h.routingActivationCompleted_of_ne_activating hs]
    exact of_writes (.refl _)

/-- Every job of a step is among those the step gives to the connection. -/
theorem of_mem_callsMade {U : Upstream} {e : Event} (hp : SendsOnly p h (e.step U h))
    {job : SendJob} {accepted : Bool}
    (hj : .connectionSendMessage job accepted ∈ e.callsMade U h) : p job := by
  obtain ⟨jobs, hjobs, hall⟩ := hp
  apply hall
  rw [← hjobs.filterMap_drop]
  exact List.mem_filterMap.mpr ⟨_, hj, rfl⟩

end SendsOnly

/-- A request of another tester is answered ROUTING_WRONG_SOURCE_ADDRESS, and the handler closes. -/
theorem sendsOnly_of_other (U : Upstream) {h : DoIpServerConnectionHandler} {payload : List UInt8}
    {answers : ActivationAnswers} (ha : answers.check.action = .continue)
    (hs : h.state ≠ .inactive) (hx : takeBeUInt16 payload 0 ≠ h.sourceAddress) :
    SendsOnly (fun job => RespondsTo (takeBeUInt16 payload 0) job ∧
        job.payload[4]? = some U.routingWrongSourceAddress ∧
        job.releaseCallback = .releaseSendJobAndClose) h
      ((Event.routingActivationRequestReceived payload answers).step U h) ∧
    (((Event.routingActivationRequestReceived payload answers).step U h).state = .closing ∨
      ((Event.routingActivationRequestReceived payload answers).step U h).state = .shutdown) := by
  let g := h.setPayloadRequests (h.payloadRequests.erase
    ⟨.routingActivationRequestReceived, payload.length⟩)
  have hx' : g.sourceAddress ≠ takeBeUInt16 payload 0 := fun heq => hx heq.symm
  have hstep : (Event.routingActivationRequestReceived payload answers).step U h =
      ((g.checked payload).sendAllocated .routingActivationResponse
        (g.responsePayload (takeBeUInt16 payload 0) U.routingWrongSourceAddress) true
          answers.send).log [.connectionEndReceiveMessage] := by
    refine (g.routingActivationRequestReceived_of_ne_inactive U payload ha hs).trans ?_
    rw [if_neg hx', decide_eq_true hx']
  rw [hstep]
  refine ⟨?_, ?_⟩
  · have hask : SendsOnly (fun job => RespondsTo (takeBeUInt16 payload 0) job ∧
        job.payload[4]? = some U.routingWrongSourceAddress ∧
        job.releaseCallback = .releaseSendJobAndClose) h (g.checked payload) :=
      .of_writes (.append _ _)
    refine (hask.trans (.sendAllocated _ _ _ _ _ ?_)).trans (.of_writes (.append _ _))
    exact fun slot => ⟨⟨rfl, rfl⟩, rfl, rfl⟩
  · rw [log_state]
    obtain ⟨hdown, heq⟩ | ⟨-, -, heq⟩ | ⟨-, slot, free, -, heq | ⟨-, heq⟩⟩ :=
      (g.checked payload).sendAllocated_cases .routingActivationResponse
        (g.responsePayload (takeBeUInt16 payload 0) U.routingWrongSourceAddress) true answers.send
    · rw [heq]
      exact .inr hdown
    · rw [heq]
      exact .inr (close_state _)
    · rw [heq]
      exact .inl rfl
    · rw [heq]
      exact .inr (close_state _)

/-! One tester for life -/

/-- Before the first event, no request has been passed on to the owner, and the handler is either
INACTIVE or has been resumed. -/
theorem asks_of_started {U : Upstream} {h : DoIpServerConnectionHandler} (hs : Started U h) :
    h.calls.filterMap Call.asks = [] ∧ h.state ≠ .activating := by
  have hstart : ∀ g : DoIpServerConnectionHandler, g.calls = [] → g.state ≠ .activating →
      ∀ check, (g.start check).calls.filterMap Call.asks = [] ∧
        (g.start check).state ≠ .activating := by
    intro g hcalls hstate check
    have hg := Steady.start g check
    obtain ⟨cs, hcs, hnone⟩ := hg.asks
    rw [hcs, hcalls]
    exact ⟨hnone, mt hg.activating hstate⟩
  obtain ⟨c, check, rfl | ⟨sourceAddress, rfl⟩⟩ := hs
  · exact hstart _ rfl State.noConfusion check
  · exact hstart _ rfl State.noConfusion check

/-- The owner is asked as often as an address is bound. -/
theorem Bound.count_asked {U : Upstream} {h t : DoIpServerConnectionHandler} {es : List Event}
    (hb : Bound U h es t) (hasks : h.calls.filterMap Call.asks = []) :
    t.calls.count .ownerHandleRoutingActivationRequest ≤ 1 := by
  have hask : ∀ cl : Call, cl.asks = some () ↔ cl = .ownerHandleRoutingActivationRequest := by
    intro cl
    cases cl <;> simp [Call.asks]
  rw [← Writes.count_filterMap hask, hb.asks.filterMap_eq, hasks, List.nil_append]
  refine Nat.le_trans List.count_le_length ?_
  rw [List.length_map]
  exact hb.once

/-- When the owner completes the activation within its call, the response carries the address that
the step binds the connection to. -/
theorem SendsOnly.of_binds (U : Upstream) {h : DoIpServerConnectionHandler} {e : Event} {a : UInt16}
    (ha : e.binds h = some a) : SendsOnly (RespondsTo a) h (e.step U h) := by
  obtain ⟨-, payload, answers, k, -, -, -, rfl, -, hquiet, hstep⟩ := Event.step_of_binds U ha
  rw [hstep]
  have hask : SendsOnly (RespondsTo k.sourceAddress) h
      (k.log [.ownerHandleRoutingActivationRequest]) :=
    .trans (.of_writes hquiet) (.of_writes (.append _ _))
  refine (hask.trans ?_).trans (.of_writes (.append _ _))
  rw [handleRoutingActivationRequest]
  split
  · exact .routingActivationCompleted (k.log [.ownerHandleRoutingActivationRequest]) _ _ _
  · exact .of_writes (.refl _)

/-- A completion that sends a response finds the handler ACTIVATING. -/
theorem activating_of_mem_callsMade {U : Upstream} {h : DoIpServerConnectionHandler}
    {success : Bool} {responseCode : UInt8} {send : SendOutcome} {cl : Call}
    (hc : cl ∈ (Event.routingActivationCompleted success responseCode send).callsMade U h) :
    h.state = .activating := by
  by_contra hact
  have hsame : ((Event.routingActivationCompleted success responseCode send).step U h).calls =
      h.calls ++ [] := by
    show (h.routingActivationCompleted success responseCode send).calls = _
    rw [h.routingActivationCompleted_of_ne_activating hact, List.append_nil]
  rw [Event.callsMade_eq hsame] at hc
  cases hc

/-- An ACTIVATING handler that was not started as one carries the one address of its run. -/
theorem Bound.eq_singleton {U : Upstream} {h t : DoIpServerConnectionHandler} {es : List Event}
    (hb : Bound U h es t) (hnot : h.state ≠ .activating) (hact : t.state = .activating) :
    bindings U h es = [t.sourceAddress] := by
  have hne := (hb.activating hact).resolve_left hnot
  obtain ⟨a, has⟩ : ∃ a, bindings U h es = [a] :=
    List.length_eq_one_iff.mp (Nat.le_antisymm hb.once (List.length_pos_iff.mpr hne))
  have haddress := hb.address
  rw [has] at haddress
  rw [has, haddress]
  rfl

/-- A connection has one tester address for life: in every run after `start` it is bound at most
once, on the way from INACTIVE to ACTIVATING, to the tester that all responses of the activation go
to, and every other tester is turned away. -/
theorem boundForLife_of_run (U : Upstream) {h₀ h : DoIpServerConnectionHandler} {es : List Event}
    (hs : Started U h₀) (hr : (connection U).Run h₀ es h) :
    BoundForLife U h₀ es h ∧ ∀ e, AddressStep U h₀ es h e := by
  obtain ⟨hasks, hnot⟩ := asks_of_started hs
  have hb := bound_of_run hr
  have hactive : HasTester U h₀ es → h.state ≠ .inactive := by
    rintro (hne | hne) hin
    · exact hne (hb.inactive hin).2
    · exact hne (hb.inactive hin).1
  refine ⟨⟨hb.once, hb.later, hb.address, hb.count_asked hasks, ?_⟩, fun e => ⟨?_, ?_, ?_, ?_, ?_⟩⟩
  · intro htester fs t hrun
    have ht := bound_of_run hrun
    rw [ht.address, ht.later (hactive htester)]
    rfl
  · cases hbind : e.binds h with
    | none => exact (Steady.step U hbind).sourceAddress
    | some a => exact (Event.binding_step U hbind).2.1
  · intro a ha
    obtain ⟨hin, payload, answers, k, he, hx, hk, haddress, -, -, hstep⟩ :=
      Event.step_of_binds U ha
    exact ⟨hin, payload, answers, k, he, hx, hk, haddress, hstep⟩
  · intro a ha job accepted hj
    exact (SendsOnly.of_binds U ha).of_mem_callsMade hj
  · rintro success responseCode send rfl job accepted hj
    have hsends := SendsOnly.routingActivationCompleted h success responseCode send
    exact ⟨h.sourceAddress, hb.eq_singleton hnot (activating_of_mem_callsMade hj),
      hsends.of_mem_callsMade hj⟩
  · rintro htester payload answers rfl ha hx
    obtain ⟨hsends, hstate⟩ := sendsOnly_of_other U ha (hactive htester) hx
    exact ⟨fun job accepted hj => hsends.of_mem_callsMade hj, hstate⟩

/-- Two testers on one connection: the owner activates routing for 0x0E00, and the response to it is
still in flight when 0x0F00 is turned away, which closes the connection. -/
def twoTesters : List Event :=
  [.headerReceived ⟨2, 0xFD, .routingActivationRequest, 7⟩ ⟨true, fun _ => false, .accepted⟩,
    .routingActivationRequestReceived [0x0E, 0x00, 0, 0, 0, 0, 0]
      ⟨⟨.continue, 0x10, id⟩, none, .accepted⟩,
    .routingActivationCompleted true 0x10 .accepted,
    .headerReceived ⟨2, 0xFD, .routingActivationRequest, 7⟩ ⟨true, fun _ => false, .accepted⟩,
    .routingActivationRequestReceived [0x0F, 0x00, 0, 0, 0, 0, 0]
      ⟨⟨.continue, 0x10, id⟩, none, .released true⟩]

theorem boundForLife_twoTesters :
    BoundForLife .iso13400 (startedWith 2) twoTesters
        (twoTesters.foldl (connection .iso13400).step (startedWith 2)) ∧
      ∀ e, AddressStep .iso13400 (startedWith 2) twoTesters
        (twoTesters.foldl (connection .iso13400).step (startedWith 2)) e :=
  boundForLife_of_run .iso13400 (started_startedWith 2) (.of_enabledAll (by decide))

end SovdDemo.Doip

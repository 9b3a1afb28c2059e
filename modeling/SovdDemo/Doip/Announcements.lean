import SovdDemo.Doip.AddressBinding

/-!
# When is routing announced?

Once routing is active, the message handlers hear of it, in the order they were added, and then the
owner. The state tells whether this can still happen: INACTIVE and ACTIVATING come before it, and
nothing leads back to them. `isOrWasRouting` is the handler's own record of it.

## Main definitions

- `announcement` — everybody is told, once
- `Succeeds` — the steps in which the owner completes an activation successfully
- `Announced` — the invariant: what has been announced, and what `isOrWasRouting` says of it

## Main results

- `routing_step` — what a step does with routing, in three cases
- `announced_of_run` — routing is announced once, when an activation succeeds, or at `start`
-/

namespace SovdDemo.Doip

open Foundations DoIpServerConnectionHandler

/-- `routingActive`, to the message handler at a position or to the owner. -/
def Call.announcement : Call → Option (Option Nat)
  | .messageHandlerRoutingActive i => some (some i)
  | .ownerRoutingActive => some none
  | _ => none

/-- Everybody is told: the message handlers in their order, and the owner after them. -/
def announcement (h : DoIpServerConnectionHandler) : List (Option Nat) :=
  (List.range h.messageHandlers).map some ++ [none]

/-- The owner completes an activation successfully: within its call, or later. -/
def Succeeds (h : DoIpServerConnectionHandler) : Event → Prop
  | .routingActivationRequestReceived _ answers =>
    answers.check.action = .continue ∧ h.state = .inactive ∧
      answers.completion.map Prod.fst = some true
  | .routingActivationCompleted success _ _ => success = true ∧ h.state = .activating
  | _ => False

instance (h : DoIpServerConnectionHandler) : ∀ e, Decidable (Succeeds h e)
  | .routingActivationRequestReceived _ _ => inferInstanceAs (Decidable (_ ∧ _ ∧ _))
  | .routingActivationCompleted _ _ _ => inferInstanceAs (Decidable (_ ∧ _))
  | .headerReceived _ _ | .aliveCheckResponseReceived _ | .startAliveCheck _
  | .connectionClosed _ | .timerExpired | .jobReleased _ _ | .close | .sendNack _ _ _
  | .shutdown => inferInstanceAs (Decidable False)

/-! Operations that announce nothing -/

/-- An operation that announces nothing. -/
structure Unannounced (h g : DoIpServerConnectionHandler) : Prop where
  isOrWasRouting : g.isOrWasRouting = h.isOrWasRouting
  messageHandlers : g.messageHandlers = h.messageHandlers
  calls : Writes Call.announcement h.calls g.calls []

/-- An operation that announces nothing, and leaves the state alone or ends the connection. -/
structure Quiet (h g : DoIpServerConnectionHandler) : Prop extends Unannounced h g where
  state : g.state = h.state ∨ g.state = .closing ∨ g.state = .shutdown

namespace Unannounced

variable {h g k : DoIpServerConnectionHandler}

theorem trans (hg : Unannounced h g) (hk : Unannounced g k) : Unannounced h k :=
  ⟨hk.isOrWasRouting.trans hg.isOrWasRouting, hk.messageHandlers.trans hg.messageHandlers,
    hg.calls.trans hk.calls⟩

end Unannounced

namespace Quiet

variable {h g k : DoIpServerConnectionHandler}

/-- Operations that do not touch the state. -/
theorem of_writes (hs : g.state = h.state) (hr : g.isOrWasRouting = h.isOrWasRouting)
    (hm : g.messageHandlers = h.messageHandlers)
    (hc : Writes Call.announcement h.calls g.calls []) : Quiet h g := ⟨⟨hr, hm, hc⟩, .inl hs⟩

theorem refl (h : DoIpServerConnectionHandler) : Quiet h h := of_writes rfl rfl rfl (.refl _)

theorem trans (hg : Quiet h g) (hk : Quiet g k) : Quiet h k := by
  refine ⟨hg.toUnannounced.trans hk.toUnannounced, ?_⟩
  rcases hk.state with hs | hs
  · rw [hs]
    exact hg.state
  · exact .inr hs

theorem log (h : DoIpServerConnectionHandler) {cs : List Call}
    (hcs : ∀ c ∈ cs, c.announcement = none) : Quiet h (h.log cs) :=
  of_writes rfl rfl rfl (.append_of_forall hcs _)

theorem close (h : DoIpServerConnectionHandler) : Quiet h h.close := by
  have hcalls : Writes Call.announcement h.calls h.close.calls [] :=
    h.writes_close rfl (fun _ => rfl) rfl rfl rfl
  by_cases hs : h.state = .shutdown
  · rw [h.close_of_shutdown hs]
    exact refl h
  · refine ⟨⟨?_, ?_, hcalls⟩, .inr (.inr h.close_state)⟩ <;> rw [h.close_of_ne_shutdown hs] <;> rfl

theorem sent (h : DoIpServerConnectionHandler) (slot : Nat) (free : List Nat)
    (payloadType : PayloadType) (payload : List UInt8) (closeAfterSend : Bool)
    (outcome : SendOutcome) :
    Quiet h (h.sent slot free payloadType payload closeAfterSend outcome) := by
  have hcalls : Writes Call.announcement h.calls
      (h.sent slot free payloadType payload closeAfterSend outcome).calls [] := by
    cases outcome <;> exact .append _ _
  cases closeAfterSend with
  | false => exact of_writes rfl rfl rfl hcalls
  | true => exact ⟨⟨rfl, rfl, hcalls⟩, .inr (.inl rfl)⟩

theorem admits : Admits Quiet := by
  refine .of_trans refl trans ?_ (fun _ _ => of_writes rfl rfl rfl (.refl _)) close
    fun _ _ => sent _ _ _
  intro h cs hcs
  exact log h (Call.forall_of_isExchange (P := fun c => c.announcement = none) rfl
    (fun _ _ _ => rfl) rfl (fun _ _ _ => rfl) (fun _ _ _ _ => rfl) hcs)

theorem setTimer (h : DoIpServerConnectionHandler) (t : UInt32) : Quiet h (h.setTimer t) :=
  of_writes rfl rfl rfl (.append _ _)

theorem startAliveCheck (h : DoIpServerConnectionHandler) (outcome : SendOutcome) :
    Quiet h (h.startAliveCheck outcome) := by
  obtain ⟨-, heq⟩ | ⟨-, -, heq⟩ | ⟨-, slot, free, -, heq⟩ := h.startAliveCheck_cases outcome
  · rw [heq]
    split
    · exact log h (List.forall_mem_singleton.mpr rfl)
    · exact refl h
  · rw [heq]
    have hup : Quiet h (h.setAliveCheckPending true) := of_writes rfl rfl rfl (.refl _)
    exact hup.trans (close _)
  · rw [heq]
    refine of_writes rfl rfl rfl ?_
    cases outcome <;> exact .append _ _

theorem prepared (U : Upstream) (h : DoIpServerConnectionHandler) (e : Event) :
    Quiet h (e.prepared U h) := by
  cases e with
  | headerReceived header answers =>
    rw [Event.prepared, restarted]
    split
    · split
      · exact setTimer h _
      · exact refl h
    · exact refl h
  | aliveCheckResponseReceived payload =>
    rw [Event.prepared, answered]
    split
    · exact of_writes rfl rfl rfl (.append _ [Call.ownerAliveCheckResponseReceived _])
    · exact of_writes rfl rfl rfl (.refl _)
  | timerExpired => exact of_writes rfl rfl rfl (.refl _)
  | jobReleased job success => exact of_writes rfl rfl rfl (.append _ [Call.poolRelease _])
  | shutdown => exact of_writes rfl rfl rfl (.append _ [Call.timerCancel])
  | _ => exact refl h

/-- A step that takes no activation further announces nothing. -/
theorem step (U : Upstream) {h : DoIpServerConnectionHandler} {e : Event} (ha : ¬ Activates h e) :
    Quiet h (e.step U h) := by
  by_cases hs : ∃ send, e = .startAliveCheck send
  · obtain ⟨send, rfl⟩ := hs
    exact startAliveCheck h send
  · exact (prepared U h e).trans (admits.step ha hs)

end Quiet

/-! Activations -/

theorem writes_announcement_sendRoutingActive (h : DoIpServerConnectionHandler) :
    Writes Call.announcement h.calls h.sendRoutingActive.calls (announcement h) := by
  have hall : ((List.range h.messageHandlers).map Call.messageHandlerRoutingActive).filterMap
      Call.announcement = (List.range h.messageHandlers).map some := by
    rw [List.filterMap_map]
    exact congrFun List.filterMap_eq_map _
  have htold : Writes Call.announcement h.calls
      (h.calls ++ (List.range h.messageHandlers).map .messageHandlerRoutingActive)
      ((List.range h.messageHandlers).map some) := by
    rw [← hall]
    exact .append _ _
  exact htold.trans (.append _ [Call.ownerRoutingActive])

/-- An activation tells everybody, whatever state its response has left. -/
theorem writes_announcement_activate (h : DoIpServerConnectionHandler) :
    Writes Call.announcement h.calls h.activate.calls (announcement h) := by
  have htimer : Writes Call.announcement h.calls
      (h.setTimer h.parameters.generalInactivityTimeout).calls [] := .append _ _
  exact htimer.trans (writes_announcement_sendRoutingActive
    (({ h.setState .active with isOrWasRouting := true } :
      DoIpServerConnectionHandler).setTimer h.parameters.generalInactivityTimeout))

/-- The owner's decision on an activation. -/
theorem routingActivationCompleted_cases {h : DoIpServerConnectionHandler}
    (hs : h.state = .activating) (success : Bool) (responseCode : UInt8) (outcome : SendOutcome) :
    (success = false ∧ Quiet h (h.routingActivationCompleted success responseCode outcome)) ∨
    (success = true ∧ ∃ k, Quiet h k ∧
      h.routingActivationCompleted success responseCode outcome = k.activate) := by
  rw [h.routingActivationCompleted_of_activating hs]
  cases success with
  | false => exact .inl ⟨rfl, Quiet.admits.sendAllocated h _ _ _ _⟩
  | true => exact .inr ⟨rfl, _, Quiet.admits.sendAllocated h _ _ _ _, rfl⟩

/-- What a step does with routing: it announces nothing, or passes a request on without success, or
completes an activation and announces that. -/
theorem routing_step (U : Upstream) (h : DoIpServerConnectionHandler) (e : Event) :
    (¬ Succeeds h e ∧ Quiet h (e.step U h)) ∨
    (¬ Succeeds h e ∧ h.state = .inactive ∧ ∃ k, k.state = .activating ∧ Unannounced h k ∧
      Quiet k (e.step U h)) ∨
    (Succeeds h e ∧ (h.state = .inactive ∨ h.state = .activating) ∧
      ∃ k, Unannounced h k ∧ Quiet k.activate (e.step U h)) := by
  by_cases ha : Activates h e
  · cases e with
    | routingActivationRequestReceived payload answers =>
      obtain ⟨hc, hin⟩ := ha
      let g := h.setPayloadRequests (h.payloadRequests.erase
        ⟨.routingActivationRequestReceived, payload.length⟩)
      let k := (g.activating payload answers.check).log [.ownerHandleRoutingActivationRequest]
      have hchecked : Writes Call.announcement h.calls (g.checked payload).calls [] := .append _ _
      have hk : Unannounced h k := ⟨rfl, rfl, hchecked.trans (.append _ _)⟩
      have hend : ∀ m : DoIpServerConnectionHandler,
          Quiet m (m.log [.connectionEndReceiveMessage]) :=
        fun m => .log m (List.forall_mem_singleton.mpr rfl)
      have hg : g.state = .inactive := hin
      have hstep : (Event.routingActivationRequestReceived payload answers).step U h =
          ((g.activating payload answers.check).handleRoutingActivationRequest answers).log
            [.connectionEndReceiveMessage] :=
        g.routingActivationRequestReceived_of_inactive U payload hc hg
      rw [hstep, handleRoutingActivationRequest]
      cases hcompletion : answers.completion with
      | none =>
        refine .inr (.inl ⟨?_, hin, k, rfl, hk, hend k⟩)
        simp [Succeeds, hcompletion]
      | some decision =>
        obtain ⟨success, responseCode⟩ := decision
        have hsucceeds : Succeeds h (.routingActivationRequestReceived payload answers) ↔
            success = true := by simp [Succeeds, hcompletion, hc, hin]
        rw [hsucceeds]
        have hact : k.state = .activating := rfl
        obtain ⟨hs, hq⟩ | ⟨hs, m, hm, heq⟩ :=
          routingActivationCompleted_cases hact success responseCode answers.send
        · refine .inr (.inl ⟨?_, hin, k, hact, hk, hq.trans (hend _)⟩)
          rw [hs]
          exact Bool.noConfusion
        · refine .inr (.inr ⟨hs, .inl hin, m, hk.trans hm.toUnannounced, ?_⟩)
          rw [← heq]
          exact hend _
    | routingActivationCompleted success responseCode send =>
      obtain ⟨hs, hq⟩ | ⟨hs, k, hk, heq⟩ :=
        routingActivationCompleted_cases ha success responseCode send
      · refine .inl ⟨?_, hq⟩
        rintro ⟨hs', -⟩
        rw [hs] at hs'
        cases hs'
      · refine .inr (.inr ⟨⟨hs, ha⟩, .inr ha, k, hk.toUnannounced, ?_⟩)
        rw [← heq]
        exact .refl _
    | _ => exact ha.elim
  · refine .inl ⟨?_, Quiet.step U ha⟩
    intro hs
    cases e with
    | routingActivationRequestReceived payload answers => exact ha ⟨hs.1, hs.2.1⟩
    | routingActivationCompleted success responseCode send => exact ha hs.2
    | _ => exact hs

/-! The invariant -/

/-- What has been announced, and what the handler's own record says of it: routing is off before an
activation has succeeded, and on in ACTIVE. -/
structure Announced (h : DoIpServerConnectionHandler) : Prop where
  undecided : h.state = .inactive ∨ h.state = .activating → h.isOrWasRouting = false
  active : h.state = .active → h.isOrWasRouting = true
  calls : h.calls.filterMap Call.announcement =
    if h.isOrWasRouting then announcement h else []

namespace Announced

variable {h g : DoIpServerConnectionHandler}

theorem calls_of_unannounced (hi : Announced h) (hg : Unannounced h g) :
    g.calls.filterMap Call.announcement = if g.isOrWasRouting then announcement g else [] := by
  rw [hg.calls.filterMap_eq, List.append_nil, hi.calls, hg.isOrWasRouting, announcement,
    announcement, hg.messageHandlers]

theorem of_quiet (hi : Announced h) (hg : Quiet h g) : Announced g := by
  refine ⟨?_, ?_, hi.calls_of_unannounced hg.toUnannounced⟩
  · intro hs
    rw [hg.isOrWasRouting]
    rcases hg.state with heq | heq | heq
    · exact hi.undecided (heq ▸ hs)
    · simp [heq] at hs
    · simp [heq] at hs
  · intro hs
    rw [hg.isOrWasRouting]
    rcases hg.state with heq | heq | heq
    · exact hi.active (heq ▸ hs)
    · simp [heq] at hs
    · simp [heq] at hs

/-- An activation that succeeds is the first one. -/
theorem activate (hi : Announced h) (hs : h.state = .inactive ∨ h.state = .activating)
    (hg : Unannounced h g) : Announced g.activate := by
  have hoff : g.isOrWasRouting = false := hg.isOrWasRouting.trans (hi.undecided hs)
  have hnone := hi.calls_of_unannounced hg
  rw [hoff, if_neg Bool.false_ne_true] at hnone
  refine ⟨?_, fun _ => rfl, ?_⟩
  · rintro (hs' | hs') <;> cases hs'
  · rw [(writes_announcement_activate g).filterMap_eq, hnone]
    rfl

theorem step (hi : Announced h) (U : Upstream) (e : Event) : Announced (e.step U h) := by
  obtain ⟨-, hq⟩ | ⟨-, hin, k, hk, hhk, hq⟩ | ⟨-, hs, k, hhk, hq⟩ := routing_step U h e
  · exact hi.of_quiet hq
  · refine Announced.of_quiet ⟨fun _ => ?_, ?_, hi.calls_of_unannounced hhk⟩ hq
    · exact hhk.isOrWasRouting.trans (hi.undecided (.inl hin))
    · rw [hk]
      exact State.noConfusion
  · exact (hi.activate hs hhk).of_quiet hq

end Announced

/-- Routing is on once an activation has succeeded, and for good. -/
theorem isOrWasRouting_step (U : Upstream) (h : DoIpServerConnectionHandler) (e : Event) :
    (e.step U h).isOrWasRouting = true ↔ h.isOrWasRouting = true ∨ Succeeds h e := by
  obtain ⟨hn, hq⟩ | ⟨hn, -, k, -, hhk, hq⟩ | ⟨hs, -, k, -, hq⟩ := routing_step U h e
  · rw [hq.isOrWasRouting, or_iff_left hn]
  · rw [hq.isOrWasRouting, hhk.isOrWasRouting, or_iff_left hn]
  · exact iff_of_true hq.isOrWasRouting (.inr hs)

/-! Runs -/

theorem writes_announcement_opened (h : DoIpServerConnectionHandler) :
    Writes Call.announcement h.calls
      (({ h with hasCallback := true }.log [.connectionInit]).sendConnectionOpened).calls [] := by
  have hinit : Writes Call.announcement h.calls (h.calls ++ [.connectionInit]) [] := .append _ _
  exact hinit.trans (.append_of_forall (List.forall_mem_map.mpr fun _ _ => rfl) _)

/-- `start` announces routing for a handler that has been resumed. -/
theorem announced_of_started {U : Upstream} {h : DoIpServerConnectionHandler} (hs : Started U h) :
    Announced h := by
  obtain ⟨c, check, rfl | ⟨sourceAddress, rfl⟩⟩ := hs
  · have hcalls : Writes Call.announcement [] ((construct U c).start check).calls [] :=
      (writes_announcement_opened (construct U c)).trans (.append _ [Call.timerCancel, _])
    exact ⟨fun _ => rfl, State.noConfusion, hcalls.filterMap_eq⟩
  · let g := ((construct U c).resume sourceAddress).2
    let k := (((({ g with hasCallback := true }.log [.connectionInit]).sendConnectionOpened.log
      [.ownerCheckRoutingActivation sourceAddress 0 (some 0) true]).setSourceAddress sourceAddress
        (check.resolveInternalSourceAddress sourceAddress)).setTimer
          c.parameters.generalInactivityTimeout)
    have hasked : Writes Call.announcement g.calls k.calls [] :=
      ((writes_announcement_opened g).trans
        (.append _ [Call.ownerCheckRoutingActivation _ _ _ _])).trans
          (.append _ [Call.timerCancel, _])
    have hcalls : Writes Call.announcement [] (g.start check).calls (announcement k) :=
      hasked.trans (writes_announcement_sendRoutingActive k)
    refine ⟨?_, fun _ => rfl, hcalls.filterMap_eq⟩
    rintro (hs | hs) <;> cases hs

/-- Routing is announced once: to all message handlers and then to the owner, when `start` resumes a
connection or the owner first completes an activation successfully, and never again in any run. -/
theorem announced_of_run (U : Upstream) {h₀ h : DoIpServerConnectionHandler} {es : List Event}
    (hs : Started U h₀) (hr : (connection U).Run h₀ es h) :
    Announced h ∧ (h.isOrWasRouting = true ↔
      h₀.isOrWasRouting = true ∨ (connection U).Sometime Succeeds h₀ es) := by
  refine ⟨hr.preserves (fun _ e hi _ => hi.step U e) (announced_of_started hs), ?_⟩
  exact hr.iff_or_sometime (I := fun _ => True) (Q := fun g => g.isOrWasRouting = true)
    (fun _ _ _ _ => trivial) (fun g e _ _ => isOrWasRouting_step U g e) trivial

/-- The first of two testers is let in, and the second does not turn routing off. -/
theorem announced_twoTesters :
    Announced (twoTesters.foldl (connection .iso13400).step (startedWith 2)) ∧
      (twoTesters.foldl (connection .iso13400).step (startedWith 2)).isOrWasRouting = true := by
  have hr : (connection .iso13400).Run (startedWith 2) twoTesters _ := .of_enabledAll (by decide)
  obtain ⟨hannounced, hiff⟩ := announced_of_run .iso13400 (started_startedWith 2) hr
  refine ⟨hannounced, hiff.mpr (.inr ?_)⟩
  decide

end SovdDemo.Doip

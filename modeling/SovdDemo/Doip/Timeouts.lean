import SovdDemo.Doip.ClosePending
import SovdDemo.Doip.Operations

/-!
# Is an idle connection closed?

A connection that waits for its tester, before an activation or after it, must not wait forever. The
timer is armed by `start`, and re-armed by an activation, a header and an alive check; it is
disarmed by its own expiry, by `close` and by `shutdown`. In INACTIVE and in ACTIVE it is never
found disarmed, and its expiry closes. In between, while the owner decides, an expiry is ignored,
and the connection is watched again only from the decision on.

## Main definitions

- `Waiting` — the states in which the tester is waited for
- `Watched` — the timer is armed, with one of the three timeouts

## Main results

- `watched_of_reachable` — a waiting connection is watched in every run before `shutdown`
-/

namespace SovdDemo.Doip

open Foundations DoIpServerConnectionHandler

/-- The states in which it is the tester's turn. -/
def Waiting (h : DoIpServerConnectionHandler) : Prop := h.state = .inactive ∨ h.state = .active

/-- The timer is armed, with one of the timeouts that the handler was constructed with. -/
def Armed (h : DoIpServerConnectionHandler) : Prop :=
  h.timer = some h.parameters.initialInactivityTimeout ∨
    h.timer = some h.parameters.generalInactivityTimeout ∨
    h.timer = some h.parameters.aliveCheckTimeout

/-- Nobody waits for the tester without a timer. -/
def Watched (h : DoIpServerConnectionHandler) : Prop := Waiting h → Armed h

namespace Watched

variable {h g : DoIpServerConnectionHandler}

/-- The invariant looks at three fields only. -/
theorem congr (hi : Watched h) (hs : g.state = h.state) (ht : g.timer = h.timer)
    (hp : g.parameters = h.parameters) : Watched g := by
  intro hw
  rw [Waiting, hs] at hw
  rw [Armed, ht, hp]
  exact hi hw

theorem of_not_waiting (hw : ¬ Waiting h) : Watched h := fun hw' => absurd hw' hw

theorem close (h : DoIpServerConnectionHandler) : Watched h.close := by
  refine of_not_waiting ?_
  rw [Waiting, close_state]
  simp

theorem sent (hi : Watched h) (slot : Nat) (free : List Nat) (payloadType : PayloadType)
    (payload : List UInt8) (closeAfterSend : Bool) (outcome : SendOutcome) :
    Watched (h.sent slot free payloadType payload closeAfterSend outcome) := by
  cases closeAfterSend with
  | false => exact hi.congr rfl rfl rfl
  | true => exact of_not_waiting (by rintro (hs | hs) <;> cases hs)

theorem admits : Admits fun h g => Watched h → Watched g :=
  .of_trans (fun _ => id) (fun hg hk hi => hk (hg hi)) (fun _ _ _ hi => hi.congr rfl rfl rfl)
    (fun _ _ hi => hi.congr rfl rfl rfl) (fun h _ => close h)
    (fun _ _ _ _ _ _ hi => hi.sent _ _ _ _ _ _)

/-- An activation arms the timer with the general timeout. -/
theorem activate (h : DoIpServerConnectionHandler) : Watched h.activate := fun _ => .inr (.inl rfl)

theorem routingActivationCompleted (hi : Watched h) (success : Bool) (responseCode : UInt8)
    (outcome : SendOutcome) :
    Watched (h.routingActivationCompleted success responseCode outcome) := by
  by_cases hs : h.state = .activating
  · rw [h.routingActivationCompleted_of_activating hs]
    split
    · exact activate _
    · exact admits.sendAllocated h _ _ _ _ hi
  · rwa [h.routingActivationCompleted_of_ne_activating hs]

theorem startAliveCheck (hi : Watched h) (outcome : SendOutcome) :
    Watched (h.startAliveCheck outcome) := by
  obtain ⟨-, heq⟩ | ⟨-, -, heq⟩ | ⟨-, slot, free, -, heq⟩ := h.startAliveCheck_cases outcome
  · rw [heq]
    split
    · exact hi.congr rfl rfl rfl
    · exact hi
  · rw [heq]
    exact close _
  · rw [heq]
    exact fun _ => .inr (.inr rfl)

/-- What a step does first, but for the two events that disarm the timer. -/
theorem prepared (hi : Watched h) (U : Upstream) {e : Event} (ht : e ≠ .timerExpired)
    (hd : e.isShutdown = false) : Watched (e.prepared U h) := by
  cases e with
  | headerReceived header answers =>
    rw [Event.prepared, restarted]
    split
    · split
      · exact fun _ => .inr (.inl rfl)
      · exact hi
    · exact hi
  | aliveCheckResponseReceived payload =>
    rw [Event.prepared, answered]
    split <;> exact hi.congr rfl rfl rfl
  | timerExpired => exact absurd rfl ht
  | jobReleased job success => exact hi.congr rfl rfl rfl
  | shutdown => cases hd
  | _ => exact hi

end Watched

/-! The timer's expiry -/

/-- A connection that the timer finds waiting is closed. -/
theorem timerExpired_of_waiting (U : Upstream) {h : DoIpServerConnectionHandler}
    (hw : Waiting h) : (Event.timerExpired.step U h).state = .shutdown := by
  show h.disarmTimer.timerExpired.state = .shutdown
  rcases hw with hs | hs
  · have hs' : h.disarmTimer.state = .inactive := hs
    rw [timerExpired, hs']
    exact close_state _
  · have hs' : h.disarmTimer.state = .active := hs
    rw [timerExpired, hs']
    exact close_state _

/-- Any other connection is left alone. -/
theorem timerExpired_of_not_waiting (U : Upstream) {h : DoIpServerConnectionHandler}
    (hw : ¬ Waiting h) : Event.timerExpired.step U h = h.disarmTimer := by
  show h.disarmTimer.timerExpired = _
  rw [timerExpired]
  split
  · next hs => exact absurd (.inl hs) hw
  · next hs => exact absurd (.inr hs) hw
  · rfl

/-! Runs -/

theorem Watched.timerExpired (U : Upstream) (h : DoIpServerConnectionHandler) :
    Watched (Event.timerExpired.step U h) := by
  refine of_not_waiting ?_
  by_cases hw : Waiting h
  · rw [Waiting, timerExpired_of_waiting U hw]
    simp
  · rwa [timerExpired_of_not_waiting U hw]

/-- While the owner decides, nobody waits for the tester. -/
theorem Watched.handleRoutingActivationRequest {h : DoIpServerConnectionHandler}
    (hs : h.state = .activating) (answers : ActivationAnswers) :
    Watched (h.handleRoutingActivationRequest answers) := by
  have hi : Watched (h.log [.ownerHandleRoutingActivationRequest]) := by
    refine of_not_waiting ?_
    rw [Waiting, log_state, hs]
    simp
  rw [DoIpServerConnectionHandler.handleRoutingActivationRequest]
  split
  · exact hi.routingActivationCompleted _ _ _
  · exact hi

theorem Watched.step {U : Upstream} {h : DoIpServerConnectionHandler} {e : Event} (hi : Watched h)
    (hd : e.isShutdown = false) : Watched (e.step U h) := by
  by_cases ha : Activates h e
  · cases e with
    | routingActivationRequestReceived payload answers =>
      obtain ⟨hc, hin⟩ := ha
      let g := h.setPayloadRequests (h.payloadRequests.erase
        ⟨.routingActivationRequestReceived, payload.length⟩)
      have hg : g.state = .inactive := hin
      show Watched (g.routingActivationRequestReceived U payload answers)
      rw [g.routingActivationRequestReceived_of_inactive U payload hc hg]
      exact (handleRoutingActivationRequest rfl answers).congr rfl rfl rfl
    | routingActivationCompleted success responseCode send =>
      exact hi.routingActivationCompleted success responseCode send
    | _ => exact ha.elim
  · by_cases hs : ∃ send, e = .startAliveCheck send
    · obtain ⟨send, rfl⟩ := hs
      exact hi.startAliveCheck send
    · by_cases ht : e = .timerExpired
      · subst ht
        exact timerExpired U h
      · exact admits.step ha hs (hi.prepared U ht hd)

theorem watched_of_started {U : Upstream} {h : DoIpServerConnectionHandler} (hs : Started U h) :
    Watched h := by
  obtain ⟨c, check, rfl | ⟨sourceAddress, rfl⟩⟩ := hs
  · exact fun _ => .inl rfl
  · exact fun _ => .inr (.inl rfl)

/-- In every run before `shutdown`, a connection that waits for its tester has the timer armed, and
is closed if it expires: no tester keeps a connection open by staying silent. -/
theorem watched_of_reachable (U : Upstream) {h : DoIpServerConnectionHandler}
    (hr : (beforeShutdown U).Reachable h) (hw : Waiting h) :
    Armed h ∧ (beforeShutdown U).enabled h .timerExpired ∧
      ((beforeShutdown U).step h .timerExpired).state = .shutdown := by
  have harmed : Armed h := by
    refine hr.invariant (I := Watched) (fun _ => watched_of_started) ?_ hw
    intro g e hi he
    exact hi.step he.2
  refine ⟨harmed, ⟨?_, rfl⟩, timerExpired_of_waiting U hw⟩
  show h.timer.isSome
  rcases harmed with ht | ht | ht <;> rw [ht] <;> rfl

/-- A tester that activates routing and then stays silent, also when it is asked whether it is still
there. -/
def silentTester : List Event :=
  [.headerReceived ⟨2, 0xFD, .routingActivationRequest, 7⟩ ⟨true, fun _ => false, .accepted⟩,
    .routingActivationRequestReceived [0x0E, 0x00, 0, 0, 0, 0, 0]
      ⟨⟨.continue, 0x10, id⟩, some (true, 0x10), .accepted⟩,
    .startAliveCheck .accepted]

theorem watched_silentTester :
    Armed (silentTester.foldl (beforeShutdown .iso13400).step (startedWith 2)) ∧
      (beforeShutdown .iso13400).enabled
        (silentTester.foldl (beforeShutdown .iso13400).step (startedWith 2)) .timerExpired ∧
      ((beforeShutdown .iso13400).step
        (silentTester.foldl (beforeShutdown .iso13400).step (startedWith 2))
          .timerExpired).state = .shutdown :=
  watched_of_reachable .iso13400
    ⟨_, _, started_startedWith 2, .of_enabledAll (by decide)⟩ (.inr rfl)

end SovdDemo.Doip

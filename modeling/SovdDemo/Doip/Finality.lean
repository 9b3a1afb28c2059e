import SovdDemo.Doip.Operations
import Mathlib.Data.List.Nodup

/-!
# Is SHUTDOWN final?

`close` moves the handler to SHUTDOWN, disarms the timer and tells everybody. Nothing may follow
that undoes it. `Lifecycle` is the inductive invariant; the one step that breaks it is
`routingActivationCompleted(true, _)` with an empty send-job pool: its response finds no job and
closes, and the method then goes on to set ACTIVE, arm the timer and announce routing.

## Main definitions

- `ShutdownIsFinal` — what holds of a handler once its `close` has executed
- `CompletesWithoutJob` — the steps that complete an activation on an empty pool

## Main results

- `lifecycle_step` — every other step keeps the invariant
- `shutdownIsFinal_of_reachable` — SHUTDOWN is final in every run without such a step
-/

namespace SovdDemo.Doip

open Foundations DoIpServerConnectionHandler

namespace Call

def armsTimer : Call → Bool
  | .timerSchedule _ => true
  | _ => false

/-- `routingActive`, to a message handler or to the owner. -/
def announcesRouting : Call → Bool
  | .messageHandlerRoutingActive _ | .ownerRoutingActive => true
  | _ => false

/-- The calls only `close` makes. -/
def announcesClose : Call → Bool
  | .connectionClose | .messageHandlerConnectionClosed _ | .ownerConnectionClosed => true
  | _ => false

/-- Calls that can be made before and after `close`. -/
def isNeutral (c : Call) : Bool := !c.armsTimer && !c.announcesRouting && !c.announcesClose

theorem isNeutral_iff (c : Call) : c.isNeutral = true ↔
    c.armsTimer = false ∧ c.announcesRouting = false ∧ c.announcesClose = false := by
  simp [isNeutral, and_assoc]

/-- In a log without calls of `close`, none of them occurs. -/
theorem count_eq_zero_of_announcesClose {cs : List Call} (hcs : ∀ c ∈ cs, c.announcesClose = false)
    {c : Call} (hc : c.announcesClose = true) : cs.count c = 0 := by
  apply List.count_eq_zero_of_not_mem
  intro hm
  rw [hcs c hm] at hc
  cases hc

end Call

/-- Once `close` has executed, the state is SHUTDOWN, no timer is armed and none has been armed
since, no `routingActive` has been announced since, and every `connectionClosed` went out once. -/
structure ShutdownIsFinal (h : DoIpServerConnectionHandler) : Prop where
  state : Call.connectionClose ∈ h.calls → h.state = .shutdown
  timer : Call.connectionClose ∈ h.calls → h.timer = none
  quiet : After (· = .connectionClose)
    (fun c => c.armsTimer = false ∧ c.announcesRouting = false) h.calls
  messageHandlers : ∀ i, h.calls.count (.messageHandlerConnectionClosed i) ≤ 1
  owner : h.calls.count .ownerConnectionClosed ≤ 1

/-- A handler that has not been closed. -/
structure Opened (h : DoIpServerConnectionHandler) : Prop where
  connection : h.connectionIsClosed = false
  calls : ∀ c ∈ h.calls, c.announcesClose = false

/-- A handler that has been closed, for good. -/
structure Closed (h : DoIpServerConnectionHandler) : Prop where
  connection : h.connectionIsClosed = true
  timer : h.timer = none
  quiet : After (· = .connectionClose)
    (fun c => c.armsTimer = false ∧ c.announcesRouting = false) h.calls
  messageHandlers : ∀ i, h.calls.count (.messageHandlerConnectionClosed i) ≤ 1
  owner : h.calls.count .ownerConnectionClosed ≤ 1

/-- The state SHUTDOWN tells whether the handler has been closed. -/
structure Lifecycle (h : DoIpServerConnectionHandler) : Prop where
  opened : h.state ≠ .shutdown → Opened h
  closed : h.state = .shutdown → Closed h

/-- The connection delivers nothing after its `close`. -/
theorem Lifecycle.ne_shutdown {h : DoIpServerConnectionHandler} (hi : Lifecycle h)
    (hc : h.connectionIsClosed = false) : h.state ≠ .shutdown := by
  intro hs
  rw [(hi.closed hs).connection] at hc
  cases hc

theorem Lifecycle.shutdownIsFinal {h : DoIpServerConnectionHandler} (hi : Lifecycle h) :
    ShutdownIsFinal h := by
  by_cases hs : h.state = .shutdown
  · have hc := hi.closed hs
    exact ⟨fun _ => hs, fun _ => hc.timer, hc.quiet, hc.messageHandlers, hc.owner⟩
  · have ho := (hi.opened hs).calls
    have hnot : Call.connectionClose ∉ h.calls := fun hm => Bool.noConfusion (ho _ hm)
    refine ⟨fun hm => absurd hm hnot, fun hm => absurd hm hnot, ?_, ?_, ?_⟩
    · exact .of_forall_not fun c hc he => hnot (he ▸ hc)
    · intro i
      rw [Call.count_eq_zero_of_announcesClose ho rfl]
      exact Nat.zero_le 1
    · rw [Call.count_eq_zero_of_announcesClose ho rfl]
      exact Nat.zero_le 1

/-- The steps that complete an activation successfully when no job is left for the response. -/
def CompletesWithoutJob (h : DoIpServerConnectionHandler) : Event → Prop
  | .routingActivationCompleted success _ _ =>
    success = true ∧ h.state = .activating ∧ h.sendJobPool = []
  | .routingActivationRequestReceived _ answers =>
    answers.completion.map Prod.fst = some true ∧ answers.check.action = .continue ∧
      h.state = .inactive ∧ h.sendJobPool = []
  | _ => False

instance (h : DoIpServerConnectionHandler) : (e : Event) → Decidable (CompletesWithoutJob h e)
  | .routingActivationCompleted _ _ _ => inferInstanceAs (Decidable (_ ∧ _ ∧ _))
  | .routingActivationRequestReceived _ _ => inferInstanceAs (Decidable (_ ∧ _ ∧ _ ∧ _))
  | .headerReceived _ _ | .aliveCheckResponseReceived _ | .startAliveCheck _
  | .sendNack _ _ _ | .connectionClosed _ | .timerExpired | .jobReleased _ _ | .close
  | .shutdown => inferInstanceAs (Decidable False)

/-! Which operations keep the invariant -/

/-- Nothing that `close` does arms the timer or announces routing. -/
theorem DoIpServerConnectionHandler.closingCalls_quiet (h : DoIpServerConnectionHandler) :
    ∀ c ∈ h.closingCalls, c.armsTimer = false ∧ c.announcesRouting = false :=
  h.forall_mem_closingCalls ⟨rfl, rfl⟩ (fun _ => ⟨rfl, rfl⟩) ⟨rfl, rfl⟩ ⟨rfl, rfl⟩ ⟨rfl, rfl⟩

namespace Lifecycle

variable {h : DoIpServerConnectionHandler}

/-- The invariant looks at four fields only. -/
theorem congr {h' : DoIpServerConnectionHandler} (hi : Lifecycle h) (hs : h'.state = h.state)
    (hc : h'.connectionIsClosed = h.connectionIsClosed) (ht : h'.timer = h.timer)
    (hl : h'.calls = h.calls) : Lifecycle h' := by
  refine ⟨?_, ?_⟩
  · intro hs'
    have ho := hi.opened (hs ▸ hs')
    exact ⟨hc ▸ ho.connection, hl ▸ ho.calls⟩
  · intro hs'
    have hcl := hi.closed (hs ▸ hs')
    exact ⟨hc ▸ hcl.connection, ht ▸ hcl.timer, hl ▸ hcl.quiet, hl ▸ hcl.messageHandlers,
      hl ▸ hcl.owner⟩

/-- Neutral calls can be made in every state. -/
theorem log (hi : Lifecycle h) (cs : List Call) (hn : ∀ c ∈ cs, c.isNeutral = true) :
    Lifecycle (h.log cs) := by
  have hn' := fun c hc => (Call.isNeutral_iff c).mp (hn c hc)
  have hclose : ∀ c ∈ cs, c.announcesClose = false := fun c hc => (hn' c hc).2.2
  refine ⟨?_, ?_⟩
  · -- not closed yet
    intro hs
    have ho := hi.opened hs
    refine ⟨ho.connection, ?_⟩
    intro c hc
    rcases List.mem_append.mp hc with hc | hc
    · exact ho.calls c hc
    · exact hclose c hc
  · -- closed before
    intro hs
    have hc := hi.closed hs
    refine ⟨hc.connection, hc.timer, ?_, ?_, ?_⟩
    · exact hc.quiet.append_of_forall fun c hm => ⟨(hn' c hm).1, (hn' c hm).2.1⟩
    · intro i
      rw [log_calls, List.count_append, Call.count_eq_zero_of_announcesClose hclose rfl]
      exact hc.messageHandlers i
    · rw [log_calls, List.count_append, Call.count_eq_zero_of_announcesClose hclose rfl]
      exact hc.owner

theorem log_one (hi : Lifecycle h) (c : Call) (hc : c.isNeutral = true) : Lifecycle (h.log [c]) :=
  hi.log [c] fun d hd => by rwa [List.mem_singleton.mp hd]

/-- Before `close`, everything but the end of the connection can be announced. -/
theorem announce (hi : Lifecycle h) (hs : h.state ≠ .shutdown) (cs : List Call)
    (hn : ∀ c ∈ cs, c.announcesClose = false) : Lifecycle (h.log cs) := by
  refine ⟨fun _ => ⟨(hi.opened hs).connection, ?_⟩, fun he => absurd he hs⟩
  intro c hc
  rcases List.mem_append.mp hc with hc | hc
  · exact (hi.opened hs).calls c hc
  · exact hn c hc

/-- Before `close`, the state can change. -/
theorem setState (hi : Lifecycle h) (hs : h.state ≠ .shutdown) {s : State}
    (hs' : s ≠ .shutdown) : Lifecycle (h.setState s) :=
  ⟨fun _ => ⟨(hi.opened hs).connection, (hi.opened hs).calls⟩, fun he => absurd he hs'⟩

/-- Before `close`, the timer can be armed. -/
theorem setTimer (hi : Lifecycle h) (hs : h.state ≠ .shutdown) (t : UInt32) :
    Lifecycle (h.setTimer t) := by
  have harmed : Lifecycle (h.armTimer t) :=
    ⟨fun _ => ⟨(hi.opened hs).connection, (hi.opened hs).calls⟩, fun he => absurd he hs⟩
  exact harmed.announce hs _ (by simp [Call.announcesClose])

theorem sendRoutingActive (hi : Lifecycle h) (hs : h.state ≠ .shutdown) :
    Lifecycle h.sendRoutingActive := by
  have hm : Lifecycle (h.forMessageHandlers .messageHandlerRoutingActive) :=
    hi.announce hs _ (List.forall_mem_map.mpr fun _ _ => rfl)
  exact hm.announce hs _ (List.forall_mem_singleton.mpr rfl)

theorem close (hi : Lifecycle h) : Lifecycle h.close := by
  by_cases hs : h.state = .shutdown
  · rwa [close_of_shutdown h hs]
  · rw [close_of_ne_shutdown h hs]
    -- all announcements of the closing are those of `closingCalls`, which has one of each
    have ho := (hi.opened hs).calls
    refine ⟨fun he => absurd rfl he, fun _ => ⟨rfl, rfl, ?_, ?_, ?_⟩⟩
    · refine .append_of_forall_not (fun c hc he => ?_) (.of_forall h.closingCalls_quiet)
      have hfalse := ho c hc
      rw [he] at hfalse
      cases hfalse
    · intro i
      show (h.calls ++ h.closingCalls).count _ ≤ 1
      rw [List.count_append, Call.count_eq_zero_of_announcesClose ho rfl, Nat.zero_add]
      have hmap : ((List.range h.messageHandlers).map Call.messageHandlerConnectionClosed).Nodup :=
        List.nodup_range.map fun a b hab => by injection hab
      have hone := List.nodup_iff_count_le_one.mp hmap (.messageHandlerConnectionClosed i)
      cases hp : h.aliveCheckPending <;> simpa [closingCalls, hp, List.count_cons] using hone
    · show (h.calls ++ h.closingCalls).count _ ≤ 1
      rw [List.count_append, Call.count_eq_zero_of_announcesClose ho rfl, Nat.zero_add]
      have hmap : ((List.range h.messageHandlers).map Call.messageHandlerConnectionClosed).count
          .ownerConnectionClosed = 0 := List.count_eq_zero_of_not_mem (by simp)
      cases hp : h.aliveCheckPending <;> simp [closingCalls, hp, hmap]

theorem isNeutral_of_mem_sendingCalls (job : SendJob) (outcome : SendOutcome) :
    ∀ c ∈ sendingCalls job outcome, c.isNeutral = true := by
  cases outcome <;>
    simp [sendingCalls, Call.isNeutral, Call.armsTimer, Call.announcesRouting, Call.announcesClose]

/-- Before `close`, a message can be sent. -/
theorem sent (hi : Lifecycle h) (hs : h.state ≠ .shutdown) (slot : Nat) (free : List Nat)
    (payloadType : PayloadType) (payload : List UInt8) (closeAfterSend : Bool)
    (outcome : SendOutcome) :
    Lifecycle (h.sent slot free payloadType payload closeAfterSend outcome) := by
  have hstate := hi.setState hs (h.stateAfterAllocation_ne_shutdown hs closeAfterSend)
  exact (hstate.log _ (isNeutral_of_mem_sendingCalls _ outcome)).congr rfl rfl rfl rfl

/-- A sender keeps the invariant whatever it finds in the pool and whatever becomes of the job. -/
theorem sendAllocated (hi : Lifecycle h) (payloadType : PayloadType) (payload : List UInt8)
    (closeAfterSend : Bool) (outcome : SendOutcome) :
    Lifecycle (h.sendAllocated payloadType payload closeAfterSend outcome) :=
  h.sendAllocated_of_sent hi close fun slot free hs _ => hi.sent hs slot free _ _ _ _

theorem startAliveCheck (hi : Lifecycle h) (outcome : SendOutcome) :
    Lifecycle (h.startAliveCheck outcome) := by
  obtain ⟨-, heq⟩ | ⟨-, -, heq⟩ | ⟨hs, slot, free, -, heq⟩ := h.startAliveCheck_cases outcome
  · rw [heq]
    split
    · exact hi.log_one _ rfl
    · exact hi
  · rw [heq]
    have hpending : Lifecycle (h.setAliveCheckPending true) := hi.congr rfl rfl rfl rfl
    exact hpending.close
  · rw [heq]
    have hne : h.state ≠ .shutdown := by
      rw [hs]
      decide
    have hcalls : ∀ c ∈ [.poolAllocate slot, .timerCancel,
        .timerSchedule h.parameters.aliveCheckTimeout] ++
          (sendingCalls (h.jobFor slot .aliveCheckRequest [] false) outcome).tail,
        c.announcesClose = false := by
      refine List.forall_mem_append.mpr ⟨by simp [Call.announcesClose], ?_⟩
      intro c hc
      have hneutral := isNeutral_of_mem_sendingCalls _ outcome c (List.mem_of_mem_tail hc)
      exact ((Call.isNeutral_iff c).mp hneutral).2.2
    have hsent := hi.announce hne _ hcalls
    exact ⟨fun hs' => ⟨(hi.opened hne).connection, (hsent.opened hs').calls⟩,
      fun he => absurd he hne⟩

theorem activate (hi : Lifecycle h) (hs : h.state ≠ .shutdown) : Lifecycle h.activate := by
  have ha : Lifecycle { h.setState .active with isOrWasRouting := true } :=
    (hi.setState hs (s := .active) State.noConfusion).congr rfl rfl rfl rfl
  exact (ha.setTimer State.noConfusion _).sendRoutingActive State.noConfusion

/-- Completing an activation keeps the invariant, unless its response finds no job. -/
theorem routingActivationCompleted (hi : Lifecycle h) {success : Bool}
    (hp : success = true → h.state = .activating → h.sendJobPool ≠ []) (responseCode : UInt8)
    (outcome : SendOutcome) :
    Lifecycle (h.routingActivationCompleted success responseCode outcome) := by
  by_cases hs : h.state = .activating
  · have hs' : h.state ≠ .shutdown := by rw [hs]; decide
    rw [h.routingActivationCompleted_of_activating hs]
    cases success with
    | false => exact hi.sendAllocated _ _ true outcome
    | true =>
      -- with a job for the response the handler is still ACTIVATING when it goes ACTIVE
      refine (hi.sendAllocated _ _ false outcome).activate ?_
      rwa [h.sendAllocated_state_of_job hs' (hp rfl hs)]
  · rwa [h.routingActivationCompleted_of_ne_activating hs]

/-- Exchanges of calls, messages and closings keep the invariant. -/
theorem admits : Admits fun h g => Lifecycle h → Lifecycle g := by
  have hneutral : ∀ cs : List Call, (∀ c ∈ cs, c.isExchange = true) →
      ∀ c ∈ cs, c.isNeutral = true :=
    fun _ => Call.forall_of_isExchange (P := fun c => c.isNeutral = true) rfl (fun _ _ _ => rfl) rfl
      (fun _ _ _ => rfl) fun _ _ _ _ => rfl
  refine ⟨fun _ hi => hi, ?_, ?_, ?_, fun _ hi => hi.close, fun _ _ _ _ _ hi =>
    hi.sendAllocated _ _ _ _⟩
  · intro h g cs hcs hg hi
    exact hg (hi.log cs (hneutral cs hcs))
  · intro h g cs hcs hg hi
    exact (hg hi).log cs (hneutral cs hcs)
  · intro h g requests hg hi
    exact hg (hi.congr rfl rfl rfl rfl)

/-- A timer that is not armed is as good as any before `close`. -/
theorem disarmTimer (hi : Lifecycle h) : Lifecycle h.disarmTimer := by
  refine ⟨fun hs => ⟨(hi.opened hs).connection, (hi.opened hs).calls⟩, ?_⟩
  intro hs
  have hc := hi.closed hs
  exact ⟨hc.connection, rfl, hc.quiet, hc.messageHandlers, hc.owner⟩

/-- What a step does first keeps the invariant: a header is delivered before `close` only, when the
timer may be armed. -/
theorem prepared (hi : Lifecycle h) (U : Upstream) {e : Event} (he : e.enabled h) :
    Lifecycle (e.prepared U h) := by
  cases e with
  | headerReceived header answers =>
    have hs : h.state ≠ .shutdown := hi.ne_shutdown he
    rw [Event.prepared, restarted]
    split
    · split
      · exact hi.setTimer hs _
      · exact hi
    · exact hi
  | aliveCheckResponseReceived payload =>
    have hr : Lifecycle (h.setPayloadRequests (h.payloadRequests.erase
        ⟨.aliveCheckResponseReceived, payload.length⟩)) := hi.congr rfl rfl rfl rfl
    rw [Event.prepared, answered]
    split
    · have hp : Lifecycle ((h.setPayloadRequests (h.payloadRequests.erase
        ⟨.aliveCheckResponseReceived, payload.length⟩)).setAliveCheckPending false) :=
        hi.congr rfl rfl rfl rfl
      exact hp.log_one _ rfl
    · exact hr
  | timerExpired => exact hi.disarmTimer
  | jobReleased job success =>
    exact (hi.log_one (.poolRelease job.slot) rfl).congr rfl rfl rfl rfl
  | shutdown => exact hi.disarmTimer.log_one .timerCancel rfl
  | _ => exact hi

theorem handleRoutingActivationRequest (hi : Lifecycle h) {answers : ActivationAnswers}
    (hp : ∀ code, answers.completion = some (true, code) → h.sendJobPool ≠ []) :
    Lifecycle (h.handleRoutingActivationRequest answers) := by
  have hl := hi.log_one .ownerHandleRoutingActivationRequest rfl
  rw [DoIpServerConnectionHandler.handleRoutingActivationRequest]
  cases hc : answers.completion with
  | none => exact hl
  | some completion =>
    obtain ⟨success, code⟩ := completion
    refine hl.routingActivationCompleted (fun hs _ => ?_) code answers.send
    subst hs
    exact hp code hc

/-- The step of an activation keeps the invariant, unless it completes it with no job left for the
response. -/
theorem step_of_activates (hi : Lifecycle h) {U : Upstream} {e : Event} (ha : Activates h e)
    (hg : ¬ CompletesWithoutJob h e) : Lifecycle (e.step U h) := by
  cases e with
  | routingActivationRequestReceived payload answers =>
    obtain ⟨hact, hin⟩ := ha
    let g := h.setPayloadRequests (h.payloadRequests.erase
      ⟨.routingActivationRequestReceived, payload.length⟩)
    have hr : Lifecycle g := hi.congr rfl rfl rfl rfl
    have hc : Lifecycle (g.checked payload) := hr.log_one _ rfl
    have hne : (g.checked payload).state ≠ .shutdown := by
      show h.state ≠ .shutdown
      rw [hin]
      decide
    have hx : Lifecycle (g.activating payload answers.check) :=
      (hc.setState hne (s := .activating) State.noConfusion).congr rfl rfl rfl rfl
    show Lifecycle (g.routingActivationRequestReceived U payload answers)
    rw [g.routingActivationRequestReceived_of_inactive U payload hact hin]
    refine (hx.handleRoutingActivationRequest ?_).log_one _ rfl
    intro code hcomp hpool
    exact hg ⟨by rw [hcomp]; rfl, hact, hin, hpool⟩
  | routingActivationCompleted success responseCode send =>
    exact hi.routingActivationCompleted (fun hs ha hp => hg ⟨hs, ha, hp⟩) responseCode send
  | _ => exact ha.elim

/-- `start` opens the connection to the message handlers, and announces routing if it resumes. -/
theorem start (hi : Lifecycle h) (hs : h.state ≠ .shutdown) (check : RoutingActivationCheckResult) :
    Lifecycle (h.start check) := by
  rw [DoIpServerConnectionHandler.start]
  split
  · have hc : Lifecycle { h with hasCallback := true } := hi.congr rfl rfl rfl rfl
    have ho : Lifecycle (({ h with hasCallback := true }.log [.connectionInit]).log
        ((List.range h.messageHandlers).map .messageHandlerConnectionOpened)) :=
      (hc.log_one .connectionInit rfl).log _ (List.forall_mem_map.mpr fun _ _ => rfl)
    dsimp only
    split
    · exact ho.setTimer hs _
    · have ha : Lifecycle ((sendConnectionOpened
          ({ h with hasCallback := true }.log [.connectionInit])).log
            [.ownerCheckRoutingActivation h.sourceAddress 0 (some 0) true]) := ho.log_one _ rfl
      have hr : Lifecycle (((sendConnectionOpened
          ({ h with hasCallback := true }.log [.connectionInit])).log
            [.ownerCheckRoutingActivation h.sourceAddress 0 (some 0) true]).setSourceAddress
              h.sourceAddress (check.resolveInternalSourceAddress h.sourceAddress)) :=
        ha.congr rfl rfl rfl rfl
      exact (hr.setTimer hs _).sendRoutingActive hs
  · exact hi

end Lifecycle

theorem lifecycle_of_started {U : Upstream} {h : DoIpServerConnectionHandler} (hs : Started U h) :
    Lifecycle h := by
  have hopened : ∀ g : DoIpServerConnectionHandler, g.state ≠ .shutdown →
      g.connectionIsClosed = false → g.calls = [] → Lifecycle g := by
    intro g hg hc hl
    refine ⟨fun _ => ⟨hc, ?_⟩, fun he => absurd he hg⟩
    simp [hl]
  obtain ⟨c, check, rfl | ⟨sourceAddress, rfl⟩⟩ := hs
  · exact (hopened (construct U c) State.noConfusion rfl rfl).start State.noConfusion check
  · exact (hopened ((construct U c).resume sourceAddress).2 State.noConfusion rfl rfl).start
      State.noConfusion check

/-! The steps of a run -/

theorem lifecycle_step {U : Upstream} {h : DoIpServerConnectionHandler} {e : Event}
    (hi : Lifecycle h) (he : e.enabled h) (hg : ¬ CompletesWithoutJob h e) :
    Lifecycle (e.step U h) := by
  by_cases ha : Activates h e
  · exact hi.step_of_activates ha hg
  · by_cases hs : ∃ send, e = .startAliveCheck send
    · obtain ⟨send, rfl⟩ := hs
      exact hi.startAliveCheck send
    · exact Lifecycle.admits.step ha hs (hi.prepared U he)

/-- The response that finds no job closes the handler, and the activation goes on regardless. -/
theorem not_shutdownIsFinal_routingActivationCompleted {h : DoIpServerConnectionHandler}
    (ha : h.state = .activating) (hp : h.sendJobPool = []) (responseCode : UInt8)
    (outcome : SendOutcome) :
    ¬ ShutdownIsFinal (h.routingActivationCompleted true responseCode outcome) := by
  have hs : h.state ≠ .shutdown := by rw [ha]; decide
  rw [h.routingActivationCompleted_of_activating ha, if_pos rfl, h.sendAllocated_of_no_job hs hp]
  intro hf
  have hm : Call.connectionClose ∈ h.close.activate.calls := by
    rw [close_of_ne_shutdown h hs]
    simp [activate, setTimer, armTimer, sendRoutingActive, forMessageHandlers, setState, log,
      closingCalls]
  cases hf.state hm

theorem ShutdownIsFinal.of_log {h : DoIpServerConnectionHandler} {cs : List Call}
    (hf : ShutdownIsFinal (h.log cs)) : ShutdownIsFinal h := by
  have hsub : h.calls.Sublist (h.log cs).calls := List.sublist_append_left _ _
  exact ⟨fun hm => hf.state (hsub.mem hm), fun hm => hf.timer (hsub.mem hm), hf.quiet.sublist hsub,
    fun i => Nat.le_trans (hsub.count_le _) (hf.messageHandlers i),
    Nat.le_trans (hsub.count_le _) hf.owner⟩

theorem not_shutdownIsFinal_handleRoutingActivationRequest {h : DoIpServerConnectionHandler}
    (ha : h.state = .activating) (hp : h.sendJobPool = []) {answers : ActivationAnswers}
    {code : UInt8} (hc : answers.completion = some (true, code)) :
    ¬ ShutdownIsFinal (h.handleRoutingActivationRequest answers) := by
  rw [handleRoutingActivationRequest, hc]
  have hs : (h.log [.ownerHandleRoutingActivationRequest]).state = .activating := ha
  exact not_shutdownIsFinal_routingActivationCompleted hs hp code answers.send

theorem not_shutdownIsFinal_step {U : Upstream} {h : DoIpServerConnectionHandler} {e : Event}
    (hg : CompletesWithoutJob h e) : ¬ ShutdownIsFinal (e.step U h) := by
  cases e with
  | routingActivationCompleted success responseCode send =>
    obtain ⟨rfl, ha, hp⟩ := hg
    exact not_shutdownIsFinal_routingActivationCompleted ha hp responseCode send
  | routingActivationRequestReceived payload answers =>
    obtain ⟨hcomp, hact, hin, hp⟩ := hg
    obtain ⟨⟨success, code⟩, hc, rfl⟩ := Option.map_eq_some_iff.mp hcomp
    let g := h.setPayloadRequests (h.payloadRequests.erase
      ⟨.routingActivationRequestReceived, payload.length⟩)
    have heq := g.routingActivationRequestReceived_of_inactive U payload hact hin
    have hg : (g.activating payload answers.check).state = .activating := rfl
    have hn := not_shutdownIsFinal_handleRoutingActivationRequest hg hp hc
    intro (hf : ShutdownIsFinal (g.routingActivationRequestReceived U payload answers))
    rw [heq] at hf
    exact hn hf.of_log
  | _ => exact hg.elim

theorem lifecycle_of_reachable {U : Upstream} {h : DoIpServerConnectionHandler}
    (hr : ((connection U).restrict fun h e => ¬ CompletesWithoutJob h e).Reachable h) :
    Lifecycle h := by
  refine hr.invariant (fun _ => lifecycle_of_started) ?_
  rintro h e hi ⟨he, hg⟩
  exact lifecycle_step hi he hg

/-- SHUTDOWN is final in every state of every run that completes no activation without a job, and
the next step keeps it final just when it is not such a completion either. -/
theorem shutdownIsFinal_of_reachable (U : Upstream) {h : DoIpServerConnectionHandler}
    (hr : ((connection U).restrict fun h e => ¬ CompletesWithoutJob h e).Reachable h) :
    ShutdownIsFinal h ∧ ∀ e, (connection U).enabled h e →
      (ShutdownIsFinal ((connection U).step h e) ↔ ¬ CompletesWithoutJob h e) := by
  have hi := lifecycle_of_reachable hr
  refine ⟨hi.shutdownIsFinal, fun e he => ⟨fun hf hg => not_shutdownIsFinal_step hg hf, ?_⟩⟩
  exact fun hg => (lifecycle_step hi he hg).shutdownIsFinal

/-- A tester that sends a header of an unknown type, and then activates routing. -/
def activationAfterNack : List Event :=
  [.headerReceived ⟨2, 0xFD, .other 0x4001, 0⟩ ⟨true, fun _ => false, .accepted⟩,
    .headerReceived ⟨2, 0xFD, .routingActivationRequest, 7⟩ ⟨true, fun _ => false, .accepted⟩,
    .routingActivationRequestReceived [0x0E, 0x00, 0x00, 0x00, 0x00, 0x00, 0x00]
      ⟨⟨.continue, 0x10, id⟩, none, .accepted⟩,
    .routingActivationCompleted true 0x10 .accepted]

/-- With two jobs there is one left for the response. -/
theorem shutdownIsFinal_of_two_jobs :
    ShutdownIsFinal ((activationAfterNack ++ [Event.close]).foldl (connection .iso13400).step
      (startedWith 2)) :=
  (shutdownIsFinal_of_reachable .iso13400
    ⟨_, _, started_startedWith 2, .of_enabledAll (by decide)⟩).1

/-- With a single job the NACK takes it, and the activation continues after its own `close`. -/
theorem not_shutdownIsFinal_of_one_job :
    ¬ ∀ U h, (connection U).Reachable h → ShutdownIsFinal h := by
  intro hall
  have hr : (connection .iso13400).Reachable
      (activationAfterNack.foldl (connection .iso13400).step (startedWith 1)) :=
    ⟨_, _, started_startedWith 1, .of_enabledAll (by decide)⟩
  exact absurd ((hall _ _ hr).state (by decide)) (by decide)

end SovdDemo.Doip

import SovdDemo.Doip.Announcements
import SovdDemo.Doip.Finality

/-!
# The phases of a connection

INACTIVE, ACTIVATING, ACTIVE, CLOSING, SHUTDOWN: a connection goes through its states in this order,
and may leave some out. The message handlers and the owner follow it: they hear that the connection
is opened, then that routing is active, then that it is closed, and nothing of it twice or in
another order. The one step that breaks both is an activation that is completed when no job is left
for the response, which leads back from SHUTDOWN to ACTIVE.

## Main definitions

- `State.rank` — the order of the states
- `Call.heardBy` — what a listener hears
- `Passes` — an operation that does not go back, and tells of a closing
- `Told` — all that a listener has heard

## Main results

- `phases_of_run` — no run without that step goes back to an earlier state
- `told_of_run` — and every listener has heard of each phase once, in the right order
-/

namespace SovdDemo.Doip

open Foundations DoIpServerConnectionHandler

/-- The order in which a connection goes through its states. -/
def State.rank : State → Nat
  | .inactive => 0
  | .activating => 1
  | .active => 2
  | .closing => 3
  | .shutdown => 4

theorem State.rank_le_shutdown (s : State) : s.rank ≤ State.shutdown.rank := by
  cases s <;> decide

/-- What a listener is told about the connection. -/
inductive Heard
  | opened
  | routingActive
  | closed
  deriving DecidableEq, Repr

/-- What a call tells a message handler, by its position, or the owner, who is `none`. -/
def Call.heardBy (listener : Option Nat) : Call → Option Heard
  | .messageHandlerConnectionOpened i => if listener = some i then some .opened else none
  | .messageHandlerRoutingActive i => if listener = some i then some .routingActive else none
  | .messageHandlerConnectionClosed i => if listener = some i then some .closed else none
  | .ownerRoutingActive => if listener = none then some .routingActive else none
  | .ownerConnectionClosed => if listener = none then some .closed else none
  | _ => none

/-- The message handlers that have been added, and the owner. -/
def Listens (listener : Option Nat) (h : DoIpServerConnectionHandler) : Prop :=
  ∀ i ∈ listener, i < h.messageHandlers

theorem filterMap_range_ite {β : Type*} (b : β) (i n : Nat) :
    (List.range n).filterMap (fun j => if i = j then some b else none) =
      if i < n then [b] else [] := by
  induction n with
  | zero => rfl
  | succ n ih =>
    rw [List.range_succ, List.filterMap_append, ih]
    by_cases hlt : i < n
    · simp [hlt, Nat.ne_of_lt hlt, Nat.lt_succ_of_lt hlt]
    · by_cases heq : i = n
      · simp [heq]
      · have hge : ¬ i < n + 1 := by omega
        simp [hlt, heq, hge]

/-- A call to each of the message handlers is heard once by each of them, and not by the owner. -/
theorem filterMap_heardBy_map_range (call : Nat → Call) {heard : Heard} {listener : Option Nat}
    (hcall : ∀ i, (call i).heardBy listener = if listener = some i then some heard else none)
    {n : Nat} (hl : ∀ i ∈ listener, i < n) :
    ((List.range n).map call).filterMap (Call.heardBy listener) =
      if listener.isSome then [heard] else [] := by
  rw [List.filterMap_map]
  cases listener with
  | none =>
    refine List.filterMap_eq_nil_iff.mpr fun i _ => ?_
    exact (hcall i).trans (if_neg nofun)
  | some i =>
    have hsame : Call.heardBy (some i) ∘ call = fun j => if i = j then some heard else none := by
      funext j
      simp only [Function.comp_apply, hcall, Option.some_inj]
    rw [hsame, filterMap_range_ite, if_pos (hl i rfl)]
    rfl

/-! What an operation tells -/

/-- An operation that does not go back to an earlier state, and tells everybody if it closes the
connection, and nothing else. -/
structure Passes (listener : Option Nat) (h g : DoIpServerConnectionHandler) : Prop where
  rank : h.state.rank ≤ g.state.rank
  messageHandlers : g.messageHandlers = h.messageHandlers
  isOrWasRouting : g.isOrWasRouting = h.isOrWasRouting
  calls : Listens listener h → Writes (Call.heardBy listener) h.calls g.calls
    (if h.state ≠ .shutdown ∧ g.state = .shutdown then [.closed] else [])

namespace Passes

variable {listener : Option Nat} {h g k : DoIpServerConnectionHandler}

/-- An operation that does not close. -/
theorem of_writes (hr : h.state.rank ≤ g.state.rank)
    (hs : g.state = .shutdown → h.state = .shutdown)
    (hm : g.messageHandlers = h.messageHandlers) (ho : g.isOrWasRouting = h.isOrWasRouting)
    (hc : Writes (Call.heardBy listener) h.calls g.calls []) : Passes listener h g := by
  refine ⟨hr, hm, ho, fun _ => ?_⟩
  rwa [if_neg fun hd => hd.1 (hs hd.2)]

/-- An operation that leaves the state alone. -/
theorem of_state_eq (hs : g.state = h.state) (hm : g.messageHandlers = h.messageHandlers)
    (ho : g.isOrWasRouting = h.isOrWasRouting)
    (hc : Writes (Call.heardBy listener) h.calls g.calls []) : Passes listener h g :=
  of_writes (Nat.le_of_eq (congrArg State.rank hs.symm)) (fun hd => hs ▸ hd) hm ho hc

theorem refl (h : DoIpServerConnectionHandler) : Passes listener h h :=
  of_state_eq rfl rfl rfl (.refl _)

theorem shutdown (hg : Passes listener h g) (hs : h.state = .shutdown) : g.state = .shutdown := by
  have hrank := hg.rank
  rw [hs] at hrank
  cases hgs : g.state <;> rw [hgs] at hrank <;> first | rfl | exact absurd hrank (by decide)

theorem trans (hg : Passes listener h g) (hk : Passes listener g k) : Passes listener h k := by
  refine ⟨Nat.le_trans hg.rank hk.rank, hk.messageHandlers.trans hg.messageHandlers,
    hk.isOrWasRouting.trans hg.isOrWasRouting, fun hl => ?_⟩
  have hl' : Listens listener g := by
    intro i hi
    rw [hg.messageHandlers]
    exact hl i hi
  have hboth := (hg.calls hl).trans (hk.calls hl')
  -- the connection is closed in one of the two, if it is closed at all
  by_cases hs : h.state = .shutdown
  · simpa [hs, hg.shutdown hs] using hboth
  · by_cases hgs : g.state = .shutdown
    · simpa [hs, hgs, hk.shutdown hgs] using hboth
    · simpa [hs, hgs] using hboth

theorem log (h : DoIpServerConnectionHandler) {cs : List Call}
    (hcs : ∀ c ∈ cs, c.heardBy listener = none) : Passes listener h (h.log cs) :=
  of_state_eq rfl rfl rfl (.append_of_forall hcs _)

/-- Everybody hears of a closing once. -/
theorem filterMap_heardBy_closingCalls (hl : Listens listener h) :
    h.closingCalls.filterMap (Call.heardBy listener) = [.closed] := by
  have hhandlers : ((List.range h.messageHandlers).map
      Call.messageHandlerConnectionClosed).filterMap (Call.heardBy listener) =
        if listener.isSome then [.closed] else [] :=
    filterMap_heardBy_map_range _ (fun _ => rfl) hl
  have hanswer : (if h.aliveCheckPending then [Call.ownerAliveCheckResponseReceived false]
      else []).filterMap (Call.heardBy listener) = [] := by
    split <;> rfl
  rw [closingCalls, List.filterMap_append, List.filterMap_append, List.filterMap_append, hhandlers,
    hanswer]
  cases listener <;> rfl

theorem close (h : DoIpServerConnectionHandler) : Passes listener h h.close := by
  by_cases hs : h.state = .shutdown
  · rw [h.close_of_shutdown hs]
    exact refl h
  · refine ⟨?_, ?_, ?_, fun hl => ?_⟩
    · rw [h.close_state]
      exact h.state.rank_le_shutdown
    · rw [h.close_of_ne_shutdown hs]
      rfl
    · rw [h.close_of_ne_shutdown hs]
      rfl
    · rw [if_pos ⟨hs, h.close_state⟩, h.close_of_ne_shutdown hs,
        ← filterMap_heardBy_closingCalls hl]
      exact .append _ _

theorem sent (h : DoIpServerConnectionHandler) (hs : h.state ≠ .shutdown) (slot : Nat)
    (free : List Nat) (payloadType : PayloadType) (payload : List UInt8) (closeAfterSend : Bool)
    (outcome : SendOutcome) :
    Passes listener h (h.sent slot free payloadType payload closeAfterSend outcome) := by
  have hcalls : Writes (Call.heardBy listener) h.calls
      (h.sent slot free payloadType payload closeAfterSend outcome).calls [] := by
    cases outcome <;> exact .append _ _
  cases closeAfterSend with
  | false => exact of_state_eq rfl rfl rfl hcalls
  | true =>
    refine of_writes ?_ State.noConfusion rfl rfl hcalls
    show h.state.rank ≤ State.closing.rank
    cases hst : h.state <;> first | decide | exact absurd hst hs

theorem admits : Admits (Passes listener) := by
  refine .of_trans refl trans ?_ (fun _ _ => of_state_eq rfl rfl rfl (.refl _)) close
    fun hs _ => sent _ hs _ _
  intro h cs hcs
  exact log h (Call.forall_of_isExchange (P := fun c => c.heardBy listener = none) rfl
    (fun _ _ _ => rfl) rfl (fun _ _ _ => rfl) (fun _ _ _ _ => rfl) hcs)

theorem setTimer (h : DoIpServerConnectionHandler) (t : UInt32) :
    Passes listener h (h.setTimer t) := of_state_eq rfl rfl rfl (.append _ _)

theorem startAliveCheck (h : DoIpServerConnectionHandler) (outcome : SendOutcome) :
    Passes listener h (h.startAliveCheck outcome) := by
  obtain ⟨-, heq⟩ | ⟨-, -, heq⟩ | ⟨-, slot, free, -, heq⟩ := h.startAliveCheck_cases outcome
  · rw [heq]
    split
    · exact log h (List.forall_mem_singleton.mpr rfl)
    · exact refl h
  · rw [heq]
    have hup : Passes listener h (h.setAliveCheckPending true) :=
      of_state_eq rfl rfl rfl (.refl _)
    exact hup.trans (close _)
  · rw [heq]
    refine of_state_eq rfl rfl rfl ?_
    cases outcome <;> exact .append _ _

theorem prepared (U : Upstream) (h : DoIpServerConnectionHandler) (e : Event) :
    Passes listener h (e.prepared U h) := by
  cases e with
  | headerReceived header answers =>
    rw [Event.prepared, restarted]
    split
    · split
      · exact setTimer h _
      · exact refl h
    · exact refl h
  | aliveCheckResponseReceived payload =>
    rw [Event.prepared, answered]
    split
    · exact of_state_eq rfl rfl rfl (.append _ [Call.ownerAliveCheckResponseReceived _])
    · exact of_state_eq rfl rfl rfl (.refl _)
  | timerExpired => exact of_state_eq rfl rfl rfl (.refl _)
  | jobReleased job success =>
    exact of_state_eq rfl rfl rfl (.append _ [Call.poolRelease _])
  | shutdown => exact of_state_eq rfl rfl rfl (.append _ [Call.timerCancel])
  | _ => exact refl h

/-- The request is passed on to the owner. -/
theorem activating (hs : h.state = .inactive) (payload : List UInt8)
    (check : RoutingActivationCheckResult) :
    Passes listener h
      ((h.activating payload check).log [.ownerHandleRoutingActivationRequest]) := by
  have hchecked : Writes (Call.heardBy listener) h.calls (h.checked payload).calls [] :=
    .append _ _
  refine of_writes ?_ State.noConfusion rfl rfl (hchecked.trans (.append _ _))
  rw [hs]
  show State.inactive.rank ≤ State.activating.rank
  decide

variable (listener) in
/-- The owner's decision, when a successful one finds a job for its response. -/
theorem routingActivationCompleted (hs : h.state = .activating) {success : Bool}
    (hp : success = true → h.sendJobPool ≠ []) (responseCode : UInt8) (outcome : SendOutcome) :
    Passes listener h (h.routingActivationCompleted success responseCode outcome) ∨
      ∃ k, Passes listener h k ∧ k.state = .activating ∧
        h.routingActivationCompleted success responseCode outcome = k.activate := by
  rw [h.routingActivationCompleted_of_activating hs]
  cases success with
  | false => exact .inl (admits.sendAllocated h _ _ _ _)
  | true =>
    refine .inr ⟨_, admits.sendAllocated h _ _ _ _, ?_, rfl⟩
    rw [h.sendAllocated_state_of_job (by rw [hs]; decide) (hp rfl), hs]

end Passes

/-- What a step tells: that the connection is closed, if it closes it, or that routing is active. -/
theorem passes_step (listener : Option Nat) (U : Upstream) {h : DoIpServerConnectionHandler}
    {e : Event} (hj : ¬ CompletesWithoutJob h e) :
    Passes listener h (e.step U h) ∨
      (h.state = .inactive ∨ h.state = .activating) ∧ ∃ k, Passes listener h k ∧
        k.state = .activating ∧ Passes listener k.activate (e.step U h) := by
  by_cases ha : Activates h e
  · cases e with
    | routingActivationRequestReceived payload answers =>
      obtain ⟨hc, hin⟩ := ha
      let g := h.setPayloadRequests (h.payloadRequests.erase
        ⟨.routingActivationRequestReceived, payload.length⟩)
      have hg : g.state = .inactive := hin
      have hused : Passes listener h g := .of_state_eq rfl rfl rfl (.refl _)
      have hasked := hused.trans (.activating hg payload answers.check)
      have hend : ∀ m : DoIpServerConnectionHandler,
          Passes listener m (m.log [.connectionEndReceiveMessage]) :=
        fun m => .log m (List.forall_mem_singleton.mpr rfl)
      have hstep : (Event.routingActivationRequestReceived payload answers).step U h =
          ((g.activating payload answers.check).handleRoutingActivationRequest answers).log
            [.connectionEndReceiveMessage] :=
        g.routingActivationRequestReceived_of_inactive U payload hc hg
      rw [hstep, handleRoutingActivationRequest]
      cases hcompletion : answers.completion with
      | none => exact .inl (hasked.trans (hend _))
      | some decision =>
        obtain ⟨success, responseCode⟩ := decision
        have hp : success = true → h.sendJobPool ≠ [] := by
          rintro rfl hnil
          exact hj ⟨by rw [hcompletion]; rfl, hc, hin, hnil⟩
        obtain hk | ⟨k, hk, hact, heq⟩ := Passes.routingActivationCompleted listener
          (h := (g.activating payload answers.check).log [.ownerHandleRoutingActivationRequest])
          rfl hp responseCode answers.send
        · exact .inl ((hasked.trans hk).trans (hend _))
        · refine .inr ⟨.inl hin, k, hasked.trans hk, hact, ?_⟩
          rw [← heq]
          exact hend _
    | routingActivationCompleted success responseCode send =>
      have hp : success = true → h.sendJobPool ≠ [] := fun hs hnil => hj ⟨hs, ha, hnil⟩
      obtain hk | ⟨k, hk, hact, heq⟩ :=
        Passes.routingActivationCompleted listener ha hp responseCode send
      · exact .inl hk
      · refine .inr ⟨.inr ha, k, hk, hact, ?_⟩
        rw [← heq]
        exact .refl _
    | _ => exact ha.elim
  · by_cases hs : ∃ send, e = .startAliveCheck send
    · obtain ⟨send, rfl⟩ := hs
      exact .inl (.startAliveCheck h send)
    · exact .inl ((Passes.prepared U h e).trans (Passes.admits.step ha hs))

/-! Runs -/

/-- The handler in which no activation is completed without a job for its response. -/
def withJobs (U : Upstream) : System DoIpServerConnectionHandler Event :=
  (connection U).restrict fun h e => ¬ CompletesWithoutJob h e

instance (U : Upstream) (h : DoIpServerConnectionHandler) (e : Event) :
    Decidable ((withJobs U).enabled h e) :=
  inferInstanceAs (Decidable (_ ∧ _))

/-- From any state on, a connection goes through its states in their order: nothing that happens to
it leads back to an earlier one. -/
theorem phases_of_run (U : Upstream) {h t : DoIpServerConnectionHandler} {es : List Event}
    (hr : (withJobs U).Run h es t) : h.state.rank ≤ t.state.rank := by
  induction hr with
  | nil h => exact Nat.le_refl _
  | @cons h t e es he _ ih =>
    refine Nat.le_trans ?_ ih
    show h.state.rank ≤ (e.step U h).state.rank
    obtain hg | ⟨hs, k, -, -, hg⟩ := passes_step none U he.2
    · exact hg.rank
    · refine Nat.le_trans ?_ hg.rank
      show _ ≤ State.active.rank
      rcases hs with hs | hs <;> rw [hs] <;> decide

/-- All that a listener has heard: that the connection is opened, that routing is active, and that
the connection is closed, as far as it has come to that. -/
def Told (listener : Option Nat) (h : DoIpServerConnectionHandler) : Prop :=
  h.calls.filterMap (Call.heardBy listener) =
    (if listener.isSome then [.opened] else []) ++
      (if h.isOrWasRouting then [.routingActive] else []) ++
        if h.state = .shutdown then [.closed] else []

/-- Everybody hears of an active routing once. -/
theorem writes_heardBy_sendRoutingActive {listener : Option Nat} {h : DoIpServerConnectionHandler}
    (hl : Listens listener h) :
    Writes (Call.heardBy listener) h.calls h.sendRoutingActive.calls [.routingActive] := by
  have htold : Writes (Call.heardBy listener) h.calls
      (h.calls ++ (List.range h.messageHandlers).map .messageHandlerRoutingActive)
      (if listener.isSome then [.routingActive] else []) := by
    rw [← filterMap_heardBy_map_range .messageHandlerRoutingActive (fun _ => rfl) hl]
    exact .append _ _
  have hall := htold.trans (.append _ [Call.ownerRoutingActive])
  cases listener with
  | none => exact hall
  | some i => exact hall

theorem writes_heardBy_opened {listener : Option Nat} {h : DoIpServerConnectionHandler}
    (hl : Listens listener h) :
    Writes (Call.heardBy listener) h.calls
      (({ h with hasCallback := true }.log [.connectionInit]).sendConnectionOpened).calls
      (if listener.isSome then [.opened] else []) := by
  have hinit : Writes (Call.heardBy listener) h.calls (h.calls ++ [.connectionInit]) [] :=
    .append _ _
  rw [← filterMap_heardBy_map_range .messageHandlerConnectionOpened (fun _ => rfl) hl]
  exact hinit.trans (.append _ _)

/-- No listener is added or removed. -/
theorem Listens.step {listener : Option Nat} {h : DoIpServerConnectionHandler}
    (hl : Listens listener h) (U : Upstream) {e : Event} (hj : ¬ CompletesWithoutJob h e) :
    Listens listener (e.step U h) := by
  have hsame : (e.step U h).messageHandlers = h.messageHandlers := by
    obtain hg | ⟨-, k, hk, -, hg⟩ := passes_step listener U hj
    · exact hg.messageHandlers
    · exact hg.messageHandlers.trans hk.messageHandlers
  intro i hi
  rw [hsame]
  exact hl i hi

namespace Told

variable {listener : Option Nat} {h g : DoIpServerConnectionHandler}

theorem passes (ht : Told listener h) (hl : Listens listener h) (hg : Passes listener h g) :
    Told listener g := by
  rw [Told, (hg.calls hl).filterMap_eq, ht, hg.isOrWasRouting]
  by_cases hs : h.state = .shutdown
  · simp [hs, hg.shutdown hs]
  · by_cases hgs : g.state = .shutdown
    · simp [hs, hgs]
    · simp [hs, hgs]

theorem activate (ht : Told listener h) (hl : Listens listener h) (hs : h.state = .activating)
    (ho : h.isOrWasRouting = false) : Told listener h.activate := by
  have htimer : Writes (Call.heardBy listener) h.calls
      (h.setTimer h.parameters.generalInactivityTimeout).calls [] := .append _ _
  have hcalls : Writes (Call.heardBy listener) h.calls h.activate.calls [.routingActive] :=
    htimer.trans (writes_heardBy_sendRoutingActive (h := ({ h.setState .active with
      isOrWasRouting := true } : DoIpServerConnectionHandler).setTimer
        h.parameters.generalInactivityTimeout) hl)
  have hdown : h.activate.state ≠ .shutdown := State.noConfusion
  have hon : h.activate.isOrWasRouting = true := rfl
  rw [Told, hcalls.filterMap_eq, ht, ho, hon, hs, if_neg hdown]
  simp

theorem step (ht : Told listener h) (hl : Listens listener h) (hi : Announced h) {U : Upstream}
    {e : Event} (hj : ¬ CompletesWithoutJob h e) : Told listener (e.step U h) := by
  obtain hg | ⟨hs, k, hk, hact, hg⟩ := passes_step listener U hj
  · exact ht.passes hl hg
  · have hlk : Listens listener k := by
      intro i hm
      rw [hk.messageHandlers]
      exact hl i hm
    have hoff : k.isOrWasRouting = false := hk.isOrWasRouting.trans (hi.undecided hs)
    exact ((ht.passes hl hk).activate hlk hact hoff).passes hlk hg

end Told

theorem told_of_started {U : Upstream} {h : DoIpServerConnectionHandler} (hs : Started U h)
    {listener : Option Nat} (hl : Listens listener h) : Told listener h := by
  obtain ⟨c, check, rfl | ⟨sourceAddress, rfl⟩⟩ := hs
  · have hcalls : Writes (Call.heardBy listener) [] ((construct U c).start check).calls _ :=
      (writes_heardBy_opened (h := construct U c) hl).trans (.append _ [Call.timerCancel, _])
    refine hcalls.filterMap_eq.trans ?_
    cases listener <;> rfl
  · let g := ((construct U c).resume sourceAddress).2
    let k := (((({ g with hasCallback := true }.log [.connectionInit]).sendConnectionOpened.log
      [.ownerCheckRoutingActivation sourceAddress 0 (some 0) true]).setSourceAddress sourceAddress
        (check.resolveInternalSourceAddress sourceAddress)).setTimer
          c.parameters.generalInactivityTimeout)
    have hasked : Writes (Call.heardBy listener) g.calls k.calls _ :=
      ((writes_heardBy_opened (h := g) hl).trans
        (.append _ [Call.ownerCheckRoutingActivation _ _ _ _])).trans
          (.append _ [Call.timerCancel, _])
    have hcalls : Writes (Call.heardBy listener) [] (g.start check).calls _ :=
      hasked.trans (writes_heardBy_sendRoutingActive (h := k) hl)
    refine hcalls.filterMap_eq.trans ?_
    cases listener <;> rfl

/-- In every run without that step, each message handler has heard that the connection is opened,
that routing is active and that the connection is closed, and the owner of the last two, once each
and in this order, as far as the connection has come to it. -/
theorem told_of_run (U : Upstream) {h₀ h : DoIpServerConnectionHandler} {es : List Event}
    (hs : Started U h₀) (hr : (withJobs U).Run h₀ es h) {listener : Option Nat}
    (hl : Listens listener h₀) : Told listener h := by
  have hall : Listens listener h ∧ Announced h ∧ Told listener h := by
    refine hr.preserves (I := fun g => Listens listener g ∧ Announced g ∧ Told listener g) ?_
      ⟨hl, announced_of_started hs, told_of_started hs hl⟩
    rintro g e ⟨hl, hi, ht⟩ he
    exact ⟨hl.step U he.2, hi.step U e, ht.step hl hi he.2⟩
  exact hall.2.2

/-- The message handler and the owner hear that the first of two testers is let in, and that the
connection is closed for the second. -/
theorem told_twoTesters :
    Told (some 0) (twoTesters.foldl (withJobs .iso13400).step (startedWith 3)) ∧
      Told none (twoTesters.foldl (withJobs .iso13400).step (startedWith 3)) := by
  have hr : (withJobs .iso13400).Run (startedWith 3) twoTesters _ := .of_enabledAll (by decide)
  refine ⟨told_of_run .iso13400 (started_startedWith 3) hr ?_,
    told_of_run .iso13400 (started_startedWith 3) hr nofun⟩
  rintro i ⟨⟩
  decide

theorem phases_twoTesters :
    (startedWith 3).state.rank ≤
      (twoTesters.foldl (withJobs .iso13400).step (startedWith 3)).state.rank :=
  phases_of_run .iso13400 (.of_enabledAll (by decide))

end SovdDemo.Doip

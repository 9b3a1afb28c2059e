import SovdDemo.Doip.Operations
import SovdDemo.Foundations.CallLog

/-!
# Every alive check is answered once

`startAliveCheck` raises the pending flag, and from then on the owner waits. The answer comes with
the next alive-check response, or from `close` when the handler reaches SHUTDOWN first. Since
`close` can run inside almost every operation, the steps are sorted by what the owner hears of them:
`Unheard` leaves the flag and the owner alone, `Closes` runs `close` once.

## Main definitions

- `Call.notice` — what the owner is told of the connection and of alive checks
- `Accounted` — the owner's account of a run, waiting for an answer or not
- `Tracked` — the invariant that ties the pending flag to the state
- `Event.StepAccount` — the place of one step in the account

## Main results

- `proceeds_step` — every step but those of an activation and of an alive check is one of the two
- `accounted_of_run` — every run from a started handler gives the owner's account
-/

namespace SovdDemo.Doip

open Foundations DoIpServerConnectionHandler

/-- What the owner is told about closing and alive checks. -/
inductive Notice
  | connectionClosed
  | aliveCheckResponseReceived (isAlive : Bool)
  deriving DecidableEq, Repr

def Notice.answer : Notice → Option Bool
  | .connectionClosed => none
  | .aliveCheckResponseReceived isAlive => some isAlive

def Call.notice : Call → Option Notice
  | .ownerConnectionClosed => some .connectionClosed
  | .ownerAliveCheckResponseReceived isAlive => some (.aliveCheckResponseReceived isAlive)
  | _ => none

def Call.answer (c : Call) : Option Bool := c.notice.bind Notice.answer

namespace Event

/-- What the owner is told in the step of an event. -/
def notices (U : Upstream) (h : DoIpServerConnectionHandler) (e : Event) : List Notice :=
  (e.callsMade U h).filterMap Call.notice

/-- The answers to alive checks among it. -/
def answers (U : Upstream) (h : DoIpServerConnectionHandler) (e : Event) : List Bool :=
  (e.callsMade U h).filterMap Call.answer

/-- A `startAliveCheck` that raises the pending flag. -/
def Raises (h : DoIpServerConnectionHandler) (e : Event) : Prop :=
  (∃ send, e = .startAliveCheck send) ∧ h.state = .active ∧ h.aliveCheckPending = false

/-- The answer that a `startAliveCheck` gets at once, when the state is not ACTIVE. -/
def immediateAnswers (h : DoIpServerConnectionHandler) : Event → List Bool
  | .startAliveCheck _ => if h.state = .active then [] else [false]
  | _ => []

/-- The step answers the alive check the owner waits for: an alive-check response tells whether its
address is the bound one, and SHUTDOWN answers `false` after the owner's `connectionClosed`. -/
def AnswersCheck (U : Upstream) (h : DoIpServerConnectionHandler) (e : Event) : Prop :=
  (∃ payload, e = .aliveCheckResponseReceived payload ∧
    e.answers U h = [takeBeUInt16 payload 0 == h.sourceAddress]) ∨
  (¬ (∃ payload, e = .aliveCheckResponseReceived payload) ∧ (e.step U h).state = .shutdown ∧
    e.notices U h = [.connectionClosed, .aliveCheckResponseReceived false])

/-- The step brings no alive-check response and does not reach SHUTDOWN, and all it answers is the
call it consists of. -/
def PostponesCheck (U : Upstream) (h : DoIpServerConnectionHandler) (e : Event) : Prop :=
  ¬ (∃ payload, e = .aliveCheckResponseReceived payload) ∧ (e.step U h).state ≠ .shutdown ∧
    e.answers U h = e.immediateAnswers h

end Event

/-- The owner's account of the events `es` from `h`, `waiting` for the answer to an alive check or
not. Nobody is answered out of turn: while the owner does not wait, and no check is raised, it only
gets the immediate answers; a check that is raised is postponed step by step until one step answers
it. -/
inductive Accounted (U : Upstream) : Bool → DoIpServerConnectionHandler → List Event → Prop
  | nil (waiting : Bool) (h : DoIpServerConnectionHandler) : Accounted U waiting h []
  | idle {h : DoIpServerConnectionHandler} {e : Event} {es : List Event} (hr : ¬ e.Raises h)
      (ha : e.answers U h = e.immediateAnswers h) (hes : Accounted U false (e.step U h) es) :
      Accounted U false h (e :: es)
  | answered {waiting : Bool} {h : DoIpServerConnectionHandler} {e : Event} {es : List Event}
      (hw : waiting = true ∨ e.Raises h) (ha : e.AnswersCheck U h)
      (hes : Accounted U false (e.step U h) es) : Accounted U waiting h (e :: es)
  | postponed {waiting : Bool} {h : DoIpServerConnectionHandler} {e : Event} {es : List Event}
      (hw : waiting = true ∨ e.Raises h) (ha : e.PostponesCheck U h)
      (hes : Accounted U true (e.step U h) es) : Accounted U waiting h (e :: es)

/-! What the owner hears of an operation -/

/-- An operation the owner hears nothing of, and that at most begins to close. -/
structure Unheard (h g : DoIpServerConnectionHandler) : Prop where
  calls : Writes Call.notice h.calls g.calls []
  aliveCheckPending : g.aliveCheckPending = h.aliveCheckPending
  hasCallback : g.hasCallback = h.hasCallback
  connectionIsClosed : g.connectionIsClosed = h.connectionIsClosed
  state : g.state = h.state ∨ h.state ≠ .shutdown ∧ g.state = .closing

/-- An operation that runs `close` once, and otherwise does nothing the owner hears of. -/
def Closes (h g : DoIpServerConnectionHandler) : Prop :=
  h.state ≠ .shutdown ∧ ∃ k, Unheard h k ∧ Unheard k.close g

def Proceeds (h g : DoIpServerConnectionHandler) : Prop := Unheard h g ∨ Closes h g

namespace Unheard

variable {h g k : DoIpServerConnectionHandler}

theorem refl (h : DoIpServerConnectionHandler) : Unheard h h :=
  ⟨.refl _, rfl, rfl, rfl, .inl rfl⟩

theorem trans (hg : Unheard h g) (hk : Unheard g k) : Unheard h k := by
  refine ⟨hg.calls.trans hk.calls, ?_, ?_, ?_, ?_⟩
  · exact hk.aliveCheckPending.trans hg.aliveCheckPending
  · exact hk.hasCallback.trans hg.hasCallback
  · exact hk.connectionIsClosed.trans hg.connectionIsClosed
  · rcases hg.state with hs | ⟨hs, hc⟩
    · rw [← hs]
      exact hk.state
    · right
      refine ⟨hs, ?_⟩
      rcases hk.state with hs' | ⟨-, hs'⟩
      · rw [hs', hc]
      · exact hs'

theorem ne_shutdown (hg : Unheard h g) (hs : h.state ≠ .shutdown) : g.state ≠ .shutdown := by
  rcases hg.state with hs' | ⟨-, hs'⟩
  · rwa [hs']
  · rw [hs']
    decide

theorem shutdown (hg : Unheard h g) (hs : h.state = .shutdown) : g.state = .shutdown := by
  rcases hg.state with hs' | ⟨hne, -⟩
  · rw [hs', hs]
  · exact absurd hs hne

/-- Operations that leave the log and the four fields alone. -/
theorem of_eq (hc : g.calls = h.calls) (hp : g.aliveCheckPending = h.aliveCheckPending)
    (hb : g.hasCallback = h.hasCallback) (hx : g.connectionIsClosed = h.connectionIsClosed)
    (hs : g.state = h.state) : Unheard h g :=
  ⟨hc ▸ .refl _, hp, hb, hx, .inl hs⟩

theorem log (h : DoIpServerConnectionHandler) {cs : List Call}
    (hcs : cs.filterMap Call.notice = []) : Unheard h (h.log cs) :=
  ⟨⟨cs, rfl, hcs⟩, rfl, rfl, rfl, .inl rfl⟩

theorem setTimer (h : DoIpServerConnectionHandler) (t : UInt32) : Unheard h (h.setTimer t) :=
  ⟨⟨_, rfl, rfl⟩, rfl, rfl, rfl, .inl rfl⟩

theorem restarted (h : DoIpServerConnectionHandler) (U : Upstream) :
    Unheard h (h.restarted U) := by
  rw [DoIpServerConnectionHandler.restarted]
  split
  · exact setTimer h _
  · exact refl h

theorem sent (hs : h.state ≠ .shutdown) (slot : Nat) (free : List Nat) (payloadType : PayloadType)
    (payload : List UInt8) (closeAfterSend : Bool) (outcome : SendOutcome) :
    Unheard h (h.sent slot free payloadType payload closeAfterSend outcome) := by
  refine ⟨?_, rfl, rfl, rfl, ?_⟩
  · cases outcome <;> exact .append _ _
  · cases closeAfterSend with
    | false => exact .inl rfl
    | true => exact .inr ⟨hs, rfl⟩

/-- An alive check that is sent, seen from the handler that has raised the flag. -/
theorem checking (h : DoIpServerConnectionHandler) (slot : Nat) (free : List Nat)
    (outcome : SendOutcome) :
    Unheard (h.setAliveCheckPending true) (h.checking slot free outcome) := by
  refine ⟨?_, rfl, rfl, rfl, .inl rfl⟩
  cases outcome <;> exact .append _ _

end Unheard

namespace Proceeds

variable {h g k : DoIpServerConnectionHandler}

theorem after (hg : Unheard h g) (hk : Proceeds g k) : Proceeds h k := by
  rcases hk with hk | ⟨hs, l, hl, hk⟩
  · exact .inl (hg.trans hk)
  · refine .inr ⟨fun hs' => hs (hg.shutdown hs'), l, hg.trans hl, hk⟩

theorem before (hg : Proceeds h g) (hk : Unheard g k) : Proceeds h k := by
  rcases hg with hg | ⟨hs, l, hl, hg⟩
  · exact .inl (hg.trans hk)
  · exact .inr ⟨hs, l, hl, hg.trans hk⟩

theorem close (h : DoIpServerConnectionHandler) : Proceeds h h.close := by
  by_cases hs : h.state = .shutdown
  · rw [h.close_of_shutdown hs]
    exact .inl (.refl h)
  · exact .inr ⟨hs, h, .refl h, .refl _⟩

/-- A second `close` does nothing. -/
theorem closed (hg : Proceeds h g) : Proceeds h g.close := by
  rcases hg with hg | ⟨hs, l, hl, hg⟩
  · exact after hg (close g)
  · rw [g.close_of_shutdown (hg.shutdown l.close_state)]
    exact .inr ⟨hs, l, hl, hg⟩

theorem sendAllocated (h : DoIpServerConnectionHandler) (payloadType : PayloadType)
    (payload : List UInt8) (closeAfterSend : Bool) (outcome : SendOutcome) :
    Proceeds h (h.sendAllocated payloadType payload closeAfterSend outcome) :=
  h.sendAllocated_of_sent (P := Proceeds h) (.inl (.refl h)) closed
    fun slot free hs _ => .inl (.sent hs slot free _ _ _ _)

/-- An alive check in ACTIVE, seen from the handler that has raised the flag. -/
theorem startAliveCheck (hs : h.state = .active) (outcome : SendOutcome) :
    Proceeds (h.setAliveCheckPending true) (h.startAliveCheck outcome) := by
  obtain ⟨hne, -⟩ | ⟨-, -, heq⟩ | ⟨-, slot, free, -, heq⟩ := h.startAliveCheck_cases outcome
  · exact absurd hs hne
  · rw [heq]
    exact close _
  · rw [heq]
    exact .inl (.checking h slot free outcome)

/-- The owner hears nothing of an exchange of calls about a message. -/
theorem filterMap_notice_of_isExchange {cs : List Call} (hcs : ∀ c ∈ cs, c.isExchange = true) :
    cs.filterMap Call.notice = [] :=
  List.filterMap_eq_nil_iff.mpr (Call.forall_of_isExchange (P := fun c => c.notice = none) rfl
    (fun _ _ _ => rfl) rfl (fun _ _ _ => rfl) (fun _ _ _ _ => rfl) hcs)

theorem admits : Admits Proceeds where
  refl h := .inl (.refl h)
  after_log hcs hg := after (.log _ (filterMap_notice_of_isExchange hcs)) hg
  before_log hcs hg := before hg (.log _ (filterMap_notice_of_isExchange hcs))
  after_payloadRequests {h g requests} hg := by
    have hr : Unheard h (h.setPayloadRequests requests) := .of_eq rfl rfl rfl rfl rfl
    exact after hr hg
  close := close
  sendAllocated := sendAllocated

end Proceeds

/-! What a closing tells the owner -/

/-- A call to every message handler is not one to the owner. -/
theorem Call.filterMap_notice_map {call : Nat → Call} (hn : ∀ i, (call i).notice = none)
    (is : List Nat) : (is.map call).filterMap Call.notice = [] := by
  apply List.filterMap_eq_nil_iff.mpr
  intro c hc
  obtain ⟨i, -, rfl⟩ := List.mem_map.mp hc
  exact hn i

theorem DoIpServerConnectionHandler.filterMap_notice_closingCalls
    (h : DoIpServerConnectionHandler) : h.closingCalls.filterMap Call.notice =
      .connectionClosed ::
        if h.aliveCheckPending then [.aliveCheckResponseReceived false] else [] := by
  rw [closingCalls, List.filterMap_append, List.filterMap_append, List.filterMap_append,
    Call.filterMap_notice_map fun _ => rfl]
  cases h.aliveCheckPending <;> rfl

namespace Closes

variable {h g : DoIpServerConnectionHandler}

theorem calls (hg : Closes h g) : Writes Call.notice h.calls g.calls (.connectionClosed ::
    if h.aliveCheckPending then [.aliveCheckResponseReceived false] else []) := by
  obtain ⟨hs, k, hk, hg⟩ := hg
  have hclose :
      Writes Call.notice k.calls k.close.calls (k.closingCalls.filterMap Call.notice) := by
    rw [k.close_of_ne_shutdown (hk.ne_shutdown hs)]
    exact .append _ _
  rw [k.filterMap_notice_closingCalls, hk.aliveCheckPending] at hclose
  have hall := (hk.calls.trans hclose).trans hg.calls
  rwa [List.nil_append, List.append_nil] at hall

theorem state (hg : Closes h g) : g.state = .shutdown := by
  obtain ⟨-, k, -, hg⟩ := hg
  exact hg.shutdown k.close_state

theorem connectionIsClosed (hg : Closes h g) : g.connectionIsClosed = true := by
  obtain ⟨hs, k, hk, hg⟩ := hg
  rw [hg.connectionIsClosed, k.close_of_ne_shutdown (hk.ne_shutdown hs)]
  rfl

theorem aliveCheckPending (hg : Closes h g) : g.aliveCheckPending = h.aliveCheckPending := by
  obtain ⟨hs, k, hk, hg⟩ := hg
  rw [hg.aliveCheckPending, k.close_of_ne_shutdown (hk.ne_shutdown hs)]
  exact hk.aliveCheckPending

theorem hasCallback (hg : Closes h g) : g.hasCallback = h.hasCallback := by
  obtain ⟨hs, k, hk, hg⟩ := hg
  rw [hg.hasCallback, k.close_of_ne_shutdown (hk.ne_shutdown hs)]
  exact hk.hasCallback

end Closes

/-! The pending flag -/

/-- The owner can be called, no alive check is pending before routing was active, and SHUTDOWN is
entered by closing the connection. -/
structure Tracked (h : DoIpServerConnectionHandler) : Prop where
  hasCallback : h.hasCallback = true
  pending : h.aliveCheckPending = true → h.state ≠ .inactive ∧ h.state ≠ .activating
  closed : h.state = .shutdown → h.connectionIsClosed = true

/-- An alive check that has not been answered. -/
def Outstanding (h : DoIpServerConnectionHandler) : Prop :=
  h.aliveCheckPending = true ∧ h.state ≠ .shutdown

theorem not_outstanding_of_not_pending {h : DoIpServerConnectionHandler}
    (hp : h.aliveCheckPending = false) : ¬ Outstanding h := fun ho =>
  Bool.false_ne_true (hp.symm.trans ho.1)

theorem Proceeds.tracked {h g : DoIpServerConnectionHandler} (hi : Tracked h)
    (hg : Proceeds h g) : Tracked g := by
  rcases hg with hg | hg
  · refine ⟨hg.hasCallback.trans hi.hasCallback, ?_, ?_⟩
    · intro hp
      rw [hg.aliveCheckPending] at hp
      rcases hg.state with hs | ⟨-, hs⟩
      · rw [hs]
        exact hi.pending hp
      · rw [hs]
        decide
    · intro hs
      rw [hg.connectionIsClosed]
      apply hi.closed
      by_contra hne
      exact hg.ne_shutdown hne hs
  · refine ⟨hg.hasCallback.trans hi.hasCallback, ?_, ?_⟩
    · intro _
      rw [hg.state]
      decide
    · intro _
      exact hg.connectionIsClosed

/-- An operation without a pending alive check, which answers none. -/
structure Unanswered (h g : DoIpServerConnectionHandler) : Prop where
  calls : Writes Call.answer h.calls g.calls []
  aliveCheckPending : g.aliveCheckPending = h.aliveCheckPending
  hasCallback : g.hasCallback = h.hasCallback
  closed : (h.state = .shutdown → h.connectionIsClosed = true) → g.state = .shutdown →
    g.connectionIsClosed = true

namespace Unanswered

variable {h g k : DoIpServerConnectionHandler}

theorem refl (h : DoIpServerConnectionHandler) : Unanswered h h := ⟨.refl _, rfl, rfl, id⟩

theorem trans (hg : Unanswered h g) (hk : Unanswered g k) : Unanswered h k := by
  refine ⟨hg.calls.trans hk.calls, ?_, ?_, ?_⟩
  · exact hk.aliveCheckPending.trans hg.aliveCheckPending
  · exact hk.hasCallback.trans hg.hasCallback
  · intro hi
    exact hk.closed (hg.closed hi)

theorem activate (h : DoIpServerConnectionHandler) : Unanswered h h.activate :=
  ⟨h.writes_activate rfl (fun _ => rfl) (fun _ => rfl) rfl, rfl, rfl,
    fun _ hs => State.noConfusion hs⟩

end Unanswered

theorem Unheard.unanswered {h g : DoIpServerConnectionHandler} (hg : Unheard h g) :
    Unanswered h g := by
  refine ⟨hg.calls.bind Notice.answer, hg.aliveCheckPending, hg.hasCallback, ?_⟩
  intro hi hs
  rw [hg.connectionIsClosed]
  apply hi
  by_contra hne
  exact hg.ne_shutdown hne hs

theorem Proceeds.unanswered {h g : DoIpServerConnectionHandler}
    (hp : h.aliveCheckPending = false) (hg : Proceeds h g) : Unanswered h g := by
  rcases hg with hg | hg
  · exact hg.unanswered
  · have hcalls := hg.calls.bind Notice.answer
    rw [hp] at hcalls
    exact ⟨hcalls, hg.aliveCheckPending, hg.hasCallback, fun _ _ => hg.connectionIsClosed⟩

namespace Unanswered

variable {h g : DoIpServerConnectionHandler}

theorem routingActivationCompleted (hp : h.aliveCheckPending = false) (success : Bool)
    (responseCode : UInt8) (outcome : SendOutcome) :
    Unanswered h (h.routingActivationCompleted success responseCode outcome) := by
  by_cases hs : h.state = .activating
  · rw [h.routingActivationCompleted_of_activating hs]
    split
    · exact trans ((Proceeds.sendAllocated h _ _ _ _).unanswered hp) (activate _)
    · exact (Proceeds.sendAllocated h _ _ _ _).unanswered hp
  · rw [h.routingActivationCompleted_of_ne_activating hs]
    exact refl h

theorem handleRoutingActivationRequest (hp : h.aliveCheckPending = false)
    (answers : ActivationAnswers) : Unanswered h (h.handleRoutingActivationRequest answers) := by
  have hl : Unheard h (h.log [.ownerHandleRoutingActivationRequest]) := .log h rfl
  have hp' : (h.log [.ownerHandleRoutingActivationRequest]).aliveCheckPending = false := hp
  rw [DoIpServerConnectionHandler.handleRoutingActivationRequest]
  split
  · exact hl.unanswered.trans (routingActivationCompleted hp' _ _ _)
  · exact hl.unanswered

theorem routingActivationRequestReceived (hp : h.aliveCheckPending = false) (U : Upstream)
    (payload : List UInt8) (answers : ActivationAnswers) :
    Unanswered h (h.routingActivationRequestReceived U payload answers) := by
  by_cases hn : answers.check.action = .continue ∧ h.state = .inactive
  · rw [h.routingActivationRequestReceived_of_inactive U payload hn.1 hn.2]
    have ha : Unanswered h (h.activating payload answers.check) :=
      ⟨.append _ _, rfl, rfl, fun _ hs => State.noConfusion hs⟩
    have hp' : (h.activating payload answers.check).aliveCheckPending = false := hp
    have hend := Unheard.log ((h.activating payload answers.check).handleRoutingActivationRequest
      answers) (show [Call.connectionEndReceiveMessage].filterMap Call.notice = [] from rfl)
    exact (ha.trans (handleRoutingActivationRequest hp' answers)).trans hend.unanswered
  · refine (Proceeds.admits.routingActivationRequestReceived h U payload ?_).unanswered hp
    intro ha hs
    exact hn ⟨ha, hs⟩

theorem tracked (hi : Tracked h) (hp : h.aliveCheckPending = false) (hg : Unanswered h g) :
    Tracked g := by
  refine ⟨hg.hasCallback.trans hi.hasCallback, ?_, hg.closed hi.closed⟩
  intro hp'
  rw [hg.aliveCheckPending, hp] at hp'
  cases hp'

end Unanswered

/-! The steps of a run -/

/-- Every step but those of an activation and of an alive check is unheard or closes. -/
theorem proceeds_step (U : Upstream) {h : DoIpServerConnectionHandler} {e : Event}
    (ha : ¬ Activates h e) (hs : ¬ ∃ send, e = .startAliveCheck send)
    (hr : ¬ ∃ payload, e = .aliveCheckResponseReceived payload) : Proceeds h (e.step U h) := by
  refine .after ?_ (Proceeds.admits.step ha hs)
  cases e with
  | headerReceived header answers =>
    rw [Event.prepared]
    split
    · exact .restarted h U
    · exact .refl h
  | aliveCheckResponseReceived payload => exact absurd ⟨payload, rfl⟩ hr
  | timerExpired => exact .of_eq rfl rfl rfl rfl rfl
  | jobReleased job success => exact ⟨⟨[.poolRelease job.slot], rfl, rfl⟩, rfl, rfl, rfl, .inl rfl⟩
  | shutdown => exact ⟨⟨[.timerCancel], rfl, rfl⟩, rfl, rfl, rfl, .inl rfl⟩
  | _ => exact .refl h

/-- Without a pending alive check no step answers one, but for the immediate answers. -/
theorem unanswered_step (U : Upstream) {h : DoIpServerConnectionHandler} {e : Event}
    (hp : h.aliveCheckPending = false) (hs : ¬ ∃ send, e = .startAliveCheck send) :
    Unanswered h (e.step U h) := by
  by_cases hr : ∃ payload, e = .aliveCheckResponseReceived payload
  · obtain ⟨payload, rfl⟩ := hr
    have hreq : Unheard h (h.setPayloadRequests (h.payloadRequests.erase
        ⟨.aliveCheckResponseReceived, payload.length⟩)) := .of_eq rfl rfl rfl rfl rfl
    have hg := Proceeds.admits.aliveCheckResponseReceived (h.setPayloadRequests
      (h.payloadRequests.erase ⟨.aliveCheckResponseReceived, payload.length⟩)) payload
    rw [answered, setPayloadRequests_aliveCheckPending, hp, if_neg Bool.false_ne_true] at hg
    exact (Proceeds.after hreq hg).unanswered hp
  · by_cases ha : Activates h e
    · cases e with
      | routingActivationRequestReceived payload answers =>
        have hreq : Unheard h (h.setPayloadRequests (h.payloadRequests.erase
          ⟨.routingActivationRequestReceived, payload.length⟩)) := .of_eq rfl rfl rfl rfl rfl
        have hp' : (h.setPayloadRequests (h.payloadRequests.erase
          ⟨.routingActivationRequestReceived, payload.length⟩)).aliveCheckPending = false := hp
        exact hreq.unanswered.trans (.routingActivationRequestReceived hp' U payload answers)
      | routingActivationCompleted success responseCode send =>
        exact .routingActivationCompleted hp success responseCode send
      | _ => exact ha.elim
    · exact (proceeds_step U ha hs hr).unanswered hp

namespace Event

variable {U : Upstream} {h : DoIpServerConnectionHandler} {e : Event}

theorem notices_eq {ns : List Notice} (hw : Writes Call.notice h.calls (e.step U h).calls ns) :
    e.notices U h = ns := hw.filterMap_drop

theorem answers_eq {bs : List Bool} (hw : Writes Call.answer h.calls (e.step U h).calls bs) :
    e.answers U h = bs := hw.filterMap_drop

/-- What one step is to an owner that waits exactly while a check is outstanding. -/
inductive StepAccount (U : Upstream) (h : DoIpServerConnectionHandler) (e : Event) : Prop
  | idle (ho : ¬ Outstanding h) (hr : ¬ e.Raises h) (ha : e.answers U h = e.immediateAnswers h)
      (ho' : ¬ Outstanding (e.step U h))
  | answered (hw : Outstanding h ∨ e.Raises h) (ha : e.AnswersCheck U h)
      (ho' : ¬ Outstanding (e.step U h))
  | postponed (hw : Outstanding h ∨ e.Raises h) (ha : e.PostponesCheck U h)
      (ho' : Outstanding (e.step U h))

/-- A step that leaves an alive check unanswered, or closes while one is pending. `k` is the handler
with the flag up. -/
theorem stepAccount_of_proceeds {k : DoIpServerConnectionHandler}
    (hc : k.calls = h.calls) (hk : Outstanding k) (hg : Proceeds k (e.step U h))
    (hr : ¬ ∃ payload, e = .aliveCheckResponseReceived payload)
    (himm : e.immediateAnswers h = []) (hw : Outstanding h ∨ e.Raises h) : StepAccount U h e := by
  obtain ⟨hp, hs⟩ := hk
  rcases hg with hg | hg
  · have hs' := hg.ne_shutdown hs
    refine .postponed hw ⟨hr, hs', ?_⟩ ⟨hg.aliveCheckPending.trans hp, hs'⟩
    rw [himm]
    exact answers_eq (hc ▸ hg.unanswered.calls)
  · refine .answered hw (.inr ⟨hr, hg.state, ?_⟩) fun ho => ho.2 hg.state
    have hcalls := hg.calls
    rw [if_pos hp, hc] at hcalls
    exact notices_eq hcalls

/-- The response to the alive check the owner waits for. -/
theorem answersCheck_aliveCheckResponseReceived (hi : Tracked h) (hp : h.aliveCheckPending = true)
    (payload : List UInt8) :
    (Event.aliveCheckResponseReceived payload).AnswersCheck U h ∧
      ((Event.aliveCheckResponseReceived payload).step U h).aliveCheckPending = false ∧
      Tracked ((Event.aliveCheckResponseReceived payload).step U h) := by
  -- the owner is told before the message is ended or the connection closed
  have hk := Proceeds.admits.aliveCheckResponseReceived (h.setPayloadRequests
    (h.payloadRequests.erase ⟨.aliveCheckResponseReceived, payload.length⟩)) payload
  rw [answered, setPayloadRequests_aliveCheckPending, hp, if_pos rfl] at hk
  have hunanswered := hk.unanswered rfl
  refine ⟨.inl ⟨payload, rfl, ?_⟩, hunanswered.aliveCheckPending, hk.tracked ?_⟩
  · have htold : Writes Call.answer h.calls (h.calls ++ [.ownerAliveCheckResponseReceived
        (takeBeUInt16 payload 0 == h.sourceAddress)]) [takeBeUInt16 payload 0 == h.sourceAddress] :=
      .append _ _
    exact answers_eq (htold.trans hunanswered.calls)
  · exact ⟨hi.hasCallback, fun hf => Bool.noConfusion hf, hi.closed⟩

/-- A `startAliveCheck` in another state than ACTIVE is answered, and does nothing else. -/
theorem step_startAliveCheck_of_ne_active (hi : Tracked h) (hs : h.state ≠ .active)
    (send : SendOutcome) : (Event.startAliveCheck send).step U h =
      h.log [.ownerAliveCheckResponseReceived false] := by
  show h.startAliveCheck send = _
  rw [h.startAliveCheck_of_ne_active hs, if_pos hi.hasCallback]

/-- A `startAliveCheck` in ACTIVE is a step with the flag up; in another state it leaves the check
that may be pending alone. -/
theorem account_startAliveCheck (hi : Tracked h) (send : SendOutcome) :
    Tracked ((startAliveCheck send).step U h) ∧ StepAccount U h (startAliveCheck send) := by
  have hr : ¬ ∃ payload, startAliveCheck send = .aliveCheckResponseReceived payload := by
    rintro ⟨payload, hp⟩
    cases hp
  by_cases hs : h.state = .active
  · have hne : h.state ≠ .shutdown := by
      rw [hs]
      decide
    have hup : Tracked (h.setAliveCheckPending true) := by
      refine ⟨hi.hasCallback, ?_, hi.closed⟩
      intro _
      rw [setAliveCheckPending_state, hs]
      decide
    have hg := Proceeds.startAliveCheck hs send
    have hw : Outstanding h ∨ (startAliveCheck send).Raises h := by
      cases hp : h.aliveCheckPending with
      | false => exact .inr ⟨⟨send, rfl⟩, hs, hp⟩
      | true => exact .inl ⟨hp, hne⟩
    have himm : (startAliveCheck send).immediateAnswers h = [] := if_pos hs
    have hc : (h.setAliveCheckPending true).calls = h.calls := rfl
    exact ⟨hg.tracked hup, stepAccount_of_proceeds hc ⟨rfl, hne⟩ hg hr himm hw⟩
  · have hstep := step_startAliveCheck_of_ne_active (U := U) hi hs send
    have hraise : ¬ (startAliveCheck send).Raises h := by
      intro hraise
      exact hs hraise.2.1
    have hanswers : (startAliveCheck send).answers U h =
        (startAliveCheck send).immediateAnswers h := by
      have hcalls : Writes Call.answer h.calls ((startAliveCheck send).step U h).calls [false] := by
        rw [hstep]
        exact .append _ _
      rw [immediateAnswers, if_neg hs]
      exact answers_eq hcalls
    have hsame : Outstanding ((startAliveCheck send).step U h) ↔ Outstanding h := by
      rw [hstep]
      exact Iff.rfl
    refine ⟨?_, ?_⟩
    · rw [hstep]
      exact ⟨hi.hasCallback, hi.pending, hi.closed⟩
    · by_cases ho : Outstanding h
      · have ho' := hsame.mpr ho
        exact .postponed (.inl ho) ⟨hr, ho'.2, hanswers⟩ ho'
      · exact .idle ho hraise hanswers (mt hsame.mp ho)

/-- Every step keeps the flag tied to the state, and has its place in the owner's account. -/
theorem account_step (hi : Tracked h) (he : e.enabled h) :
    Tracked (e.step U h) ∧ StepAccount U h e := by
  by_cases hsend : ∃ send, e = .startAliveCheck send
  · obtain ⟨send, rfl⟩ := hsend
    exact account_startAliveCheck hi send
  · have hraise : ¬ e.Raises h := by
      intro hr
      exact hsend hr.1
    have himm : e.immediateAnswers h = [] := by
      cases e with
      | startAliveCheck send => exact absurd ⟨send, rfl⟩ hsend
      | _ => rfl
    cases hp : h.aliveCheckPending with
    | false =>
      have hu := unanswered_step U hp hsend
      have hanswers : e.answers U h = e.immediateAnswers h := by
        rw [himm]
        exact answers_eq hu.calls
      exact ⟨hu.tracked hi hp, .idle (not_outstanding_of_not_pending hp) hraise hanswers
        (not_outstanding_of_not_pending (hu.aliveCheckPending.trans hp))⟩
    | true =>
      have hact : ¬ Activates h e := not_activates h e (hi.pending hp).1 (hi.pending hp).2
      by_cases hr : ∃ payload, e = .aliveCheckResponseReceived payload
      · -- a payload is delivered before the connection is closed only
        obtain ⟨payload, rfl⟩ := hr
        have hs : h.state ≠ .shutdown := by
          intro hs
          have hopen : h.connectionIsClosed = false := he.1
          rw [hi.closed hs] at hopen
          cases hopen
        obtain ⟨ha, hp', ht⟩ := answersCheck_aliveCheckResponseReceived (U := U) hi hp payload
        exact ⟨ht, .answered (.inl ⟨hp, hs⟩) ha (not_outstanding_of_not_pending hp')⟩
      · have hg := proceeds_step U hact hsend hr
        refine ⟨hg.tracked hi, ?_⟩
        by_cases hs : h.state = .shutdown
        · -- in SHUTDOWN there is nothing left to close
          obtain hg | ⟨hne, -⟩ := hg
          · refine .idle (fun ho => ho.2 hs) hraise ?_ fun ho => ho.2 (hg.shutdown hs)
            rw [himm]
            exact answers_eq hg.unanswered.calls
          · exact absurd hs hne
        · exact stepAccount_of_proceeds rfl ⟨hp, hs⟩ hg hr himm (.inl ⟨hp, hs⟩)

end Event

theorem tracked_of_started {U : Upstream} {h : DoIpServerConnectionHandler} (hs : Started U h) :
    Tracked h ∧ ¬ Outstanding h := by
  obtain ⟨c, check, rfl | ⟨sourceAddress, rfl⟩⟩ := hs <;>
    exact ⟨⟨rfl, Bool.noConfusion, State.noConfusion⟩, fun ho => Bool.noConfusion ho.1⟩

theorem tracked_of_run {U : Upstream} {h t : DoIpServerConnectionHandler} {es : List Event}
    (hi : Tracked h) (hr : (connection U).Run h es t) : Tracked t :=
  hr.preserves (I := Tracked) (fun _ _ hi he => (Event.account_step hi he).1) hi

/-- The owner's account, for an owner that waits exactly while a check is outstanding. -/
theorem accounted_of_tracked {U : Upstream} {h t : DoIpServerConnectionHandler} {es : List Event}
    (hi : Tracked h) (hr : (connection U).Run h es t) {waiting : Bool}
    (hw : waiting = true ↔ Outstanding h) : Accounted U waiting h es := by
  induction hr generalizing waiting with
  | nil h => exact .nil waiting h
  | cons he _ ih =>
    obtain ⟨hi', haccount⟩ := Event.account_step hi he
    cases haccount with
    | idle ho hraise ha ho' =>
      have hfalse : waiting = false := by
        rw [← Bool.not_eq_true, hw]
        exact ho
      subst hfalse
      exact .idle hraise ha (ih hi' (iff_of_false Bool.false_ne_true ho'))
    | answered ho ha ho' =>
      rw [← hw] at ho
      exact .answered ho ha (ih hi' (iff_of_false Bool.false_ne_true ho'))
    | postponed ho ha ho' =>
      rw [← hw] at ho
      exact .postponed ho ha (ih hi' (iff_of_true rfl ho'))

/-- Every alive check is answered once: every run after `start` gives the owner's account, and where
the handler is not ACTIVE a `startAliveCheck` is answered `false` and does nothing else. -/
theorem accounted_of_run (U : Upstream) {h t : DoIpServerConnectionHandler} {es : List Event}
    (hs : Started U h) (hr : (connection U).Run h es t) :
    Accounted U false h es ∧ ∀ send, t.state ≠ .active →
      (Event.startAliveCheck send).step U t = t.log [.ownerAliveCheckResponseReceived false] := by
  obtain ⟨hi, ho⟩ := tracked_of_started hs
  refine ⟨accounted_of_tracked hi hr (iff_of_false Bool.false_ne_true ho), ?_⟩
  intro send hne
  exact Event.step_startAliveCheck_of_ne_active (tracked_of_run hi hr) hne send

/-- An alive check that the tester answers, and a second one that times out. -/
def twoAliveChecks : List Event :=
  [.startAliveCheck .accepted,
    .headerReceived ⟨2, 0xFD, .aliveCheckResponse, 2⟩ ⟨true, fun _ => false, .accepted⟩,
    .aliveCheckResponseReceived [0x0E, 0x00], .startAliveCheck (.released true), .timerExpired]

theorem accounted_twoAliveChecks :
    Accounted .iso13400 false (resumedWith 2) twoAliveChecks ∧ ∀ send,
      (twoAliveChecks.foldl (connection .iso13400).step (resumedWith 2)).state ≠ .active →
        (Event.startAliveCheck send).step .iso13400
            (twoAliveChecks.foldl (connection .iso13400).step (resumedWith 2)) =
          (twoAliveChecks.foldl (connection .iso13400).step (resumedWith 2)).log
            [.ownerAliveCheckResponseReceived false] :=
  accounted_of_run .iso13400 (started_resumedWith 2) (.of_enabledAll (by decide))

end SovdDemo.Doip

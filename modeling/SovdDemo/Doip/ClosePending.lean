import SovdDemo.Doip.Sending

/-!
# Is there always something that closes the connection?

The handler relies on its timer while it is INACTIVE or ACTIVE, and in CLOSING on a job whose
release callback closes. In CLOSING the timer does nothing, so a closing message that the
connection rejects leaves nobody to close: `sendOrReleaseMessage` gives the job back to the pool
without running its release callback.

## Main definitions

- `ClosePending` — something is pending that will close the connection
- `closingSend` — the message of a step that asks for `close` after it
- `OrphansConnection` — that message is rejected, and no other closing job is in flight

## Main results

- `closePending_sendAllocated_iff` — a closing message keeps the obligation unless it is orphaned
- `closePending_of_reachable` — every run without such a step has a close pending at every point
-/

namespace SovdDemo.Doip

open Foundations DoIpServerConnectionHandler

/-- Something is pending that will close the connection. -/
structure ClosePending (h : DoIpServerConnectionHandler) : Prop where
  timer : h.state = .inactive ∨ h.state = .active → h.timer.isSome
  job : h.state = .closing → ∃ job ∈ h.jobsInFlight, job.releaseCallback = .releaseSendJobAndClose

/-- A rejected closing message, with no other closing job in flight. -/
def Orphaned (h : DoIpServerConnectionHandler) (outcome : SendOutcome) : Prop :=
  outcome = .rejected ∧ h.state ≠ .shutdown ∧ h.sendJobPool ≠ [] ∧
    ∀ job ∈ h.jobsInFlight, job.releaseCallback ≠ .releaseSendJobAndClose

instance (h : DoIpServerConnectionHandler) (outcome : SendOutcome) :
    Decidable (Orphaned h outcome) :=
  inferInstanceAs (Decidable (_ ∧ _ ∧ _ ∧ _))

namespace ClosePending

variable {h : DoIpServerConnectionHandler}

/-- The obligation looks at three fields only. -/
theorem congr {h' : DoIpServerConnectionHandler} (hi : ClosePending h) (hs : h'.state = h.state)
    (ht : h'.timer = h.timer) (hj : h'.jobsInFlight = h.jobsInFlight) : ClosePending h' := by
  refine ⟨?_, ?_⟩
  · intro hs'
    rw [ht]
    exact hi.timer (hs ▸ hs')
  · intro hs'
    rw [hj]
    exact hi.job (hs ▸ hs')

theorem of_shutdown (hs : h.state = .shutdown) : ClosePending h := by
  constructor <;> simp [hs]

theorem of_activating (hs : h.state = .activating) : ClosePending h := by
  constructor <;> simp [hs]

theorem iff_of_closing (hs : h.state = .closing) : ClosePending h ↔
    ∃ job ∈ h.jobsInFlight, job.releaseCallback = .releaseSendJobAndClose := by
  refine ⟨fun hi => hi.job hs, fun hj => ⟨?_, fun _ => hj⟩⟩
  intro hs'
  rw [hs] at hs'
  rcases hs' with hs' | hs' <;> cases hs'

theorem close : ClosePending h.close := .of_shutdown h.close_state

theorem log (hi : ClosePending h) (cs : List Call) : ClosePending (h.log cs) :=
  hi.congr rfl rfl rfl

theorem setTimer (hi : ClosePending h) (t : UInt32) : ClosePending (h.setTimer t) :=
  ⟨fun _ => rfl, hi.job⟩

theorem activate : ClosePending h.activate := ⟨fun _ => rfl, State.noConfusion⟩

/-- One more job in flight does no harm. -/
theorem setJobsInFlight (hi : ClosePending h) (job : SendJob) :
    ClosePending (h.setJobsInFlight (h.jobsInFlight ++ [job])) := by
  refine ⟨hi.timer, ?_⟩
  intro hs
  obtain ⟨j, hj, hc⟩ := hi.job hs
  exact ⟨j, List.mem_append_left _ hj, hc⟩

theorem runReleaseCallback (hi : ClosePending h) (job : SendJob) (success : Bool) :
    ClosePending (h.runReleaseCallback job success) := by
  cases hj : job.releaseCallback with
  | releaseSendJob =>
    rw [runReleaseCallback_of_releaseSendJob h hj]
    exact hi.congr rfl rfl rfl
  | releaseSendJobAndClose =>
    rw [runReleaseCallback_of_releaseSendJobAndClose h hj]
    exact close

theorem sendOrReleaseMessage (hi : ClosePending h) (job : SendJob) (outcome : SendOutcome) :
    ClosePending (h.sendOrReleaseMessage job outcome).2 := by
  cases outcome with
  | rejected => exact hi.congr rfl rfl rfl
  | accepted => exact (hi.setJobsInFlight job).log _
  | released success => exact (hi.log _).runReleaseCallback job success

/-- A message that does not close keeps the obligation. -/
theorem sendAllocated (hi : ClosePending h) (payloadType : PayloadType) (payload : List UInt8)
    (outcome : SendOutcome) : ClosePending (h.sendAllocated payloadType payload false outcome) := by
  by_cases hs : h.state = .shutdown
  · rwa [h.sendAllocated_of_shutdown hs]
  · cases hp : h.sendJobPool with
    | nil =>
      rw [h.sendAllocated_of_no_job hs hp]
      exact close
    | cons slot free =>
      rw [h.sendAllocated_of_job hs hp]
      have ha : ClosePending (h.allocated slot free false) := hi.congr rfl rfl rfl
      exact ha.sendOrReleaseMessage _ outcome

theorem startAliveCheck (hi : ClosePending h) (outcome : SendOutcome) :
    ClosePending (h.startAliveCheck outcome) := by
  by_cases hs : h.state = .active
  · cases hp : h.sendJobPool with
    | nil =>
      rw [h.startAliveCheck_of_no_job hs hp]
      exact close
    | cons slot free =>
      rw [h.startAliveCheck_of_job hs hp]
      have ha : ClosePending ((h.setAliveCheckPending true).allocated slot free false) :=
        hi.congr rfl rfl rfl
      exact (ha.setTimer _).sendOrReleaseMessage _ outcome
  · rw [h.startAliveCheck_of_ne_active hs]
    split
    · exact hi.log _
    · exact hi

theorem receivePayload (hi : ClosePending h) (callback : PayloadCallback) (length : Nat)
    (accepted : Bool) : ClosePending (h.receivePayload callback length accepted).2 := by
  cases accepted <;> exact hi.congr rfl rfl rfl

theorem aliveCheckResponseReceived (hi : ClosePending h) (payload : List UInt8) :
    ClosePending (h.aliveCheckResponseReceived payload) := by
  simp only [DoIpServerConnectionHandler.aliveCheckResponseReceived]
  split
  · refine ClosePending.log ?_ _
    split
    · exact hi.congr rfl rfl rfl
    · exact hi
  · exact close

/-- The timer goes off once: in INACTIVE and ACTIVE it closes, and no other state needs it. -/
theorem timerExpired (hi : ClosePending h) : ClosePending h.disarmTimer.timerExpired := by
  rw [DoIpServerConnectionHandler.timerExpired]
  split
  · exact close
  · exact close
  · rename_i hinactive hactive
    exact ⟨fun hs => (hs.elim hinactive hactive).elim, hi.job⟩

/-- A job that is released either closes or is not the one that will. -/
theorem jobReleased (hi : ClosePending h) (job : SendJob) (success : Bool) :
    ClosePending
      ((h.setJobsInFlight (h.jobsInFlight.erase job)).runReleaseCallback job success) := by
  cases hj : job.releaseCallback with
  | releaseSendJob =>
    rw [runReleaseCallback_of_releaseSendJob _ hj]
    refine ⟨hi.timer, ?_⟩
    intro hs
    -- in CLOSING there is a closing job, and the one that is released is another
    obtain ⟨j, hm, hc⟩ := hi.job hs
    have hne : j ≠ job := by
      rintro rfl
      rw [hj] at hc
      cases hc
    exact ⟨j, (List.mem_erase_of_ne hne).mpr hm, hc⟩
  | releaseSendJobAndClose =>
    rw [runReleaseCallback_of_releaseSendJobAndClose _ hj]
    exact close

end ClosePending

/-- A closing message leaves something pending unless it is orphaned. -/
theorem closePending_sendAllocated_iff (h : DoIpServerConnectionHandler)
    (payloadType : PayloadType) (payload : List UInt8) (outcome : SendOutcome) :
    ClosePending (h.sendAllocated payloadType payload true outcome) ↔ ¬ Orphaned h outcome := by
  by_cases hs : h.state = .shutdown
  · rw [h.sendAllocated_of_shutdown hs]
    exact iff_of_true (.of_shutdown hs) fun ho => ho.2.1 hs
  · cases hp : h.sendJobPool with
    | nil =>
      rw [h.sendAllocated_of_no_job hs hp]
      exact iff_of_true .close fun ho => ho.2.2.1 hp
    | cons slot free =>
      rw [h.sendAllocated_of_job hs hp]
      have hpool : h.sendJobPool ≠ [] := by simp [hp]
      cases outcome with
      | rejected =>
        -- only a closing job that was in flight before can still close
        rw [sendOrReleaseMessage_rejected, ClosePending.iff_of_closing rfl,
          releaseSendJob_jobsInFlight, log_jobsInFlight, allocated_jobsInFlight]
        constructor
        · rintro ⟨job, hm, hc⟩ ⟨-, -, -, hnone⟩
          exact hnone job hm hc
        · intro ho
          by_contra hnone
          exact ho ⟨rfl, hs, hpool, fun job hm hc => hnone ⟨job, hm, hc⟩⟩
      | accepted =>
        rw [sendOrReleaseMessage_accepted, ClosePending.iff_of_closing rfl, log_jobsInFlight,
          setJobsInFlight_jobsInFlight]
        refine iff_of_true ⟨h.jobFor slot payloadType payload true, by simp, rfl⟩ ?_
        exact fun ho => SendOutcome.noConfusion ho.1
      | released success =>
        rw [sendOrReleaseMessage_released, runReleaseCallback_of_releaseSendJobAndClose _ rfl]
        exact iff_of_true .close fun ho => SendOutcome.noConfusion ho.1

/-! The steps of a run -/

/-- The message a step sends with `closeAfterSend`, given by what becomes of it. -/
def closingSend (U : Upstream) (h : DoIpServerConnectionHandler) : Event → Option SendOutcome
  | .headerReceived header answers =>
    if !U.checkProtocolVersion header h.protocolVersion then some answers.send
    else
      match header.payloadType with
      | .routingActivationRequest =>
        if header.payloadLength ≠ 7 ∧ header.payloadLength ≠ 11 then some answers.send else none
      | .aliveCheckResponse => if header.payloadLength ≠ 2 then some answers.send else none
      | _ => none
  | .routingActivationRequestReceived payload answers =>
    if answers.check.action = .continue then
      if h.state = .inactive then
        if answers.completion.map Prod.fst = some false then some answers.send else none
      else if h.sourceAddress = takeBeUInt16 payload 0 then none
      else some answers.send
    else if answers.check.action = .reject then some answers.send
    else none
  | .routingActivationCompleted success _ send =>
    if h.state = .activating ∧ success = false then some send else none
  | .sendNack _ closeAfterSend send => if closeAfterSend then some send else none
  | _ => none

/-- The steps that leave the connection without anybody to close it. -/
def OrphansConnection (U : Upstream) (h : DoIpServerConnectionHandler) (e : Event) : Prop :=
  ∃ outcome, closingSend U h e = some outcome ∧ Orphaned h outcome

instance (U : Upstream) (h : DoIpServerConnectionHandler) (e : Event) :
    Decidable (OrphansConnection U h e) :=
  match hc : closingSend U h e with
  | none => isFalse fun ⟨_, ho, _⟩ => by rw [hc] at ho; cases ho
  | some outcome => decidable_of_iff (Orphaned h outcome)
      ⟨fun ho => ⟨outcome, hc, ho⟩, fun ⟨_, heq, ho⟩ => by rw [hc] at heq; cases heq; exact ho⟩

/-- A step that sends a closing message on the condition `c`. -/
theorem orphansConnection_iff_of_ite {U : Upstream} {h : DoIpServerConnectionHandler} {e : Event}
    {outcome : SendOutcome} {c : Prop} [Decidable c]
    (hc : closingSend U h e = if c then some outcome else none) :
    OrphansConnection U h e ↔ c ∧ Orphaned h outcome := by
  rw [OrphansConnection, hc]
  split <;> simp_all

theorem not_orphansConnection_of_none {U : Upstream} {h : DoIpServerConnectionHandler} {e : Event}
    (hc : closingSend U h e = none) : ¬ OrphansConnection U h e := by
  rintro ⟨outcome, ho, -⟩
  rw [hc] at ho
  cases ho

theorem orphansConnection_iff_of_some {U : Upstream} {h : DoIpServerConnectionHandler} {e : Event}
    {outcome : SendOutcome} (hc : closingSend U h e = some outcome) :
    OrphansConnection U h e ↔ Orphaned h outcome := by
  refine ⟨?_, fun ho => ⟨outcome, hc, ho⟩⟩
  rintro ⟨outcome', ho, hr⟩
  rw [hc] at ho
  cases ho
  exact hr

theorem orphaned_congr {g h : DoIpServerConnectionHandler} (hs : g.state = h.state)
    (hp : g.sendJobPool = h.sendJobPool) (hj : g.jobsInFlight = h.jobsInFlight)
    (outcome : SendOutcome) : Orphaned g outcome ↔ Orphaned h outcome := by
  simp only [Orphaned, hs, hp, hj]

theorem orphaned_restarted_iff (U : Upstream) (h : DoIpServerConnectionHandler)
    (outcome : SendOutcome) : Orphaned (h.restarted U) outcome ↔ Orphaned h outcome :=
  orphaned_congr (h.restarted_state U) (h.restarted_sendJobPool U) (h.restarted_jobsInFlight U)
    outcome

theorem ClosePending.restarted {h : DoIpServerConnectionHandler} (hi : ClosePending h)
    (U : Upstream) : ClosePending (h.restarted U) := by
  rw [DoIpServerConnectionHandler.restarted]
  split
  · exact hi.setTimer _
  · exact hi

/-- A header whose length is checked: a wrong length `c` is answered by a NACK that closes, and
otherwise the payload is asked for. -/
theorem closePending_lengthChecked_iff {U : Upstream} {h g : DoIpServerConnectionHandler}
    {e : Event} (hg : ClosePending g) {send : SendOutcome} (ho : Orphaned g send ↔ Orphaned h send)
    {c : Prop} [Decidable c] (hc : closingSend U h e = if c then some send else none)
    (nackCode : UInt8) (callback : PayloadCallback) (length : Nat) (accepted : Bool) :
    ClosePending (if c then (.payloadDiscarded, g.sendNack nackCode true send)
      else g.receivePayload callback length accepted).2 ↔ ¬ OrphansConnection U h e := by
  rw [orphansConnection_iff_of_ite hc, ← ho]
  split
  · rename_i hl
    refine (closePending_sendAllocated_iff g _ _ send).trans (not_congr ?_)
    exact (and_iff_right hl).symm
  · rename_i hl
    exact iff_of_true (hg.receivePayload callback length accepted) fun h => hl h.1

theorem closePending_headerReceived_iff {U : Upstream} {h : DoIpServerConnectionHandler}
    (hi : ClosePending h) (header : DoIpHeader) (answers : HeaderAnswers) :
    ClosePending (h.headerReceived U header answers).2 ↔
      ¬ OrphansConnection U h (.headerReceived header answers) := by
  have hr := hi.restarted U
  cases hv : U.checkProtocolVersion header h.protocolVersion with
  | false =>
    have hc : closingSend U h (.headerReceived header answers) = some answers.send := by
      simp [closingSend, hv]
    rw [orphansConnection_iff_of_some hc, h.headerReceived_of_not_version hv]
    exact closePending_sendAllocated_iff h _ _ answers.send
  | true =>
    rw [h.headerReceived_of_version hv]
    cases hp : header.payloadType with
    | routingActivationRequest =>
      have hc : closingSend U h (.headerReceived header answers) =
          if header.payloadLength ≠ 7 ∧ header.payloadLength ≠ 11 then some answers.send
          else none := by
        simp [closingSend, hv, hp]
      exact closePending_lengthChecked_iff hr (orphaned_restarted_iff U h _) hc _ _ _ _
    | aliveCheckResponse =>
      have hc : closingSend U h (.headerReceived header answers) =
          if header.payloadLength ≠ 2 then some answers.send else none := by
        simp [closingSend, hv, hp]
      exact closePending_lengthChecked_iff hr (orphaned_restarted_iff U h _) hc _ _ _ _
    | negativeAck | diagnosticMessagePositiveAck | diagnosticMessageNegativeAck =>
      refine iff_of_true (hr.log _) (not_orphansConnection_of_none ?_)
      simp [closingSend, hv, hp]
    | _ =>
      refine iff_of_true ?_ (not_orphansConnection_of_none (by simp [closingSend, hv, hp]))
      obtain ⟨cs, -, hd | hd⟩ := (h.restarted U).headerReceivedDefault_cases U header answers
      · exact hd ▸ hr.log cs
      · exact hd ▸ (hr.log cs).sendAllocated _ _ answers.send

theorem closePending_routingActivationCompleted_iff {h : DoIpServerConnectionHandler}
    (ha : h.state = .activating) (success : Bool) (responseCode : UInt8) (outcome : SendOutcome) :
    ClosePending (h.routingActivationCompleted success responseCode outcome) ↔
      ¬ (success = false ∧ Orphaned h outcome) := by
  rw [h.routingActivationCompleted_of_activating ha]
  cases success with
  | true => exact iff_of_true .activate fun ho => Bool.noConfusion ho.1
  | false =>
    rw [if_neg Bool.false_ne_true, closePending_sendAllocated_iff]
    simp

theorem closePending_handleRoutingActivationRequest_iff {h : DoIpServerConnectionHandler}
    (ha : h.state = .activating) (answers : ActivationAnswers) :
    ClosePending (h.handleRoutingActivationRequest answers) ↔
      ¬ (answers.completion.map Prod.fst = some false ∧ Orphaned h answers.send) := by
  have hl : (h.log [.ownerHandleRoutingActivationRequest]).state = .activating := ha
  rw [handleRoutingActivationRequest]
  cases hc : answers.completion with
  | none => exact iff_of_true (.of_activating hl) (by simp)
  | some completion =>
    obtain ⟨success, code⟩ := completion
    refine (closePending_routingActivationCompleted_iff hl success code answers.send).trans ?_
    simp only [Option.map_some, Option.some.injEq]
    rfl

theorem closePending_log_iff {h : DoIpServerConnectionHandler} {cs : List Call} :
    ClosePending (h.log cs) ↔ ClosePending h :=
  ⟨fun hi => hi.congr rfl rfl rfl, fun hi => hi.log cs⟩

/-- The messages of a routing activation request go out after the owner's verdict is logged. -/
theorem closePending_checked_sendAllocated_iff {h : DoIpServerConnectionHandler}
    (hi : ClosePending h) (payload : List UInt8) (payloadType : PayloadType)
    (response : List UInt8) (closeAfterSend : Bool) (outcome : SendOutcome) :
    ClosePending (((h.checked payload).sendAllocated payloadType response closeAfterSend
      outcome).log [.connectionEndReceiveMessage]) ↔
        ¬ (closeAfterSend = true ∧ Orphaned h outcome) := by
  rw [closePending_log_iff]
  cases closeAfterSend with
  | false =>
    have hc : ClosePending (h.checked payload) := hi.log _
    exact iff_of_true (hc.sendAllocated _ _ outcome) (by simp)
  | true =>
    rw [closePending_sendAllocated_iff]
    simp only [true_and]
    rfl

theorem closePending_routingActivationRequestReceived_iff {U : Upstream}
    {h : DoIpServerConnectionHandler} (hi : ClosePending h) (payload : List UInt8)
    (answers : ActivationAnswers) :
    ClosePending (h.routingActivationRequestReceived U payload answers) ↔
      ¬ OrphansConnection U h (.routingActivationRequestReceived payload answers) := by
  by_cases hact : answers.check.action = .continue
  · by_cases hin : h.state = .inactive
    · have hc : closingSend U h (.routingActivationRequestReceived payload answers) =
          if answers.completion.map Prod.fst = some false then some answers.send else none := by
        simp [closingSend, hact, hin]
      rw [orphansConnection_iff_of_ite hc,
        h.routingActivationRequestReceived_of_inactive U payload hact hin, closePending_log_iff]
      have hg : (h.activating payload answers.check).state = .activating := rfl
      have ho : Orphaned (h.activating payload answers.check) answers.send ↔
          Orphaned h answers.send := by
        simp only [Orphaned, hg, hin, ne_eq, reduceCtorEq, not_false_eq_true, true_and]
        rfl
      rw [closePending_handleRoutingActivationRequest_iff hg, ho]
    · have hc : closingSend U h (.routingActivationRequestReceived payload answers) =
          if h.sourceAddress ≠ takeBeUInt16 payload 0 then some answers.send else none := by
        simp [closingSend, hact, hin]
      rw [orphansConnection_iff_of_ite hc,
        h.routingActivationRequestReceived_of_ne_inactive U payload hact hin,
        closePending_checked_sendAllocated_iff hi, decide_eq_true_iff]
  · have hc : closingSend U h (.routingActivationRequestReceived payload answers) =
        if answers.check.action = .reject then some answers.send else none := by
      simp [closingSend, hact]
    rw [orphansConnection_iff_of_ite hc,
      h.routingActivationRequestReceived_of_ne_continue U payload hact,
      closePending_checked_sendAllocated_iff hi, decide_eq_true_iff]

/-- A step keeps the obligation exactly when it does not orphan the connection. -/
theorem closePending_step_iff {U : Upstream} {h : DoIpServerConnectionHandler} {e : Event}
    (hi : ClosePending h) (hd : e.isShutdown = false) :
    ClosePending (e.step U h) ↔ ¬ OrphansConnection U h e := by
  cases e with
  | headerReceived header answers => exact closePending_headerReceived_iff hi header answers
  | routingActivationRequestReceived payload answers =>
    have hp : ClosePending (h.setPayloadRequests (h.payloadRequests.erase
        ⟨.routingActivationRequestReceived, payload.length⟩)) := hi.congr rfl rfl rfl
    exact closePending_routingActivationRequestReceived_iff hp payload answers
  | aliveCheckResponseReceived payload =>
    have hp : ClosePending (h.setPayloadRequests (h.payloadRequests.erase
        ⟨.aliveCheckResponseReceived, payload.length⟩)) := hi.congr rfl rfl rfl
    exact iff_of_true (hp.aliveCheckResponseReceived payload) (not_orphansConnection_of_none rfl)
  | startAliveCheck send =>
    exact iff_of_true (hi.startAliveCheck send) (not_orphansConnection_of_none rfl)
  | routingActivationCompleted success responseCode send =>
    by_cases ha : h.state = .activating
    · refine (closePending_routingActivationCompleted_iff ha success responseCode send).trans ?_
      cases success <;> simp [OrphansConnection, closingSend, ha]
    · have hn : closingSend U h (.routingActivationCompleted success responseCode send) = none := by
        simp [closingSend, ha]
      refine iff_of_true ?_ (not_orphansConnection_of_none hn)
      show ClosePending (h.routingActivationCompleted success responseCode send)
      rwa [h.routingActivationCompleted_of_ne_activating ha]
  | connectionClosed closedByRemotePeer =>
    exact iff_of_true .close (not_orphansConnection_of_none rfl)
  | timerExpired => exact iff_of_true hi.timerExpired (not_orphansConnection_of_none rfl)
  | jobReleased job success =>
    exact iff_of_true (hi.jobReleased job success) (not_orphansConnection_of_none rfl)
  | close => exact iff_of_true .close (not_orphansConnection_of_none rfl)
  | sendNack nackCode closeAfterSend send =>
    cases closeAfterSend with
    | false => exact iff_of_true (hi.sendAllocated _ _ send) (not_orphansConnection_of_none rfl)
    | true =>
      have hc : closingSend U h (.sendNack nackCode true send) = some send := rfl
      rw [orphansConnection_iff_of_some hc]
      exact closePending_sendAllocated_iff h _ _ send
  | shutdown => cases hd

theorem closePending_of_started {U : Upstream} {h : DoIpServerConnectionHandler}
    (hs : Started U h) : ClosePending h := by
  obtain ⟨c, check, rfl | ⟨sourceAddress, rfl⟩⟩ := hs <;> exact ⟨fun _ => rfl, State.noConfusion⟩

/-- The handler before `shutdown`. -/
def beforeShutdown (U : Upstream) : System DoIpServerConnectionHandler Event :=
  (connection U).restrict fun _ e => e.isShutdown = false

instance (U : Upstream) (h : DoIpServerConnectionHandler) (e : Event) :
    Decidable ((beforeShutdown U).enabled h e) :=
  inferInstanceAs (Decidable (_ ∧ _))

/-- Every run without an orphaned closing message has a close pending in every state it reaches, and
the next step keeps one pending just when it does not orphan its closing message either. -/
theorem closePending_of_reachable (U : Upstream) {h : DoIpServerConnectionHandler}
    (hr : ((beforeShutdown U).restrict fun h e => ¬ OrphansConnection U h e).Reachable h) :
    ClosePending h ∧ ∀ e, (beforeShutdown U).enabled h e →
      (ClosePending ((beforeShutdown U).step h e) ↔ ¬ OrphansConnection U h e) := by
  have hi : ClosePending h := by
    refine hr.invariant (fun _ => closePending_of_started) ?_
    rintro h e hi ⟨⟨-, hd⟩, hg⟩
    exact (closePending_step_iff hi hd).mpr hg
  exact ⟨hi, fun e he => closePending_step_iff hi he.2⟩

/-- A header with a wrong version, and what becomes of the NACK that closes. -/
def headerOfWrongVersion (send : SendOutcome) : Event :=
  .headerReceived ⟨1, 0xFE, .routingActivationRequest, 7⟩ ⟨true, fun _ => false, send⟩

theorem closePending_of_nack_accepted : ∃ h : DoIpServerConnectionHandler,
    h.state = .closing ∧ ClosePending h :=
  ⟨[headerOfWrongVersion .accepted].foldl (beforeShutdown .iso13400).step (startedWith 1), rfl,
    (closePending_of_reachable .iso13400
      ⟨_, _, started_startedWith 1, .of_enabledAll (by decide)⟩).1⟩

theorem not_closePending_of_nack_rejected :
    ¬ ∀ U h, (beforeShutdown U).Reachable h → ClosePending h := by
  intro hall
  have hr : (beforeShutdown .iso13400).Reachable
      ([headerOfWrongVersion .rejected].foldl (beforeShutdown .iso13400).step (startedWith 1)) :=
    ⟨_, _, started_startedWith 1, .of_enabledAll (by decide)⟩
  obtain ⟨job, hm, -⟩ := (hall _ _ hr).job rfl
  exact absurd hm (List.not_mem_nil)

end SovdDemo.Doip

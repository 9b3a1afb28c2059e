import SovdDemo.Doip.Operations
import SovdDemo.Foundations.CallLog
import SovdDemo.Foundations.ResourcePool
import Mathlib.Data.Multiset.MapFold

/-!
# Who holds the send jobs?

A job leaves the pool for a message and comes back from three places: the sender itself when the
connection rejects the message, the release callback within the send, and the release callback
later, even after `close`. Every step of the handler is a few operations on a `Foundations.Pool`,
in which a job is taken only while it is free, and given back only while it is out: what is out
after a step is what the connection has accepted and not yet released.

## Main definitions

- `sendJobs` — the handler's pool, as a pool of resources
- `Trades` — an operation of the handler is a run of that pool
- `lifetime` — the handler from its construction on, with `resume` and `start` among the steps
- `JobsAccounted` — where the jobs are after a run, and what has happened to each of them

## Main results

- `trades_step` — every step of the handler is a run of the pool
- `jobsAccounted_of_run` — no job is leaked, and none is returned twice
-/

namespace SovdDemo.Doip

open Foundations DoIpServerConnectionHandler

def Call.poolOp : Call → Option (PoolOp Nat)
  | .poolAllocate slot => some (.take slot)
  | .poolRelease slot => some (.give slot)
  | _ => none

/-- The pool of the handler: its free slots, and the slots of the jobs in flight. -/
def DoIpServerConnectionHandler.sendJobs (h : DoIpServerConnectionHandler) : Pool Nat :=
  ⟨h.sendJobPool, (h.jobsInFlight.map SendJob.slot : List Nat)⟩

/-- What can happen to a handler in its life: `resume` and `start`, and the events of a run. -/
inductive Life
  | resume (sourceAddress : UInt16)
  | start (check : RoutingActivationCheckResult)
  | event (e : Event)

/-- The handler from its construction on. An event before `start` is not ruled out: where the
source then calls its owner, in `close` for one, `_callback` is still null and the process ends
there, while the log here has the call and the run goes on. Such runs are more than the source
has. -/
def lifetime (U : Upstream) (c : Construction) : System DoIpServerConnectionHandler Life where
  init h := h = construct U c
  enabled h
    | .resume _ | .start _ => True
    | .event e => e.enabled h
  step h
    | .resume sourceAddress => (h.resume sourceAddress).2
    | .start check => h.start check
    | .event e => e.step U h

instance (U : Upstream) (c : Construction) (h : DoIpServerConnectionHandler) :
    ∀ l, Decidable ((lifetime U c).enabled h l)
  | .resume _ | .start _ => inferInstanceAs (Decidable True)
  | .event e => inferInstanceAs (Decidable (e.enabled h))

/-- Where the `c.sendJobs` jobs are, and what has happened to them. -/
structure JobsAccounted (U : Upstream) (c : Construction) (h : DoIpServerConnectionHandler) :
    Prop where
  /-- What is not in the pool is in flight, and no job is in two places. -/
  jobs : (h.sendJobPool ++ h.jobsInFlight.map SendJob.slot).Perm (List.range c.sendJobs)
  /-- Each job was free when it was taken, and out when it was given back. -/
  replay : Pool.system.Run ⟨List.range c.sendJobs, 0⟩ (h.calls.filterMap Call.poolOp) h.sendJobs
  /-- At any time of the run, a job has been given back once each time it was taken, or is out. -/
  alternates : ∀ slot ops, ops <+: h.calls.filterMap Call.poolOp →
    ops.count (.give slot) ≤ ops.count (.take slot) ∧
      ops.count (.take slot) ≤ ops.count (.give slot) + 1
  /-- Now it is out exactly when it is in flight. -/
  returned : ∀ slot, h.calls.count (.poolAllocate slot) =
    h.calls.count (.poolRelease slot) + (h.jobsInFlight.map SendJob.slot).count slot
  /-- The next step takes no job in SHUTDOWN. -/
  allocates : ∀ l, (lifetime U c).enabled h l → ∀ slot,
    .poolAllocate slot ∈ ((lifetime U c).step h l).calls.drop h.calls.length → h.state ≠ .shutdown

/-! Operations on the pool -/

theorem coe_snoc (slots : List Nat) (slot : Nat) :
    ((slots ++ [slot] : List Nat) : Multiset Nat) = slot ::ₘ (slots : Multiset Nat) := by
  rw [← Multiset.coe_add, Multiset.add_comm, Multiset.coe_singleton, Multiset.singleton_add]

/-- An operation of the handler that is a run of its pool. In SHUTDOWN it takes nothing. -/
def Trades (h g : DoIpServerConnectionHandler) : Prop :=
  ∃ ops, Writes Call.poolOp h.calls g.calls ops ∧ Pool.system.Run h.sendJobs ops g.sendJobs ∧
    (h.state = .shutdown → g.state = .shutdown ∧ ∀ slot, .take slot ∉ ops)

namespace Trades

variable {h g k : DoIpServerConnectionHandler}

/-- An operation that leaves the pool alone. -/
theorem of_eq (hp : g.sendJobs = h.sendJobs) (hc : Writes Call.poolOp h.calls g.calls [])
    (hs : h.state = .shutdown → g.state = .shutdown) : Trades h g := by
  refine ⟨[], hc, ?_, fun hs' => ⟨hs hs', fun _ => List.not_mem_nil⟩⟩
  rw [hp]
  exact .nil _

theorem refl (h : DoIpServerConnectionHandler) : Trades h h := of_eq rfl (.refl _) id

theorem trans (hg : Trades h g) (hk : Trades g k) : Trades h k := by
  obtain ⟨ops, hcalls, hrun, hdown⟩ := hg
  obtain ⟨ops', hcalls', hrun', hdown'⟩ := hk
  refine ⟨ops ++ ops', hcalls.trans hcalls', hrun.append hrun', ?_⟩
  intro hs
  obtain ⟨hs', hnone⟩ := hdown hs
  obtain ⟨hs'', hnone'⟩ := hdown' hs'
  refine ⟨hs'', fun slot hm => ?_⟩
  rcases List.mem_append.mp hm with hm | hm
  · exact hnone slot hm
  · exact hnone' slot hm

theorem log (h : DoIpServerConnectionHandler) {cs : List Call} (hcs : ∀ c ∈ cs, c.poolOp = none) :
    Trades h (h.log cs) := of_eq rfl (.append_of_forall hcs _) id

theorem setTimer (h : DoIpServerConnectionHandler) (t : UInt32) : Trades h (h.setTimer t) :=
  of_eq rfl (.append _ _) id

theorem close (h : DoIpServerConnectionHandler) : Trades h h.close := by
  refine of_eq ?_ (h.writes_close rfl (fun _ => rfl) rfl rfl rfl) fun _ => h.close_state
  by_cases hs : h.state = .shutdown
  · rw [h.close_of_shutdown hs]
  · rw [h.close_of_ne_shutdown hs]
    rfl

/-- A job that is taken for a message is out if the connection has accepted it, and given back
otherwise. -/
theorem of_sent {slot : Nat} {free : List Nat} {job : SendJob} (outcome : SendOutcome)
    (hs : h.state ≠ .shutdown) (hp : h.sendJobPool = slot :: free) (hj : job.slot = slot)
    (hpool : g.sendJobPool = if outcome = .accepted then free else free ++ [slot])
    (hjobs : g.jobsInFlight =
      if outcome = .accepted then h.jobsInFlight ++ [job] else h.jobsInFlight)
    (hcalls : Writes Call.poolOp h.calls g.calls
      (.take slot :: if outcome = .accepted then [] else [.give slot])) : Trades h g := by
  refine ⟨_, hcalls, ?_, fun hs' => absurd hs' hs⟩
  have htake : Pool.system.enabled h.sendJobs (.take slot) := by
    rw [Pool.enabled_take, sendJobs, hp]
    exact Multiset.mem_coe.mpr List.mem_cons_self
  have hout : Pool.system.step h.sendJobs (.take slot) =
      ⟨free, slot ::ₘ (h.jobsInFlight.map SendJob.slot : List Nat)⟩ := by
    rw [Pool.step_take, sendJobs, hp, ← Multiset.cons_coe, Multiset.erase_cons_head]
  by_cases ha : outcome = .accepted
  · rw [if_pos ha] at hpool hjobs ⊢
    have hg : g.sendJobs = Pool.system.step h.sendJobs (.take slot) := by
      rw [hout, sendJobs, hpool, hjobs, List.map_append, List.map_singleton, hj, coe_snoc]
    rw [hg]
    exact .single htake
  · rw [if_neg ha] at hpool hjobs ⊢
    have hgive : Pool.system.enabled (Pool.system.step h.sendJobs (.take slot)) (.give slot) := by
      rw [hout, Pool.enabled_give]
      exact Multiset.mem_cons_self slot (h.jobsInFlight.map SendJob.slot : List Nat)
    have hg : g.sendJobs =
        Pool.system.step (Pool.system.step h.sendJobs (.take slot)) (.give slot) := by
      rw [hout, Pool.step_give, sendJobs, hpool, hjobs, coe_snoc, Multiset.erase_cons_head]
    rw [hg]
    exact .cons htake (.single hgive)

theorem sent {slot : Nat} {free : List Nat} (hs : h.state ≠ .shutdown)
    (hp : h.sendJobPool = slot :: free) (payloadType : PayloadType) (payload : List UInt8)
    (closeAfterSend : Bool) (outcome : SendOutcome) :
    Trades h (h.sent slot free payloadType payload closeAfterSend outcome) := by
  refine of_sent outcome hs hp rfl rfl rfl ?_
  cases outcome <;> exact .append _ _

theorem admits : Admits Trades := by
  refine .of_trans refl trans ?_ (fun _ _ => of_eq rfl (.refl _) id) close sent
  intro h cs hcs
  exact log h (Call.forall_of_isExchange (P := fun c => c.poolOp = none) rfl (fun _ _ _ => rfl) rfl
    (fun _ _ _ => rfl) (fun _ _ _ _ => rfl) hcs)

theorem startAliveCheck (h : DoIpServerConnectionHandler) (outcome : SendOutcome) :
    Trades h (h.startAliveCheck outcome) := by
  obtain ⟨-, heq⟩ | ⟨-, -, heq⟩ | ⟨hs, slot, free, hp, heq⟩ := h.startAliveCheck_cases outcome
  · rw [heq]
    split
    · exact log h (List.forall_mem_singleton.mpr rfl)
    · exact refl h
  · rw [heq]
    have hup : Trades h (h.setAliveCheckPending true) := of_eq rfl (.refl _) id
    exact hup.trans (close _)
  · rw [heq]
    have hne : h.state ≠ .shutdown := by
      rw [hs]
      decide
    refine of_sent outcome hne hp rfl rfl rfl ?_
    cases outcome <;> exact .append _ _

/-- A job that is in flight comes back to the pool. -/
theorem releaseSendJob {job : SendJob} (hj : job ∈ h.jobsInFlight) (success : Bool) :
    Trades h ((h.setJobsInFlight (h.jobsInFlight.erase job)).releaseSendJob job success) := by
  refine ⟨[.give job.slot], .append _ [Call.poolRelease job.slot], ?_, ?_⟩
  · have hgive : Pool.system.enabled h.sendJobs (.give job.slot) :=
      Pool.enabled_give.mpr (Multiset.mem_coe.mpr (List.mem_map_of_mem hj))
    have hback : ((h.setJobsInFlight (h.jobsInFlight.erase job)).releaseSendJob job
        success).sendJobs = Pool.system.step h.sendJobs (.give job.slot) := by
      have hjobs : (((h.jobsInFlight.erase job).map SendJob.slot : List Nat) : Multiset Nat) =
          ((h.jobsInFlight.map SendJob.slot : List Nat) : Multiset Nat).erase job.slot := by
        rw [← Multiset.map_coe, ← Multiset.coe_erase, Multiset.map_erase_of_mem _ _ hj,
          Multiset.map_coe]
      exact congrArg₂ Pool.mk (coe_snoc h.sendJobPool job.slot) hjobs
    rw [hback]
    exact .single hgive
  · intro hs
    refine ⟨hs, fun slot hm => ?_⟩
    cases List.mem_singleton.mp hm

/-- An activation goes on whatever state its response has left. -/
theorem activate (hs : h.state ≠ .shutdown) (hg : Trades h g) : Trades h g.activate := by
  obtain ⟨ops, hcalls, hrun, -⟩ := hg
  have hactivate : Writes Call.poolOp g.calls g.activate.calls [] :=
    g.writes_activate rfl (fun _ => rfl) (fun _ => rfl) rfl
  refine ⟨ops, ?_, hrun, fun hs' => absurd hs' hs⟩
  rw [← List.append_nil ops]
  exact hcalls.trans hactivate

theorem routingActivationCompleted (h : DoIpServerConnectionHandler) (success : Bool)
    (responseCode : UInt8) (outcome : SendOutcome) :
    Trades h (h.routingActivationCompleted success responseCode outcome) := by
  by_cases hs : h.state = .activating
  · have hne : h.state ≠ .shutdown := by
      rw [hs]
      decide
    rw [h.routingActivationCompleted_of_activating hs]
    split
    · exact activate hne (admits.sendAllocated h _ _ _ _)
    · exact admits.sendAllocated h _ _ _ _
  · rw [h.routingActivationCompleted_of_ne_activating hs]
    exact refl h

theorem handleRoutingActivationRequest (h : DoIpServerConnectionHandler)
    (answers : ActivationAnswers) : Trades h (h.handleRoutingActivationRequest answers) := by
  rw [DoIpServerConnectionHandler.handleRoutingActivationRequest]
  have hask : Trades h (h.log [.ownerHandleRoutingActivationRequest]) :=
    log h (List.forall_mem_singleton.mpr rfl)
  split
  · exact hask.trans (routingActivationCompleted _ _ _ _)
  · exact hask

/-- The step of an activation, which does not start in SHUTDOWN. -/
theorem step_of_activates {U : Upstream} {e : Event} (ha : Activates h e) :
    Trades h (e.step U h) := by
  cases e with
  | routingActivationRequestReceived payload answers =>
    obtain ⟨hc, hin⟩ := ha
    let g := h.setPayloadRequests (h.payloadRequests.erase
      ⟨.routingActivationRequestReceived, payload.length⟩)
    have hg : g.state = .inactive := hin
    have hactivating : Trades h (g.activating payload answers.check) := by
      refine of_eq rfl (.append _ [Call.ownerCheckRoutingActivation _ _ _ _]) fun hs => ?_
      rw [hin] at hs
      cases hs
    show Trades h (g.routingActivationRequestReceived U payload answers)
    rw [g.routingActivationRequestReceived_of_inactive U payload hc hg]
    exact (hactivating.trans (handleRoutingActivationRequest _ answers)).trans
      (log _ (List.forall_mem_singleton.mpr rfl))
  | routingActivationCompleted success responseCode send =>
    exact routingActivationCompleted h success responseCode send
  | _ => exact ha.elim

/-- What a step does first: a released job comes back to the pool. -/
theorem prepared (U : Upstream) {e : Event} (he : e.enabled h) : Trades h (e.prepared U h) := by
  cases e with
  | headerReceived header answers =>
    rw [Event.prepared, restarted]
    split
    · split
      · exact setTimer h _
      · exact refl h
    · exact refl h
  | aliveCheckResponseReceived payload =>
    rw [Event.prepared, answered]
    split
    · exact of_eq rfl (.append _ [Call.ownerAliveCheckResponseReceived _]) id
    · exact of_eq rfl (.refl _) id
  | timerExpired => exact of_eq rfl (.refl _) id
  | jobReleased job success => exact releaseSendJob he success
  | shutdown => exact of_eq rfl (.append _ [Call.timerCancel]) id
  | _ => exact refl h

end Trades

/-- Every step of the handler is a run of its pool. -/
theorem trades_step (U : Upstream) {h : DoIpServerConnectionHandler} {e : Event}
    (he : e.enabled h) : Trades h (e.step U h) := by
  by_cases ha : Activates h e
  · exact .step_of_activates ha
  · by_cases hs : ∃ send, e = .startAliveCheck send
    · obtain ⟨send, rfl⟩ := hs
      exact .startAliveCheck h send
    · exact (Trades.prepared U he).trans (Trades.admits.step ha hs)

/-! The life of a handler -/

/-- Everything that can happen to a handler is a run of its pool, in which nothing is taken in
SHUTDOWN. -/
theorem exists_run_of_life (U : Upstream) (c : Construction) {h : DoIpServerConnectionHandler}
    {l : Life} (hl : (lifetime U c).enabled h l) :
    ∃ ops, Writes Call.poolOp h.calls ((lifetime U c).step h l).calls ops ∧
      Pool.system.Run h.sendJobs ops ((lifetime U c).step h l).sendJobs ∧
      (h.state = .shutdown → ∀ slot, .take slot ∉ ops) := by
  cases l with
  | resume sourceAddress =>
    refine ⟨[], ?_, ?_, fun _ _ => List.not_mem_nil⟩
    · show Writes Call.poolOp h.calls (h.resume sourceAddress).2.calls []
      rw [resume]
      split <;> exact .refl _
    · show Pool.system.Run h.sendJobs [] (h.resume sourceAddress).2.sendJobs
      rw [resume]
      split <;> exact .nil _
  | start check =>
    refine ⟨[], ?_, ?_, fun _ _ => List.not_mem_nil⟩
    · exact h.writes_start rfl (fun _ => rfl) rfl (fun _ => rfl) (fun _ _ _ _ => rfl)
        (fun _ => rfl) rfl check
    · have hsame : (h.start check).sendJobs = h.sendJobs := by
        rw [sendJobs, start_sendJobPool, start_jobsInFlight]
        rfl
      show Pool.system.Run h.sendJobs [] (h.start check).sendJobs
      rw [hsame]
      exact .nil _
  | event e =>
    obtain ⟨ops, hcalls, hrun, hdown⟩ := trades_step U hl
    exact ⟨ops, hcalls, hrun, fun hs => (hdown hs).2⟩

/-- The log of a life replays as a run of the pool, from all jobs free to what is in flight. -/
theorem replay_of_run (U : Upstream) (c : Construction) {ls : List Life}
    {h : DoIpServerConnectionHandler} (hr : (lifetime U c).Run (construct U c) ls h) :
    Pool.system.Run ⟨List.range c.sendJobs, 0⟩ (h.calls.filterMap Call.poolOp) h.sendJobs := by
  refine hr.preserves (I := fun g => Pool.system.Run ⟨List.range c.sendJobs, 0⟩
    (g.calls.filterMap Call.poolOp) g.sendJobs) ?_ (.nil _)
  intro g l hg hl
  obtain ⟨ops, hcalls, hrun, -⟩ := exists_run_of_life U c hl
  rw [hcalls.filterMap_eq]
  exact hg.append hrun

/-- An allocation that a step makes is an operation on the pool. -/
theorem take_mem_of_poolAllocate {h g : DoIpServerConnectionHandler} {ops : List (PoolOp Nat)}
    (hcalls : Writes Call.poolOp h.calls g.calls ops) {slot : Nat}
    (hm : .poolAllocate slot ∈ g.calls.drop h.calls.length) : .take slot ∈ ops := by
  rw [← hcalls.filterMap_drop]
  exact List.mem_filterMap.mpr ⟨_, hm, rfl⟩

/-- Without a free job, and in SHUTDOWN, nothing is allocated. -/
theorem allocateSendJob_of_none (h : DoIpServerConnectionHandler) (payloadType : PayloadType)
    (payloadLength : Nat) (closeAfterSend : Bool)
    (hnone : h.state = .shutdown ∨ h.sendJobPool = []) :
    (h.allocateSendJob payloadType payloadLength closeAfterSend).1 = none ∧
      (h.allocateSendJob payloadType payloadLength closeAfterSend).2.calls = h.calls := by
  by_cases hs : h.state = .shutdown
  · rw [allocateSendJob, if_pos hs]
    exact ⟨rfl, rfl⟩
  · rw [h.allocateSendJob_of_no_job hs (hnone.resolve_left hs)]
    exact ⟨rfl, rfl⟩

/-- Send jobs are neither leaked nor released twice: at any time in the life of a handler, the jobs
that are out of the pool are those in flight, each job has been given back once for each time it was
taken or is out, and no job is ever taken in SHUTDOWN or from an empty pool. -/
theorem jobsAccounted_of_run (U : Upstream) (c : Construction) {ls : List Life}
    {h : DoIpServerConnectionHandler} (hr : (lifetime U c).Run (construct U c) ls h) :
    JobsAccounted U c h ∧ ∀ (g : DoIpServerConnectionHandler) payloadType payloadLength
      closeAfterSend, g.state = .shutdown ∨ g.sendJobPool = [] →
        (g.allocateSendJob payloadType payloadLength closeAfterSend).1 = none ∧
          (g.allocateSendJob payloadType payloadLength closeAfterSend).2.calls = g.calls := by
  have hreplay := replay_of_run U c hr
  refine ⟨⟨?_, hreplay, ?_, ?_, ?_⟩, allocateSendJob_of_none⟩
  · have hall := Pool.all_of_run hreplay
    rw [Pool.all, Pool.all, Multiset.add_zero] at hall
    exact Multiset.coe_eq_coe.mp hall
  · intro slot ops hops
    exact Pool.alternates rfl (Multiset.coe_nodup.mpr List.nodup_range) hreplay slot hops
  · intro slot
    have hcount := Pool.count_of_run hreplay slot
    have htake : ∀ cl : Call, cl.poolOp = some (.take slot) ↔ cl = .poolAllocate slot := by
      intro cl
      cases cl <;> simp [Call.poolOp]
    have hgive : ∀ cl : Call, cl.poolOp = some (.give slot) ↔ cl = .poolRelease slot := by
      intro cl
      cases cl <;> simp [Call.poolOp]
    rw [Multiset.count_zero, Nat.zero_add, Writes.count_filterMap htake,
      Writes.count_filterMap hgive] at hcount
    rw [hcount, Nat.add_comm, sendJobs, Multiset.coe_count]
  · intro l hl slot hm hs
    obtain ⟨ops, hcalls, -, hdown⟩ := exists_run_of_life U c hl
    exact hdown hs slot (take_mem_of_poolAllocate hcalls hm)

/-- A NACK that the connection takes, and releases only after the handler has been closed: the
release closes again, and brings the job back. -/
def releasedAfterClose : List Life :=
  [.start ⟨.continue, 0x10, id⟩, .event (.sendNack 0x00 true .accepted), .event .close,
    .event (.jobReleased ⟨0, 2, .negativeAck, [0x00], .releaseSendJobAndClose⟩ true)]

theorem jobsAccounted_releasedAfterClose :
    JobsAccounted .iso13400 (.withSendJobs 1)
        (releasedAfterClose.foldl (lifetime .iso13400 (.withSendJobs 1)).step
          (construct .iso13400 (.withSendJobs 1))) ∧
      ∀ (g : DoIpServerConnectionHandler) payloadType payloadLength closeAfterSend,
        g.state = .shutdown ∨ g.sendJobPool = [] →
          (g.allocateSendJob payloadType payloadLength closeAfterSend).1 = none ∧
            (g.allocateSendJob payloadType payloadLength closeAfterSend).2.calls = g.calls :=
  jobsAccounted_of_run .iso13400 (.withSendJobs 1) (.of_enabledAll (by decide))

end SovdDemo.Doip

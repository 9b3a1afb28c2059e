import SovdDemo.Demo.Calls
import SovdDemo.Demo.ListedFaults

/-!
# Reading over the REST interface

Calls that read are seen by nobody else: without them, the ECU and the histories of the poller are
what they are with them. So what is true after a poll or a clearing stays true while clients read.

## Main definitions

- `Event.withoutReads` — an event, without the calls that only read
- `Alike` — the same ECU and the same histories

## Main results

- `Alike.step` — from there on, the same happens
- `reads_invisible_of_run` — leaving out the reads of a run
-/

namespace SovdDemo.Demo

open Foundations Uds DtcSimulator Cda

variable {F : Framework} {env : PyEnv} {catalog : Catalog}

/-! What the reads leave behind -/

/-- What the ECU does by itself while an attempt is made. -/
def Attempt.meanwhile (env : PyEnv) (catalog : Catalog) (a : Attempt) : List Operation :=
  (a.transmissions env catalog).flatMap fun x => x.2.before

/-- What is left of an event if no call is made that only reads. -/
def Event.withoutReads (env : PyEnv) (catalog : Catalog) : Event → List Event
  | .simulate op => [.simulate op]
  | .attempt a =>
    match a.activity with
    | .poll _ | .call _ (.clearFaults _) => [.attempt a]
    | .call _ (.readFaults _) | .call _ (.readFaultDetail _) | .call _ (.readData _) =>
      (a.meanwhile env catalog).map .simulate

/-- The ECU and the histories are the same. -/
structure Alike (c c' : State) : Prop where
  sim : c'.sim = c.sim
  sensorHistory : c'.world.sensorHistory = c.world.sensorHistory
  faultHistory : c'.world.faultHistory = c.world.faultHistory

/-- What a round of the poller depends on. -/
structure SameView (w w' : World) : Prop where
  sends : w'.sends = w.sends
  inbox : w'.inbox = w.inbox
  sensorHistory : w'.sensorHistory = w.sensorHistory
  faultHistory : w'.faultHistory = w.faultHistory

namespace SameView

variable {w w' : World}

theorem exchanged (h : SameView w w') (request : List UInt8) :
    SameView (w.exchanged request) (w'.exchanged request) := by
  rw [World.exchanged, World.exchanged, h.sends, h.inbox]
  exact ⟨rfl, rfl, h.sensorHistory, h.faultHistory⟩

theorem recorded (h : SameView w w') (didCatalog : Dict DidInfo) (ts : Int) (poll : Poll)
    (resp : List UInt8) :
    SameView (w.recorded didCatalog ts poll resp) (w'.recorded didCatalog ts poll resp) := by
  cases poll with
  | did didStr =>
    dsimp only [World.recorded]
    split
    · unfold World.recordSample
      refine ⟨h.sends, h.inbox, ?_, h.faultHistory⟩
      dsimp only
      rw [h.sensorHistory]
    · exact h
  | faults =>
    dsimp only [World.recorded]
    split
    · unfold World.recordSnapshot
      exact ⟨h.sends, h.inbox, h.sensorHistory,
        congrArg (BoundedDeque.append · (ts, _)) h.faultHistory⟩
    · exact h

theorem polled (h : SameView w w') (didCatalog : Dict DidInfo) (ts : Int) (poll : Poll) :
    SameView (w.polled didCatalog ts poll) (w'.polled didCatalog ts poll) := by
  have hreply : sendAndReceive w' = sendAndReceive w := by
    rw [sendAndReceive, sendAndReceive, h.sends, h.inbox]
  rw [World.polled, World.polled, hreply]
  split
  · exact (h.exchanged _).recorded didCatalog ts poll _
  · exact h.exchanged _

theorem pollAll (h : SameView w w') (didCatalog : Dict DidInfo) (ts : Int) (ps : List Poll) :
    SameView (w.pollAll didCatalog ts ps) (w'.pollAll didCatalog ts ps) := by
  induction ps generalizing w w' with
  | nil => exact h
  | cons poll ps ih => exact ih (h.polled didCatalog ts poll)

end SameView

/-! One event -/

/-- Only clearings send requests that clear anything. -/
theorem clearings_of_mem_transmissions {a : Attempt}
    (hread : ∀ componentId group, a.activity ≠ .call componentId (.clearFaults group)) :
    ∀ x ∈ a.transmissions env catalog, clearings F x.1 = [] := by
  rintro ⟨request, fate⟩ hx
  have hmem : request ∈ a.requests env catalog := (List.of_mem_zip hx).1
  cases ha : a.activity with
  | poll ts =>
    rw [Attempt.requests, ha] at hmem
    dsimp only at hmem
    split at hmem
    · split at hmem
      · obtain ⟨poll, -, rfl⟩ := List.mem_map.mp hmem
        exact clearings_poll F poll
      · exact absurd hmem List.not_mem_nil
    · exact absurd hmem List.not_mem_nil
  | call componentId call =>
    obtain hnone | ⟨n, -, hone⟩ := requests_of_call env catalog ha
    · rw [hnone] at hmem
      exact absurd hmem List.not_mem_nil
    · rw [hone] at hmem
      rw [List.mem_singleton.mp hmem]
      refine clearings_of_read (fun group hclear => hread componentId group ?_) n
      rw [ha, hclear]

/-- Only the ECU's own operations are left of requests that clear nothing. -/
theorem foldl_eventsOf_of_reads {transmissions : List (List UInt8 × Fate Operation PyException)}
    (hreads : ∀ x ∈ transmissions, clearings F x.1 = []) (sim : DtcSimulator) :
    (eventsOf transmissions).foldl (ecu F).step sim =
      (transmissions.flatMap fun x => x.2.before).foldl DtcSimulator.apply sim := by
  induction transmissions generalizing sim with
  | nil => rfl
  | cons x rest ih =>
    obtain ⟨request, fate⟩ := x
    obtain ⟨hread, hrest⟩ := List.forall_mem_cons.mp hreads
    have hfate : (fate.events request).foldl (ecu F).step sim =
        fate.before.foldl DtcSimulator.apply sim := by
      rw [foldl_events]
      split
      · exact (serve_state F _ request).trans (by rw [hread]; rfl)
      · rfl
    show (fate.events request ++ eventsOf rest).foldl (ecu F).step sim = _
    rw [List.foldl_append, hfate, ih hrest, List.flatMap_cons, List.foldl_append]

/-- The ECU on its own. -/
theorem run_simulate (ops : List Operation) (c : State) :
    (demo F env catalog).Run c (ops.map .simulate)
      { c with sim := ops.foldl DtcSimulator.apply c.sim } := by
  induction ops generalizing c with
  | nil => exact .nil c
  | cons op ops ih => exact .cons trivial (ih _)

namespace Alike

variable {c c' : State}

theorem refl (c : State) : Alike c c := ⟨rfl, rfl, rfl⟩

/-- From there on, the same happens. -/
theorem step (h : Alike c c') (e : Event) :
    Alike ((demo F env catalog).step c e) ((demo F env catalog).step c' e) := by
  cases e with
  | simulate op => exact ⟨congrArg (DtcSimulator.apply · op) h.sim, h.sensorHistory, h.faultHistory⟩
  | attempt a =>
    have hsim : ((demo F env catalog).step c' (.attempt a)).sim =
        ((demo F env catalog).step c (.attempt a)).sim := by
      rw [step_attempt_sim, step_attempt_sim, h.sim]
    cases ha : a.activity with
    | call componentId call =>
      obtain ⟨hs, hf⟩ := histories_step_call F env catalog c ha
      obtain ⟨hs', hf'⟩ := histories_step_call F env catalog c' ha
      exact ⟨hsim, hs'.trans (h.sensorHistory.trans hs.symm),
        hf'.trans (h.faultHistory.trans hf.symm)⟩
    | poll ts =>
      have hview : SameView (c.world.linked (a.link F env catalog c.sim))
          (c'.world.linked (a.link F env catalog c'.sim)) := by
        rw [h.sim]
        exact ⟨rfl, rfl, h.sensorHistory, h.faultHistory⟩
      have hworld : SameView ((demo F env catalog).step c (.attempt a)).world
          ((demo F env catalog).step c' (.attempt a)).world := by
        show SameView (World.perform env catalog (c.world.linked _) a.activity)
          (World.perform env catalog (c'.world.linked _) a.activity)
        rw [ha, perform_poll, perform_poll, h.sim]
        rw [h.sim] at hview
        split
        · exact hview
        · split
          · exact hview
          · exact hview.pollAll _ ts polls
      exact ⟨hsim, hworld.sensorHistory, hworld.faultHistory⟩

/-- A call that reads leaves what the ECU has done meanwhile. -/
theorem step_read (h : Alike c c') {a : Attempt} {componentId : String} {call : Call}
    (ha : a.activity = .call componentId call) (hread : ∀ group, call ≠ .clearFaults group) :
    ∃ t', (demo F env catalog).Run c' ((a.meanwhile env catalog).map .simulate) t' ∧
      Alike ((demo F env catalog).step c (.attempt a)) t' := by
  have hreads : ∀ x ∈ a.transmissions env catalog, clearings F x.1 = [] := by
    refine clearings_of_mem_transmissions fun componentId' group hclear => ?_
    rw [ha] at hclear
    exact hread group (Activity.call.inj hclear).2
  obtain ⟨hs, hf⟩ := histories_step_call F env catalog c ha
  refine ⟨_, run_simulate _ c', ?_, h.sensorHistory.trans hs.symm, h.faultHistory.trans hf.symm⟩
  rw [step_attempt_sim, foldl_eventsOf_of_reads hreads, ← h.sim]
  rfl

/-- What is left of an event does the same as the event. -/
theorem exists_run_withoutReads (h : Alike c c') (e : Event) :
    ∃ t', (demo F env catalog).Run c' (e.withoutReads env catalog) t' ∧
      Alike ((demo F env catalog).step c e) t' := by
  cases e with
  | simulate op => exact ⟨_, .single trivial, h.step _⟩
  | attempt a =>
    rw [Event.withoutReads]
    split
    · exact ⟨_, .single trivial, h.step _⟩
    · exact ⟨_, .single trivial, h.step _⟩
    · exact h.step_read ‹_› fun _ => Call.noConfusion
    · exact h.step_read ‹_› fun _ => Call.noConfusion
    · exact h.step_read ‹_› fun _ => Call.noConfusion

/-- Reads alone change nothing. -/
theorem of_reads {es : List Event} (hes : ∀ e ∈ es, e.withoutReads env catalog = [])
    (hr : (demo F env catalog).Run c es c') : Alike c' c := by
  obtain ⟨t, ht, hsame⟩ := hr.exists_matching (R := Alike)
    (fun h _ => h.exists_run_withoutReads _) (.refl c)
  rw [List.flatMap_eq_nil_iff.mpr hes] at ht
  cases ht
  exact hsame

end Alike

/-- Nobody sees the reads of a run: if they are not made, the ECU ends up in the same state, and the
histories and so all that the dashboard shows are the same. -/
theorem reads_invisible_of_run {c₀ c : State} {es : List Event}
    (hr : (demo F env catalog).Run c₀ es c) :
    ∃ c', (demo F env catalog).Run c₀ (es.flatMap (Event.withoutReads env catalog)) c' ∧
      Alike c c' :=
  hr.exists_matching (fun h _ => h.exists_run_withoutReads _) (.refl c₀)

/-- The engine overheats and a poll sees it. A client reads its temperature, and the ECU goes on
before it serves the request. -/
def readAfterPoll : List Event :=
  [.simulate (.setEngineTemp 130), .simulate .step, .attempt (.answered (.poll 1000)),
    .attempt ⟨none, none, [{ atOnce with before := [.step] }],
      .call "openbsw-ecu" (.readData "CF10")⟩]

theorem reads_invisible_readAfterPoll :
    ∃ c', (demo .jobsOnly .blank shippedCatalog).Run .start
        (readAfterPoll.flatMap (Event.withoutReads .blank shippedCatalog)) c' ∧
      Alike (readAfterPoll.foldl (demo .jobsOnly .blank shippedCatalog).step .start) c' :=
  reads_invisible_of_run (.of_enabledAll ⟨trivial, trivial, trivial, trivial, trivial⟩)

end SovdDemo.Demo

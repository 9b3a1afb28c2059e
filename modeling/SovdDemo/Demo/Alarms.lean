import SovdDemo.Cda.SensorSeries
import SovdDemo.Demo.ReadBack
import SovdDemo.Uds.StepEffect

/-!
# Sensors and faults on the dashboard

The rows for the sensors and those for the faults come from different requests of a poll. If the ECU
is left alone during a poll that is answered in full, all of them show one state of the ECU; so
after a step of the simulator a value that is out of range is shown together with its fault.

## Main definitions

- `Attempt.Undisturbed` — a poll that is answered in full, with the ECU left alone
- `Panels` — the rows show one state of the ECU
- `Event.LeavesEcu` — the ECU stays as it is
- `Alarm` — a sensor and the fault that goes with it

## Main results

- `panels_of_undisturbed` — what the dashboard shows after such a poll
- `alarms_of_step` — and how its rows fit together
-/

namespace SovdDemo.Demo

open Foundations Uds DtcSimulator Cda

variable {F : Framework} {env : PyEnv} {catalog : Catalog}

/-! A poll that is answered in full -/

variable (env catalog) in
/-- A poll at the time `ts` that is answered in full, with the ECU left alone. -/
structure Attempt.Undisturbed (a : Attempt) (ts : Int) : Prop where
  activity : a.activity = .poll ts
  connected : ∃ comp, catalog.components.get pollComponent = some comp ∧ a.connects env comp = true
  length : polls.length ≤ a.fates.length
  fates : ∀ fate ∈ a.fates, fate.Undisturbed

namespace Attempt.Undisturbed

variable {a : Attempt} {ts : Int} (ha : a.Undisturbed env catalog ts)

include ha

theorem transmissions_eq : a.transmissions env catalog = (polls.map Poll.request).zip a.fates := by
  obtain ⟨comp, hcomp, hconnects⟩ := ha.connected
  exact transmissions_of_poll ha.activity hcomp hconnects

theorem forall_mem_transmissions (sim : DtcSimulator) : ∀ x ∈ a.transmissions env catalog,
    x.2.Undisturbed ∧ ((ecu F).serve sim x.1).2 = sim := by
  rw [ha.transmissions_eq]
  rintro ⟨request, fate⟩ hx
  obtain ⟨hrequest, hfate⟩ := List.of_mem_zip hx
  obtain ⟨poll, -, rfl⟩ := List.mem_map.mp hrequest
  exact ⟨ha.fates fate hfate, (serve_state F sim poll.request).trans (by rw [clearings_poll]; rfl)⟩

/-- The ECU is left as it is. -/
theorem step_sim (c : State) : ((demo F env catalog).step c (.attempt a)).sim = c.sim := by
  rw [step_attempt_sim]
  exact foldl_eventsOf_of_undisturbed (ha.forall_mem_transmissions c.sim)

/-- Every request of the round is answered in the same state. -/
theorem returned_eq (sim : DtcSimulator) :
    (ecu F).returned sim (a.transmissions env catalog) =
      polls.map fun poll => (poll.request, sim) := by
  have hrequests : (a.transmissions env catalog).map Prod.fst = polls.map Poll.request := by
    rw [ha.transmissions_eq]
    exact List.map_fst_zip (by rw [List.length_map]; exact ha.length)
  have hmap := congrArg (List.map fun request => (request, sim)) hrequests
  rw [List.map_map, List.map_map] at hmap
  exact (returned_of_undisturbed (ha.forall_mem_transmissions sim)).trans hmap

/-- What the ECU reports in the round. -/
theorem reported_eq {β : Type} (f : DtcSimulator → β) {poll : Poll} (hp : poll ∈ polls)
    (c : State) : reported F env catalog f poll.request c (.attempt a) = [(ts, f c.sim)] := by
  rw [reported, ha.activity]
  dsimp only
  rw [showing, ha.returned_eq]
  simp only [polls, pollDids, List.mem_append, List.map_cons, List.map_nil, List.mem_cons,
    List.not_mem_nil, or_false] at hp
  rcases hp with (rfl | rfl | rfl) | rfl <;> rfl

/-- The last element of a history after the round. -/
theorem getLast?_items {γ : Type} (S : Series (pollDidCatalog catalog) (Int × γ))
    (hp : S.poll ∈ polls) {f : DtcSimulator → γ}
    (hentry : ∀ sim, (ecuSystem F).Reachable sim → ∀ ts,
      (ecuServe F sim S.poll.request).1.bind (S.entry ts) = some (ts, f sim))
    {c : State} (hc : (demo F env catalog).Reachable c) :
    (S.items ((demo F env catalog).step c (.attempt a)).world).getLast? = some (ts, f c.sim) := by
  have hprompt : ∀ fate ∈ a.fates, fate.Prompt := fun fate hfate _ =>
    ⟨(ha.fates fate hfate).send, (ha.fates fate hfate).receive⟩
  have hadded := addedBy_of_prompt S hp hentry hc hprompt
  rw [ha.reported_eq f hp] at hadded
  have hitems : S.items ((stubCda env catalog).step c.world
      ⟨a.link F env catalog c.sim, a.activity⟩) = _ := S.items_step _ _
  rw [hadded, show maxHistory = 299 + 1 from rfl, List.rtake_concat_succ] at hitems
  exact (congrArg List.getLast? hitems).trans List.getLast?_concat

end Attempt.Undisturbed

/-- A series that is not empty is a history. -/
theorem exists_history_of_getLast? {w : World} {key : String} {sample : Sample}
    (h : (w.samples key).items.getLast? = some sample) :
    ∃ hist, (key, hist) ∈ w.sensorHistory ∧ w.samples key = hist := by
  cases hget : w.sensorHistory.get key with
  | none =>
    rw [World.samples, hget] at h
    cases h
  | some hist =>
    obtain ⟨before, after, hsplit, -⟩ := List.lookup_eq_some_iff.mp hget
    refine ⟨hist, ?_, ?_⟩
    · rw [hsplit]
      exact List.mem_append_right _ List.mem_cons_self
    · rw [World.samples, hget]
      rfl

/-- The rows for the sensors and those for the faults show the state `sim`. -/
structure Panels (catalog : Catalog) (ts : Int) (sim : DtcSimulator) (w : World) : Prop where
  sensors : ∀ sensor : SimulatedSensor, pollFormat catalog sensor.didStr = "int32" → ∀ row,
    row ∈ sensorsCurrent catalog w ∧ row.did = pollHex sensor.didStr ↔
      row = currentSensor (pollDidCatalog catalog) (pollHex sensor.didStr)
        (ts, sensorValue sensor sim)
  faults : faultsCurrent catalog w = (sim.dtcStore.selected 0xFF).map fun d =>
    currentFault (pollDtcCatalog catalog) ts (dtcHex d.dtcNumber.toNat) d.statusByte

theorem panels_of_undisturbed (hF : F.Serves) {c : State} (hc : (demo F env catalog).Reachable c)
    {a : Attempt} {ts : Int} (ha : a.Undisturbed env catalog ts) :
    Panels catalog ts c.sim ((demo F env catalog).step c (.attempt a)).world where
  sensors := by
    intro sensor hformat row
    have hpolled : sensor.didStr ∈ pollDids := (format_of_sensor sensor).2.2
    have hlast := ha.getLast?_items (sensorSeries (pollDidCatalog catalog) hpolled)
      (List.mem_append_left _ (List.mem_map_of_mem hpolled))
      (fun _ hreach ts => sensorSeries_entry hF hreach hformat hpolled ts) hc
    change (World.samples _ (pollHex sensor.didStr)).items.getLast? = _ at hlast
    have hcda := (refinesStubCda F env catalog).reachable (hc.step (e := .attempt a) trivial)
    obtain ⟨hist, hmem, hsamples⟩ := exists_history_of_getLast? hlast
    rw [hsamples] at hlast
    rw [mem_sensorsCurrent_iff (sensorKeys_of_reachable hcda) hmem, hlast]
    exact ⟨fun ⟨_, hsample, hrow⟩ => (Option.some.inj hsample ▸ hrow).symm,
      fun hrow => ⟨_, rfl, hrow.symm⟩⟩
  faults := by
    have hlast := ha.getLast?_items (faultSeries (pollDidCatalog catalog))
      (List.mem_append_right _ List.mem_cons_self)
      (fun _ hreach ts => faultSeries_entry hF hreach ts) hc
    change (World.faultHistory _).items.getLast? = _ at hlast
    rw [faultsCurrent, hlast]
    exact List.map_map

/-! The ECU left alone -/

variable (env catalog) in
/-- The ECU does nothing by itself, and nothing is cleared. -/
def Event.LeavesEcu : Event → Prop
  | .simulate _ => False
  | .attempt a => a.meanwhile env catalog = [] ∧
    ∀ componentId group, a.activity ≠ .call componentId (.clearFaults group)

theorem sim_of_leavesEcu {c c' : State} {es : List Event} (hr : (demo F env catalog).Run c es c')
    (hes : ∀ e ∈ es, e.LeavesEcu env catalog) : c'.sim = c.sim := by
  induction hr with
  | nil c => rfl
  | @cons c c' e es he hr ih =>
    obtain ⟨hleaves, hes⟩ := List.forall_mem_cons.mp hes
    refine (ih hes).trans ?_
    cases e with
    | simulate op => exact hleaves.elim
    | attempt a =>
      obtain ⟨hmeanwhile, hread⟩ := hleaves
      rw [step_attempt_sim, foldl_eventsOf_of_reads (clearings_of_mem_transmissions hread)]
      exact congrArg (List.foldl DtcSimulator.apply c.sim) hmeanwhile

/-- What only reads keep of the panels. -/
theorem Panels.of_reads {ts : Int} {sim : DtcSimulator} {c c' : State} {es : List Event}
    (h : Panels catalog ts sim c.world) (hr : (demo F env catalog).Run c es c')
    (hes : ∀ e ∈ es, e.withoutReads env catalog = []) : Panels catalog ts sim c'.world := by
  have hsame := Alike.of_reads hes hr
  have hsensors : sensorsCurrent catalog c'.world = sensorsCurrent catalog c.world := by
    rw [sensorsCurrent, sensorsCurrent, hsame.sensorHistory]
  have hfaults : faultsCurrent catalog c'.world = faultsCurrent catalog c.world := by
    rw [faultsCurrent, faultsCurrent, hsame.faultHistory]
  constructor
  · rw [hsensors]
    exact h.sensors
  · rw [hfaults]
    exact h.faults

/-! Alarms -/

/-- If a value that is out of range is shown, so is the fault `n`, as failed and confirmed; if one
is shown that is well within, the fault is not shown as failed. -/
def Alarm (catalog : Catalog) (w : World) (sensor : SimulatedSensor) (n : UInt32)
    (fails passes : Int → Prop) : Prop :=
  pollFormat catalog sensor.didStr = "int32" →
    ∀ row ∈ sensorsCurrent catalog w, row.did = pollHex sensor.didStr →
      (fails row.value → ∃ r ∈ faultsCurrent catalog w,
        r.dtc = dtcHex n.toNat ∧ r.testFailed = true ∧ r.confirmedDTC = true) ∧
      (passes row.value → ∀ r ∈ faultsCurrent catalog w, r.dtc = dtcHex n.toNat →
        r.testFailed = false)

theorem mem_of_findDtcByNumber {N : Nat} {s : DiagnosticTroubleCodeStore N} {n : UInt32}
    {d : DiagnosticTroubleCode} (h : s.findDtcByNumber n = some d) :
    d ∈ s.dtcs ∧ d.dtcNumber = n := by
  refine ⟨List.mem_of_find?_eq_some h, ?_⟩
  simpa [DiagnosticTroubleCode.getDtcNumber] using List.find?_some h

theorem alarm_of_panels {ts : Int} {sim : DtcSimulator} {w : World} (h : Panels catalog ts sim w)
    (hs : sim.dtcStore.numbers.Nodup) {sensor : SimulatedSensor} {n : UInt32}
    {fails passes : Int → Prop}
    (hfails : fails (sensorValue sensor sim) →
      ∃ d ∈ sim.dtcStore.findDtcByNumber n, d.LinkRaised)
    (hpasses : passes (sensorValue sensor sim) →
      ∃ d ∈ sim.dtcStore.findDtcByNumber n, ¬ d.Has StatusBit.testFailed) :
    Alarm catalog w sensor n fails passes := by
  intro hformat row hrow hdid
  obtain rfl := (h.sensors sensor hformat row).mp ⟨hrow, hdid⟩
  rw [h.faults]
  constructor
  · intro hv
    obtain ⟨d, hd, hraised⟩ := hfails hv
    obtain ⟨hmem, rfl⟩ := mem_of_findDtcByNumber hd
    have hselected : d ∈ sim.dtcStore.selected 0xFF := by
      refine List.mem_filter.mpr ⟨hmem, ?_⟩
      rw [DiagnosticTroubleCode.matchesStatusMask, bne_iff_ne]
      exact (overlaps_full d.statusByte).mpr (d.statusByte_ne_zero_of_has hraised.failed)
    exact ⟨_, List.mem_map_of_mem hselected, rfl, decide_eq_true hraised.failed,
      decide_eq_true hraised.confirmed⟩
  · intro hv r hr hdtc
    obtain ⟨d, hd, hnot⟩ := hpasses hv
    obtain ⟨hmem, rfl⟩ := mem_of_findDtcByNumber hd
    obtain ⟨d', hd', rfl⟩ := List.mem_map.mp hr
    -- there is one entry of this number
    have hnumber : d'.dtcNumber = d.dtcNumber := UInt32.toNat_inj.mp (dtcHex_injective hdtc)
    obtain rfl := sim.dtcStore.eq_of_dtcNumber_eq hs (List.mem_of_mem_filter hd') hmem hnumber
    exact decide_eq_false hnot

/-- From a step of the simulator on, as long as the ECU is left alone: after a poll that is answered
in full, and while clients do nothing but read, the dashboard shows the state of the ECU, and the
engine temperature and the battery voltage with the faults that go with them. -/
theorem alarms_of_step (hF : F.Serves) {c₀ c c' : State} (hc₀ : (demo F env catalog).Reachable c₀)
    {before : List Event}
    (hbefore : (demo F env catalog).Run ((demo F env catalog).step c₀ (.simulate .step)) before c)
    (hquiet : ∀ e ∈ before, e.LeavesEcu env catalog) {a : Attempt} {ts : Int}
    (ha : a.Undisturbed env catalog ts) {after : List Event}
    (hafter : (demo F env catalog).Run ((demo F env catalog).step c (.attempt a)) after c')
    (hreads : ∀ e ∈ after, e.withoutReads env catalog = []) :
    Panels catalog ts c'.sim c'.world ∧
      Alarm catalog c'.world .engineTemp dtcEngineOvertemp (120 < ·) (· < 100) ∧
      Alarm catalog c'.world .batteryVoltage dtcBatteryVoltageLow (· < 110) (120 < ·) := by
  have hc : (demo F env catalog).Reachable c :=
    (hc₀.step (e := .simulate .step) trivial).run hbefore
  have hsim : c.sim = c₀.sim.step := sim_of_leavesEcu hbefore hquiet
  have hend : c'.sim = c.sim := (Alike.of_reads hreads hafter).sim.symm.trans (ha.step_sim c)
  have hpanels := (panels_of_undisturbed hF hc ha).of_reads hafter hreads
  have hnumbers := numbers_of_ecu ((refinesEcu F env catalog).reachable hc₀)
  have heffect := stepEffect_of_numbers c₀.sim hnumbers
  have hnodup : c.sim.dtcStore.numbers.Nodup := by
    rw [hsim, c₀.sim.numbers_step, hnumbers]
    decide
  rw [hend]
  refine ⟨hpanels, alarm_of_panels hpanels hnodup ?_ ?_, alarm_of_panels hpanels hnodup ?_ ?_⟩
  all_goals rw [hsim]
  · exact fun hv => heffect.engineFails (UInt32.lt_iff_toNat_lt.mpr (Int.ofNat_lt.mp hv))
  · exact fun hv => heffect.enginePasses (UInt32.lt_iff_toNat_lt.mpr (Int.ofNat_lt.mp hv))
  · exact fun hv => heffect.batteryFails (UInt32.lt_iff_toNat_lt.mpr (Int.ofNat_lt.mp hv))
  · exact fun hv => heffect.batteryPasses (UInt32.lt_iff_toNat_lt.mpr (Int.ofNat_lt.mp hv))

theorem undisturbed_answered (ts : Int) :
    (Attempt.answered (.poll ts)).Undisturbed .blank shippedCatalog ts where
  activity := rfl
  connected := ⟨_, rfl, rfl⟩
  length := le_refl 4
  fates := by
    intro fate hfate
    obtain rfl := List.eq_of_mem_replicate hfate
    exact ⟨⟨rfl, rfl, rfl, rfl⟩, rfl⟩

/-- The engine overheats, a poll sees it, and two clients read. -/
theorem alarms_polledAndRead :
    Panels shippedCatalog 1000 polledAndRead.sim polledAndRead.world ∧
      Alarm shippedCatalog polledAndRead.world .engineTemp dtcEngineOvertemp (120 < ·) (· < 100) ∧
      Alarm shippedCatalog polledAndRead.world .batteryVoltage dtcBatteryVoltageLow (· < 110)
        (120 < ·) := by
  let hot : State := (demo .jobsOnly .blank shippedCatalog).step .start
    (.simulate (.setEngineTemp 130))
  have hc₀ : (demo .jobsOnly .blank shippedCatalog).Reachable hot :=
    .step (.init (start_init _ _ _)) trivial
  exact alarms_of_step Framework.serves_jobsOnly hc₀ (.nil overheated)
    (fun _ he => absurd he List.not_mem_nil) (undisturbed_answered 1000) polledAndRead_run
    withoutReads_twoReads

end SovdDemo.Demo

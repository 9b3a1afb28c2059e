import SovdDemo.Demo.Histories
import SovdDemo.Foundations.KeyedList

/-!
# Which faults the dashboard lists

A DTC gets a status byte when it fails for the first time or is cleared, and no operation takes the
last bit away: clearing sets two of them. So a DTC that a snapshot lists is in all snapshots after
it, and the totals of the history never go down.

## Main definitions

- `listed` — the numbers that a fault list with the full mask shows
- `DashboardConsistent` — what the three endpoints agree on in every state

## Main results

- `listed_apply` — no operation takes a DTC off the list
- `snapshots_grow_of_run`
- `dashboardConsistent_of_run`
-/

namespace SovdDemo.Demo

open Foundations Uds DtcSimulator Cda StatusBit

variable {F : Framework} {env : PyEnv} {catalog : Catalog}

/-- The numbers of the DTCs with a status. -/
def listed (sim : DtcSimulator) : List UInt32 :=
  (sim.dtcStore.selected 0xFF).map DiagnosticTroubleCode.dtcNumber

/-- No operation takes a DTC off the list. -/
theorem listed_apply {sim : DtcSimulator} (hi : ∀ d ∈ sim.dtcStore.dtcs, FaultHistory d)
    (op : Operation) : (listed sim).Sublist (listed (sim.apply op)) := by
  refine KeyedList.map_filter_sublist fun i d hd hmatches => ?_
  have hne : ∀ d : DiagnosticTroubleCode, d.matchesStatusMask 0xFF = true ↔ d.statusByte ≠ 0 := by
    intro d
    rw [DiagnosticTroubleCode.matchesStatusMask, bne_iff_ne]
    exact overlaps_full d.statusByte
  have hd₀ := hi d ((sim.dtcStore.mem_iff d).mpr ⟨i, hd⟩)
  refine ⟨sim.applyDtc op i d, ?_, ?_, sim.applyDtc_dtcNumber op i d⟩
  · have happly := sim.getDtcByIndex_apply op i
    rw [show sim.dtcStore.getDtcByIndex i = some d from hd] at happly
    exact happly
  · exact (hne _).mpr (hd₀.applyDtc_ne_zero ((hne d).mp hmatches) sim op i)

theorem listed_run {sim sim' : DtcSimulator} {ops : List Operation}
    (h : dtcSimulator.Run sim ops sim') (hi : ∀ d ∈ sim.dtcStore.dtcs, FaultHistory d) :
    (listed sim).Sublist (listed sim') := by
  induction h with
  | nil sim => exact .refl _
  | @cons sim sim' op ops _ _ ih =>
    exact (listed_apply hi op).trans (ih (forall_faultHistory_apply hi op))

/-- Nor does anything that the ECU sees. -/
theorem listed_step {sim : DtcSimulator} (hr : (ecuSystem F).Reachable sim)
    (e : ServerEvent Operation (List UInt8)) :
    (listed sim).Sublist (listed ((ecu F).step sim e)) :=
  listed_run ((refinesDtcSimulator F).step hr (e := e) trivial)
    (forall_faultHistory ((refinesDtcSimulator F).reachable hr))

/-! The snapshots -/

theorem keys_storeSnapshot (sim : DtcSimulator) :
    (storeSnapshot sim.dtcStore).map Prod.fst = (listed sim).map fun n => dtcHex n.toNat := by
  rw [storeSnapshot, listed, List.map_map, List.map_map]
  rfl

/-- What an event shows is what the ECU served in it. -/
theorem shown_sublist_served {β : Type} (f : DtcSimulator → β) (request : List UInt8) (c : State)
    (e : Event) : ((shown F env catalog f request c e).map Prod.snd).Sublist
      (((ecu F).served c.sim (e.ecuEvents env catalog)).filterMap fun x =>
        if x.1 = request then some (f x.2) else none) := by
  cases e with
  | simulate op => exact List.nil_sublist _
  | attempt a =>
    rw [shown]
    cases a.activity with
    | call componentId call => exact List.nil_sublist _
    | poll ts =>
      dsimp only [showing]
      rw [List.map_filterMap]
      have hsame : ∀ x : List UInt8 × DtcSimulator,
          (if x.1 = request then some (ts, f x.2) else none).map Prod.snd =
            if x.1 = request then some (f x.2) else none := by
        intro x
        split <;> rfl
      simp only [hsame]
      exact .refl _

/-- What the ECU shows in the order of a run is related as its states are. -/
theorem pairwise_shown (request : List UInt8) {β : Type} {f : DtcSimulator → β}
    {R : β → β → Prop} (hrefl : ∀ x, R x x) (htrans : ∀ {x y z}, R x y → R y z → R x z)
    (hstep : ∀ sim e, (ecuSystem F).Reachable sim → R (f sim) (f ((ecu F).step sim e)))
    {c₀ c : State} {es : List Event} (hinit : (demo F env catalog).init c₀)
    (hr : (demo F env catalog).Run c₀ es c) :
    (((demo F env catalog).outputs (shown F env catalog f request) c₀ es).map
      Prod.snd).Pairwise R := by
  have hserved := ((ecu F).served_pairwise (R := fun sim sim' => R (f sim) (f sim'))
    (fun _ => hrefl _) htrans hstep (.init hinit.1)
    ((demo F env catalog).outputs (fun _ e => e.ecuEvents env catalog) c₀ es)).2
  rw [served_of_run F env catalog hinit hr] at hserved
  refine List.Pairwise.sublist ?_ (hserved.filterMap
    (fun x => if x.1 = request then some (f x.2) else none) fun x y hxy u hu v hv => ?_)
  · rw [System.outputs_map, System.outputs_filterMap]
    exact hr.outputs_sublist (I := fun _ => True) (P := fun _ => True) (fun _ _ _ _ => trivial)
      (fun c e _ _ _ => shown_sublist_served f request c e) trivial fun _ _ => trivial
  · split at hu
    · split at hv
      · obtain rfl := Option.some.inj hu
        obtain rfl := Option.some.inj hv
        exact hxy
      · cases hv
    · cases hu

/-- A DTC that one snapshot of the fault history lists is in all snapshots after it, in the same
order, whatever is cleared, lost or late in between; so the totals of `faults_history_endpoint`
never go down. -/
theorem snapshots_grow_of_run (hF : F.Serves) {c₀ c : State} {es : List Event}
    (hinit : (demo F env catalog).init c₀) (hr : (demo F env catalog).Run c₀ es c) :
    (c.world.faultHistory.items.map fun x => x.2.map Prod.fst).Pairwise List.Sublist ∧
      ((faultsHistoryEndpoint c.world).map FaultCounts.totalFaults).Pairwise (· ≤ ·) := by
  have hstep : ∀ sim e, (ecuSystem F).Reachable sim →
      ((storeSnapshot sim.dtcStore).map Prod.fst).Sublist
        ((storeSnapshot ((ecu F).step sim e).dtcStore).map Prod.fst) := by
    intro sim e hreach
    rw [keys_storeSnapshot, keys_storeSnapshot]
    exact (listed_step hreach e).map _
  have hshown := pairwise_shown Poll.faults.request
    (R := fun s s' : Dict UInt8 => (s.map Prod.fst).Sublist (s'.map Prod.fst))
    (fun _ => .refl _) (fun h h' => h.trans h') hstep hinit hr
  have hitems := hshown.sublist ((faultHistory_sublist hF hinit hr).map Prod.snd)
  rw [List.pairwise_map] at hitems
  constructor
  · exact List.pairwise_map.mpr hitems
  · rw [faultsHistoryEndpoint_eq, List.map_map, List.pairwise_map]
    refine hitems.imp fun {x y} h => ?_
    have hle := h.length_le
    rwa [List.length_map, List.length_map] at hle

/-- The engine overheats, a poll sees it, all DTCs are cleared over the REST interface, and a second
poll still sees it, and the others with it. -/
def clearedBetweenPolls : List Event :=
  [.simulate (.setEngineTemp 130), .simulate .step, .attempt (.answered (.poll 1000)),
    .attempt (.answered (.call "openbsw-ecu" (.clearFaults "FFFFFF"))),
    .attempt (.answered (.poll 2000))]

def polledAndCleared : State :=
  clearedBetweenPolls.foldl (demo .jobsOnly .blank shippedCatalog).step .start

theorem polledAndCleared_run :
    (demo .jobsOnly .blank shippedCatalog).Run .start clearedBetweenPolls polledAndCleared :=
  .of_enabledAll ⟨trivial, trivial, trivial, trivial, trivial, trivial⟩

theorem snapshots_grow_polledAndCleared :
    (polledAndCleared.world.faultHistory.items.map fun x => x.2.map Prod.fst).Pairwise
        List.Sublist ∧
      ((faultsHistoryEndpoint polledAndCleared.world).map FaultCounts.totalFaults).Pairwise
        (· ≤ ·) :=
  snapshots_grow_of_run Framework.serves_jobsOnly (start_init _ _ _) polledAndCleared_run

/-! The three endpoints -/

/-- What the endpoints agree on, and what they never show. -/
structure DashboardConsistent (catalog : Catalog) (w : World) : Prop where
  history : ∀ e ∈ faultsHistoryEndpoint w, e.activeFaults ≤ e.confirmedFaults ∧
    e.confirmedFaults ≤ e.totalFaults ∧ e.totalFaults ≤ 5
  /-- a row is that of a demo DTC with a status -/
  rows : ∀ r ∈ faultsCurrent catalog w, (∃ n ∈ demoDtcs, intBase16 r.dtc = some (n.toNat : Int)) ∧
    r.statusByte ≠ 0 ∧ (r.testFailed = true → r.confirmedDTC = true)
  distinct : ((faultsCurrent catalog w).map CurrentFault.dtc).Nodup
  active : faultsActiveCount w = [⟨(faultsCurrent catalog w).countP CurrentFault.testFailed⟩]

/-- What a snapshot of the ECU holds. -/
structure SnapshotConsistent (snapshot : Dict UInt8) : Prop where
  entries : ∀ x ∈ snapshot, (∃ n ∈ demoDtcs, x.1 = dtcHex n.toNat) ∧ x.2 ≠ 0 ∧
    (x.2 &&& 0x01 ≠ 0 → x.2 &&& 0x08 ≠ 0)
  distinct : (snapshot.map Prod.fst).Nodup
  length_le : snapshot.length ≤ 5

theorem snapshotConsistent_of_ecu {sim : DtcSimulator} (hr : (ecuSystem F).Reachable sim) :
    SnapshotConsistent (storeSnapshot sim.dtcStore) := by
  have hnumbers := numbers_of_ecu hr
  have hlisted : (listed sim).Sublist demoDtcs := by
    rw [← hnumbers]
    exact List.filter_sublist.map _
  constructor
  · intro x hx
    obtain ⟨d, hd, rfl⟩ := List.mem_map.mp hx
    obtain ⟨hmem, hhas⟩ := (sim.dtcStore.mem_selected).mp hd
    have hfault := forall_faultHistory ((refinesDtcSimulator F).reachable hr) d hmem
    refine ⟨⟨d.dtcNumber, hlisted.subset (List.mem_map_of_mem hd), rfl⟩, ?_, fun hf => ?_⟩
    · exact d.statusByte_ne_zero_of_has hhas
    · exact (hfault.failed (.inl hf)).1
  · rw [keys_storeSnapshot]
    have hnodup : (demoDtcs.map fun n => dtcHex n.toNat).Nodup := by decide
    exact hnodup.sublist (hlisted.map _)
  · have hle := hlisted.length_le
    rwa [listed, List.length_map, ← List.length_map (f := fun d : DiagnosticTroubleCode =>
      (dtcHex d.dtcNumber.toNat, d.statusByte))] at hle

/-- Endpoints that show consistent snapshots are consistent. -/
theorem dashboardConsistent_of_snapshots (catalog : Catalog) {w : World}
    (h : ∀ x ∈ w.faultHistory.items, SnapshotConsistent x.2) : DashboardConsistent catalog w := by
  have hhistory : ∀ e ∈ faultsHistoryEndpoint w, e.activeFaults ≤ e.confirmedFaults ∧
      e.confirmedFaults ≤ e.totalFaults ∧ e.totalFaults ≤ 5 := by
    intro e he
    obtain ⟨⟨ts, snapshot⟩, hx, rfl⟩ := List.mem_map.mp he
    have hsnapshot := h _ hx
    refine ⟨List.countP_mono_left fun x hx hf => ?_, List.countP_le_length, hsnapshot.length_le⟩
    exact decide_eq_true ((hsnapshot.entries x hx).2.2 (of_decide_eq_true hf))
  cases hlast : w.faultHistory.items.getLast? with
  | none =>
    have hnone : faultsCurrent catalog w = [] := by rw [faultsCurrent, hlast]
    refine ⟨hhistory, ?_, ?_, ?_⟩
    · rw [hnone]
      exact fun r hr => absurd hr List.not_mem_nil
    · rw [hnone]
      exact .nil
    · rw [hnone, faultsActiveCount, hlast]
      rfl
  | some x =>
    obtain ⟨ts, snapshot⟩ := x
    have hsnapshot := h _ (List.mem_of_getLast? hlast)
    have hrows : faultsCurrent catalog w = snapshot.map fun x =>
        currentFault (pollDtcCatalog catalog) ts x.1 x.2 := by rw [faultsCurrent, hlast]
    refine ⟨hhistory, ?_, ?_, ?_⟩
    · rw [hrows]
      intro r hr
      obtain ⟨x, hx, rfl⟩ := List.mem_map.mp hr
      obtain ⟨⟨n, hn, hkey⟩, hne, himp⟩ := hsnapshot.entries x hx
      refine ⟨⟨n, hn, ?_⟩, hne, fun hf => decide_eq_true (himp (of_decide_eq_true hf))⟩
      show intBase16 x.1 = _
      rw [hkey, intBase16_dtcHex]
    · rw [hrows, List.map_map]
      exact hsnapshot.distinct
    · rw [hrows, faultsActiveCount, hlast, List.countP_map]
      rfl

theorem forall_mem_faultHistory (hF : F.Serves) {c₀ c : State} {es : List Event}
    (hinit : (demo F env catalog).init c₀) (hr : (demo F env catalog).Run c₀ es c) :
    ∀ x ∈ c.world.faultHistory.items, SnapshotConsistent x.2 := fun x hx =>
  forall_mem_shown (fun _ hreach => snapshotConsistent_of_ecu hreach) hinit hr x
    ((faultHistory_sublist hF hinit hr).subset hx)

/-- In every state the counts are in order and at most five, the rows are those of different demo
DTCs, none without a status and none that fails without being confirmed, and the active faults are
the failing rows. -/
theorem dashboardConsistent_of_run (hF : F.Serves) {c₀ c : State} {es : List Event}
    (hinit : (demo F env catalog).init c₀) (hr : (demo F env catalog).Run c₀ es c) :
    DashboardConsistent catalog c.world :=
  dashboardConsistent_of_snapshots catalog (forall_mem_faultHistory hF hinit hr)

theorem dashboardConsistent_polledAndCleared :
    DashboardConsistent shippedCatalog polledAndCleared.world :=
  dashboardConsistent_of_run Framework.serves_jobsOnly (start_init _ _ _) polledAndCleared_run

end SovdDemo.Demo

import SovdDemo.Cda.Poller
import SovdDemo.Cda.RoundTrip
import SovdDemo.Uds.FaultViews

/-!
# The dashboard

Three endpoints show the fault snapshots of the poller: the rows of the last one, the counts of all
of them, and the number of active faults of the last one. A snapshot is a dictionary from the text
of a DTC number to its status byte, so two DTCs of one text would be counted once.

## Main definitions

- `faultsCurrent`, `faultsHistoryEndpoint`, `faultsActiveCount` — the endpoints
- `PollReceives` — a poll receives a reply to its request for the faults
- `DashboardShows` — the endpoints agree with each other and with a store

## Main results

- `faultSnap_eq` — the snapshot of records with distinct numbers
- `dashboardShows_of_poll` — from the store of the ECU to the endpoints
-/

namespace SovdDemo.Cda

open Foundations Uds

/-! The endpoints -/

/-- A row of `faults_current`. -/
structure CurrentFault where
  dtc : String
  name : String
  description : String
  severity : String
  system : String
  statusByte : UInt8
  testFailed : Bool
  confirmedDTC : Bool
  timestamp : Int
  deriving DecidableEq, Repr

/-- An element of `faults_history_endpoint`. -/
structure FaultCounts where
  time : Int
  activeFaults : Nat
  confirmedFaults : Nat
  totalFaults : Nat
  deriving DecidableEq, Repr

/-- An element of `faults_active_count`. -/
structure ActiveFaults where
  activeFaults : Nat
  deriving DecidableEq, Repr

/-- `sum(1 for s in snap.values() if s & mask)`. -/
def countSharing (mask : UInt8) (snap : Dict UInt8) : Nat :=
  snap.countP fun p => decide (p.2 &&& mask ≠ 0)

def currentFault (dtcCatalog : Dict DtcInfo) (ts : Int) (dtcHex : String) (statusByte : UInt8) :
    CurrentFault :=
  let cat := (dtcCatalog.get dtcHex).getD .unlisted
  { dtc := dtcHex
    name := cat.name.getD dtcHex
    description := cat.description.getD ""
    severity := cat.severity.getD "unknown"
    system := cat.system.getD "unknown"
    statusByte := statusByte
    testFailed := decide (statusByte &&& 0x01 ≠ 0)
    confirmedDTC := decide (statusByte &&& 0x08 ≠ 0)
    timestamp := ts }

/-- `CATALOG["components"].get(POLL_COMPONENT, {}).get("dtcs", {})`. -/
def pollDtcCatalog (catalog : Catalog) : Dict DtcInfo :=
  ((catalog.components.get pollComponent).map Component.dtcs).getD []

def faultsCurrent (catalog : Catalog) (w : World) : List CurrentFault :=
  match w.faultHistory.items.getLast? with
  | none => []
  | some (ts, snap) => snap.map fun (dtcHex, statusByte) =>
      currentFault (pollDtcCatalog catalog) ts dtcHex statusByte

def faultsHistoryEndpoint (w : World) : List FaultCounts :=
  w.faultHistory.items.map fun (ts, snap) =>
    { time := ts
      activeFaults := countSharing 0x01 snap
      confirmedFaults := countSharing 0x08 snap
      totalFaults := snap.length }

def faultsActiveCount (w : World) : List ActiveFaults :=
  match w.faultHistory.items.getLast? with
  | none => [⟨0⟩]
  | some (_, snap) => [⟨countSharing 0x01 snap⟩]

/-! From the reply to the last snapshot -/

/-- A poll of the known component that can connect receives `reply` to its request for the
faults. -/
def PollReceives (env : PyEnv) (catalog : Catalog) (w : World) (reply : List UInt8) : Prop :=
  ∃ comp, catalog.components.get pollComponent = some comp ∧
    openClient env comp.doip w = .ok () w ∧ (Poll.faults, reply) ∈ deliveries polls w.sends w.inbox

theorem dtcHex_injective : Function.Injective fun n : Nat => dtcHex n := by
  intro m n h
  have hm := intBase16_dtcHex m
  rw [show dtcHex m = dtcHex n from h, intBase16_dtcHex] at hm
  exact (Int.ofNat_inj.mp (Option.some.inj hm)).symm

/-- The entries of a snapshot. -/
def snapEntries (records : List (Nat × UInt8)) : Dict UInt8 :=
  records.map fun (dtcNum, statusByte) => (dtcHex dtcNum, statusByte)

theorem keys_snapEntries (records : List (Nat × UInt8)) :
    (snapEntries records).map Prod.fst = (records.map Prod.fst).map fun n : Nat => dtcHex n := by
  simp [snapEntries, Function.comp_def]

/-- The loop that fills a snapshot, from any point on. -/
theorem foldl_set_snapEntries (records : List (Nat × UInt8)) (snap : Dict UInt8)
    (h : ((snap.map Prod.fst) ++ (snapEntries records).map Prod.fst).Nodup) :
    records.foldl (fun snap (dtcNum, statusByte) => Dict.set snap (dtcHex dtcNum) statusByte) snap =
      snap ++ snapEntries records := by
  induction records generalizing snap with
  | nil => exact (List.append_nil snap).symm
  | cons r records ih =>
    obtain ⟨dtcNum, statusByte⟩ := r
    -- the key of this record is not there yet
    have hnew : snap.get (dtcHex dtcNum) = none := by
      rw [Dict.get_eq_none_iff]
      intro hm
      exact (List.nodup_append.mp h).2.2 _ hm _ List.mem_cons_self rfl
    rw [List.foldl_cons]
    dsimp only
    rw [Dict.set_of_get_eq_none hnew, ih]
    · rw [List.append_assoc]
      rfl
    · rw [List.map_append, List.append_assoc]
      exact h

/-- The snapshot of records with distinct numbers has one entry for each, in their order. -/
theorem faultSnap_eq {records : List (Nat × UInt8)} (h : (records.map Prod.fst).Nodup) :
    faultSnap records = snapEntries records := by
  rw [faultSnap, foldl_set_snapEntries records []]
  · rfl
  · rw [List.map_nil, List.nil_append, keys_snapEntries]
    exact h.map dtcHex_injective

/-- The request for the faults is the last of a round, so its reply is what the requests before it
have left. -/
theorem sendAndReceive_of_mem_deliveries (didCatalog : Dict DidInfo) (ts : Int) (ps : List Poll)
    (hps : Poll.faults ∉ ps) {w : World} {reply : List UInt8}
    (h : (Poll.faults, reply) ∈ deliveries (ps ++ [.faults]) w.sends w.inbox) :
    sendAndReceive (w.pollAll didCatalog ts ps) = .reply reply := by
  induction ps generalizing w with
  | nil =>
    rw [List.nil_append, deliveries_cons Poll.faults [] w []] at h
    show sendAndReceive w = _
    cases hx : sendAndReceive w with
    | reply resp =>
      obtain rfl : reply = resp := by simpa [hx, deliveries] using h
      rfl
    | notConnected e | sendFailed e | receiveFailed e | noReply => simp [hx, deliveries] at h
  | cons poll ps ih =>
    obtain ⟨hp, hps⟩ := not_or.mp (List.mem_cons.not.mp hps)
    obtain ⟨hsends, hinbox⟩ := polled_sends w didCatalog ts poll
    rw [List.cons_append, deliveries_cons poll (ps ++ [Poll.faults]) w poll.request, ← hsends,
      ← hinbox, List.mem_append] at h
    refine ih hps (h.resolve_left fun hm => ?_)
    -- the first reply is the one of `poll`
    cases hx : sendAndReceive w with
    | reply resp =>
      rw [hx] at hm
      exact hp (congrArg Prod.fst (List.mem_singleton.mp hm))
    | notConnected e | sendFailed e | receiveFailed e | noReply =>
      rw [hx] at hm
      exact absurd hm List.not_mem_nil

theorem World.pollAll_polls (w : World) (didCatalog : Dict DidInfo) (ts : Int) :
    w.pollAll didCatalog ts polls =
      (w.pollAll didCatalog ts (pollDids.map Poll.did)).polled didCatalog ts .faults := by
  rw [World.pollAll, polls, List.foldl_append]
  rfl

/-- After a poll that receives a fault list, its snapshot is the last of the history. -/
theorem getLast?_faultHistory_pollEcuOnce {env : PyEnv} {catalog : Catalog} {w : World}
    {reply : List UInt8} (hp : PollReceives env catalog w reply) {snapshot : Dict UInt8}
    (hs : snapshotOf reply = some snapshot) (ts : Int) :
    (finalWorld (pollEcuOnce env catalog ts w)).faultHistory.items.getLast? =
      some (ts, snapshot) := by
  obtain ⟨comp, hc, ho, hd⟩ := hp
  have hlast := sendAndReceive_of_mem_deliveries comp.dids ts (pollDids.map Poll.did)
    (by decide) hd
  rw [pollEcuOnce_eq, hc]
  dsimp only [finalWorld]
  rw [ho]
  dsimp only
  rw [World.pollAll_polls, World.polled, hlast]
  dsimp only [World.recorded]
  rw [hs]
  exact BoundedDeque.getLast?_append _ _ (by decide)

/-! From the store to the endpoints -/

variable {N : Nat} (s : DiagnosticTroubleCodeStore N)

/-- The ECU has one answer to a request for a fault list. -/
theorem eq_of_ecuAnswers {inRequestBuffer : Bool} {capacity : Nat} {mask : UInt8}
    {reply : List UInt8} (hroom : (faultList s mask).length ≤ capacity)
    (ha : EcuAnswers s inRequestBuffer capacity [0x19, 0x02, mask] reply) :
    reply = 0x59 :: faultList s mask := by
  obtain ⟨rest, s', c, hrest, hprocess, hsent⟩ := ha
  obtain rfl : [0x02, mask] = rest := (List.cons.inj hrest).2
  rw [ReadDTCInformation.process_reportDtcByStatusMask, Option.some_inj] at hprocess
  have hc := ReadDTCInformation.sent_processReportDtcByStatusMask s [0x02, mask] inRequestBuffer
    capacity mask
  rw [hprocess, hsent, List.take_of_length_le hroom] at hc
  exact (List.cons.inj hc).1

/-- The snapshot of the whole fault memory. -/
def storeSnapshot : Dict UInt8 :=
  (s.selected 0xFF).map fun d => (dtcHex d.dtcNumber.toNat, d.statusByte)

theorem snapshotOf_faultList (hs : s.numbers.Nodup) :
    snapshotOf (0x59 :: faultList s 0xFF) = some (storeSnapshot s) := by
  have hformat : 3 ≤ (0x59 :: faultList s 0xFF).length ∧
      (0x59 :: faultList s 0xFF)[0]? = some 0x59 := by
    simp [faultList]
  have hdrop : (0x59 :: faultList s 0xFF).drop 3 =
      (s.selected 0xFF).flatMap DiagnosticTroubleCode.record := rfl
  -- distinct numbers of 24 bits are distinct records
  have hdistinct : (((s.selected 0xFF).map fun d => (d.dtcNumber.toNat, d.statusByte)).map
      Prod.fst).Nodup := by
    have hnumbers : ((s.selected 0xFF).map DiagnosticTroubleCode.dtcNumber).Nodup :=
      hs.sublist (List.filter_sublist.map _)
    have htoNat := hnumbers.map (f := UInt32.toNat) fun _ _ h => UInt32.toNat_inj.mp h
    rw [List.map_map] at htoNat ⊢
    exact htoNat
  rw [snapshotOf, if_pos hformat, hdrop, recordsOf_flatMap_record, ← faultSnap_eq_statusByNumber,
    faultSnap_eq hdistinct, snapEntries, List.map_map]
  rfl

/-- A bit that is set makes the status byte non-zero, so the snapshot counts every DTC the store
counts. -/
theorem countSharing_storeSnapshot (mask : UInt8) :
    countSharing mask (storeSnapshot s) = s.countByStatusMask mask := by
  rw [countSharing, storeSnapshot, List.countP_map, DiagnosticTroubleCodeStore.selected,
    List.countP_filter, DiagnosticTroubleCodeStore.countByStatusMask]
  apply List.countP_congr
  intro d _
  have hfull : d.Has mask → d.Has 0xFF := fun h =>
    (overlaps_full _).mpr (d.statusByte_ne_zero_of_has h)
  show (decide (d.Has mask) && (d.statusByte &&& 0xFF != 0)) = true ↔
    (d.statusByte &&& mask != 0) = true
  rw [Bool.and_eq_true, bne_iff_ne, bne_iff_ne, decide_eq_true_iff]
  exact and_iff_left_of_imp hfull

/-- The three endpoints show the fault memory, as of `ts`. -/
structure DashboardShows (catalog : Catalog) (ts : Int) (w : World) : Prop where
  activeCount : faultsActiveCount w = [⟨s.countByStatusMask 0x01⟩]
  history : (faultsHistoryEndpoint w).getLast? = some {
    time := ts
    activeFaults := s.countByStatusMask 0x01
    confirmedFaults := s.countByStatusMask 0x08
    totalFaults := s.countByStatusMask 0xFF }
  /-- one row for each DTC with a status: its number, its status byte and two of its flags -/
  rows : (faultsCurrent catalog w).map
      (fun r => (intBase16 r.dtc, r.statusByte, r.testFailed, r.confirmedDTC)) =
    (s.dtcs.filter fun d => d.statusByte ≠ 0).map fun d =>
      (some (d.dtcNumber.toNat : Int), d.statusByte, decide (d.Has StatusBit.testFailed),
        decide (d.Has StatusBit.confirmedDtc))
  rowTimes : ∀ r ∈ faultsCurrent catalog w, r.timestamp = ts
  /-- the rows agree with the counts -/
  rowCounts : (faultsCurrent catalog w).length = s.countByStatusMask 0xFF ∧
    ((faultsCurrent catalog w).countP fun r => r.testFailed) = s.countByStatusMask 0x01 ∧
    ((faultsCurrent catalog w).countP fun r => r.confirmedDTC) = s.countByStatusMask 0x08

/-- What the endpoints show once the snapshot of a store is the last one. -/
theorem dashboardShows_of_getLast? {catalog : Catalog} {ts : Int} {w : World}
    (hw : w.faultHistory.items.getLast? = some (ts, storeSnapshot s)) :
    DashboardShows s catalog ts w := by
  have hcurrent : faultsCurrent catalog w = (storeSnapshot s).map fun (dtcHex, statusByte) =>
      currentFault (pollDtcCatalog catalog) ts dtcHex statusByte := by
    rw [faultsCurrent, hw]
  have hlength : (storeSnapshot s).length = s.countByStatusMask 0xFF := by
    rw [storeSnapshot, List.length_map, s.countByStatusMask_eq]
  constructor
  · rw [faultsActiveCount, hw]
    show [ActiveFaults.mk (countSharing 0x01 (storeSnapshot s))] = _
    rw [countSharing_storeSnapshot]
  · rw [faultsHistoryEndpoint, List.getLast?_map, hw, Option.map_some]
    dsimp only
    rw [countSharing_storeSnapshot, countSharing_storeSnapshot, hlength]
  · have hselected : s.selected 0xFF = s.dtcs.filter fun d => d.statusByte ≠ 0 := by
      apply List.filter_congr
      intro d _
      rw [Bool.eq_iff_iff, DiagnosticTroubleCode.matchesStatusMask, bne_iff_ne, decide_eq_true_iff]
      exact overlaps_full d.statusByte
    rw [hcurrent, storeSnapshot, hselected, List.map_map, List.map_map]
    apply List.map_congr_left
    intro d _
    show (intBase16 (dtcHex d.dtcNumber.toNat), d.statusByte, decide (d.Has StatusBit.testFailed),
      decide (d.Has StatusBit.confirmedDtc)) = _
    rw [intBase16_dtcHex]
  · intro r hr
    rw [hcurrent] at hr
    obtain ⟨p, -, rfl⟩ := List.mem_map.mp hr
    rfl
  · rw [hcurrent, List.length_map, List.countP_map, List.countP_map, hlength,
      ← countSharing_storeSnapshot s 0x01, ← countSharing_storeSnapshot s 0x08]
    exact ⟨rfl, rfl, rfl⟩

/-- For every store of distinct numbers: after a poll that receives the ECU's answer to its request
for the faults, the three endpoints agree with the store and with each other. -/
theorem dashboardShows_of_poll (hs : s.numbers.Nodup) {inRequestBuffer : Bool} {capacity : Nat}
    (hroom : (faultList s 0xFF).length ≤ capacity) {reply : List UInt8}
    (ha : EcuAnswers s inRequestBuffer capacity Poll.faults.request reply) {env : PyEnv}
    {catalog : Catalog} {w : World} (hp : PollReceives env catalog w reply) (ts : Int) :
    DashboardShows s catalog ts (finalWorld (pollEcuOnce env catalog ts w)) := by
  obtain rfl := eq_of_ecuAnswers s hroom ha
  exact dashboardShows_of_getLast? s
    (getLast?_faultHistory_pollEcuOnce hp (snapshotOf_faultList s hs) ts)

/-- A fault memory of two DTCs, one of them failing, and how the ECU lists it. -/
def twoFaults : DiagnosticTroubleCodeStore 2 :=
  ⟨[.ofNumber 0x010100 0x2F, .ofNumber 0x010200 0x50], by decide⟩

def twoFaultsReply : List UInt8 :=
  [0x59, 0x02, 0xFF, 0x01, 0x01, 0x00, 0x2F, 0x01, 0x02, 0x00, 0x50]

/-- The three sensors time out, and the fault list arrives. -/
theorem dashboardShows_twoFaults :
    DashboardShows twoFaults shippedCatalog 1000
      (finalWorld (pollEcuOnce .blank shippedCatalog 1000
        (.receiving [.reply none, .reply none, .reply none, .reply (some twoFaultsReply)]))) := by
  have ha : EcuAnswers twoFaults false 66 Poll.faults.request twoFaultsReply :=
    ⟨[0x02, 0xFF], _, _, rfl, rfl, rfl⟩
  exact dashboardShows_of_poll twoFaults (by decide) (by decide) ha
    ⟨openbswEcu, rfl, rfl, by decide⟩ 1000

end SovdDemo.Cda

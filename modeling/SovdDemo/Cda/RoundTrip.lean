import SovdDemo.Cda.Replies
import SovdDemo.Uds.FaultList

/-!
# A fault list on its way from the ECU to a client

`ReadDTCInformation` writes four bytes for each DTC the mask selects, and `read_faults` takes them
apart again. The mask of a client is any integer and the ECU gets its last byte.

## Main definitions

- `EcuAnswers` — what `ReadDTCInformation` sends for a request
- `sharing` — the DTCs of a store whose status shares a bit with an integer mask
- `FaultListOf` — a fault list shows exactly these

## Main results

- `recordsOf_flatMap_record` — decoding the records gives the DTCs back
- `readFaults_roundTrip`
-/

namespace SovdDemo.Cda

open Foundations Uds

/-- The ECU with the DTC store `s` answers `request` with `reply`. -/
def EcuAnswers {N : Nat} (s : DiagnosticTroubleCodeStore N) (inRequestBuffer : Bool)
    (capacity : Nat) (request reply : List UInt8) : Prop :=
  ∃ rest s' c, request = ReadDTCInformation.serviceId :: rest ∧
    ReadDTCInformation.process s (.incoming rest inRequestBuffer capacity) = some (.ok, s', c) ∧
    c.sent = [reply]

/-! Records -/

theorem dtcNumOf_eq (dtcHi dtcMid dtcLo : UInt8) :
    dtcNumOf dtcHi dtcMid dtcLo = dtcHi.toNat * 2 ^ 16 + dtcMid.toNat * 2 ^ 8 + dtcLo.toNat :=
  or_three_bytes _ dtcMid.toNat_lt dtcLo.toNat_lt

/-- The client reads the same number from three bytes as the ECU. -/
theorem dtcNumOf_eq_numberOfBytes (dtcHi dtcMid dtcLo : UInt8) :
    dtcNumOf dtcHi dtcMid dtcLo = (numberOfBytes dtcHi dtcMid dtcLo).toNat := by
  rw [dtcNumOf_eq, toNat_numberOfBytes]

theorem recordsOf_flatMap_record (dtcs : List DiagnosticTroubleCode) :
    recordsOf (dtcs.flatMap DiagnosticTroubleCode.record) =
      dtcs.map fun d => (d.dtcNumber.toNat, d.statusByte) := by
  induction dtcs with
  | nil => rfl
  | cons d dtcs ih =>
    rw [List.flatMap_cons, List.map_cons, ← ih]
    show (dtcNumOf d.getDtcHighByte d.getDtcMiddleByte d.getDtcLowByte, d.getStatusByte) ::
      recordsOf (dtcs.flatMap DiagnosticTroubleCode.record) = _
    rw [dtcNumOf_eq_numberOfBytes, numberOfBytes_record]
    rfl

/-- The text of a number denotes it. -/
theorem intBase16_dtcHex (n : Nat) : intBase16 (dtcHex n) = some (n : Int) := by
  rw [dtcHex, intBase16_hexUpper]

/-! Masks -/

variable {N : Nat} (s : DiagnosticTroubleCodeStore N)

/-- The DTCs whose status shares a bit with an integer mask, in store order. -/
def sharing (statusMask : Int) : List DiagnosticTroubleCode :=
  s.dtcs.filter fun d => decide (Int.land d.statusByte.toNat statusMask ≠ 0)

/-- A status shares a bit with an integer exactly when it shares one with its last byte. -/
theorem matchesStatusMask_wireByte (d : DiagnosticTroubleCode) (statusMask : Int) :
    d.matchesStatusMask (Call.wireByte statusMask 0) =
      decide (Int.land d.statusByte.toNat statusMask ≠ 0) := by
  have hbyte : (Call.wireByte statusMask 0).toNat = (byteOf statusMask 0).toNat := by
    rw [← Call.wireByte_toNat, Int.toNat_natCast]
  -- a status byte has no bits beyond the last byte of the mask
  have hzero : (d.statusByte &&& Call.wireByte statusMask 0 ≠ 0) ↔
      Int.land d.statusByte.toNat statusMask ≠ 0 := by
    rw [land_byte, ← hbyte, ← UInt8.toNat_and, Nat.cast_ne_zero]
    exact not_congr UInt8.toNat_inj.symm
  rw [DiagnosticTroubleCode.matchesStatusMask, Bool.eq_iff_iff, bne_iff_ne, decide_eq_true_iff]
  exact hzero

theorem selected_wireByte (statusMask : Int) :
    s.selected (Call.wireByte statusMask 0) = sharing s statusMask :=
  List.filter_congr fun d _ => matchesStatusMask_wireByte d statusMask

theorem sharing_land (statusMask : Int) :
    sharing s (Int.land statusMask 0xFF) = sharing s statusMask := by
  have hbyte : byteOf (Int.land statusMask 0xFF) 0 = byteOf statusMask 0 := by
    have hland : Int.land statusMask 0xFF = statusMask % 2 ^ 8 := land_two_pow_sub_one statusMask 8
    rw [byteOf_eq, byteOf_eq, hland]
    omega
  apply List.filter_congr
  intro d _
  rw [land_byte, land_byte, hbyte]

/-! The round trip -/

/-- The eight flags of a status byte, under the names of the REST interface. -/
def statusFlags (d : DiagnosticTroubleCode) : Dict Bool :=
  [("testFailed", decide (d.Has StatusBit.testFailed)),
    ("testFailedThisOperationCycle", decide (d.Has StatusBit.testFailedThisOperationCycle)),
    ("pendingDTC", decide (d.Has StatusBit.pendingDtc)),
    ("confirmedDTC", decide (d.Has StatusBit.confirmedDtc)),
    ("testNotCompletedSinceLastClear", decide (d.Has StatusBit.testNotCompletedSinceLastClear)),
    ("testFailedSinceLastClear", decide (d.Has StatusBit.testFailedSinceLastClear)),
    ("testNotCompletedThisOperationCycle",
      decide (d.Has StatusBit.testNotCompletedThisOperationCyc)),
    ("warningIndicatorRequested", decide (d.Has StatusBit.warningIndicatorRequested))]

theorem decodeStatusByte_eq (d : DiagnosticTroubleCode) :
    decodeStatusByte d.statusByte = statusFlags d := rfl

/-- `list` shows the DTCs of the store that share a bit with the mask, in store order and each once:
their numbers, which the texts denote, their status bytes, and the flags of these. -/
structure FaultListOf (statusMask : Int) (list : FaultList) : Prop where
  count : list.count = (sharing s statusMask).length
  numbers : list.items.map (fun e => intBase16 e.id) =
    (sharing s statusMask).map fun d => some (d.dtcNumber.toNat : Int)
  sameNumber : ∀ e ∈ list.items, e.dtcNumber = e.id
  statusBytes : list.items.map (fun e => e.statusByte) =
    (sharing s statusMask).map fun d => d.statusByte
  flags : list.items.map (fun e => e.status) = (sharing s statusMask).map statusFlags

theorem ecuAnswers_faultList (inRequestBuffer : Bool) {capacity : Nat} (hcap : 2 + 4 * N ≤ capacity)
    (mask : UInt8) :
    EcuAnswers s inRequestBuffer capacity [0x19, 0x02, mask] (0x59 :: faultList s mask) := by
  have hlen : (faultList s mask).length ≤ capacity := by
    have hselected : (s.selected mask).length ≤ N :=
      (List.length_filter_le _ _).trans s.count_le
    rw [length_faultList]
    omega
  refine ⟨[0x02, mask], _, (ReadDTCInformation.processReportDtcByStatusMask s
    (.incoming [0x02, mask] inRequestBuffer capacity) mask).2.2, rfl,
    ReadDTCInformation.process_reportDtcByStatusMask s mask inRequestBuffer capacity, ?_⟩
  rw [ReadDTCInformation.sent_processReportDtcByStatusMask, List.take_of_length_le hlen]

/-- Decoding the answer. -/
theorem readFaultsReply_faultList (dtcCatalog : Dict DtcInfo) (mask : UInt8) :
    readFaultsReply dtcCatalog (0x59 :: faultList s mask) = .ok {
      availabilityMask := "0xFF"
      count := (s.selected mask).length
      items := (s.selected mask).map fun d =>
        faultEntry dtcCatalog (dtcHex d.dtcNumber.toNat) d.statusByte } := by
  have hformat : ¬ ((0x59 :: faultList s mask).length < 3 ∨
      (0x59 :: faultList s mask)[0]? ≠ some 0x59) := by
    simp [faultList]
  have hentries : entriesOf dtcCatalog (recordsOf ((0x59 :: faultList s mask).drop 3)) =
      (s.selected mask).map fun d =>
        faultEntry dtcCatalog (dtcHex d.dtcNumber.toNat) d.statusByte := by
    have hdrop : (0x59 :: faultList s mask).drop 3 =
        (s.selected mask).flatMap DiagnosticTroubleCode.record := rfl
    rw [hdrop, recordsOf_flatMap_record, entriesOf, List.map_map]
    rfl
  have hmask : availabilityMaskOf (0x59 :: faultList s mask) = "0xFF" := by
    show "0x" ++ hexUpper 2 (0xFF : UInt8).toNat = "0xFF"
    decide
  rw [readFaultsReply_eq, if_neg hformat, hentries, List.length_map, hmask]

theorem faultListOf_selected (dtcCatalog : Dict DtcInfo) (statusMask : Int)
    (availabilityMask : String) :
    FaultListOf s statusMask {
      availabilityMask := availabilityMask
      count := (sharing s statusMask).length
      items := (sharing s statusMask).map fun d =>
        faultEntry dtcCatalog (dtcHex d.dtcNumber.toNat) d.statusByte } where
  count := rfl
  numbers := by
    simp only [List.map_map, Function.comp_def, faultEntry_id, intBase16_dtcHex]
  sameNumber e he := by
    obtain ⟨d, -, rfl⟩ := List.mem_map.mp he
    rfl
  statusBytes := by
    rw [List.map_map]
    rfl
  flags := by
    rw [List.map_map]
    exact List.map_congr_left fun d _ => decodeStatusByte_eq d

/-- For every store and every integer mask, the ECU answers the request of `read_faults`, and when
the answer arrives `read_faults` returns exactly the stored DTCs that share a bit with the mask. -/
theorem readFaults_roundTrip (statusMask : Int) (inRequestBuffer : Bool) {capacity : Nat}
    (hcap : 2 + 4 * N ≤ capacity) :
    ∃ reply,
      EcuAnswers s inRequestBuffer capacity
        [0x19, 0x02, UInt8.ofNat (Int.land statusMask 0xFF).toNat] reply ∧
      ∀ (env : PyEnv) (catalog : Catalog) (componentId : String) (comp : Component) (w : World),
        catalog.components.get componentId = some comp → exchange env comp w = .reply reply →
        ∃ list w', readFaults env catalog componentId statusMask w = .ok list w' ∧
          w'.sent = w.sent ++ [[0x19, 0x02, UInt8.ofNat (Int.land statusMask 0xFF).toNat]] ∧
          FaultListOf s statusMask list ∧ FaultListOf s (Int.land statusMask 0xFF) list := by
  have hbyte : UInt8.ofNat (Int.land statusMask 0xFF).toNat = Call.wireByte statusMask 0 := by
    rw [Call.wireByte, byteOf, Int.shiftRight_zero]
  rw [hbyte]
  refine ⟨_, ecuAnswers_faultList s inRequestBuffer hcap _, ?_⟩
  intro env catalog componentId comp w hc hx
  have hrun : readFaults env catalog componentId statusMask w = _ :=
    Call.readFaults_eq hc statusMask w
  have hout : (exchange env comp w).outcome env =
      .ok (0x59 :: faultList s (Call.wireByte statusMask 0)) := by
    rw [hx]
    rfl
  have hafter : w.afterCall env comp [0x19, 0x02, Call.wireByte statusMask 0] =
      w.exchanged [0x19, 0x02, Call.wireByte statusMask 0] := by
    rw [World.afterCall, hx]
  rw [hout] at hrun
  change _ = resultIn (w.afterCall env comp [0x19, 0x02, Call.wireByte statusMask 0])
    (readFaultsReply comp.dtcs (0x59 :: faultList s (Call.wireByte statusMask 0))) at hrun
  rw [hafter, readFaultsReply_faultList, selected_wireByte] at hrun
  have hlist := faultListOf_selected s comp.dtcs statusMask "0xFF"
  refine ⟨_, _, hrun, rfl, hlist, ?_⟩
  have hland := faultListOf_selected s comp.dtcs (Int.land statusMask 0xFF) "0xFF"
  rwa [sharing_land] at hland

/-- The five demo DTCs after a clear-all, read with a mask wider than a byte. -/
theorem readFaults_roundTrip_demo : ∃ reply list w',
    readFaults .blank shippedCatalog "openbsw-ecu" 0x110
      (.receiving [.reply (some reply)]) = .ok list w' ∧ list.count = 5 := by
  obtain ⟨reply, -, hall⟩ := readFaults_roundTrip DtcSimulator.construct.init.clearAll.dtcStore
    0x110 false (by decide : 2 + 4 * 16 ≤ 66)
  obtain ⟨list, w', hrun, -, hlist, -⟩ := hall .blank shippedCatalog "openbsw-ecu"
    openbswEcu (.receiving [.reply (some reply)]) rfl rfl
  exact ⟨reply, list, w', hrun, hlist.count.trans (by decide)⟩

end SovdDemo.Cda

import SovdDemo.Uds.ClearMemory

/-!
# Three views of one fault memory

A tester can ask how many DTCs a status mask selects, which ones, and for the extended data of a
single number. The store counts in one loop, lists by index in another and searches in a third; the
readers defined here take the three replies apart again, so that they can be compared.

## Main definitions

- `readCount`, `readFaultList`, `readExtDataRecord` — what a tester reads off the replies
- `ViewsAgree` — the three views show the same fault memory

## Main results

- `readRecords_flatMap_record` — the records of a fault list give its DTCs back
- `viewsAgree_of_nodup` — the views agree for every mask
-/

namespace SovdDemo.Uds

open Foundations

/-- What a record says of a DTC. -/
structure FaultRecord where
  dtcNumber : UInt32
  statusByte : UInt8
  deriving DecidableEq, Repr

/-- The records of a fault list, four bytes each. -/
def readRecords : List UInt8 → Option (List FaultRecord)
  | [] => some []
  | high :: middle :: low :: status :: rest =>
    (readRecords rest).map fun records => ⟨numberOfBytes high middle low, status⟩ :: records
  | _ => none

/-- The reply of `reportDTCByStatusMask`. -/
def readFaultList : List UInt8 → Option (List FaultRecord)
  | 0x59 :: 0x02 :: _availabilityMask :: records => readRecords records
  | _ => none

/-- The reply of `reportNumberOfDTCByStatusMask`. -/
def readCount : List UInt8 → Option Nat
  | [0x59, 0x01, _availabilityMask, _formatIdentifier, high, low] =>
    some (high.toNat * 2 ^ 8 + low.toNat)
  | _ => none

/-- The reply of `reportDTCExtDataRecordByDTCNumber`: the record, and the occurrence counter. -/
def readExtDataRecord : List UInt8 → Option (FaultRecord × UInt8)
  | [0x59, 0x06, high, middle, low, status, _recordNumber, counter] =>
    some (⟨numberOfBytes high middle low, status⟩, counter)
  | _ => none

/-- The record of a DTC, once it has been read. -/
def DiagnosticTroubleCode.faultRecord (d : DiagnosticTroubleCode) : FaultRecord :=
  ⟨d.dtcNumber, d.statusByte⟩

theorem readRecords_flatMap_record (dtcs : List DiagnosticTroubleCode) :
    readRecords (dtcs.flatMap DiagnosticTroubleCode.record) =
      some (dtcs.map DiagnosticTroubleCode.faultRecord) := by
  induction dtcs with
  | nil => rfl
  | cons d dtcs ih =>
    rw [List.flatMap_cons]
    show (readRecords (dtcs.flatMap DiagnosticTroubleCode.record)).map _ = _
    rw [ih, Option.map_some, numberOfBytes_record]
    rfl

/-- Two bytes are enough for a count up to 65535. -/
theorem readCount_countReport {count : Nat} (hc : count < 2 ^ 16) :
    readCount (0x59 :: ReadDTCInformation.countReport count) = some count := by
  have hhigh : ((count >>> 8) &&& 0xFF) = count / 2 ^ 8 := by
    rw [land_0xFF, Nat.shiftRight_eq_div_pow]
    omega
  have hlow : (count &&& 0xFF) = count % 2 ^ 8 := land_0xFF count
  show some ((UInt8.ofNat ((count >>> 8) &&& 0xFF)).toNat * 2 ^ 8 +
    (UInt8.ofNat (count &&& 0xFF)).toNat) = some count
  rw [hhigh, hlow, UInt8.toNat_ofNat', UInt8.toNat_ofNat']
  exact congrArg some (by omega)

/-- The occurrence counter is the failing bit. -/
theorem occurrenceCounter_eq_one_iff (d : DiagnosticTroubleCode) :
    ReadDTCInformation.occurrenceCounter d = 1 ↔ d.Has StatusBit.testFailed := by
  rw [ReadDTCInformation.occurrenceCounter]
  split
  · rename_i h
    exact iff_of_true rfl h
  · rename_i h
    exact iff_of_false (by decide) h

namespace DiagnosticTroubleCodeStore

variable {N : Nat} (s : DiagnosticTroubleCodeStore N)

/-- The counting loop agrees with the selection. -/
theorem countByStatusMask_eq (mask : UInt8) :
    s.countByStatusMask mask = (s.selected mask).length :=
  List.countP_eq_length_filter

theorem mem_selected {mask : UInt8} {d : DiagnosticTroubleCode} :
    d ∈ s.selected mask ↔ d ∈ s.dtcs ∧ d.Has mask := by
  rw [selected, List.mem_filter, DiagnosticTroubleCode.matchesStatusMask, bne_iff_ne]
  rfl

theorem length_selected_le (mask : UInt8) : (s.selected mask).length ≤ s.getCount :=
  List.length_filter_le _ _

/-- Two stored DTCs of one number are the same. -/
theorem eq_of_dtcNumber_eq (hs : s.numbers.Nodup) {d e : DiagnosticTroubleCode} (hd : d ∈ s.dtcs)
    (he : e ∈ s.dtcs) (h : d.dtcNumber = e.dtcNumber) : d = e :=
  List.inj_on_of_nodup_map hs hd he h

/-- The search by number ends at the stored DTC. -/
theorem findDtcByNumber_eq_some (hs : s.numbers.Nodup) {d : DiagnosticTroubleCode}
    (hd : d ∈ s.dtcs) : s.findDtcByNumber d.dtcNumber = some d := by
  obtain ⟨i, hi⟩ := (s.mem_iff d).mp hd
  rw [findDtcByNumber_eq, (s.findIndexByNumber_eq_some_iff hs hi _).mpr rfl]
  exact hi

end DiagnosticTroubleCodeStore

namespace ReadDTCInformation

variable {N : Nat} (s : DiagnosticTroubleCodeStore N) (inRequestBuffer : Bool) (capacity : Nat)

/-- The bytes of a positive reply to `request`. -/
def positiveReply {σ : Type} [IDtcProvider σ] (provider : σ) (inRequestBuffer : Bool)
    (capacity : Nat) (request : List UInt8) : Option (List UInt8) :=
  match process provider (.incoming request inRequestBuffer capacity) with
  | some (.ok, _, c) => c.sent.head?
  | _ => none

/-- The request is refused with `code`, nothing is sent, and the store stays as it is. -/
def Refuses (request : List UInt8) (code : DiagReturnCode) : Prop :=
  ∃ c, process s (.incoming request inRequestBuffer capacity) = some (code, s, c) ∧ c.sent = []

variable {capacity}

theorem positiveReply_reportNumberOfDtcByStatusMask (hcap : 5 ≤ capacity) (mask : UInt8) :
    positiveReply s inRequestBuffer capacity [0x01, mask] =
      some (0x59 :: countReport (s.countByStatusMask mask)) := by
  have hlen : (countReport (s.countByStatusMask mask)).length ≤ capacity := hcap
  rw [positiveReply, process_reportNumberOfDtcByStatusMask]
  show (processReportNumberOfDtcByStatusMask s _ mask).2.2.sent.head? = _
  rw [sent_processReportNumberOfDtcByStatusMask, List.take_of_length_le hlen]
  rfl

theorem positiveReply_reportDtcByStatusMask {mask : UInt8}
    (hcap : (faultList s mask).length ≤ capacity) :
    positiveReply s inRequestBuffer capacity [0x02, mask] = some (0x59 :: faultList s mask) := by
  rw [positiveReply, process_reportDtcByStatusMask]
  show (processReportDtcByStatusMask s _ mask).2.2.sent.head? = _
  rw [sent_processReportDtcByStatusMask, List.take_of_length_le hcap]
  rfl

theorem positiveReply_reportDtcExtDataRecord {high middle low : UInt8} (recordNumber : UInt8)
    (hcap : 7 ≤ capacity) {d : DiagnosticTroubleCode}
    (hd : s.findDtcByNumber (numberOfBytes high middle low) = some d) :
    positiveReply s inRequestBuffer capacity [0x06, high, middle, low, recordNumber] =
      some (0x59 :: extDataRecord d (if inRequestBuffer then d.statusByte else recordNumber)) := by
  obtain ⟨c, hc, hsent⟩ : ∃ c, processReportDtcExtDataRecord s
      (.incoming [0x06, high, middle, low, recordNumber] inRequestBuffer capacity) =
        some (.ok, s, c) ∧ c.sent = [_] :=
    sent_processReportDtcExtDataRecord s recordNumber inRequestBuffer capacity hd
  rw [positiveReply, process_reportDtcExtDataRecord, hc]
  show c.sent.head? = _
  rw [hsent, List.take_of_length_le (show (extDataRecord d _).length ≤ capacity from hcap)]
  rfl

/-- A number that is not stored is refused. -/
theorem refuses_reportDtcExtDataRecord {high middle low : UInt8} (recordNumber : UInt8)
    (hd : s.findDtcByNumber (numberOfBytes high middle low) = none) :
    Refuses s inRequestBuffer capacity [0x06, high, middle, low, recordNumber]
      .isoRequestOutOfRange := by
  refine ⟨.incoming [0x06, high, middle, low, recordNumber] inRequestBuffer capacity, ?_, rfl⟩
  rw [process_reportDtcExtDataRecord, processReportDtcExtDataRecord_cons, hd]

/-- The three views of the fault memory, for the mask `m`. -/
structure ViewsAgree (m : UInt8) (capacity : Nat) (faults : List FaultRecord) : Prop where
  /-- the fault list consists of these records -/
  list : (positiveReply s inRequestBuffer capacity [0x02, m]).bind readFaultList = some faults
  /-- the count is their number -/
  count : (positiveReply s inRequestBuffer capacity [0x01, m]).bind readCount = some faults.length
  inStoreOrder : faults.Sublist (s.dtcs.map DiagnosticTroubleCode.faultRecord)
  once : (faults.map FaultRecord.dtcNumber).Nodup
  /-- the extended data of a DTC: its record, and 1 exactly while the test fails -/
  stored : ∀ d ∈ s.dtcs, ∀ high middle low recordNumber,
    numberOfBytes high middle low = d.dtcNumber →
    ∃ counter, (positiveReply s inRequestBuffer capacity [0x06, high, middle, low,
        recordNumber]).bind readExtDataRecord = some (d.faultRecord, counter) ∧
      (counter = 1 ↔ d.statusByte &&& 0x01 ≠ 0)
  /-- a DTC is in the list just when its status shares a bit with the mask -/
  listed : ∀ d ∈ s.dtcs, ((∃ f ∈ faults, f.dtcNumber = d.dtcNumber) ↔ d.statusByte &&& m ≠ 0) ∧
    ∀ f ∈ faults, f.dtcNumber = d.dtcNumber → f = d.faultRecord
  /-- and any other number is refused -/
  notStored : ∀ high middle low recordNumber,
    (∀ d ∈ s.dtcs, numberOfBytes high middle low ≠ d.dtcNumber) →
    Refuses s inRequestBuffer capacity [0x06, high, middle, low, recordNumber]
      .isoRequestOutOfRange

/-- On a store of distinct numbers that two bytes can count, the three views agree for every mask,
as long as the replies fit. -/
theorem viewsAgree_of_nodup (hcount : s.getCount ≤ 65535) (hs : s.numbers.Nodup) (m : UInt8)
    (hcap : 7 ≤ capacity) (hroom : (faultList s m).length ≤ capacity) :
    ViewsAgree s inRequestBuffer m capacity
      ((s.selected m).map DiagnosticTroubleCode.faultRecord) where
  list := by
    rw [positiveReply_reportDtcByStatusMask s inRequestBuffer hroom]
    exact readRecords_flatMap_record (s.selected m)
  count := by
    have hle := s.length_selected_le m
    rw [positiveReply_reportNumberOfDtcByStatusMask s inRequestBuffer (by omega), Option.bind_some,
      s.countByStatusMask_eq, readCount_countReport (by omega), List.length_map]
  inStoreOrder := List.filter_sublist.map _
  once := by
    rw [List.map_map]
    exact hs.sublist (List.filter_sublist.map _)
  stored := by
    intro d hd high middle low recordNumber hn
    refine ⟨occurrenceCounter d, ?_, occurrenceCounter_eq_one_iff d⟩
    rw [positiveReply_reportDtcExtDataRecord s inRequestBuffer recordNumber hcap
      (hn ▸ s.findDtcByNumber_eq_some hs hd)]
    show some (FaultRecord.mk (numberOfBytes d.getDtcHighByte d.getDtcMiddleByte d.getDtcLowByte)
      d.statusByte, occurrenceCounter d) = _
    rw [numberOfBytes_record]
    rfl
  listed := by
    intro d hd
    have hsame : ∀ e ∈ s.selected m, e.dtcNumber = d.dtcNumber → e = d := fun e he hn =>
      s.eq_of_dtcNumber_eq hs (s.mem_selected.mp he).1 hd hn
    constructor
    · constructor
      · rintro ⟨f, hf, hn⟩
        obtain ⟨e, he, rfl⟩ := List.mem_map.mp hf
        have hed := hsame e he hn
        exact hed ▸ (s.mem_selected.mp he).2
      · intro hm
        exact ⟨d.faultRecord, List.mem_map_of_mem (s.mem_selected.mpr ⟨hd, hm⟩), rfl⟩
    · rintro f hf hn
      obtain ⟨e, he, rfl⟩ := List.mem_map.mp hf
      rw [hsame e he hn]
  notStored := by
    intro high middle low recordNumber hn
    refine refuses_reportDtcExtDataRecord s inRequestBuffer recordNumber ?_
    exact (s.findDtcByNumber_eq_none_iff _).mpr fun d hd he => hn d hd he.symm

/-- A store of two DTCs, one of them failing, and the mask of the failing bit. -/
def oneOfTwo : DiagnosticTroubleCodeStore 2 :=
  ⟨[.ofNumber 0x010100 0x00, .ofNumber 0x010200 0x2F], by decide⟩

theorem viewsAgree_oneOfTwo :
    ViewsAgree oneOfTwo true 0x01 66 [⟨0x010200, 0x2F⟩] :=
  viewsAgree_of_nodup oneOfTwo true (by decide) (by decide) 0x01 (by decide) (by decide)

end ReadDTCInformation

end SovdDemo.Uds

import SovdDemo.Uds.Service

/-!
# What the services answer

The response of `reportDTCByStatusMask` is written by a loop over the store that appends four bytes
for each DTC the mask selects. The lemmas here replace the loop by the list of bytes it writes, cut
off where the response buffer ends.

## Main definitions

- `DiagnosticTroubleCode.record` — the four bytes of a DTC in the fault list
- `faultList` — the bytes of the whole response after the service id

## Main results

- `sent_processReportNumberOfDtcByStatusMask`, `sent_processReportDtcByStatusMask` — what goes out
  for a status mask
- `sent_processReportDtcExtDataRecord` — what goes out for a stored DTC number
-/

namespace SovdDemo.Uds

open Foundations

namespace IncomingDiagConnection

variable (c : IncomingDiagConnection)

def appendAll (bytes : List UInt8) : IncomingDiagConnection := bytes.foldl appendUint8 c

theorem appendAll_append (xs ys : List UInt8) :
    c.appendAll (xs ++ ys) = (c.appendAll xs).appendAll ys := List.foldl_append

/-- Bytes are appended as long as there is room, and dropped afterwards. -/
theorem appendAll_eq (bytes : List UInt8) : c.appendAll bytes =
    { c with response := c.response ++ bytes.take (c.capacity - c.response.length) } := by
  induction bytes generalizing c with
  | nil => simp [appendAll]
  | cons b bytes ih =>
    show (c.appendUint8 b).appendAll bytes = _
    rw [ih]
    unfold appendUint8
    split
    · -- one byte less of room
      rename_i hlt
      obtain ⟨k, hk⟩ : ∃ k, c.capacity - c.response.length = k + 1 :=
        ⟨c.capacity - c.response.length - 1, by omega⟩
      have hk' : c.capacity - (c.response ++ [b]).length = k := by
        rw [List.length_append, List.length_singleton]
        omega
      simp only [hk, hk', List.take_succ_cons, List.append_assoc, List.singleton_append]
    · rename_i hge
      have hzero : c.capacity - c.response.length = 0 := by omega
      simp [hzero]

theorem readRequest_incoming (request : List UInt8) (inRequestBuffer : Bool) (capacity i : Nat) :
    (incoming request inRequestBuffer capacity).readRequest i = request[i]? := by
  simp [readRequest, incoming]

/-- The connection after a positive response of `bytes` to `request`. -/
def answered (request : List UInt8) (inRequestBuffer : Bool) (capacity : Nat)
    (bytes : List UInt8) (serviceId : UInt8) : IncomingDiagConnection :=
  { incoming request inRequestBuffer capacity with
    released := true
    response := bytes.take capacity
    sent := [(serviceId + 0x40) :: bytes.take capacity] }

theorem send_appendAll_incoming (request : List UInt8) (inRequestBuffer : Bool) (capacity : Nat)
    (bytes : List UInt8) (serviceId : UInt8) :
    let response :=
      (incoming request inRequestBuffer capacity).releaseRequestGetResponse.appendAll bytes
    response.sendPositiveResponseInternal response.getLength serviceId =
      answered request inRequestBuffer capacity bytes serviceId := by
  simp [appendAll_eq, sendPositiveResponseInternal, getLength, releaseRequestGetResponse, incoming,
    answered, -List.length_take]

end IncomingDiagConnection

/-- The four bytes of a DTC in the fault list. -/
def DiagnosticTroubleCode.record (d : DiagnosticTroubleCode) : List UInt8 :=
  [d.getDtcHighByte, d.getDtcMiddleByte, d.getDtcLowByte, d.getStatusByte]

@[simp] theorem DiagnosticTroubleCode.length_record (d : DiagnosticTroubleCode) :
    d.record.length = 4 := rfl

section Bytes

variable (d : DiagnosticTroubleCode)

theorem toNat_getDtcHighByte : d.getDtcHighByte.toNat = d.dtcNumber.toNat / 2 ^ 16 := by
  have hd := d.dtcNumber_lt
  simp only [DiagnosticTroubleCode.getDtcHighByte, UInt32.toNat_toUInt8, UInt32.toNat_and,
    UInt32.toNat_shiftRight, UInt32.reduceToNat, land_0xFF, Nat.shiftRight_eq_div_pow,
    Nat.reduceMod]
  omega

theorem toNat_getDtcMiddleByte :
    d.getDtcMiddleByte.toNat = d.dtcNumber.toNat / 2 ^ 8 % 2 ^ 8 := by
  simp [DiagnosticTroubleCode.getDtcMiddleByte, land_0xFF, Nat.shiftRight_eq_div_pow]

theorem toNat_getDtcLowByte : d.getDtcLowByte.toNat = d.dtcNumber.toNat % 2 ^ 8 := by
  simp [DiagnosticTroubleCode.getDtcLowByte, land_0xFF]

theorem toNat_numberOfBytes (high middle low : UInt8) :
    (numberOfBytes high middle low).toNat =
      high.toNat * 2 ^ 16 + middle.toNat * 2 ^ 8 + low.toNat := by
  have hh := high.toNat_lt
  have hm := middle.toNat_lt
  rw [← or_three_bytes _ middle.toNat_lt low.toNat_lt]
  simp only [numberOfBytes, UInt32.toNat_or, UInt32.toNat_shiftLeft, UInt8.toNat_toUInt32,
    UInt32.reduceToNat, Nat.reduceMod, Nat.shiftLeft_eq]
  rw [Nat.mod_eq_of_lt (by omega), Nat.mod_eq_of_lt (by omega)]

/-- The bytes of a DTC give its number back. -/
theorem numberOfBytes_record :
    numberOfBytes d.getDtcHighByte d.getDtcMiddleByte d.getDtcLowByte = d.dtcNumber := by
  refine UInt32.toNat_inj.mp ?_
  rw [toNat_numberOfBytes, toNat_getDtcHighByte, toNat_getDtcMiddleByte, toNat_getDtcLowByte]
  omega

end Bytes

/-- The DTCs of a store that a mask selects, in store order. -/
def DiagnosticTroubleCodeStore.selected {N : Nat} (s : DiagnosticTroubleCodeStore N)
    (mask : UInt8) : List DiagnosticTroubleCode :=
  s.dtcs.filter fun d => d.matchesStatusMask mask

/-- The response of `reportDTCByStatusMask` after the service id. -/
def faultList {N : Nat} (s : DiagnosticTroubleCodeStore N) (mask : UInt8) : List UInt8 :=
  [0x02, 0xFF] ++ (s.selected mask).flatMap DiagnosticTroubleCode.record

theorem length_faultList {N : Nat} (s : DiagnosticTroubleCodeStore N) (mask : UInt8) :
    (faultList s mask).length = 2 + 4 * (s.selected mask).length := by
  simp only [faultList, List.length_append, List.length_flatMap,
    DiagnosticTroubleCode.length_record, List.map_const', List.sum_replicate_nat, List.length_cons,
    List.length_nil]
  omega

theorem foldl_range_getElem? {α β : Type} (l : List α) (f : β → Option α → β) (b : β) :
    (List.range l.length).foldl (fun b i => f b l[i]?) b = l.foldl (fun b a => f b (some a)) b := by
  have hmap : (List.range l.length).map (fun i => l[i]?) = l.map some := by
    ext i : 1
    by_cases hi : i < l.length
    · simp [hi]
    · simp [hi]
  rw [← List.foldl_map (f := fun i => l[i]?), hmap, List.foldl_map]

namespace ReadDTCInformation

theorem appendDtc_eq (c : IncomingDiagConnection) (d : DiagnosticTroubleCode) :
    appendDtc c d = c.appendAll d.record := rfl

/-- The body of the loop over the store. -/
def appendIfSelected (mask : UInt8) (c : IncomingDiagConnection) :
    Option DiagnosticTroubleCode → IncomingDiagConnection
  | some d => if d.matchesStatusMask mask then appendDtc c d else c
  | none => c

/-- The loop over the store appends the records of the selected DTCs. -/
theorem foldl_appendDtc (dtcs : List DiagnosticTroubleCode) (mask : UInt8)
    (c : IncomingDiagConnection) :
    dtcs.foldl (fun c d => appendIfSelected mask c (some d)) c =
      c.appendAll ((dtcs.filter fun d => d.matchesStatusMask mask).flatMap
        DiagnosticTroubleCode.record) := by
  induction dtcs generalizing c with
  | nil => rfl
  | cons d dtcs ih =>
    rw [List.foldl_cons, ih, List.filter_cons, appendIfSelected]
    split
    · rw [List.flatMap_cons, IncomingDiagConnection.appendAll_append, appendDtc_eq]
    · rfl

variable {N : Nat} (s : DiagnosticTroubleCodeStore N)

theorem processReportDtcByStatusMask_eq (request : List UInt8) (inRequestBuffer : Bool)
    (capacity : Nat) (mask : UInt8) :
    processReportDtcByStatusMask s (.incoming request inRequestBuffer capacity) mask =
      (.ok, s, .answered request inRequestBuffer capacity (faultList s mask) serviceId) := by
  have hmask : mask &&& 0xFF = mask := by
    rw [show (0xFF : UInt8) = -1 from rfl, UInt8.and_neg_one]
  let response := (IncomingDiagConnection.incoming request inRequestBuffer
    capacity).releaseRequestGetResponse
  -- the loop asks for each index up to the count, and every one of them has an entry
  have hloop :=
    foldl_range_getElem? s.dtcs (appendIfSelected mask) (response.appendAll [0x02, 0xFF])
  rw [foldl_appendDtc, ← IncomingDiagConnection.appendAll_append] at hloop
  rw [← IncomingDiagConnection.send_appendAll_incoming]
  unfold processReportDtcByStatusMask
  dsimp only [IDtcProvider.getStatusAvailabilityMask, IDtcProvider.getDtcCount,
    IDtcProvider.getDtcByIndex, DiagnosticTroubleCodeStore.getStatusAvailabilityMask]
  rw [hmask]
  exact congrArg (fun response : IncomingDiagConnection =>
    (DiagReturnCode.ok, s,
      response.sendPositiveResponseInternal response.getLength serviceId)) hloop

theorem sent_processReportDtcByStatusMask (request : List UInt8) (inRequestBuffer : Bool)
    (capacity : Nat) (mask : UInt8) :
    (processReportDtcByStatusMask s (.incoming request inRequestBuffer capacity) mask).2.2.sent =
      [0x59 :: (faultList s mask).take capacity] := by
  rw [processReportDtcByStatusMask_eq]
  rfl

/-- The response of `reportNumberOfDTCByStatusMask` after the service id. -/
def countReport (count : Nat) : List UInt8 :=
  [0x01, 0xFF, 0x01, UInt8.ofNat ((count >>> 8) &&& 0xFF), UInt8.ofNat (count &&& 0xFF)]

theorem processReportNumberOfDtcByStatusMask_eq (request : List UInt8) (inRequestBuffer : Bool)
    (capacity : Nat) (mask : UInt8) :
    processReportNumberOfDtcByStatusMask s (.incoming request inRequestBuffer capacity) mask =
      (.ok, s, .answered request inRequestBuffer capacity
        (countReport (s.countByStatusMask mask)) serviceId) := by
  have hmask : mask &&& 0xFF = mask := by
    rw [show (0xFF : UInt8) = -1 from rfl, UInt8.and_neg_one]
  rw [← IncomingDiagConnection.send_appendAll_incoming]
  dsimp only [processReportNumberOfDtcByStatusMask, IDtcProvider.getStatusAvailabilityMask,
    IDtcProvider.countByStatusMask, DiagnosticTroubleCodeStore.getStatusAvailabilityMask]
  rw [hmask]
  simp only [countReport, IncomingDiagConnection.appendAll, List.foldl_cons, List.foldl_nil]
  rfl

theorem sent_processReportNumberOfDtcByStatusMask (request : List UInt8) (inRequestBuffer : Bool)
    (capacity : Nat) (mask : UInt8) :
    (processReportNumberOfDtcByStatusMask s (.incoming request inRequestBuffer capacity)
      mask).2.2.sent = [0x59 :: (countReport (s.countByStatusMask mask)).take capacity] := by
  rw [processReportNumberOfDtcByStatusMask_eq]
  rfl

/-- What the switch makes of a request with a parameter byte. -/
theorem process_cons_cons (first second : UInt8) (rest : List UInt8) (inRequestBuffer : Bool)
    (capacity : Nat) :
    process s (.incoming (first :: second :: rest) inRequestBuffer capacity) =
      let c := IncomingDiagConnection.incoming (first :: second :: rest) inRequestBuffer capacity
      if first &&& 0x7F = reportNumberOfDtcByStatusMask then
        some (processReportNumberOfDtcByStatusMask s c second)
      else if first &&& 0x7F = reportDtcByStatusMask then
        some (processReportDtcByStatusMask s c second)
      else if first &&& 0x7F = reportDtcExtDataRecordByDtcNumber then
        processReportDtcExtDataRecord s c
      else some (.isoSubfunctionNotSupported, s, c) := by
  have hlen : ¬ (IncomingDiagConnection.incoming (first :: second :: rest) inRequestBuffer
      capacity).requestLength < 2 := by
    simp [IncomingDiagConnection.requestLength, IncomingDiagConnection.incoming]
  rw [process, IncomingDiagConnection.readRequest_incoming,
    IncomingDiagConnection.readRequest_incoming, if_neg hlen, if_neg hlen]
  rfl

theorem process_reportDtcByStatusMask (mask : UInt8) (inRequestBuffer : Bool)
    (capacity : Nat) :
    process s (.incoming [0x02, mask] inRequestBuffer capacity) =
      some (processReportDtcByStatusMask s (.incoming [0x02, mask] inRequestBuffer capacity)
        mask) :=
  process_cons_cons s 0x02 mask [] inRequestBuffer capacity

theorem process_reportDtcExtDataRecord (second : UInt8) (rest : List UInt8)
    (inRequestBuffer : Bool) (capacity : Nat) :
    process s (.incoming (0x06 :: second :: rest) inRequestBuffer capacity) =
      processReportDtcExtDataRecord s
        (.incoming (0x06 :: second :: rest) inRequestBuffer capacity) :=
  process_cons_cons s 0x06 second rest inRequestBuffer capacity

theorem process_reportNumberOfDtcByStatusMask (mask : UInt8) (inRequestBuffer : Bool)
    (capacity : Nat) :
    process s (.incoming [0x01, mask] inRequestBuffer capacity) =
      some (processReportNumberOfDtcByStatusMask s
        (.incoming [0x01, mask] inRequestBuffer capacity) mask) :=
  process_cons_cons s 0x01 mask [] inRequestBuffer capacity

/-- The request as it can still be read once `bytes` have been appended to the response. -/
theorem readRequest_appendAll (request bytes : List UInt8) (inRequestBuffer : Bool)
    (capacity i : Nat) :
    ((IncomingDiagConnection.incoming request inRequestBuffer
      capacity).releaseRequestGetResponse.appendAll bytes).readRequest i =
      if inRequestBuffer ∧ i < min capacity bytes.length then bytes[i]? else request[i]? := by
  simp only [IncomingDiagConnection.appendAll_eq, IncomingDiagConnection.readRequest,
    IncomingDiagConnection.releaseRequestGetResponse, IncomingDiagConnection.incoming,
    List.nil_append, List.length_nil, Nat.sub_zero, true_and, List.length_take]
  split
  · rename_i h
    rw [List.getElem?_take_of_lt (by omega)]
  · rfl

theorem processReportDtcExtDataRecord_dtcStore (sim : DtcSimulator)
    (c : IncomingDiagConnection) :
    processReportDtcExtDataRecord sim c =
      (processReportDtcExtDataRecord sim.dtcStore c).map fun r => (r.1, sim, r.2.2) := by
  have hfind : ∀ n, IDtcProvider.findDtcByNumber sim n =
    IDtcProvider.findDtcByNumber sim.dtcStore n := fun _ => rfl
  simp only [processReportDtcExtDataRecord, Option.bind_eq_bind, hfind]
  split
  · rfl
  · -- where a byte cannot be read there is no result for either
    rcases c.readRequest 1 with _ | high
    · rfl
    rcases c.readRequest 2 with _ | middle
    · rfl
    rcases c.readRequest 3 with _ | low
    · rfl
    simp only [Option.bind_some]
    split
    · rfl
    · simp only [Option.map_bind]
      rfl

/-- The simulator answers as its store does, and stays as it is. -/
theorem process_dtcStore (sim : DtcSimulator) (c : IncomingDiagConnection) :
    process sim c = (process sim.dtcStore c).map fun r => (r.1, sim, r.2.2) := by
  simp only [process, Option.bind_eq_bind]
  rcases c.readRequest 0 with _ | first
  · rfl
  simp only [Option.bind_some]
  by_cases hcount : first &&& 0x7F = reportNumberOfDtcByStatusMask
  · rw [if_pos hcount, if_pos hcount]
    split
    · rfl
    · cases c.readRequest 1 <;> rfl
  rw [if_neg hcount, if_neg hcount]
  by_cases hlist : first &&& 0x7F = reportDtcByStatusMask
  · rw [if_pos hlist, if_pos hlist]
    split
    · rfl
    · cases c.readRequest 1 <;> rfl
  rw [if_neg hlist, if_neg hlist]
  by_cases hext : first &&& 0x7F = reportDtcExtDataRecordByDtcNumber
  · rw [if_pos hext, if_pos hext]
    exact processReportDtcExtDataRecord_dtcStore sim c
  · rw [if_neg hext, if_neg hext]
    rfl

section ExtDataRecord

variable (first high middle low recordNumber : UInt8) (rest : List UInt8) (inRequestBuffer : Bool)
  (capacity : Nat)

/-- A request for extended data is looked up by its three number bytes. -/
theorem processReportDtcExtDataRecord_cons :
    processReportDtcExtDataRecord s (.incoming (first :: high :: middle :: low :: recordNumber ::
        rest) inRequestBuffer capacity) =
      match s.findDtcByNumber (numberOfBytes high middle low) with
      | none => some (.isoRequestOutOfRange, s, .incoming (first :: high :: middle :: low ::
          recordNumber :: rest) inRequestBuffer capacity)
      | some d =>
        let response := (IncomingDiagConnection.incoming (first :: high :: middle :: low ::
          recordNumber :: rest) inRequestBuffer capacity).releaseRequestGetResponse.appendAll
            ([0x06] ++ d.record)
        (response.readRequest 4).bind fun x =>
          let response := response.appendAll [x, occurrenceCounter d]
          some (.ok, s, response.sendPositiveResponseInternal response.getLength serviceId) := by
  have hread := IncomingDiagConnection.readRequest_incoming
    (first :: high :: middle :: low :: recordNumber :: rest) inRequestBuffer capacity
  have hlen : ¬ (IncomingDiagConnection.incoming (first :: high :: middle :: low ::
      recordNumber :: rest) inRequestBuffer capacity).requestLength < 5 := by
    simp [IncomingDiagConnection.requestLength, IncomingDiagConnection.incoming]
  rw [processReportDtcExtDataRecord, if_neg hlen, hread, hread, hread]
  simp only [List.getElem?_cons_succ, List.getElem?_cons_zero, Option.bind_eq_bind,
    Option.bind_some]
  have hfind : IDtcProvider.findDtcByNumber s (numberOfBytes high middle low) =
      s.findDtcByNumber (numberOfBytes high middle low) := rfl
  rw [hfind]
  cases s.findDtcByNumber (numberOfBytes high middle low) with
  | none => rfl
  | some d =>
    have happend : ∀ c : IncomingDiagConnection,
        appendDtc (c.appendUint8 reportDtcExtDataRecordByDtcNumber) d =
          c.appendAll ([0x06] ++ d.record) := by
      intro c
      rw [appendDtc_eq, IncomingDiagConnection.appendAll_append]
      rfl
    dsimp only
    rw [happend]
    generalize (IncomingDiagConnection.incoming (first :: high :: middle :: low :: recordNumber ::
      rest) inRequestBuffer capacity).releaseRequestGetResponse.appendAll ([0x06] ++ d.record) =
        response
    rfl

/-- The response of `reportDTCExtDataRecordByDTCNumber` after the service id. -/
def extDataRecord (d : DiagnosticTroubleCode) (recordNumber : UInt8) : List UInt8 :=
  [0x06] ++ d.record ++ [recordNumber, occurrenceCounter d]

theorem take_extDataRecord (d : DiagnosticTroubleCode) {capacity : Nat} (hc : capacity ≤ 5)
    (x : UInt8) : (extDataRecord d x).take capacity = ([0x06] ++ d.record).take capacity := by
  have hlen : capacity ≤ ([0x06] ++ d.record).length := by simpa using hc
  exact List.take_append_of_le_length hlen

variable {high middle low} in
/-- The record number is read after the first five bytes have been written: in the request's own
buffer they have replaced it by the status byte. -/
theorem processReportDtcExtDataRecord_eq {d : DiagnosticTroubleCode}
    (hd : s.findDtcByNumber (numberOfBytes high middle low) = some d) :
    processReportDtcExtDataRecord s (.incoming (first :: high :: middle :: low :: recordNumber ::
        rest) inRequestBuffer capacity) =
      some (.ok, s, .answered (first :: high :: middle :: low :: recordNumber :: rest)
        inRequestBuffer capacity
        (extDataRecord d (if inRequestBuffer then d.statusByte else recordNumber)) serviceId) := by
  have hread : ∃ x, (if inRequestBuffer ∧ 4 < min capacity ([0x06] ++ d.record).length then
      ([0x06] ++ d.record)[4]?
      else (first :: high :: middle :: low :: recordNumber :: rest)[4]?) = some x ∧
      (5 ≤ capacity → x = if inRequestBuffer then d.statusByte else recordNumber) := by
    cases inRequestBuffer with
    | false => exact ⟨recordNumber, by simp, fun _ => rfl⟩
    | true =>
      by_cases hc : 5 ≤ capacity
      · -- the fifth byte of the response is the status byte
        have hlt : 4 < min capacity ([0x06] ++ d.record).length := Nat.lt_min.mpr ⟨hc, by simp⟩
        exact ⟨d.statusByte, by rw [if_pos ⟨rfl, hlt⟩]; rfl, fun _ => rfl⟩
      · have hge : ¬ 4 < min capacity ([0x06] ++ d.record).length := by omega
        exact ⟨recordNumber, by rw [if_neg fun h => hge h.2]; rfl, fun h => absurd h hc⟩
  obtain ⟨x, hx, hcap⟩ := hread
  rw [processReportDtcExtDataRecord_cons, hd]
  dsimp only
  rw [readRequest_appendAll, hx, Option.bind_some, ← IncomingDiagConnection.appendAll_append,
    IncomingDiagConnection.send_appendAll_incoming]
  show some (DiagReturnCode.ok, s, IncomingDiagConnection.answered _ _ _ (extDataRecord d x) _) = _
  by_cases hc : 5 ≤ capacity
  · rw [hcap hc]
  · simp only [IncomingDiagConnection.answered, take_extDataRecord d (Nat.le_of_not_le hc)]

variable {high middle low} in
theorem sent_processReportDtcExtDataRecord {d : DiagnosticTroubleCode}
    (hd : s.findDtcByNumber (numberOfBytes high middle low) = some d) :
    ∃ c, processReportDtcExtDataRecord s
        (.incoming [0x06, high, middle, low, recordNumber] inRequestBuffer capacity) =
          some (.ok, s, c) ∧
      c.sent = [0x59 :: (extDataRecord d
        (if inRequestBuffer then d.statusByte else recordNumber)).take capacity] :=
  ⟨_, processReportDtcExtDataRecord_eq s 0x06 recordNumber [] inRequestBuffer capacity hd, rfl⟩

end ExtDataRecord

end ReadDTCInformation

end SovdDemo.Uds

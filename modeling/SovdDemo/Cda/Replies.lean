import SovdDemo.Cda.Exchange

/-!
# What the endpoints make of a reply

Each decoder checks the length and the first byte of the reply and then takes it apart. Behind the
check nothing can go wrong: every index is in range and every `struct.unpack` gets the bytes it
needs. The one exception is `clear_faults`, which has no check for an empty reply.

## Main definitions

- `recordsOf` — the four-byte records of a fault list

## Main results

- `dtcRecords_eq` — the loop over the records, with its bound `len - 3`, reads all of them
- `readFaultsReply_eq`, `readFaultDetailReply_eq`, `clearFaultsReply_eq`, `readDataReply_eq`
- `readData_of_reply` — `read_data` passes a positive reply on to its decoder
-/

namespace SovdDemo.Cda

open Foundations

theorem index_natCast {α : Type} (xs : List α) (i : Nat) :
    index xs (i : Int) = match xs[i]? with
      | some x => .ok x
      | none => .error .indexError := by
  rw [index]
  cases h : xs[i]? <;> simp only [pyIndex_natCast, h]

theorem index_of_lt {α : Type} {xs : List α} {i : Nat} (h : i < xs.length) :
    index xs (i : Int) = .ok xs[i] := by
  rw [index_natCast, List.getElem?_eq_getElem h]

theorem negativeResponseCode_eq_some_iff {resp : List UInt8} {nrc : UInt8} :
    negativeResponseCode resp = some nrc ↔
      3 ≤ resp.length ∧ resp[0]? = some 0x7F ∧ resp[2]? = some nrc := by
  rcases resp with _ | ⟨sid, _ | ⟨b, _ | ⟨c, rest⟩⟩⟩ <;> simp [negativeResponseCode]

/-! Fault lists -/

/-- The number of a DTC from its three bytes. -/
def dtcNumOf (dtcHi dtcMid dtcLo : UInt8) : Nat :=
  dtcHi.toNat <<< 16 ||| dtcMid.toNat <<< 8 ||| dtcLo.toNat

/-- The records of a fault list; bytes that do not fill a record are left over. -/
def recordsOf : List UInt8 → List (Nat × UInt8)
  | dtcHi :: dtcMid :: dtcLo :: statusByte :: rest =>
    (dtcNumOf dtcHi dtcMid dtcLo, statusByte) :: recordsOf rest
  | _ => []

/-- The body of the loop over the records, at a position of the list. -/
def recordAt (dtcData : List UInt8) (i : Nat) : Except PyException (Nat × UInt8) := do
  let dtcHi ← index dtcData (i : Int)
  let dtcMid ← index dtcData ((i + 1 : Nat) : Int)
  let dtcLo ← index dtcData ((i + 2 : Nat) : Int)
  let statusByte ← index dtcData ((i + 3 : Nat) : Int)
  return (dtcNumOf dtcHi dtcMid dtcLo, statusByte)

/-- The loop runs once for every complete record. -/
theorem pyRange_records (length : Nat) :
    pyRange 0 (length - 3) 4 = (List.range (length / 4)).map fun k => ((4 * k : Nat) : Int) := by
  have hcount : (((length : Int) - 3 - 0 + (4 : Nat) - 1) / (4 : Nat)).toNat = length / 4 := by
    omega
  rw [pyRange, hcount]
  apply List.map_congr_left
  intro k _
  push_cast
  omega

theorem recordAt_add_four (a b c d : UInt8) (rest : List UInt8) (i : Nat) :
    recordAt (a :: b :: c :: d :: rest) (i + 4) = recordAt rest i := by
  have hshift : ∀ j : Nat, index (a :: b :: c :: d :: rest) ((j + 4 : Nat) : Int) =
      index rest (j : Int) := by
    intro j
    rw [index_natCast, index_natCast]
    rfl
  unfold recordAt
  rw [hshift i, show i + 4 + 1 = (i + 1) + 4 by omega, hshift (i + 1),
    show i + 4 + 2 = (i + 2) + 4 by omega, hshift (i + 2),
    show i + 4 + 3 = (i + 3) + 4 by omega, hshift (i + 3)]

theorem mapM_recordAt (dtcData : List UInt8) :
    (List.range (dtcData.length / 4)).mapM (fun k => recordAt dtcData (4 * k)) =
      .ok (recordsOf dtcData) := by
  induction dtcData using recordsOf.induct with
  | case1 a b c d rest ih =>
    -- one complete record, and the loop over the rest, four positions later
    have hlen : (a :: b :: c :: d :: rest).length / 4 = rest.length / 4 + 1 := by
      simp only [List.length_cons]
      omega
    have hshift : ∀ k, recordAt (a :: b :: c :: d :: rest) (4 * (k + 1)) = recordAt rest (4 * k) :=
      fun k => recordAt_add_four a b c d rest (4 * k)
    rw [hlen, List.range_succ_eq_map, List.mapM_cons, List.mapM_map]
    simp only [Function.comp_def, Nat.succ_eq_add_one, hshift, ih]
    rfl
  | case2 dtcData h =>
    -- fewer than four bytes: the loop does not run
    have hlen : dtcData.length / 4 = 0 := by
      rcases dtcData with _ | ⟨a, _ | ⟨b, _ | ⟨c, _ | ⟨d, rest⟩⟩⟩⟩
      · simp
      · simp
      · simp
      · simp
      · exact absurd rfl (h a b c d rest)
    rw [hlen]
    unfold recordsOf
    split
    · exact absurd rfl (h _ _ _ _ _)
    · rfl

theorem dtcRecords_eq (dtcData : List UInt8) : dtcRecords dtcData = .ok (recordsOf dtcData) := by
  have hbody : dtcRecords dtcData =
      (List.range (dtcData.length / 4)).mapM fun k => recordAt dtcData (4 * k) := by
    rw [dtcRecords, pyRange_records, List.mapM_map]
    rfl
  rw [hbody, mapM_recordAt]

/-- The entries of a fault list, with their texts from the catalog. -/
def entriesOf (dtcCatalog : Dict DtcInfo) (records : List (Nat × UInt8)) : List FaultEntry :=
  records.map fun (dtcNum, statusByte) => faultEntry dtcCatalog (dtcHex dtcNum) statusByte

/-- The availability mask of a reply to `0x19 0x02`. -/
def availabilityMaskOf (resp : List UInt8) : String := "0x" ++ hexUpper 2 (resp.getD 2 0).toNat

theorem readFaultsReply_eq (dtcCatalog : Dict DtcInfo) (resp : List UInt8) :
    readFaultsReply dtcCatalog resp =
      if resp.length < 3 ∨ resp[0]? ≠ some 0x59 then .error unexpectedFormat
      else .ok {
        availabilityMask := availabilityMaskOf resp
        count := (entriesOf dtcCatalog (recordsOf (resp.drop 3))).length
        items := entriesOf dtcCatalog (recordsOf (resp.drop 3)) } := by
  rw [readFaultsReply]
  split
  · rfl
  · rename_i h
    have hlen : 2 < resp.length := by omega
    have hindex : index resp 2 = .ok (resp.getD 2 0) := by
      rw [List.getD_eq_getElem _ _ hlen]
      exact index_of_lt hlen
    rw [hindex, dtcRecords_eq]
    rfl

theorem readFaultDetailReply_eq (dtcCatalog : Dict DtcInfo) (dtcNum : Int) (resp : List UInt8) :
    readFaultDetailReply dtcCatalog dtcNum resp =
      if resp.length < 7 ∨ resp[0]? ≠ some 0x59 then .error unexpectedFormat
      else .ok {
        toFaultEntry := faultEntry dtcCatalog (dtcHex dtcNum) (resp.getD 5 0)
        occurrenceCounter := some (resp.getD 6 0) } := by
  rw [readFaultDetailReply]
  by_cases h : resp.length < 7 ∨ resp[0]? ≠ some 0x59
  · simp only [if_pos h]
    rfl
  · have hlen : 6 < resp.length := by omega
    have hstatus : index resp 5 = .ok (resp.getD 5 0) := by
      rw [List.getD_eq_getElem _ _ (by omega)]
      exact index_of_lt (i := 5) (by omega)
    have hcounter : index resp 6 = .ok (resp.getD 6 0) := by
      rw [List.getD_eq_getElem _ _ hlen]
      exact index_of_lt hlen
    simp only [if_neg h, hstatus, hcounter, if_pos (show resp.length > 6 from hlen)]
    rfl

theorem clearFaultsReply_eq (group : String) (resp : List UInt8) :
    clearFaultsReply group resp =
      match resp with
      | [] => .error .indexError
      | sid :: _ =>
        if sid ≠ 0x54 then .error unexpectedClearResponse
        else .ok ⟨"ok", "DTCs cleared successfully", group⟩ := by
  rw [clearFaultsReply]
  cases resp with
  | nil => rfl
  | cons sid rest =>
    have hsid : index (sid :: rest) 0 = .ok sid := by
      rw [show (0 : Int) = ((0 : Nat) : Int) from rfl, index_natCast]
      rfl
    simp only [hsid, bind, Except.bind]
    by_cases h : sid ≠ 0x54
    · simp only [if_pos h]
      rfl
    · simp only [if_neg h]
      rfl

/-! Values -/

/-- The value of a DID, for data of every length. -/
def valueOf (fmt : String) (dataBytes : List UInt8) : Option Int :=
  if fmt = "int32" ∧ 4 ≤ dataBytes.length then some (signed 32 (beNat (dataBytes.take 4)))
  else if fmt = "uint16" ∧ 2 ≤ dataBytes.length then some (beNat (dataBytes.take 2))
  else if fmt = "int16" ∧ 2 ≤ dataBytes.length then some (signed 16 (beNat (dataBytes.take 2)))
  else none

theorem decodeValue_eq (fmt : String) (dataBytes : List UInt8) :
    decodeValue fmt dataBytes = .ok (valueOf fmt dataBytes) := by
  rw [decodeValue, valueOf]
  split
  · rename_i h
    simp [unpacked, unpackInt32, h.2]
  · split
    · rename_i h
      simp [unpacked, unpackUInt16, h.2]
    · split
      · rename_i h
        simp [unpacked, unpackInt16, h.2]
      · rfl

theorem readDataReply_eq (didCatalog : Dict DidInfo) (didNum : Int) (resp : List UInt8) :
    readDataReply didCatalog didNum resp =
      let cat := (didCatalog.get (didHex didNum)).getD .unlisted
      if resp.length < 3 ∨ resp[0]? ≠ some 0x62 then .error unexpectedFormat
      else .ok {
        did := didHex didNum
        name := cat.name.getD s!"DID_{didHex didNum}"
        description := cat.description.getD "Unknown DID"
        rawHex := bytesHex (resp.drop 3)
        value := valueOf (cat.format.getD "raw") (resp.drop 3)
        unit := cat.unit } := by
  simp only [readDataReply]
  split
  · rfl
  · rw [decodeValue_eq]
    rfl

/-- A positive reply is passed on to the decoder of `read_data`. -/
theorem readData_of_reply {env : PyEnv} {catalog : Catalog} {componentId : String}
    {comp : Component} (hc : catalog.components.get componentId = some comp) {did : String}
    {n : Int} (hn : intBase16 did = some n) {w : World} {resp : List UInt8}
    (hx : exchange env comp w = .reply resp) (h62 : resp[0]? = some 0x62) :
    readData env catalog componentId did w =
      resultIn (w.afterCall env comp ((Call.readData did).request n))
        (readDataReply comp.dids n resp) := by
  have hneg : negativeResponseCode resp = none := by
    cases hnrc : negativeResponseCode resp with
    | none => rfl
    | some nrc =>
      have h7F := (negativeResponseCode_eq_some_iff.mp hnrc).2.1
      rw [h62] at h7F
      exact absurd h7F (by decide)
  have hout : (exchange env comp w).outcome env = .ok resp :=
    Exchange.outcome_eq_ok_iff.mpr ⟨hx, hneg⟩
  rw [Call.readData_eq hc hn, hout]
  rfl

end SovdDemo.Cda

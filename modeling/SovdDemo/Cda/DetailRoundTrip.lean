import SovdDemo.Cda.RoundTrip

/-!
# A fault detail on its way from the ECU to a client

The ECU puts the record number in front of the occurrence counter, and `read_fault_detail` takes the
byte behind the status for the counter. What it shows as counter is therefore the record number of
its own request, or, where the response is built in the request's buffer, the status byte that has
been written over it.

## Main definitions

- `extDataReply` — the whole reply of the ECU
- `DetailOf` — a detail shows a DTC: its number, its status byte and its occurrence counter

## Main results

- `readFaultDetail_extDataReply` — what `read_fault_detail` makes of the reply
- `readFaultDetail_roundTrip`
-/

namespace SovdDemo.Cda

open Foundations Uds ReadDTCInformation

/-- The reply of the ECU with the record number 0xFF. -/
def extDataReply (d : DiagnosticTroubleCode) (inRequestBuffer : Bool) (capacity : Nat) :
    List UInt8 :=
  0x59 :: (extDataRecord d (if inRequestBuffer then d.statusByte else 0xFF)).take capacity

/-- The request of `read_fault_detail` for the number of `d`. -/
def detailRequest (d : DiagnosticTroubleCode) : List UInt8 :=
  [0x19, 0x06, d.getDtcHighByte, d.getDtcMiddleByte, d.getDtcLowByte, 0xFF]

/-- `detail` shows `d`. -/
structure DetailOf (d : DiagnosticTroubleCode) (detail : FaultDetail) : Prop where
  number : intBase16 detail.id = some (d.dtcNumber.toNat : Int)
  statusByte : detail.statusByte = d.statusByte
  counter : detail.occurrenceCounter = some (occurrenceCounter d)

theorem request_eq_detailRequest (d : DiagnosticTroubleCode) (dtcId : String) :
    (Call.readFaultDetail dtcId).request d.dtcNumber.toNat = detailRequest d := by
  have hbyte : ∀ (b : UInt8) (shift : Nat), b.toNat = d.dtcNumber.toNat / 2 ^ shift % 2 ^ 8 →
      Call.wireByte d.dtcNumber.toNat shift = b := by
    intro b shift hb
    have hwire := Call.wireByte_toNat d.dtcNumber.toNat shift
    rw [byteOf_eq] at hwire
    refine UInt8.toNat_inj.mp ?_
    rw [hb]
    exact_mod_cast hwire
  have hd := d.dtcNumber_lt
  have hhigh := toNat_getDtcHighByte d
  have hmiddle := toNat_getDtcMiddleByte d
  have hlow := toNat_getDtcLowByte d
  rw [Call.request, hbyte d.getDtcHighByte 16 (by omega), hbyte d.getDtcMiddleByte 8 (by omega),
    hbyte d.getDtcLowByte 0 (by omega)]
  rfl

/-- A stored DTC, or another one of the same number before it. -/
theorem exists_findDtcByNumber {N : Nat} {s : DiagnosticTroubleCodeStore N}
    {d : DiagnosticTroubleCode} (hd : d ∈ s.dtcs) :
    ∃ e, s.findDtcByNumber d.dtcNumber = some e := by
  apply Option.ne_none_iff_exists'.mp
  intro hnone
  exact (s.findDtcByNumber_eq_none_iff d.dtcNumber).mp hnone d hd rfl

theorem ecuAnswers_extDataReply {N : Nat} {s : DiagnosticTroubleCodeStore N}
    {d e : DiagnosticTroubleCode} (he : s.findDtcByNumber d.dtcNumber = some e)
    (inRequestBuffer : Bool) (capacity : Nat) :
    EcuAnswers s inRequestBuffer capacity (detailRequest d)
      (extDataReply e inRequestBuffer capacity) := by
  rw [← numberOfBytes_record d] at he
  obtain ⟨c, hprocess, hsent⟩ : ∃ c, processReportDtcExtDataRecord s (.incoming
      [0x06, d.getDtcHighByte, d.getDtcMiddleByte, d.getDtcLowByte, 0xFF] inRequestBuffer
      capacity) = some (.ok, s, c) ∧ c.sent = [extDataReply e inRequestBuffer capacity] :=
    sent_processReportDtcExtDataRecord s 0xFF inRequestBuffer capacity he
  rw [← ReadDTCInformation.process_reportDtcExtDataRecord] at hprocess
  exact ⟨_, _, c, rfl, hprocess, hsent⟩

theorem length_extDataReply (d : DiagnosticTroubleCode) (inRequestBuffer : Bool) (capacity : Nat) :
    (extDataReply d inRequestBuffer capacity).length = min capacity 7 + 1 := by
  rw [extDataReply, List.length_cons, List.length_take]
  rfl

/-- What `read_fault_detail` makes of the reply. -/
theorem readFaultDetailReply_extDataReply (dtcCatalog : Dict DtcInfo) (dtcNum : Int)
    (d : DiagnosticTroubleCode) (inRequestBuffer : Bool) (capacity : Nat) :
    readFaultDetailReply dtcCatalog dtcNum (extDataReply d inRequestBuffer capacity) =
      if 6 ≤ capacity then .ok {
        toFaultEntry := faultEntry dtcCatalog (dtcHex dtcNum) d.statusByte
        occurrenceCounter := some (if inRequestBuffer then d.statusByte else 0xFF) }
      else .error unexpectedFormat := by
  have hlen := length_extDataReply d inRequestBuffer capacity
  rw [readFaultDetailReply_eq]
  by_cases hcap : 6 ≤ capacity
  · obtain ⟨k, rfl⟩ : ∃ k, capacity = 6 + k := ⟨capacity - 6, by omega⟩
    have hformat : ¬ ((extDataReply d inRequestBuffer (6 + k)).length < 7 ∨
        (extDataReply d inRequestBuffer (6 + k))[0]? ≠ some 0x59) := by
      rintro (hshort | hsid)
      · omega
      · exact hsid rfl
    have hstatus : (extDataReply d inRequestBuffer (6 + k)).getD 5 0 = d.statusByte := by
      simp [extDataReply, extDataRecord, DiagnosticTroubleCode.record, Nat.add_comm 6 k,
        DiagnosticTroubleCode.getStatusByte]
    have hcounter : (extDataReply d inRequestBuffer (6 + k)).getD 6 0 =
        if inRequestBuffer then d.statusByte else 0xFF := by
      simp [extDataReply, extDataRecord, DiagnosticTroubleCode.record, Nat.add_comm 6 k]
    rw [if_neg hformat, if_pos hcap, hstatus, hcounter]
  · rw [if_pos (.inl (by omega)), if_neg hcap]

variable {env : PyEnv} {catalog : Catalog} {componentId : String} {comp : Component}

theorem readFaultDetail_extDataReply (hc : catalog.components.get componentId = some comp)
    {dtcId : String} {n : Int} (hn : intBase16 dtcId = some n) {d : DiagnosticTroubleCode}
    {inRequestBuffer : Bool} {capacity : Nat} {w : World}
    (hx : exchange env comp w = .reply (extDataReply d inRequestBuffer capacity)) :
    readFaultDetail env catalog componentId dtcId w =
      resultIn (w.exchanged ((Call.readFaultDetail dtcId).request n))
        (if 6 ≤ capacity then .ok {
          toFaultEntry := faultEntry comp.dtcs (dtcHex n) d.statusByte
          occurrenceCounter := some (if inRequestBuffer then d.statusByte else 0xFF) }
        else .error unexpectedFormat) := by
  have hneg : negativeResponseCode (extDataReply d inRequestBuffer capacity) = none := by
    apply Option.eq_none_iff_forall_ne_some.mpr
    intro nrc hnrc
    obtain ⟨-, hsid, -⟩ := negativeResponseCode_eq_some_iff.mp hnrc
    exact absurd hsid (by rw [extDataReply, List.getElem?_cons_zero]; decide)
  have hout : (exchange env comp w).outcome env =
      .ok (extDataReply d inRequestBuffer capacity) := by
    simp [hx, Exchange.outcome, Exchange.chosen, hneg, Except.mapError]
  rw [Call.readFaultDetail_eq hc hn, hout, World.afterCall, hx, ← readFaultDetailReply_extDataReply]
  rfl

/-- The byte that is shown is the counter of the ECU only by chance. -/
theorem shown_eq_occurrenceCounter_iff (d : DiagnosticTroubleCode) (inRequestBuffer : Bool) :
    (if inRequestBuffer then d.statusByte else 0xFF) = occurrenceCounter d ↔
      inRequestBuffer = true ∧ (d.statusByte = 0 ∨ d.statusByte = 1) := by
  have hcounter : occurrenceCounter d =
      if d.statusByte &&& 0x01 ≠ 0 then 0x01 else 0x00 := rfl
  rw [hcounter]
  cases inRequestBuffer with
  | false => by_cases hbit : d.statusByte &&& 0x01 = 0 <;> simp [hbit]
  | true =>
    by_cases hbit : d.statusByte &&& 0x01 ≠ 0
    · have hzero : d.statusByte ≠ 0 := fun h => hbit (by rw [h]; rfl)
      simp [hbit, hzero]
    · have hone : d.statusByte ≠ 1 := fun h => hbit (by rw [h]; decide)
      simp [hbit, hone]

/-- The ECU answers for every stored DTC, and what `read_fault_detail` makes of the answer shows
that DTC exactly when the response is built in the request's buffer, there is room for six bytes,
and the status is 0 or 1 and the same for the first stored DTC of that number. -/
theorem readFaultDetail_roundTrip {N : Nat} (s : DiagnosticTroubleCodeStore N)
    {d : DiagnosticTroubleCode} (hd : d ∈ s.dtcs) (inRequestBuffer : Bool) (capacity : Nat) :
    ∃ reply, EcuAnswers s inRequestBuffer capacity (detailRequest d) reply ∧
      ∀ (env : PyEnv) (catalog : Catalog) (componentId : String) (comp : Component)
        (dtcId : String) (w : World), catalog.components.get componentId = some comp →
        intBase16 dtcId = some (d.dtcNumber.toNat : Int) → exchange env comp w = .reply reply →
        (finalWorld (readFaultDetail env catalog componentId dtcId w)).sent =
          w.sent ++ [detailRequest d] ∧
        ((∃ detail w', readFaultDetail env catalog componentId dtcId w = .ok detail w' ∧
          DetailOf d detail) ↔
          inRequestBuffer = true ∧ 6 ≤ capacity ∧ (d.statusByte = 0 ∨ d.statusByte = 1) ∧
            ∀ e, s.findDtcByNumber d.dtcNumber = some e → e.statusByte = d.statusByte) := by
  obtain ⟨e, he⟩ := exists_findDtcByNumber hd
  refine ⟨_, ecuAnswers_extDataReply he inRequestBuffer capacity, ?_⟩
  intro env catalog componentId comp dtcId w hc hn hx
  have hrun := readFaultDetail_extDataReply hc hn hx
  rw [request_eq_detailRequest] at hrun
  refine ⟨by rw [hrun, finalWorld_resultIn]; rfl, ?_⟩
  rw [hrun]
  constructor
  · -- what is shown is the record number or the status byte of the entry found
    rintro ⟨detail, w', hok, hof⟩
    rw [resultIn_eq_ok_iff] at hok
    by_cases hcap : 6 ≤ capacity
    · rw [if_pos hcap] at hok
      cases hok.1
      have hstatus : e.statusByte = d.statusByte := hof.statusByte
      have hshown := Option.some.inj hof.counter
      rw [hstatus, shown_eq_occurrenceCounter_iff] at hshown
      refine ⟨hshown.1, hcap, hshown.2, ?_⟩
      intro e' he'
      rw [he] at he'
      cases he'
      exact hstatus
    · rw [if_neg hcap] at hok
      cases hok.1
  · rintro ⟨hbuffer, hcap, hstatus, hsame⟩
    rw [if_pos hcap]
    refine ⟨_, _, rfl, intBase16_dtcHex _, hsame e he, ?_⟩
    rw [hsame e he]
    exact congrArg some ((shown_eq_occurrenceCounter_iff d inRequestBuffer).mpr ⟨hbuffer, hstatus⟩)

/-- The demo DTCs in the request's buffer, before anything has happened. -/
theorem readFaultDetail_roundTrip_demo : ∃ reply detail w',
    readFaultDetail .blank shippedCatalog "openbsw-ecu" "0x010100"
      (.receiving [.reply (some reply)]) = .ok detail w' ∧
    detail.occurrenceCounter = some 0 := by
  obtain ⟨reply, -, hall⟩ := readFaultDetail_roundTrip DtcSimulator.construct.init.dtcStore
    (d := .ofNumber DtcSimulator.dtcEngineOvertemp 0) (by decide) true 66
  obtain ⟨detail, w', hrun, hof⟩ := (hall .blank shippedCatalog "openbsw-ecu" openbswEcu
    "0x010100" (.receiving [.reply (some reply)]) rfl (by decide) rfl).2.mpr
      ⟨rfl, by decide, .inl rfl, by decide⟩
  exact ⟨reply, detail, w', hrun, hof.counter⟩

/-- In a buffer of its own the record number 0xFF is shown as the counter. -/
theorem not_readFaultDetail_roundTrip :
    ¬ ∀ (N : Nat) (s : DiagnosticTroubleCodeStore N), ∀ d ∈ s.dtcs,
      ∀ (inRequestBuffer : Bool) (capacity : Nat) (reply : List UInt8) (env : PyEnv)
        (catalog : Catalog) (componentId : String) (comp : Component) (dtcId : String) (w : World),
        EcuAnswers s inRequestBuffer capacity (detailRequest d) reply →
        catalog.components.get componentId = some comp →
        intBase16 dtcId = some (d.dtcNumber.toNat : Int) → exchange env comp w = .reply reply →
        ∃ detail w', readFaultDetail env catalog componentId dtcId w = .ok detail w' ∧
          DetailOf d detail := by
  intro hall
  let d : DiagnosticTroubleCode := .ofNumber DtcSimulator.dtcEngineOvertemp 0
  have hfind : DtcSimulator.construct.init.dtcStore.findDtcByNumber d.dtcNumber = some d := by
    decide
  obtain ⟨detail, w', hok, hof⟩ := hall 16 DtcSimulator.construct.init.dtcStore d (by decide) false
    66 (extDataReply d false 66) .blank shippedCatalog "openbsw-ecu" openbswEcu
    "0x010100" (.receiving [.reply (some (extDataReply d false 66))])
    (ecuAnswers_extDataReply hfind false 66) rfl (by decide) rfl
  have hx : exchange .blank openbswEcu (.receiving [.reply (some (extDataReply d false 66))]) =
      .reply (extDataReply d false 66) := rfl
  have hn : intBase16 "0x010100" = some (d.dtcNumber.toNat : Int) := by decide
  have hc : shippedCatalog.components.get "openbsw-ecu" = some openbswEcu := rfl
  have hrun := readFaultDetail_extDataReply hc hn hx
  rw [hrun, resultIn_eq_ok_iff] at hok
  cases hok.1
  exact absurd hof.counter (by decide)

end SovdDemo.Cda

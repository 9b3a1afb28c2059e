import SovdDemo.Uds.FaultList

/-!
# Which requests `ReadDTCInformation` answers

The length checks are spread over `verify`, the switch on the sub-function and one handler, and only
the switch takes bit 7 out of the sub-function. Together they sort the requests of every length into
three kinds of refusals and the answers; no request byte is read before its length check, a refusal
leaves the connection as it was, and nothing changes the store.

## Main definitions

- `Decided` — which requests get which return code, and what becomes of the store and the connection

## Main results

- `handle_cases` — the four outcomes, each with the requests it belongs to
- `decided_handle`
-/

namespace SovdDemo.Uds

namespace ReadDTCInformation

/-- The sub-function of a request, without the bit that suppresses the positive response. -/
def subFunction (request : List UInt8) : UInt8 := request.headD 0 &&& 0x7F

/-- The DTC number of a request for extended data. -/
def requestedNumber (request : List UInt8) : UInt32 :=
  numberOfBytes (request.getD 1 0) (request.getD 2 0) (request.getD 3 0)

variable {N : Nat} (s : DiagnosticTroubleCodeStore N) (request : List UInt8)
  (inRequestBuffer : Bool) (capacity : Nat)

/-- What the return code says of the request, and what has become of the store and of the
connection. -/
structure Decided (code : DiagReturnCode) (s' : DiagnosticTroubleCodeStore N)
    (c : IncomingDiagConnection) : Prop where
  invalidFormat : code = .isoInvalidFormat ↔
    request.length < 2 ∨ subFunction request = 0x06 ∧ request.length < 5
  requestOutOfRange : code = .isoRequestOutOfRange ↔
    5 ≤ request.length ∧ subFunction request = 0x06 ∧
      ∀ d ∈ s.dtcs, d.dtcNumber ≠ requestedNumber request
  subfunctionNotSupported : code = .isoSubfunctionNotSupported ↔
    2 ≤ request.length ∧ subFunction request ≠ 0x01 ∧ subFunction request ≠ 0x02 ∧
      subFunction request ≠ 0x06
  otherwise : code = .ok ∨ code = .isoInvalidFormat ∨ code = .isoRequestOutOfRange ∨
    code = .isoSubfunctionNotSupported
  /-- one positive response goes out, as far as the buffer goes, and repeats the sub-function -/
  answered : code = .ok →
    ∃ rest, c.sent = [0x59 :: (subFunction request :: rest).take capacity]
  /-- the request has not been released, and nothing has been written or sent -/
  refused : code ≠ .ok → c = .incoming request inRequestBuffer capacity
  storeUnchanged : s' = s

variable {serviceVerify : List UInt8 → DiagReturnCode} {request}

/-- The simulator answers as its store does, and stays as it is. -/
theorem handle_dtcStore (sim : DtcSimulator) (c : IncomingDiagConnection) :
    handle serviceVerify sim c =
      (handle serviceVerify sim.dtcStore c).map fun r => (r.1, sim, r.2.2) := by
  rw [handle, handle]
  cases verify serviceVerify c.request with
  | ok => exact process_dtcStore sim c
  | isoInvalidFormat | isoSubfunctionNotSupported | isoRequestOutOfRange | other code => rfl

theorem handle_of_length_lt (hv : serviceVerify request = .ok) (hl : request.length < 2) :
    handle serviceVerify s (.incoming request inRequestBuffer capacity) =
      some (.isoInvalidFormat, s, .incoming request inRequestBuffer capacity) := by
  have hverify : verify serviceVerify request = .isoInvalidFormat := if_pos ⟨hv, hl⟩
  rw [handle, show (IncomingDiagConnection.incoming request inRequestBuffer capacity).request =
    request from rfl, hverify]

theorem handle_of_le_length (hv : serviceVerify request = .ok) (hl : 2 ≤ request.length) :
    handle serviceVerify s (.incoming request inRequestBuffer capacity) =
      process s (.incoming request inRequestBuffer capacity) := by
  have hverify : verify serviceVerify request = .ok := by
    rw [verify, if_neg fun h => absurd h.2 (Nat.not_lt.mpr hl), hv]
  rw [handle, show (IncomingDiagConnection.incoming request inRequestBuffer capacity).request =
    request from rfl, hverify]

/-- A request for extended data with all its parameters. -/
theorem processReportDtcExtDataRecord_of_le_length (hl : 5 ≤ request.length) :
    let c := IncomingDiagConnection.incoming request inRequestBuffer capacity
    processReportDtcExtDataRecord s c =
      match s.findDtcByNumber (requestedNumber request) with
      | none => some (.isoRequestOutOfRange, s, c)
      | some d => some (.ok, s, .answered request inRequestBuffer capacity (extDataRecord d
          (if inRequestBuffer then d.statusByte else request.getD 4 0)) serviceId) := by
  obtain ⟨first, high, middle, low, recordNumber, rest, rfl⟩ :
      ∃ a b c d e rest, request = a :: b :: c :: d :: e :: rest := by
    rcases request with _ | ⟨a, _ | ⟨b, _ | ⟨c, _ | ⟨d, _ | ⟨e, rest⟩⟩⟩⟩⟩
    case cons.cons.cons.cons.cons => exact ⟨a, b, c, d, e, rest, rfl⟩
    all_goals simp at hl
  have hnumber : requestedNumber (first :: high :: middle :: low :: recordNumber :: rest) =
      numberOfBytes high middle low := rfl
  rw [hnumber]
  cases hd : s.findDtcByNumber (numberOfBytes high middle low) with
  | none =>
    dsimp only
    rw [processReportDtcExtDataRecord_cons, hd]
  | some d =>
    exact processReportDtcExtDataRecord_eq s first recordNumber rest inRequestBuffer capacity hd

/-- A request for extended data without all its parameters. -/
theorem processReportDtcExtDataRecord_of_length_lt (hl : request.length < 5) :
    processReportDtcExtDataRecord s (.incoming request inRequestBuffer capacity) =
      some (.isoInvalidFormat, s, .incoming request inRequestBuffer capacity) := by
  have hlen :
      (IncomingDiagConnection.incoming request inRequestBuffer capacity).requestLength < 5 := hl
  rw [processReportDtcExtDataRecord, if_pos hlen]
  rfl

/-- What `process` does with the sub-function of a request that has a parameter byte. -/
theorem process_of_le_length (hl : 2 ≤ request.length) :
    process s (.incoming request inRequestBuffer capacity) =
      let c := IncomingDiagConnection.incoming request inRequestBuffer capacity
      if subFunction request = 0x01 then
        some (.ok, s, .answered request inRequestBuffer capacity
          (countReport (s.countByStatusMask (request.getD 1 0))) serviceId)
      else if subFunction request = 0x02 then
        some (.ok, s, .answered request inRequestBuffer capacity (faultList s (request.getD 1 0))
          serviceId)
      else if subFunction request = 0x06 then processReportDtcExtDataRecord s c
      else some (.isoSubfunctionNotSupported, s, c) := by
  obtain ⟨first, mask, rest, rfl⟩ : ∃ a b rest, request = a :: b :: rest := by
    rcases request with _ | ⟨a, _ | ⟨b, rest⟩⟩
    case cons.cons => exact ⟨a, b, rest, rfl⟩
    all_goals simp at hl
  rw [process_cons_cons]
  dsimp only
  rw [processReportNumberOfDtcByStatusMask_eq, processReportDtcByStatusMask_eq]
  rfl

/-- The four outcomes, each with the requests it belongs to. -/
theorem handle_cases (request : List UInt8) (hv : serviceVerify request = .ok) :
    let c := IncomingDiagConnection.incoming request inRequestBuffer capacity
    let result := handle serviceVerify s c
    ((request.length < 2 ∨ subFunction request = 0x06 ∧ request.length < 5) ∧
      result = some (.isoInvalidFormat, s, c)) ∨
    (5 ≤ request.length ∧ subFunction request = 0x06 ∧
      (∀ d ∈ s.dtcs, d.dtcNumber ≠ requestedNumber request) ∧
      result = some (.isoRequestOutOfRange, s, c)) ∨
    (2 ≤ request.length ∧ subFunction request ≠ 0x01 ∧ subFunction request ≠ 0x02 ∧
      subFunction request ≠ 0x06 ∧ result = some (.isoSubfunctionNotSupported, s, c)) ∨
    (2 ≤ request.length ∧ (subFunction request = 0x01 ∨ subFunction request = 0x02 ∨
        subFunction request = 0x06 ∧ 5 ≤ request.length ∧
          ∃ d ∈ s.dtcs, d.dtcNumber = requestedNumber request) ∧
      ∃ rest, result = some (.ok, s, .answered request inRequestBuffer capacity
        (subFunction request :: rest) serviceId)) := by
  dsimp only
  by_cases hl : request.length < 2
  · exact .inl ⟨.inl hl, handle_of_length_lt s inRequestBuffer capacity hv hl⟩
  · have hl : 2 ≤ request.length := Nat.not_lt.mp hl
    rw [handle_of_le_length s inRequestBuffer capacity hv hl,
      process_of_le_length s inRequestBuffer capacity hl]
    dsimp only
    by_cases hcount : subFunction request = 0x01
    · rw [if_pos hcount, hcount]
      exact .inr (.inr (.inr ⟨hl, .inl rfl, _, rfl⟩))
    · rw [if_neg hcount]
      by_cases hlist : subFunction request = 0x02
      · rw [if_pos hlist, hlist]
        exact .inr (.inr (.inr ⟨hl, .inr (.inl rfl), _, rfl⟩))
      · rw [if_neg hlist]
        by_cases hext : subFunction request = 0x06
        · rw [if_pos hext]
          by_cases hfive : request.length < 5
          · exact .inl ⟨.inr ⟨hext, hfive⟩,
              processReportDtcExtDataRecord_of_length_lt s inRequestBuffer capacity hfive⟩
          · have hfive : 5 ≤ request.length := Nat.not_lt.mp hfive
            have hrun :=
              processReportDtcExtDataRecord_of_le_length s inRequestBuffer capacity hfive
            cases hd : s.findDtcByNumber (requestedNumber request) with
            | none =>
              rw [hd] at hrun
              exact .inr (.inl ⟨hfive, hext, (s.findDtcByNumber_eq_none_iff _).mp hd, hrun⟩)
            | some d =>
              have hmem := List.mem_of_find?_eq_some hd
              have hnum : d.dtcNumber = requestedNumber request := by
                simpa [DiagnosticTroubleCode.getDtcNumber] using List.find?_some hd
              rw [hrun, hext, hd]
              exact .inr (.inr (.inr ⟨hl, .inr (.inr ⟨rfl, hfive, d, hmem, hnum⟩), _, rfl⟩))
        · rw [if_neg hext]
          exact .inr (.inr (.inl ⟨hl, hcount, hlist, hext, rfl⟩))

/-- A request of any length and content is decided, without a byte being read that it does not have:
refused for one of three reasons and left alone, or answered once; the store stays as it is. -/
theorem decided_handle (request : List UInt8) (hv : serviceVerify request = .ok) :
    ∃ code s' c, handle serviceVerify s (.incoming request inRequestBuffer capacity) =
        some (code, s', c) ∧
      Decided s request inRequestBuffer capacity code s' c := by
  obtain ⟨h, hrun⟩ | ⟨hfive, hext, hnot, hrun⟩ | ⟨hl, hcount, hlist, hext, hrun⟩ |
      ⟨hl, h, rest, hrun⟩ := handle_cases s inRequestBuffer capacity request hv
  · refine ⟨_, _, _, hrun, iff_of_true rfl h, iff_of_false DiagReturnCode.noConfusion ?_,
      iff_of_false DiagReturnCode.noConfusion ?_, .inr (.inl rfl), DiagReturnCode.noConfusion,
      fun _ => rfl, rfl⟩
    · rintro ⟨hfive, -⟩
      rcases h with h | ⟨-, h⟩ <;> omega
    · rintro ⟨hl, -, -, hext⟩
      rcases h with h | ⟨h, -⟩
      · omega
      · exact hext h
  · refine ⟨_, _, _, hrun, iff_of_false DiagReturnCode.noConfusion ?_,
      iff_of_true rfl ⟨hfive, hext, hnot⟩, iff_of_false DiagReturnCode.noConfusion ?_,
      .inr (.inr (.inl rfl)), DiagReturnCode.noConfusion, fun _ => rfl, rfl⟩
    · rintro (h | ⟨-, h⟩) <;> omega
    · rintro ⟨-, -, -, h⟩
      exact h hext
  · refine ⟨_, _, _, hrun, iff_of_false DiagReturnCode.noConfusion ?_,
      iff_of_false DiagReturnCode.noConfusion ?_, iff_of_true rfl ⟨hl, hcount, hlist, hext⟩,
      .inr (.inr (.inr rfl)), DiagReturnCode.noConfusion, fun _ => rfl, rfl⟩
    · rintro (h | ⟨h, -⟩)
      · omega
      · exact hext h
    · rintro ⟨-, h, -⟩
      exact hext h
  · -- a request for extended data has got its answer for a stored DTC only
    have hstored : subFunction request = 0x06 → 5 ≤ request.length ∧
        ∃ d ∈ s.dtcs, d.dtcNumber = requestedNumber request := by
      intro hext
      rcases h with h | h | ⟨-, hfive, hmem⟩
      · exact absurd (h.symm.trans hext) (by decide)
      · exact absurd (h.symm.trans hext) (by decide)
      · exact ⟨hfive, hmem⟩
    refine ⟨_, _, _, hrun, iff_of_false DiagReturnCode.noConfusion ?_,
      iff_of_false DiagReturnCode.noConfusion ?_, iff_of_false DiagReturnCode.noConfusion ?_,
      .inl rfl, fun _ => ⟨rest, rfl⟩, fun hne => absurd rfl hne, rfl⟩
    · rintro (hshort | ⟨hext, hshort⟩)
      · omega
      · have hfive := (hstored hext).1
        omega
    · rintro ⟨-, hext, hnot⟩
      obtain ⟨d, hd, hnum⟩ := (hstored hext).2
      exact hnot d hd hnum
    · rintro ⟨-, hcount, hlist, hext⟩
      rcases h with h | h | ⟨h, -⟩
      · exact hcount h
      · exact hlist h
      · exact hext h

/-- A request for the extended data of a DTC of the store, with bit 7 set. -/
theorem decided_handle_demo :
    ∃ code s' c, handle (fun _ => .ok) DtcSimulator.construct.init.dtcStore
        (.incoming [0x86, 0x01, 0x01, 0x00, 0xFF] false 64) = some (code, s', c) ∧
      Decided DtcSimulator.construct.init.dtcStore [0x86, 0x01, 0x01, 0x00, 0xFF] false 64 code s'
        c :=
  decided_handle _ false 64 _ rfl

end ReadDTCInformation

end SovdDemo.Uds

import SovdDemo.Uds.RequestDecision

/-!
# Does a service read its request after releasing it?

Where the framework builds the response in the buffer of the request, every byte that is appended
replaces a byte of the request. A service that reads its request before it releases it does not
notice. `reportDTCExtDataRecordByDTCNumber` reads the record number afterwards, and finds the status
byte in its place.

## Main definitions

- `answer` — the return code, the store and the bytes of a response
- `SameInBothBuffers` — they do not depend on the buffer, and the record number is echoed
- `EchoesStatus` — the requests for which another byte is read

## Main results

- `take_extDataRecord_inj` — a response shows which record number was read, if it has room for it
- `sameInBothBuffers_services_iff`
-/

namespace SovdDemo.Uds

/-- What is seen of a processed request: the return code, the store that is left behind, the
response, and what is sent. -/
def answer {σ : Type} (result : Option (DiagReturnCode × σ × IncomingDiagConnection)) :
    Option (DiagReturnCode × σ × List UInt8 × List (List UInt8)) :=
  result.map fun r => (r.1, r.2.1, r.2.2.response, r.2.2.sent)

namespace ReadDTCInformation

variable {N : Nat} (s : DiagnosticTroubleCodeStore N) (request : List UInt8) (capacity : Nat)

/-- A buffer of its own and the buffer of the request give the same answer, and in both of them the
sixth byte of the response with extended data is the record number of the request. -/
structure SameInBothBuffers : Prop where
  same : answer (process s (.incoming request true capacity)) =
    answer (process s (.incoming request false capacity))
  echo : ∀ inRequestBuffer s' c, process s (.incoming request inRequestBuffer capacity) =
    some (.ok, s', c) → subFunction request = 0x06 →
    ∀ byte ∈ c.response[5]?, byte = request.getD 4 0

/-- A complete request for the extended data of a stored DTC whose status byte is not the record
number, with room for six bytes of the response. -/
def EchoesStatus : Prop :=
  5 ≤ request.length ∧ subFunction request = 0x06 ∧ 6 ≤ capacity ∧
    ∃ d ∈ s.findDtcByNumber (requestedNumber request), d.statusByte ≠ request.getD 4 0

instance : Decidable (EchoesStatus s request capacity) :=
  inferInstanceAs (Decidable (_ ∧ _ ∧ _ ∧ ∃ d ∈ _, _))

variable {request}

/-- Without a parameter byte there is nothing to release. -/
theorem answer_process_singleton (first : UInt8) :
    answer (process s (.incoming [first] true capacity)) =
      answer (process s (.incoming [first] false capacity)) := by
  simp only [process, IncomingDiagConnection.readRequest_incoming, List.getElem?_cons_zero,
    Option.bind_eq_bind, Option.bind_some]
  split
  · rfl
  · split
    · rfl
    · split
      · rfl
      · rfl

/-- A response shows which record number has been read, if it has room for it. -/
theorem take_extDataRecord_inj (d : DiagnosticTroubleCode) (x y : UInt8) :
    (extDataRecord d x).take capacity = (extDataRecord d y).take capacity ↔
      6 ≤ capacity → x = y := by
  constructor
  · intro h hc
    have hfive := congrArg (fun bytes => bytes[5]?) h
    rw [List.getElem?_take_of_lt (by omega), List.getElem?_take_of_lt (by omega)] at hfive
    exact Option.some.inj hfive
  · intro h
    by_cases hc : 6 ≤ capacity
    · rw [h hc]
    · rw [take_extDataRecord d (by omega), take_extDataRecord d (by omega)]

/-- Outside the requests for extended data the buffer makes no difference. -/
theorem answer_process_eq (hext : ¬ (5 ≤ request.length ∧ subFunction request = 0x06)) :
    answer (process s (.incoming request true capacity)) =
      answer (process s (.incoming request false capacity)) := by
  by_cases hl : request.length < 2
  · rcases request with _ | ⟨first, _ | ⟨second, rest⟩⟩
    · rfl
    · exact answer_process_singleton s capacity first
    · exact absurd hl (by simp)
  · have hl : 2 ≤ request.length := Nat.not_lt.mp hl
    rw [process_of_le_length s true capacity hl, process_of_le_length s false capacity hl]
    dsimp only
    split
    · rfl
    · split
      · rfl
      · split
        · rename_i h
          have hfive : request.length < 5 := Nat.not_le.mp fun hge => hext ⟨hge, h⟩
          rw [processReportDtcExtDataRecord_of_length_lt s true capacity hfive,
            processReportDtcExtDataRecord_of_length_lt s false capacity hfive]
          rfl
        · rfl

/-- The switch hands every request for extended data to its handler. -/
theorem process_of_subFunction (hne : request ≠ []) (hsub : subFunction request = 0x06)
    (inRequestBuffer : Bool) :
    process s (.incoming request inRequestBuffer capacity) =
      processReportDtcExtDataRecord s (.incoming request inRequestBuffer capacity) := by
  obtain ⟨first, rest, rfl⟩ := List.exists_cons_of_ne_nil hne
  have hsub : first &&& 0x7F = 0x06 := hsub
  rw [process, IncomingDiagConnection.readRequest_incoming]
  simp only [List.getElem?_cons_zero, Option.bind_eq_bind, Option.bind_some, hsub]
  rfl

/-- The answer to a complete request for the extended data of a stored DTC. -/
theorem process_extDataRecord (hl : 5 ≤ request.length) (hsub : subFunction request = 0x06)
    {d : DiagnosticTroubleCode} (hd : s.findDtcByNumber (requestedNumber request) = some d)
    (inRequestBuffer : Bool) :
    process s (.incoming request inRequestBuffer capacity) =
      some (.ok, s, .answered request inRequestBuffer capacity (extDataRecord d
        (if inRequestBuffer then d.statusByte else request.getD 4 0)) serviceId) := by
  have hne : request ≠ [] := List.ne_nil_of_length_pos (by omega)
  rw [process_of_subFunction s capacity hne hsub,
    processReportDtcExtDataRecord_of_le_length s inRequestBuffer capacity hl, hd]

/-- A request for the extended data of a number that is not stored. -/
theorem process_of_not_stored (hl : 5 ≤ request.length) (hsub : subFunction request = 0x06)
    (hd : s.findDtcByNumber (requestedNumber request) = none) (inRequestBuffer : Bool) :
    process s (.incoming request inRequestBuffer capacity) =
      some (.isoRequestOutOfRange, s, .incoming request inRequestBuffer capacity) := by
  have hne : request ≠ [] := List.ne_nil_of_length_pos (by omega)
  rw [process_of_subFunction s capacity hne hsub,
    processReportDtcExtDataRecord_of_le_length s inRequestBuffer capacity hl, hd]

/-- Of a stored DTC the status byte is read in place of the record number. -/
theorem sameInBothBuffers_iff_of_stored (hl : 5 ≤ request.length)
    (hsub : subFunction request = 0x06) {d : DiagnosticTroubleCode}
    (hd : s.findDtcByNumber (requestedNumber request) = some d) :
    SameInBothBuffers s request capacity ↔ (6 ≤ capacity → d.statusByte = request.getD 4 0) := by
  have hrun := process_extDataRecord s capacity hl hsub hd
  have hsame : answer (process s (.incoming request true capacity)) =
      answer (process s (.incoming request false capacity)) ↔
      (6 ≤ capacity → d.statusByte = request.getD 4 0) := by
    rw [hrun, hrun, ← take_extDataRecord_inj capacity d]
    simp [answer, IncomingDiagConnection.answered]
  rw [← hsame]
  refine ⟨SameInBothBuffers.same, fun hboth => ⟨hboth, ?_⟩⟩
  rintro inRequestBuffer s' c hc - byte hbyte
  rw [hrun] at hc
  cases hc
  -- the sixth byte is there only if there is room for it
  have hroom : 6 ≤ capacity := by
    have hlt := (List.getElem?_eq_some_iff.mp hbyte).1
    simp only [IncomingDiagConnection.answered, List.length_take] at hlt
    omega
  change ((extDataRecord d _).take capacity)[5]? = some byte at hbyte
  rw [List.getElem?_take_of_lt (by omega), hsame.mp hboth hroom, ite_self] at hbyte
  exact (Option.some.inj hbyte).symm

theorem sameInBothBuffers_iff :
    SameInBothBuffers s request capacity ↔ ¬ EchoesStatus s request capacity := by
  by_cases hext : 5 ≤ request.length ∧ subFunction request = 0x06
  · obtain ⟨hl, hsub⟩ := hext
    cases hd : s.findDtcByNumber (requestedNumber request) with
    | none =>
      have hrun := process_of_not_stored s capacity hl hsub hd
      refine iff_of_true ⟨?_, ?_⟩ ?_
      · rw [hrun, hrun]
        rfl
      · intro inRequestBuffer s' c hc
        rw [hrun] at hc
        cases hc
      · rintro ⟨-, -, -, d, hmem, -⟩
        rw [hd] at hmem
        cases hmem
    | some d =>
      have hechoes : EchoesStatus s request capacity ↔
          6 ≤ capacity ∧ d.statusByte ≠ request.getD 4 0 := by
        simp [EchoesStatus, hl, hsub, hd]
      rw [hechoes, not_and_not_right]
      exact sameInBothBuffers_iff_of_stored s capacity hl hsub hd
  · refine iff_of_true ⟨answer_process_eq s capacity hext, ?_⟩ fun h => hext ⟨h.1, h.2.1⟩
    intro inRequestBuffer s' c hc hsub
    -- too short a request for extended data is refused
    by_cases hne : request = []
    · subst hne
      cases hc
    · have hl : request.length < 5 := Nat.not_le.mp fun hge => hext ⟨hge, hsub⟩
      rw [process_of_subFunction s capacity hne hsub,
        processReportDtcExtDataRecord_of_length_lt s inRequestBuffer capacity hl] at hc
      cases hc

end ReadDTCInformation

namespace ClearDiagnosticInformation

/-- The group is read before the request is released, and no byte is appended. -/
theorem answer_process_eq {N : Nat} (s : DiagnosticTroubleCodeStore N) (request : List UInt8)
    (capacity : Nat) :
    answer (process s (.incoming request true capacity)) =
      answer (process s (.incoming request false capacity)) := by
  simp only [process, IncomingDiagConnection.readRequest_incoming, Option.bind_eq_bind]
  rcases request with _ | ⟨high, _ | ⟨middle, _ | ⟨low, rest⟩⟩⟩
  · rfl
  · rfl
  · rfl
  · simp only [List.getElem?_cons_zero, List.getElem?_cons_succ, Option.bind_some]
    split
    · rfl
    · split
      · rfl
      · rfl

end ClearDiagnosticInformation

/-- No answer of the two services depends on the buffer, and every record number is echoed, just
when the request is not one for which the status byte is read in place of the record number. -/
theorem sameInBothBuffers_services_iff {N : Nat} (s : DiagnosticTroubleCodeStore N)
    (request : List UInt8) (capacity : Nat) :
    ReadDTCInformation.SameInBothBuffers s request capacity ∧
      answer (ClearDiagnosticInformation.process s (.incoming request true capacity)) =
        answer (ClearDiagnosticInformation.process s (.incoming request false capacity)) ↔
      ¬ ReadDTCInformation.EchoesStatus s request capacity := by
  rw [and_iff_left (ClearDiagnosticInformation.answer_process_eq s request capacity)]
  exact ReadDTCInformation.sameInBothBuffers_iff s capacity

/-- The record number 0xFF of a DTC that has just been registered comes back as its status 0x00. -/
theorem not_sameInBothBuffers_init :
    ¬ ∀ (s : DiagnosticTroubleCodeStore 16) (request : List UInt8) (capacity : Nat),
      ReadDTCInformation.SameInBothBuffers s request capacity := by
  intro hall
  have hsame := (hall DtcSimulator.construct.init.dtcStore [0x06, 0x01, 0x01, 0x00, 0xFF] 64).same
  have hbyte := congrArg (fun answer => (answer.map fun a => a.2.2.1[5]?)) hsame
  exact absurd hbyte (by decide)

end SovdDemo.Uds

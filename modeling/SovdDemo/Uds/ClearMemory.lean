import SovdDemo.Uds.FaultList
import Mathlib.Data.List.Nodup

/-!
# Clearing the fault memory

`ClearDiagnosticInformation` clears everything, one DTC or nothing, and says which. On a store whose
numbers are pairwise distinct and that holds no DTC with the number of the group "all DTCs", it
changes exactly the entries the request names.

## Main definitions

- `ClearsExactly` — the result of a request, and the store it leaves behind

## Main results

- `clearsExactly_handle` — every request of every length is dealt with in this way
- `sent_reportDtcByStatusMask_clearAll` — what the fault list shows right after a clear-all
-/

namespace SovdDemo.Uds

open Foundations

namespace DiagnosticTroubleCodeStore

variable {N : Nat} (s : DiagnosticTroubleCodeStore N)

/-- Distinct numbers are found where they are. -/
theorem findIndexByNumber_eq_some_iff (hs : s.numbers.Nodup) {i : Nat} {d : DiagnosticTroubleCode}
    (hd : s.getDtcByIndex i = some d) (n : UInt32) :
    s.findIndexByNumber n = some i ↔ d.dtcNumber = n := by
  have hnum : ∀ {j : Nat} {e : DiagnosticTroubleCode}, s.getDtcByIndex j = some e →
      s.numbers[j]? = some e.dtcNumber := by
    intro j e he
    unfold getDtcByIndex at he
    simp [numbers, he]
  constructor
  · intro hf
    have hat := findDtcByNumber_eq s n
    rw [hf, Option.bind_some, hd] at hat
    simpa [DiagnosticTroubleCode.getDtcNumber] using List.find?_some hat
  · rintro rfl
    cases hf : s.findIndexByNumber d.dtcNumber with
    | none =>
      have hmem := (s.mem_iff d).mpr ⟨i, hd⟩
      exact absurd rfl ((s.findIndexByNumber_eq_none_iff _).mp hf d hmem)
    | some j =>
      have hj := hf
      rw [findIndexByNumber_eq] at hj
      obtain ⟨hlt, heq, -⟩ := List.findIdx?_eq_some_iff_getElem.mp hj
      -- the search stops at some position of the same number, and that is `i`
      have hij : s.numbers[j]? = s.numbers[i]? := by
        rw [hnum hd, List.getElem?_eq_getElem hlt]
        exact congrArg some (beq_iff_eq.mp heq)
      exact congrArg some ((List.getElem?_inj hlt hs).mp hij)

/-- Clearing a stored number clears the entry with this number and no other. -/
theorem clearByNumber_of_mem (hs : s.numbers.Nodup) {n : UInt32} (hn : n ∈ s.numbers) :
    (s.clearByNumber n).1 = true ∧
      (s.clearByNumber n).2.dtcs = s.dtcs.map fun d => if d.dtcNumber = n then d.clear else d := by
  constructor
  · cases hf : s.findIndexByNumber n with
    | none =>
      obtain ⟨d, hd, rfl⟩ := List.mem_map.mp hn
      exact absurd rfl ((s.findIndexByNumber_eq_none_iff _).mp hf d hd)
    | some i =>
      rw [clearByNumber, hf]
  · ext i : 1
    have hi := s.getDtcByIndex_clearByNumber n i
    unfold getDtcByIndex at hi
    rw [hi, List.getElem?_map]
    cases hd : s.dtcs[i]? with
    | none => rfl
    | some d =>
      simp only [Option.map_some, s.findIndexByNumber_eq_some_iff hs hd]

theorem clearByNumber_of_not_mem {n : UInt32} (hn : n ∉ s.numbers) :
    s.clearByNumber n = (false, s) := by
  have hf : s.findIndexByNumber n = none := (s.findIndexByNumber_eq_none_iff n).mpr fun d hd he =>
    hn (List.mem_map.mpr ⟨d, hd, he⟩)
  rw [clearByNumber, hf]

end DiagnosticTroubleCodeStore

/-! The service -/

namespace ClearDiagnosticInformation

variable {N : Nat} (s : DiagnosticTroubleCodeStore N)

theorem process_eq (high middle low : UInt8) (inRequestBuffer : Bool) (capacity : Nat) :
    let c := IncomingDiagConnection.incoming [high, middle, low] inRequestBuffer capacity
    let group := numberOfBytes high middle low
    process s c =
      if group = groupOfAllDtcs then some (.ok, s.clearAll, respond c)
      else
        match s.clearByNumber group with
        | (true, s) => some (.ok, s, respond c)
        | (false, s) => some (.isoRequestOutOfRange, s, c) := by
  have hread := IncomingDiagConnection.readRequest_incoming [high, middle, low] inRequestBuffer
    capacity
  dsimp only
  rw [process, hread, hread, hread]
  show (if numberOfBytes high middle low = groupOfAllDtcs then _ else _) = _
  have hclear : IDtcProvider.clearByNumber s (numberOfBytes high middle low) =
    s.clearByNumber (numberOfBytes high middle low) := rfl
  split
  · rfl
  · rw [hclear]
    rcases s.clearByNumber (numberOfBytes high middle low) with ⟨_ | _, _⟩ <;> rfl

theorem sent_respond (request : List UInt8) (inRequestBuffer : Bool) (capacity : Nat) :
    (respond (.incoming request inRequestBuffer capacity)).sent = [[0x54]] := rfl

/-- What a request does to the store and how it is answered. -/
structure ClearsExactly (request : List UInt8) (inRequestBuffer : Bool) (capacity : Nat)
    (result : Option (DiagReturnCode × DiagnosticTroubleCodeStore N × IncomingDiagConnection)) :
    Prop where
  /-- a length other than 3 is refused -/
  invalidFormat : request.length ≠ 3 →
    result = some (.isoInvalidFormat, s, .incoming request inRequestBuffer capacity)
  /-- the group of all DTCs clears every status -/
  all : request = [0xFF, 0xFF, 0xFF] → ∃ s' c, result = some (.ok, s', c) ∧ c.sent = [[0x54]] ∧
    s'.dtcs = s.dtcs.map fun d => d.setStatusByte 0x50
  /-- a stored number clears that entry -/
  stored : ∀ high middle low, request = [high, middle, low] →
    numberOfBytes high middle low ∈ s.numbers →
      ∃ s' c, result = some (.ok, s', c) ∧ c.sent = [[0x54]] ∧
        s'.dtcs = s.dtcs.map fun d =>
          if d.dtcNumber = numberOfBytes high middle low then d.setStatusByte 0x50 else d
  /-- any other group is out of range -/
  outOfRange : ∀ high middle low, request = [high, middle, low] →
    numberOfBytes high middle low ≠ 0xFFFFFF → numberOfBytes high middle low ∉ s.numbers →
      result = some (.isoRequestOutOfRange, s, .incoming request inRequestBuffer capacity)
  /-- the numbers, their order and their count stay -/
  numbers : ∃ code s' c, result = some (code, s', c) ∧ s'.numbers = s.numbers

theorem verify_of_length_ne {serviceVerify : List UInt8 → DiagReturnCode} {request : List UInt8}
    (hv : serviceVerify request = .ok) (hl : request.length ≠ 3) :
    verify serviceVerify request = .isoInvalidFormat := by
  simp only [verify]
  rw [if_pos ⟨hv, hl⟩]

theorem verify_of_length_eq {serviceVerify : List UInt8 → DiagReturnCode} {request : List UInt8}
    (hv : serviceVerify request = .ok) (hl : request.length = 3) :
    verify serviceVerify request = .ok := by
  simp only [verify]
  rw [if_neg fun h => h.2 hl, hv]

/-- The three answers to a request of three bytes. -/
theorem process_cases (hs : s.numbers.Nodup)
    (high middle low : UInt8) (inRequestBuffer : Bool) (capacity : Nat) :
    let c := IncomingDiagConnection.incoming [high, middle, low] inRequestBuffer capacity
    let group := numberOfBytes high middle low
    (group = 0xFFFFFF ∧ process s c = some (.ok, s.clearAll, respond c)) ∨
    (group ∈ s.numbers ∧ group ≠ 0xFFFFFF ∧
      process s c = some (.ok, (s.clearByNumber group).2, respond c)) ∨
    (group ∉ s.numbers ∧ group ≠ 0xFFFFFF ∧ process s c = some (.isoRequestOutOfRange, s, c)) := by
  have hrun := process_eq s high middle low inRequestBuffer capacity
  dsimp only at hrun ⊢
  by_cases hg : numberOfBytes high middle low = groupOfAllDtcs
  · rw [if_pos hg] at hrun
    exact .inl ⟨hg, hrun⟩
  · rw [if_neg hg] at hrun
    by_cases hmem : numberOfBytes high middle low ∈ s.numbers
    · have hcleared := (s.clearByNumber_of_mem hs hmem).1
      refine .inr (.inl ⟨hmem, hg, ?_⟩)
      rcases hc : s.clearByNumber (numberOfBytes high middle low) with ⟨_ | _, s'⟩
      · rw [hc] at hcleared
        cases hcleared
      · rw [hrun, hc]
    · rw [s.clearByNumber_of_not_mem hmem] at hrun
      exact .inr (.inr ⟨hmem, hg, hrun⟩)

theorem clearsExactly_process (hs : s.numbers.Nodup) (hall : 0xFFFFFF ∉ s.numbers)
    (high middle low : UInt8) (inRequestBuffer : Bool) (capacity : Nat) :
    ClearsExactly s [high, middle, low] inRequestBuffer capacity
      (process s (.incoming [high, middle, low] inRequestBuffer capacity)) := by
  have hcases := process_cases s hs high middle low inRequestBuffer capacity
  dsimp only at hcases
  refine ⟨fun hl => absurd rfl hl, ?_, ?_, ?_, ?_⟩
  · -- the group of all DTCs
    rintro hr
    obtain ⟨rfl, rfl, rfl⟩ : high = 0xFF ∧ middle = 0xFF ∧ low = 0xFF := by simpa using hr
    have hg : numberOfBytes 0xFF 0xFF 0xFF = 0xFFFFFF := by decide
    obtain ⟨-, hrun⟩ | ⟨-, hne, -⟩ | ⟨-, hne, -⟩ := hcases
    · exact ⟨_, _, hrun, sent_respond _ _ _, rfl⟩
    · exact absurd hg hne
    · exact absurd hg hne
  · -- a stored number
    rintro h' m' l' hr hmem
    obtain ⟨rfl, rfl, rfl⟩ : high = h' ∧ middle = m' ∧ low = l' := by simpa using hr
    obtain ⟨hg, -⟩ | ⟨-, -, hrun⟩ | ⟨hnot, -⟩ := hcases
    · exact absurd (hg ▸ hmem) hall
    · exact ⟨_, _, hrun, sent_respond _ _ _, (s.clearByNumber_of_mem hs hmem).2⟩
    · exact absurd hmem hnot
  · -- any other group
    rintro h' m' l' hr hne hnot
    obtain ⟨rfl, rfl, rfl⟩ : high = h' ∧ middle = m' ∧ low = l' := by simpa using hr
    obtain ⟨hg, -⟩ | ⟨hmem, -⟩ | ⟨-, -, hrun⟩ := hcases
    · exact absurd hg hne
    · exact absurd hmem hnot
    · exact hrun
  · obtain ⟨-, hrun⟩ | ⟨-, -, hrun⟩ | ⟨-, -, hrun⟩ := hcases
    · exact ⟨_, _, _, hrun, s.numbers_clearAll⟩
    · exact ⟨_, _, _, hrun, s.numbers_clearByNumber _⟩
    · exact ⟨_, _, _, hrun, rfl⟩

theorem clearsExactly_handle (hs : s.numbers.Nodup) (hall : 0xFFFFFF ∉ s.numbers)
    {serviceVerify : List UInt8 → DiagReturnCode} (request : List UInt8)
    (hv : serviceVerify request = .ok) (inRequestBuffer : Bool) (capacity : Nat) :
    ClearsExactly s request inRequestBuffer capacity
      (handle serviceVerify s (.incoming request inRequestBuffer capacity)) := by
  have hrequest : (IncomingDiagConnection.incoming request inRequestBuffer capacity).request =
    request := rfl
  by_cases hl : request.length = 3
  · obtain ⟨high, middle, low, rfl⟩ := List.length_eq_three.mp hl
    rw [handle, hrequest, verify_of_length_eq hv hl]
    exact clearsExactly_process s hs hall high middle low inRequestBuffer capacity
  · have hrefused : handle serviceVerify s (.incoming request inRequestBuffer capacity) =
        some (.isoInvalidFormat, s, .incoming request inRequestBuffer capacity) := by
      rw [handle, hrequest, verify_of_length_ne hv hl]
    refine ⟨fun _ => hrefused, ?_, ?_, ?_, ⟨_, _, _, hrefused, rfl⟩⟩
    · rintro rfl
      exact absurd rfl hl
    · rintro high middle low rfl
      exact absurd rfl hl
    · rintro high middle low rfl
      exact absurd rfl hl

end ClearDiagnosticInformation

/-! The fault list after a clear-all -/

section AfterClearAll

variable {N : Nat} (s : DiagnosticTroubleCodeStore N)

/-- A mask selects all cleared DTCs or none. -/
theorem selected_clearAll (mask : UInt8) :
    s.clearAll.selected mask = if mask &&& 0x50 ≠ 0 then s.clearAll.dtcs else [] := by
  have hmatch : ∀ d ∈ s.clearAll.dtcs, d.matchesStatusMask mask = decide (mask &&& 0x50 ≠ 0) := by
    intro d hd
    obtain ⟨d, -, rfl⟩ := List.mem_map.mp hd
    rw [DiagnosticTroubleCode.matchesStatusMask, d.clear_statusByte, UInt8.and_comm]
    exact Bool.eq_iff_iff.mpr (by simp)
  rw [DiagnosticTroubleCodeStore.selected]
  split
  · rename_i h
    exact List.filter_eq_self.mpr fun d hd => by rw [hmatch d hd, decide_eq_true h]
  · rename_i h
    exact List.filter_eq_nil_iff.mpr fun d hd => by simp [hmatch d hd, h]

theorem sent_reportDtcByStatusMask_clearAll (mask : UInt8) (inRequestBuffer : Bool)
    (capacity : Nat) :
    ∃ c, ReadDTCInformation.process s.clearAll (.incoming [0x02, mask] inRequestBuffer capacity) =
        some (.ok, s.clearAll, c) ∧
      c.sent = [0x59 :: ([0x02, 0xFF] ++ if mask &&& 0x50 ≠ 0 then
        s.dtcs.flatMap fun d : DiagnosticTroubleCode => (d.setStatusByte 0x50).record
        else []).take capacity] := by
  refine ⟨(ReadDTCInformation.processReportDtcByStatusMask s.clearAll
    (.incoming [0x02, mask] inRequestBuffer capacity) mask).2.2,
    ReadDTCInformation.process_reportDtcByStatusMask s.clearAll mask inRequestBuffer capacity, ?_⟩
  have hsent := ReadDTCInformation.sent_processReportDtcByStatusMask s.clearAll [0x02, mask]
    inRequestBuffer capacity mask
  rw [faultList, selected_clearAll] at hsent
  rw [hsent]
  split
  · rw [DiagnosticTroubleCodeStore.clearAll, List.flatMap_map]
    rfl
  · rfl

end AfterClearAll

/-- Every request is dealt with exactly, and a fault list that is read right after a clear-all shows
every stored DTC or none, as far as its buffer goes. -/
theorem clearDiagnosticInformation_exact {N : Nat} (s : DiagnosticTroubleCodeStore N)
    (hs : s.numbers.Nodup) (hall : 0xFFFFFF ∉ s.numbers)
    (serviceVerify : List UInt8 → DiagReturnCode) (request : List UInt8)
    (hv : serviceVerify request = .ok) (inRequestBuffer : Bool) (capacity : Nat) :
    ClearDiagnosticInformation.ClearsExactly s request inRequestBuffer capacity
      (ClearDiagnosticInformation.handle serviceVerify s
        (.incoming request inRequestBuffer capacity)) ∧
    ∀ s' c, ClearDiagnosticInformation.handle serviceVerify s
        (.incoming request inRequestBuffer capacity) = some (.ok, s', c) →
      request = [0xFF, 0xFF, 0xFF] → ∀ mask inRequestBuffer' capacity',
        ∃ c', ReadDTCInformation.process s' (.incoming [0x02, mask] inRequestBuffer' capacity') =
            some (.ok, s', c') ∧
          c'.sent = [0x59 :: ([0x02, 0xFF] ++ if mask &&& 0x50 ≠ 0 then
            s.dtcs.flatMap fun d : DiagnosticTroubleCode => (d.setStatusByte 0x50).record
            else []).take capacity'] := by
  have hexact := ClearDiagnosticInformation.clearsExactly_handle s hs hall request hv
    inRequestBuffer capacity
  refine ⟨hexact, ?_⟩
  intro s' c hrun hr mask inRequestBuffer' capacity'
  obtain ⟨s'', c', hrun', -, hdtcs⟩ := hexact.all hr
  rw [hrun] at hrun'
  obtain ⟨rfl, rfl⟩ : s' = s'' ∧ c = c' := by simpa using hrun'
  have hclear : s' = s.clearAll := by
    rcases s' with ⟨dtcs, hcount⟩
    simp only [DiagnosticTroubleCodeStore.clearAll, DiagnosticTroubleCodeStore.mk.injEq]
    exact hdtcs
  rw [hclear]
  exact sent_reportDtcByStatusMask_clearAll s mask inRequestBuffer' capacity'

theorem clearDiagnosticInformation_exact_demo :
    ClearDiagnosticInformation.ClearsExactly DtcSimulator.construct.init.dtcStore
      [0x01, 0x02, 0x00] false 64
      (ClearDiagnosticInformation.handle (fun _ => .ok) DtcSimulator.construct.init.dtcStore
        (.incoming [0x01, 0x02, 0x00] false 64)) :=
  (clearDiagnosticInformation_exact _ (by decide) (by decide) (fun _ => .ok) _ rfl false 64).1

end SovdDemo.Uds

import SovdDemo.Uds.DemoDtcs

/-!
# Does clearing reduce what is reported?

`clear` sets the two not-completed bits, while `init` registers its DTCs with an empty status byte.
A mask that selects one of these bits can therefore count more DTCs after a clear-all than before.
Nothing but `clear` ever sets the two bits, and nothing takes them away: once every DTC has been
cleared for the first time, no further clear-all increases a count.

## Main definitions

- `reportedCount` — the count a tester reads off the reply to `0x19 0x01`
- `NotIncreased` — a successful clear-all does not increase the count for a mask
- `DtcSimulator.Clears` — the operations that clear the DTC at a position

## Main results

- `notIncreased_iff` — one state and one mask
- `hasAt_iff_of_run` — the two bits along a run
- `notIncreased_iff_of_run`
-/

namespace SovdDemo.Uds

open Foundations StatusBit ReadDTCInformation

/-- The number of DTCs that the service `0x19 0x01` reports for a mask. -/
def reportedCount (sim : DtcSimulator) (inRequestBuffer : Bool) (capacity : Nat) (m : UInt8) :
    Option Nat :=
  (positiveReply sim inRequestBuffer capacity [0x01, m]).bind readCount

/-- The count right after a successful `0x14 0xFF 0xFF 0xFF` is at most the count right before. -/
def NotIncreased (sim : DtcSimulator) (inRequestBuffer : Bool) (capacity : Nat) (m : UInt8) :
    Prop :=
  ∀ before sim' c after, reportedCount sim inRequestBuffer capacity m = some before →
    ClearDiagnosticInformation.process sim
      (.incoming [0xFF, 0xFF, 0xFF] inRequestBuffer capacity) = some (.ok, sim', c) →
    reportedCount sim' inRequestBuffer capacity m = some after → after ≤ before

namespace DtcSimulator

variable (sim : DtcSimulator)

/-- The operation clears the DTC at position `i`. -/
def Clears (i : Nat) : Operation → Prop
  | .step | .setEngineTemp _ | .setBatteryVoltage _ | .setVehicleSpeed _ => False
  | .clearAll => True
  | .clearByNumber dtcNumber => sim.dtcStore.findIndexByNumber dtcNumber = some i

instance (i : Nat) : ∀ op, Decidable (sim.Clears i op)
  | .step | .setEngineTemp _ | .setBatteryVoltage _ | .setVehicleSpeed _ =>
    inferInstanceAs (Decidable False)
  | .clearAll => inferInstanceAs (Decidable True)
  | .clearByNumber _ => inferInstanceAs (Decidable (_ = _))

/-- A bit of `clear` that no step touches is set after an operation just when it was set before or
the operation is a clear. -/
theorem has_applyDtc_iff {m : UInt8} (hm : ¬ Overlaps DiagnosticTroubleCode.toggleBits m)
    (hc : Overlaps 0x50 m) (op : Operation) (i : Nat) (d : DiagnosticTroubleCode) :
    (sim.applyDtc op i d).Has m ↔ d.Has m ∨ sim.Clears i op := by
  cases op with
  | step => exact (sim.has_stepDtc_iff hm i d).trans (or_iff_left id).symm
  | setEngineTemp value | setBatteryVoltage value | setVehicleSpeed value =>
    exact (or_iff_left id).symm
  | clearAll => exact iff_of_true hc (.inr trivial)
  | clearByNumber dtcNumber =>
    simp only [applyDtc, Clears]
    split
    · rename_i hi
      exact iff_of_true hc (.inr hi)
    · rename_i hi
      exact (or_iff_left hi).symm

/-- The status byte at position `i` has the bit `m`. -/
def HasAt (i : Nat) (m : UInt8) : Prop := ∃ d ∈ sim.dtcStore.getDtcByIndex i, d.Has m

end DtcSimulator

/-- Along a run from `init` such a bit is set by the first clear of its DTC, and stays. -/
theorem hasAt_iff_of_run {es : List DtcSimulator.Operation} {sim : DtcSimulator}
    (hr : dtcSimulator.Run DtcSimulator.construct.init es sim) {m : UInt8}
    (hm : ¬ Overlaps DiagnosticTroubleCode.toggleBits m) (hc : Overlaps 0x50 m) {i : Nat}
    (hi : i < 5) :
    sim.HasAt i m ↔ dtcSimulator.Sometime (fun sim => sim.Clears i)
      DtcSimulator.construct.init es := by
  refine exists_getDtcByIndex_iff_of_run hr hi ?_ ?_
  · exact fun d hz hhas => d.statusByte_ne_zero_of_has hhas hz
  · exact fun sim d op _ _ => sim.has_applyDtc_iff hm hc op i d

/-! One state -/

theorem reportedCount_eq (sim : DtcSimulator) (inRequestBuffer : Bool) {capacity : Nat}
    (hcap : 5 ≤ capacity) (m : UInt8) :
    reportedCount sim inRequestBuffer capacity m = some (sim.dtcStore.countByStatusMask m) := by
  have hcount : sim.dtcStore.countByStatusMask m ≤ 16 := by
    rw [sim.dtcStore.countByStatusMask_eq]
    exact Nat.le_trans (sim.dtcStore.length_selected_le m) sim.dtcStore.count_le
  rw [reportedCount, positiveReply_dtcStore,
    positiveReply_reportNumberOfDtcByStatusMask sim.dtcStore inRequestBuffer hcap,
    Option.bind_some, readCount_countReport (by omega)]

theorem process_clearAll (sim : DtcSimulator) (inRequestBuffer : Bool) (capacity : Nat) :
    ∃ c, ClearDiagnosticInformation.process sim
      (.incoming [0xFF, 0xFF, 0xFF] inRequestBuffer capacity) = some (.ok, sim.clearAll, c) := by
  refine ⟨ClearDiagnosticInformation.respond
    (.incoming [0xFF, 0xFF, 0xFF] inRequestBuffer capacity), ?_⟩
  rw [ClearDiagnosticInformation.process, IncomingDiagConnection.readRequest_incoming,
    IncomingDiagConnection.readRequest_incoming, IncomingDiagConnection.readRequest_incoming]
  rfl

/-- After a clear-all a mask counts all DTCs or none. -/
theorem countByStatusMask_clearAll {N : Nat} (s : DiagnosticTroubleCodeStore N) (m : UInt8) :
    s.clearAll.countByStatusMask m = if m &&& 0x50 ≠ 0 then s.getCount else 0 := by
  rw [s.clearAll.countByStatusMask_eq, selected_clearAll]
  split
  · exact List.length_map ..
  · rfl

/-- The count for a mask does not increase just when the mask leaves out the bits of `clear`, or
selects every DTC anyway. -/
theorem notIncreased_iff (sim : DtcSimulator) (inRequestBuffer : Bool) {capacity : Nat}
    (hcap : 5 ≤ capacity) (m : UInt8) :
    NotIncreased sim inRequestBuffer capacity m ↔
      m &&& 0x50 = 0 ∨ ∀ d ∈ sim.dtcStore.dtcs, d.matchesStatusMask m = true := by
  obtain ⟨c, hclear⟩ := process_clearAll sim inRequestBuffer capacity
  have hcounts : NotIncreased sim inRequestBuffer capacity m ↔
      sim.clearAll.dtcStore.countByStatusMask m ≤ sim.dtcStore.countByStatusMask m := by
    constructor
    · intro h
      exact h _ _ c _ (reportedCount_eq sim inRequestBuffer hcap m) hclear
        (reportedCount_eq sim.clearAll inRequestBuffer hcap m)
    · rintro h before sim' c' after hb hrun ha
      rw [hclear] at hrun
      obtain ⟨rfl, -⟩ : sim.clearAll = sim' ∧ c = c' := by simpa using hrun
      rw [reportedCount_eq _ inRequestBuffer hcap, Option.some_inj] at hb ha
      rwa [← hb, ← ha]
  have hall : sim.dtcStore.getCount ≤ sim.dtcStore.countByStatusMask m ↔
      ∀ d ∈ sim.dtcStore.dtcs, d.matchesStatusMask m = true := by
    rw [← List.countP_eq_length]
    exact ⟨fun h => Nat.le_antisymm List.countP_le_length h, fun h => Nat.le_of_eq h.symm⟩
  rw [hcounts]
  show sim.dtcStore.clearAll.countByStatusMask m ≤ _ ↔ _
  rw [countByStatusMask_clearAll]
  by_cases hm : m &&& 0x50 = 0
  · simp [hm]
  · rw [if_pos hm, hall, or_iff_right hm]

/-- Every mask does so just when each DTC has both bits of `clear`. -/
theorem forall_mask_iff (sim : DtcSimulator) :
    (∀ m : UInt8, m &&& 0x50 = 0 ∨ ∀ d ∈ sim.dtcStore.dtcs, d.matchesStatusMask m = true) ↔
      ∀ d ∈ sim.dtcStore.dtcs, d.Has testNotCompletedSinceLastClear ∧
        d.Has testNotCompletedThisOperationCyc := by
  have hmatch : ∀ (d : DiagnosticTroubleCode) m, d.matchesStatusMask m = true ↔ d.Has m := by
    intro d m
    rw [DiagnosticTroubleCode.matchesStatusMask, bne_iff_ne]
    rfl
  simp only [hmatch]
  constructor
  · intro h d hd
    exact ⟨(h testNotCompletedSinceLastClear).resolve_left (by decide) d hd,
      (h testNotCompletedThisOperationCyc).resolve_left (by decide) d hd⟩
  · intro h m
    by_cases hm : m &&& 0x50 = 0
    · exact .inl hm
    · right
      intro d hd
      have hm' : Overlaps m (testNotCompletedSinceLastClear ||| testNotCompletedThisOperationCyc) :=
        hm
      -- the mask selects one of the two bits, and the DTC has both
      rcases (overlaps_or_right _ _ _).mp hm' with hbit | hbit
      · exact (h d hd).1.of_bit (k := 4) (by decide) hbit
      · exact (h d hd).2.of_bit (k := 6) (by decide) hbit

/-- After any run, a clear-all does not increase the count for a mask just when the mask leaves out
the bits of `clear` or selects all DTCs; and it increases none at all just when every DTC has been
cleared before. -/
theorem notIncreased_iff_of_run {es : List DtcSimulator.Operation} {sim : DtcSimulator}
    (hr : dtcSimulator.Run DtcSimulator.construct.init es sim) (inRequestBuffer : Bool)
    {capacity : Nat} (hcap : 5 ≤ capacity) :
    (∀ m, NotIncreased sim inRequestBuffer capacity m ↔
      m &&& 0x50 = 0 ∨ ∀ d ∈ sim.dtcStore.dtcs, d.matchesStatusMask m = true) ∧
    ((∀ m, NotIncreased sim inRequestBuffer capacity m) ↔
      ∀ i < 5, dtcSimulator.Sometime (fun sim => sim.Clears i) DtcSimulator.construct.init es) := by
  have hmask := notIncreased_iff sim inRequestBuffer hcap
  refine ⟨hmask, ?_⟩
  have hn := DtcSimulator.numbers_of_reachable ⟨_, es, rfl, hr⟩
  simp only [hmask]
  rw [forall_mask_iff, forall_mem_dtcs_iff hn]
  refine forall₂_congr fun i hi => ?_
  have hcleared : ∀ m, ¬ Overlaps DiagnosticTroubleCode.toggleBits m → Overlaps 0x50 m →
      (sim.HasAt i m ↔ dtcSimulator.Sometime (fun sim => sim.Clears i)
        DtcSimulator.construct.init es) := fun m hm hc => hasAt_iff_of_run hr hm hc hi
  constructor
  · rintro ⟨d, hd, hbit, -⟩
    exact (hcleared _ (by decide) (by decide)).mp ⟨d, hd, hbit⟩
  · intro h
    obtain ⟨d, hd, hbit⟩ :=
      (hcleared testNotCompletedSinceLastClear (by decide) (by decide)).mpr h
    obtain ⟨d', hd', hbit'⟩ :=
      (hcleared testNotCompletedThisOperationCyc (by decide) (by decide)).mpr h
    obtain rfl : d = d' := Option.some.inj (hd.symm.trans hd')
    exact ⟨d, hd, hbit, hbit'⟩

/-- The second of two clear-alls, for the mask that selects every bit. -/
theorem notIncreased_clearAll_step :
    NotIncreased ([DtcSimulator.Operation.clearAll, .step].foldl dtcSimulator.step
      DtcSimulator.construct.init) false 64 0xFF := by
  have hr : dtcSimulator.Run DtcSimulator.construct.init
      [DtcSimulator.Operation.clearAll, .step] _ := .of_enabledAll (by decide)
  exact (notIncreased_iff_of_run hr false (by decide)).2.mpr (by decide) 0xFF

/-- Right after `init` no DTC is counted, and after a clear-all there are five. -/
theorem not_notIncreased_init :
    ¬ ∀ sim, dtcSimulator.Reachable sim → ∀ inRequestBuffer capacity m,
      NotIncreased sim inRequestBuffer capacity m := by
  intro hall
  obtain ⟨c, hclear⟩ := process_clearAll DtcSimulator.construct.init false 64
  have hle := hall _ (.init rfl) false 64 0xFF 0 _ c 5 (by decide) hclear (by decide)
  exact absurd hle (by decide)

end SovdDemo.Uds

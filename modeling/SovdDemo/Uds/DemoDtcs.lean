import SovdDemo.Uds.CompletionStatus
import SovdDemo.Uds.FaultViews

/-!
# Does the ECU report its five DTCs?

`init` registers the five demo DTCs with an empty status byte, and a fault list with the full mask
leaves out the DTCs whose status byte is empty. A DTC shows up once something has been written to
its status byte, by a fault or by `clear`, and stays from then on.

## Main definitions

- `ReportsFive` — the fault list shows each of the five DTCs once, and the count is five
- `DtcSimulator.EverFilled` — some operation of a run fills a status byte

## Main results

- `exists_getDtcByIndex_iff_of_run` — what operations bring about in a DTC, along a run
- `reportsFive_iff_of_run` — the five DTCs are reported exactly when each status byte has been
  filled
-/

namespace SovdDemo.Uds

open Foundations StatusBit ReadDTCInformation

/-- The numbers `init` registers. -/
def demoDtcs : List UInt32 :=
  [DtcSimulator.dtcEngineOvertemp, DtcSimulator.dtcBatteryVoltageLow,
    DtcSimulator.dtcCommunicationFault, DtcSimulator.dtcSensorMalfunction,
    DtcSimulator.dtcBrakeSystemFault]

/-- The replies for the full mask: the five DTCs, each once, and the count five. -/
structure ReportsFive (sim : DtcSimulator) (inRequestBuffer : Bool) (capacity : Nat) : Prop where
  list : ∃ faults, (positiveReply sim inRequestBuffer capacity [0x02, 0xFF]).bind readFaultList =
    some faults ∧ (faults.map FaultRecord.dtcNumber).Perm demoDtcs
  count : (positiveReply sim inRequestBuffer capacity [0x01, 0xFF]).bind readCount = some 5

namespace DtcSimulator

variable (sim : DtcSimulator)

/-- The operation leaves something in the status byte of the DTC at position `i`, even if the byte
is empty. -/
def Fills (i : Nat) : Operation → Prop
  | .step => ∃ d ∈ sim.dtcStore.getDtcByIndex i, sim.Raises i d
  | .setEngineTemp _ | .setBatteryVoltage _ | .setVehicleSpeed _ => False
  | .clearAll => True
  | .clearByNumber dtcNumber => sim.dtcStore.findIndexByNumber dtcNumber = some i

/-- Some operation of the run `es` from `sim` does. -/
def EverFilled (i : Nat) (sim : DtcSimulator) (es : List Operation) : Prop :=
  dtcSimulator.Sometime (fun sim => sim.Fills i) sim es

instance (i : Nat) : ∀ op, Decidable (sim.Fills i op)
  | .step => inferInstanceAs (Decidable (∃ d ∈ _, _))
  | .setEngineTemp _ | .setBatteryVoltage _ | .setVehicleSpeed _ =>
    inferInstanceAs (Decidable False)
  | .clearAll => inferInstanceAs (Decidable True)
  | .clearByNumber _ => inferInstanceAs (Decidable (_ = _))

instance (i : Nat) (sim : DtcSimulator) (es : List Operation) :
    Decidable (EverFilled i sim es) :=
  inferInstanceAs (Decidable (dtcSimulator.Sometime _ sim es))

/-- A step that raises no fault on a DTC with an empty status byte leaves it empty. -/
theorem stepDtc_eq_zero {i : Nat} {d : DiagnosticTroubleCode} (hr : ¬ sim.Raises i d)
    (hz : d.statusByte = 0) : (sim.stepDtc i d).statusByte = 0 := by
  by_contra hne
  have hfull : (sim.stepDtc i d).Has 0xFF := (overlaps_full _).mpr hne
  exact d.statusByte_ne_zero_of_has (sim.has_of_has_stepDtc hr hfull) hz

/-- A status byte is empty after an operation just when it was before and is not filled. -/
theorem applyDtc_ne_zero_iff {i : Nat} {d : DiagnosticTroubleCode}
    (hd : sim.dtcStore.getDtcByIndex i = some d) (hi : FaultHistory d) (op : Operation) :
    (sim.applyDtc op i d).statusByte ≠ 0 ↔ d.statusByte ≠ 0 ∨ sim.Fills i op := by
  constructor
  · intro hne
    by_contra hn
    obtain ⟨hz, hw⟩ := not_or.mp hn
    have hz := not_not.mp hz
    cases op with
    | step => exact hne (sim.stepDtc_eq_zero (fun hr => hw ⟨d, hd, hr⟩) hz)
    | setEngineTemp value | setBatteryVoltage value | setVehicleSpeed value => exact hne hz
    | clearAll => exact hw trivial
    | clearByNumber dtcNumber =>
      have hw : sim.dtcStore.findIndexByNumber dtcNumber ≠ some i := hw
      rw [applyDtc, if_neg hw] at hne
      exact hne hz
  · rintro (hne | hw)
    · exact hi.applyDtc_ne_zero hne sim op i
    · cases op with
      | step =>
        obtain ⟨e, he, hr⟩ := hw
        obtain rfl : d = e := Option.some.inj (hd.symm.trans he)
        have hf := (sim.failing_stepDtc hr).1
        exact hf.elim (DiagnosticTroubleCode.statusByte_ne_zero_of_has _)
          (DiagnosticTroubleCode.statusByte_ne_zero_of_has _)
      | setEngineTemp value | setBatteryVoltage value | setVehicleSpeed value => exact hw.elim
      | clearAll => exact fun hz => absurd hz (by rw [applyDtc, d.clear_statusByte]; decide)
      | clearByNumber dtcNumber =>
        have hw : sim.dtcStore.findIndexByNumber dtcNumber = some i := hw
        rw [applyDtc, if_pos hw, d.clear_statusByte]
        decide

end DtcSimulator

/-- What some operations bring about in the DTC at a position, and none takes away, is there after a
run from `init` just when one of them was in the run. -/
theorem exists_getDtcByIndex_iff_of_run {es : List DtcSimulator.Operation} {sim : DtcSimulator}
    (hr : dtcSimulator.Run DtcSimulator.construct.init es sim) {i : Nat} (hi : i < 5)
    {P : DiagnosticTroubleCode → Prop} {W : DtcSimulator → DtcSimulator.Operation → Prop}
    (hinit : ∀ d, d.statusByte = 0 → ¬ P d)
    (hstep : ∀ (sim : DtcSimulator) d op, sim.dtcStore.getDtcByIndex i = some d →
      FaultHistory d → (P (sim.applyDtc op i d) ↔ P d ∨ W sim op)) :
    (∃ d ∈ sim.dtcStore.getDtcByIndex i, P d) ↔
      dtcSimulator.Sometime W DtcSimulator.construct.init es := by
  have happly : ∀ (sim : DtcSimulator) d op, sim.dtcStore.getDtcByIndex i = some d →
      (sim.apply op).dtcStore.getDtcByIndex i = some (sim.applyDtc op i d) := by
    intro sim d op hd
    rw [sim.getDtcByIndex_apply, hd, Option.map_some]
  have hfirst : ∃ d, DtcSimulator.construct.init.dtcStore.getDtcByIndex i = some d :=
    ⟨_, List.getElem?_eq_getElem (show i < 5 from hi)⟩
  have hiff := hr.iff_or_sometime
    (I := fun sim => (∀ d ∈ sim.dtcStore.dtcs, FaultHistory d) ∧
      ∃ d, sim.dtcStore.getDtcByIndex i = some d)
    (Q := fun sim => ∃ d ∈ sim.dtcStore.getDtcByIndex i, P d) (P := W) ?_ ?_
    ⟨forall_faultHistory_init, hfirst⟩
  · refine hiff.trans (or_iff_right ?_)
    rintro ⟨d, hd, hp⟩
    exact hinit d (statusByte_init d ((DiagnosticTroubleCodeStore.mem_iff _ d).mpr ⟨i, hd⟩)) hp
  · rintro sim op ⟨hh, d, hd⟩ -
    exact ⟨forall_faultHistory_apply hh op, _, happly sim d op hd⟩
  · rintro sim op ⟨hh, d, hd⟩ -
    have hd₀ := hh d ((sim.dtcStore.mem_iff d).mpr ⟨i, hd⟩)
    show (∃ d ∈ (sim.apply op).dtcStore.getDtcByIndex i, P d) ↔ _
    rw [happly sim d op hd, hd]
    simpa using hstep sim d op hd hd₀

/-- The simulator answers as its store does. -/
theorem positiveReply_dtcStore (sim : DtcSimulator) (inRequestBuffer : Bool) (capacity : Nat)
    (request : List UInt8) : positiveReply sim inRequestBuffer capacity request =
      positiveReply sim.dtcStore inRequestBuffer capacity request := by
  rw [positiveReply, process_dtcStore, positiveReply]
  rcases process sim.dtcStore (.incoming request inRequestBuffer capacity) with _ | ⟨code, _, c⟩
  · rfl
  · cases code <;> rfl

theorem length_dtcs {sim : DtcSimulator} (hn : sim.dtcStore.numbers = demoDtcs) :
    sim.dtcStore.dtcs.length = 5 := by
  have hlen := congrArg List.length hn
  rwa [DiagnosticTroubleCodeStore.numbers, List.length_map] at hlen

/-- The five DTCs are those at the first five positions. -/
theorem forall_mem_dtcs_iff {sim : DtcSimulator} (hn : sim.dtcStore.numbers = demoDtcs)
    {P : DiagnosticTroubleCode → Prop} :
    (∀ d ∈ sim.dtcStore.dtcs, P d) ↔ ∀ i < 5, ∃ d ∈ sim.dtcStore.getDtcByIndex i, P d := by
  have hlen := length_dtcs hn
  constructor
  · intro h i hi
    obtain ⟨d, hd⟩ : ∃ d, sim.dtcStore.getDtcByIndex i = some d :=
      ⟨_, List.getElem?_eq_getElem (hlen.symm ▸ hi)⟩
    exact ⟨d, hd, h d ((sim.dtcStore.mem_iff d).mpr ⟨i, hd⟩)⟩
  · intro h d hd
    obtain ⟨i, hi⟩ := (sim.dtcStore.mem_iff d).mp hd
    obtain ⟨d', hd', hp⟩ := h i (hlen ▸ (List.getElem?_eq_some_iff.mp hi).1)
    obtain rfl : d = d' := Option.some.inj (hi.symm.trans hd')
    exact hp

/-- A store of the five DTCs reports them all just when no status byte is empty. -/
theorem reportsFive_iff {sim : DtcSimulator} (hn : sim.dtcStore.numbers = demoDtcs)
    (inRequestBuffer : Bool) {capacity : Nat} (hcap : 22 ≤ capacity) :
    ReportsFive sim inRequestBuffer capacity ↔ ∀ d ∈ sim.dtcStore.dtcs, d.statusByte ≠ 0 := by
  have hcount := length_dtcs hn
  have hle : (sim.dtcStore.selected 0xFF).length ≤ 5 :=
    hcount ▸ sim.dtcStore.length_selected_le 0xFF
  have hroom : (faultList sim.dtcStore 0xFF).length ≤ capacity := by
    rw [length_faultList]
    omega
  have hviews := viewsAgree_of_nodup sim.dtcStore inRequestBuffer
    (by rw [DiagnosticTroubleCodeStore.getCount, hcount]; decide) (by rw [hn]; decide) 0xFF
    (by omega) hroom
  have hfull : ∀ d : DiagnosticTroubleCode, d.matchesStatusMask 0xFF = true ↔ d.statusByte ≠ 0 := by
    intro d
    rw [DiagnosticTroubleCode.matchesStatusMask, bne_iff_ne]
    exact overlaps_full d.statusByte
  constructor
  · -- five of the five DTCs are selected
    intro h d hd
    have hfive := hviews.count.symm.trans h.count
    rw [List.length_map, Option.some_inj, DiagnosticTroubleCodeStore.selected, ← hcount,
      List.length_filter_eq_length_iff] at hfive
    exact (hfull d).mp (hfive d hd)
  · intro hall
    have hself : sim.dtcStore.selected 0xFF = sim.dtcStore.dtcs :=
      List.filter_eq_self.mpr fun d hd => (hfull d).mpr (hall d hd)
    have hlist := hviews.list
    have hcount' := hviews.count
    rw [hself] at hlist hcount'
    refine ⟨⟨_, hlist, ?_⟩, ?_⟩
    · rw [List.map_map, ← hn]
      exact .refl _
    · rw [positiveReply_dtcStore, hcount', List.length_map, hcount]

/-- After any run, the five DTCs are reported exactly when each status byte has been filled, by a
fault or by clearing. -/
theorem reportsFive_iff_of_run {es : List DtcSimulator.Operation} {sim : DtcSimulator}
    (hr : dtcSimulator.Run DtcSimulator.construct.init es sim) (inRequestBuffer : Bool)
    {capacity : Nat} (hcap : 22 ≤ capacity) :
    ReportsFive sim inRequestBuffer capacity ↔
      ∀ i < 5, DtcSimulator.EverFilled i DtcSimulator.construct.init es := by
  have hn : sim.dtcStore.numbers = demoDtcs := DtcSimulator.numbers_of_reachable ⟨_, es, rfl, hr⟩
  rw [reportsFive_iff hn inRequestBuffer hcap, forall_mem_dtcs_iff hn]
  refine forall₂_congr fun i hi => ?_
  refine exists_getDtcByIndex_iff_of_run hr hi (fun d hz => not_not.mpr hz) ?_
  exact fun sim d op hd hh => sim.applyDtc_ne_zero_iff hd hh op

/-- The fault memory is cleared once, and everything is reported from then on. -/
theorem reportsFive_clearAll_step :
    ReportsFive ([DtcSimulator.Operation.clearAll, .step].foldl dtcSimulator.step
      DtcSimulator.construct.init) false 66 := by
  have hr : dtcSimulator.Run DtcSimulator.construct.init
      [DtcSimulator.Operation.clearAll, .step] _ := .of_enabledAll (by decide)
  exact (reportsFive_iff_of_run hr false (by decide)).mpr (by decide)

/-- Right after `init` every status byte is empty, and nothing is reported. -/
theorem not_reportsFive_init :
    ¬ ∀ sim, dtcSimulator.Reachable sim → ∀ inRequestBuffer capacity, 22 ≤ capacity →
      ReportsFive sim inRequestBuffer capacity := by
  intro hall
  have h := hall _ (.init rfl) false 66 (by decide)
  exact absurd h.count (by decide)

end SovdDemo.Uds

import SovdDemo.Uds.DtcSimulator

/-!
# The fault history of the simulator

Four writers share a status byte: the toggle, the two sensor links and `clear`. Each sets or clears
a fixed group of bits, so a property of single DTCs holds along a run once each writer keeps it.
The history of a fault is never lost: a DTC that fails is also confirmed, and only `clear` takes
the history bits away.

## Main definitions

- `FaultHistory` — the history bits agree with each other and with the failure bits

## Main results

- `toggle_cases`, `link_cases` — what a single write can do to a DTC
- `DtcSimulator.stepDtc_preserves`, `DtcSimulator.applyDtc_preserves` — what the writers keep, every
  operation keeps
- `faultHistory_of_reachable` — the fault history holds in every reachable state, and is kept
-/

namespace SovdDemo.Uds

open Foundations StatusBit

namespace DiagnosticTroubleCode

variable (d : DiagnosticTroubleCode)

/-- The bits the toggle sets. -/
def toggleBits : UInt8 :=
  testFailed ||| testFailedThisOperationCycle ||| confirmedDtc ||| testFailedSinceLastClear

/-- The bits a sensor link sets. -/
def linkBits : UInt8 := testFailed ||| confirmedDtc ||| testFailedSinceLastClear

/-- The toggle raises the fault, withdraws it, or leaves the DTC alone. -/
theorem toggle_cases (rnd : UInt32) :
    (¬ d.Has testFailed ∧ rnd &&& 0x02 ≠ 0 ∧ d.toggle rnd = d.setStatusBit toggleBits) ∨
    (d.Has testFailed ∧ rnd &&& 0x01 ≠ 0 ∧
      d.toggle rnd = d.clearStatusBit (testFailed ||| testFailedThisOperationCycle)) ∨
    (¬ (¬ d.Has testFailed ∧ rnd &&& 0x02 ≠ 0) ∧ ¬ (d.Has testFailed ∧ rnd &&& 0x01 ≠ 0) ∧
      d.toggle rnd = d) := by
  have hiff : d.getStatusByte &&& testFailed ≠ 0 ↔ d.Has testFailed := Iff.rfl
  rw [toggle]
  split
  · rename_i hf
    rw [hiff] at hf
    split
    · rename_i hr
      exact .inr (.inl ⟨hf, hr, d.clearStatusBit_clearStatusBit _ _⟩)
    · rename_i hr
      exact .inr (.inr ⟨fun h => h.1 hf, fun h => hr h.2, rfl⟩)
  · rename_i hf
    rw [hiff] at hf
    split
    · rename_i hr
      refine .inl ⟨hf, hr, ?_⟩
      rw [setStatusBit_setStatusBit, setStatusBit_setStatusBit, setStatusBit_setStatusBit]
      rfl
    · rename_i hr
      exact .inr (.inr ⟨fun h => hr h.2, fun h => hf h.1, rfl⟩)

/-- A sensor link raises the fault, withdraws it, or leaves the DTC alone. -/
theorem link_cases (fails passes : Bool) :
    (fails = true ∧ d.link fails passes = d.setStatusBit linkBits) ∨
    (fails = false ∧ d.link fails passes = d.clearStatusBit testFailed) ∨
    (fails = false ∧ d.link fails passes = d) := by
  cases fails with
  | true =>
    refine .inl ⟨rfl, ?_⟩
    simp only [link, if_true, setStatusBit_setStatusBit]
    rfl
  | false =>
    cases passes with
    | true => exact .inr (.inl ⟨rfl, rfl⟩)
    | false => exact .inr (.inr ⟨rfl, rfl⟩)

end DiagnosticTroubleCode

/-! A step, writer by writer -/

namespace DtcSimulator

variable (sim : DtcSimulator)

/-- The toggle of the next step raises the fault of the DTC `d` at position `i`. -/
def ToggleRaises (i : Nat) (d : DiagnosticTroubleCode) : Prop :=
  sim.toggledIndex = some i ∧ ¬ d.Has testFailed ∧ sim.nextRnd &&& 0x02 ≠ 0

/-- The toggle of the next step withdraws it. -/
def ToggleWithdraws (i : Nat) (d : DiagnosticTroubleCode) : Prop :=
  sim.toggledIndex = some i ∧ d.Has testFailed ∧ sim.nextRnd &&& 0x01 ≠ 0

/-- In the next step the sensor of the DTC at position `i` is out of range. -/
def LinkRaises (i : Nat) : Prop :=
  (sim.dtcStore.findIndexByNumber dtcEngineOvertemp = some i ∧
    sim.engineTemp.step.getCurrentValue > 120) ∨
  (sim.dtcStore.findIndexByNumber dtcBatteryVoltageLow = some i ∧
    sim.batteryVoltage.step.getCurrentValue < 110)

instance (i : Nat) (d : DiagnosticTroubleCode) : Decidable (sim.ToggleRaises i d) :=
  inferInstanceAs (Decidable (_ ∧ _ ∧ _))

instance (i : Nat) (d : DiagnosticTroubleCode) : Decidable (sim.ToggleWithdraws i d) :=
  inferInstanceAs (Decidable (_ ∧ _ ∧ _))

instance (i : Nat) : Decidable (sim.LinkRaises i) := inferInstanceAs (Decidable (_ ∨ _))

/-- The DTC at position `i` once the toggle of the next step has run. -/
def toggledDtc (i : Nat) (d : DiagnosticTroubleCode) : DiagnosticTroubleCode :=
  if sim.toggledIndex = some i then d.toggle sim.nextRnd else d

theorem toggledDtc_cases (i : Nat) (d : DiagnosticTroubleCode) :
    (sim.ToggleRaises i d ∧
      sim.toggledDtc i d = d.setStatusBit DiagnosticTroubleCode.toggleBits) ∨
    (sim.ToggleWithdraws i d ∧
      sim.toggledDtc i d = d.clearStatusBit (testFailed ||| testFailedThisOperationCycle)) ∨
    (¬ sim.ToggleRaises i d ∧ ¬ sim.ToggleWithdraws i d ∧ sim.toggledDtc i d = d) := by
  rw [toggledDtc]
  split
  · rename_i hi
    obtain ⟨hf, hr, h⟩ | ⟨hf, hr, h⟩ | ⟨hf, hw, h⟩ := d.toggle_cases sim.nextRnd
    · exact .inl ⟨⟨hi, hf, hr⟩, h⟩
    · exact .inr (.inl ⟨⟨hi, hf, hr⟩, h⟩)
    · exact .inr (.inr ⟨fun h => hf h.2, fun h => hw h.2, h⟩)
  · rename_i hi
    exact .inr (.inr ⟨fun h => hi h.1, fun h => hi h.1, rfl⟩)

theorem linked_cases (d : DiagnosticTroubleCode) (fails : Prop) [Decidable fails]
    (passes : Bool) :
    (fails ∧ d.link fails passes = d.setStatusBit DiagnosticTroubleCode.linkBits) ∨
    (¬ fails ∧ d.link fails passes = d.clearStatusBit testFailed) ∨
    (¬ fails ∧ d.link fails passes = d) := by
  have hcases := d.link_cases fails passes
  simpa only [decide_eq_true_eq, decide_eq_false_iff_not] using hcases

/-- No DTC has both links. -/
theorem findIndexByNumber_battery_ne {i : Nat}
    (he : sim.dtcStore.findIndexByNumber dtcEngineOvertemp = some i) :
    sim.dtcStore.findIndexByNumber dtcBatteryVoltageLow ≠ some i := fun hb =>
  absurd (sim.dtcStore.eq_of_findIndexByNumber he hb) (by decide)

/-! After the toggle, a DTC is written by its own sensor link at most -/

theorem stepDtc_engine {i : Nat} (d : DiagnosticTroubleCode)
    (he : sim.dtcStore.findIndexByNumber dtcEngineOvertemp = some i) :
    sim.stepDtc i d =
      (sim.toggledDtc i d).linkEngineTemp sim.engineTemp.step.getCurrentValue := by
  simp only [stepDtc, if_pos he, if_neg (sim.findIndexByNumber_battery_ne he)]
  rfl

theorem stepDtc_battery {i : Nat} (d : DiagnosticTroubleCode)
    (hb : sim.dtcStore.findIndexByNumber dtcBatteryVoltageLow = some i) :
    sim.stepDtc i d =
      (sim.toggledDtc i d).linkBatteryVoltage sim.batteryVoltage.step.getCurrentValue := by
  simp only [stepDtc, if_neg fun he => sim.findIndexByNumber_battery_ne he hb, if_pos hb]
  rfl

theorem stepDtc_other {i : Nat} (d : DiagnosticTroubleCode)
    (he : sim.dtcStore.findIndexByNumber dtcEngineOvertemp ≠ some i)
    (hb : sim.dtcStore.findIndexByNumber dtcBatteryVoltageLow ≠ some i) :
    sim.stepDtc i d = sim.toggledDtc i d := by
  simp only [stepDtc, if_neg he, if_neg hb]
  rfl

/-- After the toggle, the sensor link of a DTC raises the fault, withdraws it, or leaves the DTC
alone. -/
theorem stepDtc_cases (i : Nat) (d : DiagnosticTroubleCode) :
    (sim.LinkRaises i ∧
      sim.stepDtc i d =
        (sim.toggledDtc i d).setStatusBit DiagnosticTroubleCode.linkBits) ∨
    (¬ sim.LinkRaises i ∧
      sim.stepDtc i d = (sim.toggledDtc i d).clearStatusBit testFailed) ∨
    (¬ sim.LinkRaises i ∧ sim.stepDtc i d = sim.toggledDtc i d) := by
  by_cases he : sim.dtcStore.findIndexByNumber dtcEngineOvertemp = some i
  · have hiff : sim.LinkRaises i ↔ sim.engineTemp.step.getCurrentValue > 120 := by
      simp [LinkRaises, he, sim.findIndexByNumber_battery_ne he]
    rw [sim.stepDtc_engine d he, hiff]
    exact linked_cases _ _ _
  · by_cases hb : sim.dtcStore.findIndexByNumber dtcBatteryVoltageLow = some i
    · have hiff : sim.LinkRaises i ↔ sim.batteryVoltage.step.getCurrentValue < 110 := by
        simp [LinkRaises, he, hb]
      rw [sim.stepDtc_battery d hb, hiff]
      exact linked_cases _ _ _
    · rw [sim.stepDtc_other d he hb]
      exact .inr (.inr ⟨fun h => h.elim (fun h => he h.1) fun h => hb h.1, rfl⟩)

/-- The links only touch TEST_FAILED and the two history bits. -/
theorem has_stepDtc_of_has_toggledDtc {i : Nat} {d : DiagnosticTroubleCode} {m : UInt8}
    (hm : ¬ Overlaps testFailed m) (h : (sim.toggledDtc i d).Has m) : (sim.stepDtc i d).Has m := by
  obtain ⟨-, hl⟩ | ⟨-, hl⟩ | ⟨-, hl⟩ := sim.stepDtc_cases i d <;> rw [hl]
  · exact (DiagnosticTroubleCode.has_setStatusBit _ _ m).mpr (.inl h)
  · exact (DiagnosticTroubleCode.has_clearStatusBit _ hm).mpr h
  · exact h

end DtcSimulator

/-- A property that the toggle and the links keep is kept by a step. -/
theorem DtcSimulator.stepDtc_preserves (sim : DtcSimulator) {P : DiagnosticTroubleCode → Prop}
    (htoggle : ∀ d rnd, P d → P (d.toggle rnd))
    (hlink : ∀ d fails passes, P d → P (d.link fails passes)) {d : DiagnosticTroubleCode}
    (h : P d) (i : Nat) : P (sim.stepDtc i d) := by
  have ht : P (if sim.toggledIndex = some i then d.toggle sim.nextRnd else d) := by
    split
    · exact htoggle d _ h
    · exact h
  have he : ∀ g, P g → P (if sim.dtcStore.findIndexByNumber dtcEngineOvertemp = some i then
      g.linkEngineTemp sim.engineTemp.step.getCurrentValue else g) := by
    intro g hg
    split
    · exact hlink g _ _ hg
    · exact hg
  simp only [stepDtc]
  split
  · exact hlink _ _ _ (he _ ht)
  · exact he _ ht

/-- What a step and `clear` keep, every operation keeps. -/
theorem DtcSimulator.applyDtc_preserves (sim : DtcSimulator) {P : DiagnosticTroubleCode → Prop}
    (hstep : ∀ i d, P d → P (sim.stepDtc i d)) (hclear : ∀ d, P d → P d.clear)
    {d : DiagnosticTroubleCode} (h : P d) (op : Operation) (i : Nat) : P (sim.applyDtc op i d) := by
  cases op with
  | step => exact hstep i d h
  | setEngineTemp value | setBatteryVoltage value | setVehicleSpeed value => exact h
  | clearAll => exact hclear d h
  | clearByNumber dtcNumber =>
    simp only [applyDtc]
    split
    · exact hclear d h
    · exact h

/-! The fault history -/

/-- A DTC that has failed is confirmed, both history bits agree, and the bits nobody sets are
clear. -/
structure FaultHistory (d : DiagnosticTroubleCode) : Prop where
  failed : d.Has testFailed ∨ d.Has testFailedThisOperationCycle →
    d.Has confirmedDtc ∧ d.Has testFailedSinceLastClear
  confirmed_iff : d.Has confirmedDtc ↔ d.Has testFailedSinceLastClear
  pending : ¬ d.Has pendingDtc
  warning : ¬ d.Has warningIndicatorRequested

namespace FaultHistory

variable {d : DiagnosticTroubleCode}

/-- Raising a fault records it in both history bits. -/
theorem setStatusBit (hi : FaultHistory d) {bits : UInt8} (hc : Overlaps bits confirmedDtc)
    (hs : Overlaps bits testFailedSinceLastClear) (hp : ¬ Overlaps bits pendingDtc)
    (hw : ¬ Overlaps bits warningIndicatorRequested) : FaultHistory (d.setStatusBit bits) := by
  constructor <;> simp only [d.has_setStatusBit]
  · exact fun _ => ⟨.inr hc, .inr hs⟩
  · exact iff_of_true (.inr hc) (.inr hs)
  · exact not_or.mpr ⟨hi.pending, hp⟩
  · exact not_or.mpr ⟨hi.warning, hw⟩

/-- Withdrawing a fault leaves the history bits alone. -/
theorem clearStatusBit (hi : FaultHistory d) {bits : UInt8} (hc : ¬ Overlaps bits confirmedDtc)
    (hs : ¬ Overlaps bits testFailedSinceLastClear) : FaultHistory (d.clearStatusBit bits) := by
  constructor
  · intro hf
    rw [d.has_clearStatusBit hc, d.has_clearStatusBit hs]
    exact hi.failed (hf.imp d.has_of_has_clearStatusBit d.has_of_has_clearStatusBit)
  · rw [d.has_clearStatusBit hc, d.has_clearStatusBit hs]
    exact hi.confirmed_iff
  · exact fun h => hi.pending (d.has_of_has_clearStatusBit h)
  · exact fun h => hi.warning (d.has_of_has_clearStatusBit h)

theorem clear (d : DiagnosticTroubleCode) : FaultHistory d.clear := by
  constructor <;> simp only [d.has_clear] <;> decide

theorem toggle (hi : FaultHistory d) (rnd : UInt32) : FaultHistory (d.toggle rnd) := by
  obtain ⟨-, -, h⟩ | ⟨-, -, h⟩ | ⟨-, -, h⟩ := d.toggle_cases rnd <;> rw [h]
  · exact hi.setStatusBit (by decide) (by decide) (by decide) (by decide)
  · exact hi.clearStatusBit (by decide) (by decide)
  · exact hi

theorem link (hi : FaultHistory d) (fails passes : Bool) : FaultHistory (d.link fails passes) := by
  obtain ⟨-, h⟩ | ⟨-, h⟩ | ⟨-, h⟩ := d.link_cases fails passes <;> rw [h]
  · exact hi.setStatusBit (by decide) (by decide) (by decide) (by decide)
  · exact hi.clearStatusBit (by decide) (by decide)
  · exact hi

theorem stepDtc (hi : FaultHistory d) (sim : DtcSimulator) (i : Nat) :
    FaultHistory (sim.stepDtc i d) :=
  sim.stepDtc_preserves (fun _ rnd h => h.toggle rnd) (fun _ f p h => h.link f p) hi i

theorem applyDtc (hi : FaultHistory d) (sim : DtcSimulator) (op : DtcSimulator.Operation)
    (i : Nat) : FaultHistory (sim.applyDtc op i d) :=
  sim.applyDtc_preserves (fun i _ h => h.stepDtc sim i) (fun d _ => clear d) hi op i

/-- Clearing failure bits leaves something behind: the rest of the byte, or the history. -/
theorem clearStatusBit_ne_zero (hi : FaultHistory d) (hne : d.statusByte ≠ 0) {bits : UInt8}
    (hb : ¬ Overlaps bits (~~~bits)) (hc : ¬ Overlaps bits confirmedDtc)
    (hf : d.Has bits → d.Has testFailed ∨ d.Has testFailedThisOperationCycle) :
    (d.clearStatusBit bits).statusByte ≠ 0 := by
  by_cases h : d.Has bits
  · -- a failure bit goes, and the fault it stands for has been confirmed
    exact DiagnosticTroubleCode.statusByte_ne_zero_of_has _
      ((d.has_clearStatusBit hc).mpr (hi.failed (hf h)).1)
  · -- nothing goes
    have hfull : d.Has (bits ||| ~~~bits) := by
      rw [UInt8.or_not_self]
      exact (overlaps_full _).mpr hne
    have hrest : d.Has (~~~bits) := ((d.has_or _ _).mp hfull).resolve_left h
    exact DiagnosticTroubleCode.statusByte_ne_zero_of_has _ ((d.has_clearStatusBit hb).mpr hrest)

theorem setStatusBit_ne_zero (hne : d.statusByte ≠ 0) (bits : UInt8) :
    (d.setStatusBit bits).statusByte ≠ 0 := by
  have hfull : d.Has 0xFF := (overlaps_full _).mpr hne
  exact DiagnosticTroubleCode.statusByte_ne_zero_of_has _
    ((d.has_setStatusBit bits 0xFF).mpr (.inl hfull))

theorem stepDtc_ne_zero (hi : FaultHistory d) (hne : d.statusByte ≠ 0) (sim : DtcSimulator)
    (i : Nat) : (sim.stepDtc i d).statusByte ≠ 0 := by
  -- each writer needs the history that the writer before it has kept
  refine (sim.stepDtc_preserves (P := fun d => FaultHistory d ∧ d.statusByte ≠ 0)
    ?_ ?_ ⟨hi, hne⟩ i).2
  · rintro d rnd ⟨hi, hne⟩
    refine ⟨hi.toggle rnd, ?_⟩
    obtain ⟨-, -, h⟩ | ⟨-, -, h⟩ | ⟨-, -, h⟩ := d.toggle_cases rnd <;> rw [h]
    · exact setStatusBit_ne_zero hne _
    · exact hi.clearStatusBit_ne_zero hne (by decide) (by decide) (d.has_or _ _).mp
    · exact hne
  · rintro d fails passes ⟨hi, hne⟩
    refine ⟨hi.link fails passes, ?_⟩
    obtain ⟨-, h⟩ | ⟨-, h⟩ | ⟨-, h⟩ := d.link_cases fails passes <;> rw [h]
    · exact setStatusBit_ne_zero hne _
    · exact hi.clearStatusBit_ne_zero hne (by decide) (by decide) .inl
    · exact hne

theorem applyDtc_ne_zero (hi : FaultHistory d) (hne : d.statusByte ≠ 0) (sim : DtcSimulator)
    (op : DtcSimulator.Operation) (i : Nat) : (sim.applyDtc op i d).statusByte ≠ 0 := by
  refine (sim.applyDtc_preserves (P := fun d => FaultHistory d ∧ d.statusByte ≠ 0)
    ?_ ?_ ⟨hi, hne⟩ op i).2
  · rintro i d ⟨hi, hne⟩
    exact ⟨hi.stepDtc sim i, hi.stepDtc_ne_zero hne sim i⟩
  · rintro d -
    exact ⟨clear d, by simp⟩

end FaultHistory

/-- A step clears none of the bits outside the two failure bits. -/
theorem has_stepDtc_of_has {d : DiagnosticTroubleCode} {m : UInt8}
    (hm : ¬ Overlaps (testFailed ||| testFailedThisOperationCycle) m) (h : d.Has m)
    (sim : DtcSimulator) (i : Nat) : (sim.stepDtc i d).Has m := by
  have hm' : ¬ Overlaps testFailed m := fun ho => hm ((overlaps_or _ _ _).mpr (.inl ho))
  refine sim.stepDtc_preserves (P := fun d => d.Has m) ?_ ?_ h i
  · intro d rnd hd
    obtain ⟨-, -, h⟩ | ⟨-, -, h⟩ | ⟨-, -, h⟩ := d.toggle_cases rnd <;> rw [h]
    · exact (d.has_setStatusBit _ m).mpr (.inl hd)
    · exact (d.has_clearStatusBit hm).mpr hd
    · exact hd
  · intro d fails passes hd
    obtain ⟨-, h⟩ | ⟨-, h⟩ | ⟨-, h⟩ := d.link_cases fails passes <;> rw [h]
    · exact (d.has_setStatusBit _ m).mpr (.inl hd)
    · exact (d.has_clearStatusBit hm').mpr hd
    · exact hd

namespace DtcSimulator

variable (sim : DtcSimulator)

/-- A property of single DTCs that every operation keeps holds of all of them afterwards. -/
theorem forall_mem_apply {P : DiagnosticTroubleCode → Prop} {op : Operation}
    (hop : ∀ i d, sim.dtcStore.getDtcByIndex i = some d → P (sim.applyDtc op i d)) :
    ∀ d ∈ (sim.apply op).dtcStore.dtcs, P d := by
  intro d hd
  obtain ⟨i, hi⟩ := ((sim.apply op).dtcStore.mem_iff d).mp hd
  rw [getDtcByIndex_apply, Option.map_eq_some_iff] at hi
  obtain ⟨d₀, hd₀, rfl⟩ := hi
  exact hop i d₀ hd₀

/-- A property that a step keeps on each DTC up to an exception holds of all of them afterwards
exactly when no DTC is an exception. -/
theorem forall_mem_step_iff {P : DiagnosticTroubleCode → Prop}
    {exception : Nat → DiagnosticTroubleCode → Prop}
    (hstep : ∀ i d, sim.dtcStore.getDtcByIndex i = some d →
      (P (sim.stepDtc i d) ↔ ¬ exception i d)) :
    (∀ d ∈ sim.step.dtcStore.dtcs, P d) ↔
      ¬ ∃ i < sim.dtcStore.getCount, ∃ d ∈ sim.dtcStore.getDtcByIndex i, exception i d := by
  constructor
  · rintro hall ⟨i, -, d, hd, he⟩
    have hmem : sim.stepDtc i d ∈ sim.step.dtcStore.dtcs := by
      refine (sim.step.dtcStore.mem_iff _).mpr ⟨i, ?_⟩
      rw [sim.getDtcByIndex_step, Option.mem_def.mp hd, Option.map_some]
    exact (hstep i d hd).mp (hall _ hmem) he
  · intro hn
    show ∀ d ∈ (sim.apply .step).dtcStore.dtcs, P d
    refine sim.forall_mem_apply ?_
    intro i d hd
    have hlt : i < sim.dtcStore.getCount := (List.getElem?_eq_some_iff.mp hd).1
    exact (hstep i d hd).mpr fun he => hn ⟨i, hlt, d, hd, he⟩

/-- The operations other than `step` write nothing but `clear`. -/
theorem forall_mem_apply_of_ne_step {P : DiagnosticTroubleCode → Prop}
    (hi : ∀ d ∈ sim.dtcStore.dtcs, P d) (hclear : ∀ d : DiagnosticTroubleCode, P d.clear)
    {op : Operation} (hop : op ≠ .step) : ∀ d ∈ (sim.apply op).dtcStore.dtcs, P d := by
  cases op with
  | step => exact absurd rfl hop
  | setEngineTemp value | setBatteryVoltage value | setVehicleSpeed value => exact hi
  | clearAll => exact sim.forall_mem_apply fun _ d _ => hclear d
  | clearByNumber dtcNumber =>
    refine sim.forall_mem_apply ?_
    intro i d hd
    rw [applyDtc]
    split
    · exact hclear d
    · exact hi d ((sim.dtcStore.mem_iff d).mpr ⟨i, hd⟩)

theorem stepDtc_dtcNumber (i : Nat) (d : DiagnosticTroubleCode) :
    (sim.stepDtc i d).dtcNumber = d.dtcNumber := by
  refine sim.stepDtc_preserves (P := fun g => g.dtcNumber = d.dtcNumber) ?_ ?_ rfl i
  · exact fun g rnd hg => (g.toggle_dtcNumber rnd).trans hg
  · exact fun g fails passes hg => (g.link_dtcNumber fails passes).trans hg

theorem applyDtc_dtcNumber (op : Operation) (i : Nat) (d : DiagnosticTroubleCode) :
    (sim.applyDtc op i d).dtcNumber = d.dtcNumber := by
  refine sim.applyDtc_preserves (P := fun g => g.dtcNumber = d.dtcNumber) ?_ ?_ rfl op i
  · exact fun i g hg => (sim.stepDtc_dtcNumber i g).trans hg
  · exact fun g hg => hg

end DtcSimulator

/-- The DTCs `init` registers start with an empty status byte. -/
theorem statusByte_init : ∀ d ∈ DtcSimulator.construct.init.dtcStore.dtcs, d.statusByte = 0 := by
  decide

theorem faultHistory_of_statusByte_eq_zero {d : DiagnosticTroubleCode} (h : d.statusByte = 0) :
    FaultHistory d := by
  have hnot : ∀ m, ¬ d.Has m := fun m hm => DiagnosticTroubleCode.statusByte_ne_zero_of_has _ hm h
  exact ⟨fun hf => (hf.elim (hnot _) (hnot _)).elim, iff_of_false (hnot _) (hnot _), hnot _, hnot _⟩

theorem forall_faultHistory_apply {sim : DtcSimulator}
    (hi : ∀ d ∈ sim.dtcStore.dtcs, FaultHistory d) (op : DtcSimulator.Operation) :
    ∀ d ∈ (sim.apply op).dtcStore.dtcs, FaultHistory d :=
  sim.forall_mem_apply fun i d hd =>
    (hi d ((sim.dtcStore.mem_iff d).mpr ⟨i, hd⟩)).applyDtc sim op i

theorem forall_faultHistory_init :
    ∀ d ∈ DtcSimulator.construct.init.dtcStore.dtcs, FaultHistory d := fun d hd =>
  faultHistory_of_statusByte_eq_zero (statusByte_init d hd)

theorem forall_faultHistory {sim : DtcSimulator} (hr : dtcSimulator.Reachable sim) :
    ∀ d ∈ sim.dtcStore.dtcs, FaultHistory d := by
  refine hr.invariant (I := fun sim => ∀ d ∈ sim.dtcStore.dtcs, FaultHistory d) ?_ ?_
  · rintro sim rfl
    exact forall_faultHistory_init
  · intro sim op hi _
    exact forall_faultHistory_apply hi op

/-- In every reachable state the fault history holds of every DTC, no step clears a history bit, and
no operation empties a status byte. -/
theorem faultHistory_of_reachable {sim : DtcSimulator} (hr : dtcSimulator.Reachable sim) :
    (∀ d ∈ sim.dtcStore.dtcs, FaultHistory d) ∧
    (∀ i d, sim.dtcStore.getDtcByIndex i = some d →
      ∃ d', sim.step.dtcStore.getDtcByIndex i = some d' ∧ d'.dtcNumber = d.dtcNumber ∧
        (d.Has confirmedDtc → d'.Has confirmedDtc) ∧
        (d.Has testFailedSinceLastClear → d'.Has testFailedSinceLastClear)) ∧
    ∀ op i d, sim.dtcStore.getDtcByIndex i = some d →
      ∃ d', (sim.apply op).dtcStore.getDtcByIndex i = some d' ∧ d'.dtcNumber = d.dtcNumber ∧
        (d.statusByte ≠ 0 → d'.statusByte ≠ 0) := by
  have hall := forall_faultHistory hr
  refine ⟨hall, ?_, ?_⟩
  · intro i d hd
    refine ⟨sim.stepDtc i d, ?_, sim.stepDtc_dtcNumber i d, ?_, ?_⟩
    · rw [sim.getDtcByIndex_step, hd, Option.map_some]
    · exact fun h => has_stepDtc_of_has (by decide) h sim i
    · exact fun h => has_stepDtc_of_has (by decide) h sim i
  · intro op i d hd
    have hi := hall d ((sim.dtcStore.mem_iff d).mpr ⟨i, hd⟩)
    refine ⟨sim.applyDtc op i d, ?_, sim.applyDtc_dtcNumber op i d, ?_⟩
    · rw [sim.getDtcByIndex_apply, hd, Option.map_some]
    · exact fun hne => hi.applyDtc_ne_zero hne sim op i

/-- The engine overheats, a step records it, and the fault memory is cleared. -/
def overheatThenClear : List DtcSimulator.Operation := [.setEngineTemp 130, .step, .clearAll]

theorem faultHistory_overheatThenClear :
    ∃ d ∈ (overheatThenClear.foldl dtcSimulator.step DtcSimulator.construct.init).dtcStore.dtcs,
      d.statusByte = 0x50 ∧ FaultHistory d :=
  ⟨⟨0x010100, 0x50, by decide⟩, by decide, rfl,
    (faultHistory_of_reachable
      ⟨_, overheatThenClear, rfl, .of_enabledAll (by decide)⟩).1 _ (by decide)⟩

end SovdDemo.Uds

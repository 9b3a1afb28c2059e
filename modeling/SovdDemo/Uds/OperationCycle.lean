import SovdDemo.Uds.CompletionStatus

/-!
# Do the fault-raising paths agree on the operation cycle?

The toggle raises a fault together with its operation-cycle bit and withdraws both. The sensor links
raise TEST_FAILED alone: a DTC that is out of range without having been toggled in this cycle counts
as failing, and as not having failed in this operation cycle.

## Main definitions

- `CycleConsistent` — a test that is failing has failed in this operation cycle
- `RaisesOutsideCycle` — the steps whose sensor link raises a fault without the bit

## Main results

- `cycleConsistent_stepDtc_iff` — one step, seen from one DTC
- `cycleConsistent_of_reachable` — the bits agree in every run without such a step
-/

namespace SovdDemo.Uds

open Foundations StatusBit

/-- A test that is failing has failed in this operation cycle. -/
def CycleConsistent (d : DiagnosticTroubleCode) : Prop :=
  d.Has testFailed → d.Has testFailedThisOperationCycle

instance (d : DiagnosticTroubleCode) : Decidable (CycleConsistent d) :=
  inferInstanceAs (Decidable (_ → _))

namespace DtcSimulator

variable (sim : DtcSimulator)

/-- The operation-cycle bit of `d` is set once the toggle of the next step has run. -/
def LeavesCycleBit (i : Nat) (d : DiagnosticTroubleCode) : Prop :=
  sim.ToggleRaises i d ∨ (d.Has testFailedThisOperationCycle ∧ ¬ sim.ToggleWithdraws i d)

instance (i : Nat) (d : DiagnosticTroubleCode) : Decidable (sim.LeavesCycleBit i d) :=
  inferInstanceAs (Decidable (_ ∨ _))

end DtcSimulator

/-- A step whose sensor link raises a fault while the toggle leaves the operation-cycle bit
clear. -/
def RaisesOutsideCycle (sim : DtcSimulator) : DtcSimulator.Operation → Prop
  | .step => ∃ i < sim.dtcStore.getCount, ∃ d ∈ sim.dtcStore.getDtcByIndex i,
      sim.LinkRaises i ∧ ¬ sim.LeavesCycleBit i d
  | _ => False

instance (sim : DtcSimulator) : ∀ op, Decidable (RaisesOutsideCycle sim op)
  | .step => inferInstanceAs (Decidable (∃ i < _, ∃ d ∈ _, _ ∧ _))
  | .setEngineTemp _ | .setBatteryVoltage _ | .setVehicleSpeed _ | .clearAll | .clearByNumber _ =>
    inferInstanceAs (Decidable False)

namespace DtcSimulator

variable (sim : DtcSimulator) {i : Nat} {d : DiagnosticTroubleCode}

/-- What the toggle makes of the operation-cycle bit. -/
theorem has_cycle_toggledDtc_iff :
    (sim.toggledDtc i d).Has testFailedThisOperationCycle ↔ sim.LeavesCycleBit i d := by
  rw [LeavesCycleBit]
  obtain ⟨hr, h⟩ | ⟨hw, h⟩ | ⟨hr, hw, h⟩ := sim.toggledDtc_cases i d
  · -- raised: the bit is set with the fault
    rw [h]
    exact iff_of_true ((d.has_setStatusBit _ _).mpr (.inr (by decide))) (.inl hr)
  · -- withdrawn: the bit goes with the fault
    rw [h]
    refine iff_of_false ?_ ?_
    · exact d.not_has_clearStatusBit (by decide)
    · exact fun ho => ho.elim (fun hr => hr.2.1 hw.2.1) fun hk => hk.2 hw
  · rw [h, or_iff_right hr, and_iff_left hw]

/-- The links leave the operation-cycle bit alone. -/
theorem has_cycle_stepDtc_iff :
    (sim.stepDtc i d).Has testFailedThisOperationCycle ↔ sim.LeavesCycleBit i d := by
  rw [← has_cycle_toggledDtc_iff]
  obtain ⟨-, h⟩ | ⟨-, h⟩ | ⟨-, h⟩ := sim.stepDtc_cases i d <;> rw [h]
  · rw [DiagnosticTroubleCode.has_setStatusBit]
    exact or_iff_left (by decide)
  · exact DiagnosticTroubleCode.has_clearStatusBit _ (by decide)

/-- The toggle keeps the two bits together. -/
theorem cycleConsistent_toggledDtc (hi : CycleConsistent d) :
    CycleConsistent (sim.toggledDtc i d) := by
  intro hf
  rw [has_cycle_toggledDtc_iff]
  obtain ⟨hr, -⟩ | ⟨-, h⟩ | ⟨-, hw, h⟩ := sim.toggledDtc_cases i d
  · exact .inl hr
  · rw [h] at hf
    exact absurd hf (d.not_has_clearStatusBit (by decide))
  · rw [h] at hf
    exact .inr ⟨hi hf, hw⟩

end DtcSimulator

/-- A step keeps the two bits of a DTC together exactly when its sensor link raises no fault on it
without the operation-cycle bit. -/
theorem cycleConsistent_stepDtc_iff (sim : DtcSimulator) {i : Nat} {d : DiagnosticTroubleCode}
    (hi : CycleConsistent d) :
    CycleConsistent (sim.stepDtc i d) ↔ ¬ (sim.LinkRaises i ∧ ¬ sim.LeavesCycleBit i d) := by
  rw [CycleConsistent, sim.has_cycle_stepDtc_iff]
  obtain ⟨hl, h⟩ | ⟨hl, h⟩ | ⟨hl, h⟩ := sim.stepDtc_cases i d
  · -- the link sets TEST_FAILED
    have hf : (sim.stepDtc i d).Has testFailed := by
      rw [h]
      exact (DiagnosticTroubleCode.has_setStatusBit _ _ _).mpr (.inr (by decide))
    rw [not_and_not_right]
    exact ⟨fun hc _ => hc hf, fun hc _ => hc hl⟩
  · -- it clears it
    refine iff_of_true (fun hf => ?_) fun hc => hl hc.1
    rw [h] at hf
    exact absurd hf (DiagnosticTroubleCode.not_has_clearStatusBit _ (by decide))
  · refine iff_of_true (fun hf => ?_) fun hc => hl hc.1
    rw [h] at hf
    exact sim.has_cycle_toggledDtc_iff.mp (sim.cycleConsistent_toggledDtc hi hf)

/-- The same for an operation and all DTCs. -/
theorem forall_cycleConsistent_apply_iff {sim : DtcSimulator}
    (hi : ∀ d ∈ sim.dtcStore.dtcs, CycleConsistent d) (op : DtcSimulator.Operation) :
    (∀ d ∈ (sim.apply op).dtcStore.dtcs, CycleConsistent d) ↔ ¬ RaisesOutsideCycle sim op := by
  have hclear : ∀ d : DiagnosticTroubleCode, CycleConsistent d.clear := by
    intro d hf
    rw [d.has_clear] at hf
    exact absurd hf (by decide)
  by_cases hop : op = .step
  · subst hop
    exact sim.forall_mem_step_iff fun i d hd =>
      cycleConsistent_stepDtc_iff sim (hi d ((sim.dtcStore.mem_iff d).mpr ⟨i, hd⟩))
  · refine iff_of_true (sim.forall_mem_apply_of_ne_step hi hclear hop) ?_
    intro hr
    cases op with
    | step => exact hop rfl
    | _ => exact hr

/-- In every run without a step that raises a fault outside the operation cycle, a failing test has
failed in this cycle; and the next operation keeps it so exactly when it is no such step. -/
theorem cycleConsistent_of_reachable {sim : DtcSimulator}
    (hr : (dtcSimulator.restrict fun sim op => ¬ RaisesOutsideCycle sim op).Reachable sim) :
    (∀ d ∈ sim.dtcStore.dtcs, CycleConsistent d) ∧
    ∀ op, (∀ d ∈ (sim.apply op).dtcStore.dtcs, CycleConsistent d) ↔
      ¬ RaisesOutsideCycle sim op := by
  have hi : ∀ d ∈ sim.dtcStore.dtcs, CycleConsistent d := by
    refine hr.invariant (I := fun sim => ∀ d ∈ sim.dtcStore.dtcs, CycleConsistent d) ?_ ?_
    · -- at first no test is failing
      rintro sim rfl d hd hf
      exact absurd (statusByte_init d hd) (d.statusByte_ne_zero_of_has hf)
    · rintro sim op hi ⟨-, hg⟩
      exact (forall_cycleConsistent_apply_iff hi op).mpr hg
  exact ⟨hi, forall_cycleConsistent_apply_iff hi⟩

/-- Twelve steps with the sensors in range: the toggle raises the fifth DTC. -/
def twelveSteps : List DtcSimulator.Operation := List.replicate 12 .step

theorem cycleConsistent_twelveSteps :
    ∃ d ∈ (twelveSteps.foldl dtcSimulator.step DtcSimulator.construct.init).dtcStore.dtcs,
      d.statusByte = 0x2B ∧ CycleConsistent d :=
  ⟨⟨0x010500, 0x2B, by decide⟩, by decide, rfl,
    (cycleConsistent_of_reachable ⟨_, twelveSteps, rfl, .of_enabledAll (by decide)⟩).1 _
      (by decide)⟩

/-- The engine overheats and one step records it: TEST_FAILED is set in 0x29, and the operation
cycle bit is not. -/
theorem not_cycleConsistent_overheat :
    ¬ ∀ sim, dtcSimulator.Reachable sim → ∀ d ∈ sim.dtcStore.dtcs, CycleConsistent d := by
  intro hall
  have hr : dtcSimulator.Reachable
      ([DtcSimulator.Operation.setEngineTemp 130, .step].foldl dtcSimulator.step
        DtcSimulator.construct.init) :=
    ⟨_, _, rfl, .of_enabledAll (by decide)⟩
  have hm : (⟨0x010100, 0x29, by decide⟩ : DiagnosticTroubleCode) ∈
      ([DtcSimulator.Operation.setEngineTemp 130, .step].foldl dtcSimulator.step
        DtcSimulator.construct.init).dtcStore.dtcs := by
    decide
  exact absurd (hall _ hr _ hm) (by decide)

end SovdDemo.Uds

import SovdDemo.Uds.FaultStatus

/-!
# Do the status bytes contradict themselves about test completion?

`clear` sets both not-completed bits, and nothing ever clears them. A fault that is raised on such
a DTC, by the toggle or by a sensor link, leaves a status byte that says the test has failed and
has not been completed.

## Main definitions

- `CompletionConsistent` — a test that failed has been completed
- `DtcSimulator.Raises` — the next step raises a fault on a DTC
- `RaisesUncompleted` — the steps that raise one on a DTC with a not-completed bit

## Main results

- `completionConsistent_stepDtc_iff` — one step, seen from one DTC
- `completionConsistent_of_reachable` — no run without such a step contradicts the completion bits
-/

namespace SovdDemo.Uds

open Foundations StatusBit

/-- A test that has failed has been completed, since the last clear and in this operation cycle. -/
structure CompletionConsistent (d : DiagnosticTroubleCode) : Prop where
  sinceLastClear : ¬ ((d.Has testFailed ∨ d.Has testFailedSinceLastClear) ∧
    d.Has testNotCompletedSinceLastClear)
  thisOperationCycle : ¬ ((d.Has testFailed ∨ d.Has testFailedThisOperationCycle) ∧
    d.Has testNotCompletedThisOperationCyc)

/-- Either not-completed bit. -/
def notCompleted : UInt8 := testNotCompletedSinceLastClear ||| testNotCompletedThisOperationCyc

namespace DtcSimulator

variable (sim : DtcSimulator)

/-- The next step raises a fault on the DTC `d` at position `i`. -/
def Raises (i : Nat) (d : DiagnosticTroubleCode) : Prop :=
  sim.ToggleRaises i d ∨ sim.LinkRaises i

instance (i : Nat) (d : DiagnosticTroubleCode) : Decidable (sim.Raises i d) :=
  inferInstanceAs (Decidable (_ ∨ _))

end DtcSimulator

/-- A step that raises a fault on a DTC whose test counts as not completed. -/
def RaisesUncompleted (sim : DtcSimulator) : DtcSimulator.Operation → Prop
  | .step => ∃ i < sim.dtcStore.getCount, ∃ d ∈ sim.dtcStore.getDtcByIndex i,
      sim.Raises i d ∧ d.Has notCompleted
  | _ => False

instance (sim : DtcSimulator) : ∀ op, Decidable (RaisesUncompleted sim op)
  | .step => inferInstanceAs (Decidable (∃ i < _, ∃ d ∈ _, _ ∧ _))
  | .setEngineTemp _ | .setBatteryVoltage _ | .setVehicleSpeed _ | .clearAll | .clearByNumber _ =>
    inferInstanceAs (Decidable False)

namespace DiagnosticTroubleCode

variable {d : DiagnosticTroubleCode}

/-- Bits that are neither set nor cleared. -/
theorem has_toggle_iff {m : UInt8} (hm : ¬ Overlaps toggleBits m) (rnd : UInt32) :
    (d.toggle rnd).Has m ↔ d.Has m := by
  have hclear : ¬ Overlaps (testFailed ||| testFailedThisOperationCycle) m := fun ho =>
    hm ((overlaps_or (testFailed ||| testFailedThisOperationCycle)
      (confirmedDtc ||| testFailedSinceLastClear) m).mpr (.inl ho))
  obtain ⟨-, -, h⟩ | ⟨-, -, h⟩ | ⟨-, -, h⟩ := d.toggle_cases rnd <;> rw [h]
  · rw [has_setStatusBit, or_iff_left hm]
  · exact d.has_clearStatusBit hclear

theorem has_link_iff {m : UInt8} (hm : ¬ Overlaps linkBits m) (fails passes : Bool) :
    (d.link fails passes).Has m ↔ d.Has m := by
  have hclear : ¬ Overlaps testFailed m := fun ho =>
    hm ((overlaps_or testFailed (confirmedDtc ||| testFailedSinceLastClear) m).mpr (.inl ho))
  obtain ⟨-, h⟩ | ⟨-, h⟩ | ⟨-, h⟩ := d.link_cases fails passes <;> rw [h]
  · rw [has_setStatusBit, or_iff_left hm]
  · exact d.has_clearStatusBit hclear

/-- The bits a fault leaves behind contradict both completion bits. -/
def Failing (d : DiagnosticTroubleCode) : Prop :=
  (d.Has testFailed ∨ d.Has testFailedSinceLastClear) ∧
    (d.Has testFailed ∨ d.Has testFailedThisOperationCycle)

end DiagnosticTroubleCode

namespace DtcSimulator

open DiagnosticTroubleCode

variable (sim : DtcSimulator)

/-- No step sets or clears a not-completed bit. -/
theorem has_stepDtc_iff {m : UInt8} (hm : ¬ Overlaps toggleBits m) (i : Nat)
    (d : DiagnosticTroubleCode) : (sim.stepDtc i d).Has m ↔ d.Has m := by
  have hm' : ¬ Overlaps linkBits m := fun ho =>
    hm ((overlaps_or linkBits testFailedThisOperationCycle m).mpr (.inl ho))
  refine sim.stepDtc_preserves (P := fun g => g.Has m ↔ d.Has m) ?_ ?_ Iff.rfl i
  · exact fun g rnd hg => (has_toggle_iff hm rnd).trans hg
  · exact fun g fails passes hg => (has_link_iff hm' fails passes).trans hg

/-- A step that raises no fault on a DTC sets none of its bits. -/
theorem has_of_has_stepDtc {i : Nat} {d : DiagnosticTroubleCode} (hr : ¬ sim.Raises i d)
    {m : UInt8} (hm : (sim.stepDtc i d).Has m) : d.Has m := by
  obtain ⟨htoggle, hlink⟩ := not_or.mp hr
  have ht : (sim.toggledDtc i d).Has m → d.Has m := by
    intro hg
    obtain ⟨h, -⟩ | ⟨-, h⟩ | ⟨-, -, h⟩ := sim.toggledDtc_cases i d
    · exact absurd h htoggle
    · exact d.has_of_has_clearStatusBit (h ▸ hg)
    · exact h ▸ hg
  obtain ⟨h, -⟩ | ⟨-, h⟩ | ⟨-, h⟩ := sim.stepDtc_cases i d
  · exact absurd h hlink
  · exact ht ((sim.toggledDtc i d).has_of_has_clearStatusBit (h ▸ hm))
  · exact ht (h ▸ hm)

/-- A step that raises a fault on a DTC leaves it failing. -/
theorem failing_stepDtc {i : Nat} {d : DiagnosticTroubleCode} (hr : sim.Raises i d) :
    Failing (sim.stepDtc i d) := by
  rcases hr with hraise | hraise
  · -- the toggle: the links leave its two history bits in place
    obtain ⟨-, h⟩ | ⟨hw, -⟩ | ⟨hn, -⟩ := sim.toggledDtc_cases i d
    · have hset : ∀ m, Overlaps toggleBits m → (sim.toggledDtc i d).Has m := by
        intro m hm
        rw [h]
        exact (d.has_setStatusBit _ m).mpr (.inr hm)
      exact ⟨.inr (sim.has_stepDtc_of_has_toggledDtc (by decide) (hset _ (by decide))),
        .inr (sim.has_stepDtc_of_has_toggledDtc (by decide) (hset _ (by decide)))⟩
    · exact absurd hw.2.1 hraise.2.1
    · exact absurd hraise hn
  · obtain ⟨-, h⟩ | ⟨hn, -⟩ | ⟨hn, -⟩ := sim.stepDtc_cases i d
    · have ht : (sim.stepDtc i d).Has testFailed := by
        rw [h]
        exact (DiagnosticTroubleCode.has_setStatusBit _ _ _).mpr (.inr (by decide))
      exact ⟨.inl ht, .inl ht⟩
    · exact absurd hraise hn
    · exact absurd hraise hn

end DtcSimulator

namespace CompletionConsistent

variable {d : DiagnosticTroubleCode}

/-- A DTC whose test has been completed can fail. -/
theorem of_not_notCompleted (h : ¬ d.Has notCompleted) : CompletionConsistent d := by
  rw [notCompleted, d.has_or, not_or] at h
  exact ⟨fun hc => h.1 hc.2, fun hc => h.2 hc.2⟩

theorem not_of_failing (hf : d.Failing) (h : d.Has notCompleted) : ¬ CompletionConsistent d := by
  intro hc
  rw [notCompleted, d.has_or] at h
  rcases h with h | h
  · exact hc.sinceLastClear ⟨hf.1, h⟩
  · exact hc.thisOperationCycle ⟨hf.2, h⟩

/-- The failure bits may go, as long as the completion bits stay. -/
theorem mono {d' : DiagnosticTroubleCode} (hi : CompletionConsistent d)
    (h : ∀ m, d'.Has m → d.Has m) : CompletionConsistent d' :=
  ⟨fun hc => hi.sinceLastClear ⟨hc.1.imp (h _) (h _), h _ hc.2⟩,
    fun hc => hi.thisOperationCycle ⟨hc.1.imp (h _) (h _), h _ hc.2⟩⟩

theorem clear (d : DiagnosticTroubleCode) : CompletionConsistent d.clear := by
  constructor <;> simp only [d.has_clear] <;> decide

end CompletionConsistent

/-- A step keeps a DTC consistent exactly when it raises no fault on it before its test has been
completed. -/
theorem completionConsistent_stepDtc_iff (sim : DtcSimulator) {i : Nat}
    {d : DiagnosticTroubleCode} (hi : CompletionConsistent d) :
    CompletionConsistent (sim.stepDtc i d) ↔ ¬ (sim.Raises i d ∧ d.Has notCompleted) := by
  have hsame : (sim.stepDtc i d).Has notCompleted ↔ d.Has notCompleted :=
    sim.has_stepDtc_iff (by decide) i d
  constructor
  · rintro hc ⟨hr, hn⟩
    exact CompletionConsistent.not_of_failing (sim.failing_stepDtc hr) (hsame.mpr hn) hc
  · intro h
    by_cases hr : sim.Raises i d
    · exact .of_not_notCompleted fun hn => h ⟨hr, hsame.mp hn⟩
    · exact hi.mono fun m => sim.has_of_has_stepDtc hr

/-- The same for an operation and all DTCs. -/
theorem forall_completionConsistent_apply_iff {sim : DtcSimulator}
    (hi : ∀ d ∈ sim.dtcStore.dtcs, CompletionConsistent d) (op : DtcSimulator.Operation) :
    (∀ d ∈ (sim.apply op).dtcStore.dtcs, CompletionConsistent d) ↔ ¬ RaisesUncompleted sim op := by
  by_cases hop : op = .step
  · subst hop
    exact sim.forall_mem_step_iff fun i d hd =>
      completionConsistent_stepDtc_iff sim (hi d ((sim.dtcStore.mem_iff d).mpr ⟨i, hd⟩))
  · refine iff_of_true (sim.forall_mem_apply_of_ne_step hi .clear hop) ?_
    intro hr
    cases op with
    | step => exact hop rfl
    | _ => exact hr

/-- In every run without a step that raises a fault on an uncompleted test, no status byte ever
contradicts itself; and the next operation keeps it so exactly when it is no such step. -/
theorem completionConsistent_of_reachable {sim : DtcSimulator}
    (hr : (dtcSimulator.restrict fun sim op => ¬ RaisesUncompleted sim op).Reachable sim) :
    (∀ d ∈ sim.dtcStore.dtcs, CompletionConsistent d) ∧
    ∀ op, (∀ d ∈ (sim.apply op).dtcStore.dtcs, CompletionConsistent d) ↔
      ¬ RaisesUncompleted sim op := by
  have hi : ∀ d ∈ sim.dtcStore.dtcs, CompletionConsistent d := by
    refine hr.invariant (I := fun sim => ∀ d ∈ sim.dtcStore.dtcs, CompletionConsistent d) ?_ ?_
    · rintro sim rfl d hd
      refine .of_not_notCompleted ?_
      intro hn
      exact DiagnosticTroubleCode.statusByte_ne_zero_of_has _ hn (statusByte_init d hd)
    · rintro sim op hi ⟨-, hg⟩
      exact (forall_completionConsistent_apply_iff hi op).mpr hg
  exact ⟨hi, forall_completionConsistent_apply_iff hi⟩

theorem completionConsistent_overheatThenClear :
    ∃ d ∈ (overheatThenClear.foldl dtcSimulator.step DtcSimulator.construct.init).dtcStore.dtcs,
      d.statusByte = 0x50 ∧ CompletionConsistent d :=
  ⟨⟨0x010100, 0x50, by decide⟩, by decide, rfl,
    (completionConsistent_of_reachable
      ⟨_, overheatThenClear, rfl, .of_enabledAll (by decide)⟩).1 _ (by decide)⟩

/-- The fault memory is cleared, and then the engine overheats. -/
def clearThenOverheat : List DtcSimulator.Operation := [.clearAll, .setEngineTemp 130, .step]

theorem not_completionConsistent_clearThenOverheat :
    ¬ ∀ sim, dtcSimulator.Reachable sim → ∀ d ∈ sim.dtcStore.dtcs, CompletionConsistent d := by
  intro hall
  have hr : dtcSimulator.Reachable
      (clearThenOverheat.foldl dtcSimulator.step DtcSimulator.construct.init) :=
    ⟨_, _, rfl, .of_enabledAll (by decide)⟩
  have hm : (⟨0x010100, 0x79, by decide⟩ : DiagnosticTroubleCode) ∈
      (clearThenOverheat.foldl dtcSimulator.step DtcSimulator.construct.init).dtcStore.dtcs := by
    decide
  exact (hall _ hr _ hm).sinceLastClear (by decide)

end SovdDemo.Uds

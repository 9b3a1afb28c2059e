import SovdDemo.Uds.FaultStatus
import SovdDemo.Uds.StepEffect

/-!
# DTCs do not influence each other

The simulation never reads a status byte except to write it again: which DTC is toggled, how, and
what the sensors do depend on the generators alone. Clearing a DTC is therefore invisible in all
other DTCs, at once and at any later time.

## Main definitions

- `AgreeOutside` — two simulators differ in the status of the DTCs in a list at most
- `DtcSimulator.Operation.ClearsOnly` — an operation that clears nothing but a DTC of the list

## Main results

- `agreeOutside_of_run` — such operations can be left out of a run
-/

namespace SovdDemo.Uds

open Foundations DtcSimulator

/-- The two simulators agree, except for the status of the DTCs whose numbers are in `J`. -/
structure AgreeOutside (J : List UInt32) (sim sim' : DtcSimulator) : Prop where
  engineTemp : sim'.engineTemp = sim.engineTemp
  batteryVoltage : sim'.batteryVoltage = sim.batteryVoltage
  vehicleSpeed : sim'.vehicleSpeed = sim.vehicleSpeed
  stepCounter : sim'.stepCounter = sim.stepCounter
  rngState : sim'.rngState = sim.rngState
  numbers : sim'.dtcStore.numbers = sim.dtcStore.numbers
  entries : ∀ i, (∀ d ∈ sim.dtcStore.getDtcByIndex i, d.dtcNumber ∉ J) →
    sim'.dtcStore.getDtcByIndex i = sim.dtcStore.getDtcByIndex i

/-- The operation clears one DTC, whose number is in `J`. -/
def DtcSimulator.Operation.ClearsOnly (J : List UInt32) : DtcSimulator.Operation → Prop
  | .clearByNumber n => n ∈ J
  | _ => False

instance (J : List UInt32) : ∀ op : DtcSimulator.Operation, Decidable (op.ClearsOnly J)
  | .clearByNumber n => inferInstanceAs (Decidable (n ∈ J))
  | .step | .setEngineTemp _ | .setBatteryVoltage _ | .setVehicleSpeed _ | .clearAll =>
    inferInstanceAs (Decidable False)

namespace AgreeOutside

variable {J : List UInt32} {sim sim' : DtcSimulator}

theorem refl (J : List UInt32) (sim : DtcSimulator) : AgreeOutside J sim sim :=
  ⟨rfl, rfl, rfl, rfl, rfl, rfl, fun _ _ => rfl⟩

theorem findIndexByNumber (h : AgreeOutside J sim sim') (n : UInt32) :
    sim'.dtcStore.findIndexByNumber n = sim.dtcStore.findIndexByNumber n :=
  DiagnosticTroubleCodeStore.findIndexByNumber_congr _ h.numbers n

theorem getCount (h : AgreeOutside J sim sim') :
    sim'.dtcStore.getCount = sim.dtcStore.getCount := by
  have hlength := congrArg List.length h.numbers
  rwa [DiagnosticTroubleCodeStore.numbers, DiagnosticTroubleCodeStore.numbers, List.length_map,
    List.length_map] at hlength

/-- What an operation does to a DTC does not depend on the status of any other. -/
theorem applyDtc (h : AgreeOutside J sim sim') (op : DtcSimulator.Operation) (i : Nat)
    (d : DiagnosticTroubleCode) : sim'.applyDtc op i d = sim.applyDtc op i d := by
  cases op with
  | step =>
    have hrnd : sim'.nextRnd = sim.nextRnd := by
      rw [nextRnd, nextRnd, nextRngState, nextRngState, h.rngState]
    have htoggled : sim'.toggledIndex = sim.toggledIndex := by
      rw [toggledIndex, toggledIndex, h.stepCounter, hrnd, h.getCount]
    show sim'.stepDtc i d = sim.stepDtc i d
    rw [stepDtc, stepDtc, htoggled, hrnd, h.findIndexByNumber, h.findIndexByNumber, h.engineTemp,
      h.batteryVoltage]
  | setEngineTemp value | setBatteryVoltage value | setVehicleSpeed value | clearAll => rfl
  | clearByNumber n =>
    show (if sim'.dtcStore.findIndexByNumber n = some i then d.clear else d) = _
    rw [h.findIndexByNumber]
    rfl

/-- The same operation on both sides. -/
theorem apply (h : AgreeOutside J sim sim') (op : DtcSimulator.Operation) :
    AgreeOutside J (sim.apply op) (sim'.apply op) := by
  have hentries : ∀ i, (∀ d ∈ (sim.apply op).dtcStore.getDtcByIndex i, d.dtcNumber ∉ J) →
      (sim'.apply op).dtcStore.getDtcByIndex i = (sim.apply op).dtcStore.getDtcByIndex i := by
    intro i hi
    rw [getDtcByIndex_apply] at hi
    rw [getDtcByIndex_apply, getDtcByIndex_apply, h.entries i]
    · exact congrArg (Option.map · _) (funext (h.applyDtc op i))
    · intro d hd
      rw [← sim.applyDtc_dtcNumber op i d]
      exact hi _ (Option.mem_map_of_mem _ hd)
  have hnumbers : (sim'.apply op).dtcStore.numbers = (sim.apply op).dtcStore.numbers := by
    rw [numbers_apply, numbers_apply, h.numbers]
  obtain ⟨he, hb, hv, hc, hr, -, -⟩ := h
  cases op with
  | step =>
    refine ⟨?_, ?_, ?_, ?_, ?_, hnumbers, hentries⟩
    · exact congrArg ReadIdentifierSimulated.step he
    · exact congrArg ReadIdentifierSimulated.step hb
    · exact congrArg ReadIdentifierSimulated.step hv
    · exact congrArg (· + 1) hc
    · exact congrArg (· * 1103515245 + 12345) hr
  | setEngineTemp value =>
    exact ⟨congrArg (·.setValue value) he, hb, hv, hc, hr, hnumbers, hentries⟩
  | setBatteryVoltage value =>
    exact ⟨he, congrArg (·.setValue value) hb, hv, hc, hr, hnumbers, hentries⟩
  | setVehicleSpeed value =>
    exact ⟨he, hb, congrArg (·.setValue value) hv, hc, hr, hnumbers, hentries⟩
  | clearAll | clearByNumber n => exact ⟨he, hb, hv, hc, hr, hnumbers, hentries⟩

/-- An operation that clears a DTC of the list, on one side only. -/
theorem apply_left (h : AgreeOutside J sim sim') {op : DtcSimulator.Operation}
    (hop : op.ClearsOnly J) : AgreeOutside J (sim.apply op) sim' := by
  have hnumbers := sim.numbers_apply op
  cases op with
  | clearByNumber n =>
    refine ⟨h.engineTemp, h.batteryVoltage, h.vehicleSpeed, h.stepCounter, h.rngState,
      h.numbers.trans hnumbers.symm, ?_⟩
    intro i hi
    rw [getDtcByIndex_apply] at hi ⊢
    have hsame : (sim.dtcStore.getDtcByIndex i).map (sim.applyDtc (.clearByNumber n) i) =
        sim.dtcStore.getDtcByIndex i := by
      cases hd : sim.dtcStore.getDtcByIndex i with
      | none => rfl
      | some d =>
        -- the cleared DTC is in the list, and this one is not
        have hne : sim.dtcStore.findIndexByNumber n ≠ some i := by
          intro hn
          refine hi _ (Option.mem_map_of_mem _ hd) ?_
          rw [sim.applyDtc_dtcNumber, sim.dtcNumber_of_index hn hd]
          exact hop
        exact congrArg some (if_neg hne)
    rw [hsame] at hi ⊢
    exact h.entries i hi
  | step | setEngineTemp value | setBatteryVoltage value | setVehicleSpeed value | clearAll =>
    exact hop.elim

/-- A tester who asks for another DTC sees no difference. -/
theorem findDtcByNumber (h : AgreeOutside J sim sim') {n : UInt32} (hn : n ∉ J) :
    sim'.dtcStore.findDtcByNumber n = sim.dtcStore.findDtcByNumber n := by
  rw [DiagnosticTroubleCodeStore.findDtcByNumber_eq, DiagnosticTroubleCodeStore.findDtcByNumber_eq,
    h.findIndexByNumber]
  cases hi : sim.dtcStore.findIndexByNumber n with
  | none => rfl
  | some i =>
    refine h.entries i ?_
    intro d hd
    rw [sim.dtcNumber_of_index hi hd]
    exact hn

end AgreeOutside

/-- Leaving out of a run the operations that clear single DTCs of a list changes nothing but the
status of these DTCs: a tester who asks for any other DTC sees no difference, and neither do the
sensors, the generators and the step counter. -/
theorem agreeOutside_of_run (J : List UInt32) {sim t : DtcSimulator}
    {ops : List DtcSimulator.Operation} (h : dtcSimulator.Run sim ops t) :
    ∃ t', dtcSimulator.Run sim (ops.filter fun op => ¬ op.ClearsOnly J) t' ∧
      AgreeOutside J t t' ∧
      ∀ n ∉ J, t'.dtcStore.findDtcByNumber n = t.dtcStore.findDtcByNumber n := by
  have hrun : ∀ sim', AgreeOutside J sim sim' →
      ∃ t', dtcSimulator.Run sim' (ops.filter fun op => ¬ op.ClearsOnly J) t' ∧
        AgreeOutside J t t' := by
    induction h with
    | nil sim => exact fun sim' hs => ⟨sim', .nil sim', hs⟩
    | @cons sim t op ops _ _ ih =>
      intro sim' hs
      by_cases hop : op.ClearsOnly J
      · rw [List.filter_cons_of_neg (by simp [hop])]
        exact ih sim' (hs.apply_left hop)
      · rw [List.filter_cons_of_pos (by simp [hop])]
        obtain ⟨t', hr, ht⟩ := ih (sim'.apply op) (hs.apply op)
        exact ⟨t', .cons trivial hr, ht⟩
  obtain ⟨t', hr, ht⟩ := hrun sim (.refl J sim)
  exact ⟨t', hr, ht, fun n hn => ht.findDtcByNumber hn⟩

/-- A DTC is cleared between two steps, or not. -/
def clearedBetweenSteps : List DtcSimulator.Operation :=
  [.step, .clearByNumber dtcCommunicationFault, .step]

theorem agreeOutside_clearedBetweenSteps :
    ∃ t', dtcSimulator.Run DtcSimulator.construct.init
        (clearedBetweenSteps.filter fun op => ¬ op.ClearsOnly [dtcCommunicationFault]) t' ∧
      AgreeOutside [dtcCommunicationFault]
        (clearedBetweenSteps.foldl dtcSimulator.step DtcSimulator.construct.init) t' ∧
      ∀ n ∉ [dtcCommunicationFault], t'.dtcStore.findDtcByNumber n =
        (clearedBetweenSteps.foldl dtcSimulator.step
          DtcSimulator.construct.init).dtcStore.findDtcByNumber n :=
  agreeOutside_of_run [dtcCommunicationFault] (.of_enabledAll (by decide))

end SovdDemo.Uds

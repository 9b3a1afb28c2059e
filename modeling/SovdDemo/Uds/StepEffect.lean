import SovdDemo.Uds.DemoDtcs

/-!
# What one step does to the status bytes

In one step the toggle and the two sensor links write the same status bytes, with opposite effects.
The links run last: whatever the toggle has done to the two DTCs that have a sensor, their bits
agree with the sensor afterwards. The three other DTCs belong to the toggle.

## Main definitions

- `StepEffect` — the bits of the five DTCs after a step

## Main results

- `findDtcByNumber_step_engine`, `findDtcByNumber_step_battery` — the last write to a DTC that has a
  sensor
- `stepEffect_of_numbers`
-/

namespace SovdDemo.Uds

open Foundations StatusBit

namespace DiagnosticTroubleCode

variable (d : DiagnosticTroubleCode)

/-- The three bits of a fault that a sensor link has raised. -/
structure LinkRaised : Prop where
  failed : d.Has testFailed
  confirmed : d.Has confirmedDtc
  failedSinceLastClear : d.Has testFailedSinceLastClear

/-- A sensor out of range raises the fault. -/
theorem linkRaised_link {fails : Bool} (hf : fails = true) (passes : Bool) :
    (d.link fails passes).LinkRaised := by
  obtain ⟨-, h⟩ | ⟨hn, -⟩ | ⟨hn, -⟩ := d.link_cases fails passes
  · have hset : ∀ m, Overlaps linkBits m → (d.link fails passes).Has m := by
      intro m hm
      rw [h]
      exact (d.has_setStatusBit linkBits m).mpr (.inr hm)
    exact ⟨hset _ (by decide), hset _ (by decide), hset _ (by decide)⟩
  · exact absurd (hf.symm.trans hn) (by decide)
  · exact absurd (hf.symm.trans hn) (by decide)

/-- A sensor that is back by the margin withdraws it. -/
theorem not_has_link {fails passes : Bool} (hf : fails = false) (hp : passes = true) :
    ¬ (d.link fails passes).Has testFailed := by
  subst hf hp
  exact d.not_has_clearStatusBit (by decide)

/-- The toggle leaves the bits alone that it does not name. -/
theorem toggle_andNot (rnd : UInt32) :
    (d.toggle rnd).statusByte &&& ~~~toggleBits = d.statusByte &&& ~~~toggleBits := by
  obtain ⟨-, -, h⟩ | ⟨-, -, h⟩ | ⟨-, -, h⟩ := d.toggle_cases rnd <;> rw [h]
  · exact or_andNot d.statusByte toggleBits
  · exact andNot_andNot d.statusByte _ toggleBits

end DiagnosticTroubleCode

namespace DtcSimulator

variable (sim : DtcSimulator)

/-- A search after a step finds the entry it found before. -/
theorem findDtcByNumber_step (dtcNumber : UInt32) :
    sim.step.dtcStore.findDtcByNumber dtcNumber =
      (sim.dtcStore.findIndexByNumber dtcNumber).bind fun i =>
        (sim.dtcStore.getDtcByIndex i).map (sim.stepDtc i) := by
  rw [DiagnosticTroubleCodeStore.findDtcByNumber_eq,
    DiagnosticTroubleCodeStore.findIndexByNumber_congr _ sim.numbers_step]
  cases sim.dtcStore.findIndexByNumber dtcNumber with
  | none => rfl
  | some i => exact sim.getDtcByIndex_step i

/-- A number that is stored is found at some position. -/
theorem exists_index_of_mem {n : UInt32} (hn : n ∈ sim.dtcStore.numbers) :
    ∃ i d, sim.dtcStore.findIndexByNumber n = some i ∧ sim.dtcStore.getDtcByIndex i = some d := by
  obtain ⟨d, hd, rfl⟩ := List.mem_map.mp hn
  cases hfind : sim.dtcStore.findIndexByNumber d.dtcNumber with
  | none => exact absurd rfl ((sim.dtcStore.findIndexByNumber_eq_none_iff _).mp hfind d hd)
  | some i =>
    have hlt := (List.findIdx?_eq_some_iff_getElem.mp hfind).1
    exact ⟨i, _, rfl, List.getElem?_eq_getElem hlt⟩

/-- The engine temperature is the last thing that is written to its DTC. -/
theorem findDtcByNumber_step_engine (hn : dtcEngineOvertemp ∈ sim.dtcStore.numbers) :
    ∃ d : DiagnosticTroubleCode, sim.step.dtcStore.findDtcByNumber dtcEngineOvertemp =
      some (d.linkEngineTemp sim.step.engineTemp.getCurrentValue) := by
  obtain ⟨i, d, hi, hd⟩ := sim.exists_index_of_mem hn
  refine ⟨sim.toggledDtc i d, ?_⟩
  rw [findDtcByNumber_step, hi, Option.bind_some, hd, Option.map_some, sim.stepDtc_engine d hi]
  rfl

/-- The battery voltage is the last thing that is written to its DTC. -/
theorem findDtcByNumber_step_battery (hn : dtcBatteryVoltageLow ∈ sim.dtcStore.numbers) :
    ∃ d : DiagnosticTroubleCode, sim.step.dtcStore.findDtcByNumber dtcBatteryVoltageLow =
      some (d.linkBatteryVoltage sim.step.batteryVoltage.getCurrentValue) := by
  obtain ⟨i, d, hi, hd⟩ := sim.exists_index_of_mem hn
  refine ⟨sim.toggledDtc i d, ?_⟩
  rw [findDtcByNumber_step, hi, Option.bind_some, hd, Option.map_some, sim.stepDtc_battery d hi]
  rfl

/-- The position of a number is that of an entry with this number. -/
theorem dtcNumber_of_index {n : UInt32} {i : Nat} {d : DiagnosticTroubleCode}
    (hi : sim.dtcStore.findIndexByNumber n = some i) (hd : sim.dtcStore.getDtcByIndex i = some d) :
    d.dtcNumber = n := by
  have hfind := sim.dtcStore.findDtcByNumber_eq n
  rw [hi, Option.bind_some, hd] at hfind
  simpa [DiagnosticTroubleCode.getDtcNumber] using List.find?_some hfind

/-- A DTC without a sensor is written by the toggle alone. -/
theorem getDtcByIndex_step_other {i : Nat} {d : DiagnosticTroubleCode}
    (hd : sim.dtcStore.getDtcByIndex i = some d) (he : d.dtcNumber ≠ dtcEngineOvertemp)
    (hb : d.dtcNumber ≠ dtcBatteryVoltageLow) :
    sim.step.dtcStore.getDtcByIndex i = some (sim.toggledDtc i d) := by
  rw [sim.getDtcByIndex_step, hd, Option.map_some,
    sim.stepDtc_other d (fun hi => he (sim.dtcNumber_of_index hi hd))
      fun hi => hb (sim.dtcNumber_of_index hi hd)]

end DtcSimulator

open DtcSimulator DiagnosticTroubleCode

/-- The five DTCs after a step. -/
structure StepEffect (sim : DtcSimulator) : Prop where
  engineFails : sim.step.engineTemp.getCurrentValue > 120 →
    ∃ d ∈ sim.step.dtcStore.findDtcByNumber dtcEngineOvertemp, d.LinkRaised
  enginePasses : sim.step.engineTemp.getCurrentValue < 100 →
    ∃ d ∈ sim.step.dtcStore.findDtcByNumber dtcEngineOvertemp, ¬ d.Has testFailed
  batteryFails : sim.step.batteryVoltage.getCurrentValue < 110 →
    ∃ d ∈ sim.step.dtcStore.findDtcByNumber dtcBatteryVoltageLow, d.LinkRaised
  batteryPasses : sim.step.batteryVoltage.getCurrentValue > 120 →
    ∃ d ∈ sim.step.dtcStore.findDtcByNumber dtcBatteryVoltageLow, ¬ d.Has testFailed
  /-- in three of four steps no other DTC changes -/
  unchanged : (sim.stepCounter + 1) % 4 ≠ 0 → ∀ i d, sim.dtcStore.getDtcByIndex i = some d →
    d.dtcNumber ≠ dtcEngineOvertemp → d.dtcNumber ≠ dtcBatteryVoltageLow →
      sim.step.dtcStore.getDtcByIndex i = some d
  /-- in the fourth, the one the toggle picks can change, in the bits of the toggle -/
  toggled : (sim.stepCounter + 1) % 4 = 0 → ∀ i d, sim.dtcStore.getDtcByIndex i = some d →
    d.dtcNumber ≠ dtcEngineOvertemp → d.dtcNumber ≠ dtcBatteryVoltageLow →
      ∃ d', sim.step.dtcStore.getDtcByIndex i = some d' ∧
        (i ≠ sim.nextRnd.toNat % sim.dtcStore.getCount → d' = d) ∧
        d'.statusByte &&& ~~~toggleBits = d.statusByte &&& ~~~toggleBits
  numbers : sim.step.dtcStore.numbers = sim.dtcStore.numbers

/-- A step of an initialised simulator, whatever its generators, sensors and status bytes are. -/
theorem stepEffect_of_numbers (sim : DtcSimulator) (hn : sim.dtcStore.numbers = demoDtcs) :
    StepEffect sim := by
  obtain ⟨e, he⟩ := sim.findDtcByNumber_step_engine (by rw [hn]; decide)
  obtain ⟨b, hb⟩ := sim.findDtcByNumber_step_battery (by rw [hn]; decide)
  refine ⟨?_, ?_, ?_, ?_, ?_, ?_, sim.numbers_step⟩
  · intro hv
    exact ⟨_, he, e.linkRaised_link (decide_eq_true hv) _⟩
  · intro hv
    have hnot : ¬ sim.step.engineTemp.getCurrentValue > 120 := fun h =>
      absurd (UInt32.lt_trans h hv) (by decide)
    exact ⟨_, he, e.not_has_link (decide_eq_false hnot) (decide_eq_true hv)⟩
  · intro hv
    exact ⟨_, hb, b.linkRaised_link (decide_eq_true hv) _⟩
  · intro hv
    have hnot : ¬ sim.step.batteryVoltage.getCurrentValue < 110 := fun h =>
      absurd (UInt32.lt_trans hv h) (by decide)
    exact ⟨_, hb, b.not_has_link (decide_eq_false hnot) (decide_eq_true hv)⟩
  · intro hc i d hd hne hnb
    have hnone : sim.toggledIndex = none := if_neg hc
    have hnot : sim.toggledIndex ≠ some i := by simp [hnone]
    rw [sim.getDtcByIndex_step_other hd hne hnb, toggledDtc, if_neg hnot]
  · intro hc i d hd hne hnb
    have hsome : sim.toggledIndex = some (sim.nextRnd.toNat % sim.dtcStore.getCount) := if_pos hc
    refine ⟨_, sim.getDtcByIndex_step_other hd hne hnb, ?_, ?_⟩
    · intro hi
      rw [toggledDtc, if_neg]
      rw [hsome, Option.some_inj]
      exact fun h => hi h.symm
    · rw [toggledDtc]
      split
      · exact d.toggle_andNot _
      · rfl

/-- The engine overheats while all DTCs are cleared, in a step in which the toggle runs. -/
theorem stepEffect_overheated :
    StepEffect { DtcSimulator.construct.init.clearAll with
      stepCounter := 3
      engineTemp := construct.engineTemp.setValue 130 } :=
  stepEffect_of_numbers _ rfl

end SovdDemo.Uds

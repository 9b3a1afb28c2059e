import SovdDemo.Cda.SensorSeries
import SovdDemo.Demo.ListedFaults

/-!
# The dashboard and the catalog

The ECU and the catalog are written apart from each other. If the catalog describes the DTCs and the
sensors of the ECU, every row of the dashboard has its texts from the catalog; the texts that stand
in for an unlisted DTC or DID are never shown.

## Main definitions

- `Describes` — the catalog has what the rows need
- `Described` — every row has its texts from the catalog

## Main results

- `described_of_run`
-/

namespace SovdDemo.Demo

open Foundations Uds DtcSimulator Cda

variable {F : Framework} {env : PyEnv} {catalog : Catalog}

/-- The catalog has all texts of the demo DTCs, and the names and units of the sensors. -/
structure Describes (catalog : Catalog) : Prop where
  dtcs : ∀ n ∈ demoDtcs, ∃ name description severity system,
    (pollDtcCatalog catalog).get (dtcHex n.toNat) =
      some ⟨some name, some description, some severity, some system⟩
  dids : ∀ didStr ∈ pollDids, ∃ info name unit,
    (pollDidCatalog catalog).get (pollHex didStr) = some info ∧
      info.name = some name ∧ info.unit = some unit

/-- Every row has its texts from the catalog. -/
structure Described (catalog : Catalog) (w : World) : Prop where
  faults : ∀ r ∈ faultsCurrent catalog w, (pollDtcCatalog catalog).get r.dtc =
    some ⟨some r.name, some r.description, some r.severity, some r.system⟩
  sensors : ∀ r ∈ sensorsCurrent catalog w, ∃ info,
    (pollDidCatalog catalog).get r.did = some info ∧
      info.name = some r.name ∧ info.unit = some r.unit

/-- In every state, if the catalog describes what the ECU has, every row of the dashboard has its
texts from the catalog. -/
theorem described_of_run (hF : F.Serves) (hcatalog : Describes catalog) {c₀ c : State}
    {es : List Event} (hinit : (demo F env catalog).init c₀)
    (hr : (demo F env catalog).Run c₀ es c) : Described catalog c.world where
  faults := by
    intro r hrow
    rw [faultsCurrent] at hrow
    split at hrow
    · exact absurd hrow List.not_mem_nil
    · rename_i hlast
      obtain ⟨x, hx, rfl⟩ := List.mem_map.mp hrow
      have hsnapshot := forall_mem_faultHistory hF hinit hr _ (List.mem_of_getLast? hlast)
      obtain ⟨⟨n, hn, hkey⟩, -⟩ := hsnapshot.entries x hx
      obtain ⟨name, description, severity, system, hinfo⟩ := hcatalog.dtcs n hn
      rw [← hkey] at hinfo
      simp [currentFault, hinfo]
  sensors := by
    intro r hrow
    obtain ⟨⟨didHex, hist⟩, hmem, hlast⟩ := List.mem_filterMap.mp hrow
    obtain ⟨sample, -, rfl⟩ := Option.map_eq_some_iff.mp hlast
    have hcda := (refinesStubCda F env catalog).reachable (.run (.init hinit) hr)
    obtain ⟨⟨didStr, hd, rfl⟩, -⟩ := (sensorKeys_of_reachable hcda).polled didHex hist hmem
    obtain ⟨info, name, unit, hinfo, hname, hunit⟩ := hcatalog.dids didStr hd
    refine ⟨info, hinfo, ?_⟩
    simp [currentSensor, hinfo, hname, hunit]

theorem describes_shippedCatalog : Describes shippedCatalog where
  dtcs := by
    intro n hn
    simp only [demoDtcs, List.mem_cons, List.not_mem_nil, or_false] at hn
    rcases hn with rfl | rfl | rfl | rfl | rfl <;> exact ⟨_, _, _, _, rfl⟩
  dids := by
    intro didStr hd
    simp only [pollDids, List.mem_cons, List.not_mem_nil, or_false] at hd
    rcases hd with rfl | rfl | rfl <;> exact ⟨_, _, _, rfl, rfl, rfl⟩

theorem described_polledAndCleared : Described shippedCatalog polledAndCleared.world :=
  described_of_run Framework.serves_jobsOnly describes_shippedCatalog (start_init _ _ _)
    polledAndCleared_run

end SovdDemo.Demo

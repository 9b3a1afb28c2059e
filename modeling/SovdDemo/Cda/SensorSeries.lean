import SovdDemo.Cda.RecentPast

/-!
# Reading a sensor series back

`sensors_current` reports each history under its key, which starts with `0x`. The history endpoint
turns the DID it is given into upper case before it looks for the prefix, so a DID with the prefix
becomes one that starts with `0X`, and no history has such a key.

## Main definitions

- `sensorsCurrent`, `sensorsHistoryEndpoint` — the endpoints
- `Spelling` — a key in any letter case, with or without its prefix
- `ReadBack` — the endpoint returns the series of a key, up to the sample `sensorsCurrent` shows

## Main results

- `sensorKeys_of_reachable` — the keys are those of the polled DIDs, and no history is empty
- `readBack_iff_of_reachable`
-/

namespace SovdDemo.Cda

open Foundations

/-! The endpoints -/

/-- A row of `sensors_current`. -/
structure CurrentSensor where
  did : String
  name : String
  value : Int
  unit : String
  timestamp : Int
  deriving DecidableEq, Repr

/-- An element of `sensors_history_endpoint`. -/
structure SensorReading where
  time : Int
  value : Int
  deriving DecidableEq, Repr

def currentSensor (didCatalog : Dict DidInfo) (didHex : String) (sample : Sample) :
    CurrentSensor :=
  let cat := (didCatalog.get didHex).getD .unlisted
  { did := didHex
    name := cat.name.getD didHex
    value := sample.2
    unit := cat.unit.getD ""
    timestamp := sample.1 }

def sensorsCurrent (catalog : Catalog) (w : World) : List CurrentSensor :=
  w.sensorHistory.filterMap fun (didHex, hist) =>
    hist.items.getLast?.map (currentSensor (pollDidCatalog catalog) didHex)

/-- `s.upper()`, for letters of ASCII. -/
def upper (s : String) : String := String.ofList (s.toList.map Char.toUpper)

/-- `s.startswith("0X")`. -/
def StartsWith0X (s : String) : Prop := s.toList.take 2 = ['0', 'X']

instance (s : String) : Decidable (StartsWith0X s) := inferInstanceAs (Decidable (_ = _))

def sensorsHistoryEndpoint (w : World) (did : String) : List SensorReading :=
  let didUpper := upper did
  let didUpper := if StartsWith0X didUpper then didUpper else "0x" ++ didUpper
  (w.samples didUpper).items.map fun sample => ⟨sample.1, sample.2⟩

/-! The keys -/

/-- What `sensor_history` can be: distinct keys of polled DIDs, none without a sample. -/
structure SensorKeys (w : World) : Prop where
  nodup : (w.sensorHistory.map Prod.fst).Nodup
  polled : ∀ didHex hist, (didHex, hist) ∈ w.sensorHistory →
    (∃ didStr ∈ pollDids, didHex = pollHex didStr) ∧ hist.items ≠ []

theorem append_items_ne_nil (d : BoundedDeque Sample maxHistory) (sample : Sample) :
    (d.append sample).items ≠ [] := by
  have hlast := d.getLast?_append sample (by decide)
  intro hnil
  rw [hnil] at hlast
  cases hlast

theorem historyInvariant_sensorKeys (catalog : Catalog) : HistoryInvariant catalog SensorKeys where
  congr h _ _ hsensor _ := by
    constructor
    · rw [hsensor]
      exact h.nodup
    · rw [hsensor]
      exact h.polled
  recordSample h _ hd _ := by
    constructor
    · exact Dict.nodup_keys_set h.nodup _ _
    · intro didHex hist hmem
      rcases Dict.mem_set hmem with hold | hnew
      · exact h.polled didHex hist hold
      · obtain ⟨rfl, rfl⟩ := Prod.mk.inj hnew
        exact ⟨⟨_, hd, rfl⟩, append_items_ne_nil _ _⟩
  recordSnapshot h _ := by
    constructor
    · dsimp only [World.recordSnapshot]
      exact h.nodup
    · dsimp only [World.recordSnapshot]
      exact h.polled

theorem sensorKeys_of_reachable {env : PyEnv} {catalog : Catalog} {w : World}
    (hr : (stubCda env catalog).Reachable w) : SensorKeys w := by
  refine (historyInvariant_sensorKeys catalog).of_reachable ?_ hr
  rintro w ⟨hsensor, -, -, -⟩
  constructor
  · rw [hsensor]
    exact List.nodup_nil
  · rw [hsensor]
    exact fun _ _ hmem => absurd hmem List.not_mem_nil

/-! Spellings -/

/-- A key without its `0x`. -/
def withoutPrefix (key : String) : String := String.ofList (key.toList.drop 2)

/-- The key in any letter case, or what is left of it without its prefix. -/
def Spelling (key did : String) : Prop :=
  upper did = upper key ∨ upper did = upper (withoutPrefix key)

/-- The history endpoint returns the whole series of a key in its order, so that the last element is
the sample that `sensors_current` shows for the key. -/
structure ReadBack (catalog : Catalog) (w : World) (key did : String) : Prop where
  series : ∃ hist, (key, hist) ∈ w.sensorHistory ∧
    sensorsHistoryEndpoint w did = hist.items.map fun sample => ⟨sample.1, sample.2⟩
  shown : ∃ row ∈ sensorsCurrent catalog w, row.did = key
  current : ∀ row ∈ sensorsCurrent catalog w, row.did = key →
    (sensorsHistoryEndpoint w did).getLast? = some ⟨row.timestamp, row.value⟩

/-- The keys of the poller, spelled in upper case. -/
theorem upper_pollHex : ∀ didStr ∈ pollDids,
    StartsWith0X (upper (pollHex didStr)) ∧ upper (pollHex didStr) ∉ pollDids.map pollHex ∧
      ¬ StartsWith0X (upper (withoutPrefix (pollHex didStr))) ∧
      "0x" ++ upper (withoutPrefix (pollHex didStr)) = pollHex didStr := by
  decide

/-- A key in upper case is not a key. -/
theorem sensorsHistoryEndpoint_prefixed {w : World} (h : SensorKeys w) {didStr did : String}
    (hd : didStr ∈ pollDids) (hs : upper did = upper (pollHex didStr)) :
    sensorsHistoryEndpoint w did = [] := by
  obtain ⟨hmarked, hnot, -, -⟩ := upper_pollHex didStr hd
  have hnone : w.sensorHistory.get (upper (pollHex didStr)) = none := by
    refine Dict.get_eq_none_iff.mpr fun hmem => ?_
    obtain ⟨⟨didHex, hist⟩, hhist, hkey⟩ := List.mem_map.mp hmem
    obtain ⟨⟨d, hd', rfl⟩, -⟩ := h.polled didHex hist hhist
    exact hnot (List.mem_map.mpr ⟨d, hd', hkey⟩)
  rw [sensorsHistoryEndpoint, hs, if_pos hmarked, World.samples, hnone]
  rfl

/-- Without its prefix a key is found. -/
theorem sensorsHistoryEndpoint_unprefixed {w : World} (h : SensorKeys w) {didStr did : String}
    (hd : didStr ∈ pollDids) (hs : upper did = upper (withoutPrefix (pollHex didStr)))
    {hist : BoundedDeque Sample maxHistory} (hhist : (pollHex didStr, hist) ∈ w.sensorHistory) :
    sensorsHistoryEndpoint w did = hist.items.map fun sample => ⟨sample.1, sample.2⟩ := by
  obtain ⟨-, -, hmarked, hkey⟩ := upper_pollHex didStr hd
  rw [sensorsHistoryEndpoint, hs, if_neg hmarked, hkey, World.samples,
    Dict.get_eq_some_of_mem h.nodup hhist]
  rfl

/-- The row of a key shows the last sample of its history. -/
theorem mem_sensorsCurrent_iff {catalog : Catalog} {w : World} (h : SensorKeys w) {key : String}
    {hist : BoundedDeque Sample maxHistory} (hhist : (key, hist) ∈ w.sensorHistory)
    (row : CurrentSensor) :
    row ∈ sensorsCurrent catalog w ∧ row.did = key ↔
      ∃ sample ∈ hist.items.getLast?, currentSensor (pollDidCatalog catalog) key sample = row := by
  constructor
  · rintro ⟨hrow, hdid⟩
    obtain ⟨⟨didHex, hist'⟩, hmem, hlast⟩ := List.mem_filterMap.mp hrow
    obtain ⟨sample, hsample, rfl⟩ := Option.map_eq_some_iff.mp hlast
    -- the row is that of its own key, and there is one history of this key
    obtain rfl : didHex = key := hdid
    have hsame := (Dict.get_eq_some_of_mem h.nodup hhist).symm.trans
      (Dict.get_eq_some_of_mem h.nodup hmem)
    obtain rfl : hist = hist' := Option.some.inj hsame
    exact ⟨sample, hsample, rfl⟩
  · rintro ⟨sample, hsample, rfl⟩
    refine ⟨List.mem_filterMap.mpr ⟨_, hhist, ?_⟩, rfl⟩
    exact Option.map_eq_some_iff.mpr ⟨sample, hsample, rfl⟩

theorem readBack_iff_of_sensorKeys (catalog : Catalog) {w : World} (h : SensorKeys w)
    {key did : String} {hist : BoundedDeque Sample maxHistory}
    (hhist : (key, hist) ∈ w.sensorHistory) (hs : Spelling key did) :
    ReadBack catalog w key did ↔ ¬ StartsWith0X (upper did) := by
  obtain ⟨⟨didStr, hd, rfl⟩, hne⟩ := h.polled key hist hhist
  obtain ⟨hmarked, -, hnot, -⟩ := upper_pollHex didStr hd
  rcases hs with hs | hs
  · -- with its prefix the key is not found, and nothing is returned
    rw [hs]
    refine iff_of_false ?_ (not_not.mpr hmarked)
    rintro ⟨⟨hist', hmem, hseries⟩, -, -⟩
    rw [sensorsHistoryEndpoint_prefixed h hd hs] at hseries
    exact (h.polled _ hist' hmem).2 (List.map_eq_nil_iff.mp hseries.symm)
  · have hseries := sensorsHistoryEndpoint_unprefixed h hd hs hhist
    rw [hs]
    refine iff_of_true ⟨⟨hist, hhist, hseries⟩, ?_, ?_⟩ hnot
    · obtain ⟨sample, hsample⟩ := Option.isSome_iff_exists.mp (List.getLast?_isSome.mpr hne)
      let row := currentSensor (pollDidCatalog catalog) (pollHex didStr) sample
      exact ⟨row, (mem_sensorsCurrent_iff h hhist row).mpr ⟨sample, hsample, rfl⟩⟩
    · intro row hrow hdid
      obtain ⟨sample, hsample, rfl⟩ := (mem_sensorsCurrent_iff h hhist row).mp ⟨hrow, hdid⟩
      rw [hseries, List.getLast?_map, hsample]
      rfl

/-- For every history that polls can produce, every key in it and every spelling of the key, the
series can be read back just when the spelling leaves out the prefix. -/
theorem readBack_iff_of_reachable {env : PyEnv} {catalog : Catalog} {w : World}
    (hr : (stubCda env catalog).Reachable w) {key did : String}
    {hist : BoundedDeque Sample maxHistory} (hhist : (key, hist) ∈ w.sensorHistory)
    (hs : Spelling key did) : ReadBack catalog w key did ↔ ¬ StartsWith0X (upper did) :=
  readBack_iff_of_sensorKeys catalog (sensorKeys_of_reachable hr) hhist hs

/-- The stub CDA after one poll with replies to all of its requests. -/
def polledOnce : World :=
  (stubCda .blank shippedCatalog).step (.receiving []) ⟨.delivering repliesInOrder, .poll 1000⟩

theorem reachable_polledOnce : (stubCda .blank shippedCatalog).Reachable polledOnce :=
  .step (.init ⟨rfl, rfl, rfl, rfl⟩) trivial

/-- The engine temperature, without the prefix and in lower case. -/
theorem readBack_cf10 :
    ReadBack shippedCatalog polledOnce "0xCF10" "cf10" ↔ ¬ StartsWith0X (upper "cf10") := by
  have hmem : ("0xCF10", ⟨[(1000, 90)], by decide⟩) ∈ polledOnce.sensorHistory := by decide +kernel
  exact readBack_iff_of_reachable reachable_polledOnce hmem (.inr (by decide))

/-- Nothing is returned for the key that `sensors_current` shows. -/
theorem not_readBack_key :
    ¬ ∀ (env : PyEnv) (catalog : Catalog) (w : World), (stubCda env catalog).Reachable w →
      ∀ key hist did, (key, hist) ∈ w.sensorHistory → Spelling key did →
        ReadBack catalog w key did := by
  intro hall
  have hmem : ("0xCF10", ⟨[(1000, 90)], by decide⟩) ∈ polledOnce.sensorHistory := by decide +kernel
  have hspelling : Spelling "0xCF10" "0xCF10" := .inl rfl
  have hback := hall _ _ _ reachable_polledOnce _ _ _ hmem hspelling
  have hkeys := sensorKeys_of_reachable reachable_polledOnce
  exact (readBack_iff_of_sensorKeys _ hkeys hmem hspelling).mp hback (by decide)

end SovdDemo.Cda

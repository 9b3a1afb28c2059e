import SovdDemo.Cda.RecentPast

/-!
# Do the poller and `read_data` decode alike?

The decoding of a DID is written twice. `read_data` checks the length for each format; the poller
asks for four bytes of data first, and it has no case for `int16`.

## Main definitions

- `DecodedByReadDataOnly` — the formats and lengths for which only `read_data` has a value
- `DecodedAlike` — a poll records what `read_data` returns for the same reply

## Main results

- `sampleOf_eq_valueOf_iff` — the two decoders, for data of every length and every format
- `decodedAlike_iff`
-/

namespace SovdDemo.Cda

open Foundations

/-- Two or three bytes of an unsigned word, or an `int16`. -/
def DecodedByReadDataOnly (fmt : String) (dataBytes : List UInt8) : Prop :=
  fmt = "uint16" ∧ 2 ≤ dataBytes.length ∧ dataBytes.length < 4 ∨
    fmt = "int16" ∧ 2 ≤ dataBytes.length

instance (fmt : String) (dataBytes : List UInt8) :
    Decidable (DecodedByReadDataOnly fmt dataBytes) :=
  inferInstanceAs (Decidable (_ ∨ _))

/-- The format of a polled DID. -/
def pollFormat (catalog : Catalog) (didStr : String) : String :=
  (((pollDidCatalog catalog).get (pollHex didStr)).getD .unlisted).format.getD "raw"

/-- A poll appends the value to the history of the DID, if there is one, and nothing else. -/
def Records (env : PyEnv) (catalog : Catalog) (w : World) (e : Event) (didStr : String) (ts : Int)
    (value : Option Int) : Prop :=
  (((stubCda env catalog).step w e).samples (pollHex didStr)).items =
    ((w.samples (pollHex didStr)).items ++ (value.map fun value => (ts, value)).toList).rtake
      maxHistory

/-- Whatever the history is, a poll records for the DID what `read_data` returns for the same reply
and any spelling of the DID. -/
def DecodedAlike (env : PyEnv) (catalog : Catalog) (e : Event) (didStr : String) (ts : Int)
    (resp : List UInt8) : Prop :=
  ∀ w did w', intBase16 did = some (Poll.didNumber didStr) →
    (∀ comp ∈ catalog.components.get pollComponent, exchange env comp w' = .reply resp) →
      ∃ data w'', readData env catalog pollComponent did w' = .ok data w'' ∧
        Records env catalog w e didStr ts data.value

/-! The two decoders -/

theorem sampleValue_eq_valueOf_iff (fmt : String) {dataBytes : List UInt8}
    (h : 4 ≤ dataBytes.length) :
    sampleValue fmt dataBytes = valueOf fmt dataBytes ↔ fmt ≠ "int16" := by
  have htwo : 2 ≤ dataBytes.length := by omega
  by_cases hint : fmt = "int32"
  · subst hint
    simp [sampleValue, valueOf, h]
  · by_cases huint : fmt = "uint16"
    · subst huint
      simp [sampleValue, valueOf, htwo]
    · simp [sampleValue, valueOf, hint, huint, htwo]

theorem valueOf_eq_none_iff (fmt : String) {dataBytes : List UInt8} (h : dataBytes.length < 4) :
    valueOf fmt dataBytes = none ↔ ¬ DecodedByReadDataOnly fmt dataBytes := by
  have hfour : ¬ 4 ≤ dataBytes.length := by omega
  by_cases huint : fmt = "uint16"
  · subst huint
    simp [valueOf, DecodedByReadDataOnly, h]
  · by_cases hint : fmt = "int16"
    · subst hint
      simp [valueOf, DecodedByReadDataOnly]
    · simp [valueOf, DecodedByReadDataOnly, hfour, huint, hint]

/-- The poller takes the value of `read_data` from a reply, except for the formats and lengths it
leaves out. -/
theorem sampleOf_eq_valueOf_iff (catalog : Catalog) (didStr : String) {resp : List UInt8}
    (h62 : resp[0]? = some 0x62) (hl : 3 ≤ resp.length) :
    sampleOf (pollDidCatalog catalog) didStr resp =
        valueOf (pollFormat catalog didStr) (resp.drop 3) ↔
      ¬ DecodedByReadDataOnly (pollFormat catalog didStr) (resp.drop 3) := by
  have hlen : (resp.drop 3).length = resp.length - 3 := List.length_drop
  by_cases h7 : 7 ≤ resp.length
  · have hfour : 4 ≤ (resp.drop 3).length := by omega
    rw [sampleOf, if_pos ⟨h7, h62⟩]
    show sampleValue (pollFormat catalog didStr) (resp.drop 3) = _ ↔ _
    rw [sampleValue_eq_valueOf_iff _ hfour, DecodedByReadDataOnly]
    constructor
    · rintro hne (⟨-, -, h⟩ | ⟨h, -⟩)
      · omega
      · exact hne h
    · intro h hfmt
      exact h (.inr ⟨hfmt, by omega⟩)
  · have hfour : (resp.drop 3).length < 4 := by omega
    rw [sampleOf, if_neg fun h => h7 h.1, eq_comm]
    exact valueOf_eq_none_iff _ hfour

/-! A poll -/

section Poll

variable {env : PyEnv} {catalog : Catalog} {e : Event} {didStr : String} {ts : Int}
  {resp : List UInt8}

/-- A poll that receives a reply records what the poller decodes from it. -/
theorem records_sampleOf (hd : didStr ∈ pollDids)
    (ho : e.outcome env catalog (.did didStr) = some (ts, .reply resp)) (w : World) :
    Records env catalog w e didStr ts (sampleOf (pollDidCatalog catalog) didStr resp) := by
  have hadded : (sensorSeries (pollDidCatalog catalog) hd).addedBy env e =
      (sampleOf (pollDidCatalog catalog) didStr resp).map fun value => (ts, value) := by
    have hpoll : (sensorSeries (pollDidCatalog catalog) hd).poll = .did didStr := rfl
    rw [Series.addedBy, hpoll, ho]
    rfl
  rw [Records, ← hadded]
  exact (sensorSeries (pollDidCatalog catalog) hd).items_step w e

/-- An empty history shows what has been recorded. -/
theorem Records.value_eq {value value' : Option Int}
    (h : Records env catalog (.receiving []) e didStr ts value)
    (h' : Records env catalog (.receiving []) e didStr ts value') : value = value' := by
  have hself : ∀ value : Option Int, (((World.receiving []).samples (pollHex didStr)).items ++
      (value.map fun value => (ts, value)).toList).rtake maxHistory =
        (value.map fun value => (ts, value)).toList := by
    intro value
    cases value <;> simp [World.samples, World.receiving, Dict.get, BoundedDeque.empty, List.rtake,
      maxHistory]
  rw [Records, hself] at h h'
  have hsame := h.symm.trans h'
  cases value with
  | none =>
    cases value' with
    | none => rfl
    | some x' => cases hsame
  | some x =>
    cases value' with
    | none => cases hsame
    | some x' =>
      obtain ⟨rfl⟩ := hsame
      rfl

/-- The reply that a poll has received can be received by `read_data` too. -/
theorem exists_exchange_eq_reply
    (ho : e.outcome env catalog (.did didStr) = some (ts, .reply resp)) :
    ∃ comp w, catalog.components.get pollComponent = some comp ∧
      exchange env comp w = .reply resp := by
  rw [Event.outcome] at ho
  cases ha : e.activity with
  | call componentId call =>
    rw [ha] at ho
    cases ho
  | poll ts' =>
    rw [ha] at ho
    obtain ⟨comp, hc, hx⟩ := Option.map_eq_some_iff.mp ho
    have hx : e.link.outcome env comp (.did didStr) = .reply resp := (Prod.mk.inj hx).2
    refine ⟨comp, (World.receiving []).linked { e.link with
      sends := [], inbox := [.reply (some resp)] }, hc, ?_⟩
    rw [exchange, openClient_linked]
    rw [Link.outcome] at hx
    have hconnects : ({ e.link with sends := [], inbox := [.reply (some resp)] } : Link).connects
        env comp.doip = e.link.connects env comp.doip := rfl
    rw [hconnects]
    cases hl : e.link.connects env comp.doip with
    | error err =>
      rw [hl] at hx
      cases hx
    | ok _ => rfl

/-- What `read_data` makes of a reply with the DID of a poll. -/
theorem readData_polled {comp : Component} (hc : catalog.components.get pollComponent = some comp)
    (hd : didStr ∈ pollDids) {did : String} (hn : intBase16 did = some (Poll.didNumber didStr))
    {w : World} (hx : exchange env comp w = .reply resp) (h62 : resp[0]? = some 0x62)
    (hl : 3 ≤ resp.length) :
    ∃ data w', readData env catalog pollComponent did w = .ok data w' ∧
      data.value = valueOf (pollFormat catalog didStr) (resp.drop 3) := by
  have hhex : ∀ d ∈ pollDids, didHex (Poll.didNumber d) = pollHex d := by decide
  have hdids : pollDidCatalog catalog = comp.dids := by
    rw [pollDidCatalog, hc]
    rfl
  have hshort : ¬ (resp.length < 3 ∨ resp[0]? ≠ some 0x62) := by
    rintro (h | h)
    · omega
    · exact h h62
  have hrun := readData_of_reply hc hn hx h62
  rw [readDataReply_eq, if_neg hshort, hhex didStr hd] at hrun
  refine ⟨_, _, hrun, ?_⟩
  rw [pollFormat, hdids]

/-- What a poll records and what `read_data` returns are the values of the two decoders. -/
theorem decodedAlike_iff_sampleOf (hd : didStr ∈ pollDids)
    (ho : e.outcome env catalog (.did didStr) = some (ts, .reply resp))
    (h62 : resp[0]? = some 0x62) (hl : 3 ≤ resp.length) :
    DecodedAlike env catalog e didStr ts resp ↔
      sampleOf (pollDidCatalog catalog) didStr resp =
        valueOf (pollFormat catalog didStr) (resp.drop 3) := by
  obtain ⟨comp, w, hc, hx⟩ := exists_exchange_eq_reply ho
  constructor
  · intro hall
    have hn := (intBase16_pollDids didStr hd).1
    have hx' : ∀ comp ∈ catalog.components.get pollComponent,
        exchange env comp w = .reply resp := by
      intro comp' hc'
      obtain rfl : comp = comp' := Option.some.inj (hc.symm.trans hc')
      exact hx
    obtain ⟨data, w', hrun, hrecords⟩ := hall (.receiving []) didStr w hn hx'
    obtain ⟨data', w'', hrun', hvalue⟩ := readData_polled hc hd hn hx h62 hl
    rw [hrun] at hrun'
    obtain ⟨rfl, -⟩ : data = data' ∧ w' = w'' := by simpa using hrun'
    rw [← hvalue]
    exact (records_sampleOf hd ho _).value_eq hrecords
  · intro hsame w did w' hn hx
    obtain ⟨data, w'', hrun, hvalue⟩ := readData_polled hc hd hn (hx comp hc) h62 hl
    refine ⟨data, w'', hrun, ?_⟩
    rw [hvalue, ← hsame]
    exact records_sampleOf hd ho w

/-- For every catalog, every polled DID and every reply that repeats it, a poll records what
`read_data` returns, except for two or three bytes in the format `uint16` and for the format
`int16`. -/
theorem decodedAlike_iff (hd : didStr ∈ pollDids)
    (ho : e.outcome env catalog (.did didStr) = some (ts, .reply resp))
    (h62 : resp[0]? = some 0x62) (hecho : EchoesDid (Poll.didNumber didStr) resp) :
    DecodedAlike env catalog e didStr ts resp ↔
      ¬ DecodedByReadDataOnly (pollFormat catalog didStr) (resp.drop 3) := by
  rw [decodedAlike_iff_sampleOf hd ho h62 hecho.1,
    sampleOf_eq_valueOf_iff catalog didStr h62 hecho.1]

end Poll

theorem decodedAlike_iff_in_order :
    DecodedAlike .blank shippedCatalog ⟨.delivering repliesInOrder, .poll 1000⟩ "CF10" 1000
        [0x62, 0xCF, 0x10, 0, 0, 0, 90] ↔
      ¬ DecodedByReadDataOnly (pollFormat shippedCatalog "CF10") [0, 0, 0, 90] :=
  decodedAlike_iff (by decide) rfl rfl (by decide)

/-- The shipped catalog, with an engine temperature of two bytes. -/
def twoByteCatalog : Catalog :=
  ⟨[("openbsw-ecu", { openbswEcu with
    dids := openbswEcu.dids.set "0xCF10" ⟨some "EngineTemp", none, some "uint16", none⟩ })]⟩

/-- `read_data` returns 90 for two bytes, and the poller records nothing. -/
theorem not_decodedAlike_two_bytes :
    ¬ ∀ (env : PyEnv) (catalog : Catalog) (e : Event) (didStr : String) (ts : Int)
      (resp : List UInt8), didStr ∈ pollDids →
      e.outcome env catalog (.did didStr) = some (ts, .reply resp) → resp[0]? = some 0x62 →
      EchoesDid (Poll.didNumber didStr) resp → DecodedAlike env catalog e didStr ts resp := by
  intro hall
  let resp : List UInt8 := [0x62, 0xCF, 0x10, 0, 90]
  let e : Event := ⟨.delivering [some resp], .poll 1000⟩
  have ho : e.outcome .blank twoByteCatalog (.did "CF10") = some (1000, .reply resp) := by decide
  have halike := hall .blank twoByteCatalog e "CF10" 1000 resp (by decide) ho rfl (by decide)
  have hsame := (decodedAlike_iff_sampleOf (by decide) ho rfl (by decide)).mp halike
  exact absurd hsame (by decide)

end SovdDemo.Cda

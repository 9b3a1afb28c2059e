import SovdDemo.Cda.Replies
import Mathlib.Data.List.Forall2

/-!
# What a client discovers

A client of the CDA starts with the list of components, asks for the data of one of them, and reads
the items it finds there. The lists show the keys of the catalog as they are written in the file;
reading parses the key, and looks its integer up under the spelling `0x%04X`. So an item is found
again only if the file spells its key that way.

## Main definitions

- `CatalogFile` — `catalog.json`, with the entries that only the lists read
- `listComponents`, `getComponent`, `listData` — the endpoints
- `Listed` — an item that a client comes to
- `Discovered` — what it gets for the item

## Main results

- `discovered_of_listed` — an item is read back as it was listed exactly when its key is spelled so
-/

namespace SovdDemo.Cda

open Foundations

/-! The file -/

/-- An entry of `dids`, with the key that only `list_data` reads. -/
structure DataDescription extends DidInfo where
  access : Option String
  deriving DecidableEq, Repr

/-- An entry of `components`. The keys of an object are distinct. -/
structure ComponentDescription where
  name : Option String
  description : Option String
  doip : DoipConfig
  port : Option Int
  dtcs : Dict DtcInfo
  dids : Dict DataDescription
  distinct : (dids.map Prod.fst).Nodup
  deriving DecidableEq, Repr

/-- What the other endpoints read of a component. -/
def ComponentDescription.component (comp : ComponentDescription) : Component where
  doip := comp.doip
  dtcs := comp.dtcs
  dids := comp.dids.map fun p => (p.1, p.2.toDidInfo)

structure CatalogFile where
  components : Dict ComponentDescription
  distinct : (components.map Prod.fst).Nodup
  deriving DecidableEq, Repr

def CatalogFile.catalog (file : CatalogFile) : Catalog :=
  ⟨file.components.map fun p => (p.1, p.2.component)⟩

/-! The endpoints -/

/-- What the endpoints raise: a `KeyError` is not caught. -/
inductive DiscoveryException
  | httpException (statusCode : Nat) (detail : String)
  | keyError (key : String)
  deriving DecidableEq, Repr

/-- `d[key]`, for a key that may be missing. -/
def required {α : Type} (key : String) : Option α → Except DiscoveryException α
  | some value => .ok value
  | none => .error (.keyError key)

structure ComponentInfo where
  id : String
  name : String
  description : String
  deriving DecidableEq, Repr

/-- One round of the loop of `list_components`. -/
def componentInfo (entry : String × ComponentDescription) :
    Except DiscoveryException ComponentInfo := do
  let (cid, comp) := entry
  return {
    id := cid
    name := ← required "name" comp.name
    description := ← required "description" comp.description }

def listComponents (file : CatalogFile) : Except DiscoveryException (List ComponentInfo) :=
  file.components.mapM componentInfo

/-- `_get_component_config`, with the whole entry. -/
def getComponentDescription (file : CatalogFile) (componentId : String) :
    Except DiscoveryException ComponentDescription :=
  match file.components.get componentId with
  | some comp => .ok comp
  | none => .error (.httpException 404 s!"Component '{componentId}' not found")

/-- What `get_component` returns. -/
structure ComponentDetail extends ComponentInfo where
  protocol : String
  host : String
  port : Int
  ecuAddress : String
  faults : Bool
  data : Bool
  faultCount : Nat
  dataCount : Nat
  deriving DecidableEq, Repr

def getComponent (file : CatalogFile) (componentId : String) :
    Except DiscoveryException ComponentDetail := do
  let comp ← getComponentDescription file componentId
  return {
    id := componentId
    name := ← required "name" comp.name
    description := ← required "description" comp.description
    protocol := "DoIP"
    host := comp.doip.host
    port := comp.port.getD 13400
    ecuAddress := comp.doip.ecuLogicalAddress
    faults := true
    data := true
    faultCount := comp.dtcs.length
    dataCount := comp.dids.length }

/-- An item of `list_data`. -/
structure DataItem where
  did : String
  name : String
  description : String
  access : String
  unit : Option String
  deriving DecidableEq, Repr

structure DataList where
  count : Nat
  items : List DataItem
  deriving DecidableEq, Repr

/-- One round of the loop of `list_data`. -/
def dataItem (entry : String × DataDescription) : Except DiscoveryException DataItem := do
  let (didHex, info) := entry
  return {
    did := didHex
    name := ← required "name" info.name
    description := ← required "description" info.description
    access := info.access.getD "read"
    unit := info.unit }

def listData (file : CatalogFile) (componentId : String) :
    Except DiscoveryException DataList := do
  let comp ← getComponentDescription file componentId
  let items ← comp.dids.mapM dataItem
  return { count := items.length, items := items }

/-! What the lists show -/

section Lists

variable {ε α β : Type}

theorem exists_of_bind_eq_ok {x : Except ε α} {f : α → Except ε β} {b : β}
    (h : x >>= f = .ok b) : ∃ a, x = .ok a ∧ f a = .ok b := by
  cases x with
  | error e => cases h
  | ok a => exact ⟨a, rfl, h⟩

/-- The results of a loop that raises nothing: one for each element, in their order. -/
theorem forall₂_of_mapM_eq_ok {f : α → Except ε β} {l : List α} {bs : List β}
    (h : l.mapM f = .ok bs) : List.Forall₂ (fun a b => f a = .ok b) l bs := by
  induction l generalizing bs with
  | nil =>
    cases h
    exact .nil
  | cons a l ih =>
    rw [List.mapM_cons] at h
    obtain ⟨b, hb, h⟩ := exists_of_bind_eq_ok h
    obtain ⟨bs', hbs', h⟩ := exists_of_bind_eq_ok h
    cases h
    exact .cons hb (ih hbs')

/-- Each result comes from an element. -/
theorem exists_mem_of_mapM_eq_ok {f : α → Except ε β} {l : List α} {bs : List β}
    (h : l.mapM f = .ok bs) {b : β} (hb : b ∈ bs) : ∃ a ∈ l, f a = .ok b := by
  have hall := forall₂_of_mapM_eq_ok h
  clear h
  induction hall with
  | nil => cases hb
  | @cons a b' l bs hab _ ih =>
    rcases List.mem_cons.mp hb with rfl | hb
    · exact ⟨a, List.mem_cons_self, hab⟩
    · obtain ⟨a', ha', hab'⟩ := ih hb
      exact ⟨a', List.mem_cons_of_mem _ ha', hab'⟩

end Lists

@[simp] theorem required_some {α : Type} (key : String) (a : α) :
    required key (some a) = .ok a := rfl

theorem required_eq_ok_iff {α : Type} {key : String} {value : Option α} {a : α} :
    required key value = .ok a ↔ value = some a := by
  cases value <;> simp [required]

theorem getComponentDescription_eq_ok_iff {file : CatalogFile} {componentId : String}
    {comp : ComponentDescription} :
    getComponentDescription file componentId = .ok comp ↔
      file.components.get componentId = some comp := by
  rw [getComponentDescription]
  split <;> simp_all

/-- A component of the list has an entry of its own. -/
theorem exists_of_mem_listComponents {file : CatalogFile} {infos : List ComponentInfo}
    (h : listComponents file = .ok infos) {info : ComponentInfo} (hm : info ∈ infos) :
    ∃ comp, file.components.get info.id = some comp ∧ comp.name = some info.name ∧
      comp.description = some info.description := by
  obtain ⟨⟨cid, comp⟩, hentry, hinfo⟩ := exists_mem_of_mapM_eq_ok h hm
  obtain ⟨name, hname, hinfo⟩ := exists_of_bind_eq_ok hinfo
  obtain ⟨description, hdescription, hinfo⟩ := exists_of_bind_eq_ok hinfo
  cases hinfo
  exact ⟨comp, Dict.get_eq_some_of_mem file.distinct hentry, required_eq_ok_iff.mp hname,
    required_eq_ok_iff.mp hdescription⟩

/-- An item of the list has an entry of its own. -/
theorem exists_of_mem_listData {file : CatalogFile} {componentId : String} {list : DataList}
    (h : listData file componentId = .ok list) {item : DataItem} (hm : item ∈ list.items) :
    ∃ comp info, file.components.get componentId = some comp ∧
      comp.dids.get item.did = some info ∧ info.name = some item.name ∧
      info.description = some item.description ∧ info.unit = item.unit := by
  obtain ⟨comp, hcomp, h⟩ := exists_of_bind_eq_ok h
  obtain ⟨items, hitems, h⟩ := exists_of_bind_eq_ok h
  cases h
  obtain ⟨⟨didHex, info⟩, hentry, hitem⟩ := exists_mem_of_mapM_eq_ok hitems hm
  obtain ⟨name, hname, hitem⟩ := exists_of_bind_eq_ok hitem
  obtain ⟨description, hdescription, hitem⟩ := exists_of_bind_eq_ok hitem
  cases hitem
  exact ⟨comp, info, getComponentDescription_eq_ok_iff.mp hcomp,
    Dict.get_eq_some_of_mem comp.distinct hentry, required_eq_ok_iff.mp hname,
    required_eq_ok_iff.mp hdescription, rfl⟩

/-- The list has an item for each entry. -/
theorem count_listData {file : CatalogFile} {componentId : String} {comp : ComponentDescription}
    (hc : file.components.get componentId = some comp) {list : DataList}
    (h : listData file componentId = .ok list) : list.count = comp.dids.length := by
  obtain ⟨comp', hcomp, h⟩ := exists_of_bind_eq_ok h
  obtain ⟨items, hitems, h⟩ := exists_of_bind_eq_ok h
  cases h
  rw [getComponentDescription_eq_ok_iff, hc] at hcomp
  cases hcomp
  exact (forall₂_of_mapM_eq_ok hitems).length_eq.symm

/-! Reading an item back -/

/-- A client comes to the item through the lists. -/
def Listed (file : CatalogFile) (info : ComponentInfo) (item : DataItem) : Prop :=
  ∃ infos list, listComponents file = .ok infos ∧ info ∈ infos ∧
    listData file info.id = .ok list ∧ item ∈ list.items

/-- The value is that of the item as it was listed. -/
structure Matches (item : DataItem) (value : DataValue) : Prop where
  did : value.did = item.did
  name : value.name = item.name
  description : value.description = item.description
  unit : value.unit = item.unit

/-- What a client gets that has come to the item of a component: the component again, and for the
item a refusal if its key is no number, and else a value under the spelling `0x%04X` of the number,
which is the value of the item just when the key is spelled so. -/
structure Discovered (env : PyEnv) (file : CatalogFile) (info : ComponentInfo) (item : DataItem)
    (w : World) : Prop where
  described : ∃ detail, getComponent file info.id = .ok detail ∧ detail.toComponentInfo = info ∧
    ∀ list, listData file info.id = .ok list → detail.dataCount = list.count
  refused : intBase16 item.did = none → readData env file.catalog info.id item.did w =
    .error (.httpException 400 s!"Invalid DID: {item.did}") w
  read : ∀ n, intBase16 item.did = some n → ∀ value w',
    readData env file.catalog info.id item.did w = .ok value w' →
      value.did = didHex n ∧ (Matches item value ↔ item.did = didHex n)

theorem get_catalog {file : CatalogFile} {componentId : String} {comp : ComponentDescription}
    (hc : file.components.get componentId = some comp) :
    file.catalog.components.get componentId = some comp.component := by
  rw [CatalogFile.catalog, Dict.get_map_value, hc]
  rfl

/-- The texts of a value are those of the entry under the spelling of its number. -/
theorem exists_of_readData_eq_ok {env : PyEnv} {file : CatalogFile} {componentId did : String}
    {comp : ComponentDescription} (hc : file.components.get componentId = some comp) {n : Int}
    (hn : intBase16 did = some n) {w w' : World} {value : DataValue}
    (h : readData env file.catalog componentId did w = .ok value w') :
    value.did = didHex n ∧ ∀ info, comp.dids.get (didHex n) = some info →
      value.name = info.name.getD s!"DID_{didHex n}" ∧
        value.description = info.description.getD "Unknown DID" ∧ value.unit = info.unit := by
  rw [Call.readData_eq (get_catalog hc) hn, resultIn_eq_ok_iff] at h
  obtain ⟨resp, -, hdecode⟩ := exists_of_bind_eq_ok h.1
  rw [readDataReply_eq] at hdecode
  dsimp only at hdecode
  split at hdecode
  · cases hdecode
  · cases hdecode
    refine ⟨rfl, fun info hinfo => ?_⟩
    have hget : comp.component.dids.get (didHex n) = some info.toDidInfo := by
      rw [ComponentDescription.component, Dict.get_map_value, hinfo]
      rfl
    rw [hget]
    exact ⟨rfl, rfl, rfl⟩

/-- Whatever the ECU and the connection do, a client that goes through the lists of any catalog can
read an item back under the key, the name, the description and the unit it was listed with exactly
if its key is spelled `0x%04X`. -/
theorem discovered_of_listed (env : PyEnv) {file : CatalogFile} {info : ComponentInfo}
    {item : DataItem} (hl : Listed file info item) (w : World) :
    Discovered env file info item w := by
  obtain ⟨infos, list, hinfos, hinfo, hlist, hitem⟩ := hl
  obtain ⟨comp, hc, hname, hdescription⟩ := exists_of_mem_listComponents hinfos hinfo
  obtain ⟨comp', entry, hc', hentry, hitemName, hitemDescription, hunit⟩ :=
    exists_of_mem_listData hlist hitem
  obtain rfl : comp = comp' := Option.some.inj (hc.symm.trans hc')
  refine ⟨?_, ?_, ?_⟩
  · let detail : ComponentDetail := {
      toComponentInfo := info
      protocol := "DoIP"
      host := comp.doip.host
      port := comp.port.getD 13400
      ecuAddress := comp.doip.ecuLogicalAddress
      faults := true
      data := true
      faultCount := comp.dtcs.length
      dataCount := comp.dids.length }
    have hdetail : getComponent file info.id = .ok detail := by
      simp only [getComponent, getComponentDescription_eq_ok_iff.mpr hc, hname, hdescription, bind,
        Except.bind, required_some]
      rfl
    exact ⟨detail, hdetail, rfl, fun list' hlist' => (count_listData hc hlist').symm⟩
  · intro hn
    simp [readData, getComponentConfig, get_catalog hc, hn]
  · intro n hn value w' h
    obtain ⟨hdid, htexts⟩ := exists_of_readData_eq_ok hc hn h
    refine ⟨hdid, ?_, ?_⟩
    · intro hmatches
      exact hmatches.did.symm.trans hdid
    · intro hkey
      rw [hkey] at hentry
      obtain ⟨hvalueName, hvalueDescription, hvalueUnit⟩ := htexts entry hentry
      rw [hitemName] at hvalueName
      rw [hitemDescription] at hvalueDescription
      exact ⟨hdid.trans hkey.symm, hvalueName, hvalueDescription, hvalueUnit.trans hunit⟩

/-! The shipped file -/

/-- `access` of the entries of `openbswEcu`. -/
def shippedDids : Dict DataDescription :=
  openbswEcu.dids.map fun p =>
    (p.1, { toDidInfo := p.2, access := some (if p.1 = "0xCF03" then "readwrite" else "read") })

def shippedCatalogFile : CatalogFile where
  components := [("openbsw-ecu", {
    name := some "OpenBSW Reference ECU"
    description := some "POSIX reference application running DoIP/UDS"
    doip := openbswEcu.doip
    port := some 13400
    dtcs := openbswEcu.dtcs
    dids := shippedDids
    distinct := by decide })]
  distinct := by decide

/-- What the other endpoints read of it is `shippedCatalog`. -/
example : shippedCatalogFile.catalog = shippedCatalog := rfl

/-- The reference ECU, as it is listed. -/
def listedEcu : ComponentInfo :=
  ⟨"openbsw-ecu", "OpenBSW Reference ECU", "POSIX reference application running DoIP/UDS"⟩

/-- The engine temperature, as it is listed. -/
def listedEngineTemp : DataItem :=
  ⟨"0xCF10", "EngineTemp", "Simulated engine coolant temperature", "read", some "°C"⟩

theorem discovered_listedEngineTemp :
    Discovered .blank shippedCatalogFile listedEcu listedEngineTemp
      (.receiving [.reply (some [0x62, 0xCF, 0x10, 0x00, 0x00, 0x00, 0x5A])]) :=
  discovered_of_listed .blank ⟨[listedEcu], _, rfl, List.mem_singleton_self _, rfl, by decide⟩ _

end SovdDemo.Cda

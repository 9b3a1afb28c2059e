import Mathlib.Algebra.Group.Int.Defs
import Mathlib.Algebra.Group.Nat.Defs
import Mathlib.Data.List.Basic
import Mathlib.Data.List.DropRight
import Mathlib.Tactic.Common

/-!
# Python sequences and containers

Indexing, ranges, `bytes`, `struct`, dictionaries and bounded deques, as far as a decoder of byte
messages needs them. An operation that raises returns `none`.

## Main definitions

- `pyIndex`, `pyRange`, `bytesOfInts` — `xs[i]`, `range(start, stop, step)`, `bytes([..])`
- `unpackInt32`, `unpackUInt16`, `unpackInt16` — `struct.unpack` with `>i`, `>H` and `>h`
- `Dict`, `BoundedDeque` — `dict` and `deque(maxlen=..)`

## Main results

- `Dict.get_set` — what a dictionary holds after an assignment
- `Dict.foldl_set_eq_ofAssignments` — what it holds after a list of them
- `BoundedDeque.mem_append` — what a deque can hold after an append
- `BoundedDeque.items_append`, `rtake_rtake_append` — a deque is the end of a longer list
-/

namespace Foundations

variable {α : Type*}

/-- `xs[i]`: a negative index counts from the end. -/
def pyIndex (xs : List α) (i : Int) : Option α :=
  let j := if i < 0 then i + xs.length else i
  if 0 ≤ j then xs[j.toNat]? else none

theorem pyIndex_natCast (xs : List α) (i : Nat) : pyIndex xs (i : Int) = xs[i]? := by
  have hi : ¬ (i : Int) < 0 := by omega
  simp [pyIndex, hi]

/-- `range(start, stop, step)` for a positive step. -/
def pyRange (start stop : Int) (step : Nat) : List Int :=
  (List.range ((stop - start + step - 1) / step).toNat).map fun k : Nat => start + k * step

/-- `bytes([..])`. -/
def bytesOfInts : List Int → Option (List UInt8)
  | [] => some []
  | n :: ns =>
    if 0 ≤ n ∧ n < 256 then (bytesOfInts ns).map (UInt8.ofNat n.toNat :: ·) else none

theorem bytesOfInts_cons {n : Int} (h₀ : 0 ≤ n) (h : n < 256) (ns : List Int) :
    bytesOfInts (n :: ns) = (bytesOfInts ns).map (UInt8.ofNat n.toNat :: ·) := by
  rw [bytesOfInts, if_pos ⟨h₀, h⟩]

/-- Big-endian bytes as a number. -/
def beNat (bytes : List UInt8) : Nat := bytes.foldl (fun n b => n * 256 + b.toNat) 0

/-- A number of `bits` bits read as two's complement. -/
def signed (bits n : Nat) : Int := if n < 2 ^ (bits - 1) then n else (n : Int) - 2 ^ bits

/-- `struct.unpack(">i", data)[0]`. -/
def unpackInt32 (data : List UInt8) : Option Int :=
  if data.length = 4 then some (signed 32 (beNat data)) else none

/-- `struct.unpack(">H", data)[0]`. -/
def unpackUInt16 (data : List UInt8) : Option Int :=
  if data.length = 2 then some (beNat data : Int) else none

/-- `struct.unpack(">h", data)[0]`. -/
def unpackInt16 (data : List UInt8) : Option Int :=
  if data.length = 2 then some (signed 16 (beNat data)) else none

/-- `data.hex()`. -/
def bytesHex (data : List UInt8) : String :=
  String.ofList (data.flatMap fun b => [Nat.digitChar (b.toNat / 16), Nat.digitChar (b.toNat % 16)])

/-- A dictionary, in insertion order. -/
abbrev Dict (α : Type*) := List (String × α)

namespace Dict

/-- `d.get(key)`. -/
def get (d : Dict α) (key : String) : Option α := List.lookup key d

/-- `d[key] = value`: a key keeps its place. -/
def set (d : Dict α) (key : String) (value : α) : Dict α :=
  if (d.get key).isSome then d.map fun p => if p.1 = key then (key, value) else p
  else d ++ [(key, value)]

theorem get_cons (k : String) (v : α) (d : Dict α) (key : String) :
    get ((k, v) :: d) key = if key = k then some v else get d key := by
  unfold get
  rw [List.lookup_cons]
  by_cases h : key = k
  · rw [if_pos h, beq_iff_eq.mpr h]
  · rw [if_neg h, beq_eq_false_iff_ne.mpr h]

/-- Replacing the values of one key in every entry. -/
theorem get_map_replace (d : Dict α) (key : String) (value : α) (key' : String) :
    get (d.map fun p => if p.1 = key then (key, value) else p) key' =
      if key' = key then (d.get key).map fun _ => value else d.get key' := by
  induction d with
  | nil =>
    show none = if key' = key then none else none
    split <;> rfl
  | cons p d ih =>
    obtain ⟨k, v⟩ := p
    by_cases hk : k = key
    · -- this entry is replaced, and decides what `key` gets
      subst hk
      rw [List.map_cons, if_pos rfl, get_cons, ih, get_cons, get_cons, if_pos rfl]
      by_cases h : key' = k <;> simp [h]
    · -- this entry stays, and is not the one of `key`
      rw [List.map_cons, if_neg hk, get_cons, ih, get_cons, get_cons, if_neg (Ne.symm hk)]
      by_cases h : key' = key
      · subst h
        simp [Ne.symm hk]
      · simp [h]

theorem get_append (d e : Dict α) (key : String) :
    get (d ++ e) key = (d.get key).or (e.get key) := by
  induction d with
  | nil => rfl
  | cons p d ih =>
    obtain ⟨k, v⟩ := p
    rw [List.cons_append, get_cons, get_cons, ih]
    split <;> rfl

/-- A new key goes to the end. -/
theorem set_of_get_eq_none {d : Dict α} {key : String} (h : d.get key = none) (value : α) :
    d.set key value = d ++ [(key, value)] := by
  rw [set, h]
  rfl

theorem get_eq_none_iff {d : Dict α} {key : String} :
    d.get key = none ↔ key ∉ d.map Prod.fst := by
  induction d with
  | nil => exact iff_of_true rfl List.not_mem_nil
  | cons p d ih =>
    obtain ⟨k, v⟩ := p
    rw [get_cons, List.map_cons, List.mem_cons, not_or, ← ih]
    by_cases h : key = k
    · simp [h]
    · simp [h]

theorem isSome_get_iff {d : Dict α} {key : String} :
    (d.get key).isSome ↔ key ∈ d.map Prod.fst := by
  rw [Option.isSome_iff_ne_none, Ne, get_eq_none_iff, not_not]

/-- An assignment leaves the keys as they are, or adds one at the end. -/
theorem keys_set (d : Dict α) (key : String) (value : α) :
    (d.set key value).map Prod.fst =
      if key ∈ d.map Prod.fst then d.map Prod.fst else d.map Prod.fst ++ [key] := by
  by_cases hmem : key ∈ d.map Prod.fst
  · rw [if_pos hmem, set, if_pos (isSome_get_iff.mpr hmem), List.map_map]
    refine List.map_congr_left ?_
    intro p _
    by_cases hp : p.1 = key
    · simp [hp]
    · simp [hp]
  · rw [if_neg hmem, set_of_get_eq_none (get_eq_none_iff.mpr hmem), List.map_append]
    rfl

/-- The keys of a dictionary stay pairwise distinct. -/
theorem nodup_keys_set {d : Dict α} (hd : (d.map Prod.fst).Nodup) (key : String) (value : α) :
    ((d.set key value).map Prod.fst).Nodup := by
  rw [keys_set]
  split
  · exact hd
  · rename_i hmem
    refine List.nodup_append.mpr ⟨hd, List.pairwise_singleton _ key, ?_⟩
    rintro k hk k' hk' rfl
    obtain rfl := List.mem_singleton.mp hk'
    exact hmem hk

theorem mem_set {d : Dict α} {key : String} {value : α} {p : String × α}
    (h : p ∈ d.set key value) : p ∈ d ∨ p = (key, value) := by
  rw [set] at h
  split at h
  · obtain ⟨q, hq, rfl⟩ := List.mem_map.mp h
    split
    · exact .inr rfl
    · exact .inl hq
  · simpa using h

/-- Changing the values and leaving the keys. -/
theorem get_map_value {β : Type*} (d : Dict α) (f : α → β) (key : String) :
    get (d.map fun p => (p.1, f p.2)) key = (d.get key).map f := by
  induction d with
  | nil => rfl
  | cons p d ih =>
    rw [List.map_cons, get_cons, ih, get_cons]
    split <;> rfl

/-- An entry of a dictionary with distinct keys is the one its key gets. -/
theorem get_eq_some_of_mem {d : Dict α} (hd : (d.map Prod.fst).Nodup) {key : String} {value : α}
    (h : (key, value) ∈ d) : d.get key = some value := by
  induction d with
  | nil => cases h
  | cons p d ih =>
    obtain ⟨k, v⟩ := p
    obtain ⟨hk, hd⟩ := List.nodup_cons.mp hd
    rw [get_cons]
    rcases List.mem_cons.mp h with heq | hmem
    · obtain ⟨rfl, rfl⟩ := Prod.mk.inj heq
      exact if_pos rfl
    · have hne : key ≠ k := by
        rintro rfl
        exact hk (List.mem_map.mpr ⟨_, hmem, rfl⟩)
      rw [if_neg hne]
      exact ih hd hmem

theorem get_set (d : Dict α) (key : String) (value : α) (key' : String) :
    (d.set key value).get key' = if key' = key then some value else d.get key' := by
  rw [set]
  split
  · rename_i hsome
    obtain ⟨v, hv⟩ := Option.isSome_iff_exists.mp hsome
    rw [get_map_replace, hv]
    rfl
  · rename_i hnone
    rw [Bool.not_eq_true, Option.isSome_eq_false_iff, Option.isNone_iff_eq_none] at hnone
    rw [get_append, get_cons]
    by_cases h : key' = key
    · subst h
      simp [hnone]
    · simp [h, get]

/-- The dictionary that a list of assignments leaves behind: each key where it is first assigned,
with the value that is assigned to it last. -/
def ofAssignments (entries : List (String × α)) : Dict α :=
  (entries.map Prod.fst).eraseDups.filterMap fun key =>
    (get entries.reverse key).map fun value => (key, value)

theorem keys_ofAssignments (entries : List (String × α)) :
    (ofAssignments entries).map Prod.fst = (entries.map Prod.fst).eraseDups := by
  rw [ofAssignments, List.map_filterMap]
  refine (List.filterMap_congr fun key hkey => ?_).trans List.filterMap_some
  have hsome : (get entries.reverse key).isSome := by
    rw [isSome_get_iff, List.map_reverse, List.mem_reverse]
    exact List.mem_eraseDups.mp hkey
  obtain ⟨value, hvalue⟩ := Option.isSome_iff_exists.mp hsome
  rw [hvalue]
  rfl

theorem get_reverse_append_singleton (entries : List (String × α)) (key : String) (value : α)
    (key' : String) : get (entries ++ [(key, value)]).reverse key' =
      if key' = key then some value else get entries.reverse key' := by
  rw [List.reverse_append, List.reverse_singleton, List.singleton_append, get_cons]

/-- One more assignment assigns a key that is there already, or a new one. -/
theorem eraseDups_keys_append_singleton (entries : List (String × α)) (key : String) (value : α) :
    ((entries ++ [(key, value)]).map Prod.fst).eraseDups =
      if key ∈ entries.map Prod.fst then (entries.map Prod.fst).eraseDups
      else (entries.map Prod.fst).eraseDups ++ [key] := by
  rw [List.map_append, List.eraseDups_append]
  by_cases hmem : key ∈ entries.map Prod.fst
  · rw [if_pos hmem]
    simp [List.removeAll, hmem]
  · rw [if_neg hmem]
    simp [List.removeAll, hmem, List.eraseDups_cons]

theorem ofAssignments_append_singleton (entries : List (String × α)) (key : String) (value : α) :
    ofAssignments (entries ++ [(key, value)]) = (ofAssignments entries).set key value := by
  by_cases hmem : key ∈ entries.map Prod.fst
  · -- the key keeps its place, and its value is replaced
    have hkey : key ∈ (ofAssignments entries).map Prod.fst := by
      rw [keys_ofAssignments]
      exact List.mem_eraseDups.mpr hmem
    rw [set, if_pos (isSome_get_iff.mpr hkey), ofAssignments, eraseDups_keys_append_singleton,
      if_pos hmem, ofAssignments, List.map_filterMap]
    refine List.filterMap_congr fun key' hkey' => ?_
    rw [get_reverse_append_singleton]
    obtain ⟨old, hold⟩ : ∃ old, get entries.reverse key = some old := by
      refine Option.isSome_iff_exists.mp (isSome_get_iff.mpr ?_)
      rwa [List.map_reverse, List.mem_reverse]
    by_cases h : key' = key
    · simp [h, hold]
    · cases get entries.reverse key' <;> simp [h]
  · -- the key is new
    have hkey : (ofAssignments entries).get key = none := by
      rw [get_eq_none_iff, keys_ofAssignments]
      exact fun h => hmem (List.mem_eraseDups.mp h)
    rw [set_of_get_eq_none hkey, ofAssignments, eraseDups_keys_append_singleton, if_neg hmem,
      List.filterMap_append, ofAssignments]
    congr 1
    · refine List.filterMap_congr fun key' hkey' => ?_
      have hne : key' ≠ key := by
        rintro rfl
        exact hmem (List.mem_eraseDups.mp hkey')
      rw [get_reverse_append_singleton, if_neg hne]
    · rw [List.filterMap_cons, get_reverse_append_singleton, if_pos rfl]
      rfl

theorem foldl_set_eq_ofAssignments (entries : List (String × α)) :
    entries.foldl (fun d p => set d p.1 p.2) [] = ofAssignments entries := by
  induction entries using List.reverseRecOn with
  | nil => rfl
  | append_singleton entries p ih =>
    rw [List.foldl_append, ih]
    exact (ofAssignments_append_singleton entries p.1 p.2).symm

end Dict

/-- What is forgotten early would be forgotten anyway. -/
theorem rtake_rtake_append (n : Nat) (xs ys : List α) :
    (xs.rtake n ++ ys).rtake n = (xs ++ ys).rtake n := by
  have htake : (ys.reverse ++ xs.reverse.take n).take n = (ys.reverse ++ xs.reverse).take n := by
    rw [List.take_append, List.take_append, List.take_take, Nat.min_eq_left (Nat.sub_le _ _)]
  rw [List.rtake_eq_reverse_take_reverse, List.rtake_eq_reverse_take_reverse,
    List.rtake_eq_reverse_take_reverse, List.reverse_append, List.reverse_append,
    List.reverse_reverse, htake]

theorem map_rtake {β : Type*} (f : α → β) (n : Nat) (xs : List α) :
    (xs.rtake n).map f = (xs.map f).rtake n := by
  rw [List.rtake, List.rtake, List.map_drop, List.length_map]

theorem rtake_rtake (n : Nat) (xs : List α) : (xs.rtake n).rtake n = xs.rtake n := by
  have h := rtake_rtake_append n xs []
  rwa [List.append_nil, List.append_nil] at h

/-- A deque that forgets its oldest elements. -/
structure BoundedDeque (α : Type*) (maxlen : Nat) where
  items : List α
  length_le : items.length ≤ maxlen
  deriving DecidableEq, Repr

namespace BoundedDeque

variable {maxlen : Nat}

def empty : BoundedDeque α maxlen := ⟨[], Nat.zero_le _⟩

def append (d : BoundedDeque α maxlen) (x : α) : BoundedDeque α maxlen :=
  ⟨(d.items ++ [x]).drop (d.items.length + 1 - maxlen), by
    rw [List.length_drop, List.length_append, List.length_singleton]
    omega⟩

/-- A deque holds the end of what has been appended to it. -/
theorem items_append (d : BoundedDeque α maxlen) (x : α) :
    (d.append x).items = (d.items ++ [x]).rtake maxlen := by
  rw [List.rtake, List.length_append, List.length_singleton]
  rfl

theorem rtake_items (d : BoundedDeque α maxlen) : d.items.rtake maxlen = d.items := by
  rw [List.rtake, Nat.sub_eq_zero_of_le d.length_le, List.drop_zero]

/-- Appending adds one element, and may forget others. -/
theorem mem_append {d : BoundedDeque α maxlen} {x y : α} (h : y ∈ (d.append x).items) :
    y ∈ d.items ∨ y = x := by
  have hmem : y ∈ d.items ++ [x] := List.mem_of_mem_drop h
  rwa [List.mem_append, List.mem_singleton] at hmem

/-- The element that was appended is the last one. -/
theorem getLast?_append (d : BoundedDeque α maxlen) (x : α) (h : 0 < maxlen) :
    (d.append x).items.getLast? = some x := by
  have hle : d.items.length + 1 - maxlen ≤ d.items.length := by omega
  show ((d.items ++ [x]).drop (d.items.length + 1 - maxlen)).getLast? = some x
  rw [List.drop_append_of_le_length hle]
  exact List.getLast?_concat

end BoundedDeque

end Foundations

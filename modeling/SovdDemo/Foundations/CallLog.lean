import Mathlib.Data.List.Basic
import Mathlib.Tactic.Common

/-!
# Temporal properties of logs

A component that acts on its surroundings leaves a log of the calls it made, oldest first. `After`
is the one temporal operator used: once some entry of a kind has been written, every later entry is
of another kind. Both it and the counts are read off from how a log is extended. `Writes` says what
an operation adds to a log, seen through a partial function that picks out some of the entries; such
operations compose.
-/

namespace Foundations

variable {α : Type*}

/-- Once an entry satisfies `p`, every later entry satisfies `q`. -/
def After (p q : α → Prop) (log : List α) : Prop := log.Pairwise fun x y => p x → q y

theorem after_append {p q : α → Prop} {l m : List α} :
    After p q (l ++ m) ↔ After p q l ∧ After p q m ∧ ∀ x ∈ l, p x → ∀ y ∈ m, q y := by
  simp only [After, List.pairwise_append]
  refine and_congr_right fun _ => and_congr_right fun _ => ?_
  exact ⟨fun h x hx hp y hy => h x hx y hy hp, fun h x hx y hy hp => h x hx hp y hy⟩

/-- Entries that satisfy `q` can be written at any time. -/
theorem After.of_forall {p q : α → Prop} {l : List α} (hl : ∀ y ∈ l, q y) : After p q l :=
  List.pairwise_iff_forall_sublist.mpr fun hs _ =>
    hl _ (hs.subset (List.mem_cons_of_mem _ (List.mem_singleton_self _)))

/-- Before the first entry that satisfies `p`, anything can be written. -/
theorem After.of_forall_not {p q : α → Prop} {l : List α} (hl : ∀ x ∈ l, ¬ p x) : After p q l :=
  List.pairwise_iff_forall_sublist.mpr fun hs hp => absurd hp (hl _ (hs.subset List.mem_cons_self))

theorem After.append_of_forall {p q : α → Prop} {l m : List α} (h : After p q l)
    (hm : ∀ y ∈ m, q y) : After p q (l ++ m) :=
  after_append.mpr ⟨h, .of_forall hm, fun _ _ _ => hm⟩

theorem After.append_of_forall_not {p q : α → Prop} {l m : List α} (hl : ∀ x ∈ l, ¬ p x)
    (hm : After p q m) : After p q (l ++ m) :=
  after_append.mpr ⟨.of_forall_not hl, hm, fun x hx hp => absurd hp (hl x hx)⟩

/-! Picking entries out of what is written -/

variable {β γ : Type*} {p : α → Option β} {l m n : List α} {ds es : List β}

/-- The log `m` continues `l`, and `ds` is what `p` picks out of the continuation. -/
def Writes (p : α → Option β) (l m : List α) (ds : List β) : Prop :=
  ∃ cs, m = l ++ cs ∧ cs.filterMap p = ds

namespace Writes

theorem append (l cs : List α) : Writes p l (l ++ cs) (cs.filterMap p) := ⟨cs, rfl, rfl⟩

/-- Entries of which `p` picks out none. -/
theorem append_of_forall {cs : List α} (hcs : ∀ c ∈ cs, p c = none) (l : List α) :
    Writes p l (l ++ cs) [] := ⟨cs, rfl, List.filterMap_eq_nil_iff.mpr hcs⟩

theorem refl (l : List α) : Writes p l l [] := ⟨[], (List.append_nil l).symm, rfl⟩

theorem trans (h : Writes p l m ds) (h' : Writes p m n es) : Writes p l n (ds ++ es) := by
  obtain ⟨cs, rfl, rfl⟩ := h
  obtain ⟨cs', rfl, rfl⟩ := h'
  exact ⟨cs ++ cs', List.append_assoc l cs cs', List.filterMap_append⟩

/-- Picking out less. -/
theorem bind (h : Writes p l m ds) (q : β → Option γ) :
    Writes (fun a => (p a).bind q) l m (ds.filterMap q) := by
  obtain ⟨cs, rfl, rfl⟩ := h
  exact ⟨cs, rfl, List.filterMap_filterMap.symm⟩

/-- What is picked out of the whole log. -/
theorem filterMap_eq (h : Writes p l m ds) : m.filterMap p = l.filterMap p ++ ds := by
  obtain ⟨cs, rfl, rfl⟩ := h
  exact List.filterMap_append

/-- Counting what is picked out of one kind of entry is counting these entries. -/
theorem count_filterMap [DecidableEq α] [DecidableEq β] {a : α} {b : β}
    (hp : ∀ c, p c = some b ↔ c = a) (l : List α) : (l.filterMap p).count b = l.count a := by
  rw [List.count, List.countP_filterMap, List.count]
  congr 1
  funext c
  by_cases hc : c = a
  · rw [(hp c).mpr hc]
    simp [hc]
  · have hne : p c ≠ some b := mt (hp c).mp hc
    cases h : p c with
    | none => simp [hc]
    | some d => simpa [hc, h] using hne

/-- What has been written is what follows the old log. -/
theorem filterMap_drop (h : Writes p l m ds) : (m.drop l.length).filterMap p = ds := by
  obtain ⟨cs, rfl, rfl⟩ := h
  rw [List.drop_left]

end Writes

end Foundations

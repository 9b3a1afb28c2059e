import Mathlib.Data.List.Basic
import Mathlib.Logic.Function.Basic

/-!
# Keyed lists as finite maps

A list of entries with a key each is searched for the first entry of a key. While the keys are
pairwise distinct this is a finite map: appending an entry of a new key inserts it, and rewriting
the first entry of a key changes the value of that key alone.

## Main definitions

- `KeyedList.binding` — the value of a key

## Main results

- `KeyedList.binding_append`, `KeyedList.binding_map`, `KeyedList.binding_modify` — what appending,
  mapping and rewriting do to the bindings
- `KeyedList.map_filter_sublist` — the keys of a selection that only grows
-/

namespace Foundations

namespace KeyedList

variable {α κ ν : Type*} [DecidableEq κ] (key : α → κ) (val : α → ν)

/-- The value of the first entry with the key `n`. -/
def binding (l : List α) (n : κ) : Option ν := (l.find? fun a => key a == n).map val

variable {key val} {l : List α}

theorem binding_cons (a : α) (l : List α) (n : κ) :
    binding key val (a :: l) n = if key a = n then some (val a) else binding key val l n := by
  rw [binding, List.find?_cons]
  by_cases h : key a = n
  · rw [if_pos h, beq_iff_eq.mpr h]
    rfl
  · rw [if_neg h, beq_eq_false_iff_ne.mpr h]
    rfl

/-- An entry of a new key is inserted by appending it. -/
theorem binding_append {a : α} (ha : key a ∉ l.map key) :
    binding key val (l ++ [a]) =
      Function.update (binding key val l) (key a) (some (val a)) := by
  funext n
  induction l with
  | nil =>
    rw [List.nil_append, binding_cons]
    by_cases h : key a = n
    · subst h
      rw [if_pos rfl, Function.update_self]
    · rw [if_neg h, Function.update_of_ne (Ne.symm h)]
  | cons b l ih =>
    obtain ⟨hb, hl⟩ := not_or.mp (List.mem_cons.not.mp ha)
    rw [List.cons_append, binding_cons, ih hl]
    by_cases h : key a = n
    · -- the new key is not the one of `b`
      subst h
      rw [if_neg (Ne.symm hb), Function.update_self, Function.update_self]
    · rw [Function.update_of_ne (Ne.symm h), Function.update_of_ne (Ne.symm h), binding_cons]

/-- Mapping over the entries maps over the values. -/
theorem binding_map {f : α → α} {g : ν → ν} (hkey : ∀ a, key (f a) = key a)
    (hval : ∀ a, val (f a) = g (val a)) (n : κ) :
    binding key val (l.map f) n = (binding key val l n).map g := by
  induction l with
  | nil => rfl
  | cons a l ih =>
    rw [List.map_cons, binding_cons, binding_cons, ih, hkey, hval]
    split <;> rfl

/-- Rewriting the first entry of a key changes the value of that key alone. -/
theorem binding_modify {f : α → α} {g : ν → ν} (hkey : ∀ a, key (f a) = key a)
    (hval : ∀ a, val (f a) = g (val a)) {n : κ} {i : Nat}
    (hi : l.findIdx? (fun a => key a == n) = some i) :
    binding key val (l.modify i f) =
      Function.update (binding key val l) n ((binding key val l n).map g) := by
  funext k
  induction l generalizing i with
  | nil => cases hi
  | cons a l ih =>
    rw [List.findIdx?_cons] at hi
    by_cases ha : key a = n
    · -- the search stops here
      rw [beq_iff_eq.mpr ha, if_pos rfl] at hi
      cases hi
      rw [List.modify_zero_cons, binding_cons, binding_cons, hkey, hval, if_pos ha]
      by_cases hk : k = n
      · subst hk
        rw [if_pos ha, Function.update_self]
        rfl
      · have hne : key a ≠ k := fun he => hk (he.symm.trans ha)
        rw [if_neg hne, Function.update_of_ne hk, binding_cons, if_neg hne]
    · -- it goes on behind `a`
      rw [beq_eq_false_iff_ne.mpr ha, if_neg (by decide), Option.map_eq_some_iff] at hi
      obtain ⟨j, hj, rfl⟩ := hi
      rw [List.modify_succ_cons, binding_cons, ih hj, binding_cons, if_neg ha]
      by_cases hk : k = n
      · subst hk
        rw [if_neg ha, Function.update_self, Function.update_self]
      · rw [Function.update_of_ne hk, Function.update_of_ne hk, binding_cons]

omit [DecidableEq κ] in
/-- When every position keeps its key and stays among those that are selected, no selected key is
lost. -/
theorem map_filter_sublist {p : α → Bool} {l' : List α}
    (h : ∀ (i : Nat) a, l[i]? = some a → p a = true →
      ∃ b, l'[i]? = some b ∧ p b = true ∧ key b = key a) :
    ((l.filter p).map key).Sublist ((l'.filter p).map key) := by
  induction l generalizing l' with
  | nil => exact List.nil_sublist _
  | cons a l ih =>
    cases l' with
    | nil =>
      have hnone : ∀ x ∈ a :: l, ¬ p x = true := by
        intro x hx hp
        obtain ⟨i, hi⟩ := List.getElem?_of_mem hx
        obtain ⟨b, hb, -⟩ := h i x hi hp
        cases hb
      rw [List.filter_eq_nil_iff.mpr hnone]
      exact List.nil_sublist _
    | cons a' l' =>
      have hrest : ((l.filter p).map key).Sublist ((l'.filter p).map key) :=
        ih fun i b hb hp => h (i + 1) b hb hp
      by_cases hp : p a = true
      · obtain ⟨b, hb, hpb, hkey⟩ := h 0 a rfl hp
        obtain rfl := Option.some.inj hb
        rw [List.filter_cons_of_pos hp, List.filter_cons_of_pos hpb, List.map_cons, List.map_cons,
          hkey]
        exact hrest.cons_cons _
      · rw [List.filter_cons_of_neg hp]
        refine hrest.trans (List.Sublist.map _ ?_)
        exact (List.sublist_cons_self a' l').filter p

end KeyedList

end Foundations

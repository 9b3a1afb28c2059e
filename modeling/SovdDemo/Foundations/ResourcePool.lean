import SovdDemo.Foundations.Transition
import Mathlib.Data.Multiset.AddSub
import Mathlib.Data.Multiset.Count

/-!
# Pools of resources

Resources are taken from a pool and given back to it. Which free one is taken is left open, and a
resource can be given back only while it is taken. Every run conserves the resources; as long as
they are distinct, the operations on one of them alternate.

## Main definitions

- `Pool` — the resources that are free, and those that are taken
- `Pool.system` — the runs of a pool

## Main results

- `Pool.all_of_run` — nothing is lost, and nothing is made up
- `Pool.count_of_run` — what is taken and not given back is out
- `Pool.alternates` — no resource is given back twice, or taken twice, in a row
-/

namespace Foundations

variable {α : Type*}

/-- The resources that are free, and those that have been taken and not yet given back. -/
structure Pool (α : Type*) where
  free : Multiset α
  taken : Multiset α

/-- An operation on a pool. -/
inductive PoolOp (α : Type*)
  | take (a : α)
  | give (a : α)
  deriving DecidableEq, Repr

namespace Pool

/-- All resources, free or not. -/
def all (p : Pool α) : Multiset α := p.free + p.taken

variable [DecidableEq α]

def enabled (p : Pool α) : PoolOp α → Prop
  | .take a => a ∈ p.free
  | .give a => a ∈ p.taken

def step (p : Pool α) : PoolOp α → Pool α
  | .take a => ⟨p.free.erase a, a ::ₘ p.taken⟩
  | .give a => ⟨a ::ₘ p.free, p.taken.erase a⟩

/-- A pool, at first with every resource free. -/
def system : System (Pool α) (PoolOp α) where
  init p := p.taken = 0
  enabled := enabled
  step := step

@[simp] theorem enabled_take {p : Pool α} {a : α} : system.enabled p (.take a) ↔ a ∈ p.free :=
  Iff.rfl

@[simp] theorem enabled_give {p : Pool α} {a : α} : system.enabled p (.give a) ↔ a ∈ p.taken :=
  Iff.rfl

@[simp] theorem step_take (p : Pool α) (a : α) :
    system.step p (.take a) = ⟨p.free.erase a, a ::ₘ p.taken⟩ := rfl

@[simp] theorem step_give (p : Pool α) (a : α) :
    system.step p (.give a) = ⟨a ::ₘ p.free, p.taken.erase a⟩ := rfl

theorem all_step {p : Pool α} {op : PoolOp α} (he : system.enabled p op) :
    (system.step p op).all = p.all := by
  cases op with
  | take a =>
    rw [step_take, all, all, Multiset.add_cons, ← Multiset.cons_add,
      Multiset.cons_erase (enabled_take.mp he)]
  | give a =>
    rw [step_give, all, all, Multiset.cons_add, ← Multiset.add_cons,
      Multiset.cons_erase (enabled_give.mp he)]

/-- A run conserves the resources. -/
theorem all_of_run {p q : Pool α} {ops : List (PoolOp α)} (h : system.Run p ops q) :
    q.all = p.all :=
  h.preserves (I := fun r => r.all = p.all) (fun _ _ hr he => (all_step he).trans hr) rfl

theorem count_taken_step {p : Pool α} {op : PoolOp α} (he : system.enabled p op) (a : α) :
    p.taken.count a + [op].count (.take a) =
      (system.step p op).taken.count a + [op].count (.give a) := by
  cases op with
  | take b =>
    rw [step_take]
    by_cases hab : b = a
    · subst hab
      simp
    · have hba : a ≠ b := fun h => hab h.symm
      simp [Multiset.count_cons_of_ne hba, hab]
  | give b =>
    rw [step_give]
    by_cases hab : b = a
    · subst hab
      have hpos := Multiset.count_pos.mpr (enabled_give.mp he)
      rw [Multiset.count_erase_self]
      simp
      omega
    · have hba : a ≠ b := fun h => hab h.symm
      rw [Multiset.count_erase_of_ne hba]
      simp [hab]

/-- What has been taken has been given back or is out. -/
theorem count_of_run {p q : Pool α} {ops : List (PoolOp α)} (h : system.Run p ops q) (a : α) :
    p.taken.count a + ops.count (.take a) = q.taken.count a + ops.count (.give a) := by
  induction h with
  | nil p => rfl
  | @cons p q op ops he _ ih =>
    have hstep := count_taken_step he a
    have hsplit : ∀ op' : PoolOp α, (op :: ops).count op' = [op].count op' + ops.count op' := by
      intro op'
      rw [← List.count_append, List.singleton_append]
    rw [hsplit, hsplit]
    omega

/-- Distinct resources are taken and given back in turns: at any time, one that has been given back
`n` times has been taken `n` times, or `n + 1` times when it is out. -/
theorem alternates {p q : Pool α} {ops : List (PoolOp α)} (hp : p.taken = 0) (hn : p.free.Nodup)
    (h : system.Run p ops q) (a : α) {ops' : List (PoolOp α)} (hops : ops' <+: ops) :
    ops'.count (.give a) ≤ ops'.count (.take a) ∧
      ops'.count (.take a) ≤ ops'.count (.give a) + 1 := by
  obtain ⟨rest, rfl⟩ := hops
  obtain ⟨r, hr, -⟩ := h.exists_of_append
  have hcount := count_of_run hr a
  rw [hp, Multiset.count_zero, Nat.zero_add] at hcount
  have hall : r.all = p.free := by
    rw [all_of_run hr, all, hp, Multiset.add_zero]
  have hone : r.all.count a ≤ 1 := by
    rw [hall]
    exact Multiset.nodup_iff_count_le_one.mp hn a
  rw [all, Multiset.count_add] at hone
  omega

end Pool

end Foundations

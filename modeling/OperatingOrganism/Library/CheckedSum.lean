import Mathlib.Algebra.BigOperators.Group.List.Basic
import Mathlib.Algebra.GroupWithZero.Nat

/-!
# Checked arithmetic on 64-bit words

Operations that have no result where the exact one does not fit in a `u64`. A sum of words whose partial sums are
all checked has a result exactly if the total fits, and then it is the total (`checkedSum_eq`).
-/

set_option autoImplicit false

namespace OperatingOrganism.CheckedSum

universe u

/-- The exact result, if it fits. -/
def checked (exact : Nat) : Option UInt64 := if exact < 2 ^ 64 then some (.ofNat exact) else none

def checkedAdd (a b : UInt64) : Option UInt64 := checked (a.toNat + b.toNat)

def checkedMul (a b : UInt64) : Option UInt64 := checked (a.toNat * b.toNat)

variable {α : Type u}

/-- The sum over a list of summands that are themselves checked. -/
def checkedSum (f : α → Option UInt64) (l : List α) : Option UInt64 :=
  l.foldlM (fun sum x => (f x).bind (checkedAdd sum)) 0

theorem isSome_checked_iff {exact : Nat} : (checked exact).isSome ↔ exact < 2 ^ 64 := by
  rw [checked]
  split
  · next h => exact iff_of_true rfl h
  · next h => exact iff_of_false nofun h

/-- A word fits. -/
theorem checked_toNat (w : UInt64) : checked w.toNat = some w := by
  rw [checked, if_pos w.toNat_lt, UInt64.ofNat_toNat]

/-- What is added to a checked result is added to the exact one. -/
theorem checked_bind (a r : Nat) : (checked a).bind (fun w => checked (w.toNat + r)) = checked (a + r) := by
  by_cases h : a < 2 ^ 64
  · have hchecked : checked a = some (.ofNat a) := if_pos h
    rw [hchecked, Option.bind_some, UInt64.toNat_ofNat_of_lt' h]
  · have hnone : checked a = none := if_neg h
    have hnone' : checked (a + r) = none := if_neg fun hlt => h (Nat.lt_of_le_of_lt (Nat.le_add_right a r) hlt)
    rw [hnone, hnone']
    rfl

variable {f : α → Option UInt64} {g : α → Nat} {l : List α}

/-- The accumulator of a checked sum. -/
theorem foldlM_checkedAdd (hf : ∀ x ∈ l, f x = checked (g x)) (start : UInt64) :
    l.foldlM (fun sum x => (f x).bind (checkedAdd sum)) start = checked (start.toNat + (l.map g).sum) := by
  induction l generalizing start with
  | nil => exact (checked_toNat start).symm
  | cons x l ih =>
    have hadd : (f x).bind (checkedAdd start) = checked (start.toNat + g x) := by
      rw [hf x List.mem_cons_self, Nat.add_comm, ← checked_bind]
      exact congrArg _ (funext fun w => congrArg checked (Nat.add_comm _ _))
    rw [List.foldlM_cons, hadd, List.map_cons, List.sum_cons, ← Nat.add_assoc, ← checked_bind (start.toNat + g x)]
    exact congrArg _ (funext fun w => ih (fun y hy => hf y (List.mem_cons_of_mem x hy)) w)

/-- A checked sum is the exact one, checked. -/
theorem checkedSum_eq (hf : ∀ x ∈ l, f x = checked (g x)) : checkedSum f l = checked (l.map g).sum := by
  rw [checkedSum, foldlM_checkedAdd hf, UInt64.toNat_zero, Nat.zero_add]

end OperatingOrganism.CheckedSum

import Mathlib.Algebra.BigOperators.Group.List.Basic
import Mathlib.Algebra.GroupWithZero.Nat

/-!
# What wrapping shows

A word of a machine holds a number up to a multiple of its modulus. Where a later operation looks at the word, the
multiple that was lost shows, or it does not: a sum that wraps is below its first summand (`le_add_mod_iff`), a
quotient by something that is not larger than the modulus is too small (`mod_div_eq_iff`), and among values that are
small one that wraps to something large is the maximum (`maximum_eq_iff`).
-/

set_option autoImplicit false

namespace OperatingOrganism.WrappingArithmetic

universe u

variable {modulus : Nat}

/-- An increase is seen exactly if the sum does not wrap. -/
theorem le_add_mod_iff {a b : Nat} (ha : a < modulus) (hb : b < modulus) :
    a ≤ (a + b) % modulus ↔ a + b < modulus := by
  constructor
  · intro hle
    by_contra hwrap
    have hmod : (a + b) % modulus = a + b - modulus := by
      rw [Nat.mod_eq_sub_mod (Nat.not_lt.1 hwrap), Nat.mod_eq_of_lt (by omega)]
    omega
  · intro hfits
    rw [Nat.mod_eq_of_lt hfits]
    exact Nat.le_add_right a b

/-- A quotient is right exactly if its dividend does not wrap. -/
theorem mod_div_eq_iff {n d : Nat} (hpos : 0 < d) (hd : d ≤ modulus) :
    n % modulus / d = n / d ↔ n < modulus := by
  constructor
  · intro heq
    by_contra hwrap
    -- at least one divisor was lost
    have hlost : n % modulus ≤ n - d := by
      rw [Nat.mod_eq_sub_mod (Nat.not_lt.1 hwrap)]
      exact Nat.le_trans (Nat.mod_le _ _) (Nat.sub_le_sub_left hd n)
    have hquotient : n / d = (n - d) / d + 1 :=
      Nat.div_eq_sub_div hpos (Nat.le_trans hd (Nat.not_lt.1 hwrap))
    have hsmall : n % modulus / d ≤ (n - d) / d := Nat.div_le_div_right hlost
    omega
  · intro hfits
    rw [Nat.mod_eq_of_lt hfits]

/-- Where a wrong value is larger than all right ones, the maximum is right exactly if every value is. -/
theorem maximum_eq_iff {α : Type u} {shown right : α → Nat} {bound : Nat} (hright : ∀ x, right x < bound)
    (hshown : ∀ x, shown x = right x ∨ bound ≤ shown x) (l : List α) :
    (l.map shown).max?.getD 0 = (l.map right).max?.getD 0 ↔ ∀ x ∈ l, shown x = right x := by
  constructor
  · intro heq x hx
    refine (hshown x).resolve_right fun hlarge => ?_
    have hle : shown x ≤ (l.map shown).max?.getD 0 := List.le_max?_getD_of_mem (List.mem_map_of_mem hx)
    -- the maximum of the right values is one of them
    have hlt : (l.map right).max?.getD 0 < bound := by
      cases hmax : (l.map right).max? with
      | none => exact Nat.lt_of_le_of_lt (Nat.zero_le _) (hright x)
      | some n =>
        obtain ⟨y, -, rfl⟩ := List.mem_map.1 (List.max?_mem hmax)
        exact hright y
    omega
  · intro hall
    rw [List.map_congr_left hall]

end OperatingOrganism.WrappingArithmetic

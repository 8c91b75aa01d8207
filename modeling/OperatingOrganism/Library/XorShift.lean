import Mathlib.Data.BitVec
import Mathlib.Dynamics.PeriodicPts.Lemmas

/-!
# Generators that shift and add without carry

A word is added, bit by bit and without carry, to a shift of itself. No bit is lost on the way: of the sum, the
bits that the shift does not reach are those of the word, and each of the others is told by a bit nearer to that
end (`shiftLeft_xor_injective`, `ushiftRight_xor_injective`). A generator that composes such maps never comes
to zero (`iterate_ne_of_fixed`), and it comes back to every state that it was ever in
(`exists_period`).
-/

set_option autoImplicit false

namespace OperatingOrganism.XorShift

open Function

section Maps

variable {w k : Nat}

/-- A word is told by its sum with a shift of itself to the left: the bits from below. -/
theorem shiftLeft_xor_injective (hk : 0 < k) : Injective fun x : BitVec w => x ^^^ x <<< k := by
  intro x y hxy
  apply BitVec.eq_of_getLsbD_eq
  intro i
  induction i using Nat.strong_induction_on with
  | _ i ih =>
    intro hi
    have hbit : (x ^^^ x <<< k).getLsbD i = (y ^^^ y <<< k).getLsbD i := congrArg (BitVec.getLsbD · i) hxy
    simp only [BitVec.getLsbD_xor, BitVec.getLsbD_shiftLeft] at hbit
    -- the lowest bits are as they were, and the others depend on lower ones
    by_cases hlow : i < k
    · simpa [hlow] using hbit
    · have hbelow : x.getLsbD (i - k) = y.getLsbD (i - k) := ih (i - k) (by omega) (by omega)
      simpa [hlow, hi, hbelow] using hbit

/-- The same with a shift to the right: the bits from above. -/
theorem ushiftRight_xor_injective (hk : 0 < k) : Injective fun x : BitVec w => x ^^^ x >>> k := by
  intro x y hxy
  have habove : ∀ n i, w ≤ i + n → x.getLsbD i = y.getLsbD i := by
    intro n
    induction n with
    | zero =>
      intro i hi
      rw [BitVec.getLsbD_of_ge x i hi, BitVec.getLsbD_of_ge y i hi]
    | succ n ih =>
      intro i hi
      have hbit : (x ^^^ x >>> k).getLsbD i = (y ^^^ y >>> k).getLsbD i := congrArg (BitVec.getLsbD · i) hxy
      have hshifted : x.getLsbD (k + i) = y.getLsbD (k + i) := ih (k + i) (by omega)
      simpa [BitVec.getLsbD_xor, BitVec.getLsbD_ushiftRight, hshifted] using hbit
  apply BitVec.eq_of_getLsbD_eq
  intro i _
  exact habove w i (Nat.le_add_left w i)

end Maps

section Orbits

variable {α : Type*} {f : α → α} {z x : α}

/-- What starts outside a fixed point of an injective map stays outside. -/
theorem iterate_ne_of_fixed (hf : Injective f) (hz : f z = z) (hx : x ≠ z) (n : Nat) : f^[n] x ≠ z := by
  intro hn
  have hfixed : f^[n] z = z := iterate_fixed hz n
  exact hx (hf.iterate n (hn.trans hfixed.symm))

/-- On finitely many states, an injective map repeats itself from the first state on. -/
theorem exists_period [Finite α] (hf : Injective f) (x : α) :
    ∃ p, 0 < p ∧ ∀ n, f^[n + p] x = f^[n] x := by
  obtain ⟨p, hpos, hp⟩ := mem_periodicPts.1 (hf.mem_periodicPts x)
  refine ⟨p, hpos, fun n => ?_⟩
  rw [iterate_add_apply, hp.eq]

end Orbits

end OperatingOrganism.XorShift

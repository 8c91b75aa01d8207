import Mathlib.Data.Nat.Find

/-!
# First fit

The search of a first-fit allocator: one pass over numbered places that counts how many free ones it has
seen in a row, and stops as soon as they are enough. It finds the first run of free places that is long
enough, and fails only if there is none (`scan_eq_some_iff`).
-/

set_option autoImplicit false

namespace OperatingOrganism.FirstFit

variable {free : Nat → Bool} {size n i j : Nat}

/-- The `n` places from `i` on are free. -/
def FreeRun (free : Nat → Bool) (n i : Nat) : Prop := ∀ k, i ≤ k → k < i + n → free k = true

/-- A run of free places, at least one, among the first `size`. -/
structure Fits (free : Nat → Bool) (size n i : Nat) : Prop where
  pos : 0 < n
  within : i + n ≤ size
  run : FreeRun free n i

/-- The first such run. -/
structure FirstFits (free : Nat → Bool) (size n i : Nat) : Prop where
  fits : Fits free size n i
  first : ∀ j, Fits free size n j → i ≤ j

/-- The pass: `left` places are to come, from `i` on; the last `count` ones were free, the first of them
at `start`. -/
def scan (free : Nat → Bool) (n : Nat) : (left i count start : Nat) → Option Nat
  | 0, _, _, _ => none
  | left + 1, i, count, start =>
    if free i then
      let start := if count = 0 then i else start
      if count + 1 = n then some start else scan free n left (i + 1) (count + 1) start
    else scan free n left (i + 1) 0 start

/-- A run of no places is never found. -/
theorem scan_zero (left i count start : Nat) : scan free 0 left i count start = none := by
  induction left generalizing i count start with
  | zero => rfl
  | succ left ih =>
    rw [scan]
    split
    · exact ih _ _ _
    · exact ih _ _ _

/-- What the pass finds from its middle on: the first run that does not begin before the free places which
it has just counted. -/
theorem scan_eq_some_iff_of_count {left count start : Nat} (hle : count ≤ i) (hlt : count < n)
    (hrun : FreeRun free count (i - count)) (hstart : 0 < count → start = i - count) :
    scan free n left i count start = some j ↔
      i - count ≤ j ∧ Fits free (i + left) n j ∧
        ∀ k, i - count ≤ k → Fits free (i + left) n k → j ≤ k := by
  induction left generalizing i count start with
  | zero =>
    -- no run fits into the places that were counted
    refine iff_of_false nofun ?_
    rintro ⟨hj, hfits, -⟩
    have := hfits.within
    omega
  | succ left ih =>
    rw [scan]
    have hsize : i + 1 + left = i + (left + 1) := by omega
    by_cases hfree : free i = true
    · have hrun' : FreeRun free (count + 1) (i - count) := by
        intro k hk hki
        by_cases hki' : k = i
        · rw [hki']
          exact hfree
        · exact hrun k hk (by omega)
      have hstart' : (if count = 0 then i else start) = i - count := by
        split
        · omega
        · exact hstart (by omega)
      rw [if_pos hfree]
      dsimp only
      rw [hstart']
      by_cases hn : count + 1 = n
      · rw [if_pos hn]
        have hfits : Fits free (i + (left + 1)) n (i - count) :=
          ⟨by omega, by omega, by rw [← hn]; exact hrun'⟩
        constructor
        · rintro ⟨⟩
          exact ⟨Nat.le_refl _, hfits, fun k hk _ => hk⟩
        · rintro ⟨hj, -, hfirst⟩
          have := hfirst (i - count) (Nat.le_refl _) hfits
          exact congrArg some (by omega)
      · have hpos : i + 1 - (count + 1) = i - count := by omega
        rw [if_neg hn, ih (by omega) (by omega) (by rw [hpos]; exact hrun') (fun _ => hpos.symm), hpos,
          hsize]
    · -- a run that begins among the counted places would contain place `i`
      have hafter : ∀ k, i - count ≤ k → Fits free (i + (left + 1)) n k → i + 1 ≤ k := by
        intro k hk hfits
        by_contra hlt'
        exact hfree (hfits.run i (by omega) (by omega))
      rw [if_neg hfree, ih (Nat.zero_le _) (by omega) (fun k hk hki => absurd hk (by omega)) nofun, hsize]
      constructor
      · rintro ⟨hj, hfits, hfirst⟩
        exact ⟨by omega, hfits, fun k hk hfk => hfirst k (hafter k hk hfk) hfk⟩
      · rintro ⟨hj, hfits, hfirst⟩
        exact ⟨hafter j hj hfits, hfits, fun k hk hfk => hfirst k (by omega) hfk⟩

/-- The pass over `size` places finds the first run that fits. -/
theorem scan_eq_some_iff : scan free n size 0 0 0 = some j ↔ FirstFits free size n j := by
  by_cases hn : n = 0
  · subst hn
    rw [scan_zero]
    exact iff_of_false nofun fun h => absurd h.fits.pos (Nat.lt_irrefl 0)
  · rw [scan_eq_some_iff_of_count (Nat.le_refl 0) (by omega) (fun k hk hki => absurd hk (by omega)) nofun,
      Nat.zero_add]
    constructor
    · rintro ⟨-, hfits, hfirst⟩
      exact ⟨hfits, fun k hk => hfirst k (Nat.zero_le _) hk⟩
    · rintro ⟨hfits, hfirst⟩
      exact ⟨Nat.zero_le _, hfits, fun k _ hk => hfirst k hk⟩

/-- The pass finds something exactly if some run fits. -/
theorem scan_isSome_iff : (scan free n size 0 0 0).isSome ↔ ∃ i, Fits free size n i := by
  classical
  constructor
  · intro h
    obtain ⟨j, hj⟩ := Option.isSome_iff_exists.1 h
    exact ⟨j, (scan_eq_some_iff.1 hj).fits⟩
  · intro h
    have hfirst : FirstFits free size n (Nat.find h) := ⟨Nat.find_spec h, fun j hj => Nat.find_min' h hj⟩
    rw [scan_eq_some_iff.2 hfirst]
    rfl

/-- A first run is the only one. -/
theorem FirstFits.unique (h : FirstFits free size n i) (h' : FirstFits free size n j) : i = j :=
  Nat.le_antisymm (h.first j h'.fits) (h'.first i h.fits)

end OperatingOrganism.FirstFit

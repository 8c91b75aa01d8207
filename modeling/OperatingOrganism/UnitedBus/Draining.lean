import OperatingOrganism.UnitedBus.RingBounds

/-!
# Draining in pieces

An absorb stops at the systole or with a full buffer and leaves the read head where it stopped. The next absorb
of the same organ goes on from there: the loop with the larger bound passes through the state in which the loop
with the smaller one stopped (`absorbLoop_trans`), and a loop that appends to a filled buffer does what it does on an
empty one with the bound lowered (`absorbLoop_append`).
-/

set_option autoImplicit false

namespace OperatingOrganism.UnitedBus

open OperatingOrganism.OrbitWalk

section Draining

variable {s : Bus} {o : UInt8} {m n : Int} {fuel fuel' head head' : Nat} {out out' : List Globule}

/-- Iterations to spare change nothing. -/
theorem absorbLoop_mono (hle : fuel ≤ fuel') {r : Nat × List Globule}
    (h : absorbLoop s o n fuel head out = some r) : absorbLoop s o n fuel' head out = some r := by
  induction hle with
  | refl => exact h
  | step _ ih => exact absorbLoop_succ ih

/-- Nothing is absorbed on the systole. -/
theorem absorbLoop_systole :
    absorbLoop s o n fuel s.heartSystole out = some (s.heartSystole, out) := by
  cases fuel with
  | zero => simp [absorbLoop]
  | succ fuel => simp [absorbLoop]

/-- The loop does not look at the read heads. -/
theorem absorbLoop_setHead (i : Fin maxOrgans) (h : Nat) :
    absorbLoop (s.setHead i h) o n fuel head out = absorbLoop s o n fuel head out := by
  induction fuel generalizing head out with
  | zero => rfl
  | succ fuel ih =>
    rw [absorbLoop, absorbLoop, ih]
    rfl

theorem setHead_setHead (i : Fin maxOrgans) (h h' : Nat) :
    (s.setHead i h).setHead i h' = s.setHead i h' := by
  simp [Bus.setHead]

/-- The buffer is filled up to its bound and no further. -/
theorem absorbLoop_length_le (h : absorbLoop s o n fuel head out = some (head', out'))
    (hout : (out.length : Int) ≤ n) : (out'.length : Int) ≤ n := by
  induction fuel generalizing head out with
  | zero =>
    rw [absorbLoop] at h
    split at h
    · cases h
    · cases h
      exact hout
  | succ fuel ih =>
    rw [absorbLoop] at h
    split at h
    · next hcond =>
      apply ih h
      -- one more globule at most, and there was room for it
      split
      · rw [List.length_append, List.length_singleton]
        exact hcond.2
      · exact hout
    · cases h
      exact hout

/-- A loop goes on from where a loop with a smaller bound stopped. -/
theorem absorbLoop_trans (hmn : m ≤ n) (h : absorbLoop s o m fuel head out = some (head', out'))
    {r : Nat × List Globule} (h' : absorbLoop s o n fuel' head' out' = some r) :
    absorbLoop s o n (fuel + fuel') head out = some r := by
  induction fuel generalizing head out with
  | zero =>
    rw [absorbLoop] at h
    split at h
    · cases h
    · cases h
      rw [Nat.zero_add]
      exact h'
  | succ fuel ih =>
    rw [absorbLoop] at h
    split at h
    · next hcond =>
      rw [Nat.add_right_comm, absorbLoop, if_pos ⟨hcond.1, Int.lt_of_lt_of_le hcond.2 hmn⟩]
      exact ih h
    · cases h
      exact absorbLoop_mono (Nat.le_add_left fuel' (fuel + 1)) h'

/-- A loop on a buffer that holds `taken` already. -/
theorem absorbLoop_append (taken : List Globule)
    (h : absorbLoop s o n fuel head out = some (head', out')) :
    absorbLoop s o (taken.length + n) fuel head (taken ++ out) = some (head', taken ++ out') := by
  have hroom : ∀ l : List Globule,
      ((taken ++ l).length : Int) < taken.length + n ↔ (l.length : Int) < n := by
    intro l
    rw [List.length_append, Int.natCast_add]
    exact Int.add_lt_add_iff_left _
  induction fuel generalizing head out with
  | zero =>
    rw [absorbLoop] at h
    split at h
    · cases h
    · next hcond =>
      cases h
      rw [absorbLoop, if_neg]
      rw [hroom]
      exact hcond
  | succ fuel ih =>
    rw [absorbLoop] at h
    split at h
    · next hcond =>
      rw [absorbLoop, if_pos ⟨hcond.1, (hroom out).2 hcond.2⟩]
      have hrest := ih h
      -- the same globule is appended to the filled buffer
      split at hrest
      · next haddr => simpa [haddr] using hrest
      · next haddr => simpa [haddr] using hrest
    · next hcond =>
      cases h
      rw [absorbLoop, if_neg]
      rw [hroom]
      exact hcond

/-- A loop that takes up `n` more goes on like one with a buffer of its own. -/
theorem absorbLoop_add {m n : Nat} (h : absorbLoop s o m fuel head [] = some (head', out))
    {head'' : Nat} (h' : absorbLoop s o n fuel' head' [] = some (head'', out')) :
    absorbLoop s o (m + n : Nat) (fuel + fuel') head [] = some (head'', out ++ out') := by
  have hmn : (m : Int) ≤ (m + n : Nat) := Int.ofNat_le.2 (Nat.le_add_right m n)
  apply absorbLoop_trans hmn h
  rcases absorbLoop_stop h with hend | hfull
  · -- nothing is left
    subst hend
    rw [absorbLoop_systole, Option.some_inj, Prod.mk.injEq] at h'
    obtain ⟨rfl, rfl⟩ := h'
    rw [List.append_nil]
    exact absorbLoop_systole
  · have hlen : (out.length : Int) = m :=
      Int.le_antisymm (absorbLoop_length_le h (Int.natCast_nonneg m)) hfull
    have hrest := absorbLoop_append out h'
    rw [hlen, List.append_nil] at hrest
    rw [Int.natCast_add]
    exact hrest

/-- Inside the ring, an absorb of up to `m` globules and one of up to `n` hand out what one absorb of up to
`m + n` does, leave the state that it leaves, and change nothing but the read head of the organ. -/
theorem absorb_in_pieces (hin : s.InRing) (ho : o.toNat < maxOrgans) (hfuel : s.currentCapacity ≤ fuel)
    (m n : Nat) :
    ∃ t u out out' head head', unitedBusAbsorb fuel s o m = some (t, out) ∧
      unitedBusAbsorb fuel t o n = some (u, out') ∧
      unitedBusAbsorb fuel s o (m + n : Nat) = some (u, out ++ out') ∧
      t = s.setHead ⟨o.toNat, ho⟩ head ∧ u = s.setHead ⟨o.toNat, ho⟩ head' := by
  obtain ⟨slots, hw, hlen⟩ := exists_walk hin.systole_lt (s.organReadHeads ⟨o.toNat, ho⟩)
  have hslots : slots.length ≤ fuel := Nat.le_trans hlen hfuel
  have hreturns : ∀ k : Nat, (absorbLoop s o k fuel (s.organReadHeads ⟨o.toNat, ho⟩) []).isSome := fun k =>
    absorbLoop_isSome hw hslots
  obtain ⟨⟨head, out⟩, hfirst⟩ := Option.isSome_iff_exists.1 (hreturns m)
  obtain ⟨pre, post, rfl, hpost, -⟩ := absorbLoop_walk hw hfirst
  rw [List.length_append] at hslots
  -- the second absorb starts with what is left of the window
  have hgoesOn : (absorbLoop s o n fuel head []).isSome :=
    absorbLoop_isSome hpost (Nat.le_trans (Nat.le_add_left ..) hslots)
  obtain ⟨⟨head', out'⟩, hsecond⟩ := Option.isSome_iff_exists.1 hgoesOn
  have hboth := absorbLoop_add hfirst hsecond
  obtain ⟨r, hr⟩ := Option.isSome_iff_exists.1 (hreturns (m + n))
  rw [absorbLoop_mono (Nat.le_add_right fuel fuel) hr, Option.some_inj] at hboth
  subst hboth
  refine ⟨_, _, out, out', head, head', ?_, ?_, ?_, rfl, rfl⟩
  · rw [unitedBusAbsorb, dif_pos ho, hfirst]
    rfl
  · rw [unitedBusAbsorb, dif_pos ho, setHead_self, absorbLoop_setHead, hsecond, Option.map_some,
      setHead_setHead]
  · rw [unitedBusAbsorb, dif_pos ho, hr]
    rfl

/-- In the ring that has gone around, the immune system takes one globule, and then two from the other side. -/
theorem wrappedRing_absorb_in_pieces :
    ∃ t u out out' head head', unitedBusAbsorb 1024 wrappedRing organImmune (1 : Nat) = some (t, out) ∧
      unitedBusAbsorb 1024 t organImmune (2 : Nat) = some (u, out') ∧
      unitedBusAbsorb 1024 wrappedRing organImmune (1 + 2 : Nat) = some (u, out ++ out') ∧
      t = wrappedRing.setHead 2 head ∧ u = wrappedRing.setHead 2 head' ∧
      (out ++ out').map Globule.globuleId = [1020, 1022, 0] := by
  obtain ⟨t, u, out, out', head, head', hfirst, hsecond, hboth, ht, hu⟩ :=
    absorb_in_pieces wrappedRing_inRing (o := organImmune) (by decide) (Nat.le_refl 1024) 1 2
  refine ⟨t, u, out, out', head, head', hfirst, hsecond, hboth, ht, hu, ?_⟩
  have hids : (unitedBusAbsorb 1024 wrappedRing organImmune (1 + 2 : Nat)).map (·.2.map Globule.globuleId) =
      some [1020, 1022, 0] := by decide +kernel
  rw [hboth] at hids
  exact Option.some.inj hids

end Draining

end OperatingOrganism.UnitedBus

import OperatingOrganism.UnitedBus.Calls

/-!
# Refused pumps

`united_bus_pump` refuses a globule at the congestion test or at the barrier behind it. The eviction stands
between the two, but only for WHITE and YELLOW globules, which the barrier lets through, so a refused pump has
moved nothing (`pump_refused`). It counts itself and its drop, and an accepted pump counts itself only: the
counters account for every pump (`refusals_accounted`).
-/

set_option autoImplicit false

namespace OperatingOrganism.UnitedBus

open OperatingOrganism.Execution

/-- The call pumps a globule and gets 0 back. -/
def acceptedPump (s : Bus) (a : BusOp × List Globule) : Bool :=
  match a.1.pumped with
  | some g => (unitedBusPump s g).2 == 0
  | none => false

/-- The counters agree with a number of accepted pumps. -/
def Bus.Accounted (s : Bus) (accepted : Nat) : Prop :=
  s.health.totalPumps = u32 (s.health.drops + accepted)

section Refusals

variable {s t : Bus} {g : Globule}

/-- A refused pump counts itself and one drop, and leaves everything else as it is. -/
theorem pump_refused (h : (unitedBusPump s g).2 = -1 ∨ (unitedBusPump s g).2 = -2) :
    (unitedBusPump s g).1 =
      { s with health := ⟨u32 (s.health.drops + 1), u32 (s.health.totalPumps + 1)⟩ } := by
  have hnot : ¬ s.accepts g := by
    intro hacc
    rw [(pump_of_accepts hacc).1] at h
    exact absurd h (by decide)
  rw [(pump_of_not_accepts hnot).2]
  rfl

/-- The counters after an accepted pump. -/
theorem pump_health_of_accepts (h : s.accepts g) :
    (unitedBusPump s g).1.health = ⟨s.health.drops, u32 (s.health.totalPumps + 1)⟩ := by
  rw [pump_eq_of_accepts h]
  -- the eviction does not touch the counters
  by_cases hc : s.congested
  · rw [if_pos hc]
    rfl
  · rw [if_neg hc]
    rfl

/-- One pump. -/
theorem Bus.Accounted.pump {n : Nat} (h : s.Accounted n) (g : Globule) :
    (unitedBusPump s g).1.Accounted (n + ((unitedBusPump s g).2 == 0).toNat) := by
  rw [Bus.Accounted, u32] at h
  by_cases hacc : s.accepts g
  · rw [(pump_of_accepts hacc).1, Bus.Accounted, pump_health_of_accepts hacc, u32, u32]
    dsimp only
    rw [h]
    simp [Nat.add_assoc]
  · obtain ⟨hcode, hstate⟩ := pump_of_not_accepts hacc
    rw [beq_eq_false_iff_ne.2 hcode, hstate, Bus.Accounted]
    change u32 (s.health.totalPumps + 1) = u32 (u32 (s.health.drops + 1) + (n + 0))
    rw [u32, u32, u32]
    omega

/-- A call that leaves the counters alone. -/
theorem Bus.Accounted.idle {n : Nat} {a : BusOp × List Globule} (h : s.Accounted n)
    (hpumped : a.1.pumped = none) (hhealth : t.health = s.health) :
    t.Accounted (n + (acceptedPump s a).toNat) := by
  have e : acceptedPump s a = false := by
    rw [acceptedPump, hpumped]
  rw [e, Bool.toNat_false, Nat.add_zero, Bus.Accounted, hhealth]
  exact h

/-- One call. -/
theorem Bus.Accounted.step {n : Nat} {a : BusOp × List Globule} (h : s.Accounted n) (hst : BusStep s a t) :
    t.Accounted (n + (acceptedPump s a).toNat) := by
  obtain ⟨op, out⟩ := a
  rcases busStep_cases hst with ⟨rfl, -, rfl⟩ | ⟨g, hg, -, rfl⟩ | ⟨o, k, fuel, rfl, habs⟩ | ⟨rfl, -, rfl⟩
  · exact h.idle rfl rfl
  · have e : acceptedPump s (op, out) = ((unitedBusPump s g).2 == 0) := by
      rw [acceptedPump, hg]
    rw [e]
    exact h.pump g
  · -- an absorb changes the read heads only
    obtain ⟨heads, rfl, -⟩ := absorb_eq habs
    exact h.idle rfl rfl
  · obtain ⟨m, -, e⟩ := gc_eq s
    rw [e]
    exact h.idle rfl rfl

/-- In every state a refused pump only counts itself and one drop; and after every execution from boot the
pumps counted are the drops and the accepted pumps, modulo 2 ^ 32. -/
theorem refusals_accounted :
    (∀ (s : Bus) (g : Globule), (unitedBusPump s g).2 = -1 ∨ (unitedBusPump s g).2 = -2 →
      (unitedBusPump s g).1 =
        { s with health := ⟨u32 (s.health.drops + 1), u32 (s.health.totalPumps + 1)⟩ }) ∧
    ∀ tr : List ((BusOp × List Globule) × Bus), Exec BusStep Bus.boot tr →
      (final Bus.boot tr).Accounted (countSteps acceptedPump Bus.boot tr) := by
  constructor
  · intro s g
    exact pump_refused
  · intro tr htr
    have hboot : Bus.boot.Accounted 0 := rfl
    have hcount := htr.counted (I := Bus.Accounted) (c := acceptedPump) hboot fun _ _ _ _ hn hst => hn.step hst
    rw [Nat.zero_add] at hcount
    exact hcount

end Refusals

end OperatingOrganism.UnitedBus

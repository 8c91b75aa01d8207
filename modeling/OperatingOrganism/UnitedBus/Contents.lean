import OperatingOrganism.UnitedBus.Calls

/-!
# What the slots of the bus hold

A property of globules that does not look at the identifier is kept by the whole slot array, read or unread,
as long as only globules with the property are pumped. What an absorb hands out has it then
(`BusStep.out_holds`).
-/

set_option autoImplicit false

namespace OperatingOrganism.UnitedBus

open OperatingOrganism.Execution

/-- Every slot holds a globule with `P`. -/
def Bus.Holds (P : Globule → Prop) (s : Bus) : Prop := ∀ j, P (s.bloodStream j)

section

variable {P : Globule → Prop} {s t : Bus} {g : Globule}

theorem PumpedState.holds (hid : ∀ n, P g → P { g with globuleId := n }) (h : PumpedState s g t)
    (hs : s.Holds P) (hg : P g) : t.Holds P := by
  intro j
  rw [h.stream]
  by_cases hj : j = s.heartSystole
  · subst hj
    rw [Function.update_self]
    exact hid _ hg
  · rw [Function.update_of_ne hj]
    exact hs j

/-- A pump keeps the property if the globule has it. -/
theorem Bus.Holds.pump (hid : ∀ n, P g → P { g with globuleId := n }) (hs : s.Holds P) (hg : P g) :
    (unitedBusPump s g).1.Holds P :=
  pump_preserves g (fun hs => hs) (fun _ hp => hp.holds hid hs hg) hs

theorem absorb_holds {o : UInt8} {n : Int} {fuel : Nat} {out : List Globule} (hs : s.Holds P)
    (h : unitedBusAbsorb fuel s o n = some (t, out)) : t.Holds P ∧ ∀ g ∈ out, P g := by
  constructor
  · obtain ⟨heads, rfl, -⟩ := absorb_eq h
    exact hs
  · intro g hg
    obtain ⟨j, rfl, -⟩ := mem_absorb h g hg
    exact hs j

/-- A call keeps the property if what it pumps has it, and hands out nothing without it. -/
theorem BusStep.holds (hid : ∀ g n, P g → P { g with globuleId := n }) {op : BusOp} {out : List Globule}
    (hs : s.Holds P) (hpumped : ∀ g, op.pumped = some g → P g) (h : BusStep s (op, out) t) :
    t.Holds P ∧ ∀ g ∈ out, P g := by
  have hnothing : ∀ g ∈ ([] : List Globule), P g := by
    intro g hg
    cases hg
  rcases busStep_cases h with ⟨-, rfl, rfl⟩ | ⟨g, hg, rfl, rfl⟩ | ⟨o, n, fuel, -, habs⟩ | ⟨-, rfl, rfl⟩
  · exact ⟨hs, hnothing⟩
  · exact ⟨hs.pump (hid g) (hpumped g hg), hnothing⟩
  · exact absorb_holds hs habs
  · obtain ⟨m, -, e⟩ := gc_eq s
    rw [e]
    exact ⟨hs, hnothing⟩

end

end OperatingOrganism.UnitedBus

import OperatingOrganism.UnitedBus.Window

/-!
# The blood-brain barrier

The pump refuses RED globules for the cortex that do not come from the sensory organ. It looks at the
target organ 0 only, while an absorb also hands out what is addressed to everybody: a broadcast passes.

The invariant is about the whole slot array, read or unread, because the read head of the cortex can be
thrown back over any of it. Executions without such a broadcast keep it (`cortex_only_senses`), and a
broadcast that was accepted waits in the window of the cortex (`BreaksBarrier.absorbed`).
-/

set_option autoImplicit false

namespace OperatingOrganism.UnitedBus

open OperatingOrganism.Execution OperatingOrganism.OrbitWalk

/-- A RED globule that the senses did not send. -/
def Globule.foreign (g : Globule) : Prop := g.type = .red ∧ g.sourceOrgan ≠ organSensory

instance (g : Globule) : Decidable g.foreign := inferInstanceAs (Decidable (_ ∧ _))

/-- A foreign globule that the pump accepts under the address of everybody. -/
def BreaksBarrier (s : Bus) (g : Globule) : Prop :=
  g.foreign ∧ g.targetOrgan = organBroadcast ∧ ¬ s.congested

/-- The call does not send a foreign globule to everybody, unless the ring is full and drops it. -/
def KeepsBarrier (s : Bus) (a : BusOp × List Globule) : Prop :=
  ∀ g, a.1.pumped = some g → ¬ BreaksBarrier s g

/-- No slot holds a foreign globule that the cortex would take. -/
def Bus.Screened (s : Bus) : Prop :=
  ∀ j, (s.bloodStream j).foreign → (s.bloodStream j).addressedTo organCortex = false

theorem addressedTo_cortex_cases {g : Globule} (h : g.addressedTo organCortex = true) :
    g.targetOrgan = organBroadcast ∨ g.targetOrgan = organCortex := by
  rcases Bool.or_eq_true_iff.1 h with h | h
  · exact .inl (beq_iff_eq.1 h)
  · exact .inr (beq_iff_eq.1 h)

theorem boot_screened : Bus.boot.Screened := by
  rintro j ⟨hred, -⟩
  cases hred

/-- An accepted pump keeps the array screened unless it breaks the barrier. -/
theorem PumpedState.screened {s t : Bus} {g : Globule} (h : PumpedState s g t) (ha : s.accepts g)
    (hk : ¬ BreaksBarrier s g) (hs : s.Screened) : t.Screened := by
  intro j
  rw [h.stream]
  by_cases hj : j = s.heartSystole
  · subst hj
    rw [Function.update_self]
    intro hforeign
    cases haddr : Globule.addressedTo { g with globuleId := s.nextGlobuleId } organCortex with
    | false => rfl
    | true =>
      have hcong : ¬ s.congested := by
        intro hcong
        rcases ha.1 hcong with hp | hp <;> cases hforeign.1.symm.trans hp
      rcases addressedTo_cortex_cases haddr with hall | hcortex
      · exact absurd ⟨hforeign, hall, hcong⟩ hk
      · -- addressed to the cortex itself: this is what the filter refuses
        exact absurd ⟨hcortex, hforeign⟩ ha.2
  · rw [Function.update_of_ne hj]
    exact hs j

/-- What the cortex gets from a call contains nothing foreign. -/
def CortexSenses (a : BusOp × List Globule) : Prop :=
  ∀ n, a.1 = .absorb organCortex n → ∀ g ∈ a.2, ¬ g.foreign

/-- A call that keeps the barrier keeps the array screened. -/
theorem BusStep.screened {s t : Bus} {a : BusOp × List Globule} (hs : s.Screened)
    (hk : KeepsBarrier s a) (h : BusStep s a t) : t.Screened := by
  obtain ⟨op, out⟩ := a
  rcases busStep_cases h with ⟨-, -, rfl⟩ | ⟨g, hg, -, rfl⟩ | ⟨o, n, fuel, -, habs⟩ | ⟨-, -, rfl⟩
  · exact hs
  · exact pump_preserves g (fun hs => hs) (fun ha hp => hp.screened ha (hk g hg) hs) hs
  · obtain ⟨heads, rfl, -⟩ := absorb_eq habs
    exact hs
  · obtain ⟨m, -, e⟩ := gc_eq s
    rw [e]
    exact hs

/-- A call on a screened array gives the cortex nothing foreign. -/
theorem BusStep.cortexSenses {s t : Bus} {a : BusOp × List Globule} (hs : s.Screened)
    (h : BusStep s a t) : CortexSenses a := by
  obtain ⟨op, out⟩ := a
  obtain ⟨fuel, h⟩ := h
  intro n hn
  cases hn
  intro g hg hforeign
  obtain ⟨j, rfl, haddr⟩ := mem_absorb h g hg
  rw [hs j hforeign] at haddr
  cases haddr

/-- The cortex absorbs RED globules of the sensory organ only, whatever the senders wrote as target. -/
def OnlySenses (tr : List ((BusOp × List Globule) × Bus)) : Prop :=
  ∀ e ∈ tr, ∀ n, e.1.1 = .absorb organCortex n →
    ∀ g ∈ e.1.2, ¬ (g.type = .red ∧ g.sourceOrgan ≠ organSensory)

/-- Over every execution from boot in which no foreign globule is sent to everybody through a ring
with free space, the cortex gets nothing foreign. -/
theorem cortex_only_senses {tr : List ((BusOp × List Globule) × Bus)}
    (h : Exec BusStep Bus.boot tr) (hk : AllSteps KeepsBarrier Bus.boot tr) : OnlySenses tr :=
  h.forall_labels (h.allStates boot_screened hk fun _ _ _ hs hk hst => hst.screened hs hk)
    fun _ _ _ hs hst => hst.cortexSenses hs

/-! ## The broadcast that passes -/

/-- Text of the main program, sent to everybody. -/
def somaBroadcast : Globule := broadcastGlobule .red organSoma 0

/-- The same text, addressed to the cortex. -/
def somaText : Globule := { somaBroadcast with targetOrgan := organCortex }

/-- The senses send to everybody, the main program to the cortex, and the cortex absorbs. -/
def barrierTrace : List ((BusOp × List Globule) × Bus) :=
  [((.pump { somaBroadcast with sourceOrgan := organSensory }, []),
      pumpAll Bus.boot [{ somaBroadcast with sourceOrgan := organSensory }]),
    ((.pump somaText, []),
      pumpAll Bus.boot [{ somaBroadcast with sourceOrgan := organSensory }, somaText]),
    ((.absorb organCortex 2,
        [{ somaBroadcast with sourceOrgan := organSensory, globuleId := 1 }]),
      (pumpAll Bus.boot [{ somaBroadcast with sourceOrgan := organSensory }, somaText]).setHead 0 1)]

theorem exec_barrierTrace : Exec BusStep Bus.boot barrierTrace :=
  ⟨⟨0, rfl⟩, ⟨0, rfl⟩, ⟨1, rfl⟩, trivial⟩

theorem barrierTrace_only_senses : OnlySenses barrierTrace := by
  refine cortex_only_senses exec_barrierTrace ⟨?_, ?_, ?_, trivial⟩
  · rintro g hg ⟨hforeign, -⟩
    cases hg
    exact hforeign.2 rfl
  · rintro g hg ⟨-, htarget, -⟩
    cases hg
    exact absurd htarget (by decide)
  · intro g hg
    cases hg

/-- A broadcast that breaks the barrier is accepted. -/
theorem BreaksBarrier.accepts {s : Bus} {g : Globule} (h : BreaksBarrier s g) : s.accepts g := by
  obtain ⟨-, htarget, hroom⟩ := h
  refine ⟨fun hcong => absurd hcong hroom, ?_⟩
  rintro ⟨hcortex, -⟩
  exact absurd (htarget.symm.trans hcortex) (by decide)

/-- Whenever the slot of such a broadcast is in the window of the cortex, an absorb of the window
hands a foreign globule to the cortex. -/
theorem BreaksBarrier.absorbed {s : Bus} {g : Globule} (h : BreaksBarrier s g) {slots : List Nat}
    (hu : (unitedBusPump s g).1.Unread 0 slots) (hmem : s.heartSystole ∈ slots) :
    ∃ out t, BusStep (unitedBusPump s g).1 (.absorb organCortex slots.length, out) t ∧
      s.stamped g ∈ out := by
  have hp := (pump_of_accepts h.accepts).2
  have hslot : (unitedBusPump s g).1.bloodStream s.heartSystole = s.stamped g := by
    rw [hp.stream, Function.update_self]
    rfl
  refine ⟨_, _, busStep_absorb_all (i := 0) rfl hu (Int.le_refl _), List.mem_filter.2 ⟨?_, ?_⟩⟩
  · exact List.mem_map.2 ⟨_, hmem, hslot⟩
  · exact Bool.or_eq_true_iff.2 (.inl (beq_iff_eq.2 h.2.1))

/-- The broadcast of the main program reaches the cortex. -/
theorem exists_not_only_senses : ∃ tr, Exec BusStep Bus.boot tr ∧ ¬ OnlySenses tr := by
  refine ⟨[((.pump somaBroadcast, []), pumpAll Bus.boot [somaBroadcast]),
    ((.absorb organCortex 1, [{ somaBroadcast with globuleId := 1 }]),
      (pumpAll Bus.boot [somaBroadcast]).setHead 0 1)], ⟨⟨0, rfl⟩, ⟨1, rfl⟩, trivial⟩, ?_⟩
  intro h
  exact h _ (List.mem_cons_of_mem _ List.mem_cons_self) 1 rfl _ List.mem_cons_self
    ⟨rfl, by decide⟩

end OperatingOrganism.UnitedBus

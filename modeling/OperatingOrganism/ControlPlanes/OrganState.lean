import OperatingOrganism.UnitedBus.Bus
import Mathlib.Data.List.Forall2

/-!
# The organ state registry

The snapshot table of `oo_organ_state.c` and the three figures that the control planes read from it: the
mean health, the worst health outside the vital chain, and whether the vital chain is alive.

`Registry.Sicker` compares two tables with the same organs. All three figures are monotone for it,
because each is computed by a loop whose accumulators stay ordered on ordered tables.
-/

set_option autoImplicit false

namespace OperatingOrganism.ControlPlanes

open OperatingOrganism.Execution OperatingOrganism.UnitedBus

/-- `OO_ORGAN_COUNT` -/
def organCount : Nat := 17

/-- The organs of `oo_organ_t`. -/
abbrev Organ := Fin organCount

instance : NeZero organCount := ⟨Nat.succ_ne_zero 16⟩

def ooOrganUnited : Organ := 0
def ooOrganKernel : Organ := 1
def ooOrganMemory : Organ := 2
def ooOrganReflex : Organ := 7
def ooOrganVital : Organ := 14
def ooOrganCortex : Organ := 16

/-- The table `chain` of `organ_state_vital_chain_alive`. -/
def vitalChain : List Organ := [ooOrganUnited, ooOrganKernel, ooOrganMemory, ooOrganReflex, ooOrganVital]

instance (i : Organ) : Decidable (i ∈ vitalChain) := inferInstanceAs (Decidable (_ ∈ _))

/-- `oo_organ_snapshot_t`. -/
structure OrganSnapshot where
  present : Bool
  health : UInt8
  mode : UInt8
  heartbeat : UInt32
  deriving DecidableEq, Repr

/-- An entry of the zero-initialised table. -/
def OrganSnapshot.zero : OrganSnapshot := ⟨false, 0, 0, 0⟩

/-- `g_registry` and `g_inited`. Before the first initialisation the table is as the loader left it. -/
structure Registry where
  snapshots : Organ → OrganSnapshot
  inited : Bool
  blank : inited = false → snapshots = fun _ => OrganSnapshot.zero

/-- The static initialisers. -/
def Registry.boot : Registry := ⟨fun _ => OrganSnapshot.zero, false, fun _ => rfl⟩

/-- `organ_state_init`: does nothing from the second call on. -/
def organStateInit (r : Registry) : Registry :=
  if r.inited then r else ⟨fun _ => OrganSnapshot.zero, true, fun _ => rfl⟩

/-- `if (health > 100) health = 100;` -/
def clampHealth (health : UInt8) : UInt8 := if health > 100 then 100 else health

/-- The table write of `organ_state_publish`. -/
def Registry.record (r : Registry) (organ : Organ) (health mode : UInt8) : Registry where
  snapshots := Function.update (organStateInit r).snapshots organ
    { present := true
      health := health
      mode := mode
      heartbeat := ((organStateInit r).snapshots organ).heartbeat + 1 }
  inited := true
  blank h := by cases h

/-- The signal code of a published snapshot. -/
def publishSignal (organ : Organ) (health mode : UInt8) : UInt32 :=
  (UInt32.ofNat organ <<< 16) ||| (mode.toUInt32 <<< 8) ||| health.toUInt32

/-- `organ_state_publish`: an identifier outside the table only initialises it. -/
def organStatePublish (r : Registry) (bus : Bus) (organ : Int) (health mode : UInt8) :
    Registry × Bus :=
  if h : 0 ≤ organ ∧ organ.toNat < organCount then
    let i : Organ := ⟨organ.toNat, h.2⟩
    let health := clampHealth health
    (r.record i health mode,
      (unitedBusBroadcastYellow bus (UInt8.ofNat i) (publishSignal i health mode)).1)
  else (organStateInit r, bus)

/-- `organ_state_get`. -/
def organStateGet (r : Registry) (organ : Int) : Option OrganSnapshot :=
  if h : 0 ≤ organ ∧ organ.toNat < organCount then some (r.snapshots ⟨organ.toNat, h.2⟩) else none

/-- The body of the loop of `organ_state_aggregate_health`, on `(sum, n)`. -/
def aggregateStep (r : Registry) (acc : Nat × Nat) (i : Organ) : Nat × Nat :=
  if (r.snapshots i).present then (acc.1 + (r.snapshots i).health.toNat, acc.2 + 1) else acc

/-- `sum` and `n` after the loop of `organ_state_aggregate_health`. At most 17 terms below 256 do not
wrap in `uint32_t`. -/
def Registry.sums (r : Registry) : Nat × Nat :=
  (List.finRange organCount).foldl (aggregateStep r) (0, 0)

/-- `organ_state_aggregate_health`. -/
def organStateAggregateHealth (r : Registry) : UInt8 :=
  let acc := (organStateInit r).sums
  if acc.2 = 0 then 100 else UInt8.ofNat (acc.1 / acc.2)

/-- The body of the loop of `organ_state_worst_nonvital_health`. -/
def worstStep (r : Registry) (worst : UInt8) (i : Organ) : UInt8 :=
  if i ∈ vitalChain then worst
  else if (r.snapshots i).present ∧ (r.snapshots i).health < worst then (r.snapshots i).health
  else worst

/-- `organ_state_worst_nonvital_health`. -/
def organStateWorstNonvitalHealth (r : Registry) : UInt8 :=
  (List.finRange organCount).foldl (worstStep (organStateInit r)) 100

/-- `organ_state_vital_chain_alive`. -/
def organStateVitalChainAlive (r : Registry) : Bool :=
  vitalChain.all fun i =>
    !(((organStateInit r).snapshots i).present && ((organStateInit r).snapshots i).health == 0)

@[simp] theorem organStateInit_snapshots (r : Registry) :
    (organStateInit r).snapshots = r.snapshots := by
  rw [organStateInit]
  cases h : r.inited with
  | true => rfl
  | false => exact (r.blank h).symm

@[simp] theorem organStateInit_inited (r : Registry) : (organStateInit r).inited = true := by
  rw [organStateInit]
  cases h : r.inited with
  | true => exact h
  | false => rfl

/-- An initialisation changes no figure that is read from the table. -/
theorem organStateInit_idem (r : Registry) : organStateInit (organStateInit r) = organStateInit r :=
  if_pos (organStateInit_inited r)

/-! ## Sicker registries -/

/-- The same organs are present in both tables, and each is at most as healthy in the first. -/
structure Registry.Sicker (r₁ r₂ : Registry) : Prop where
  present : ∀ i, (r₁.snapshots i).present = (r₂.snapshots i).present
  health : ∀ i, (r₁.snapshots i).present = true →
    (r₁.snapshots i).health ≤ (r₂.snapshots i).health

theorem Registry.Sicker.refl (r : Registry) : r.Sicker r :=
  ⟨fun _ => rfl, fun _ _ => UInt8.le_refl _⟩

theorem Registry.Sicker.init {r₁ r₂ : Registry} (h : r₁.Sicker r₂) :
    (organStateInit r₁).Sicker (organStateInit r₂) := by
  constructor
  · simpa using h.present
  · simpa using h.health

/-- Clamping keeps the order of two published healths. -/
theorem clampHealth_mono {h₁ h₂ : UInt8} (h : h₁ ≤ h₂) : clampHealth h₁ ≤ clampHealth h₂ := by
  simp only [clampHealth]
  grind

/-- Publishing for the same organ in both tables keeps them comparable. -/
theorem Registry.Sicker.record {r₁ r₂ : Registry} (h : r₁.Sicker r₂) (organ : Organ)
    {h₁ h₂ : UInt8} (hle : h₁ ≤ h₂) (m₁ m₂ : UInt8) :
    (r₁.record organ h₁ m₁).Sicker (r₂.record organ h₂ m₂) := by
  constructor
  · intro i
    by_cases hi : i = organ
    · subst hi
      simp [Registry.record]
    · simpa [Registry.record, hi] using h.present i
  · intro i hp
    by_cases hi : i = organ
    · subst hi
      simpa [Registry.record] using hle
    · simp only [Registry.record, Function.update_of_ne hi, organStateInit_snapshots] at hp ⊢
      exact h.health i hp

/-- The two registries after a published health stay comparable. -/
theorem Registry.Sicker.publish {r₁ r₂ : Registry} (h : r₁.Sicker r₂) (b₁ b₂ : Bus) (organ : Int)
    {h₁ h₂ : UInt8} (hle : h₁ ≤ h₂) (m₁ m₂ : UInt8) :
    (organStatePublish r₁ b₁ organ h₁ m₁).1.Sicker (organStatePublish r₂ b₂ organ h₂ m₂).1 := by
  simp only [organStatePublish]
  split
  · exact h.record _ (clampHealth_mono hle) m₁ m₂
  · exact h.init

/-- A loop over the organs keeps every relation of the accumulators that its body keeps. -/
theorem foldl_organs {α β : Type} {f : α → Organ → α} {g : β → Organ → β} (R : α → β → Prop)
    (hstep : ∀ a b i, R a b → R (f a i) (g b i)) {a : α} {b : β} (h : R a b) :
    R ((List.finRange organCount).foldl f a) ((List.finRange organCount).foldl g b) := by
  refine foldl_lockstep R Eq ?_ (List.forall₂_eq_eq_eq ▸ rfl) h
  rintro s t i _ hR rfl
  exact hstep s t i hR

section Monotone

variable {r₁ r₂ : Registry}

/-- The sums are ordered, the counts agree, and the mean is at most 255. -/
theorem sums_mono (h : r₁.Sicker r₂) :
    r₁.sums.1 ≤ r₂.sums.1 ∧ r₁.sums.2 = r₂.sums.2 ∧ r₂.sums.1 ≤ 255 * r₂.sums.2 := by
  apply foldl_organs (fun a b : Nat × Nat => a.1 ≤ b.1 ∧ a.2 = b.2 ∧ b.1 ≤ 255 * b.2)
  · rintro a b i ⟨hsum, hn, hmax⟩
    have hp := h.present i
    have hh := h.health i
    have hlt := UInt8.toNat_lt (r₂.snapshots i).health
    simp only [aggregateStep]
    rw [hp] at hh ⊢
    split
    · next hpres =>
      have hle := UInt8.le_iff_toNat_le.1 (hh hpres)
      exact ⟨Nat.add_le_add hsum hle, congrArg (· + 1) hn, by dsimp only; omega⟩
    · exact ⟨hsum, hn, hmax⟩
  · exact ⟨Nat.le_refl _, rfl, Nat.zero_le _⟩

/-- The mean health is monotone. -/
theorem aggregateHealth_mono (h : r₁.Sicker r₂) :
    organStateAggregateHealth r₁ ≤ organStateAggregateHealth r₂ := by
  obtain ⟨hsum, hn, hmax⟩ := sums_mono h.init
  unfold organStateAggregateHealth
  dsimp only
  rw [hn]
  split
  · exact UInt8.le_refl _
  · have hdiv := Nat.div_le_div_right (c := (organStateInit r₂).sums.2) hsum
    have hlt : (organStateInit r₂).sums.1 / (organStateInit r₂).sums.2 ≤ 255 :=
      Nat.div_le_of_le_mul (by rw [Nat.mul_comm]; exact hmax)
    rw [UInt8.le_iff_toNat_le, UInt8.toNat_ofNat', UInt8.toNat_ofNat',
      Nat.mod_eq_of_lt (Nat.lt_succ_of_le hlt),
      Nat.mod_eq_of_lt (Nat.lt_succ_of_le (Nat.le_trans hdiv hlt))]
    exact hdiv

/-- The worst health outside the vital chain is monotone. -/
theorem worstNonvitalHealth_mono (h : r₁.Sicker r₂) :
    organStateWorstNonvitalHealth r₁ ≤ organStateWorstNonvitalHealth r₂ := by
  apply foldl_organs (fun a b : UInt8 => a ≤ b)
  · intro a b i hab
    have hp := h.init.present i
    have hh := h.init.health i
    simp only [worstStep]
    rw [hp] at hh ⊢
    grind
  · exact UInt8.le_refl _

/-- A broken vital chain is broken in every sicker registry. -/
theorem vitalChainAlive_mono (h : r₁.Sicker r₂) (halive : organStateVitalChainAlive r₁ = true) :
    organStateVitalChainAlive r₂ = true := by
  rw [organStateVitalChainAlive] at halive ⊢
  rw [List.all_eq_true] at halive ⊢
  intro i hi
  have hi := halive i hi
  have hp := h.init.present i
  have hh := h.init.health i
  grind

end Monotone

end OperatingOrganism.ControlPlanes

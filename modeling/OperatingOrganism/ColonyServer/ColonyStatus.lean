import OperatingOrganism.ColonyServer.ThreatRegistry
import OperatingOrganism.Library.WrappingArithmetic

/-!
# The status of the colony

`get_colony_status` reports the time since the last heartbeat, of the organism for which it is the longest. The time
of a heartbeat is what the organism sent. Where it is a second or more in the future, the time since then is negative,
and as an unsigned number larger than every other: so the lag is right if and only if there is no such organism
(`lag_exact_iff`).
-/

set_option autoImplicit false

namespace OperatingOrganism.ColonyServer

open OperatingOrganism.WrappingArithmetic

/-! ## The status -/

/-- `ColonyStatus`, with a type of its own for the floating point number. -/
structure ColonyStatus (F : Type) where
  aliveOrganisms : Nat
  totalOrganismsSeen : Nat
  threatCount : Nat
  criticalThreats : List String
  viableMutations : List String
  /-- max seconds since last heartbeat -/
  synchronizationLagS : UInt64
  fossilSizeMb : F
  lastUpdated : DateTime

/-- The orders in which the maps of one call are iterated. -/
structure StatusOrder where
  organisms : OrganismRegistry → List LiveOrganism
  threats : ThreatMap → List AggregatedThreat
  organisms_perm : ∀ m, (organisms m).Perm (m.entries.map Sigma.snd)
  threats_perm : ∀ m, (threats m).Perm (m.entries.map Sigma.snd)

/-- Each organism, with the clock as it is read for its lag. -/
def readings (clock : Nat → DateTime) (organisms : List LiveOrganism) : List (DateTime × LiveOrganism) :=
  organisms.mapIdx fun i o => (clock i, o)

/-- `(Utc::now() - o.last_heartbeat).num_seconds() as u64` -/
def lagS (r : DateTime × LiveOrganism) : UInt64 := UInt64.ofInt (r.1.numSecondsSince r.2.lastHeartbeat)

/-- `get_colony_status`, from what `get_organisms`, `get_threat_registry` and `compute_fossil_size` return. -/
def getColonyStatus {F : Type} (order : StatusOrder) (clock : Nat → DateTime) (organisms : OrganismRegistry)
    (threats : Except StorageError ThreatMap) (fossilSize : Except StorageError F) :
    Except StorageError (ColonyStatus F) := do
  let threats ← threats
  let values := order.organisms organisms
  let maxLag := ((readings clock values).map lagS).max?.getD 0
  let fossilSizeMb ← fossilSize
  .ok
    { aliveOrganisms := (values.filter LiveOrganism.isAlive).length
      totalOrganismsSeen := organisms.entries.length
      threatCount := threats.entries.length
      criticalThreats := criticalThreats (order.threats threats)
      viableMutations := []
      synchronizationLagS := maxLag
      fossilSizeMb := fossilSizeMb
      lastUpdated := clock values.length }

/-! ## The lag -/

/-- The time since the last heartbeat in whole seconds, and 0 if it is in the future. -/
def secondsSinceHeartbeat (r : DateTime × LiveOrganism) : Nat :=
  (r.1.nanos - r.2.lastHeartbeat.nanos).toNat / 1000000000

/-- What is asked of the lag. -/
def LagExact (rs : List (DateTime × LiveOrganism)) (lag : UInt64) : Prop :=
  lag.toNat = (rs.map secondsSinceHeartbeat).max?.getD 0

theorem toNat_max (a b : UInt64) : (max a b).toNat = max a.toNat b.toNat := by
  rw [show max a b = if a ≤ b then b else a from rfl, Nat.max_def]
  simp only [UInt64.le_iff_toNat_le]
  split
  · rfl
  · rfl

theorem toNat_foldl_max (a : UInt64) (l : List UInt64) :
    (l.foldl max a).toNat = (l.map UInt64.toNat).foldl max a.toNat := by
  induction l generalizing a with
  | nil => rfl
  | cons b l ih =>
    rw [List.foldl_cons, ih, toNat_max]
    rfl

/-- The maximum of words is that of their values. -/
theorem toNat_maximum (l : List UInt64) : (l.max?.getD 0).toNat = (l.map UInt64.toNat).max?.getD 0 := by
  cases l with
  | nil => rfl
  | cons a l =>
    rw [List.map_cons, List.max?_cons', List.max?_cons', Option.getD_some, Option.getD_some]
    exact toNat_foldl_max a l

theorem toNat_ofInt (n : Int) : (UInt64.ofInt n).toNat = (n % 2 ^ 64).toNat := by
  have hlt : (n % 2 ^ 64).toNat < 2 ^ 64 := by omega
  rw [UInt64.ofInt, UInt64.toNat_ofNat', Nat.mod_eq_of_lt hlt]

/-- No time is 2 ^ 63 seconds back. -/
theorem secondsSinceHeartbeat_lt (r : DateTime × LiveOrganism) : secondsSinceHeartbeat r < 2 ^ 63 := by
  have hnow := r.1.lt_max
  have hlast := r.2.lastHeartbeat.min_le
  simp only [minSeconds, maxSeconds] at hnow hlast
  rw [secondsSinceHeartbeat]
  omega

/-- A lag is right unless the heartbeat is a second or more ahead. -/
theorem toNat_lagS_of_lt {r : DateTime × LiveOrganism} (h : r.2.lastHeartbeat.nanos < r.1.nanos + 1000000000) :
    (lagS r).toNat = secondsSinceHeartbeat r := by
  have hlt := secondsSinceHeartbeat_lt r
  have hseconds : r.1.numSecondsSince r.2.lastHeartbeat = secondsSinceHeartbeat r := by
    rw [DateTime.numSecondsSince, secondsSinceHeartbeat]
    by_cases hpast : r.2.lastHeartbeat.nanos ≤ r.1.nanos
    · rw [Int.tdiv_eq_ediv_of_nonneg (by omega)]
      omega
    · -- less than a second ahead
      have hneg : (r.1.nanos - r.2.lastHeartbeat.nanos).tdiv 1000000000 = 0 := by
        rw [← Int.neg_neg (r.1.nanos - _), Int.neg_tdiv, Int.tdiv_eq_ediv_of_nonneg (by omega)]
        omega
      omega
  rw [lagS, toNat_ofInt, hseconds]
  omega

/-- And it is larger than any lag then. -/
theorem le_toNat_lagS {r : DateTime × LiveOrganism} (h : ¬ r.2.lastHeartbeat.nanos < r.1.nanos + 1000000000) :
    2 ^ 63 ≤ (lagS r).toNat := by
  have hnow := r.1.min_le
  have hlast := r.2.lastHeartbeat.lt_max
  simp only [minSeconds, maxSeconds] at hnow hlast
  have hseconds : r.1.numSecondsSince r.2.lastHeartbeat =
      -((r.2.lastHeartbeat.nanos - r.1.nanos) / 1000000000) := by
    rw [DateTime.numSecondsSince, ← Int.neg_sub r.2.lastHeartbeat.nanos, Int.neg_tdiv,
      Int.tdiv_eq_ediv_of_nonneg (by omega)]
  rw [lagS, toNat_ofInt, hseconds]
  omega

/-- The lag is the longest time since a heartbeat if and only if no organism has one that is a second or more in the
future of the clock. -/
theorem lag_exact_iff {F : Type} (order : StatusOrder) (clock : Nat → DateTime) (organisms : OrganismRegistry)
    (threats : ThreatMap) (fossilSizeMb : F) :
    ∃ status, getColonyStatus order clock organisms (.ok threats) (.ok fossilSizeMb) = .ok status ∧
      (LagExact (readings clock (order.organisms organisms)) status.synchronizationLagS ↔
        ∀ r ∈ readings clock (order.organisms organisms), r.2.lastHeartbeat.nanos < r.1.nanos + 1000000000) := by
  refine ⟨_, rfl, ?_⟩
  rw [LagExact, toNat_maximum, List.map_map]
  refine (maximum_eq_iff secondsSinceHeartbeat_lt ?_ _).trans ?_
  · intro r
    by_cases h : r.2.lastHeartbeat.nanos < r.1.nanos + 1000000000
    · exact .inl (toNat_lagS_of_lt h)
    · exact .inr (le_toNat_lagS h)
  · refine forall₂_congr fun r _ => ⟨fun heq => ?_, toNat_lagS_of_lt⟩
    by_contra h
    have hlarge := le_toNat_lagS h
    have hsmall := secondsSinceHeartbeat_lt r
    rw [Function.comp_apply] at heq
    omega

/-! ## A clock that is ahead -/

/-- The maps are iterated in the order of their entries. -/
def entryOrder : StatusOrder where
  organisms m := m.entries.map Sigma.snd
  threats m := m.entries.map Sigma.snd
  organisms_perm _ := .refl _
  threats_perm _ := .refl _

/-- A heartbeat of an organism whose clock is a second ahead. -/
def skewedHeartbeat : Heartbeat where
  organismId := "OO-1"
  habitat := "lab"
  timestamp := .ofSeconds 1700000001
  state := ⟨1, "active", "strict", ⟨0, 0, 0, 0, 0⟩⟩
  immuneSignals := []
  mutations := []

/-- The live registry after it. -/
def skewedRegistry : OrganismRegistry :=
  AList.insert skewedHeartbeat.organismId (liveOrganism skewedHeartbeat) ∅

/-- The lag is 2 ^ 64 - 1 seconds then, and should be none. -/
theorem exists_lag_not_exact :
    ∃ status, getColonyStatus entryOrder (fun _ => .ofSeconds 1700000000) skewedRegistry (.ok ∅) (.ok ()) =
        .ok status ∧
      status.synchronizationLagS = 0xffffffffffffffff ∧
      ¬ LagExact (readings (fun _ => .ofSeconds 1700000000) (entryOrder.organisms skewedRegistry))
        status.synchronizationLagS := by
  refine ⟨_, rfl, by decide, ?_⟩
  rw [LagExact]
  decide

end OperatingOrganism.ColonyServer

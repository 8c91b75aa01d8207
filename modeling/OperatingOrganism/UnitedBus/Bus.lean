import OperatingOrganism.Library.Execution
import OperatingOrganism.Library.OrbitWalk
import Mathlib.Algebra.GroupWithZero.Nat
import Mathlib.Data.List.FinRange
import Mathlib.Logic.Function.Basic

/-!
# The united bus

The publish/subscribe ring of `united_bus.c`. One writer position (`heartSystole`), one position of
the oldest kept globule (`heartDiastole`) and sixteen read positions move through `bloodStream` by
`(x + 1) % currentCapacity`, and the capacity itself changes: a WHITE globule expands the ring to
`bloodVolume`, every other accepted globule contracts an expanded ring by one slot.

The static variables of the file are the fields of `Bus`. Positions and counters are natural numbers;
where a `uint32_t` operation can wrap, the wrap is written out with `u32`. The array of slots is a
function on all indices; `Bus.Bounded` in the module on reachable states shows that only its first
`bloodVolume` indices are used. Messages to `oo_print` are left out.
-/

set_option autoImplicit false

namespace OperatingOrganism.UnitedBus

open OperatingOrganism.OrbitWalk

/-- `globule_type_t`; `unset` is the value 0 of a slot that was never written. -/
inductive GlobuleType where
  | unset | red | white | yellow | gold | silver | purple
  deriving DecidableEq, Repr

/-- `globule_t`. -/
structure Globule where
  globuleId : Nat
  type : GlobuleType
  sourceOrgan : UInt8
  targetOrgan : UInt8
  payloadAddr : UInt64
  payloadSize : UInt32
  deriving DecidableEq, Repr

/-! ## The official organ identifiers (`organ_id_t`) -/

def organCortex : UInt8 := 0
def organSoma : UInt8 := 1
def organImmune : UInt8 := 2
def organSensory : UInt8 := 4
def organBroadcast : UInt8 := 0xFF

/-- Slots of the ring array. -/
def bloodVolume : Nat := 2048

/-- The initial value of `current_capacity`, to which the ring contracts. -/
def baseCapacity : Nat := 1024

/-- Read heads of the bus. -/
def maxOrgans : Nat := 16

instance : NeZero maxOrgans := ⟨Nat.succ_ne_zero 15⟩

/-- The value kept by a `uint32_t`. -/
def u32 (n : Nat) : Nat := n % 4294967296

/-- `blood_health_t`. -/
structure BloodHealth where
  drops : Nat
  totalPumps : Nat
  deriving DecidableEq, Repr

/-- The static variables of `united_bus.c`. -/
structure Bus where
  bloodStream : Nat → Globule
  currentCapacity : Nat
  heartSystole : Nat
  heartDiastole : Nat
  health : BloodHealth
  organReadHeads : Fin maxOrgans → Nat
  nextGlobuleId : Nat

/-- A slot of the zero-initialised array. -/
def Globule.zero : Globule := ⟨0, .unset, 0, 0, 0, 0⟩

/-- The static initialisers, before any call. -/
def Bus.boot : Bus where
  bloodStream _ := Globule.zero
  currentCapacity := baseCapacity
  heartSystole := 0
  heartDiastole := 0
  health := ⟨0, 0⟩
  organReadHeads _ := 0
  nextGlobuleId := 1

/-- `united_bus_init`: the capacity, the slots and the globule counter are left as they are. -/
def unitedBusInit (s : Bus) : Bus :=
  { s with heartSystole := 0, heartDiastole := 0, organReadHeads := fun _ => 0 }

/-! ## `united_bus_pump` -/

/-- `health.total_pumps++` -/
def Bus.countPump (s : Bus) : Bus :=
  { s with health := { s.health with totalPumps := u32 (s.health.totalPumps + 1) } }

/-- `health.drops++` -/
def Bus.countDrop (s : Bus) : Bus :=
  { s with health := { s.health with drops := u32 (s.health.drops + 1) } }

/-- `next_systole` -/
def Bus.nextSystole (s : Bus) : Nat := next s.currentCapacity s.heartSystole

/-- The congestion test `next_systole == heart_diastole`. -/
def Bus.congested (s : Bus) : Prop := s.nextSystole = s.heartDiastole

instance (s : Bus) : Decidable s.congested := inferInstanceAs (Decidable (_ = _))

/-- Globules that a congested ring still accepts. -/
def Globule.priority (g : Globule) : Prop := g.type = .white ∨ g.type = .yellow

instance (g : Globule) : Decidable g.priority := inferInstanceAs (Decidable (_ ∨ _))

/-- The eviction of the congestion branch: the diastole moves on, and the read heads that stand on
the systole are set to the new diastole. -/
def Bus.evict (s : Bus) : Bus :=
  let diastole := next s.currentCapacity s.heartDiastole
  { s with
    heartDiastole := diastole
    organReadHeads := fun i =>
      if s.organReadHeads i = s.heartSystole then diastole else s.organReadHeads i }

/-- The filter in front of the cortex. -/
def Globule.barred (g : Globule) : Prop :=
  g.targetOrgan = organCortex ∧ g.type = .red ∧ g.sourceOrgan ≠ organSensory

instance (g : Globule) : Decidable g.barred := inferInstanceAs (Decidable (_ ∧ _ ∧ _))

/-- The capacity after a globule of type `ty` was accepted. -/
def pumpedCapacity (ty : GlobuleType) (capacity : Nat) : Nat :=
  if ty = .white then bloodVolume
  else if capacity > baseCapacity then capacity - 1
  else capacity

/-- The tail of `united_bus_pump`: `systole` is the next systole, computed before the capacity
changes. -/
def Bus.write (s : Bus) (systole : Nat) (g : Globule) : Bus :=
  { s with
    currentCapacity := pumpedCapacity g.type s.currentCapacity
    nextGlobuleId := u32 (s.nextGlobuleId + 1)
    bloodStream :=
      Function.update s.bloodStream s.heartSystole { g with globuleId := s.nextGlobuleId }
    heartSystole := systole }

/-- `united_bus_pump`, with its return code. -/
def unitedBusPump (s : Bus) (globule : Globule) : Bus × Int :=
  let s := s.countPump
  let nextSystole := s.nextSystole
  -- a full ring refuses everything but alerts and signals
  if s.congested ∧ ¬ globule.priority then
    (s.countDrop, -1)
  else
    -- the eviction comes before the filter, and before the systole moves
    let s := if s.congested then s.evict else s
    if globule.barred then
      (s.countDrop, -2)
    else
      -- `nextSystole` was computed with the capacity before the write
      (s.write nextSystole globule, 0)

/-! ## `united_bus_absorb` -/

/-- An organ takes what is addressed to everybody and what is addressed to it. -/
def Globule.addressedTo (g : Globule) (organId : UInt8) : Bool :=
  g.targetOrgan == organBroadcast || g.targetOrgan == organId

/-- The loop of `united_bus_absorb` with a bound on its iterations: `none` when the bound is used
up. `out` is the filled part of the caller's buffer. -/
def absorbLoop (s : Bus) (organId : UInt8) (maxGlobules : Int) :
    Nat → Nat → List Globule → Option (Nat × List Globule)
  | 0, head, out =>
      if head ≠ s.heartSystole ∧ (out.length : Int) < maxGlobules then none else some (head, out)
  | fuel + 1, head, out =>
      if head ≠ s.heartSystole ∧ (out.length : Int) < maxGlobules then
        -- a globule for another organ is skipped, and does not count for `maxGlobules`
        let g := s.bloodStream head
        absorbLoop s organId maxGlobules fuel (next s.currentCapacity head)
          (if g.addressedTo organId then out ++ [g] else out)
      else some (head, out)

/-- `organ_read_heads[i] = head` -/
def Bus.setHead (s : Bus) (i : Fin maxOrgans) (head : Nat) : Bus :=
  { s with organReadHeads := Function.update s.organReadHeads i head }

@[simp] theorem setHead_self (s : Bus) (i : Fin maxOrgans) (head : Nat) :
    (s.setHead i head).organReadHeads i = head := Function.update_self ..

theorem setHead_of_ne (s : Bus) {i j : Fin maxOrgans} (head : Nat) (h : j ≠ i) :
    (s.setHead i head).organReadHeads j = s.organReadHeads j := Function.update_of_ne h ..

/-- `united_bus_absorb` with at most `fuel` iterations of its loop. The returned count is the length
of the list. -/
def unitedBusAbsorb (fuel : Nat) (s : Bus) (organId : UInt8) (maxGlobules : Int) :
    Option (Bus × List Globule) :=
  if h : organId.toNat < maxOrgans then
    (absorbLoop s organId maxGlobules fuel (s.organReadHeads ⟨organId.toNat, h⟩) []).map
      fun r => (s.setHead ⟨organId.toNat, h⟩ r.1, r.2)
  else some (s, [])

/-! ## `united_bus_gc` and the health report -/

/-- `(heart_systole - h + current_capacity) % current_capacity` in `uint32_t` arithmetic. -/
def Bus.distance (s : Bus) (h : Nat) : Nat :=
  u32 (u32 (s.heartSystole + 4294967296 - h) + s.currentCapacity) % s.currentCapacity

/-- The loop of `united_bus_gc`: the first read head at the greatest distance, or the systole. -/
def Bus.minHead (s : Bus) : Nat :=
  (List.finRange maxOrgans).foldl
    (fun minHead i =>
      if s.distance (s.organReadHeads i) > s.distance minHead then s.organReadHeads i else minHead)
    s.heartSystole

/-- `united_bus_gc`. -/
def unitedBusGc (s : Bus) : Bus := { s with heartDiastole := s.minHead }

/-- `united_bus_health_t`. -/
structure UnitedBusHealth where
  drops : Nat
  totalPumps : Nat
  overflowCount : Nat
  immuneTriggers : Nat
  pendingGlobules : Nat
  capacity : Nat
  deriving DecidableEq, Repr

/-- `united_bus_get_health`. -/
def unitedBusGetHealth (s : Bus) : UnitedBusHealth where
  drops := s.health.drops
  totalPumps := s.health.totalPumps
  overflowCount := s.health.drops
  immuneTriggers := 0
  pendingGlobules := s.distance s.heartDiastole
  capacity := s.currentCapacity

/-! ## The broadcast helpers -/

/-- The globule of a broadcast helper. Its identifier is set by the pump. -/
def broadcastGlobule (ty : GlobuleType) (source : UInt8) (payloadSize : UInt32) : Globule where
  globuleId := 0
  type := ty
  sourceOrgan := source
  targetOrgan := organBroadcast
  payloadAddr := 0
  payloadSize := payloadSize

/-- `united_bus_broadcast_yellow`. -/
def unitedBusBroadcastYellow (s : Bus) (source : UInt8) (signalCode : UInt32) : Bus × Int :=
  unitedBusPump s (broadcastGlobule .yellow source signalCode)

/-- `united_bus_broadcast_white`. -/
def unitedBusBroadcastWhite (s : Bus) (source : UInt8) (threatId : UInt32) : Bus × Int :=
  unitedBusPump s (broadcastGlobule .white source threatId)

/-! ## The bus as a transition system -/

/-- A call of the bus interface. -/
inductive BusOp where
  | init
  | pump (globule : Globule)
  | absorb (organId : UInt8) (maxGlobules : Int)
  | gc
  | broadcastYellow (source : UInt8) (signalCode : UInt32)
  | broadcastWhite (source : UInt8) (threatId : UInt32)
  deriving DecidableEq, Repr

/-- The state and the absorbed globules after a call; `none` when an absorb needs more than `fuel`
iterations. -/
def BusOp.run (fuel : Nat) (s : Bus) : BusOp → Option (Bus × List Globule)
  | .init => some (unitedBusInit s, [])
  | .pump g => some ((unitedBusPump s g).1, [])
  | .absorb o n => unitedBusAbsorb fuel s o n
  | .gc => some (unitedBusGc s, [])
  | .broadcastYellow src code => some ((unitedBusBroadcastYellow s src code).1, [])
  | .broadcastWhite src threat => some ((unitedBusBroadcastWhite s src threat).1, [])

/-- A call that returns, with the globules it hands out. -/
def BusStep (s : Bus) (a : BusOp × List Globule) (t : Bus) : Prop :=
  ∃ fuel, a.1.run fuel s = some (t, a.2)

/-- The globule that a call pumps. -/
def BusOp.pumped : BusOp → Option Globule
  | .pump g => some g
  | .broadcastYellow src code => some (broadcastGlobule .yellow src code)
  | .broadcastWhite src threat => some (broadcastGlobule .white src threat)
  | _ => none

/-- What a call that returns can do. -/
theorem busStep_cases {s t : Bus} {op : BusOp} {out : List Globule} (h : BusStep s (op, out) t) :
    (op = .init ∧ out = [] ∧ t = unitedBusInit s) ∨
    (∃ g, op.pumped = some g ∧ out = [] ∧ t = (unitedBusPump s g).1) ∨
    (∃ o n fuel, op = .absorb o n ∧ unitedBusAbsorb fuel s o n = some (t, out)) ∨
    (op = .gc ∧ out = [] ∧ t = unitedBusGc s) := by
  obtain ⟨fuel, h⟩ := h
  cases op with
  | init =>
    simp only [BusOp.run, Option.some.injEq, Prod.mk.injEq] at h
    exact .inl ⟨rfl, h.2.symm, h.1.symm⟩
  | pump g =>
    simp only [BusOp.run, Option.some.injEq, Prod.mk.injEq] at h
    exact .inr (.inl ⟨g, rfl, h.2.symm, h.1.symm⟩)
  | absorb o n => exact .inr (.inr (.inl ⟨o, n, fuel, rfl, h⟩))
  | gc =>
    simp only [BusOp.run, Option.some.injEq, Prod.mk.injEq] at h
    exact .inr (.inr (.inr ⟨rfl, h.2.symm, h.1.symm⟩))
  | broadcastYellow src code =>
    simp only [BusOp.run, Option.some.injEq, Prod.mk.injEq] at h
    exact .inr (.inl ⟨_, rfl, h.2.symm, h.1.symm⟩)
  | broadcastWhite src threat =>
    simp only [BusOp.run, Option.some.injEq, Prod.mk.injEq] at h
    exact .inr (.inl ⟨_, rfl, h.2.symm, h.1.symm⟩)

end OperatingOrganism.UnitedBus

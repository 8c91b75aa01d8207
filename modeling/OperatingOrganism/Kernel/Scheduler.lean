import OperatingOrganism.Library.PointerList
import OperatingOrganism.UnitedBus.Bus

/-!
# The scheduler

The brainstem of `oo_scheduler.c`: a pool of sixteen tasks, linked through their `next` fields in the
order opposite to their registration, a homeostasis state that redistributes the shares of the tasks, and
a heartbeat that listens on the bus, keeps the circadian rhythm, applies the hormones and runs the tasks
that are awake.

The entry points are addresses, 0 the null pointer; they are code of other organs, and a heartbeat
records which task calls which of them. The loops over the list are bounded by a fuel argument, since a
list of the pool need not end. Messages to `oo_print` are left out.
-/

set_option autoImplicit false

namespace OperatingOrganism.Kernel

open OperatingOrganism.Execution OperatingOrganism.PointerList OperatingOrganism.UnitedBus

/-- `MAX_ORGANS` -/
def maxTasks : Nat := 16

instance : NeZero maxTasks := ⟨Nat.succ_ne_zero 15⟩

/-- Indices into `organ_pool`. -/
abbrev Slot := Fin maxTasks

/-- `oo_homeostasis_state_t`. -/
inductive HomeostasisState where
  | relaxed | vigilant | combat | survival
  deriving DecidableEq, Repr

/-- `oo_organ_type_t`. -/
inductive OrganType where
  | cortex | immune | sensory | vital
  deriving DecidableEq, Repr

/-- `oo_hormones_t`. -/
structure Hormones where
  adrenaline : UInt8
  melatonin : UInt8
  endorphin : UInt8
  deriving DecidableEq, Repr

/-- `oo_organ_task_t`; `next` is the index of the next task of the pool. -/
structure OrganTask where
  taskId : UInt32
  type : OrganType
  entryPoint : UInt64
  currentCpuShare : UInt8
  isSleeping : Bool
  next : Option Slot
  deriving DecidableEq, Repr

/-- `CYCLE_DURATION` -/
def cycleDuration : Nat := 10000

/-- The value kept by a `uint64_t`. -/
def u64 (n : Nat) : Nat := n % 18446744073709551616

/-- The static variables of `oo_scheduler.c`. -/
structure Scheduler where
  organPool : Slot → OrganTask
  nextTaskId : UInt8
  headOrgan : Option Slot
  currentState : HomeostasisState
  circadianClock : Nat
  bodyHormones : Hormones

/-- The static initialisers. -/
def Scheduler.boot : Scheduler where
  organPool _ := ⟨0, .cortex, 0, 0, false, none⟩
  nextTaskId := 1
  headOrgan := none
  currentState := .relaxed
  circadianClock := 0
  bodyHormones := ⟨0, 0, 0⟩

/-- `oo_scheduler_init`: the clock, the hormones and the identifier counter are left as they are. -/
def ooSchedulerInit (s : Scheduler) : Scheduler :=
  { s with
    headOrgan := none
    currentState := .relaxed
    organPool := fun i => { s.organPool i with taskId := 0 } }

/-- The first unused slot of the pool. -/
def Scheduler.freeSlot (s : Scheduler) : Option Slot :=
  (List.finRange maxTasks).find? fun i => (s.organPool i).taskId == 0

/-- The task that a registration writes. -/
def Scheduler.newTask (s : Scheduler) (type : OrganType) (entryPoint : UInt64) : OrganTask where
  taskId := s.nextTaskId.toUInt32
  type := type
  entryPoint := entryPoint
  currentCpuShare := if type = .vital then 100 else 10
  isSleeping := false
  next := s.headOrgan

/-- `oo_scheduler_register_organ`: without a free slot nothing happens. -/
def ooSchedulerRegisterOrgan (s : Scheduler) (type : OrganType) (entryPoint : UInt64) : Scheduler :=
  match s.freeSlot with
  | none => s
  | some i =>
    { s with
      organPool := Function.update s.organPool i (s.newTask type entryPoint)
      nextTaskId := s.nextTaskId + 1
      headOrgan := some i }

/-- The body of the loop of `oo_scheduler_set_state`. -/
def reallocate (newState : HomeostasisState) (t : OrganTask) : OrganTask :=
  match newState with
  | .relaxed =>
    { t with
      currentCpuShare :=
        if t.type = .cortex then 80 else if t.type = .immune then 10 else t.currentCpuShare
      isSleeping := false }
  | .vigilant =>
    { t with
      currentCpuShare :=
        if t.type = .cortex then 50 else if t.type = .immune then 40 else t.currentCpuShare }
  | .combat =>
    { t with
      currentCpuShare :=
        if t.type = .cortex then 5 else if t.type = .immune then 90 else t.currentCpuShare }
  | .survival =>
    { t with
      currentCpuShare := if t.type = .immune then 95 else t.currentCpuShare
      isSleeping := if t.type = .cortex then true else t.isSleeping }

/-- `oo_scheduler_set_state`. -/
def ooSchedulerSetState (fuel : Nat) (s : Scheduler) (newState : HomeostasisState) :
    Option Scheduler :=
  if s.currentState = newState then some s
  else (forEach OrganTask.next (reallocate newState) fuel s.headOrgan s.organPool).map fun pool =>
    { s with currentState := newState, organPool := pool }

/-- The hormones at the end of a night. -/
def Hormones.wake (h : Hormones) : Hormones := { h with melatonin := 0, adrenaline := 50 }

/-- The hormones at the end of a day. -/
def Hormones.fallAsleep (h : Hormones) : Hormones := { h with melatonin := 200, adrenaline := 0 }

/-- The circadian part of a heartbeat. -/
def circadianRhythm (fuel : Nat) (s : Scheduler) : Option Scheduler :=
  let s := { s with circadianClock := u64 (s.circadianClock + 1) }
  if s.circadianClock % cycleDuration = 0 then
    match s.currentState with
    | .relaxed => (ooSchedulerSetState fuel s .vigilant).map fun s =>
        { s with bodyHormones := s.bodyHormones.wake }
    | .vigilant => (ooSchedulerSetState fuel s .relaxed).map fun s =>
        { s with bodyHormones := s.bodyHormones.fallAsleep }
    | .combat | .survival => some s
  else some s

/-- The body of the hormone loop. -/
def hormonalModulation (h : Hormones) (t : OrganTask) : OrganTask :=
  { t with
    currentCpuShare := if t.type = .immune ∧ h.adrenaline > 150 then 90 else t.currentCpuShare
    isSleeping := if t.type = .cortex ∧ h.melatonin > 150 then true else t.isSleeping }

/-- The hormone part of a heartbeat. -/
def modulate (fuel : Nat) (s : Scheduler) : Option Scheduler :=
  (forEach OrganTask.next (hormonalModulation s.bodyHormones) fuel s.headOrgan s.organPool).map
    fun pool => { s with organPool := pool }

/-- The calls that the body of the last loop of a heartbeat makes. -/
def runTask (i : Slot) (t : OrganTask) : List (Slot × UInt64) :=
  if t.isSleeping = false ∧ t.currentCpuShare > 0 ∧ t.entryPoint ≠ 0 then [(i, t.entryPoint)]
  else []

/-- The organ identifier under which the heartbeat absorbs, `ORGAN_TYPE_VITAL`. -/
def organTypeVital : UInt8 := 3

/-- `oo_scheduler_heartbeat`, with the state of the bus afterwards and the calls of entry points. The
absorbed control messages are not used. -/
def ooSchedulerHeartbeat (fuel : Nat) (s : Scheduler) (bus : Bus) :
    Option (Scheduler × Bus × List (Slot × UInt64)) :=
  (unitedBusAbsorb fuel bus organTypeVital 4).bind fun absorbed =>
    (circadianRhythm fuel s).bind fun s =>
      (modulate fuel s).bind fun s =>
        (collect OrganTask.next runTask fuel s.headOrgan s.organPool).map fun calls =>
          (s, absorbed.1, calls)

/-- A heartbeat that returns, whatever the bus holds, with the calls that it makes. -/
def HeartbeatStep (s : Scheduler) (calls : List (Slot × UInt64)) (t : Scheduler) : Prop :=
  ∃ fuel bus bus', ooSchedulerHeartbeat fuel s bus = some (t, bus', calls)

/-! ## The first free slot -/

section FreeSlot

variable {s : Scheduler} {n : Nat}

/-- A slot is the first free one when those before it are in use. -/
theorem freeSlot_eq {i : Slot} (hi : (s.organPool i).taskId = 0)
    (hbefore : ∀ j < i, (s.organPool j).taskId ≠ 0) : s.freeSlot = some i := by
  rw [Scheduler.freeSlot, List.find?_eq_some_iff_getElem]
  refine ⟨beq_iff_eq.2 hi, i.val, by simp, by simp, ?_⟩
  intro j hj
  rw [List.getElem_finRange, Bool.not_eq_true', beq_eq_false_iff_ne]
  exact hbefore _ hj

/-- With `n` slots in use, the lower ones, the next slot is the first free one. -/
theorem freeSlot_of_unused (hunused : ∀ i, (s.organPool i).taskId = 0 ↔ n ≤ i.val)
    (hlt : n < maxTasks) : s.freeSlot = some ⟨n, hlt⟩ := by
  apply freeSlot_eq
  · exact (hunused _).2 (Nat.le_refl n)
  · intro j hj
    rw [Ne, hunused]
    exact Nat.not_le.2 hj

/-- With the whole pool in use there is none. -/
theorem freeSlot_full (hunused : ∀ i, (s.organPool i).taskId = 0 ↔ n ≤ i.val)
    (hge : maxTasks ≤ n) : s.freeSlot = none := by
  rw [Scheduler.freeSlot, List.find?_eq_none]
  intro i _
  rw [beq_iff_eq, hunused]
  exact Nat.not_le.2 (Nat.lt_of_lt_of_le i.isLt hge)

/-- A registration into the slot `i`. -/
theorem register_of_free {i : Slot} (h : s.freeSlot = some i) (type : OrganType) (entryPoint : UInt64) :
    ooSchedulerRegisterOrgan s type entryPoint =
      { s with
        organPool := Function.update s.organPool i (s.newTask type entryPoint)
        nextTaskId := s.nextTaskId + 1
        headOrgan := some i } := by
  rw [ooSchedulerRegisterOrgan, h]

theorem register_of_full (h : s.freeSlot = none) (type : OrganType) (entryPoint : UInt64) :
    ooSchedulerRegisterOrgan s type entryPoint = s := by
  rw [ooSchedulerRegisterOrgan, h]

end FreeSlot

/-! ## The list of tasks -/

/-- The tasks of the pool that the scheduler works through, in their order. -/
def Scheduler.Tasks (s : Scheduler) (slots : List Slot) : Prop :=
  Cells OrganTask.next s.organPool s.headOrgan slots

/-- The tasks on the list after a loop with body `f`. -/
def rewriteTasks (slots : List Slot) (f : OrganTask → OrganTask) (pool : Slot → OrganTask) :
    Slot → OrganTask :=
  fun i => if i ∈ slots then f (pool i) else pool i

section Lists

variable {s : Scheduler} {slots : List Slot} {fuel : Nat}

@[simp] theorem reallocate_next (newState : HomeostasisState) (t : OrganTask) :
    (reallocate newState t).next = t.next := by
  cases newState <;> rfl

@[simp] theorem hormonalModulation_next (h : Hormones) (t : OrganTask) :
    (hormonalModulation h t).next = t.next := rfl

/-- A rewritten pool still holds the list. -/
theorem Scheduler.Tasks.rewrite (h : s.Tasks slots) {f : OrganTask → OrganTask}
    (hf : ∀ t, (f t).next = t.next) {t : Scheduler} (hhead : t.headOrgan = s.headOrgan)
    (hpool : t.organPool = rewriteTasks slots f s.organPool) : t.Tasks slots := by
  rw [Scheduler.Tasks, hhead]
  apply Cells.congr h
  intro i hi
  rw [hpool, rewriteTasks, if_pos hi, hf]

/-- A change of the state that returns. -/
theorem setState_eq (h : s.Tasks slots) {newState : HomeostasisState} {t : Scheduler}
    (hne : s.currentState ≠ newState) (hs : ooSchedulerSetState fuel s newState = some t) :
    t = { s with
      currentState := newState
      organPool := rewriteTasks slots (reallocate newState) s.organPool } := by
  rw [ooSchedulerSetState, if_neg hne] at hs
  obtain ⟨pool, hpool, rfl⟩ := Option.map_eq_some_iff.1 hs
  -- the loop returned, so its bound was enough for the list
  have hfuel := length_le_of_forEach (reallocate_next newState) h hpool
  rw [forEach_eq (reallocate_next newState) h hfuel] at hpool
  cases hpool
  rfl

/-- A hormone loop that returns. -/
theorem modulate_eq (h : s.Tasks slots) {t : Scheduler} (hs : modulate fuel s = some t) :
    t = { s with
      organPool := rewriteTasks slots (hormonalModulation s.bodyHormones) s.organPool } ∧
      slots.length ≤ fuel := by
  obtain ⟨pool, hpool, rfl⟩ := Option.map_eq_some_iff.1 hs
  have hfuel := length_le_of_forEach (hormonalModulation_next s.bodyHormones) h hpool
  rw [forEach_eq (hormonalModulation_next s.bodyHormones) h hfuel] at hpool
  cases hpool
  exact ⟨rfl, hfuel⟩

/-- A pool of sixteen tasks bounds every loop. -/
theorem Scheduler.Tasks.length_le (h : s.Tasks slots) : slots.length ≤ maxTasks :=
  (Cells.length_le h).trans_eq (Fintype.card_fin maxTasks)

/-- With a step for every task on the list the parts of a heartbeat return. -/
theorem setState_isSome (h : s.Tasks slots) (hfuel : slots.length ≤ fuel)
    (newState : HomeostasisState) : (ooSchedulerSetState fuel s newState).isSome := by
  rw [ooSchedulerSetState]
  split
  · rfl
  · rw [forEach_eq (reallocate_next newState) h hfuel]
    rfl

theorem modulate_isSome (h : s.Tasks slots) (hfuel : slots.length ≤ fuel) :
    (modulate fuel s).isSome := by
  rw [modulate, forEach_eq (hormonalModulation_next s.bodyHormones) h hfuel]
  rfl

theorem circadianRhythm_isSome (h : s.Tasks slots) (hfuel : slots.length ≤ fuel) :
    (circadianRhythm fuel s).isSome := by
  have hclock : Scheduler.Tasks { s with circadianClock := u64 (s.circadianClock + 1) } slots := h
  rw [circadianRhythm]
  dsimp only
  split
  · split
    · rw [Option.isSome_map]
      exact setState_isSome hclock hfuel .vigilant
    · rw [Option.isSome_map]
      exact setState_isSome hclock hfuel .relaxed
    · rfl
    · rfl
  · rfl

end Lists

section Heartbeat

variable {s : Scheduler} {slots : List Slot} {fuel : Nat}

/-- What the circadian part of a heartbeat can do. -/
theorem circadianRhythm_cases (h : s.Tasks slots) {t : Scheduler}
    (hs : circadianRhythm fuel s = some t) :
    (u64 (s.circadianClock + 1) % cycleDuration = 0 ∧ s.currentState = .relaxed ∧
      t = { s with
        circadianClock := u64 (s.circadianClock + 1)
        currentState := .vigilant
        organPool := rewriteTasks slots (reallocate .vigilant) s.organPool
        bodyHormones := s.bodyHormones.wake }) ∨
    (u64 (s.circadianClock + 1) % cycleDuration = 0 ∧ s.currentState = .vigilant ∧
      t = { s with
        circadianClock := u64 (s.circadianClock + 1)
        currentState := .relaxed
        organPool := rewriteTasks slots (reallocate .relaxed) s.organPool
        bodyHormones := s.bodyHormones.fallAsleep }) ∨
    ((u64 (s.circadianClock + 1) % cycleDuration = 0 → s.currentState ≠ .relaxed ∧
        s.currentState ≠ .vigilant) ∧
      t = { s with circadianClock := u64 (s.circadianClock + 1) }) := by
  have hclock : Scheduler.Tasks { s with circadianClock := u64 (s.circadianClock + 1) } slots := h
  -- the state changes at the end of a cycle only, and only from two of the four states
  rw [circadianRhythm] at hs
  dsimp only at hs
  split at hs
  · next hcycle =>
    split at hs
    · next hstate =>
      obtain ⟨t', ht', rfl⟩ := Option.map_eq_some_iff.1 hs
      obtain rfl := setState_eq hclock (by rw [hstate]; decide) ht'
      exact .inl ⟨hcycle, hstate, rfl⟩
    · next hstate =>
      obtain ⟨t', ht', rfl⟩ := Option.map_eq_some_iff.1 hs
      obtain rfl := setState_eq hclock (by rw [hstate]; decide) ht'
      exact .inr (.inl ⟨hcycle, hstate, rfl⟩)
    · next hstate =>
      cases hs
      exact .inr (.inr ⟨fun _ => by rw [hstate]; decide, rfl⟩)
    · next hstate =>
      cases hs
      exact .inr (.inr ⟨fun _ => by rw [hstate]; decide, rfl⟩)
  · next hcycle =>
    cases hs
    exact .inr (.inr ⟨fun hcycle' => absurd hcycle' hcycle, rfl⟩)

/-- The circadian part keeps the list. -/
theorem Scheduler.Tasks.circadianRhythm (h : s.Tasks slots) {t : Scheduler}
    (hs : circadianRhythm fuel s = some t) : t.Tasks slots := by
  rcases circadianRhythm_cases h hs with ⟨-, -, rfl⟩ | ⟨-, -, rfl⟩ | ⟨-, rfl⟩
  · exact h.rewrite (reallocate_next .vigilant) rfl rfl
  · exact h.rewrite (reallocate_next .relaxed) rfl rfl
  · exact h

/-- A heartbeat that returns: the circadian part, the hormones, and the calls of the tasks on the
list. -/
theorem heartbeat_eq (h : s.Tasks slots) {calls : List (Slot × UInt64)} {t : Scheduler}
    (hs : HeartbeatStep s calls t) :
    ∃ fuel r, circadianRhythm fuel s = some r ∧
      t = { r with
        organPool := rewriteTasks slots (hormonalModulation r.bodyHormones) r.organPool } ∧
      calls = slots.flatMap fun i => runTask i (t.organPool i) := by
  obtain ⟨fuel, bus, bus', hs⟩ := hs
  obtain ⟨absorbed, -, hs⟩ := Option.bind_eq_some_iff.1 hs
  obtain ⟨r, hr, hs⟩ := Option.bind_eq_some_iff.1 hs
  obtain ⟨t', ht', hs⟩ := Option.bind_eq_some_iff.1 hs
  obtain ⟨calls', hcalls, heq⟩ := Option.map_eq_some_iff.1 hs
  cases heq
  have htasks := h.circadianRhythm hr
  obtain ⟨rfl, hfuel⟩ := modulate_eq htasks ht'
  refine ⟨fuel, r, hr, rfl, ?_⟩
  have hlist := htasks.rewrite (hormonalModulation_next r.bodyHormones)
    (t := { r with
      organPool := rewriteTasks slots (hormonalModulation r.bodyHormones) r.organPool }) rfl rfl
  rw [collect_eq hlist hfuel] at hcalls
  exact (Option.some.inj hcalls).symm

/-- A heartbeat keeps the list. -/
theorem HeartbeatStep.tasks (h : s.Tasks slots) {calls : List (Slot × UInt64)} {t : Scheduler}
    (hs : HeartbeatStep s calls t) : t.Tasks slots := by
  obtain ⟨fuel, r, hr, rfl, -⟩ := heartbeat_eq h hs
  exact (h.circadianRhythm hr).rewrite (hormonalModulation_next r.bodyHormones) rfl rfl

/-- With a step for every task on the list a heartbeat returns, when its absorb does. -/
theorem heartbeat_isSome (h : s.Tasks slots) {bus : Bus} (hfuel : slots.length ≤ fuel)
    (habs : (unitedBusAbsorb fuel bus organTypeVital 4).isSome) :
    (ooSchedulerHeartbeat fuel s bus).isSome := by
  obtain ⟨absorbed, habs⟩ := Option.isSome_iff_exists.1 habs
  obtain ⟨r, hr⟩ := Option.isSome_iff_exists.1 (circadianRhythm_isSome h hfuel)
  have hrtasks := h.circadianRhythm hr
  obtain ⟨t, ht⟩ := Option.isSome_iff_exists.1 (modulate_isSome hrtasks hfuel)
  have hlist : t.Tasks slots := by
    rw [(modulate_eq hrtasks ht).1]
    exact hrtasks.rewrite (hormonalModulation_next r.bodyHormones) rfl rfl
  rw [ooSchedulerHeartbeat, habs, Option.bind_some, hr, Option.bind_some, ht, Option.bind_some,
    collect_eq hlist hfuel]
  rfl

/-- On a bus without unread globules a heartbeat returns. -/
theorem exists_heartbeat (h : s.Tasks slots) : ∃ calls t, HeartbeatStep s calls t := by
  have habs : (unitedBusAbsorb maxTasks Bus.boot organTypeVital 4).isSome := rfl
  obtain ⟨⟨t, bus', calls⟩, hbeat⟩ :=
    Option.isSome_iff_exists.1 (heartbeat_isSome h h.length_le habs)
  exact ⟨calls, t, maxTasks, Bus.boot, bus', hbeat⟩

end Heartbeat

end OperatingOrganism.Kernel

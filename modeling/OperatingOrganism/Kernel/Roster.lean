import OperatingOrganism.Kernel.Circadian
import OperatingOrganism.UnitedBus.Calls

/-!
# Is every registered organ on the list, once?

`oo_scheduler_register_organ` takes the first slot whose task identifier is 0, and identifiers come from
an 8-bit counter that `oo_scheduler_init` leaves as it is. Every 256th registration gets the identifier 0:
its organ is on the list, but its slot counts as unused. The next registration, unless an initialisation
comes first, writes its own task into that slot and links it to itself.

`Tracked` adds to the scheduler the registrations since the last initialisation. `allStates_listsOnce_iff`
says that along an execution from boot the list holds the accepted ones, each once, and every loop over it
ends, if and only if no registration finds the identifier 0 at the head of the list (`KeepsList`).
-/

set_option autoImplicit false

namespace OperatingOrganism.Kernel

open OperatingOrganism.Execution OperatingOrganism.PointerList OperatingOrganism.UnitedBus

/-! ## The scheduler as a transition system -/

/-- A call of the scheduler interface. -/
inductive SchedulerOp where
  | init
  | register (type : OrganType) (entryPoint : UInt64)
  | setState (newState : HomeostasisState)
  | heartbeat
  deriving DecidableEq, Repr

/-- A call that returns. -/
def SchedulerStep (s : Scheduler) : SchedulerOp → Scheduler → Prop
  | .init, t => t = ooSchedulerInit s
  | .register type entryPoint, t => t = ooSchedulerRegisterOrgan s type entryPoint
  | .setState newState, t => ∃ fuel, ooSchedulerSetState fuel s newState = some t
  | .heartbeat, t => ∃ calls, HeartbeatStep s calls t

/-- The scheduler with the registrations since the last `oo_scheduler_init`. -/
structure Tracked where
  scheduler : Scheduler
  registered : List Registration

/-- The registrations after a call. -/
def SchedulerOp.track (registered : List Registration) : SchedulerOp → List Registration
  | .init => []
  | .register type entryPoint => registered ++ [(type, entryPoint)]
  | .setState _ => registered
  | .heartbeat => registered

def TrackedStep (s : Tracked) (op : SchedulerOp) (t : Tracked) : Prop :=
  SchedulerStep s.scheduler op t.scheduler ∧ t.registered = op.track s.registered

def Tracked.boot : Tracked := ⟨Scheduler.boot, []⟩

/-- What was registered in a slot. -/
def Scheduler.organ (s : Scheduler) (i : Slot) : Registration :=
  ((s.organPool i).type, (s.organPool i).entryPoint)

/-! ## The property -/

/-- The loops over the list return, the one of the heartbeat on every bus on which its absorb does. -/
structure Scheduler.LoopsEnd (s : Scheduler) : Prop where
  setState : ∀ newState, ∃ fuel, (ooSchedulerSetState fuel s newState).isSome
  heartbeat : ∀ bus, (∃ fuel, (unitedBusAbsorb fuel bus organTypeVital 4).isSome) →
    ∃ fuel, (ooSchedulerHeartbeat fuel s bus).isSome

/-- The list holds the first sixteen registrations, each in a slot of its own, the last one first; the
loops over it end; and a heartbeat works through exactly these slots. -/
def Tracked.ListsOnce (s : Tracked) : Prop :=
  ∃ slots, s.scheduler.Tasks slots ∧ slots.Nodup ∧
    slots.map s.scheduler.organ = (s.registered.take maxTasks).reverse ∧
    s.scheduler.LoopsEnd ∧
    ∀ calls t, HeartbeatStep s.scheduler calls t →
      calls = slots.flatMap fun i => runTask i (t.organPool i)

/-- A registration does not find the identifier 0 at the head of the list. -/
def KeepsList (s : Tracked) (op : SchedulerOp) : Prop :=
  ∀ type entryPoint, op = .register type entryPoint →
    ∀ i, s.scheduler.headOrgan = some i → (s.scheduler.organPool i).taskId ≠ 0

/-- The loops over a list that ends return. -/
theorem Scheduler.Tasks.loopsEnd {s : Scheduler} {slots : List Slot} (h : s.Tasks slots) :
    s.LoopsEnd := by
  constructor
  · intro newState
    exact ⟨maxTasks, setState_isSome h h.length_le newState⟩
  · rintro bus ⟨fuel, habs⟩
    refine ⟨max maxTasks fuel, heartbeat_isSome h ?_ ?_⟩
    · exact Nat.le_trans h.length_le (Nat.le_max_left ..)
    · exact absorb_isSome_mono (Nat.le_max_right ..) habs

/-! ## What the calls keep -/

/-- The lower slots are on the list, and of these only the head can count as unused. -/
structure Tracked.Sound (s : Tracked) (slots : List Slot) : Prop where
  tasks : s.scheduler.Tasks slots
  organs : slots.map s.scheduler.organ = (s.registered.take maxTasks).reverse
  mem : ∀ i, i ∈ slots ↔ i.val < s.registered.length
  free : ∀ i : Slot, s.registered.length ≤ i.val → (s.scheduler.organPool i).taskId = 0
  used : ∀ i : Slot, (s.scheduler.organPool i).taskId = 0 →
    s.registered.length ≤ i.val ∨ s.scheduler.headOrgan = some i

section Sound

variable {s t : Tracked} {slots : List Slot}

theorem Tracked.Sound.listsOnce (h : s.Sound slots) : s.ListsOnce := by
  refine ⟨slots, h.tasks, h.tasks.nodup, h.organs, h.tasks.loopsEnd, ?_⟩
  intro calls t hbeat
  obtain ⟨-, -, -, -, hcalls⟩ := heartbeat_eq h.tasks hbeat
  exact hcalls

/-- A scheduler whose slots all count as unused, with an empty list. -/
theorem sound_empty {r : Scheduler} (hhead : r.headOrgan = none)
    (hfree : ∀ i, (r.organPool i).taskId = 0) : Tracked.Sound ⟨r, []⟩ [] where
  tasks := by
    rw [Scheduler.Tasks, hhead]
    exact .nil
  organs := rfl
  mem i := by simp
  free i _ := hfree i
  used i _ := .inl (Nat.zero_le _)

/-- A loop over the list that keeps what a task is keeps the list. -/
theorem Tracked.Sound.rewrite (h : s.Sound slots) {f : OrganTask → OrganTask} (hf : Steady f)
    (hid : ∀ t, (f t).taskId = t.taskId) {r : Scheduler}
    (hhead : r.headOrgan = s.scheduler.headOrgan)
    (hpool : r.organPool = rewriteTasks slots f s.scheduler.organPool) :
    Tracked.Sound ⟨r, s.registered⟩ slots := by
  have htask : ∀ i, (r.organPool i).taskId = (s.scheduler.organPool i).taskId := by
    intro i
    rw [hpool, rewriteTasks]
    split
    · exact hid _
    · rfl
  -- nor does such a loop change what makes an organ
  have horgan : ∀ i, r.organ i = s.scheduler.organ i := by
    intro i
    rw [Scheduler.organ, Scheduler.organ, hpool, rewriteTasks]
    split
    · rw [hf.type, hf.entryPoint]
    · rfl
  refine ⟨h.tasks.rewrite hf.next hhead hpool, ?_, h.mem, ?_, ?_⟩
  · rw [← h.organs]
    exact List.map_congr_left fun i _ => horgan i
  · intro i hi
    rw [htask]
    exact h.free i hi
  · intro i hi
    rw [htask] at hi
    rw [hhead]
    exact h.used i hi

theorem reallocate_taskId (newState : HomeostasisState) (t : OrganTask) :
    (reallocate newState t).taskId = t.taskId := by
  cases newState <;> rfl

/-- A change of the state keeps the list. -/
theorem Tracked.Sound.setState (h : s.Sound slots) {newState : HomeostasisState} {fuel : Nat}
    {r : Scheduler} (hr : ooSchedulerSetState fuel s.scheduler newState = some r) :
    Tracked.Sound ⟨r, s.registered⟩ slots := by
  by_cases heq : s.scheduler.currentState = newState
  · rw [ooSchedulerSetState, if_pos heq] at hr
    cases hr
    exact h
  · obtain rfl := setState_eq h.tasks heq hr
    exact h.rewrite (reallocate_steady newState) (reallocate_taskId newState) rfl rfl

/-- A heartbeat keeps the list. -/
theorem Tracked.Sound.heartbeat (h : s.Sound slots) {calls : List (Slot × UInt64)} {r : Scheduler}
    (hr : HeartbeatStep s.scheduler calls r) : Tracked.Sound ⟨r, s.registered⟩ slots := by
  obtain ⟨fuel, q, hq, rfl, -⟩ := heartbeat_eq h.tasks hr
  have hcircadian : Tracked.Sound ⟨q, s.registered⟩ slots := by
    rcases circadianRhythm_cases h.tasks hq with ⟨-, -, rfl⟩ | ⟨-, -, rfl⟩ | ⟨-, rfl⟩
    · exact h.rewrite (reallocate_steady .vigilant) (reallocate_taskId .vigilant) rfl rfl
    · exact h.rewrite (reallocate_steady .relaxed) (reallocate_taskId .relaxed) rfl rfl
    · exact ⟨h.tasks, h.organs, h.mem, h.free, h.used⟩
  exact hcircadian.rewrite (hormonalModulation_steady q.bodyHormones) (fun _ => rfl) rfl rfl

/-- The head of a list that is not empty is one of its slots. -/
theorem head_mem {r : Scheduler} (h : r.Tasks slots) {i : Slot} (hi : r.headOrgan = some i) :
    i ∈ slots := by
  rw [Scheduler.Tasks, hi] at h
  cases h
  exact List.mem_cons_self

/-! ## Registration -/

variable {type : OrganType} {entryPoint : UInt64}

/-- Under the condition the unused slots are the upper ones. -/
theorem Tracked.Sound.unused_iff (h : s.Sound slots)
    (hk : ∀ i, s.scheduler.headOrgan = some i → (s.scheduler.organPool i).taskId ≠ 0) (i : Slot) :
    (s.scheduler.organPool i).taskId = 0 ↔ s.registered.length ≤ i.val := by
  constructor
  · intro hzero
    rcases h.used i hzero with hle | hhead
    · exact hle
    · exact absurd hzero (hk i hhead)
  · exact h.free i

/-- A registration into a free slot puts the organ in front. -/
theorem Tracked.Sound.register_free (h : s.Sound slots)
    (hunused : ∀ i, (s.scheduler.organPool i).taskId = 0 ↔ s.registered.length ≤ i.val)
    (hlt : s.registered.length < maxTasks) :
    Tracked.Sound ⟨ooSchedulerRegisterOrgan s.scheduler type entryPoint,
      s.registered ++ [(type, entryPoint)]⟩ (⟨s.registered.length, hlt⟩ :: slots) := by
  have hfresh : (⟨s.registered.length, hlt⟩ : Slot) ∉ slots := by
    rw [h.mem]
    exact Nat.lt_irrefl _
  rw [register_of_free (freeSlot_of_unused hunused hlt)]
  -- the pool differs from the old one in the new slot only
  have hself : Function.update s.scheduler.organPool ⟨s.registered.length, hlt⟩
      (s.scheduler.newTask type entryPoint) ⟨s.registered.length, hlt⟩ =
        s.scheduler.newTask type entryPoint := Function.update_self ..
  have hother : ∀ i ≠ (⟨s.registered.length, hlt⟩ : Slot),
      Function.update s.scheduler.organPool ⟨s.registered.length, hlt⟩
        (s.scheduler.newTask type entryPoint) i = s.scheduler.organPool i :=
    fun i hi => Function.update_of_ne hi ..
  have horgans : slots.map s.scheduler.organ = s.registered.reverse := by
    rw [h.organs, List.take_of_length_le (Nat.le_of_lt hlt)]
  refine ⟨Cells.push h.tasks hfresh rfl, ?_, ?_, ?_, ?_⟩
  · have hlen : (s.registered ++ [(type, entryPoint)]).length ≤ maxTasks := by
      rw [List.length_append]
      exact hlt
    rw [List.map_cons, List.take_of_length_le hlen, List.reverse_append, List.reverse_singleton,
      List.singleton_append]
    congr 1
    · simp only [Scheduler.organ, hself]
      rfl
    · rw [← horgans]
      apply List.map_congr_left
      intro i hi
      simp only [Scheduler.organ, hother i fun heq => hfresh (heq ▸ hi)]
  · intro i
    simp only [List.mem_cons, h.mem, List.length_append, List.length_singleton, Fin.ext_iff]
    omega
  · intro i hi
    rw [List.length_append, List.length_singleton] at hi
    have hne : i ≠ (⟨s.registered.length, hlt⟩ : Slot) := by
      rintro rfl
      exact Nat.not_succ_le_self _ hi
    dsimp only
    rw [hother i hne]
    exact h.free i (Nat.le_of_succ_le hi)
  · intro i hzero
    by_cases hi : i = (⟨s.registered.length, hlt⟩ : Slot)
    · -- the new task is at the head, whatever identifier it drew
      rw [hi]
      exact .inr rfl
    · dsimp only at hzero
      rw [hother i hi, hunused] at hzero
      have hval : i.val ≠ s.registered.length := fun hval => hi (Fin.ext hval)
      rw [List.length_append, List.length_singleton]
      exact .inl (by omega)

/-- A registration into a full pool is refused. -/
theorem Tracked.Sound.register_full (h : s.Sound slots)
    (hunused : ∀ i, (s.scheduler.organPool i).taskId = 0 ↔ s.registered.length ≤ i.val)
    (hge : maxTasks ≤ s.registered.length) :
    Tracked.Sound ⟨ooSchedulerRegisterOrgan s.scheduler type entryPoint,
      s.registered ++ [(type, entryPoint)]⟩ slots := by
  have hlt : ∀ i : Slot, i.val < s.registered.length := fun i => Nat.lt_of_lt_of_le i.isLt hge
  rw [register_of_full (freeSlot_full hunused hge)]
  refine ⟨h.tasks, ?_, ?_, ?_, ?_⟩
  · rw [List.take_append_of_le_length hge]
    exact h.organs
  · intro i
    rw [h.mem, List.length_append]
    exact iff_of_true (hlt i) (Nat.lt_of_lt_of_le (hlt i) (Nat.le_add_right ..))
  · intro i hi
    rw [List.length_append] at hi
    exact absurd (Nat.le_of_add_right_le hi) (Nat.not_le.2 (hlt i))
  · intro i hzero
    exact absurd ((hunused i).1 hzero) (Nat.not_le.2 (hlt i))

/-- A registration that finds the identifier 0 at the head takes that slot and links it to itself. -/
theorem Tracked.Sound.not_tasks_register (h : s.Sound slots) {i : Slot}
    (hhead : s.scheduler.headOrgan = some i) (hzero : (s.scheduler.organPool i).taskId = 0)
    (slots' : List Slot) : ¬ (ooSchedulerRegisterOrgan s.scheduler type entryPoint).Tasks slots' := by
  have hmem := head_mem h.tasks hhead
  have hfree : s.scheduler.freeSlot = some i := by
    apply freeSlot_eq hzero
    intro j hj hzero'
    rcases h.used j hzero' with hle | hhead'
    · have hlt := (h.mem i).1 hmem
      exact absurd (Nat.lt_of_le_of_lt hle hj) (Nat.not_lt.2 (Nat.le_of_lt hlt))
    · rw [hhead] at hhead'
      cases hhead'
      exact absurd hj (Nat.lt_irrefl _)
  rw [register_of_free hfree]
  intro htasks
  have hlink : (Function.update s.scheduler.organPool i (s.scheduler.newTask type entryPoint) i).next
      = some i := by
    rw [Function.update_self]
    exact hhead
  cases htasks with
  | @cons _ l hrest =>
    -- the rest of the list would be the list again
    have hlen := congrArg List.length ((hlink ▸ hrest).unique (.cons hrest))
    exact absurd hlen (Nat.ne_of_lt (Nat.lt_succ_self _))

end Sound

/-! ## Whole runs -/

/-- A call that meets the condition keeps the list. -/
theorem TrackedStep.sound {s t : Tracked} {op : SchedulerOp} {slots : List Slot} (h : s.Sound slots)
    (hk : KeepsList s op) (hst : TrackedStep s op t) : ∃ slots', t.Sound slots' := by
  obtain ⟨r, registered⟩ := t
  obtain ⟨hr, hreg⟩ := hst
  simp only at hr hreg
  subst hreg
  cases op with
  | init =>
    obtain rfl := hr
    exact ⟨[], sound_empty rfl fun _ => rfl⟩
  | register type entryPoint =>
    obtain rfl := hr
    have hunused := h.unused_iff (hk type entryPoint rfl)
    rcases Nat.lt_or_ge s.registered.length maxTasks with hlt | hge
    · exact ⟨_, h.register_free hunused hlt⟩
    · exact ⟨slots, h.register_full hunused hge⟩
  | setState newState =>
    obtain ⟨fuel, hr⟩ := hr
    exact ⟨slots, h.setState hr⟩
  | heartbeat =>
    obtain ⟨calls, hr⟩ := hr
    exact ⟨slots, h.heartbeat hr⟩

/-- A call that does not meet it breaks the list. -/
theorem TrackedStep.keepsList {s t : Tracked} {op : SchedulerOp} {slots : List Slot}
    (h : s.Sound slots) (hst : TrackedStep s op t) (ht : t.ListsOnce) : KeepsList s op := by
  rintro type entryPoint rfl i hhead hzero
  obtain ⟨slots', htasks, -⟩ := ht
  rw [show t.scheduler = ooSchedulerRegisterOrgan s.scheduler type entryPoint from hst.1] at htasks
  exact h.not_tasks_register hhead hzero slots' htasks

/-- Along every execution of scheduler calls from boot, the list holds each accepted registration since
the last initialisation once and its loops end, in every state reached, if and only if no registration
finds the identifier 0 at the head. -/
theorem allStates_listsOnce_iff {tr : List (SchedulerOp × Tracked)}
    (h : Exec TrackedStep Tracked.boot tr) :
    AllStates Tracked.ListsOnce Tracked.boot tr ↔ AllSteps KeepsList Tracked.boot tr := by
  refine h.allStates_iff_of_strengthening (P := fun s => ∃ slots, s.Sound slots) ?_ ?_ ?_ ?_
  · exact ⟨[], sound_empty rfl fun _ => rfl⟩
  · rintro s ⟨slots, hs⟩
    exact hs.listsOnce
  · rintro s op t ⟨slots, hs⟩ hst hk
    exact hst.sound hs hk
  · rintro s op t ⟨slots, hs⟩ hst ht
    exact hst.keepsList hs ht

/-- An organ registered at boot and registered again after an initialisation. -/
def restartTrace : List (SchedulerOp × Tracked) :=
  let s₁ := ooSchedulerRegisterOrgan Scheduler.boot .cortex 0x1000
  [(.register .cortex 0x1000, ⟨s₁, [(.cortex, 0x1000)]⟩),
    (.init, ⟨ooSchedulerInit s₁, []⟩),
    (.register .cortex 0x1000,
      ⟨ooSchedulerRegisterOrgan (ooSchedulerInit s₁) .cortex 0x1000, [(.cortex, 0x1000)]⟩)]

theorem exec_restartTrace : Exec TrackedStep Tracked.boot restartTrace :=
  ⟨⟨rfl, rfl⟩, ⟨rfl, rfl⟩, ⟨rfl, rfl⟩, trivial⟩

theorem allStates_listsOnce_restart : AllStates Tracked.ListsOnce Tracked.boot restartTrace := by
  refine (allStates_listsOnce_iff exec_restartTrace).2 ⟨?_, ?_, ?_, trivial⟩
  · intro _ _ _ i hi
    cases hi
  · intro _ _ hop
    cases hop
  · intro _ _ _ i hi
    cases hi

/-! ## The 256th registration -/

/-- An initialisation and a registration. -/
def restart (s : Scheduler) : Scheduler :=
  ooSchedulerRegisterOrgan (ooSchedulerInit s) .cortex 0x1000

/-- A restart registers in slot 0, under the next identifier. -/
theorem restart_eq (s : Scheduler) :
    restart s = { ooSchedulerInit s with
      organPool := Function.update (ooSchedulerInit s).organPool 0
        ((ooSchedulerInit s).newTask .cortex 0x1000)
      nextTaskId := s.nextTaskId + 1
      headOrgan := some 0 } :=
  register_of_free (freeSlot_eq rfl fun j hj => absurd hj (Nat.not_lt_zero j.val)) ..

/-- After a restart the list is in order. -/
theorem sound_restart (s : Scheduler) : Tracked.Sound ⟨restart s, [(.cortex, 0x1000)]⟩ [0] :=
  (sound_empty (r := ooSchedulerInit s) rfl fun _ => rfl).register_free
    (fun i => iff_of_true rfl (Nat.zero_le i.val)) (Nat.succ_pos 15)

/-- The execution of `n` restarts. -/
theorem exec_restarts (n : Nat) : ∃ tr, Exec TrackedStep Tracked.boot tr ∧
    (final Tracked.boot tr).scheduler = restart^[n] Scheduler.boot := by
  induction n with
  | zero => exact ⟨[], trivial, rfl⟩
  | succ n ih =>
    obtain ⟨tr, htr, hfin⟩ := ih
    refine ⟨tr ++ [(.init, ⟨ooSchedulerInit (restart^[n] Scheduler.boot), []⟩),
      (.register .cortex 0x1000, ⟨restart (restart^[n] Scheduler.boot), [(.cortex, 0x1000)]⟩)], ?_, ?_⟩
    · refine htr.append ⟨⟨?_, rfl⟩, ⟨rfl, rfl⟩, trivial⟩
      rw [hfin]
      rfl
    · rw [final_append, Function.iterate_succ_apply']
      rfl

theorem nextTaskId_restarts (n : Nat) :
    (restart^[n] Scheduler.boot).nextTaskId = 1 + UInt8.ofNat n := by
  induction n with
  | zero => rfl
  | succ n ih =>
    rw [Function.iterate_succ_apply', restart_eq, ih, UInt8.ofNat_add]
    exact UInt8.add_assoc ..

/-- A registration after a restart that drew the identifier 0 breaks the list. -/
theorem not_tasks_register_restart {s : Scheduler} (hwrap : s.nextTaskId = 0) {type : OrganType}
    {entryPoint : UInt64} (slots : List Slot) :
    ¬ (ooSchedulerRegisterOrgan (restart s) type entryPoint).Tasks slots := by
  refine (sound_restart s).not_tasks_register (i := 0) ?_ ?_ slots
  · rw [restart_eq]
  · rw [restart_eq]
    dsimp only
    rw [Function.update_self]
    exact congrArg UInt8.toUInt32 hwrap

/-- After 256 restarts one more registration breaks the list. -/
theorem exists_not_listsOnce :
    ∃ tr, Exec TrackedStep Tracked.boot tr ∧ ¬ AllStates Tracked.ListsOnce Tracked.boot tr := by
  have hwrap : (restart^[255] Scheduler.boot).nextTaskId = 0 := by
    rw [nextTaskId_restarts]
    decide
  obtain ⟨tr, htr, hfin⟩ := exec_restarts 256
  rw [Function.iterate_succ_apply'] at hfin
  generalize restart^[255] Scheduler.boot = s at hwrap hfin
  refine ⟨tr ++ [(.register .cortex 0x1000,
    ⟨ooSchedulerRegisterOrgan (restart s) .cortex 0x1000,
      (final Tracked.boot tr).registered ++ [(.cortex, 0x1000)]⟩)],
    htr.append ⟨⟨?_, rfl⟩, trivial⟩, ?_⟩
  · rw [hfin]
    rfl
  · intro hall
    have hend := hall.final
    rw [final_append, final_cons, final_nil] at hend
    obtain ⟨slots, htasks, -⟩ := hend
    exact not_tasks_register_restart hwrap slots htasks

end OperatingOrganism.Kernel

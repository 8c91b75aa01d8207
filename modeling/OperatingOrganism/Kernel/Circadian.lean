import OperatingOrganism.Kernel.Scheduler
import OperatingOrganism.Library.Execution

/-!
# Day and night

Without changes of the state from outside, the heartbeat alternates between RELAXED and VIGILANT every
`cycleDuration` beats. `Rhythm` gives the scheduler after `k` beats: nights are the even days, and from
the second night on every CORTEX task is asleep, day and night. Melatonin puts it to sleep at the end of
a VIGILANT day; what wakes it is the change to RELAXED, in the same beat and before the hormones apply, and
no other beat does.

So the wake-up works for the first three days, that is for fewer than 30000 beats
(`cortex_executed_iff`).
-/

set_option autoImplicit false

namespace OperatingOrganism.Kernel

open OperatingOrganism.Execution OperatingOrganism.PointerList

/-- A registration: type and entry point. -/
abbrev Registration := OrganType × UInt64

/-- The registrations after `oo_scheduler_init`. -/
def registerAll (regs : List Registration) : Scheduler :=
  regs.foldl (fun s r => ooSchedulerRegisterOrgan s r.1 r.2) (ooSchedulerInit Scheduler.boot)

/-! ## Registration -/

/-- The scheduler after the registrations `regs`: the first sixteen are on the list. -/
structure Enrolled (regs : List Registration) (slots : List Slot) (s : Scheduler) : Prop where
  tasks : s.Tasks slots
  mem : ∀ i, i ∈ slots ↔ i.val < regs.length
  entry : ∀ i ∈ slots, regs[i.val]? = some ((s.organPool i).type, (s.organPool i).entryPoint)
  unused : ∀ i, (s.organPool i).taskId = 0 ↔ regs.length ≤ i.val
  nextId : s.nextTaskId.toNat = min regs.length maxTasks + 1
  awake : ∀ i ∈ slots, (s.organPool i).isSleeping = false
  share : ∀ i ∈ slots, 0 < (s.organPool i).currentCpuShare
  state : s.currentState = .relaxed
  clock : s.circadianClock = 0
  melatonin : s.bodyHormones.melatonin = 0

theorem enrolled_nil : Enrolled [] [] (registerAll []) where
  tasks := .nil
  mem i := by simp
  entry i hi := by cases hi
  unused i := ⟨fun _ => Nat.zero_le _, fun _ => rfl⟩
  nextId := rfl
  awake i hi := by cases hi
  share i hi := by cases hi
  state := rfl
  clock := rfl
  melatonin := rfl

section Register

variable {regs : List Registration} {slots : List Slot} {s : Scheduler}

/-- A registration into the free slot. -/
theorem Enrolled.register_free (h : Enrolled regs slots s) (hlt : regs.length < maxTasks)
    (r : Registration) :
    Enrolled (regs ++ [r]) (⟨regs.length, hlt⟩ :: slots)
      (ooSchedulerRegisterOrgan s r.1 r.2) := by
  have hfresh : (⟨regs.length, hlt⟩ : Slot) ∉ slots := by
    rw [h.mem]
    exact Nat.lt_irrefl _
  have hne : ∀ i ∈ slots, i ≠ (⟨regs.length, hlt⟩ : Slot) := by
    rintro i hi rfl
    exact hfresh hi
  have hid : s.nextTaskId.toNat = regs.length + 1 := by
    rw [h.nextId, Nat.min_eq_left (Nat.le_of_lt hlt)]
  have hmax : maxTasks = 16 := rfl
  rw [register_of_free (freeSlot_of_unused h.unused hlt)]
  -- the pool differs from the old one in the new slot only
  have hself : Function.update s.organPool ⟨regs.length, hlt⟩ (s.newTask r.1 r.2)
      ⟨regs.length, hlt⟩ = s.newTask r.1 r.2 := Function.update_self ..
  have hother : ∀ i ≠ (⟨regs.length, hlt⟩ : Slot),
      Function.update s.organPool ⟨regs.length, hlt⟩ (s.newTask r.1 r.2) i = s.organPool i :=
    fun i hi => Function.update_of_ne hi ..
  refine ⟨?_, ?_, ?_, ?_, ?_, ?_, ?_, h.state, h.clock, h.melatonin⟩
  · exact Cells.push h.tasks hfresh rfl
  · intro i
    simp only [List.mem_cons, h.mem, List.length_append, List.length_singleton, Fin.ext_iff]
    omega
  · intro i hi
    dsimp only
    rcases List.mem_cons.1 hi with rfl | hi
    · rw [hself, Scheduler.newTask]
      exact List.getElem?_concat_length ..
    · rw [List.getElem?_append_left ((h.mem i).1 hi), hother i (hne i hi)]
      exact h.entry i hi
  · intro i
    dsimp only
    rw [List.length_append, List.length_singleton]
    -- the identifier of the new task is not 0, the mark of an unused slot
    by_cases hi : i = ⟨regs.length, hlt⟩
    · subst hi
      rw [hself]
      refine iff_of_false ?_ (Nat.not_succ_le_self _)
      intro hzero
      have hnat := congrArg UInt32.toNat hzero
      rw [Scheduler.newTask, UInt8.toNat_toUInt32, hid] at hnat
      cases hnat
    · have hval : i.val ≠ regs.length := fun hval => hi (Fin.ext hval)
      rw [hother i hi, h.unused]
      omega
  · rw [List.length_append, List.length_singleton, UInt8.toNat_add, hid, Nat.min_eq_left hlt]
    exact Nat.mod_eq_of_lt (by simp; omega)
  · intro i hi
    dsimp only
    rcases List.mem_cons.1 hi with rfl | hi
    · rw [hself]
      rfl
    · rw [hother i (hne i hi)]
      exact h.awake i hi
  · intro i hi
    dsimp only
    rcases List.mem_cons.1 hi with rfl | hi
    · rw [hself, Scheduler.newTask]
      dsimp only
      split <;> decide
    · rw [hother i (hne i hi)]
      exact h.share i hi

/-- A registration into a full pool is refused. -/
theorem Enrolled.register_full (h : Enrolled regs slots s) (hge : maxTasks ≤ regs.length)
    (r : Registration) :
    Enrolled (regs ++ [r]) slots (ooSchedulerRegisterOrgan s r.1 r.2) := by
  have hlt : ∀ i : Slot, i.val < regs.length := fun i => Nat.lt_of_lt_of_le i.isLt hge
  rw [register_of_full (freeSlot_full h.unused hge)]
  refine ⟨h.tasks, ?_, ?_, ?_, ?_, h.awake, h.share, h.state, h.clock, h.melatonin⟩
  · intro i
    rw [h.mem, List.length_append]
    exact iff_of_true (hlt i) (Nat.lt_of_lt_of_le (hlt i) (Nat.le_add_right _ _))
  · intro i hi
    rw [List.getElem?_append_left (hlt i), h.entry i hi]
  · intro i
    rw [h.unused, List.length_append, List.length_singleton]
    have := hlt i
    omega
  · rw [h.nextId, List.length_append, List.length_singleton]
    omega

end Register

/-- After any list of registrations the first sixteen are on the list. -/
theorem exists_enrolled (regs : List Registration) : ∃ slots, Enrolled regs slots (registerAll regs) := by
  induction regs using List.reverseRecOn with
  | nil => exact ⟨[], enrolled_nil⟩
  | append_singleton regs r ih =>
    obtain ⟨slots, h⟩ := ih
    have e : registerAll (regs ++ [r]) = ooSchedulerRegisterOrgan (registerAll regs) r.1 r.2 :=
      List.foldl_append
    rw [e]
    rcases Nat.lt_or_ge regs.length maxTasks with hlt | hge
    · exact ⟨_, h.register_free hlt r⟩
    · exact ⟨slots, h.register_full hge r⟩

/-! ## The rhythm -/

/-- The loop bodies keep what a task is, and its share positive. -/
structure Steady (f : OrganTask → OrganTask) : Prop where
  next : ∀ t, (f t).next = t.next
  type : ∀ t, (f t).type = t.type
  entryPoint : ∀ t, (f t).entryPoint = t.entryPoint
  share : ∀ t, 0 < t.currentCpuShare → 0 < (f t).currentCpuShare

theorem reallocate_steady (newState : HomeostasisState) : Steady (reallocate newState) := by
  constructor
  · exact reallocate_next newState
  · intro t
    cases newState <;> rfl
  · intro t
    cases newState <;> rfl
  · intro t ht
    cases newState <;> dsimp only [reallocate] <;> split_ifs <;> first | exact ht | decide

theorem hormonalModulation_steady (h : Hormones) : Steady (hormonalModulation h) := by
  refine ⟨fun _ => rfl, fun _ => rfl, fun _ => rfl, ?_⟩
  intro t ht
  dsimp only [hormonalModulation]
  split
  · decide
  · exact ht

theorem Steady.comp {f g : OrganTask → OrganTask} (hg : Steady g) (hf : Steady f) :
    Steady (g ∘ f) where
  next t := (hg.next (f t)).trans (hf.next t)
  type t := (hg.type (f t)).trans (hf.type t)
  entryPoint t := (hg.entryPoint (f t)).trans (hf.entryPoint t)
  share t ht := hg.share (f t) (hf.share t ht)

theorem rewriteTasks_comp (slots : List Slot) (f g : OrganTask → OrganTask)
    (pool : Slot → OrganTask) :
    rewriteTasks slots g (rewriteTasks slots f pool) = rewriteTasks slots (g ∘ f) pool := by
  funext i
  simp only [rewriteTasks]
  split <;> rfl

/-- The tasks on the list are the registered ones and have a share. -/
structure Staffed (regs : List Registration) (slots : List Slot) (s : Scheduler) : Prop where
  tasks : s.Tasks slots
  entry : ∀ i ∈ slots, regs[i.val]? = some ((s.organPool i).type, (s.organPool i).entryPoint)
  share : ∀ i ∈ slots, 0 < (s.organPool i).currentCpuShare

/-- The scheduler after `k` heartbeats. -/
structure Rhythm (regs : List Registration) (slots : List Slot) (k : Nat) (s : Scheduler) : Prop where
  staffed : Staffed regs slots s
  clock : s.circadianClock = k
  state : s.currentState = if k / cycleDuration % 2 = 0 then .relaxed else .vigilant
  melatonin : s.bodyHormones.melatonin =
    if 2 ≤ k / cycleDuration ∧ k / cycleDuration % 2 = 0 then 200 else 0
  asleep : ∀ i ∈ slots, (s.organPool i).isSleeping = true ↔
    (s.organPool i).type = .cortex ∧ 2 ≤ k / cycleDuration

section Beat

variable {regs : List Registration} {slots : List Slot} {s t : Scheduler} {k : Nat}

theorem Enrolled.rhythm (h : Enrolled regs slots s) : Rhythm regs slots 0 s where
  staffed := ⟨h.tasks, h.entry, h.share⟩
  clock := h.clock
  state := h.state
  melatonin := h.melatonin
  asleep i hi := by simp [h.awake i hi, cycleDuration]

theorem Staffed.rewrite (h : Staffed regs slots s) {f : OrganTask → OrganTask} (hf : Steady f)
    (hhead : t.headOrgan = s.headOrgan) (hpool : t.organPool = rewriteTasks slots f s.organPool) :
    Staffed regs slots t := by
  have hi : ∀ i ∈ slots, t.organPool i = f (s.organPool i) := by
    intro i hi
    rw [hpool, rewriteTasks, if_pos hi]
  refine ⟨h.tasks.rewrite hf.next hhead hpool, ?_, ?_⟩
  · intro i hmem
    rw [hi i hmem, hf.type, hf.entryPoint]
    exact h.entry i hmem
  · intro i hmem
    rw [hi i hmem]
    exact hf.share _ (h.share i hmem)

/-- The state after the hormones were applied to `r`. -/
def Scheduler.modulated (r : Scheduler) (slots : List Slot) : Scheduler :=
  { r with organPool := rewriteTasks slots (hormonalModulation r.bodyHormones) r.organPool }

theorem Rhythm.relaxed_iff (h : Rhythm regs slots k s) :
    s.currentState = .relaxed ↔ k / cycleDuration % 2 = 0 := by
  rw [h.state]
  split <;> simp_all

theorem Rhythm.vigilant_iff (h : Rhythm regs slots k s) :
    s.currentState = .vigilant ↔ k / cycleDuration % 2 = 1 := by
  rw [h.state]
  split <;> simp_all

/-- A day or a night goes on. -/
theorem Rhythm.same_day (h : Rhythm regs slots k s) (hcycle : (k + 1) % cycleDuration ≠ 0) :
    Rhythm regs slots (k + 1)
      (Scheduler.modulated { s with circadianClock := k + 1 } slots) := by
  have hday : (k + 1) / cycleDuration = k / cycleDuration := by
    rw [cycleDuration] at *
    omega
  refine ⟨h.staffed.rewrite (hormonalModulation_steady s.bodyHormones) rfl rfl, rfl, ?_, ?_, ?_⟩
  · rw [hday]
    exact h.state
  · rw [hday]
    exact h.melatonin
  · intro i hi
    rw [hday]
    -- the melatonin is high on even days from the second on, when the task is asleep already
    have hmel := h.melatonin
    have hasleep := h.asleep i hi
    simp only [Scheduler.modulated, rewriteTasks, hi, if_true, hormonalModulation, hmel]
    grind

/-- At the end of a night the melatonin goes down, but nothing wakes a sleeping CORTEX task. -/
theorem Rhythm.end_of_night (h : Rhythm regs slots k s) (hcycle : (k + 1) % cycleDuration = 0)
    (hnight : s.currentState = .relaxed) :
    Rhythm regs slots (k + 1) (Scheduler.modulated
      { s with
        circadianClock := k + 1
        currentState := .vigilant
        organPool := rewriteTasks slots (reallocate .vigilant) s.organPool
        bodyHormones := s.bodyHormones.wake } slots) := by
  rw [h.relaxed_iff] at hnight
  have hday : (k + 1) / cycleDuration = k / cycleDuration + 1 := by
    rw [cycleDuration] at *
    omega
  have hodd : ¬ (k / cycleDuration + 1) % 2 = 0 := by omega
  refine ⟨h.staffed.rewrite ((hormonalModulation_steady s.bodyHormones.wake).comp
    (reallocate_steady .vigilant)) rfl (rewriteTasks_comp ..), rfl, ?_, ?_, ?_⟩
  · rw [hday, if_neg hodd]
    rfl
  · rw [hday, if_neg fun hcond => hodd hcond.2]
    rfl
  · intro i hi
    rw [hday]
    have hasleep := h.asleep i hi
    simp only [Scheduler.modulated, rewriteTasks, hi, if_true, hormonalModulation, reallocate,
      Hormones.wake]
    grind

/-- At the end of a day the change of the state wakes every task, and the melatonin puts the CORTEX
tasks to sleep in the same beat. -/
theorem Rhythm.end_of_day (h : Rhythm regs slots k s) (hcycle : (k + 1) % cycleDuration = 0)
    (hday : s.currentState = .vigilant) :
    Rhythm regs slots (k + 1) (Scheduler.modulated
      { s with
        circadianClock := k + 1
        currentState := .relaxed
        organPool := rewriteTasks slots (reallocate .relaxed) s.organPool
        bodyHormones := s.bodyHormones.fallAsleep } slots) := by
  rw [h.vigilant_iff] at hday
  have hnext : (k + 1) / cycleDuration = k / cycleDuration + 1 := by
    rw [cycleDuration] at *
    omega
  have heven : (k / cycleDuration + 1) % 2 = 0 := by omega
  -- the first day has gone by
  have htwo : 2 ≤ k / cycleDuration + 1 := by
    apply Nat.succ_le_succ
    apply Nat.pos_of_ne_zero
    intro hzero
    rw [hzero] at hday
    cases hday
  refine ⟨h.staffed.rewrite ((hormonalModulation_steady s.bodyHormones.fallAsleep).comp
    (reallocate_steady .relaxed)) rfl (rewriteTasks_comp ..), rfl, ?_, ?_, ?_⟩
  · rw [hnext, if_pos heven]
    rfl
  · rw [hnext, if_pos ⟨htwo, heven⟩]
    rfl
  · intro i hi
    rw [hnext]
    simp only [Scheduler.modulated, rewriteTasks, hi, if_true, hormonalModulation, reallocate,
      Hormones.fallAsleep]
    grind

/-- One heartbeat keeps the rhythm, and the tasks on the list that are awake make their calls. -/
theorem Rhythm.beat (h : Rhythm regs slots k s) (hk : k + 1 < 18446744073709551616)
    {calls : List (Slot × UInt64)} (hs : HeartbeatStep s calls t) :
    Rhythm regs slots (k + 1) t ∧ calls = slots.flatMap fun i => runTask i (t.organPool i) := by
  obtain ⟨fuel, r, hr, rfl, hcalls⟩ := heartbeat_eq h.staffed.tasks hs
  refine ⟨?_, hcalls⟩
  have hclock : u64 (s.circadianClock + 1) = k + 1 := by
    rw [h.clock, u64, Nat.mod_eq_of_lt hk]
  have hcases := circadianRhythm_cases h.staffed.tasks hr
  rw [hclock] at hcases
  rcases hcases with ⟨hcycle, hnight, rfl⟩ | ⟨hcycle, hday, rfl⟩ | ⟨hother, rfl⟩
  · exact h.end_of_night hcycle hnight
  · exact h.end_of_day hcycle hday
  · apply h.same_day
    -- the rhythm knows RELAXED and VIGILANT only
    intro hcycle
    obtain ⟨hnight, hday⟩ := hother hcycle
    rw [Ne, h.relaxed_iff] at hnight
    rw [Ne, h.vigilant_iff] at hday
    omega

/-- After a beat of the rhythm, the CORTEX task `i` made its call if and only if it is before the
second night. -/
theorem Rhythm.mem_calls_iff (h : Rhythm regs slots k s) {i : Slot} {entry : UInt64} (hi : i ∈ slots)
    (hreg : regs[i.val]? = some (.cortex, entry)) (hentry : entry ≠ 0) :
    (i, entry) ∈ slots.flatMap (fun i => runTask i (s.organPool i)) ↔ k / cycleDuration < 2 := by
  have hreg' := h.staffed.entry i hi
  rw [hreg, Option.some.injEq, Prod.mk.injEq] at hreg'
  obtain ⟨htype, hcall⟩ := hreg'
  have hshare := h.staffed.share i hi
  have hasleep := h.asleep i hi
  rw [List.mem_flatMap]
  constructor
  · rintro ⟨j, -, hmem⟩
    rw [runTask] at hmem
    split at hmem
    · next hcond =>
      rw [List.mem_singleton, Prod.mk.injEq] at hmem
      obtain ⟨rfl, -⟩ := hmem
      grind
    · cases hmem
  · intro hlt
    have hawake : (s.organPool i).isSleeping = false := by grind
    refine ⟨i, hi, ?_⟩
    rw [runTask, if_pos ⟨hawake, hshare, hcall ▸ hentry⟩, hcall]
    exact List.mem_singleton_self _

end Beat

/-! ## Runs of heartbeats -/

section Runs

variable {regs : List Registration} {slots : List Slot}

/-- The rhythm after every beat of a run. -/
theorem Rhythm.run {s : Scheduler} {k : Nat} {tr : List (List (Slot × UInt64) × Scheduler)}
    (h : Rhythm regs slots k s) (htr : Exec HeartbeatStep s tr)
    (hk : k + tr.length < 18446744073709551616) : Rhythm regs slots (k + tr.length) (final s tr) := by
  induction tr generalizing s k with
  | nil => exact h
  | cons e tr ih =>
    obtain ⟨calls, t⟩ := e
    rw [List.length_cons] at hk ⊢
    have ht := (h.beat (by omega) htr.1).1
    have hrun := ih ht htr.2 (by omega)
    rw [Nat.add_right_comm] at hrun
    exact hrun

/-- Heartbeats go on forever on an idle bus. -/
theorem exists_beats {s : Scheduler} (h : s.Tasks slots) (n : Nat) :
    ∃ tr, Exec HeartbeatStep s tr ∧ tr.length = n := by
  induction n generalizing s with
  | zero => exact ⟨[], trivial, rfl⟩
  | succ n ih =>
    obtain ⟨calls, t, hstep⟩ := exists_heartbeat h
    obtain ⟨tr, htr, hlen⟩ := ih (hstep.tasks h)
    exact ⟨(calls, t) :: tr, ⟨hstep, htr⟩, congrArg (· + 1) hlen⟩

/-- In VIGILANT with low melatonin, the heartbeat calls the entry point of every registered CORTEX
organ. -/
def WakesCortex (regs : List Registration) (calls : List (Slot × UInt64)) (t : Scheduler) : Prop :=
  t.currentState = .vigilant → t.bodyHormones.melatonin ≤ 150 →
    ∀ (i : Slot) (entry : UInt64), regs[i.val]? = some (.cortex, entry) → entry ≠ 0 →
      (i, entry) ∈ calls

/-- In the first three days every beat wakes the CORTEX organs. -/
theorem wakesCortex_of_lt {tr : List (List (Slot × UInt64) × Scheduler)}
    (h : Exec HeartbeatStep (registerAll regs) tr) (hlt : tr.length < 30000) :
    ∀ e ∈ tr, WakesCortex regs e.1 e.2 := by
  obtain ⟨slots, henr⟩ := exists_enrolled regs
  rintro ⟨calls, t⟩ he hvigilant - i entry hreg hentry
  obtain ⟨tr₁, tr₂, rfl⟩ := List.append_of_mem he
  rw [List.length_append, List.length_cons] at hlt
  -- the beat of the entry, after the rhythm of the beats before it
  have hrun := henr.rhythm.run h.split.1 (by omega)
  obtain ⟨hbeat, rfl⟩ := hrun.beat (by omega) h.split.2.1
  have hi : i ∈ slots := (henr.mem i).2 (List.getElem?_eq_some_iff.1 hreg).1
  rw [hbeat.mem_calls_iff hi hreg hentry]
  have hodd := hbeat.vigilant_iff.1 hvigilant
  rw [cycleDuration] at *
  omega

/-- The beat 30000 is VIGILANT, its melatonin is low, and no CORTEX organ is called. -/
theorem not_wakesCortex_of_le {tr : List (List (Slot × UInt64) × Scheduler)}
    (h : Exec HeartbeatStep (registerAll regs) tr) (hle : 30000 ≤ tr.length) {i : Slot}
    {entry : UInt64} (hreg : regs[i.val]? = some (.cortex, entry)) (hentry : entry ≠ 0) :
    ¬ ∀ e ∈ tr, WakesCortex regs e.1 e.2 := by
  obtain ⟨slots, henr⟩ := exists_enrolled regs
  intro hall
  obtain ⟨⟨calls, t⟩, tr₂, hdrop⟩ := List.exists_cons_of_length_pos
    (show 0 < (tr.drop 29999).length by rw [List.length_drop]; omega)
  -- the run is cut before its beat 30000
  have htake : (tr.take 29999).length = 29999 := by
    rw [List.length_take]
    omega
  have hsplit : tr = tr.take 29999 ++ (calls, t) :: tr₂ := by
    rw [← hdrop, List.take_append_drop]
  generalize tr.take 29999 = tr₁ at htake hsplit
  subst hsplit
  have hrun := henr.rhythm.run h.split.1 (by omega)
  rw [htake] at hrun
  obtain ⟨hbeat, rfl⟩ := hrun.beat (by decide) h.split.2.1
  have hi : i ∈ slots := (henr.mem i).2 (List.getElem?_eq_some_iff.1 hreg).1
  have hcall := hall _ (List.mem_append_right tr₁ List.mem_cons_self)
    (hbeat.vigilant_iff.2 (by decide)) (by rw [hbeat.melatonin]; decide) i entry hreg hentry
  rw [hbeat.mem_calls_iff hi hreg hentry] at hcall
  exact absurd hcall (by decide)

/-- In every run of heartbeats after the `oo_scheduler_init` of a boot and any registrations, every beat wakes the
CORTEX organs if and only if there are fewer than 30000 beats, or no CORTEX organ in the pool has an
entry point. -/
theorem cortex_executed_iff {tr : List (List (Slot × UInt64) × Scheduler)}
    (h : Exec HeartbeatStep (registerAll regs) tr) :
    (∀ e ∈ tr, WakesCortex regs e.1 e.2) ↔
      tr.length < 30000 ∨
        ∀ (i : Slot) (entry : UInt64), regs[i.val]? = some (.cortex, entry) → entry = 0 := by
  constructor
  · intro hall
    by_contra hcond
    simp only [not_or, not_forall] at hcond
    obtain ⟨hlen, i, entry, hreg, hentry⟩ := hcond
    exact not_wakesCortex_of_le h (Nat.le_of_not_lt hlen) hreg hentry hall
  · rintro (hlt | hnone)
    · exact wakesCortex_of_lt h hlt
    · intro e _ _ _ i entry hreg hentry
      exact absurd (hnone i entry hreg) hentry

end Runs

/-- A CORTEX organ wakes for 29999 beats. -/
theorem exists_run_wakesCortex :
    ∃ tr, Exec HeartbeatStep (registerAll [(.cortex, 0x1000)]) tr ∧ tr.length = 29999 ∧
      ∀ e ∈ tr, WakesCortex [(.cortex, 0x1000)] e.1 e.2 := by
  obtain ⟨slots, henr⟩ := exists_enrolled [(.cortex, 0x1000)]
  obtain ⟨tr, htr, hlen⟩ := exists_beats henr.tasks 29999
  exact ⟨tr, htr, hlen, (cortex_executed_iff htr).2 (.inl (by rw [hlen]; decide))⟩

/-- The beat 30000 does not wake it. -/
theorem exists_run_not_wakesCortex :
    ∃ tr, Exec HeartbeatStep (registerAll [(.cortex, 0x1000)]) tr ∧ tr.length = 30000 ∧
      ¬ ∀ e ∈ tr, WakesCortex [(.cortex, 0x1000)] e.1 e.2 := by
  obtain ⟨slots, henr⟩ := exists_enrolled [(.cortex, 0x1000)]
  obtain ⟨tr, htr, hlen⟩ := exists_beats henr.tasks 30000
  exact ⟨tr, htr, hlen, not_wakesCortex_of_le htr (Nat.le_of_eq hlen.symm) (i := 0) rfl (by decide)⟩

end OperatingOrganism.Kernel

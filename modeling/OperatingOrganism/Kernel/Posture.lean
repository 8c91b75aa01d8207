import OperatingOrganism.Kernel.Circadian

/-!
# What the changes of state leave behind

Each branch of `oo_scheduler_set_state` writes only some fields of some tasks. SURVIVAL puts the CORTEX
tasks to sleep and keeps their shares, RELAXED is the only state that wakes them, and VIGILANT and COMBAT
set the shares of CORTEX and IMMUNE and nothing else. So a CORTEX task carries what earlier states left:
that it sleeps, into VIGILANT and COMBAT, and its share, into SURVIVAL.

`Settled` gives the tasks after any calls without heartbeats, in terms of the calls. `posture_iff` says
when two sequences of calls that enter the same state leave the same posture.
-/

set_option autoImplicit false

namespace OperatingOrganism.Kernel

open OperatingOrganism.PointerList

/-- Calls of `oo_scheduler_set_state`, without heartbeats. The pool bounds the loop of each. -/
def setStates (s : Scheduler) (calls : List HomeostasisState) : Option Scheduler :=
  calls.foldlM (ooSchedulerSetState maxTasks) s

theorem setStates_concat (s : Scheduler) (calls : List HomeostasisState) (call : HomeostasisState) :
    setStates s (calls ++ [call]) =
      (setStates s calls).bind fun t => ooSchedulerSetState maxTasks t call := by
  rw [setStates, List.foldlM_append]
  apply Option.bind_congr
  intro t _
  exact Option.bind_fun_some _

/-- The registered organs have the same share and are asleep or awake alike. -/
def SamePosture (regs : List Registration) (s t : Scheduler) : Prop :=
  ∀ i : Slot, i.val < regs.length →
    (s.organPool i).currentCpuShare = (t.organPool i).currentCpuShare ∧
      (s.organPool i).isSleeping = (t.organPool i).isSleeping

/-! ## What the calls determine -/

/-- SURVIVAL was called, and RELAXED was not called after it. -/
def Comatose (calls : List HomeostasisState) : Prop :=
  ∃ before since, calls = before ++ .survival :: since ∧ .relaxed ∉ since

/-- The state that the calls entered last; calls of RELAXED alone enter none. -/
def lastEntered (calls : List HomeostasisState) : Option HomeostasisState :=
  if ∀ c ∈ calls, c = .relaxed then none else calls.getLast?

/-- The calls leave the same posture once `target` is entered, whatever organs there are. -/
def SameLeftovers (calls calls' : List HomeostasisState) : HomeostasisState → Prop
  | .relaxed => True
  | .vigilant | .combat => Comatose calls ↔ Comatose calls'
  | .survival => lastEntered calls = lastEntered calls'

/-- The share that a state other than SURVIVAL gives to the CORTEX tasks. -/
def cortexShare : Option HomeostasisState → UInt8
  | none => 10
  | some .relaxed => 80
  | some .vigilant => 50
  | some .combat => 5
  | some .survival => 0

theorem cortexShare_injective : Function.Injective cortexShare := by
  intro a b hshare
  rcases a with _ | a <;> rcases b with _ | b
  · rfl
  · cases b <;> exact absurd hshare (by decide)
  · cases a <;> exact absurd hshare (by decide)
  · cases a <;> cases b <;> first | rfl | exact absurd hshare (by decide)

section Calls

variable {calls : List HomeostasisState} {call : HomeostasisState}

theorem not_comatose_nil : ¬ Comatose [] := by
  rintro ⟨before, since, hsplit, -⟩
  simp at hsplit

/-- One more call. -/
theorem comatose_concat :
    Comatose (calls ++ [call]) ↔ call = .survival ∨ call ≠ .relaxed ∧ Comatose calls := by
  constructor
  · rintro ⟨before, since, hsplit, hsince⟩
    rcases List.eq_nil_or_concat since with rfl | ⟨since, last, rfl⟩
    · -- the call itself is SURVIVAL
      left
      have hlast := List.append_inj_right' hsplit rfl
      simpa using hlast
    · right
      rw [List.concat_eq_append, ← List.cons_append, ← List.append_assoc] at hsplit
      have hlast := List.append_inj_right' hsplit rfl
      have hcalls := List.append_inj_left' hsplit rfl
      rw [List.concat_eq_append, List.mem_append, not_or] at hsince
      obtain ⟨hsince, hrelaxed⟩ := hsince
      constructor
      · rintro rfl
        exact hrelaxed (hlast ▸ List.mem_singleton_self _)
      · exact ⟨before, since, hcalls, hsince⟩
  · rintro (rfl | ⟨hne, before, since, rfl, hsince⟩)
    · exact ⟨calls, [], rfl, by simp⟩
    · refine ⟨before, since ++ [call], by simp, ?_⟩
      rw [List.mem_append, List.mem_singleton, not_or]
      exact ⟨hsince, fun heq => hne heq.symm⟩

/-- Calls that end with SURVIVAL put to sleep, calls that end with RELAXED do not. -/
theorem comatose_of_last (h : calls.getLastD .relaxed = .survival) : Comatose calls := by
  rcases List.eq_nil_or_concat calls with rfl | ⟨calls, last, rfl⟩
  · simp at h
  · rw [List.concat_eq_append] at h ⊢
    rw [comatose_concat]
    left
    simpa using h

theorem not_comatose_of_last (h : calls.getLastD .relaxed = .relaxed) : ¬ Comatose calls := by
  rcases List.eq_nil_or_concat calls with rfl | ⟨calls, last, rfl⟩
  · exact not_comatose_nil
  · rw [List.concat_eq_append] at h ⊢
    rw [comatose_concat]
    have hlast : last = .relaxed := by simpa using h
    rw [hlast]
    simp

/-- A call of another state enters it. -/
theorem lastEntered_concat_of_ne (h : calls.getLastD .relaxed ≠ call) :
    lastEntered (calls ++ [call]) = some call := by
  rw [lastEntered, if_neg, List.getLast?_append]
  · rfl
  · intro hall
    have hcall : call = .relaxed := hall call (by simp)
    apply h
    rw [hcall]
    rcases List.eq_nil_or_concat calls with rfl | ⟨calls, last, rfl⟩
    · rfl
    · have hlast : last = .relaxed := hall last (by simp)
      simp [hlast]

/-- A call of the current state enters nothing. -/
theorem lastEntered_concat_of_eq (h : calls.getLastD .relaxed = call) :
    lastEntered (calls ++ [call]) = lastEntered calls := by
  rcases List.eq_nil_or_concat calls with rfl | ⟨calls, last, rfl⟩
  · obtain rfl : HomeostasisState.relaxed = call := h
    simp [lastEntered]
  · rw [List.concat_eq_append] at h ⊢
    have hlast : last = call := by simpa using h
    subst hlast
    -- the call is among the calls before it
    have hmem : (∀ c ∈ calls ++ [last] ++ [last], c = .relaxed) ↔ ∀ c ∈ calls ++ [last], c = .relaxed := by
      simp only [List.mem_append, List.mem_singleton, or_assoc, or_self]
    apply if_congr hmem rfl
    rw [List.getLast?_concat, List.getLast?_concat]

end Calls

/-! ## The tasks after the calls -/

/-- The scheduler after the registrations `regs` and the calls. -/
structure Settled (regs : List Registration) (slots : List Slot) (calls : List HomeostasisState)
    (s : Scheduler) : Prop where
  tasks : s.Tasks slots
  state : s.currentState = calls.getLastD .relaxed
  type : ∀ i ∈ slots, (s.organPool i).type = ((registerAll regs).organPool i).type
  asleep : ∀ i ∈ slots, (s.organPool i).isSleeping = true ↔
    (s.organPool i).type = .cortex ∧ Comatose calls
  cortex : ∀ i ∈ slots, (s.organPool i).type = .cortex → s.currentState ≠ .survival →
    (s.organPool i).currentCpuShare = cortexShare (lastEntered calls)
  other : ∀ i ∈ slots, (s.organPool i).type ≠ .cortex → (s.organPool i).type ≠ .immune →
    (s.organPool i).currentCpuShare = ((registerAll regs).organPool i).currentCpuShare

/-- A registration gives a share of 10 to every task but a VITAL one. -/
theorem registerAll_share (regs : List Registration) (i : Slot) :
    ((registerAll regs).organPool i).taskId ≠ 0 → ((registerAll regs).organPool i).type ≠ .vital →
      ((registerAll regs).organPool i).currentCpuShare = 10 := by
  induction regs using List.reverseRecOn with
  | nil => exact fun hused => absurd rfl hused
  | append_singleton regs r ih =>
    have e : registerAll (regs ++ [r]) = ooSchedulerRegisterOrgan (registerAll regs) r.1 r.2 :=
      List.foldl_append
    rw [e]
    cases hfree : (registerAll regs).freeSlot with
    | none =>
      rw [register_of_full hfree]
      exact ih
    | some j =>
      rw [register_of_free hfree]
      dsimp only
      by_cases hij : i = j
      · subst hij
        rw [Function.update_self]
        exact fun _ htype => if_neg htype
      · rw [Function.update_of_ne hij]
        exact ih

section Settled

variable {regs : List Registration} {slots : List Slot} {calls : List HomeostasisState}
  {s t : Scheduler} {call : HomeostasisState}

theorem Enrolled.settled (h : Enrolled regs slots (registerAll regs)) :
    Settled regs slots [] (registerAll regs) where
  tasks := h.tasks
  state := h.state
  type _ _ := rfl
  asleep i hi := by
    rw [h.awake i hi]
    exact iff_of_false Bool.false_ne_true fun hcond => not_comatose_nil hcond.2
  cortex i hi htype _ := by
    have hused : ((registerAll regs).organPool i).taskId ≠ 0 := by
      rw [Ne, h.unused, Nat.not_le]
      exact (h.mem i).1 hi
    apply registerAll_share regs i hused
    rw [htype]
    decide
  other _ _ _ _ := rfl

@[simp] theorem reallocate_type (newState : HomeostasisState) (t : OrganTask) :
    (reallocate newState t).type = t.type :=
  (reallocate_steady newState).type t

/-- A call that enters another state. -/
theorem setState_spec (h : s.Tasks slots) (hne : s.currentState ≠ call)
    (hs : ooSchedulerSetState maxTasks s call = some t) :
    t.Tasks slots ∧ t.currentState = call ∧
      ∀ i ∈ slots, t.organPool i = reallocate call (s.organPool i) := by
  obtain rfl := setState_eq h hne hs
  refine ⟨h.rewrite (reallocate_next call) rfl rfl, rfl, ?_⟩
  intro i hi
  exact if_pos hi

/-- One call. -/
theorem Settled.set (h : Settled regs slots calls s)
    (hs : ooSchedulerSetState maxTasks s call = some t) : Settled regs slots (calls ++ [call]) t := by
  have hlast : (calls ++ [call]).getLastD .relaxed = call := by simp
  by_cases hsame : s.currentState = call
  · -- nothing happens
    rw [ooSchedulerSetState, if_pos hsame, Option.some_inj] at hs
    subst hs
    have hcurrent := h.state.symm.trans hsame
    refine ⟨h.tasks, hsame.trans hlast.symm, h.type, ?_, ?_, h.other⟩
    · intro i hi
      rw [h.asleep i hi, comatose_concat]
      constructor
      · rintro ⟨htype, hcoma⟩
        refine ⟨htype, .inr ⟨?_, hcoma⟩⟩
        intro hrelaxed
        exact not_comatose_of_last (hcurrent.trans hrelaxed) hcoma
      · rintro ⟨htype, hsurvival | ⟨-, hcoma⟩⟩
        · exact ⟨htype, comatose_of_last (hcurrent.trans hsurvival)⟩
        · exact ⟨htype, hcoma⟩
    · rw [lastEntered_concat_of_eq hcurrent]
      exact h.cortex
  · obtain ⟨htasks, hstate, htask⟩ := setState_spec h.tasks hsame hs
    rw [h.state] at hsame
    refine ⟨htasks, hstate.trans hlast.symm, ?_, ?_, ?_, ?_⟩
    · intro i hi
      rw [htask i hi, reallocate_type]
      exact h.type i hi
    · intro i hi
      rw [htask i hi, reallocate_type, comatose_concat]
      have hasleep := h.asleep i hi
      by_cases htype : (s.organPool i).type = .cortex
      · cases call <;> simp [reallocate, htype, hasleep]
      · cases call <;> simp [reallocate, htype, hasleep]
    · intro i hi htype hcall
      rw [htask i hi] at htype ⊢
      rw [reallocate_type] at htype
      rw [hstate] at hcall
      rw [lastEntered_concat_of_ne hsame]
      cases call with
      | relaxed => exact if_pos htype
      | vigilant => exact if_pos htype
      | combat => exact if_pos htype
      | survival => exact absurd rfl hcall
    · intro i hi hcortex himmune
      rw [htask i hi] at hcortex himmune ⊢
      rw [reallocate_type] at hcortex himmune
      rw [← h.other i hi hcortex himmune]
      cases call <;> simp [reallocate, hcortex, himmune]

/-- Any calls return, and the tasks are as the calls determine. -/
theorem exists_settled (h : Enrolled regs slots (registerAll regs)) (calls : List HomeostasisState) :
    ∃ s, setStates (registerAll regs) calls = some s ∧ Settled regs slots calls s := by
  induction calls using List.reverseRecOn with
  | nil => exact ⟨_, rfl, h.settled⟩
  | append_singleton calls call ih =>
    obtain ⟨s, hs, hsettled⟩ := ih
    obtain ⟨t, ht⟩ := Option.isSome_iff_exists.1
      (setState_isSome hsettled.tasks hsettled.tasks.length_le call)
    refine ⟨t, ?_, hsettled.set ht⟩
    rw [setStates_concat, hs]
    exact ht

end Settled

/-! ## The posture of a state -/

section Posture

variable {regs : List Registration} {slots : List Slot} {calls calls' : List HomeostasisState}
  {s s' : Scheduler} {target : HomeostasisState}

/-- The last call writes all that differs in a task that is not a CORTEX task. -/
theorem Settled.same_of_ne_cortex (h : Settled regs slots calls s) (h' : Settled regs slots calls' s')
    {i : Slot} (hi : i ∈ slots) (htype : (s.organPool i).type ≠ .cortex) :
    (reallocate target (s.organPool i)).currentCpuShare =
        (reallocate target (s'.organPool i)).currentCpuShare ∧
      (reallocate target (s.organPool i)).isSleeping =
        (reallocate target (s'.organPool i)).isSleeping := by
  have heq : (s'.organPool i).type = (s.organPool i).type :=
    (h'.type i hi).trans (h.type i hi).symm
  have hshare : (s.organPool i).type ≠ .immune →
      (s.organPool i).currentCpuShare = (s'.organPool i).currentCpuShare := by
    intro himmune
    rw [h.other i hi htype himmune, h'.other i hi (heq ▸ htype) (heq ▸ himmune)]
  have hawake : (s.organPool i).isSleeping = false := by
    rw [← Bool.not_eq_true, h.asleep i hi]
    exact fun hcond => htype hcond.1
  have hawake' : (s'.organPool i).isSleeping = false := by
    rw [← Bool.not_eq_true, h'.asleep i hi, heq]
    exact fun hcond => htype hcond.1
  by_cases himmune : (s.organPool i).type = .immune
  · cases target <;> simp [reallocate, heq, himmune, hawake, hawake']
  · cases target <;> simp [reallocate, heq, htype, himmune, hawake, hawake', hshare himmune]

/-- A CORTEX task keeps what the calls left. -/
theorem Settled.same_cortex_iff (h : Settled regs slots calls s) (h' : Settled regs slots calls' s')
    (hne : s.currentState ≠ target) (hne' : s'.currentState ≠ target)
    {i : Slot} (hi : i ∈ slots) (htype : (s.organPool i).type = .cortex) :
    (reallocate target (s.organPool i)).currentCpuShare =
          (reallocate target (s'.organPool i)).currentCpuShare ∧
        (reallocate target (s.organPool i)).isSleeping =
          (reallocate target (s'.organPool i)).isSleeping ↔
      SameLeftovers calls calls' target := by
  have htype' : (s'.organPool i).type = .cortex := by
    rw [h'.type i hi, ← h.type i hi]
    exact htype
  have hasleep := h.asleep i hi
  have hasleep' := h'.asleep i hi
  rw [htype, eq_self, true_and] at hasleep
  rw [htype', eq_self, true_and] at hasleep'
  have hsleep : (s.organPool i).isSleeping = (s'.organPool i).isSleeping ↔
      (Comatose calls ↔ Comatose calls') := by
    rw [← hasleep, ← hasleep', Bool.eq_iff_iff]
  cases target with
  | relaxed => simp [reallocate, SameLeftovers, htype, htype']
  | vigilant => simp [reallocate, SameLeftovers, htype, htype', hsleep]
  | combat => simp [reallocate, SameLeftovers, htype, htype', hsleep]
  | survival =>
    have hshare := h.cortex i hi htype hne
    have hshare' := h'.cortex i hi htype' hne'
    simp [reallocate, SameLeftovers, htype, htype', hshare, hshare', cortexShare_injective.eq_iff]

/-- For any registrations and any two sequences of calls that enter `target` from another state, the
registered organs end in the same posture if and only if no CORTEX organ is in the pool or the earlier
calls leave the same in it. -/
theorem posture_iff (regs : List Registration) (calls calls' : List HomeostasisState)
    (target : HomeostasisState) :
    ∃ s s' t t', setStates (registerAll regs) calls = some s ∧
      setStates (registerAll regs) calls' = some s' ∧
      setStates (registerAll regs) (calls ++ [target]) = some t ∧
      setStates (registerAll regs) (calls' ++ [target]) = some t' ∧
      (s.currentState ≠ target → s'.currentState ≠ target →
        (SamePosture regs t t' ↔
          (∀ r ∈ regs.take maxTasks, r.1 ≠ .cortex) ∨ SameLeftovers calls calls' target)) := by
  obtain ⟨slots, henr⟩ := exists_enrolled regs
  obtain ⟨s, hs, hsettled⟩ := exists_settled henr calls
  obtain ⟨s', hs', hsettled'⟩ := exists_settled henr calls'
  obtain ⟨t, ht⟩ := Option.isSome_iff_exists.1
    (setState_isSome hsettled.tasks hsettled.tasks.length_le target)
  obtain ⟨t', ht'⟩ := Option.isSome_iff_exists.1
    (setState_isSome hsettled'.tasks hsettled'.tasks.length_le target)
  refine ⟨s, s', t, t', hs, hs', ?_, ?_, ?_⟩
  · rw [setStates_concat, hs]
    exact ht
  · rw [setStates_concat, hs']
    exact ht'
  intro hne hne'
  obtain ⟨-, -, htask⟩ := setState_spec hsettled.tasks hne ht
  obtain ⟨-, -, htask'⟩ := setState_spec hsettled'.tasks hne' ht'
  have htype : ∀ i ∈ slots, ∃ entry, regs[i.val]? = some ((s.organPool i).type, entry) := by
    intro i hi
    rw [hsettled.type i hi]
    exact ⟨_, henr.entry i hi⟩
  constructor
  · intro hsame
    by_contra hcond
    simp only [not_or, not_forall, not_not] at hcond
    obtain ⟨⟨r, hr, hcortex⟩, hdiffer⟩ := hcond
    -- the slot of the CORTEX organ
    obtain ⟨n, hn, rfl⟩ := List.mem_take_iff_getElem.1 hr
    obtain ⟨hpool, hlt⟩ := Nat.lt_min.1 hn
    have hi : (⟨n, hpool⟩ : Slot) ∈ slots := (henr.mem _).2 hlt
    obtain ⟨entry, hentry⟩ := htype _ hi
    rw [List.getElem?_eq_getElem hlt, Option.some_inj] at hentry
    have hposture := hsame ⟨n, hpool⟩ hlt
    rw [htask _ hi, htask' _ hi] at hposture
    apply hdiffer
    apply (hsettled.same_cortex_iff hsettled' hne hne' hi _).1 hposture
    rw [← hcortex, hentry]
  · intro hcond i hlt
    have hi : i ∈ slots := (henr.mem i).2 hlt
    rw [htask i hi, htask' i hi]
    by_cases hcortex : (s.organPool i).type = .cortex
    · apply (hsettled.same_cortex_iff hsettled' hne hne' hi hcortex).2
      apply hcond.resolve_left
      intro hnone
      obtain ⟨entry, hentry⟩ := htype i hi
      obtain ⟨hreg, hval⟩ := List.getElem?_eq_some_iff.1 hentry
      apply hnone regs[i.val]
      · exact List.mem_take_iff_getElem.2 ⟨i.val, Nat.lt_min.2 ⟨i.isLt, hreg⟩, rfl⟩
      · rw [hval]
        exact hcortex
    · exact hsettled.same_of_ne_cortex hsettled' hi hcortex

/-- VIGILANT after SURVIVAL leaves a CORTEX organ asleep, and after COMBAT awake. -/
theorem exists_posture_differs :
    ∃ s s' t t', setStates (registerAll [(.cortex, 0x1000)]) [.survival] = some s ∧
      setStates (registerAll [(.cortex, 0x1000)]) [.combat] = some s' ∧
      setStates (registerAll [(.cortex, 0x1000)]) [.survival, .vigilant] = some t ∧
      setStates (registerAll [(.cortex, 0x1000)]) [.combat, .vigilant] = some t' ∧
      s.currentState ≠ .vigilant ∧ s'.currentState ≠ .vigilant ∧
      (t.organPool 0).isSleeping = true ∧ (t'.organPool 0).isSleeping = false ∧
      ¬ SamePosture [(.cortex, 0x1000)] t t' := by
  refine ⟨_, _, _, _, rfl, rfl, rfl, rfl, ?_, ?_, rfl, rfl, ?_⟩
  · decide
  · decide
  · intro hsame
    have hasleep := (hsame 0 (by decide)).2
    exact absurd hasleep (by decide)

end Posture

end OperatingOrganism.Kernel

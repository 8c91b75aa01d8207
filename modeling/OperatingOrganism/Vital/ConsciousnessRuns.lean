import OperatingOrganism.Library.Execution
import OperatingOrganism.Vital.Consciousness

/-!
# Runs of the consciousness

The calls of `consciousness_fsm.c` in any order, beside two accounts that the code does not keep: the transitions
that were accepted, and the ticks since the last of them. A call makes at most one request, which is granted or
not (`ConsciousnessOp.step_cases`). The matrix allows what a timeout asks for, so that no state outlasts its
timeout (`bounded_dwell`).
-/

set_option autoImplicit false

namespace OperatingOrganism.Vital

open OperatingOrganism.Execution OperatingOrganism.UnitedBus

/-- The calls; `elsewhere` is what the rest of the organism does to the bus. -/
inductive ConsciousnessOp where
  | init
  | tick
  | transition (target : ConsciousnessState) (triggerOrgan : UInt8) (reason : List UInt8)
  | elsewhere (bus : Bus)

/-- What a call does. -/
def ConsciousnessOp.run (env : Surroundings) (s : Consciousness) (bus : Bus) : ConsciousnessOp → Consciousness × Bus
  | init => consciousnessInit env s bus
  | tick => consciousnessTick env s bus
  | transition target triggerOrgan reason =>
    let r := consciousnessTransition env s bus target triggerOrgan reason
    (r.1, r.2.1)
  | elsewhere bus' => (s, bus')

/-! ## Requests -/

/-- The arguments of `consciousness_transition`. -/
structure TransitionRequest where
  target : ConsciousnessState
  triggerOrgan : UInt8
  reason : List UInt8

/-- How long a state lasts on its own, the state that follows, and the reason that is given. -/
def ConsciousnessState.timeout : ConsciousnessState → Option (UInt64 × ConsciousnessState × String)
  | aware => some (50000, dreaming, "Idle timeout -> Dreaming")
  | dreaming => some (10000, aware, "Dream cycle complete")
  | alert => some (5000, focused, "Alert resolved autonomously")
  | _ => none

/-- The request of a tick: that of a state that has lasted too long. -/
def Consciousness.overdue (s : Consciousness) : Option TransitionRequest :=
  match s.currentState.timeout with
  | some (limit, target, reason) =>
    if s.timeInState > limit then some ⟨target, organTypeVital, reasonText reason⟩ else none
  | none => none

/-- What a call has written when it comes to its request. -/
def ConsciousnessOp.before (s : Consciousness) : ConsciousnessOp → Consciousness
  | init => { s with currentState := .embryonic, stateEntryCycle := 0 }
  | tick => { s with totalCycles := s.totalCycles + 1 }
  | transition _ _ _ | elsewhere _ => s

/-- The request that a call makes, if it makes one. -/
def ConsciousnessOp.request (s : Consciousness) (op : ConsciousnessOp) : Option TransitionRequest :=
  match op with
  | init => some ⟨.aware, organTypeVital, reasonText "Init sequence complete"⟩
  | tick => (op.before s).overdue
  | transition target triggerOrgan reason => some ⟨target, triggerOrgan, reason⟩
  | elsewhere _ => none

/-- The call of `consciousness_transition` inside another call. -/
def TransitionRequest.submit (env : Surroundings) (s : Consciousness) (bus : Bus) (r : TransitionRequest) :
    Consciousness × Bus × Bool :=
  consciousnessTransition env s bus r.target r.triggerOrgan r.reason

/-- What is to be remembered of a request that is accepted. -/
def TransitionRequest.event (env : Surroundings) (s : Consciousness) (r : TransitionRequest) : TransitionEvent where
  previous := s.currentState
  target := r.target
  timestampNs := s.totalCycles
  triggerOrgan := r.triggerOrgan
  reason := fillReason (env.evtReason r.target) r.reason

/-- The transition that `consciousness_transition` accepts during a call, if it does. -/
def ConsciousnessOp.accepted (env : Surroundings) (s : Consciousness) (bus : Bus) (op : ConsciousnessOp) :
    Option TransitionEvent :=
  match op.request s with
  | some r => if (r.submit env (op.before s) bus).2.2 then some (r.event env (op.before s)) else none
  | none => none

/-- The consciousness and the bus, with every transition that was accepted and the number of ticks since the last
one. -/
structure Mind where
  consciousness : Consciousness
  bus : Bus
  accepted : List TransitionEvent
  ticksInState : Nat

/-- Before the first call. -/
def Mind.boot (bus : Bus) : Mind := ⟨.boot, bus, [], 0⟩

/-- The ticks that a call counts. -/
def ConsciousnessOp.ticks : ConsciousnessOp → Nat
  | tick => 1
  | _ => 0

/-- A call, with the accounts kept. -/
def ConsciousnessOp.step (env : Surroundings) (m : Mind) (op : ConsciousnessOp) : Mind :=
  let event := op.accepted env m.consciousness m.bus
  { consciousness := (op.run env m.consciousness m.bus).1
    bus := (op.run env m.consciousness m.bus).2
    accepted := m.accepted ++ event.toList
    ticksInState := if event.isSome then 0 else m.ticksInState + op.ticks }

/-- The step relation of the calls. -/
def MindStep (m : Mind) (a : Surroundings × ConsciousnessOp) (m' : Mind) : Prop := a.2.step a.1 m = m'

/-- The states of a run, each call in the same surroundings. -/
def mindsFrom (m : Mind) (ops : List ConsciousnessOp) : List ((Surroundings × ConsciousnessOp) × Mind) :=
  driven (fun m a => a.2.step a.1 m) m (ops.map fun op => (quietSurroundings, op))

theorem exec_mindsFrom (m : Mind) (ops : List ConsciousnessOp) : Exec MindStep m (mindsFrom m ops) :=
  exec_driven (fun _ _ => rfl) _ _

/-! ## What a call can do -/

section Calls

variable {env : Surroundings} {s : Consciousness} {bus : Bus} {op : ConsciousnessOp} {r : TransitionRequest}

theorem submit_of_allows (h : s.currentState.Allows r.target) :
    r.submit env s bus =
      (s.enter env r.target r.triggerOrgan r.reason, (unitedBusPump bus (stateGlobule env)).1, true) :=
  if_pos h

theorem submit_of_refuses (h : ¬ s.currentState.Allows r.target) : r.submit env s bus = (s, bus, false) := if_neg h

/-- A tick asks for the transition that is overdue. -/
theorem tick_eq (env : Surroundings) (s : Consciousness) (bus : Bus) :
    consciousnessTick env s bus =
      match ConsciousnessOp.tick.request s with
      | some r =>
        ((r.submit env (ConsciousnessOp.tick.before s) bus).1, (r.submit env (ConsciousnessOp.tick.before s) bus).2.1)
      | none => (ConsciousnessOp.tick.before s, bus) := by
  obtain ⟨history, head, count, state, entry, total, payload⟩ := s
  rw [consciousnessTick, ConsciousnessOp.request, Consciousness.overdue]
  -- the two sides make the same comparison
  have hglide : ∀ (t : Consciousness) (limit : UInt64) (r : TransitionRequest),
      (if t.timeInState > limit then ((r.submit env t bus).1, (r.submit env t bus).2.1) else (t, bus)) =
        match if t.timeInState > limit then some r else none with
        | some r => ((r.submit env t bus).1, (r.submit env t bus).2.1)
        | none => (t, bus) := by
    intro t limit r
    by_cases h : t.timeInState > limit
    · rw [if_pos h, if_pos h]
    · rw [if_neg h, if_neg h]
  cases state with
  | aware => exact hglide _ 50000 ⟨.dreaming, organTypeVital, reasonText "Idle timeout -> Dreaming"⟩
  | dreaming => exact hglide _ 10000 ⟨.aware, organTypeVital, reasonText "Dream cycle complete"⟩
  | alert => exact hglide _ 5000 ⟨.focused, organTypeVital, reasonText "Alert resolved autonomously"⟩
  | void | embryonic | dormant | focused | survival | transcend => rfl

/-- A call is what it does before its request, and the request. -/
theorem run_of_request (h : op.request s = some r) :
    op.run env s bus = ((r.submit env (op.before s) bus).1, (r.submit env (op.before s) bus).2.1) := by
  cases op with
  | init =>
    obtain rfl := Option.some.inj h
    rfl
  | tick =>
    change consciousnessTick env s bus = _
    rw [tick_eq, h]
  | transition target triggerOrgan reason =>
    obtain rfl := Option.some.inj h
    rfl
  | elsewhere bus' => exact nomatch h

/-- A call without a request writes nothing more. -/
theorem run_of_no_request (h : op.request s = none) : (op.run env s bus).1 = op.before s := by
  cases op with
  | init => exact nomatch h
  | tick =>
    change (consciousnessTick env s bus).1 = _
    rw [tick_eq, h]
  | transition target triggerOrgan reason => exact nomatch h
  | elsewhere bus' => rfl

/-- A request that the matrix allows is granted and remembered; otherwise the call only does what precedes its
request. -/
theorem ConsciousnessOp.step_cases (env : Surroundings) (m : Mind) (op : ConsciousnessOp) :
    (∃ r, op.request m.consciousness = some r ∧ (op.before m.consciousness).currentState.Allows r.target ∧
      (op.step env m).consciousness =
        (op.before m.consciousness).enter env r.target r.triggerOrgan r.reason ∧
      (op.step env m).accepted = m.accepted ++ [r.event env (op.before m.consciousness)] ∧
      (op.step env m).ticksInState = 0) ∨
    ((∀ r, op.request m.consciousness = some r → ¬ (op.before m.consciousness).currentState.Allows r.target) ∧
      (op.step env m).consciousness = op.before m.consciousness ∧ (op.step env m).accepted = m.accepted ∧
      (op.step env m).ticksInState = m.ticksInState + op.ticks) := by
  cases hreq : op.request m.consciousness with
  | none =>
    have haccepted : op.accepted env m.consciousness m.bus = none := by rw [accepted, hreq]
    refine .inr ⟨nofun, run_of_no_request hreq, ?_, ?_⟩
    · simp only [step, haccepted, Option.toList_none, List.append_nil]
    · simp only [step, haccepted, Option.isSome_none, Bool.false_eq_true, if_false]
  | some r =>
    by_cases hallow : (op.before m.consciousness).currentState.Allows r.target
    · have haccepted : op.accepted env m.consciousness m.bus = some (r.event env (op.before m.consciousness)) := by
        rw [accepted, hreq]
        dsimp only
        rw [submit_of_allows hallow]
        rfl
      refine .inl ⟨r, rfl, hallow, ?_, ?_, ?_⟩
      · simp only [step, run_of_request hreq, submit_of_allows hallow]
      · simp only [step, haccepted, Option.toList_some]
      · simp only [step, haccepted, Option.isSome_some, if_true]
    · have haccepted : op.accepted env m.consciousness m.bus = none := by
        rw [accepted, hreq]
        dsimp only
        rw [submit_of_refuses hallow]
        rfl
      refine .inr ⟨?_, ?_, ?_, ?_⟩
      · rintro r' ⟨⟩
        exact hallow
      · simp only [step, run_of_request hreq, submit_of_refuses hallow]
      · simp only [step, haccepted, Option.toList_none, List.append_nil]
      · simp only [step, haccepted, Option.isSome_none, Bool.false_eq_true, if_false]

end Calls

/-! ## Dwelling -/

/-- The states that a timeout ends have not lasted longer than it allows. -/
structure Mind.BoundedDwell (m : Mind) : Prop where
  aware : m.consciousness.currentState = .aware → m.ticksInState ≤ 50000
  dreaming : m.consciousness.currentState = .dreaming → m.ticksInState ≤ 10000
  alert : m.consciousness.currentState = .alert → m.ticksInState ≤ 5000

/-- The invariant: the cycles since the entry are the ticks since it, and a state with a timeout keeps to it. -/
structure Mind.Dwells (m : Mind) : Prop where
  ticks : m.consciousness.timeInState = .ofNat m.ticksInState
  bounded : ∀ limit target reason, m.consciousness.currentState.timeout = some (limit, target, reason) →
    m.ticksInState ≤ limit.toNat

section Dwelling

variable {m m' : Mind} {a : Surroundings × ConsciousnessOp}

/-- The matrix allows the transitions of the timeouts, and the cycle counter can exceed the limits. -/
theorem allows_of_timeout {current target : ConsciousnessState} {limit : UInt64} {reason : String}
    (h : current.timeout = some (limit, target, reason)) : current.Allows target ∧ limit.toNat ≤ 50000 := by
  cases current with
  | aware | dreaming | alert =>
    obtain ⟨rfl, rfl, rfl⟩ := h
    decide
  | void | embryonic | dormant | focused | survival | transcend => exact nomatch h

theorem Mind.Dwells.boundedDwell (h : m.Dwells) : m.BoundedDwell where
  aware hstate := h.bounded 50000 .dreaming "Idle timeout -> Dreaming" (by rw [hstate]; rfl)
  dreaming hstate := h.bounded 10000 .aware "Dream cycle complete" (by rw [hstate]; rfl)
  alert hstate := h.bounded 5000 .focused "Alert resolved autonomously" (by rw [hstate]; rfl)

/-- A tick that ends no state. -/
theorem Mind.Dwells.tick (h : m.Dwells) (hstay : ∀ r, ConsciousnessOp.tick.request m.consciousness = some r →
    ¬ (ConsciousnessOp.tick.before m.consciousness).currentState.Allows r.target) :
    (ConsciousnessOp.tick.before m.consciousness).timeInState = .ofNat (m.ticksInState + 1) ∧
      ∀ limit target reason, m.consciousness.currentState.timeout = some (limit, target, reason) →
        m.ticksInState + 1 ≤ limit.toNat := by
  have htime : (ConsciousnessOp.tick.before m.consciousness).timeInState = .ofNat (m.ticksInState + 1) := by
    have hone : m.consciousness.totalCycles + 1 - m.consciousness.stateEntryCycle =
        m.consciousness.timeInState + 1 := by
      rw [Consciousness.timeInState, UInt64.sub_eq_add_neg, UInt64.sub_eq_add_neg]
      rw [UInt64.add_assoc, UInt64.add_comm 1, UInt64.add_assoc]
    rw [UInt64.ofNat_add, ← h.ticks]
    exact hone
  refine ⟨htime, fun limit target reason htimeout => ?_⟩
  have hbound := h.bounded limit target reason htimeout
  obtain ⟨hallow, hlimit⟩ := allows_of_timeout htimeout
  by_contra hlt
  -- the timeout is over, and its request is not refused
  have hlate : (ConsciousnessOp.tick.before m.consciousness).timeInState > limit := by
    rw [htime, gt_iff_lt, UInt64.lt_iff_toNat_lt, UInt64.toNat_ofNat', Nat.mod_eq_of_lt (by omega)]
    exact Nat.not_le.1 hlt
  have hsame : (ConsciousnessOp.tick.before m.consciousness).currentState.timeout = some (limit, target, reason) :=
    htimeout
  refine hstay ⟨target, organTypeVital, reasonText reason⟩ ?_ hallow
  change Consciousness.overdue _ = _
  rw [Consciousness.overdue, hsame]
  exact if_pos hlate

theorem MindStep.dwells (h : MindStep m a m') (hm : m.Dwells) : m'.Dwells := by
  obtain ⟨env, op⟩ := a
  obtain rfl : op.step env m = m' := h
  rcases op.step_cases env m with ⟨r, -, -, hs, -, hticks⟩ | ⟨hstay, hs, -, hticks⟩
  · constructor
    · rw [hs, hticks]
      exact UInt64.sub_self _
    · intro limit target reason _
      rw [hticks]
      exact Nat.zero_le _
  · cases op with
    | init =>
      have hborn : ConsciousnessState.embryonic.Allows .aware := by decide
      exact absurd hborn (hstay _ rfl)
    | tick =>
      obtain ⟨htime, hbounded⟩ := hm.tick hstay
      exact ⟨by rw [hs, hticks]; exact htime, by rw [hs, hticks]; exact hbounded⟩
    | transition _ _ _ | elsewhere _ =>
      exact ⟨by rw [hs, hticks]; exact hm.ticks, by rw [hs, hticks]; exact hm.bounded⟩

/-- In every run of initialisations, ticks and requests, no state lasts longer than its timeout allows. -/
theorem bounded_dwell {bus : Bus} {tr : List ((Surroundings × ConsciousnessOp) × Mind)}
    (h : Exec MindStep (.boot bus) tr) : AllStates Mind.BoundedDwell (.boot bus) tr := by
  have hboot : (Mind.boot bus).Dwells := ⟨UInt64.sub_self _, fun _ _ _ _ => Nat.zero_le _⟩
  have hall : AllStates Mind.Dwells (.boot bus) tr := h.invariant hboot fun m a m' hm hst => hst.dwells hm
  exact hall.imp fun m hm => hm.boundedDwell

/-- An alert, and a second initialisation that ends it. -/
theorem bounded_dwell_second_init :
    AllStates Mind.BoundedDwell (.boot .boot)
      (mindsFrom (.boot .boot) [.init, .tick, .transition .alert 3 [], .tick, .tick, .init, .tick]) :=
  bounded_dwell (exec_mindsFrom _ _)

end Dwelling

end OperatingOrganism.Vital

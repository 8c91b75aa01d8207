import OperatingOrganism.UnitedBus.Bus
import Mathlib.Data.Vector.Defs

/-!
# Consciousness

The automaton of `consciousness_fsm.c`: nine states, a matrix that says which transitions are legal, a journal
of the last 64 transitions. A legal transition is announced by a YELLOW globule that refers to a static copy
of the new state. A request that the matrix forbids is refused, and the caller learns that from the returned
value only.
-/

set_option autoImplicit false

namespace OperatingOrganism.Vital

open OperatingOrganism.UnitedBus

/-- `oo_consciousness_state_t` -/
inductive ConsciousnessState where
  | void | embryonic | dormant | dreaming | aware | focused | alert | survival | transcend
  deriving DecidableEq, Repr

/-- The value of the enumerator. -/
def ConsciousnessState.code : ConsciousnessState → Nat
  | .void => 0
  | .embryonic => 1
  | .dormant => 2
  | .dreaming => 3
  | .aware => 4
  | .focused => 5
  | .alert => 6
  | .survival => 7
  | .transcend => 8

/-- `CONSCIOUSNESS_TRANSITION_MATRIX`: a row for each source, a column for each target. -/
def consciousnessTransitionMatrix : List (List Nat) :=
  [[0, 1, 0, 0, 0, 0, 0, 0, 0],
    [0, 0, 1, 0, 1, 0, 0, 0, 0],
    [0, 0, 0, 1, 1, 0, 0, 0, 0],
    [0, 0, 1, 0, 1, 0, 0, 0, 1],
    [0, 0, 1, 1, 0, 1, 1, 0, 0],
    [0, 0, 0, 0, 1, 0, 1, 0, 1],
    [0, 0, 0, 0, 1, 1, 0, 1, 0],
    [1, 0, 0, 0, 0, 0, 1, 0, 0],
    [0, 0, 1, 1, 1, 1, 1, 1, 0]]

/-- The matrix allows the transition. -/
def ConsciousnessState.Allows (current target : ConsciousnessState) : Prop :=
  (consciousnessTransitionMatrix.getD current.code []).getD target.code 0 ≠ 0

instance (current target : ConsciousnessState) : Decidable (current.Allows target) :=
  inferInstanceAs (Decidable (_ ≠ _))

/-- `ORGAN_TYPE_VITAL` of `vital_spark.h` -/
def organTypeVital : UInt8 := 15

/-- The size of the field `reason`. -/
def reasonSize : Nat := 64

/-- `oo_transition_event_t` -/
structure TransitionEvent where
  previous : ConsciousnessState
  target : ConsciousnessState
  timestampNs : UInt64
  triggerOrgan : UInt8
  reason : Vector UInt8 reasonSize
  deriving DecidableEq

/-- An entry of the zero-initialised journal. -/
def TransitionEvent.zero : TransitionEvent := ⟨.void, .void, 0, 0, .replicate _ 0⟩

/-- `HISTORY_SIZE` of `consciousness_fsm.c` -/
def consciousnessHistorySize : Nat := 64

/-- The static variables of `consciousness_fsm.c`. -/
structure Consciousness where
  history : Vector TransitionEvent consciousnessHistorySize
  historyHead : UInt32
  historyCount : UInt32
  currentState : ConsciousnessState
  stateEntryCycle : UInt64
  totalCycles : UInt64
  /-- the local static variable `state_payload` -/
  statePayload : ConsciousnessState

/-- The static initialisers. -/
def Consciousness.boot : Consciousness := ⟨.replicate _ .zero, 0, 0, .void, 0, 0, .void⟩

/-- What a call finds around it: where the variables are that its globules refer to, what its local record
of an event holds before it is filled (for each state that may be requested), and the pulse count. -/
structure Surroundings where
  statePayloadAddr : UInt64
  painSignalAddr : UInt64
  evtReason : ConsciousnessState → Vector UInt8 reasonSize
  pulseCount : BitVec 64

/-- A place for each variable, and a stack that holds zeros. -/
def quietSurroundings : Surroundings := ⟨4096, 8192, fun _ => .replicate _ 0, 0⟩

/-- The bytes that the copying loop takes from a text: at most 63, and none from its NUL on. -/
def reasonCopied (reason : List UInt8) : List UInt8 := (reason.take 63).takeWhile (· ≠ 0)

/-- The field `reason` after the copy. What lies between the copy and the last byte stays as it was. -/
def fillReason (buffer : Vector UInt8 reasonSize) (reason : List UInt8) : Vector UInt8 reasonSize :=
  .ofFn fun i => if i.val = 63 then 0 else (reasonCopied reason)[i.val]?.getD buffer[i]

/-- A text of the source as bytes, without its NUL. -/
def reasonText (text : String) : List UInt8 := text.toList.map fun c => UInt8.ofNat c.toNat

/-- The globule that announces a transition. -/
def stateGlobule (env : Surroundings) : Globule where
  globuleId := 0
  type := .yellow
  sourceOrgan := organTypeVital
  targetOrgan := organBroadcast
  payloadAddr := env.statePayloadAddr
  payloadSize := 4

section

variable (env : Surroundings)

/-- The writes of a transition that is legal. -/
def Consciousness.enter (s : Consciousness) (target : ConsciousnessState) (triggerOrgan : UInt8)
    (reason : List UInt8) : Consciousness :=
  { s with
    history := s.history.setIfInBounds s.historyHead.toNat
      { previous := s.currentState
        target := target
        timestampNs := s.totalCycles
        triggerOrgan := triggerOrgan
        reason := fillReason (env.evtReason target) reason }
    historyHead := .ofNat ((s.historyHead + 1).toNat % consciousnessHistorySize)
    historyCount := if s.historyCount.toNat < consciousnessHistorySize then s.historyCount + 1 else s.historyCount
    statePayload := target
    currentState := target
    stateEntryCycle := s.totalCycles }

/-- `consciousness_transition`, with its return code. -/
def consciousnessTransition (s : Consciousness) (bus : Bus) (target : ConsciousnessState) (triggerOrgan : UInt8)
    (reason : List UInt8) : Consciousness × Bus × Bool :=
  if s.currentState.Allows target then
    (s.enter env target triggerOrgan reason, (unitedBusPump bus (stateGlobule env)).1, true)
  else (s, bus, false)

/-- `consciousness_init` -/
def consciousnessInit (s : Consciousness) (bus : Bus) : Consciousness × Bus :=
  let s := { s with currentState := .embryonic, stateEntryCycle := 0 }
  let r := consciousnessTransition env s bus .aware organTypeVital (reasonText "Init sequence complete")
  (r.1, r.2.1)

/-- `time_in_state` -/
def Consciousness.timeInState (s : Consciousness) : UInt64 := s.totalCycles - s.stateEntryCycle

/-- `consciousness_tick` -/
def consciousnessTick (s : Consciousness) (bus : Bus) : Consciousness × Bus :=
  let s := { s with totalCycles := s.totalCycles + 1 }
  let glide := fun (limit : UInt64) (target : ConsciousnessState) (reason : String) =>
    if s.timeInState > limit then
      let r := consciousnessTransition env s bus target organTypeVital (reasonText reason)
      (r.1, r.2.1)
    else (s, bus)
  match s.currentState with
  | .aware => glide 50000 .dreaming "Idle timeout -> Dreaming"
  | .dreaming => glide 10000 .aware "Dream cycle complete"
  | .alert => glide 5000 .focused "Alert resolved autonomously"
  | _ => (s, bus)

end

/-! ## The state after a request -/

/-- Where a request leads: to the requested state if the matrix allows that, else nowhere. -/
def ConsciousnessState.request (current target : ConsciousnessState) : ConsciousnessState :=
  if current.Allows target then target else current

section

variable (env : Surroundings) (s : Consciousness) (bus : Bus)

/-- A refused request has no effect. -/
theorem consciousnessTransition_of_refuses {target : ConsciousnessState} (h : ¬ s.currentState.Allows target)
    (organ : UInt8) (reason : List UInt8) :
    consciousnessTransition env s bus target organ reason = (s, bus, false) := if_neg h

@[simp] theorem currentState_transition (target : ConsciousnessState) (organ : UInt8) (reason : List UInt8) :
    (consciousnessTransition env s bus target organ reason).1.currentState = s.currentState.request target := by
  rw [ConsciousnessState.request]
  by_cases h : s.currentState.Allows target
  · rw [consciousnessTransition, if_pos h, if_pos h]
    rfl
  · rw [consciousnessTransition_of_refuses env s bus h, if_neg h]

/-- The organism is aware after the initialisation. -/
@[simp] theorem currentState_init : (consciousnessInit env s bus).1.currentState = .aware := by
  have hborn : ConsciousnessState.embryonic.request .aware = .aware := by decide
  rw [consciousnessInit]
  simp only [currentState_transition]
  exact hborn

end

end OperatingOrganism.Vital

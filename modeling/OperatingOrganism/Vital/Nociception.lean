import OperatingOrganism.Vital.Consciousness
import OperatingOrganism.Vital.Epigenetics

/-!
# Nociception

The six pain receptors of `nociception.c`. A signal is weighed, damped by endorphins and accumulated; a searing
one asks the consciousness for `ALERT`, an agonising one then asks for `SURVIVAL`. Nobody looks at the answers.
Agony is heard if and only if the state is neither one of sleep nor one before birth, and a searing pain in the
same states except `SURVIVAL`, which it ends (`painHeard_iff`).
-/

set_option autoImplicit false

namespace OperatingOrganism.Vital

open OperatingOrganism.ByteLayout OperatingOrganism.Execution OperatingOrganism.UnitedBus

/-- `oo_pain_level_t` -/
inductive PainLevel where
  | none | discomfort | acute | chronic | searing | agony
  deriving DecidableEq, Repr

/-- The value of the enumerator. -/
def PainLevel.code : PainLevel → Nat
  | .none => 0
  | .discomfort => 1
  | .acute => 2
  | .chronic => 3
  | .searing => 4
  | .agony => 5

/-! ## The sources of pain (`oo_pain_source_t`) -/

def painSourceCpu : UInt32 := 0
def painSourceMemory : UInt32 := 1
def painSourceDisk : UInt32 := 2
def painSourceNetwork : UInt32 := 3
def painSourceIntegrity : UInt32 := 4
def painSourceTemporal : UInt32 := 5

/-- `oo_pain_signal_t` -/
structure PainSignal where
  level : PainLevel
  source : UInt32
  timestamp : UInt64
  rawErrorCode : UInt32
  endorphinDampened : UInt8
  deriving DecidableEq, Repr

/-- The layout of `oo_pain_signal_t`. -/
def painSignalType : CType := .struct [.int 4, .int 4, .int 8, .int 4, .int 1]

/-- `oo_nociceptor_t` -/
structure Nociceptor where
  watches : UInt32
  sensitivity : UInt8
  totalSignals : UInt32
  lastSignal : PainSignal
  deriving DecidableEq, Repr

/-- A receptor of the zero-initialised array. -/
def Nociceptor.zero : Nociceptor := ⟨0, 0, 0, ⟨.none, 0, 0, 0, 0⟩⟩

/-- `MAX_NOCICEPTORS` -/
def maxNociceptors : Nat := 6

/-- The static variables of `nociception.c`. -/
structure Nociception where
  nociceptors : Fin maxNociceptors → Nociceptor
  globalPainAccumulator : UInt32
  endorphinLevel : UInt8
  painTickCounter : UInt64

/-- The static initialisers. -/
def Nociception.boot : Nociception := ⟨fun _ => .zero, 0, 0, 0⟩

/-- `PAIN_WEIGHT` -/
def painWeight (level : PainLevel) : UInt32 := [0, 1, 5, 10, 30, 100].getD level.code 0

/-- What pain acts on. -/
structure Nerves where
  consciousness : Consciousness
  nociception : Nociception
  bus : Bus
  memory : EpigeneticMemory

/-- When the process starts. -/
def Nerves.boot : Nerves := ⟨.boot, .boot, .boot, .zero⟩

/-- The state of consciousness. -/
abbrev Nerves.state (s : Nerves) : ConsciousnessState := s.consciousness.currentState

/-- `nociception_init` -/
def nociceptionInit (s : Nociception) : Nociception :=
  { s with
    nociceptors := fun i =>
      { watches := .ofNat i
        sensitivity := 128
        totalSignals := 0
        lastSignal := { (s.nociceptors i).lastSignal with level := .none } }
    globalPainAccumulator := 0
    endorphinLevel := 0 }

/-- `nociception_inject_endorphin` -/
def nociceptionInjectEndorphin (s : Nociception) (dose : UInt8) : Nociception :=
  let total := s.endorphinLevel.toUInt16 + dose.toUInt16
  { s with endorphinLevel := if total > 255 then 255 else total.toUInt8 }

/-! ## `nociception_fire` -/

/-- `effective_pain` -/
def Nociception.effectivePain (s : Nociception) (receptor : Nociceptor) (level : PainLevel) : UInt32 :=
  let effectivePain := painWeight level * receptor.sensitivity.toUInt32 / 128
  if s.endorphinLevel > 0 then
    let damping := effectivePain * s.endorphinLevel.toUInt32 / 255
    if effectivePain > damping then effectivePain - damping else 0
  else effectivePain

/-- The accumulation of a signal. -/
def Nociception.accumulate (s : Nociception) (i : Fin maxNociceptors) (level : PainLevel) (errorCode : UInt32) :
    Nociception :=
  let receptor := s.nociceptors i
  { s with
    globalPainAccumulator := s.globalPainAccumulator + s.effectivePain receptor level
    nociceptors := Function.update s.nociceptors i
      { receptor with
        totalSignals := receptor.totalSignals + 1
        lastSignal :=
          { level := level
            source := .ofNat i
            timestamp := s.painTickCounter
            rawErrorCode := errorCode
            endorphinDampened := if s.endorphinLevel > 0 then 1 else 0 } } }

/-- The sensitivity after a signal: habituation, or sensitisation. -/
def Nociception.adapt (s : Nociception) (i : Fin maxNociceptors) (level : PainLevel) : Nociception :=
  let receptor := s.nociceptors i
  let sensitivity :=
    if level.code ≤ PainLevel.discomfort.code ∧ receptor.totalSignals > 100 then
      if receptor.sensitivity > 30 then receptor.sensitivity - 1 else receptor.sensitivity
    else if PainLevel.acute.code ≤ level.code then
      if receptor.sensitivity < 250 then receptor.sensitivity + 2 else receptor.sensitivity
    else receptor.sensitivity
  { s with nociceptors := Function.update s.nociceptors i { receptor with sensitivity := sensitivity } }

/-- The white globule of a searing pain. It refers to the local variable of the caller. -/
def painGlobule (env : Surroundings) : Globule where
  globuleId := 0
  type := .white
  sourceOrgan := 15
  targetOrgan := organBroadcast
  payloadAddr := env.painSignalAddr
  payloadSize := .ofNat painSignalType.size

section

variable (env : Surroundings)

/-- A request to the consciousness; its answer is not looked at. -/
def Nerves.request (s : Nerves) (target : ConsciousnessState) (organ : UInt8) (reason : List UInt8) : Nerves :=
  let r := consciousnessTransition env s.consciousness s.bus target organ reason
  { s with consciousness := r.1, bus := r.2.1 }

/-- What a searing pain sets off. -/
def Nerves.alarm (s : Nerves) : Nerves :=
  let s := s.request env .alert organTypeVital (reasonText "Acute pain detected")
  { s with bus := (unitedBusPump s.bus (painGlobule env)).1 }

/-- What agony sets off. -/
def Nerves.agonise (s : Nerves) : Nerves :=
  let s := s.request env .survival organTypeVital (reasonText "Agony threshold breached")
  { s with
    nociception := nociceptionInjectEndorphin s.nociception 200
    memory := vitalMarkExperience env.pulseCount (-5) s.memory }

/-- `nociception_fire` -/
def nociceptionFire (s : Nerves) (source : UInt32) (level : PainLevel) (errorCode : UInt32) : Nerves :=
  if h : source.toNat < maxNociceptors then
    let i : Fin maxNociceptors := ⟨source.toNat, h⟩
    let s := { s with nociception := s.nociception.accumulate i level errorCode }
    let s := if PainLevel.searing.code ≤ level.code then s.alarm env else s
    let s := if PainLevel.agony.code ≤ level.code then s.agonise env else s
    { s with nociception := s.nociception.adapt i level }
  else s

/-- `nociception_tick` -/
def nociceptionTick (s : Nerves) : Nerves :=
  let n := s.nociception
  let pain :=
    if n.globalPainAccumulator > 0 then n.globalPainAccumulator * 254 / 255 else n.globalPainAccumulator
  let n :=
    { n with
      painTickCounter := n.painTickCounter + 1
      globalPainAccumulator := pain
      endorphinLevel := if n.endorphinLevel > 0 then n.endorphinLevel - 1 else n.endorphinLevel }
  { s with
    nociception := n
    memory :=
      if n.globalPainAccumulator > 5000 ∧ n.painTickCounter % 10000 = 0 then
        vitalMarkExperience env.pulseCount (-1) s.memory
      else s.memory }

/-! ## The nerves as a transition system -/

/-- A call of `consciousness_fsm.c` or `nociception.c`, or what the other organs leave of the bus and of the
epigenetic memory. -/
inductive NerveOp where
  | consciousnessInit
  | consciousnessTransition (target : ConsciousnessState) (triggerOrgan : UInt8) (reason : List UInt8)
  | consciousnessTick
  | nociceptionInit
  | nociceptionFire (source : UInt32) (level : PainLevel) (errorCode : UInt32)
  | nociceptionInjectEndorphin (dose : UInt8)
  | nociceptionTick
  | elsewhere (bus : Bus) (memory : EpigeneticMemory)

/-- The state after a call. -/
def NerveOp.run (s : Nerves) : NerveOp → Nerves
  | .consciousnessInit =>
    let r := Vital.consciousnessInit env s.consciousness s.bus
    { s with consciousness := r.1, bus := r.2 }
  | .consciousnessTransition target organ reason => s.request env target organ reason
  | .consciousnessTick =>
    let r := Vital.consciousnessTick env s.consciousness s.bus
    { s with consciousness := r.1, bus := r.2 }
  | .nociceptionInit => { s with nociception := Vital.nociceptionInit s.nociception }
  | .nociceptionFire source level errorCode => Vital.nociceptionFire env s source level errorCode
  | .nociceptionInjectEndorphin dose =>
    { s with nociception := Vital.nociceptionInjectEndorphin s.nociception dose }
  | .nociceptionTick => Vital.nociceptionTick env s
  | .elsewhere bus memory => { s with bus := bus, memory := memory }

end

/-- A call in its surroundings. -/
def NerveStep (s : Nerves) (a : Surroundings × NerveOp) (t : Nerves) : Prop := a.2.run a.1 s = t

/-! ## What pain does to the state -/

section

variable (env : Surroundings) (s : Nerves)

@[simp] theorem state_request (target : ConsciousnessState) (organ : UInt8) (reason : List UInt8) :
    (s.request env target organ reason).state = s.state.request target :=
  currentState_transition env s.consciousness s.bus target organ reason

@[simp] theorem state_alarm : (s.alarm env).state = s.state.request .alert := state_request env s ..

@[simp] theorem state_agonise : (s.agonise env).state = s.state.request .survival := state_request env s ..

variable {source : UInt32} (h : source.toNat < maxNociceptors) (errorCode : UInt32)

include h

/-- A searing pain asks for `ALERT`. -/
theorem state_fire_searing :
    (nociceptionFire env s source .searing errorCode).state = s.state.request .alert := by
  rw [nociceptionFire, dif_pos h]
  exact state_alarm env _

/-- Agony asks for `ALERT`, and then for `SURVIVAL`. -/
theorem state_fire_agony :
    (nociceptionFire env s source .agony errorCode).state = (s.state.request .alert).request .survival := by
  rw [nociceptionFire, dif_pos h]
  refine (state_agonise env _).trans ?_
  exact congrArg (·.request .survival) (state_alarm env _)

end

/-- The states of sleep, and those before birth. -/
def ConsciousnessState.Unrousable (c : ConsciousnessState) : Prop :=
  c = .void ∨ c = .embryonic ∨ c = .dormant ∨ c = .dreaming

instance (c : ConsciousnessState) : Decidable c.Unrousable := inferInstanceAs (Decidable (_ ∨ _))

theorem request_survival_iff (c : ConsciousnessState) :
    (c.request .alert).request .survival = .survival ↔ ¬ c.Unrousable := by
  cases c <;> decide

theorem request_alert_iff (c : ConsciousnessState) :
    ((c.request .alert = .alert ∨ c.request .alert = .survival) ∧
        (c = .survival → c.request .alert = .survival)) ↔
      ¬ c.Unrousable ∧ c ≠ .survival := by
  cases c <;> decide

/-- A pain of the two highest levels raises the alertness: agony leads to `SURVIVAL`, and a searing pain to
`ALERT` or `SURVIVAL`, never out of the latter. -/
def PainHeard (s : Nerves) (a : Surroundings × NerveOp) : Prop :=
  match a.2 with
  | .nociceptionFire source level errorCode =>
    let t := nociceptionFire a.1 s source level errorCode
    source.toNat < maxNociceptors →
      (level = .agony → t.state = .survival) ∧
      (level = .searing →
        (t.state = .alert ∨ t.state = .survival) ∧ (s.state = .survival → t.state = .survival))
  | _ => True

/-- A pain of the two highest levels comes in a state in which it is heard. -/
def PainAwake (s : Nerves) (a : Surroundings × NerveOp) : Prop :=
  match a.2 with
  | .nociceptionFire source level _ =>
    source.toNat < maxNociceptors →
      (level = .agony → ¬ s.state.Unrousable) ∧
      (level = .searing → ¬ s.state.Unrousable ∧ s.state ≠ .survival)
  | _ => True

theorem painHeard_iff (s : Nerves) (a : Surroundings × NerveOp) : PainHeard s a ↔ PainAwake s a := by
  obtain ⟨env, op⟩ := a
  cases op with
  | nociceptionFire source level errorCode =>
    refine imp_congr_right fun hsource => and_congr (imp_congr_right ?_) (imp_congr_right ?_)
    · rintro rfl
      rw [state_fire_agony env s hsource]
      exact request_survival_iff s.state
    · rintro rfl
      rw [state_fire_searing env s hsource]
      exact request_alert_iff s.state
  | _ => exact Iff.rfl

/-- In every run from an initialisation of the consciousness, all pains of the two highest levels are heard if
and only if each of them comes in a state in which it is heard. -/
theorem all_pain_heard_iff {env : Surroundings} {s : Nerves} {tr : List ((Surroundings × NerveOp) × Nerves)}
    (h : Exec NerveStep (NerveOp.consciousnessInit.run env s) tr) :
    AllSteps PainHeard (NerveOp.consciousnessInit.run env s) tr ↔
      AllSteps PainAwake (NerveOp.consciousnessInit.run env s) tr :=
  h.allSteps_congr (I := fun _ => True) trivial (fun _ _ _ _ _ _ => trivial) fun s a _ => painHeard_iff s a

/-! ### Waking and sleeping -/

/-- The organism after its initialisation. -/
def awakeNerves : Nerves := NerveOp.consciousnessInit.run quietSurroundings .boot

/-- The request of the nadir of the internal day. -/
def nadirRequest : NerveOp := .consciousnessTransition .dreaming organTypeVital (reasonText "Nadir")

/-- The pain of an organism that is not viable any more. -/
def viabilityPain : NerveOp := .nociceptionFire painSourceCpu .agony 0xDEAD0001

theorem state_awakeNerves : awakeNerves.state = .aware := currentState_init quietSurroundings .boot .boot

/-- One pain in the waking state. -/
def awakePain : List ((Surroundings × NerveOp) × Nerves) :=
  [((quietSurroundings, viabilityPain), viabilityPain.run quietSurroundings awakeNerves)]

theorem exec_awakePain : Exec NerveStep awakeNerves awakePain := ⟨rfl, trivial⟩

/-- It is heard. -/
theorem agony_heard_awake : AllSteps PainHeard awakeNerves awakePain := by
  refine (all_pain_heard_iff exec_awakePain).2 ⟨?_, trivial⟩
  rintro -
  refine ⟨fun _ => ?_, fun h => by cases h⟩
  rw [← awakeNerves, state_awakeNerves]
  decide

/-- In a dream it is not: the organism goes on dreaming. -/
theorem exists_pain_not_heard : ∃ (env : Surroundings) (s : Nerves)
    (tr : List ((Surroundings × NerveOp) × Nerves)),
    Exec NerveStep (NerveOp.consciousnessInit.run env s) tr ∧
      ¬ AllSteps PainHeard (NerveOp.consciousnessInit.run env s) tr := by
  let dream := nadirRequest.run quietSurroundings awakeNerves
  refine ⟨quietSurroundings, .boot, [((quietSurroundings, nadirRequest), dream),
    ((quietSurroundings, viabilityPain), viabilityPain.run quietSurroundings dream)],
    ⟨rfl, rfl, trivial⟩, ?_⟩
  rintro ⟨-, hpain, -⟩
  have hdream : dream.state = .dreaming := by
    refine (state_request quietSurroundings awakeNerves _ _ _).trans ?_
    rw [state_awakeNerves]
    decide
  have hheard := ((painHeard_iff _ _).1 hpain (by decide)).1 rfl
  apply hheard
  rw [hdream]
  decide

end OperatingOrganism.Vital

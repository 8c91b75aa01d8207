import OperatingOrganism.Vital.DreamSimulator
import OperatingOrganism.Vital.HebbianLearning
import OperatingOrganism.Vital.HomeostasisRegulator
import OperatingOrganism.Vital.Metabolism
import OperatingOrganism.Vital.PinealGland
import OperatingOrganism.Vital.QuantumVault
import OperatingOrganism.Vital.SynapsePropagation

/-!
# The life loop

`life_loop.c` as a whole: the birth of the organism, and the heartbeat, in which every subsystem has a layer. The
static variables of all the files are the fields of `Organism`; what a beat finds outside of them (the time that the
steel tick takes, the clock, the guardian, the entropy, the places of variables and what the stack holds) is
its `World`. Between two beats the other organs leave any bus.

A beat does not come back when the Ouroboros stops the organism, when a word of the Forth calls itself for ever, and
when the bus is read for ever. Messages to `oo_print` are left out.
-/

set_option autoImplicit false

namespace OperatingOrganism.Vital.LifeLoop

open OperatingOrganism.ByteLayout OperatingOrganism.Execution OperatingOrganism.UnitedBus

/-- `circadian_phase_t` -/
inductive CircadianPhase where
  | dawn | zenith | dusk | nadir
  deriving DecidableEq, Repr

/-- The value of the enumerator. -/
def CircadianPhase.code : CircadianPhase → Nat
  | .dawn => 0
  | .zenith => 1
  | .dusk => 2
  | .nadir => 3

/-- `(circadian_phase + 1) % 4` -/
def CircadianPhase.next : CircadianPhase → CircadianPhase
  | .dawn => .zenith
  | .zenith => .dusk
  | .dusk => .nadir
  | .nadir => .dawn

/-- `CIRCADIAN_PHASE_DURATION` -/
def circadianPhaseDuration : BitVec 64 := 25000

/-! ## The nodes of the synapse network -/

def synNodePain : BitVec 8 := 0
def synNodeEnergy : BitVec 8 := 1
def synNodeConsciousness : BitVec 8 := 2
def synNodeEntropy : BitVec 8 := 3
def synNodeAura : BitVec 8 := 4
def synNodeDream : BitVec 8 := 5
def synNodeGuardian : BitVec 8 := 6
def synNodeHomeostasis : BitVec 8 := 7

/-- The static variables of the files of the vital organ. -/
structure Organism (D : Type) where
  spark : VitalSpark
  circadianPhase : CircadianPhase
  phaseStartPulse : BitVec 64
  nerves : Nerves
  metabolism : Metabolism
  board : HomeostasisBoard
  synapses : SynapseNetwork
  simRngState : BitVec 64
  yinWeight : BitVec 32
  aura : Aura
  /-- the local static variable `sine_wave`, which is the intensity of the aura as well -/
  sineWave : UInt8
  lastLattice : LastLattice
  dictionary : ForthDictionary
  forthStack : List (BitVec 64)
  /-- the local static variable `vital_payload` -/
  vitalPayload : List UInt8
  storage : Option D

/-- When the process starts; the device is what `vital_persistence_init` is given. -/
def Organism.boot {D : Type} (storage : Option D) : Organism D where
  spark := ⟨0, 0, 0, 0, 0, 0⟩
  circadianPhase := .dawn
  phaseStartPulse := 0
  nerves := .boot
  metabolism := .boot
  board := ⟨⟨0, 0, 0, 0, 0⟩, ⟨0, 0, 0, 0, 0⟩, ⟨0, 0, 0, 0, 0⟩, ⟨0, 0, 0, 0, 0⟩, ⟨0, 0, 0, 0, 0⟩, ⟨0, 0, 0, 0, 0⟩,
    ⟨0, 0, 0, 0, 0⟩, ⟨0, 0, 0, 0, 0⟩⟩
  synapses := .zero
  simRngState := simRngBoot
  yinWeight := 1000
  aura := ⟨0, 0, 0⟩
  sineWave := 0
  lastLattice := fun _ => 0
  dictionary := .boot
  forthStack := []
  vitalPayload := [0, 0, 0, 0]
  storage := storage

/-- What a beat finds outside of the organism. -/
structure World where
  /-- the time that the loop of the steel tick takes -/
  burnTime : BitVec 64
  /-- the registers of the real-time clock -/
  rtcHours : BitVec 8
  rtcRegB : BitVec 8
  guardianState : UInt8
  rawEntropy : UInt64
  /-- the surroundings of the calls of a layer, but for the pulse count -/
  surroundings : Nat → Surroundings
  /-- the unset fields of a globule on the stack -/
  stackGlobule : Globule
  /-- where the entropy of the beat and `vital_payload` are -/
  entropyAddr : UInt64
  vitalPayloadAddr : UInt64
  /-- what the stack holds where the Soma-DNA will be -/
  dnaStack : Bytes
  /-- the memory that globules refer to, and what lies behind the dictionary -/
  memory : UInt64 → UInt8
  beyond : Nat → UInt8

/-- Why a beat does not come back. -/
inductive Halt where
  | ouroborosPanic
  | endless
  deriving DecidableEq, Repr

section

variable {D : Type} (oo : OoStorage D) (w : World) (o : Organism D)

/-! ## Birth -/

/-- The budgets that `vital_init` registers: the cortex, the bot, the senses, the kernel, and vital itself. -/
def initialBudgets : List (UInt8 × UInt64) := [(0, 300000), (1, 200000), (2, 100000), (3, 100000), (15, 50000)]

/-- `vital_init`; `none` if the loading of the Soma-DNA has no defined outcome. -/
def vitalInit (env : Surroundings) (dnaStack : Bytes) : Option (Organism D) := do
  let mind := consciousnessInit env o.nerves.consciousness o.nerves.bus
  let metabolism := metabolismInit o.metabolism 1000000
  let metabolism := initialBudgets.foldl (fun m budget => metabolismRegisterOrgan m budget.1 budget.2) metabolism
  -- the spark, the synapses and the epigenetic memory, up to the loading
  let s ← Vital.vitalInit oo dnaStack o.storage ⟨o.spark, o.synapses, o.nerves.memory⟩
  some { o with
    spark := s.spark
    synapses := s.synapses
    nerves := ⟨mind.1, nociceptionInit o.nerves.nociception, mind.2, s.memory⟩
    metabolism := metabolism
    board := homeostasisInit }

/-! ## Short forms -/

/-- The surroundings of the calls of a layer. -/
def Organism.surroundings (layer : Nat) : Surroundings :=
  { w.surroundings layer with pulseCount := o.spark.pulseCount }

/-- `vital_shift_balance` -/
def Organism.shiftBalance (force : BitVec 32) (weight : BitVec 8) : Organism D :=
  { o with spark := vitalShiftBalance force weight o.spark }

/-- `synapse_stimulate` -/
def Organism.stimulate (nodeId : BitVec 8) (signal : BitVec 16) : Organism D :=
  { o with synapses := synapseStimulate nodeId signal o.synapses }

/-- `vital_get_personality_influence` -/
def Organism.personality : BitVec 8 := o.nerves.memory.personalityBias

/-- `metabolism_is_starving` -/
def metabolismIsStarving (m : Metabolism) : Prop :=
  m.liver.totalEnergyPool < (m.liver.basalMetabolicRate * 10).toUInt64

instance (m : Metabolism) : Decidable (metabolismIsStarving m) := inferInstanceAs (Decidable (_ < _))

/-- `synapse_get_activation` -/
def synapseGetActivation (nodeId : BitVec 8) (s : SynapseNetwork) : BitVec 16 :=
  ((findNode s.nodes nodeId).bind (s.nodes[·]?)).elim 0 SynapseNode.activation

/-! ## The layers of a beat -/

/-- Layer 0: `vital_steel_tick` -/
def steelTick : Organism D :=
  { o with
    spark := { o.spark with pulseCount := o.spark.pulseCount + 1, jitter := o.spark.jitter + w.burnTime } }

/-- What the life loop does when a phase begins. -/
def Organism.enterPhase : Organism D :=
  let request := fun target reason =>
    o.nerves.request (o.surroundings w 1) target organTypeVital (reasonText reason)
  match o.circadianPhase with
  | .dawn => { o with nerves := request .aware "Dawn", spark := { o.spark with currentForce := forceYang } }
  | .zenith => { o with nerves := request .focused "Zenith" }
  | .dusk => { o with nerves := request .aware "Dusk" }
  | .nadir =>
    { o with
      nerves := request .dreaming "Nadir"
      spark := { o.spark with currentForce := forceYin, ageCycles := o.spark.ageCycles + 1 } }

/-- Layer 1: the circadian rhythm. -/
def layerTime : Organism D :=
  let phaseAge := o.spark.pulseCount - o.phaseStartPulse
  if circadianPhaseDuration ≤ phaseAge then
    let o := { o with phaseStartPulse := o.spark.pulseCount, circadianPhase := o.circadianPhase.next }
    let o := o.enterPhase w
    { o with spark := vitalPinealGlandSync w.rtcHours w.rtcRegB o.spark }
  else o

/-- Layer 2: pain. -/
def layerPain : Organism D :=
  let o := { o with nerves := nociceptionTick (o.surroundings w 2) o.nerves }
  let pain := o.nerves.nociception.globalPainAccumulator
  o.stimulate synNodePain (if 127 < pain then 127 else pain.toBitVec.setWidth 16)

/-- Layer 3: energy. -/
def layerEnergy : Organism D :=
  let r := metabolismTick (o.surroundings w 3) o.metabolism o.nerves
  let o := { o with metabolism := r.1, nerves := r.2 }
  if metabolismIsStarving o.metabolism then (o.stimulate synNodeEnergy 100).shiftBalance forceYin 20 else o

/-- `homeostasis_regulate` in the organism. -/
def Organism.regulate : Organism D :=
  let h := homeostasisRegulate w.stackGlobule ⟨o.board, o.spark, o.nerves.bus⟩
  { o with board := h.board, spark := h.spark, nerves := { o.nerves with bus := h.bus } }

/-- Layer 4: homeostasis. -/
def layerHomeostasis : Except Halt (Organism D) :=
  let o := o.regulate w
  if homeostasisIsViable o.board then .ok o
  else
    let o := { o with nerves := nociceptionFire (o.surroundings w 4) o.nerves painSourceCpu .agony 0xDEAD0001 }
    let o := o.stimulate synNodeHomeostasis 120
    if metabolismIsStarving o.metabolism ∧ 200 < o.spark.tension.toNat then .error .ouroborosPanic else .ok o

/-- Layer 5: consciousness. -/
def layerConsciousness : Organism D :=
  let r := consciousnessTick (o.surroundings w 5) o.nerves.consciousness o.nerves.bus
  let o := { o with nerves := { o.nerves with consciousness := r.1, bus := r.2 } }
  o.stimulate synNodeConsciousness (.ofNat 16 (o.nerves.state.code * 10))

/-- Layer 6: the guardian. -/
def layerGuardian : Organism D :=
  if 1 ≤ w.guardianState then
    let o := o.stimulate synNodeGuardian (.ofNat 16 (w.guardianState.toNat * 50))
    if w.guardianState = 2 then
      { o with nerves := nociceptionFire (o.surroundings w 6) o.nerves painSourceIntegrity .searing 0xBAD00002 }
    else o
  else o

/-- `yang_weight`, which nothing writes. -/
def yangWeight : BitVec 32 := 1000

/-- The globule of a mutation burst. -/
def mutationGlobule : Globule where
  globuleId := w.stackGlobule.globuleId
  type := .yellow
  sourceOrgan := 15
  targetOrgan := 10
  payloadAddr := w.entropyAddr
  payloadSize := 8

/-- `vital_generate_biotic_noise` -/
def vitalGenerateBioticNoise : Organism D :=
  let decision := w.rawEntropy.toUInt8
  let o :=
    if 200 < decision then
      { o with nerves := { o.nerves with bus := (unitedBusPump o.nerves.bus (mutationGlobule w)).1 } }
    else o
  if o.yinWeight * 2 < yangWeight then { o with yinWeight := o.yinWeight + 100 } else o

/-- Layer 7: entropy. -/
def layerEntropy : Organism D :=
  (vitalGenerateBioticNoise w o).stimulate synNodeEntropy
    (((w.rawEntropy.toBitVec &&& 0x3F) - 32).setWidth 16)

/-- Layer 8: dreams. -/
def layerDream : Organism D :=
  if o.circadianPhase = .nadir ∧ o.spark.pulseCount % 1000 = 0 then
    let r := dreamSimulate o.personality o.simRngState (dreamScenarioOf o.personality)
    let o :=
      { o with
        simRngState := r.2
        nerves := { o.nerves with memory := dreamApplyLessons o.spark.pulseCount r.1 o.nerves.memory } }
    o.stimulate synNodeDream (r.1.survivalRate.setWidth 16)
  else o

/-- Layer 9: the synapses. -/
def layerSynapses : Organism D := { o with synapses := synapseHebbianLearning (synapsePropagate o.synapses) }

/-- `vital_update_aura` -/
def vitalUpdateAura (tension : UInt8) (force : BitVec 32) : Organism D :=
  { o with
    aura := if force = forceYang then ⟨tension, tension, 255⟩ else ⟨128 - tension / 2, 0, tension⟩
    sineWave := o.sineWave + 5 }

/-- Layer 10: the aura. -/
def layerAura : Organism D :=
  let o := vitalUpdateAura o (.ofBitVec o.spark.tension) o.spark.currentForce
  if 100 < (synapseGetActivation synNodeAura o.synapses).toInt then { o with aura := ⟨255, 0, 0⟩ } else o

/-- Layer 11: the oscillation between Yin and Yang. -/
def layerOscillation : Organism D :=
  let tension :=
    if o.spark.tension < o.personality then o.spark.tension + 1
    else if o.personality < o.spark.tension then o.spark.tension - 1
    else o.spark.tension
  let force :=
    if 160 < tension.toNat then forceYin
    else if tension.toNat < 96 then forceYang
    else o.spark.currentForce
  { o with spark := { o.spark with tension := tension, currentForce := force } }

/-- The hormone of the heart. -/
def hormoneGlobule : Globule where
  globuleId := w.stackGlobule.globuleId
  type := .yellow
  sourceOrgan := 15
  targetOrgan := organBroadcast
  payloadAddr := w.vitalPayloadAddr
  payloadSize := 4

/-- The four bytes of the hormone. -/
def Organism.payload : List UInt8 :=
  [.ofNat o.spark.currentForce.toNat, .ofBitVec o.spark.tension, .ofNat o.circadianPhase.code,
    .ofNat o.nerves.state.code]

/-- Layer 12: the hormones. -/
def layerBroadcast : Organism D :=
  if o.spark.pulseCount % 100 = 0 then
    { o with
      vitalPayload := o.payload
      nerves := { o.nerves with bus := (unitedBusPump o.nerves.bus (hormoneGlobule w)).1 } }
  else o

/-- `vital_persistence_save` in the organism. -/
def Organism.save : Organism D :=
  let r := vitalPersistenceSave oo w.dnaStack o.storage ⟨o.spark, o.synapses, o.nerves.memory⟩
  { o with
    storage := r.1
    spark := r.2.spark
    synapses := r.2.synapses
    nerves := { o.nerves with memory := r.2.memory } }

/-- Layer 15: the quantum signature. -/
def layerSignature : Organism D :=
  let pulse : UInt64 := .ofBitVec o.spark.pulseCount
  let word := w.rawEntropy ^^^ pulse
  if signs pulse then { o with lastLattice := vitalQuantumSign word }.save oo w
  else if vitalQuantumVerify o.lastLattice word = 0 then
    { o with nerves := feelViolation (w.surroundings 15) pulse o.nerves }
  else o

/-- Layer 14: the epigenetic influence. -/
def layerEpigenetic : Organism D :=
  let bias := o.personality
  let tension := o.spark.tension
  let tension := if bias.toNat < 100 ∧ 50 < tension.toNat then tension - 1 else tension
  let tension := if 150 < bias.toNat ∧ tension.toNat < 200 then tension + 1 else tension
  { o with spark := { o.spark with tension := tension } }

/-- What the Forth acts on. -/
def Organism.forthState : ForthState :=
  ⟨o.forthStack, o.spark, o.aura, o.nerves.nociception.globalPainAccumulator.toBitVec⟩

/-- The two instructions of `vital_metabolic_tick`: a quantity, and the injection of Yin. -/
def injectYin (fuel : Nat) : Option ForthState := do
  let s ← vitalForthExec o.dictionary w.beyond fuel o.forthState (ascii '5')
  vitalForthExec o.dictionary w.beyond fuel s (ascii 'y')

/-- `vital_metabolic_tick` -/
def vitalMetabolicTick (fuel : Nat) : Except Halt (Organism D) :=
  if 150 < o.spark.tension.toNat then
    match injectYin w o fuel with
    | some s => .ok { o with forthStack := s.forthStack, spark := s.spark, aura := s.aura }
    | none => .error .endless
  else .ok o

/-- What the organism learns from a message. -/
def Organism.learn (message : List Globule) : Organism D :=
  match message with
  | [] => o
  | edu :: _ =>
    if edu.sourceOrgan = organCortex ∧ edu.type = .red ∧ 2 ≤ edu.payloadSize then
      let code := fun j => w.memory (edu.payloadAddr + 1 + .ofNat j)
      { o with
        dictionary := forthLearnWord o.dictionary (w.memory edu.payloadAddr) code (edu.payloadSize - 1).toUInt8 }
    else o

/-- Layer 15: what the cortex teaches. -/
def layerMorphogenesis (fuel : Nat) : Except Halt (Organism D) :=
  if o.spark.pulseCount % 50 = 0 then
    match unitedBusAbsorb fuel o.nerves.bus 15 1 with
    | some (bus, message) => .ok (Organism.learn w { o with nerves := { o.nerves with bus := bus } } message)
    | none => .error .endless
  else .ok o

/-- The layers 0 to 3. -/
def layersOfSensing : Organism D := layerEnergy w (layerPain w (layerTime w (steelTick w o)))

/-- The layers 5 to 14, up to the Forth. -/
def layersOfLife : Organism D :=
  let o := layerConsciousness w o
  let o := layerGuardian w o
  let o := layerEntropy w o
  let o := layerDream o
  let o := layerSynapses o
  let o := layerAura o
  let o := layerOscillation o
  let o := layerBroadcast w o
  let o := layerSignature oo w o
  layerEpigenetic o

/-- `vital_eternal_heartbeat`; `fuel` bounds the calls of the Forth and the reading of the bus. -/
def vitalEternalHeartbeat (fuel : Nat) : Except Halt (Organism D) := do
  let o ← layerHomeostasis w (layersOfSensing w o)
  let o ← vitalMetabolicTick w (layersOfLife oo w o) fuel
  layerMorphogenesis w o fuel

/-- The organism between two beats, when the other organs leave this bus. -/
def Organism.withBus (bus : Bus) : Organism D := { o with nerves := { o.nerves with bus := bus } }

/-- A beat that comes back, over the bus that the other organs leave. -/
def BeatStep (o : Organism D) (a : Bus × World) (o' : Organism D) : Prop :=
  ∃ fuel, vitalEternalHeartbeat oo a.2 (o.withBus a.1) fuel = .ok o'

end

end OperatingOrganism.Vital.LifeLoop

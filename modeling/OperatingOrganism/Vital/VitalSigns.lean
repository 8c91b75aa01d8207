import OperatingOrganism.Vital.ConsciousnessRuns
import OperatingOrganism.Vital.LifeLoop

/-!
# Vital signs

What the long-term behaviour of the life loop depends on: the circadian clock, the board of the homeostasis, the
liver and the attention. A beat acts on these signs as a small machine of its own does (`BeatStep.signs`), whose only
input is whether the guardian is critical: neither the entropy nor the synapses, the dreams, the Forth or the bus
have any influence on them.

An organism that regulation leaves viable passes the layer of the homeostasis, and the Ouroboros is not called
(`not_panic_of_viable`).
-/

set_option autoImplicit false

namespace OperatingOrganism.Vital.LifeLoop

open OperatingOrganism.Execution OperatingOrganism.UnitedBus OperatingOrganism.WordMachine

/-! ## The machine -/

/-- The state of consciousness, and how long it has lasted. -/
structure Attention where
  state : ConsciousnessState
  entered : UInt64
  cycles : UInt64
  deriving DecidableEq

/-- A request for a transition. -/
def Attention.request (m : Attention) (target : ConsciousnessState) : Attention :=
  if m.state.Allows target then { m with state := target, entered := m.cycles } else m

/-- A tick, with the transition of a state that has lasted too long. -/
def Attention.tick (m : Attention) : Attention :=
  let m := { m with cycles := m.cycles + 1 }
  match m.state.timeout with
  | some (limit, target, _) => if m.cycles - m.entered > limit then m.request target else m
  | none => m

/-- The circadian clock, and the days that were counted. -/
structure CircadianClock where
  pulse : BitVec 64
  phaseStart : BitVec 64
  phase : CircadianPhase
  days : BitVec 8
  deriving DecidableEq

/-- The phase is over. -/
def CircadianClock.Over (c : CircadianClock) : Prop := circadianPhaseDuration ≤ c.pulse - c.phaseStart

instance (c : CircadianClock) : Decidable c.Over := inferInstanceAs (Decidable (_ ≤ _))

def CircadianClock.advance (c : CircadianClock) : CircadianClock := { c with pulse := c.pulse + 1 }

/-- The next phase begins. -/
def CircadianClock.turn (c : CircadianClock) : CircadianClock where
  pulse := c.pulse
  phaseStart := c.pulse
  phase := c.phase.next
  days := if c.phase.next = .nadir then c.days + 1 else c.days

/-- A pulse, and the turn that is due. -/
def CircadianClock.tick (c : CircadianClock) : CircadianClock :=
  if c.advance.Over then c.advance.turn else c.advance

/-- The state of consciousness that a phase asks for. -/
def CircadianPhase.asks : CircadianPhase → ConsciousnessState
  | .dawn => .aware
  | .zenith => .focused
  | .dusk => .aware
  | .nadir => .dreaming

/-- What a tick of the metabolism makes of the liver. -/
def digest (l : Liver) (state : ConsciousnessState) : Liver :=
  (match l.payBasal.regeneration state with
    | some amount =>
      { l.payBasal with
        totalEnergyPool := l.payBasal.totalEnergyPool + amount
        energyGenerated := l.payBasal.energyGenerated + amount }
    | none => l.payBasal).adapt

/-- The vital signs. -/
structure Signs where
  clock : CircadianClock
  board : HomeostasisBoard
  liver : Liver
  attention : Attention

def Signs.advance (s : Signs) : Signs := { s with clock := s.clock.advance }

/-- A phase that is over gives way to the next one, which asks for its state. -/
def Signs.passTime (s : Signs) : Signs :=
  if s.clock.Over then
    { s with clock := s.clock.turn, attention := s.attention.request s.clock.phase.next.asks }
  else s

/-- A famine is painful. -/
def Signs.fedAttention (s : Signs) : Attention :=
  if s.liver.Affords then s.attention else s.attention.request .alert

def Signs.feed (s : Signs) : Signs :=
  { s with liver := digest s.liver s.fedAttention.state, attention := s.fedAttention }

def Signs.regulate (s : Signs) : Signs := { s with board := s.board.regulate }

def Signs.attend (s : Signs) : Signs := { s with attention := s.attention.tick }

/-- A critical guardian is painful. -/
def Signs.beware (critical : Prop) [Decidable critical] (s : Signs) : Signs :=
  if critical then { s with attention := s.attention.request .alert } else s

/-- A beat of a viable organism. -/
def Signs.beat (critical : Prop) [Decidable critical] (s : Signs) : Signs :=
  s.advance.passTime.feed.regulate.attend.beware critical

section

variable (s : Signs) (critical : Prop) [Decidable critical]

@[simp] theorem clock_passTime : s.passTime.clock = if s.clock.Over then s.clock.turn else s.clock := by
  rw [Signs.passTime]
  split <;> rfl

@[simp] theorem board_passTime : s.passTime.board = s.board := by
  rw [Signs.passTime]
  split <;> rfl

@[simp] theorem liver_passTime : s.passTime.liver = s.liver := by
  rw [Signs.passTime]
  split <;> rfl

@[simp] theorem clock_beware : (s.beware critical).clock = s.clock := by
  rw [Signs.beware]
  split <;> rfl

@[simp] theorem board_beware : (s.beware critical).board = s.board := by
  rw [Signs.beware]
  split <;> rfl

@[simp] theorem liver_beware : (s.beware critical).liver = s.liver := by
  rw [Signs.beware]
  split <;> rfl

theorem clock_beat : (s.beat critical).clock = s.clock.tick := by
  rw [Signs.beat, clock_beware, Signs.attend, Signs.regulate, Signs.feed, clock_passTime, CircadianClock.tick,
    Signs.advance]

theorem board_beat : (s.beat critical).board = s.board.regulate := by
  rw [Signs.beat, board_beware, Signs.attend, Signs.regulate, Signs.feed, board_passTime, Signs.advance]

end

/-! ## The signs of the organism -/

/-- The attention of a consciousness. -/
def attentionOf (c : Consciousness) : Attention := ⟨c.currentState, c.stateEntryCycle, c.totalCycles⟩

section

variable {D : Type}

def Organism.clock (o : Organism D) : CircadianClock :=
  ⟨o.spark.pulseCount, o.phaseStartPulse, o.circadianPhase, o.spark.ageCycles⟩

def Organism.signs (o : Organism D) : Signs :=
  ⟨o.clock, o.board, o.metabolism.liver, attentionOf o.nerves.consciousness⟩

theorem board_signs (o : Organism D) : o.signs.board = o.board := rfl

theorem clock_signs (o : Organism D) : o.signs.clock = o.clock := rfl

theorem liver_signs (o : Organism D) : o.signs.liver = o.metabolism.liver := rfl

theorem state_signs (o : Organism D) : o.signs.attention.state = o.nerves.state := rfl

/-! ### The nerves -/

variable (env : Surroundings) (s : Nerves)

theorem attention_request (target : ConsciousnessState) (organ : UInt8) (reason : List UInt8) :
    attentionOf (s.request env target organ reason).consciousness = (attentionOf s.consciousness).request target := by
  have hstate : (attentionOf s.consciousness).state = s.consciousness.currentState := rfl
  rw [Attention.request, hstate, Nerves.request, consciousnessTransition]
  split <;> rfl

/-- A signal acts on the attention by the requests of its level. -/
theorem attention_fire {source : UInt32} (h : source.toNat < maxNociceptors) (level : PainLevel) (errorCode : UInt32) :
    attentionOf (nociceptionFire env s source level errorCode).consciousness =
      (let m := attentionOf s.consciousness
       let m := if PainLevel.searing.code ≤ level.code then m.request .alert else m
       if PainLevel.agony.code ≤ level.code then m.request .survival else m) := by
  have halarm : ∀ t : Nerves,
      attentionOf (t.alarm env).consciousness = (attentionOf t.consciousness).request .alert :=
    fun t => attention_request env t ..
  have hagonise : ∀ t : Nerves,
      attentionOf (t.agonise env).consciousness = (attentionOf t.consciousness).request .survival :=
    fun t => attention_request env t ..
  rw [nociceptionFire, dif_pos h]
  by_cases hsearing : PainLevel.searing.code ≤ level.code
  · by_cases hagony : PainLevel.agony.code ≤ level.code
    · simp only [if_pos hsearing, if_pos hagony, hagonise, halarm]
    · simp only [if_pos hsearing, if_neg hagony, halarm]
  · by_cases hagony : PainLevel.agony.code ≤ level.code
    · simp only [if_neg hsearing, if_pos hagony, hagonise]
    · simp only [if_neg hsearing, if_neg hagony]

theorem attention_tick (c : Consciousness) (bus : Bus) :
    attentionOf (consciousnessTick env c bus).1 = (attentionOf c).tick := by
  have hglide : ∀ (c : Consciousness) (limit : UInt64) (target : ConsciousnessState) (reason : List UInt8),
      attentionOf (if c.timeInState > limit then
        ((consciousnessTransition env c bus target organTypeVital reason).1,
          (consciousnessTransition env c bus target organTypeVital reason).2.1) else (c, bus)).1 =
        if c.totalCycles - c.stateEntryCycle > limit then (attentionOf c).request target else attentionOf c := by
    intro c limit target reason
    by_cases h : c.timeInState > limit
    · rw [if_pos h]
      exact (attention_request env ⟨c, .boot, bus, .zero⟩ target organTypeVital reason).trans (if_pos h).symm
    · rw [if_neg h]
      exact (if_neg h).symm
  obtain ⟨history, head, count, state, entry, total, payload⟩ := c
  cases state with
  | aware => exact hglide _ 50000 .dreaming (reasonText "Idle timeout -> Dreaming")
  | dreaming => exact hglide _ 10000 .aware (reasonText "Dream cycle complete")
  | alert => exact hglide _ 5000 .focused (reasonText "Alert resolved autonomously")
  | void | embryonic | dormant | focused | survival | transcend => rfl

/-- A tick of the metabolism: the attention follows the famine, and the liver the attention. -/
theorem liver_tick (m : Metabolism) :
    (metabolismTick env m s).1.liver = digest m.liver (feelFamine env m.liver s).state := by
  rw [tick_liver, digest]
  cases m.liver.payBasal.regeneration (feelFamine env m.liver s).state <;> rfl

theorem attention_famine (l : Liver) :
    attentionOf (feelFamine env l s).consciousness =
      if l.Affords then attentionOf s.consciousness else (attentionOf s.consciousness).request .alert := by
  rw [feelFamine]
  split
  · rfl
  · exact attention_fire env s (by decide) .searing 0xFADE0001

end

/-! ### The layers -/

section Layers

variable {D : Type} (oo : OoStorage D) (w : World) (o : Organism D)

/-- The fields of a spark that no shift of the balance writes. -/
theorem clock_shift (force : BitVec 32) (weight : BitVec 8) (spark : VitalSpark) :
    (vitalShiftBalance force weight spark).pulseCount = spark.pulseCount ∧
      (vitalShiftBalance force weight spark).ageCycles = spark.ageCycles := by
  rw [vitalShiftBalance]
  split <;> exact ⟨rfl, rfl⟩

theorem signs_shiftBalance (force : BitVec 32) (weight : BitVec 8) :
    (o.shiftBalance force weight).signs = o.signs := by
  obtain ⟨hpulse, hage⟩ := clock_shift force weight o.spark
  simp only [Organism.signs, Organism.clock, Organism.shiftBalance, hpulse, hage]

@[simp] theorem signs_stimulate (nodeId : BitVec 8) (signal : BitVec 16) :
    (o.stimulate nodeId signal).signs = o.signs := rfl

theorem signs_steelTick : (steelTick w o).signs = o.signs.advance := rfl

/-- What begins with a phase. -/
theorem signs_enterPhase : (o.enterPhase w).signs =
    { o.signs with
      clock := { o.clock with days := if o.circadianPhase = .nadir then o.clock.days + 1 else o.clock.days }
      attention := o.signs.attention.request o.circadianPhase.asks } := by
  have hrequest := attention_request (o.surroundings w 1) o.nerves
  cases hphase : o.circadianPhase <;>
    simp only [Organism.enterPhase, hphase, Organism.signs, Organism.clock, CircadianPhase.asks, hrequest] <;> rfl

theorem signs_layerTime : (layerTime w o).signs = o.signs.passTime := by
  by_cases h : o.clock.Over
  · have hlayer : layerTime w o = _ := if_pos h
    have hsigns : o.signs.passTime = _ := if_pos h
    rw [hlayer, hsigns]
    refine (signs_shiftBalance _ _ _).trans ?_
    rw [signs_enterPhase]
    rfl
  · have hlayer : layerTime w o = _ := if_neg h
    have hsigns : o.signs.passTime = _ := if_neg h
    rw [hlayer, hsigns]

theorem signs_layerPain : (layerPain w o).signs = o.signs := rfl

theorem signs_layerEnergy : (layerEnergy w o).signs = o.signs.feed := by
  have hattention := attention_famine (o.surroundings w 3) o.nerves o.metabolism.liver
  have hsigns : { o with
      metabolism := (metabolismTick (o.surroundings w 3) o.metabolism o.nerves).1
      nerves := (metabolismTick (o.surroundings w 3) o.metabolism o.nerves).2 : Organism D }.signs = o.signs.feed := by
    have hfed : attentionOf (feelFamine (o.surroundings w 3) o.metabolism.liver o.nerves).consciousness =
        o.signs.fedAttention := hattention
    have hliver := liver_tick (o.surroundings w 3) o.nerves o.metabolism
    rw [Signs.feed, ← hfed]
    exact congrArg (fun l => (⟨o.clock, o.board, l, _⟩ : Signs)) hliver
  rw [layerEnergy]
  dsimp only
  split
  · exact (signs_shiftBalance ..).trans hsigns
  · exact hsigns

theorem signs_regulate : (o.regulate w).signs = o.signs.regulate := by
  obtain ⟨hpulse, hage⟩ :=
    clock_shift (if o.board.regulate.tensionYinYang.value > 128 then forceYin else forceYang) 1 o.spark
  simp only [Organism.signs, Organism.clock, Organism.regulate, homeostasisRegulate, hpulse, hage]
  rfl

/-- A viable organism passes the layer. -/
theorem layerHomeostasis_of_viable (h : homeostasisIsViable o.board.regulate = true) :
    layerHomeostasis w o = .ok (o.regulate w) := if_pos h

theorem signs_layerConsciousness : (layerConsciousness w o).signs = o.signs.attend := by
  have hattention := attention_tick (o.surroundings w 5) o.nerves.consciousness o.nerves.bus
  rw [Signs.attend]
  exact congrArg (fun m => (⟨o.clock, o.board, o.metabolism.liver, m⟩ : Signs)) hattention

theorem signs_layerGuardian : (layerGuardian w o).signs = o.signs.beware (w.guardianState = 2) := by
  have hattention : ∀ nerves : Nerves,
      attentionOf (nociceptionFire (o.surroundings w 6) nerves painSourceIntegrity .searing 0xBAD00002).consciousness =
        (attentionOf nerves.consciousness).request .alert :=
    fun nerves => attention_fire _ nerves (by decide) .searing _
  rw [layerGuardian, Signs.beware]
  by_cases hcritical : w.guardianState = 2
  · have hsome : 1 ≤ w.guardianState := by
      rw [hcritical]
      decide
    rw [if_pos hsome, if_pos hcritical, if_pos hcritical]
    exact congrArg (fun m => (⟨o.clock, o.board, o.metabolism.liver, m⟩ : Signs)) (hattention o.nerves)
  · rw [if_neg hcritical, if_neg hcritical]
    split <;> rfl

theorem signs_layerEntropy : (layerEntropy w o).signs = o.signs := by
  rw [layerEntropy, signs_stimulate, vitalGenerateBioticNoise]
  dsimp only
  split <;> split <;> rfl

theorem signs_layerDream : (layerDream o).signs = o.signs := by
  rw [layerDream]
  split <;> rfl

theorem signs_layerSynapses : (layerSynapses o).signs = o.signs := rfl

theorem signs_layerAura : (layerAura o).signs = o.signs := by
  rw [layerAura]
  split <;> rfl

theorem signs_layerOscillation : (layerOscillation o).signs = o.signs := rfl

theorem signs_layerBroadcast : (layerBroadcast w o).signs = o.signs := by
  rw [layerBroadcast]
  split <;> rfl

/-- A save writes the device only. -/
theorem save_eq : o.save oo w = { o with
    storage := (vitalPersistenceSave oo w.dnaStack o.storage ⟨o.spark, o.synapses, o.nerves.memory⟩).1 } := by
  rw [Organism.save]
  cases o.storage with
  | none => rfl
  | some device => simp only [vitalPersistenceSave, somaDna_eq]

theorem signs_layerSignature : (layerSignature oo w o).signs = o.signs := by
  rw [layerSignature]
  split
  · rw [save_eq]
    rfl
  · split
    · have hattention := attention_fire
        { w.surroundings 15 with pulseCount := (UInt64.ofBitVec o.spark.pulseCount).toBitVec } o.nerves
        (show painSourceIntegrity.toNat < maxNociceptors by decide) .acute 0xBAD516
      exact congrArg (fun m => (⟨o.clock, o.board, o.metabolism.liver, m⟩ : Signs)) hattention
    · rfl

theorem signs_layerEpigenetic : (layerEpigenetic o).signs = o.signs := rfl

/-- A spark without its tension. -/
def untensed (spark : VitalSpark) : VitalSpark := { spark with tension := 0 }

theorem untensed_shift (force : BitVec 32) (weight : BitVec 8) (spark : VitalSpark) :
    untensed (vitalShiftBalance force weight spark) = untensed spark := by
  rw [vitalShiftBalance]
  split <;> rfl

theorem spark_pop (s : ForthState) : (forthPop s).2.spark = s.spark := by
  rw [forthPop]
  split <;> rfl

theorem spark_push (s : ForthState) (val : BitVec 64) : (forthPush s val).spark = s.spark := by
  rw [forthPush]
  split <;> rfl

theorem spark_binary (op : BitVec 64 → BitVec 64 → BitVec 64) (s : ForthState) :
    (forthBinary op s).spark = s.spark := by
  rw [forthBinary, spark_push, spark_pop, spark_pop]

theorem untensed_forthShift (force : BitVec 32) (s : ForthState) :
    untensed (forthShift force s).spark = untensed s.spark := by
  rw [forthShift]
  exact (untensed_shift ..).trans (congrArg untensed (spark_pop s))

/-- What both branches keep. -/
theorem keeps_ite {α β : Type} {f : α → β} {p : Prop} [Decidable p] {x y : α} {b : β} (hx : f x = b) (hy : f y = b) :
    f (if p then x else y) = b := by
  split
  · exact hx
  · exact hy

/-- Of the spark, the Forth writes the tension only. -/
theorem untensed_effect (c : UInt8) (s : ForthState) : untensed (forthEffect c s).spark = untensed s.spark := by
  have hpush : ∀ val, untensed (forthPush s val).spark = untensed s.spark :=
    fun val => congrArg untensed (spark_push s val)
  have hbinary : ∀ op, untensed (forthBinary op s).spark = untensed s.spark :=
    fun op => congrArg untensed (spark_binary op s)
  have hshift : ∀ force, untensed (forthShift force s).spark = untensed s.spark :=
    fun force => untensed_forthShift force s
  have hpop : untensed (forthPop s).2.spark = untensed s.spark := congrArg untensed (spark_pop s)
  -- one line for each primitive, in the order of the switch
  have hprimitive : untensed (forthPrimitive c s).spark = untensed s.spark := by
    rw [forthPrimitive]
    apply keeps_ite (f := fun s : ForthState => untensed s.spark) (hbinary _)
    apply keeps_ite (f := fun s : ForthState => untensed s.spark) (hbinary _)
    apply keeps_ite (f := fun s : ForthState => untensed s.spark) (hbinary _)
    apply keeps_ite (f := fun s : ForthState => untensed s.spark) (hshift _)
    apply keeps_ite (f := fun s : ForthState => untensed s.spark) (hshift _)
    apply keeps_ite (f := fun s : ForthState => untensed s.spark) (hpush _)
    apply keeps_ite (f := fun s : ForthState => untensed s.spark) (hpush _)
    apply keeps_ite (f := fun s : ForthState => untensed s.spark) (hpush _)
    apply keeps_ite (f := fun s : ForthState => untensed s.spark) hpop
    exact keeps_ite (f := fun s : ForthState => untensed s.spark) rfl rfl
  rw [forthEffect]
  apply keeps_ite (f := fun s : ForthState => untensed s.spark) rfl
  exact keeps_ite (f := fun s : ForthState => untensed s.spark) (hpush _) hprimitive

variable {w o} {o' : Organism D} {fuel : Nat}

theorem untensed_exec {d : ForthDictionary} {beyond : Nat → UInt8} {s t : ForthState} {c : UInt8}
    (h : vitalForthExec d beyond fuel s c = some t) : untensed t.spark = untensed s.spark := by
  rw [vitalForthExec_eq_run] at h
  exact run_keeps (f := fun s : ForthState => untensed s.spark) (fun c s => untensed_effect c s) h

/-- What the metabolic tick writes: the stack of the Forth, the tension and the aura. -/
theorem metabolicTick_cases (h : vitalMetabolicTick w o fuel = .ok o') :
    o' = o ∨ ∃ s, injectYin w o fuel = some s ∧ untensed s.spark = untensed o.spark ∧
      o' = { o with forthStack := s.forthStack, spark := s.spark, aura := s.aura } := by
  rw [vitalMetabolicTick] at h
  split at h
  · cases hinject : injectYin w o fuel with
    | none =>
      rw [hinject] at h
      cases h
    | some s =>
      rw [hinject] at h
      obtain ⟨t, hdigit, hyin⟩ := Option.bind_eq_some_iff.1 hinject
      exact .inr ⟨s, rfl, (untensed_exec hyin).trans (untensed_exec hdigit), (Except.ok.inj h).symm⟩
  · exact .inl (Except.ok.inj h).symm

theorem signs_metabolicTick (h : vitalMetabolicTick w o fuel = .ok o') : o'.signs = o.signs := by
  rcases metabolicTick_cases h with rfl | ⟨s, -, hspark, rfl⟩
  · rfl
  · have hpulse : s.spark.pulseCount = o.spark.pulseCount :=
      show (untensed s.spark).pulseCount = (untensed o.spark).pulseCount by rw [hspark]
    have hage : s.spark.ageCycles = o.spark.ageCycles :=
      show (untensed s.spark).ageCycles = (untensed o.spark).ageCycles by rw [hspark]
    simp only [Organism.signs, Organism.clock, hpulse, hage]

/-- What the morphogenesis writes: the bus and the dictionary. -/
theorem morphogenesis_cases (h : layerMorphogenesis w o fuel = .ok o') :
    o' = o ∨ ∃ bus message, unitedBusAbsorb fuel o.nerves.bus 15 1 = some (bus, message) ∧
      o' = Organism.learn w { o with nerves := { o.nerves with bus := bus } } message := by
  rw [layerMorphogenesis] at h
  split at h
  · cases habsorb : unitedBusAbsorb fuel o.nerves.bus 15 1 with
    | none =>
      rw [habsorb] at h
      cases h
    | some r =>
      rw [habsorb] at h
      exact .inr ⟨r.1, r.2, rfl, (Except.ok.inj h).symm⟩
  · exact .inl (Except.ok.inj h).symm

theorem signs_learn (message : List Globule) : (o.learn w message).signs = o.signs := by
  cases message with
  | nil => rfl
  | cons edu rest =>
    rw [Organism.learn]
    split <;> rfl

theorem signs_morphogenesis (h : layerMorphogenesis w o fuel = .ok o') : o'.signs = o.signs := by
  rcases morphogenesis_cases h with rfl | ⟨bus, message, -, rfl⟩
  · rfl
  · exact signs_learn message

end Layers

/-! ## A beat -/

section Beat

variable {D : Type} {oo : OoStorage D} {w : World} {o o' : Organism D} {fuel : Nat}

theorem bind_eq_ok_iff {ε α β : Type} {x : Except ε α} {f : α → Except ε β} {b : β} :
    x.bind f = .ok b ↔ ∃ a, x = .ok a ∧ f a = .ok b := by
  cases x with
  | error e => exact iff_of_false nofun fun ⟨_, h, _⟩ => nomatch h
  | ok a =>
    constructor
    · intro h
      exact ⟨a, rfl, h⟩
    · rintro ⟨a', h, hf⟩
      rwa [← Except.ok.inj h] at hf

theorem heartbeat_eq : vitalEternalHeartbeat oo w o fuel =
    (layerHomeostasis w (layersOfSensing w o)).bind fun o₁ =>
      (vitalMetabolicTick w (layersOfLife oo w o₁) fuel).bind fun o₂ => layerMorphogenesis w o₂ fuel := rfl

/-- The parts of a beat that comes back. -/
theorem heartbeat_ok_iff : vitalEternalHeartbeat oo w o fuel = .ok o' ↔
    ∃ o₁, layerHomeostasis w (layersOfSensing w o) = .ok o₁ ∧
      ∃ o₂, vitalMetabolicTick w (layersOfLife oo w o₁) fuel = .ok o₂ ∧ layerMorphogenesis w o₂ fuel = .ok o' := by
  rw [heartbeat_eq]
  simp only [bind_eq_ok_iff]

theorem signs_layersOfSensing (w : World) (o : Organism D) :
    (layersOfSensing w o).signs = o.signs.advance.passTime.feed := by
  rw [layersOfSensing, signs_layerEnergy, signs_layerPain, signs_layerTime, signs_steelTick]

theorem signs_layersOfLife (oo : OoStorage D) (w : World) (o : Organism D) :
    (layersOfLife oo w o).signs = o.signs.attend.beware (w.guardianState = 2) := by
  rw [layersOfLife]
  simp only [signs_layerEpigenetic, signs_layerSignature, signs_layerBroadcast, signs_layerOscillation,
    signs_layerAura, signs_layerSynapses, signs_layerDream, signs_layerEntropy, signs_layerGuardian,
    signs_layerConsciousness]

/-- No layer before the homeostasis touches the board. -/
theorem board_layersOfSensing (w : World) (o : Organism D) : (layersOfSensing w o).board = o.board := by
  rw [← board_signs, signs_layersOfSensing, Signs.feed, board_passTime, Signs.advance, board_signs]

theorem homeostasis_of_viable (w : World) (h : homeostasisIsViable o.board.regulate = true) :
    layerHomeostasis w (layersOfSensing w o) = .ok ((layersOfSensing w o).regulate w) :=
  layerHomeostasis_of_viable w _ (by rw [board_layersOfSensing]; exact h)

@[simp] theorem board_withBus (o : Organism D) (bus : Bus) : (o.withBus bus).board = o.board := rfl

@[simp] theorem signs_withBus (o : Organism D) (bus : Bus) : (o.withBus bus).signs = o.signs := rfl

/-- In a beat of a viable organism, the signs change as the machine says. -/
theorem BeatStep.signs {a : Bus × World} (h : BeatStep oo o a o')
    (hviable : homeostasisIsViable o.board.regulate = true) : o'.signs = o.signs.beat (a.2.guardianState = 2) := by
  obtain ⟨fuel, hbeat⟩ := h
  obtain ⟨o₁, hhomeostasis, o₂, htick, hmorphogenesis⟩ := heartbeat_ok_iff.1 hbeat
  rw [← board_withBus o a.1] at hviable
  rw [homeostasis_of_viable a.2 hviable] at hhomeostasis
  rw [signs_morphogenesis hmorphogenesis, signs_metabolicTick htick, signs_layersOfLife,
    ← Except.ok.inj hhomeostasis, signs_regulate, signs_layersOfSensing, signs_withBus, Signs.beat]

/-- A viable organism is not stopped. -/
theorem not_panic_of_viable (oo : OoStorage D) (w : World) (fuel : Nat)
    (h : homeostasisIsViable o.board.regulate = true) :
    vitalEternalHeartbeat oo w o fuel ≠ .error .ouroborosPanic := by
  have htick : ∀ t : Organism D, vitalMetabolicTick w t fuel ≠ .error .ouroborosPanic := by
    intro t ht
    rw [vitalMetabolicTick] at ht
    split at ht
    · split at ht <;> cases ht
    · cases ht
  have hmorphogenesis : ∀ t : Organism D, layerMorphogenesis w t fuel ≠ .error .ouroborosPanic := by
    intro t ht
    rw [layerMorphogenesis] at ht
    split at ht
    · split at ht <;> cases ht
    · cases ht
  -- only the layer of homeostasis panics, and it is passed; the Forth runs out of fuel at most
  rw [heartbeat_eq, homeostasis_of_viable w h]
  generalize (layersOfSensing w o).regulate w = t
  intro hpanic
  cases hforth : vitalMetabolicTick w (layersOfLife oo w t) fuel with
  | error e =>
    have he : e = .ouroborosPanic := by
      simpa only [Except.bind, hforth, Except.error.injEq] using hpanic
    rw [he] at hforth
    exact htick _ hforth
  | ok t' =>
    refine hmorphogenesis t' ?_
    simpa only [Except.bind, hforth] using hpanic

end Beat

end OperatingOrganism.Vital.LifeLoop

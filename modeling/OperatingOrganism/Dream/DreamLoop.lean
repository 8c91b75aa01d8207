import OperatingOrganism.ControlPlanes.HomeostasisMode
import OperatingOrganism.Kernel.Scheduler
import OperatingOrganism.UnitedBus.Contents
import OperatingOrganism.Vital.Consciousness

/-!
# The dream loop

`dream_daemon.c` listens to the YELLOW globules of the bus. It takes the byte behind `payload_addr` for a state
of the scheduler, where 0 stands for `OO_STATE_RELAXED`, and goes to sleep when it finds 0. But the organs that
send YELLOW globules put three other things there: a null address with a code in `payload_size`, the address of
the state of consciousness, and the address of the record of the vital hormone. Nobody announces a state of the
scheduler.

So the loop keeps to the contract if and only if it never handles a globule with a null address, never one of
the consciousness while the state announced last is `VOID`, and never a hormone while the force sent last is
Yang (`dream_contract_iff`).
-/

set_option autoImplicit false

namespace OperatingOrganism.Dream

open OperatingOrganism.ControlPlanes OperatingOrganism.Execution OperatingOrganism.Kernel
  OperatingOrganism.UnitedBus OperatingOrganism.Vital

/-- `DREAM_ORGAN_ID` -/
def dreamOrganId : UInt8 := 7

/-- The size of `inbox`. -/
def inboxSize : Int := 10

/-- Where `state_payload` and `vital_payload` are. -/
structure PayloadPlaces where
  state : UInt64
  vital : UInt64
  state_ne : state ≠ 0
  vital_ne : vital ≠ 0
  apart : state ≠ vital

/-- `vital_payload` -/
structure VitalPayload where
  currentForce : UInt8
  tension : UInt8
  circadianPhase : UInt8
  state : UInt8
  deriving DecidableEq, Repr

/-- The static variables that the producers and the dream loop use, and the part of `inbox` that the loop has
not handled yet. -/
structure Organism where
  control : ControlState
  consciousness : Consciousness
  vitalPayload : VitalPayload
  inbox : List Globule
  isSleeping : Bool
  sleepLearnings : Nat

/-- When the process starts. -/
def Organism.boot : Organism where
  control := ⟨.boot, .normal, .boot⟩
  consciousness := .boot
  vitalPayload := ⟨0, 0, 0, 0⟩
  inbox := []
  isSleeping := false
  sleepLearnings := 0

abbrev Organism.bus (s : Organism) : Bus := s.control.bus

def Organism.withBus (s : Organism) (bus : Bus) : Organism := { s with control := { s.control with bus := bus } }

/-! ## The reflexes and the hormone -/

/-- `ORGAN_REFLEX_SOURCE` -/
def organReflexSource : UInt8 := 8

/-- `OO_REFLEX_THERMAL` -/
def ooReflexThermal : UInt32 := 0x04

/-- `reflex_on_thermal_burn` -/
def reflexOnThermalBurn (bus : Bus) : Bus :=
  (unitedBusPump bus (broadcastGlobule .yellow organReflexSource ooReflexThermal)).1

/-- `reflex_on_pain`, up to the halt of the processor. -/
def reflexOnPain (bus : Bus) : Bus := (unitedBusBroadcastWhite bus organReflexSource 0x01).1

/-- `reflex_thermal_check` -/
def reflexThermalCheck (bus : Bus) (tempCelsius : UInt32) : Bus :=
  if tempCelsius > 85 then
    let bus := (unitedBusBroadcastWhite bus organReflexSource ooReflexThermal).1
    let bus := (unitedBusBroadcastYellow bus organReflexSource 0xA0FE0001).1
    reflexOnThermalBurn bus
  else bus

section

variable (places : PayloadPlaces)

/-- The globule of the vital hormone. -/
def hormoneGlobule : Globule where
  globuleId := 0
  type := .yellow
  sourceOrgan := 15
  targetOrgan := organBroadcast
  payloadAddr := places.vital
  payloadSize := 4

/-- The hormone layer of `vital_eternal_heartbeat`. -/
def hormonalBroadcast (s : Organism) (currentForce tension circadianPhase : UInt8) : Organism :=
  { s.withBus (unitedBusPump s.bus (hormoneGlobule places)).1 with
    vitalPayload := ⟨currentForce, tension, circadianPhase, .ofNat s.consciousness.currentState.code⟩ }

/-! ## `dream_baremetal_loop` -/

/-- The byte at an address; `elsewhere` is what the machine finds at any other one. -/
def Organism.byteAt (s : Organism) (elsewhere : UInt8) (addr : UInt64) : UInt8 :=
  if addr = places.state then .ofNat s.consciousness.statePayload.code
  else if addr = places.vital then s.vitalPayload.currentForce
  else elsewhere

/-- The body of the loop over `inbox`. -/
def Organism.listen (s : Organism) (elsewhere : UInt8) (g : Globule) : Organism :=
  if g.type = .yellow then
    let state := s.byteAt places elsewhere g.payloadAddr
    if state = 0 then
      if s.isSleeping then s else { s with isSleeping := true, sleepLearnings := s.sleepLearnings + 1 }
    else { s with isSleeping := false }
  else s

/-! ## The organs as a transition system -/

/-- What a producer sends, a call of another organ that puts nothing on the bus, and the two halves of the
dream loop. -/
inductive DreamOp where
  | broadcastYellow (source : UInt8) (signalCode : UInt32)
  | broadcastWhite (source : UInt8) (threatId : UInt32)
  | organStatePublish (organ : Int) (health mode : UInt8)
  | homeostasisModeEvaluate
  | consciousnessTransition (env : Surroundings) (target : ConsciousnessState) (triggerOrgan : UInt8)
      (reason : List UInt8)
  | reflexOnThermalBurn
  | reflexOnPain
  | reflexThermalCheck (tempCelsius : UInt32)
  | hormonalBroadcast (currentForce tension circadianPhase : UInt8)
  | otherCall (op : BusOp) (out : List Globule)
  | absorb (out : List Globule)
  | handle (elsewhere : UInt8)

/-- The effect of one of these. The loop absorbs when it has handled its inbox. -/
def DreamStep (s : Organism) (a : DreamOp) (t : Organism) : Prop :=
  match a with
  | .broadcastYellow source code => t = s.withBus (unitedBusBroadcastYellow s.bus source code).1
  | .broadcastWhite source threat => t = s.withBus (unitedBusBroadcastWhite s.bus source threat).1
  | .organStatePublish organ health mode =>
    t = { s with control := ControlOp.run s.control (.publish organ health mode) }
  | .homeostasisModeEvaluate => t = { s with control := ControlPlanes.homeostasisModeEvaluate s.control }
  | .consciousnessTransition env target organ reason =>
    let r := Vital.consciousnessTransition { env with statePayloadAddr := places.state } s.consciousness s.bus
      target organ reason
    t = { s.withBus r.2.1 with consciousness := r.1 }
  | .reflexOnThermalBurn => t = s.withBus (Dream.reflexOnThermalBurn s.bus)
  | .reflexOnPain => t = s.withBus (Dream.reflexOnPain s.bus)
  | .reflexThermalCheck temp => t = s.withBus (Dream.reflexThermalCheck s.bus temp)
  | .hormonalBroadcast force tension phase => t = Dream.hormonalBroadcast places s force tension phase
  | .otherCall op out => op.pumped = none ∧ ∃ bus, BusStep s.bus (op, out) bus ∧ t = s.withBus bus
  | .absorb out => s.inbox = [] ∧
      ∃ bus, BusStep s.bus (.absorb dreamOrganId inboxSize, out) bus ∧ t = { s.withBus bus with inbox := out }
  | .handle elsewhere =>
      ∃ g rest, s.inbox = g :: rest ∧ t = { s.listen places elsewhere g with inbox := rest }

/-! ## The contract -/

/-- What a YELLOW globule announces. No producer announces a state of the scheduler. -/
inductive Announcement where
  | signal (code : UInt32)
  | consciousness (state : ConsciousnessState)
  | hormone (record : VitalPayload)
  | scheduler (state : HomeostasisState)
  deriving DecidableEq

/-- The announcement of a globule, by the variable that it refers to. -/
def Organism.announcement (s : Organism) (g : Globule) : Announcement :=
  if g.payloadAddr = places.state then .consciousness s.consciousness.statePayload
  else if g.payloadAddr = places.vital then .hormone s.vitalPayload
  else .signal g.payloadSize

/-- The loop does not dereference a null address, and it falls asleep only over a globule that announces
`OO_STATE_RELAXED`. -/
def KeepsContract (s : Organism) (a : DreamOp) : Prop :=
  match a with
  | .handle elsewhere => ∀ g ∈ s.inbox.head?, g.type = .yellow →
      g.payloadAddr ≠ 0 ∧
      (s.isSleeping = false → (s.listen places elsewhere g).isSleeping = true →
        s.announcement places g = .scheduler .relaxed)
  | _ => True

/-- A YELLOW globule that the loop handles is one of the consciousness, which was not announced to be void last,
or a hormone, of which the last record was not of Yang. -/
def HandlesOther (s : Organism) (a : DreamOp) : Prop :=
  match a with
  | .handle _ => ∀ g ∈ s.inbox.head?, g.type = .yellow →
      (g.payloadAddr = places.state ∧ s.consciousness.statePayload ≠ .void) ∨
      (g.payloadAddr = places.vital ∧ s.vitalPayload.currentForce ≠ 0)
  | _ => True

/-- A YELLOW globule refers to nothing or to one of the two variables. -/
def Traceable (g : Globule) : Prop :=
  g.type = .yellow → g.payloadAddr = 0 ∨ g.payloadAddr = places.state ∨ g.payloadAddr = places.vital

/-- The globules of the bus and of the inbox are traceable, and the loop is awake. -/
structure Organism.Alert (s : Organism) : Prop where
  slots : s.bus.Holds (Traceable places)
  inbox : ∀ g ∈ s.inbox, Traceable places g
  awake : s.isSleeping = false

theorem boot_alert : Organism.boot.Alert places where
  slots j := by
    intro h
    cases h
  inbox g hg := by cases hg
  awake := rfl

/-! ### Every producer sends traceable globules -/

section

variable {places} {bus : Bus}

/-- The globule of a broadcast helper has a null address. -/
theorem traceable_broadcast (ty : GlobuleType) (source : UInt8) (payloadSize : UInt32) :
    Traceable places (broadcastGlobule ty source payloadSize) := fun _ => .inl rfl

theorem traceable_state (env : Surroundings) :
    Traceable places (stateGlobule { env with statePayloadAddr := places.state }) := fun _ => .inr (.inl rfl)

theorem traceable_hormone : Traceable places (hormoneGlobule places) := fun _ => .inr (.inr rfl)

/-- A traceable globule leaves a traceable bus traceable. -/
theorem holds_pump (h : bus.Holds (Traceable places)) {g : Globule} (hg : Traceable places g) :
    (unitedBusPump bus g).1.Holds (Traceable places) := h.pump (fun _ hg => hg) hg

theorem holds_broadcast (h : bus.Holds (Traceable places)) (ty : GlobuleType) (source : UInt8)
    (payloadSize : UInt32) :
    (unitedBusPump bus (broadcastGlobule ty source payloadSize)).1.Holds (Traceable places) :=
  holds_pump h (traceable_broadcast ty source payloadSize)

theorem holds_publish {control : ControlState} (h : control.bus.Holds (Traceable places)) (organ : Int)
    (health mode : UInt8) :
    (ControlOp.run control (.publish organ health mode)).bus.Holds (Traceable places) := by
  rw [ControlOp.run]
  dsimp only
  rw [organStatePublish]
  split
  · exact holds_broadcast h _ _ _
  · exact h

theorem holds_evaluate {control : ControlState} (h : control.bus.Holds (Traceable places)) :
    (homeostasisModeEvaluate control).bus.Holds (Traceable places) := by
  rw [homeostasisModeEvaluate]
  split
  · exact holds_broadcast h _ _ _
  · exact h

theorem holds_consciousness (h : bus.Holds (Traceable places)) (env : Surroundings) (s : Consciousness)
    (target : ConsciousnessState) (organ : UInt8) (reason : List UInt8) :
    (consciousnessTransition { env with statePayloadAddr := places.state } s bus target organ reason).2.1.Holds
      (Traceable places) := by
  rw [consciousnessTransition]
  split
  · exact holds_pump h (traceable_state env)
  · exact h

theorem holds_thermalCheck (h : bus.Holds (Traceable places)) (temp : UInt32) :
    (reflexThermalCheck bus temp).Holds (Traceable places) := by
  rw [reflexThermalCheck]
  split
  · exact holds_broadcast (holds_broadcast (holds_broadcast h _ _ _) _ _ _) _ _ _
  · exact h

end

/-! ### The loop -/

section

variable {places} {s t : Organism}

theorem Organism.Alert.withBus (h : s.Alert places) {bus : Bus} (hbus : bus.Holds (Traceable places)) :
    (s.withBus bus).Alert places := ⟨hbus, h.inbox, h.awake⟩

/-- The byte that the loop reads in a globule of the consciousness. -/
theorem byteAt_state (elsewhere : UInt8) :
    s.byteAt places elsewhere places.state = 0 ↔ s.consciousness.statePayload = .void := by
  rw [Organism.byteAt, if_pos rfl]
  cases s.consciousness.statePayload <;> decide

/-- The byte that it reads in a hormone. -/
theorem byteAt_vital (elsewhere : UInt8) :
    s.byteAt places elsewhere places.vital = s.vitalPayload.currentForce := by
  rw [Organism.byteAt, if_neg fun h => places.apart h.symm, if_pos rfl]

/-- A loop that is awake falls asleep over a YELLOW globule exactly when it reads 0. -/
theorem isSleeping_listen (h : s.isSleeping = false) {g : Globule} (hg : g.type = .yellow) (elsewhere : UInt8) :
    (s.listen places elsewhere g).isSleeping = true ↔ s.byteAt places elsewhere g.payloadAddr = 0 := by
  rw [Organism.listen, if_pos hg]
  dsimp only
  by_cases hzero : s.byteAt places elsewhere g.payloadAddr = 0
  · rw [if_pos hzero, h]
    exact iff_of_true rfl hzero
  · rw [if_neg hzero]
    exact iff_of_false Bool.false_ne_true hzero

/-- Nothing announces a state of the scheduler. -/
theorem announcement_ne_scheduler (s : Organism) (g : Globule) (state : HomeostasisState) :
    s.announcement places g ≠ .scheduler state := by
  rw [Organism.announcement]
  split
  · exact fun h => by cases h
  · split <;> exact fun h => by cases h

/-- For a traceable globule and a loop that is awake, reading something else than 0 behind an address that is
not null is what the contract asks for. -/
theorem contract_of_yellow_iff (h : s.Alert places) {g : Globule} (hg : g.type = .yellow)
    (htrace : Traceable places g) (elsewhere : UInt8) :
    (g.payloadAddr ≠ 0 ∧
      (s.isSleeping = false → (s.listen places elsewhere g).isSleeping = true →
        s.announcement places g = .scheduler .relaxed)) ↔
      (g.payloadAddr = places.state ∧ s.consciousness.statePayload ≠ .void) ∨
        (g.payloadAddr = places.vital ∧ s.vitalPayload.currentForce ≠ 0) := by
  have hsleep : (s.listen places elsewhere g).isSleeping = true ↔ s.byteAt places elsewhere g.payloadAddr = 0 :=
    isSleeping_listen h.awake hg elsewhere
  have hquiet : (s.isSleeping = false → (s.listen places elsewhere g).isSleeping = true →
      s.announcement places g = .scheduler .relaxed) ↔ s.byteAt places elsewhere g.payloadAddr ≠ 0 := by
    rw [hsleep]
    constructor
    · intro hfalls hzero
      exact announcement_ne_scheduler s g .relaxed (hfalls h.awake hzero)
    · intro hne _ hzero
      exact absurd hzero hne
  rw [hquiet]
  rcases htrace hg with hnull | hstate | hvital
  · rw [hnull]
    refine iff_of_false (fun h => h.1 rfl) ?_
    rintro (⟨h, -⟩ | ⟨h, -⟩)
    · exact places.state_ne h.symm
    · exact places.vital_ne h.symm
  · have hbyte : ¬ s.byteAt places elsewhere places.state = 0 ↔ ¬ s.consciousness.statePayload = .void :=
      not_congr (byteAt_state elsewhere)
    rw [hstate, and_iff_right places.state_ne]
    refine hbyte.trans ?_
    refine ⟨fun h => .inl ⟨rfl, h⟩, ?_⟩
    rintro (⟨-, h⟩ | ⟨h, -⟩)
    · exact h
    · exact absurd h places.apart
  · rw [hvital, byteAt_vital, and_iff_right places.vital_ne]
    refine ⟨fun h => .inr ⟨rfl, h⟩, ?_⟩
    rintro (⟨h, -⟩ | ⟨-, h⟩)
    · exact absurd h.symm places.apart
    · exact h

theorem keepsContract_iff (h : s.Alert places) (a : DreamOp) :
    KeepsContract places s a ↔ HandlesOther places s a := by
  cases a with
  | handle elsewhere =>
    refine forall₂_congr fun g hg => imp_congr_right fun hyellow => ?_
    exact contract_of_yellow_iff h hyellow (h.inbox g (List.mem_of_head? hg)) elsewhere
  | _ => exact Iff.rfl

/-- A step that handles no globule of the wrong kind leaves everything traceable and the loop awake. -/
theorem Organism.Alert.step (h : s.Alert places) {a : DreamOp} (ha : HandlesOther places s a)
    (hst : DreamStep places s a t) : t.Alert places := by
  cases a with
  | broadcastYellow source code =>
    obtain rfl := hst
    exact h.withBus (holds_broadcast h.slots _ _ _)
  | broadcastWhite source threat =>
    obtain rfl := hst
    exact h.withBus (holds_broadcast h.slots _ _ _)
  | organStatePublish organ health mode =>
    obtain rfl := hst
    exact ⟨holds_publish h.slots organ health mode, h.inbox, h.awake⟩
  | homeostasisModeEvaluate =>
    obtain rfl := hst
    exact ⟨holds_evaluate h.slots, h.inbox, h.awake⟩
  | consciousnessTransition env target organ reason =>
    obtain rfl := hst
    exact ⟨holds_consciousness h.slots env s.consciousness target organ reason, h.inbox, h.awake⟩
  | reflexOnThermalBurn =>
    obtain rfl := hst
    exact h.withBus (holds_broadcast h.slots _ _ _)
  | reflexOnPain =>
    obtain rfl := hst
    exact h.withBus (holds_broadcast h.slots _ _ _)
  | reflexThermalCheck temp =>
    obtain rfl := hst
    exact h.withBus (holds_thermalCheck h.slots temp)
  | hormonalBroadcast force tension phase =>
    obtain rfl := hst
    exact ⟨holds_pump h.slots traceable_hormone, h.inbox, h.awake⟩
  | otherCall op out =>
    obtain ⟨hop, bus, hbus, rfl⟩ := hst
    refine h.withBus (hbus.holds (fun _ _ hg => hg) h.slots ?_).1
    intro g hg
    rw [hop] at hg
    cases hg
  | absorb out =>
    obtain ⟨-, bus, hbus, rfl⟩ := hst
    obtain ⟨hslots, hout⟩ := hbus.holds (P := Traceable places) (fun _ _ hg => hg) h.slots fun g hg => by cases hg
    exact ⟨hslots, hout, h.awake⟩
  | handle elsewhere =>
    obtain ⟨g, rest, hinbox, rfl⟩ := hst
    have hmem : ∀ x ∈ rest, x ∈ s.inbox := fun x hx => hinbox ▸ List.mem_cons_of_mem g hx
    have hcontrol : (s.listen places elsewhere g).control = s.control := by
      rw [Organism.listen]
      split
      · dsimp only
        split
        · split <;> rfl
        · rfl
      · rfl
    refine ⟨?_, fun x hx => h.inbox x (hmem x hx), ?_⟩
    · rw [Organism.bus]
      dsimp only
      rw [hcontrol]
      exact h.slots
    · by_cases hyellow : g.type = .yellow
      · have hhead : g ∈ s.inbox.head? := by rw [hinbox]; rfl
        have hcontract := (keepsContract_iff h (.handle elsewhere)).2 ha g hhead hyellow
        rw [← Bool.not_eq_true]
        intro hasleep
        exact announcement_ne_scheduler s g .relaxed (hcontract.2 h.awake hasleep)
      · have hsame : s.listen places elsewhere g = s := if_neg hyellow
        rw [hsame]
        exact h.awake

end

/-- Over every interleaving of the producers with each other, with calls of other organs and with the loop, the
loop keeps to its contract if and only if it handles no YELLOW globule but those of the consciousness and of the
hormone, and these only while the state announced last is not `VOID` and the force sent last is not Yang. -/
theorem dream_contract_iff (places : PayloadPlaces) {tr : List (DreamOp × Organism)}
    (h : Exec (DreamStep places) .boot tr) :
    AllSteps (KeepsContract places) .boot tr ↔ AllSteps (HandlesOther places) .boot tr :=
  h.allSteps_congr (I := Organism.Alert places) (boot_alert places)
    (fun _ _ _ hs ha hst => hs.step ha hst) fun _ a hs => keepsContract_iff hs a

end

/-! ### A state and a signal -/

/-- Two addresses that are not null. -/
def examplePlaces : PayloadPlaces := ⟨4096, 8192, by decide, by decide, by decide⟩

/-- Surroundings with a stack that holds zeros. -/
def stillSurroundings : Surroundings := ⟨4096, 8192, fun _ => .replicate _ 0, 0⟩

/-- The first transition of the consciousness. -/
def birth : DreamOp := .consciousnessTransition stillSurroundings .embryonic Vital.organTypeVital []

/-- The organism after it. -/
def born : Organism :=
  let r := Vital.consciousnessTransition { stillSurroundings with statePayloadAddr := examplePlaces.state } .boot
    .boot .embryonic Vital.organTypeVital []
  { Organism.boot.withBus r.2.1 with consciousness := r.1 }

/-- The loop has absorbed what it finds in slot 0. -/
def Organism.absorbFirst (s : Organism) : Organism :=
  { s.withBus (s.bus.setHead 7 1) with inbox := [s.bus.bloodStream 0] }

/-- The consciousness announces `EMBRYONIC`, and the loop handles the announcement. -/
def birthTrace : List (DreamOp × Organism) :=
  [(birth, born), (.absorb [born.bus.bloodStream 0], born.absorbFirst),
    (.handle 0, { born.absorbFirst.listen examplePlaces 0 (born.bus.bloodStream 0) with inbox := [] })]

theorem exec_birthTrace : Exec (DreamStep examplePlaces) .boot birthTrace :=
  ⟨rfl, ⟨rfl, born.bus.setHead 7 1, ⟨1, rfl⟩, rfl⟩, ⟨born.bus.bloodStream 0, [], rfl, rfl⟩, trivial⟩

/-- The loop stays awake. -/
theorem birth_keepsContract : AllSteps (KeepsContract examplePlaces) .boot birthTrace := by
  refine (dream_contract_iff examplePlaces exec_birthTrace).2 ⟨trivial, trivial, ?_, trivial⟩
  intro g hg _
  cases hg
  exact .inl ⟨rfl, fun h => by cases h⟩

/-- The organism after a YELLOW signal. -/
def signalled : Organism := Organism.boot.withBus (unitedBusBroadcastYellow .boot 0 1).1

/-- A signal has no address: the loop reads at address 0. -/
theorem exists_null_dereference : ∃ (places : PayloadPlaces) (tr : List (DreamOp × Organism)),
    Exec (DreamStep places) .boot tr ∧ ¬ AllSteps (KeepsContract places) .boot tr := by
  refine ⟨examplePlaces, [(.broadcastYellow 0 1, signalled),
    (.absorb [signalled.bus.bloodStream 0], signalled.absorbFirst),
    (.handle 0, { signalled.absorbFirst.listen examplePlaces 0 (signalled.bus.bloodStream 0) with inbox := [] })],
    ⟨rfl, ⟨rfl, signalled.bus.setHead 7 1, ⟨1, rfl⟩, rfl⟩, ⟨signalled.bus.bloodStream 0, [], rfl, rfl⟩, trivial⟩, ?_⟩
  rintro ⟨-, -, hhandle, -⟩
  exact (hhandle (signalled.bus.bloodStream 0) rfl rfl).1 rfl

end OperatingOrganism.Dream

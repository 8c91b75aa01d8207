import OperatingOrganism.UnitedBus.RingBounds
import OperatingOrganism.Vital.VitalSigns

/-!
# Lives of any length

When a beat comes back. A beat pumps at most fourteen globules, so that on a bus with as much room before the end of
the ring its last layer finds the systole (`Roomy`); and where the memory holds nothing but zeros, no lesson gives a
word the name of an instruction (`Speechless`). On new buses, an organism whose board is that of its birth lives on for
any number of beats (`exec_calmBeats`).
-/

set_option autoImplicit false

namespace OperatingOrganism.Vital.LifeLoop

open OperatingOrganism.Execution OperatingOrganism.OrbitWalk OperatingOrganism.UnitedBus

/-! ## Room on the bus -/

/-- There is room for so many globules before the end of the smallest ring, and no index is ahead of the systole. -/
structure Roomy (room : Nat) (s : Bus) : Prop where
  systole : s.heartSystole + room < baseCapacity
  capacity : baseCapacity ≤ s.currentCapacity
  volume : s.currentCapacity ≤ bloodVolume
  diastole : s.heartDiastole ≤ s.heartSystole
  head : ∀ i, s.organReadHeads i ≤ s.heartSystole

theorem roomy_boot : Roomy 14 Bus.boot := ⟨by decide, le_rfl, by decide, le_rfl, fun _ => le_rfl⟩

section Bus

variable {room : Nat} {s : Bus}

theorem Roomy.mono {more : Nat} (h : Roomy more s) (hle : room ≤ more) : Roomy room s :=
  ⟨Nat.lt_of_le_of_lt (Nat.add_le_add_left hle _) h.systole, h.capacity, h.volume, h.diastole, h.head⟩

/-- An absorb goes round the ring once at most. -/
theorem Roomy.absorb (h : Roomy room s) (organId : UInt8) (maxGlobules : Int) :
    (unitedBusAbsorb bloodVolume s organId maxGlobules).isSome = true := by
  have hsystole : s.heartSystole < s.currentCapacity :=
    ((Nat.le_add_right _ _).trans_lt h.systole).trans_le h.capacity
  rw [unitedBusAbsorb]
  split
  · next ho =>
    obtain ⟨slots, hw, hlen⟩ := exists_walk hsystole (s.organReadHeads ⟨organId.toNat, ho⟩)
    rw [Option.isSome_map]
    exact absorbLoop_isSome hw (hlen.trans h.volume)
  · rfl

/-- A pump takes the next slot. -/
theorem Roomy.pump (h : Roomy (room + 1) s) (g : Globule) : Roomy room (unitedBusPump s g).1 := by
  have hroom := h.systole
  have hcapacity := h.capacity
  have hvolume := h.volume
  have hdiastole := h.diastole
  by_cases ha : s.accepts g
  case neg =>
    have hless := h.mono (Nat.le_succ room)
    rw [(pump_of_not_accepts ha).2]
    exact ⟨hless.systole, hless.capacity, hless.volume, hless.diastole, hless.head⟩
  obtain ⟨-, hpumped⟩ := pump_of_accepts ha
  have hnext : next s.currentCapacity s.heartSystole = s.heartSystole + 1 := Nat.mod_eq_of_lt (by omega)
  -- the diastole is behind, so the ring is not full
  have hfree : ¬ s.congested := by
    rw [Bus.congested, Bus.nextSystole, hnext]
    omega
  have hsystole := hpumped.systole.trans hnext
  have hring : baseCapacity ≤ bloodVolume := by decide
  refine ⟨by omega, ?_, ?_, ?_, fun i => ?_⟩
  · rw [hpumped.capacity, pumpedCapacity]
    split_ifs <;> omega
  · rw [hpumped.capacity, pumpedCapacity]
    split_ifs <;> omega
  · rw [hpumped.diastole, if_neg hfree, hsystole]
    omega
  -- no head is moved, since only a full ring gives one up
  · rw [hpumped.head, if_neg fun hboth => hfree hboth.1, hsystole]
    exact (h.head i).trans (Nat.le_succ _)

end Bus

/-! ## What the nerves pump -/

section Nerves

variable {room : Nat} (env : Surroundings) {s : Nerves}

theorem roomy_transition {bus : Bus} (h : Roomy (room + 1) bus) (s : Consciousness) (target : ConsciousnessState)
    (organ : UInt8) (reason : List UInt8) :
    Roomy room (consciousnessTransition env s bus target organ reason).2.1 := by
  rw [consciousnessTransition]
  split
  · exact h.pump _
  · exact h.mono (Nat.le_succ room)

theorem roomy_tick {bus : Bus} (h : Roomy (room + 1) bus) (s : Consciousness) :
    Roomy room (consciousnessTick env s bus).2 := by
  have hless := h.mono (Nat.le_succ room)
  rw [consciousnessTick]
  dsimp only
  split
  case h_4 => exact hless
  all_goals
    split
    · exact roomy_transition env h _ _ _ _
    · exact hless

theorem roomy_fire (h : Roomy (room + 3) s.bus) (source : UInt32) (level : PainLevel) (errorCode : UInt32) :
    Roomy room (nociceptionFire env s source level errorCode).bus := by
  rw [nociceptionFire]
  split
  case isFalse => exact h.mono (Nat.le_add_right _ _)
  case isTrue hsource =>
  dsimp only
  -- an alarm pumps twice, and agony once more
  have hagony : ∀ t : Nerves, Roomy (room + 1) t.bus → Roomy room (t.agonise env).bus := fun t ht =>
    roomy_transition env ht _ _ _ _
  have halarm : ∀ t : Nerves, Roomy (room + 3) t.bus → Roomy (room + 1) (t.alarm env).bus := fun t ht =>
    (roomy_transition env ht _ _ _ _).pump _
  have hsearing : ∀ t : Nerves, Roomy (room + 3) t.bus →
      Roomy (room + 1) (if PainLevel.searing.code ≤ level.code then t.alarm env else t).bus := by
    intro t ht
    split
    · exact halarm t ht
    · exact ht.mono (by omega)
  have hfelt := hsearing { s with nociception := s.nociception.accumulate ⟨source.toNat, hsource⟩ level errorCode } h
  split
  · exact hagony _ hfelt
  · exact hfelt.mono (Nat.le_succ room)

end Nerves

/-! ## What a beat needs -/

/-- No word has the name of an instruction of the metabolic tick. -/
def Speechless (d : ForthDictionary) : Prop := ∀ i, (d.words i).name = 0

theorem Speechless.find {d : ForthDictionary} (h : Speechless d) {c : UInt8} (hc : c ≠ 0) : d.find c = none := by
  rw [ForthDictionary.find, List.find?_eq_none]
  intro i _
  simp [h i, hc.symm]

theorem Speechless.learn {d : ForthDictionary} (h : Speechless d) (code : Nat → UInt8) (len : UInt8) :
    Speechless (forthLearnWord d 0 code len) := by
  intro i
  rw [forthLearnWord]
  split
  · next hfull =>
    by_cases hi : i = ⟨d.wordCount, hfull⟩
    · rw [hi]
      simp
    · simp [Function.update_of_ne hi, h i]
  · exact h i

/-- The two instructions of the metabolic tick return. -/
theorem Speechless.injectYin {D : Type} {o : Organism D} (h : Speechless o.dictionary) (w : World) (fuel : Nat) :
    (injectYin w o (fuel + 1)).isSome = true := by
  have hyin : o.dictionary.find (ascii 'y') = none := h.find (by decide)
  have hzero : ascii 'y' ≠ 0 := by decide
  have hdigit : ¬ isForthDigit (ascii 'y') := by decide
  simp only [LifeLoop.injectYin, vitalForthExec, hyin, hzero, hdigit, if_false]
  rfl

/-- There is room for so many globules, and no word is in the way. -/
structure Ready {D : Type} (room : Nat) (o : Organism D) : Prop where
  roomy : Roomy room o.nerves.bus
  speechless : Speechless o.dictionary

section Layers

variable {D : Type} {room : Nat} {w : World} {o : Organism D}

theorem Ready.mono {more : Nat} (h : Ready more o) (hle : room ≤ more) : Ready room o :=
  ⟨h.roomy.mono hle, h.speechless⟩

theorem ready_layerTime (h : Ready (room + 1) o) : Ready room (layerTime w o) := by
  rw [layerTime]
  dsimp only
  split
  · have hrequest := fun target reason =>
      roomy_transition (o.surroundings w 1) h.roomy o.nerves.consciousness target organTypeVital reason
    rw [Organism.enterPhase]
    dsimp only
    split
    · exact ⟨hrequest _ _, h.speechless⟩
    · exact ⟨hrequest _ _, h.speechless⟩
    · exact ⟨hrequest _ _, h.speechless⟩
    · exact ⟨hrequest _ _, h.speechless⟩
  · exact h.mono (Nat.le_succ room)

theorem ready_layerPain (h : Ready room o) : Ready room (layerPain w o) := ⟨h.roomy, h.speechless⟩

theorem ready_layerEnergy (h : Ready (room + 3) o) : Ready room (layerEnergy w o) := by
  have hfamine : Roomy room (metabolismTick (o.surroundings w 3) o.metabolism o.nerves).2.bus := by
    change Roomy room (feelFamine (o.surroundings w 3) o.metabolism.liver o.nerves).bus
    rw [feelFamine]
    split
    · exact h.roomy.mono (Nat.le_add_right _ _)
    · exact roomy_fire _ h.roomy _ _ _
  rw [layerEnergy]
  dsimp only
  split
  · exact ⟨hfamine, h.speechless⟩
  · exact ⟨hfamine, h.speechless⟩

theorem ready_regulate (h : Ready (room + 1) o) : Ready room (o.regulate w) := by
  refine ⟨?_, h.speechless⟩
  simp only [Organism.regulate, homeostasisRegulate]
  split
  · exact h.roomy.pump _
  · exact h.roomy.mono (Nat.le_succ room)

theorem ready_layerConsciousness (h : Ready (room + 1) o) : Ready room (layerConsciousness w o) :=
  ⟨roomy_tick _ h.roomy _, h.speechless⟩

theorem ready_layerGuardian (h : Ready (room + 3) o) : Ready room (layerGuardian w o) := by
  have hless := h.mono (Nat.le_add_right room 3)
  rw [layerGuardian]
  split
  · split
    · exact ⟨roomy_fire _ h.roomy _ _ _, h.speechless⟩
    · exact ⟨hless.roomy, h.speechless⟩
  · exact hless

theorem ready_layerEntropy (h : Ready (room + 1) o) : Ready room (layerEntropy w o) := by
  have hless := h.mono (Nat.le_succ room)
  have hnoise : Ready room (vitalGenerateBioticNoise w o) := by
    rw [vitalGenerateBioticNoise]
    dsimp only
    split
    · split
      · exact ⟨h.roomy.pump _, h.speechless⟩
      · exact ⟨h.roomy.pump _, h.speechless⟩
    · split
      · exact ⟨hless.roomy, h.speechless⟩
      · exact hless
  exact ⟨hnoise.roomy, hnoise.speechless⟩

theorem ready_layerDream (h : Ready room o) : Ready room (layerDream o) := by
  rw [layerDream]
  split
  · exact ⟨h.roomy, h.speechless⟩
  · exact h

theorem ready_layerSynapses (h : Ready room o) : Ready room (layerSynapses o) := ⟨h.roomy, h.speechless⟩

theorem ready_layerAura (h : Ready room o) : Ready room (layerAura o) := by
  rw [layerAura]
  split
  · exact ⟨h.roomy, h.speechless⟩
  · exact ⟨h.roomy, h.speechless⟩

theorem ready_layerOscillation (h : Ready room o) : Ready room (layerOscillation o) := ⟨h.roomy, h.speechless⟩

theorem ready_layerBroadcast (h : Ready (room + 1) o) : Ready room (layerBroadcast w o) := by
  rw [layerBroadcast]
  split
  · exact ⟨h.roomy.pump _, h.speechless⟩
  · exact h.mono (Nat.le_succ room)

theorem ready_layerSignature (oo : OoStorage D) (h : Ready (room + 3) o) : Ready room (layerSignature oo w o) := by
  have hless := h.mono (Nat.le_add_right room 3)
  rw [layerSignature]
  split
  · exact ⟨hless.roomy, h.speechless⟩
  · split
    · exact ⟨roomy_fire _ h.roomy _ _ _, h.speechless⟩
    · exact hless

theorem ready_layerEpigenetic (h : Ready room o) : Ready room (layerEpigenetic o) := ⟨h.roomy, h.speechless⟩

theorem ready_layersOfSensing (h : Ready (room + 4) o) : Ready room (layersOfSensing w o) := by
  have hticked : Ready (room + 4) (steelTick w o) := ⟨h.roomy, h.speechless⟩
  exact ready_layerEnergy (ready_layerPain (ready_layerTime hticked))

theorem ready_layersOfLife (oo : OoStorage D) (h : Ready (room + 9) o) : Ready room (layersOfLife oo w o) := by
  have hentropy : Ready (room + 4) (layerEntropy w (layerGuardian w (layerConsciousness w o))) :=
    ready_layerEntropy (ready_layerGuardian (ready_layerConsciousness h))
  have haura := ready_layerAura (ready_layerSynapses (ready_layerDream hentropy))
  rw [layersOfLife]
  exact ready_layerEpigenetic (ready_layerSignature oo (ready_layerBroadcast (ready_layerOscillation haura)))

end Layers

/-! ## Beats -/

section Beats

variable {D : Type} (oo : OoStorage D) {w : World} {o : Organism D}

/-- The parameters at birth are at their targets, and stay there. -/
theorem regulate_init : homeostasisInit.regulate = homeostasisInit := by decide

theorem viable_init : homeostasisIsViable homeostasisInit.regulate = true := by decide

theorem exists_metabolicTick (h : Ready 0 o) (fuel : Nat) :
    ∃ o', vitalMetabolicTick w o (fuel + 1) = .ok o' ∧ Ready 0 o' := by
  rw [vitalMetabolicTick]
  split
  · obtain ⟨s, hs⟩ := Option.isSome_iff_exists.1 (h.speechless.injectYin w fuel)
    rw [hs]
    exact ⟨_, rfl, h.roomy, h.speechless⟩
  · exact ⟨o, rfl, h⟩

theorem exists_morphogenesis (h : Ready 0 o) (hmemory : ∀ a, w.memory a = 0) :
    ∃ o', layerMorphogenesis w o bloodVolume = .ok o' ∧ Speechless o'.dictionary := by
  rw [layerMorphogenesis]
  split
  · obtain ⟨⟨bus, message⟩, habsorb⟩ := Option.isSome_iff_exists.1 (h.roomy.absorb 15 1)
    rw [habsorb]
    refine ⟨_, rfl, ?_⟩
    cases message with
    | nil => exact h.speechless
    | cons edu rest =>
      rw [Organism.learn]
      split
      · rw [hmemory]
        exact h.speechless.learn _ _
      · exact h.speechless
  · exact ⟨o, rfl, h.speechless⟩

/-- On a new bus a beat comes back. -/
theorem exists_beat (hboard : o.board = homeostasisInit) (hwords : Speechless o.dictionary)
    (hmemory : ∀ a, w.memory a = 0) :
    ∃ o', vitalEternalHeartbeat oo w (o.withBus .boot) bloodVolume = .ok o' ∧ o'.board = homeostasisInit ∧
      Speechless o'.dictionary := by
  have hready : Ready 14 (o.withBus .boot) := ⟨roomy_boot, hwords⟩
  have hviable : homeostasisIsViable (o.withBus .boot).board.regulate = true := by
    rw [board_withBus, hboard]
    exact viable_init
  -- four globules for the senses, one for the regulation, nine for what follows it
  have halive := ready_layersOfLife (w := w) oo (ready_regulate (w := w) (ready_layersOfSensing (w := w) hready))
  obtain ⟨o₂, htick, hready₂⟩ := exists_metabolicTick (w := w) halive (bloodVolume - 1)
  obtain ⟨o', hmorphogenesis, hspeechless⟩ := exists_morphogenesis hready₂ hmemory
  have hbeat : vitalEternalHeartbeat oo w (o.withBus .boot) bloodVolume = .ok o' :=
    heartbeat_ok_iff.2 ⟨_, homeostasis_of_viable w hviable, o₂, htick, hmorphogenesis⟩
  have hsigns := BeatStep.signs (a := (.boot, w)) ⟨bloodVolume, hbeat⟩ hviable
  refine ⟨o', hbeat, ?_, hspeechless⟩
  rw [← board_signs, hsigns, board_beat, board_signs, hboard, regulate_init]

end Beats

/-! ## A calm life -/

/-- No device is given. -/
def noDisk : OoStorage Unit := ⟨fun _ _ => false, fun _ _ _ => (0, []), fun _ _ _ => (0, ())⟩

/-- Ten in the morning, a healthy guardian, and no entropy. -/
def calmWorld : World where
  burnTime := 7
  rtcHours := 0x10
  rtcRegB := 0x02
  guardianState := 0
  rawEntropy := 0
  surroundings := fun _ => quietSurroundings
  stackGlobule := .zero
  entropyAddr := 0
  vitalPayloadAddr := 0
  dnaStack := fun _ => 0
  memory := fun _ => 0
  beyond := fun _ => 0

def firstborn : Organism Unit := (vitalInit noDisk (.boot none) quietSurroundings fun _ => 0).getD (.boot none)

/-- A beat on a new bus. -/
def calmBeat (o : Organism Unit) : Organism Unit :=
  (vitalEternalHeartbeat noDisk calmWorld (o.withBus .boot) bloodVolume).toOption.getD o

theorem beat_calmBeat {o : Organism Unit} (hboard : o.board = homeostasisInit) (hwords : Speechless o.dictionary) :
    BeatStep noDisk o (.boot, calmWorld) (calmBeat o) ∧ (calmBeat o).board = homeostasisInit ∧
      Speechless (calmBeat o).dictionary := by
  obtain ⟨o', hbeat, hboard', hwords'⟩ := exists_beat (w := calmWorld) noDisk hboard hwords fun _ => rfl
  have hcalm : calmBeat o = o' := by
    rw [calmBeat, hbeat]
    rfl
  rw [hcalm]
  exact ⟨⟨bloodVolume, hbeat⟩, hboard', hwords'⟩

/-- So many beats. -/
def calmBeats : Nat → Organism Unit → List ((Bus × World) × Organism Unit)
  | 0, _ => []
  | n + 1, o => ((.boot, calmWorld), calmBeat o) :: calmBeats n (calmBeat o)

theorem exec_calmBeats {o : Organism Unit} (hboard : o.board = homeostasisInit) (hwords : Speechless o.dictionary)
    (n : Nat) : Exec (BeatStep noDisk) o (calmBeats n o) := by
  induction n generalizing o with
  | zero => trivial
  | succ n ih =>
    obtain ⟨hbeat, hboard', hwords'⟩ := beat_calmBeat hboard hwords
    exact ⟨hbeat, ih hboard' hwords'⟩

@[simp] theorem length_calmBeats (n : Nat) (o : Organism Unit) : (calmBeats n o).length = n := by
  induction n generalizing o with
  | zero => rfl
  | succ n ih => exact congrArg Nat.succ (ih _)

/-- A life without an event. -/
def calmLife (n : Nat) : List ((Bus × World) × Organism Unit) := calmBeats n firstborn

theorem exec_calmLife (n : Nat) : Exec (BeatStep noDisk) firstborn (calmLife n) :=
  exec_calmBeats rfl (fun _ => rfl) n

@[simp] theorem length_calmLife (n : Nat) : (calmLife n).length = n := length_calmBeats n firstborn

end OperatingOrganism.Vital.LifeLoop

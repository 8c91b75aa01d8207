import OperatingOrganism.UnitedBus.Window

/-!
# Respiration

`network_inhale` turns a frame into a globule: a short frame into a YELLOW one for the kernel, a longer one into a
RED one for the cortex. Three modules have to agree for the frame to arrive. The bus lets RED globules through to
the cortex from the sensory organ only, and the network is another organ, so no frame of 64 bytes or more gets
past it. A short frame is accepted, but the pump may contract the ring and strand the new slot, and a kernel that
is a whole turn behind does not come by it (`inhale_delivers_iff`).
-/

set_option autoImplicit false

namespace OperatingOrganism.Network

open OperatingOrganism.Execution OperatingOrganism.OrbitWalk OperatingOrganism.UnitedBus

/-- `oo_respiration_stats_t` -/
structure RespirationStats where
  linkUp : UInt8
  breathRate : UInt32
  deriving DecidableEq, Repr

/-- The bus and the static variable `global_stats`. -/
structure Lungs where
  bus : Bus
  globalStats : RespirationStats

/-- The static initialisers. -/
def Lungs.boot : Lungs := ⟨.boot, ⟨0, 0⟩⟩

/-- `network_init` -/
def networkInit (s : Lungs) : Lungs := { s with globalStats := { s.globalStats with linkUp := 1 } }

/-- `ORGAN_TYPE_NETWORK` -/
def organTypeNetwork : UInt8 := 5

/-- The target of a short frame, the kernel. -/
def organKernel : UInt8 := 3

/-- The type of the globule for a frame of this size. -/
def frameType (size : UInt64) : GlobuleType := if size < 64 then .yellow else .red

/-- The globule for a frame. -/
def frameGlobule (frame size : UInt64) : Globule where
  globuleId := 0
  type := frameType size
  sourceOrgan := organTypeNetwork
  targetOrgan := if frameType size = .yellow then organKernel else organCortex
  payloadAddr := frame
  payloadSize := size.toUInt32

/-- `network_inhale` -/
def networkInhale (s : Lungs) (frame size : UInt64) : Lungs :=
  if frame = 0 ∨ size = 0 then s
  else
    let pumped := unitedBusPump s.bus (frameGlobule frame size)
    if pumped.2 = 0 then
      ⟨pumped.1, { s.globalStats with breathRate := s.globalStats.breathRate + 1 }⟩
    else { s with bus := pumped.1 }

/-- `network_get_stats` -/
def networkGetStats (s : Lungs) : RespirationStats := s.globalStats

/-! ## Delivery -/

/-- The slot is unread by an organ, and an absorb with room for everything unread goes by it: the absorb hands
out what is addressed to the organ on the way to the systole. -/
def DrainReturns (s : Bus) (organ : UInt8) (slot : Nat) : Prop :=
  ∃ (i : Fin maxOrgans) (slots : List Nat), organ.toNat = i ∧ s.Unread i slots ∧ slot ∈ slots ∧
    (s.bloodStream slot).addressedTo organ = true ∧
    ∀ n : Int, slots.length ≤ n →
      BusStep s (.absorb organ n, (slots.map s.bloodStream).filter (·.addressedTo organ))
        (s.setHead i s.heartSystole)

/-- The frame is delivered: the bus accepts a globule for it, `breath_rate` grows by one, and draining the queue of
the target returns what was written. -/
structure Delivers (s : Lungs) (frame size : UInt64) : Prop where
  accepted : (unitedBusPump s.bus (frameGlobule frame size)).2 = 0
  bus : (networkInhale s frame size).bus = (unitedBusPump s.bus (frameGlobule frame size)).1
  breathRate : (networkGetStats (networkInhale s frame size)).breathRate.toNat =
    (networkGetStats s).breathRate.toNat + 1
  returned : DrainReturns (networkInhale s frame size).bus (frameGlobule frame size).targetOrgan s.bus.heartSystole

/-- The read head of the kernel. -/
def kernel : Fin maxOrgans := ⟨organKernel.toNat, by decide⟩

section

variable {s : Lungs} {frame size : UInt64}

theorem frameType_of_short (h : size < 64) : frameType size = .yellow := if_pos h

/-- A long frame goes to the cortex. -/
theorem barred_of_long (h : ¬ size < 64) : (frameGlobule frame size).barred := by
  have htype : frameType size = .red := if_neg h
  have hforeign : organTypeNetwork ≠ organSensory := by decide
  refine ⟨?_, htype, hforeign⟩
  rw [frameGlobule, htype]
  rfl

/-- A short one goes to the kernel. -/
theorem target_of_short (h : size < 64) : (frameGlobule frame size).targetOrgan = organKernel := by
  rw [frameGlobule, frameType_of_short h]
  rfl

/-- The bus accepts a short frame in every state, and a long one in none. -/
theorem accepts_frame_iff : s.bus.accepts (frameGlobule frame size) ↔ size < 64 := by
  constructor
  · intro ha
    by_contra hlong
    exact ha.2 (barred_of_long hlong)
  · intro h
    have hpriority : (frameGlobule frame size).priority := .inr (frameType_of_short h)
    exact ⟨fun _ => hpriority, priority_not_barred hpriority⟩

/-- Draining returns a slot exactly when it is unread and holds a globule for the organ. -/
theorem drainReturns_iff {bus : Bus} {organ : UInt8} {i : Fin maxOrgans} (hi : organ.toNat = i) {slot : Nat}
    (haddr : (bus.bloodStream slot).addressedTo organ = true) :
    DrainReturns bus organ slot ↔ ∃ slots, bus.Unread i slots ∧ slot ∈ slots := by
  constructor
  · rintro ⟨j, slots, hj, hw, hmem, -⟩
    obtain rfl : i = j := Fin.ext (hi.symm.trans hj)
    exact ⟨slots, hw, hmem⟩
  · rintro ⟨slots, hw, hmem⟩
    exact ⟨i, slots, hi, hw, hmem, haddr, fun n hn => busStep_absorb_all hi hw hn⟩

/-- In the state after an accepted short frame. -/
theorem drainReturns_frame_iff (hb : s.bus.Bounded) (hfree : ¬ s.bus.congested) (h : size < 64) :
    DrainReturns (unitedBusPump s.bus (frameGlobule frame size)).1 organKernel s.bus.heartSystole ↔
      s.bus.comesBy (frameGlobule frame size) kernel := by
  have hp := (pump_of_accepts (accepts_frame_iff.2 h : s.bus.accepts (frameGlobule frame size))).2
  have hdata : (frameGlobule frame size).type ≠ .white := by
    rw [frameGlobule, frameType_of_short h]
    exact fun h => by cases h
  rw [← hp.written_unread_iff hb hfree hdata]
  apply drainReturns_iff rfl
  rw [hp.stream, Function.update_self, Globule.addressedTo]
  simp only [target_of_short h]
  rfl

/-- `breath_rate` counts an accepted frame unless it wraps. -/
theorem toNat_breathRate_iff (n : UInt32) : (n + 1).toNat = n.toNat + 1 ↔ n ≠ 0xFFFFFFFF := by
  rw [UInt32.toNat_add]
  constructor
  · rintro h rfl
    exact absurd h (by decide)
  · intro hne
    apply Nat.mod_eq_of_lt
    have hlt := n.toNat_lt
    have hne' : n.toNat ≠ 0xFFFFFFFF := fun h => hne (UInt32.toNat_inj.1 h)
    change n.toNat + 1 < 4294967296
    omega

end

/-- In every reachable state with free space, a frame at an address that is not null is delivered if and only if
it has between 1 and 63 bytes, `breath_rate` does not wrap, and the kernel comes by the slot that the pump
writes. -/
theorem inhale_delivers_iff {s : Lungs} (hs : Reachable BusStep Bus.boot s.bus) (hfree : ¬ s.bus.congested)
    {frame : UInt64} (hframe : frame ≠ 0) (size : UInt64) :
    Delivers s frame size ↔
      size ≠ 0 ∧ size < 64 ∧ s.globalStats.breathRate ≠ 0xFFFFFFFF ∧
        s.bus.comesBy (frameGlobule frame size) kernel := by
  by_cases hzero : size = 0
  · -- nothing is pumped, so the counter stays as it is
    have hsame : networkInhale s frame size = s := if_pos (.inr hzero)
    refine iff_of_false ?_ fun h => h.1 hzero
    intro h
    have hcount := h.breathRate
    rw [hsame] at hcount
    exact absurd hcount.symm (Nat.succ_ne_self _)
  · have hread : ¬ (frame = 0 ∨ size = 0) := fun h => h.elim hframe hzero
    by_cases hshort : size < 64
    · have haccepted := pump_eq_zero_iff.2 (accepts_frame_iff.2 hshort : s.bus.accepts (frameGlobule frame size))
      have hinhale : networkInhale s frame size =
          ⟨(unitedBusPump s.bus (frameGlobule frame size)).1,
            { s.globalStats with breathRate := s.globalStats.breathRate + 1 }⟩ := by
        rw [networkInhale, if_neg hread]
        exact if_pos haccepted
      have hdrain : DrainReturns (unitedBusPump s.bus (frameGlobule frame size)).1 organKernel
          s.bus.heartSystole ↔ s.bus.comesBy (frameGlobule frame size) kernel :=
        drainReturns_frame_iff (reachable_bounded hs) hfree hshort
      constructor
      · intro h
        have hcount := h.breathRate
        have hreturned := h.returned
        rw [hinhale] at hcount hreturned
        rw [target_of_short hshort] at hreturned
        exact ⟨hzero, hshort, (toNat_breathRate_iff _).1 hcount, hdrain.1 hreturned⟩
      · rintro ⟨-, -, hwrap, hcomes⟩
        refine ⟨haccepted, ?_, ?_, ?_⟩
        · rw [hinhale]
        · rw [hinhale]
          exact (toNat_breathRate_iff _).2 hwrap
        · rw [hinhale, target_of_short hshort]
          exact hdrain.2 hcomes
    · refine iff_of_false ?_ fun h => hshort h.2.1
      intro h
      exact hshort (accepts_frame_iff.1 (pump_eq_zero_iff.1 h.accepted))

/-! ### A short frame and a long one -/

/-- A short frame that the first inhalation delivers. -/
theorem first_frame_delivered : Delivers .boot 4096 10 := by
  refine (inhale_delivers_iff .refl (by decide) (by decide) 10).2 ⟨by decide, by decide, by decide, ?_⟩
  exact ⟨by decide, .inl rfl⟩

/-- A long one, which the bus refuses. -/
theorem exists_frame_not_delivered : ∃ (s : Lungs) (frame size : UInt64),
    Reachable BusStep Bus.boot s.bus ∧ ¬ s.bus.congested ∧ frame ≠ 0 ∧ ¬ Delivers s frame size := by
  refine ⟨.boot, 4096, 1500, .refl, by decide, by decide, ?_⟩
  intro h
  exact absurd (accepts_frame_iff.1 (pump_eq_zero_iff.1 h.accepted)) (by decide)

end OperatingOrganism.Network

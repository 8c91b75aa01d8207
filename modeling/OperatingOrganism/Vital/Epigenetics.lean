import OperatingOrganism.Library.ByteLayout
import OperatingOrganism.Library.Execution

/-!
# Epigenetic memory

`epigenetics.c` counts the traumas and successes of the organism, with a journal of the last 256 events and a
checksum over six of the fields. A boot keeps the memory when its checksum is right and something was
experienced, and counts a generation then; it does not compute the checksum anew, so that a second boot in a
row finds the memory damaged (`ancestral_iff`). Messages to `oo_print` are left out.
-/

set_option autoImplicit false

namespace OperatingOrganism.Vital

open OperatingOrganism.ByteLayout OperatingOrganism.Execution

/-- `MAX_EPIGENETIC_EVENTS` -/
def maxEpigeneticEvents : Nat := 256

/-- `oo_epigenetic_event_t`; `impact` is an `int8_t`. -/
structure EpigeneticEvent where
  pulseAt : BitVec 64
  impact : BitVec 8
  sourceOrgan : BitVec 8
  deriving DecidableEq, Inhabited

/-- `oo_epigenetic_memory_t` -/
structure EpigeneticMemory where
  traumaLevel : BitVec 32
  successCount : BitVec 32
  totalExperiences : BitVec 32
  personalityBias : BitVec 8
  resilience : BitVec 8
  generation : BitVec 8
  events : Vector EpigeneticEvent maxEpigeneticEvents
  eventHead : BitVec 16
  checksum : BitVec 32
  deriving DecidableEq

attribute [ext] EpigeneticMemory

/-- The static variable `memory` before the first call. -/
def EpigeneticMemory.zero : EpigeneticMemory := ⟨0, 0, 0, 0, 0, 0, .replicate _ ⟨0, 0, 0⟩, 0, 0⟩

/-- `compute_epigenetic_checksum` -/
def EpigeneticMemory.computeChecksum (m : EpigeneticMemory) : BitVec 32 :=
  0x12345678#32 ^^^ m.traumaLevel ^^^ m.successCount ^^^ m.totalExperiences ^^^
    m.personalityBias.setWidth 32 ^^^ m.resilience.setWidth 32 ^^^ m.generation.setWidth 32

/-- The test of `vital_epigenetic_init`: the memory is that of an ancestor. -/
def EpigeneticMemory.Ancestral (m : EpigeneticMemory) : Prop :=
  m.checksum = m.computeChecksum ∧ 0 < m.totalExperiences.toNat

instance (m : EpigeneticMemory) : Decidable m.Ancestral := inferInstanceAs (Decidable (_ ∧ _))

/-- `vital_epigenetic_init` -/
def vitalEpigeneticInit (m : EpigeneticMemory) : EpigeneticMemory :=
  if m.Ancestral then { m with generation := m.generation + 1 }
  else
    let m :=
      { m with
        traumaLevel := 0
        successCount := 0
        totalExperiences := 0
        personalityBias := 128
        resilience := 50
        generation := 1
        eventHead := 0 }
    { m with checksum := m.computeChecksum }

/-- What the impact of an experience does to the counters. -/
def EpigeneticMemory.feel (impact : Int) (m : EpigeneticMemory) : EpigeneticMemory :=
  if impact < 0 then
    let m := { m with traumaLevel := m.traumaLevel + 1 }
    let effectiveImpact : BitVec 8 := if m.resilience.toNat / 25 < 5 then 5 - m.resilience / 25 else 1
    let m :=
      if effectiveImpact < m.personalityBias then
        { m with personalityBias := m.personalityBias - effectiveImpact }
      else m
    if m.resilience.toNat < 250 then { m with resilience := m.resilience + 1 } else m
  else if 0 < impact then
    let m := { m with successCount := m.successCount + 1 }
    if m.personalityBias.toNat < 250 then { m with personalityBias := m.personalityBias + 3 } else m
  else m

/-- `vital_mark_experience`; `pulse` is what `vital_get_pulse_count` returns. -/
def vitalMarkExperience (pulse : BitVec 64) (impact : BitVec 8) (m : EpigeneticMemory) : EpigeneticMemory :=
  let m :=
    { m with
      events := m.events.setIfInBounds m.eventHead.toNat ⟨pulse, impact, 0⟩
      eventHead := .ofNat 16 ((m.eventHead.toNat + 1) % maxEpigeneticEvents)
      totalExperiences := m.totalExperiences + 1 }
  let m := m.feel impact.toInt
  { m with checksum := m.computeChecksum }

/-! ## The bytes of the memory -/

def epigeneticEventFields : List CType := [.int 8, .int 1, .int 1]

def epigeneticEventType : CType := .struct epigeneticEventFields

def epigeneticMemoryFields : List CType :=
  [.int 4, .int 4, .int 4, .int 1, .int 1, .int 1, epigeneticEventType.array maxEpigeneticEvents, .int 2, .int 4]

def epigeneticMemoryType : CType := .struct epigeneticMemoryFields

/-- An event as bytes; the padding is zero. -/
def EpigeneticEvent.bytes (e : EpigeneticEvent) : Bytes :=
  let field := offsetOf epigeneticEventFields
  putLE (field 0) e.pulseAt <| putLE (field 1) e.impact <| putLE (field 2) e.sourceOrgan fun _ => 0

/-- The event at a place. -/
def EpigeneticEvent.ofBytes (loc : Nat) (b : Bytes) : EpigeneticEvent :=
  let field := offsetOf epigeneticEventFields
  ⟨getLE 64 (loc + field 0) b, getLE 8 (loc + field 1) b, getLE 8 (loc + field 2) b⟩

/-- The memory as bytes; the padding is zero. -/
def EpigeneticMemory.bytes (m : EpigeneticMemory) : Bytes :=
  let field := offsetOf epigeneticMemoryFields
  putLE (field 0) m.traumaLevel <| putLE (field 1) m.successCount <| putLE (field 2) m.totalExperiences <|
    putLE (field 3) m.personalityBias <| putLE (field 4) m.resilience <| putLE (field 5) m.generation <|
    copyBytes (field 6) (epigeneticEventType.size * maxEpigeneticEvents)
      (arrayBytes epigeneticEventType.size fun i => (m.events[i]?.getD default).bytes) <|
    putLE (field 7) m.eventHead <| putLE (field 8) m.checksum fun _ => 0

/-- The memory that bytes stand for. -/
def EpigeneticMemory.ofBytes (b : Bytes) : EpigeneticMemory :=
  let field := offsetOf epigeneticMemoryFields
  { traumaLevel := getLE 32 (field 0) b
    successCount := getLE 32 (field 1) b
    totalExperiences := getLE 32 (field 2) b
    personalityBias := getLE 8 (field 3) b
    resilience := getLE 8 (field 4) b
    generation := getLE 8 (field 5) b
    events := .ofFn fun i => .ofBytes (field 6 + epigeneticEventType.size * i) b
    eventHead := getLE 16 (field 7) b
    checksum := getLE 32 (field 8) b }

/-- `vital_epigenetic_export`: what it copies to `dst`, if anything, and the memory. -/
def vitalEpigeneticExport (dstIsNull : Bool) (maxSize : BitVec 32) (m : EpigeneticMemory) :
    Option Bytes × EpigeneticMemory :=
  if dstIsNull ∨ maxSize.toNat < epigeneticMemoryType.size then (none, m)
  else
    let m := { m with checksum := m.computeChecksum }
    (some m.bytes, m)

/-- `vital_epigenetic_import`; `src` is `none` for the null pointer. -/
def vitalEpigeneticImport (src : Option Bytes) (size : BitVec 32) (m : EpigeneticMemory) :
    EpigeneticMemory :=
  match src with
  | none => m
  | some src =>
    if size.toNat < epigeneticMemoryType.size then m
    else
      let m := EpigeneticMemory.ofBytes src
      -- a memory that arrives damaged begins with a first birth
      if m.checksum ≠ m.computeChecksum then vitalEpigeneticInit m else m

variable {m : EpigeneticMemory} {b : Bytes} {loc : Nat}

/-! ### Reading back -/

/-- An event of the journal is read back. -/
theorem EpigeneticEvent.ofBytes_copyBytes {item : Nat → Bytes} {i n : Nat} {e : EpigeneticEvent} (hi : i < n)
    (he : item i = e.bytes) :
    EpigeneticEvent.ofBytes (loc + 16 * i) (copyBytes loc (16 * n) (arrayBytes 16 item) b) = e := by
  have hfield : ∀ w k, k + w / 8 ≤ 16 →
      getLE w (loc + 16 * i + k) (copyBytes loc (16 * n) (arrayBytes 16 item) b) = getLE w k e.bytes := by
    intro w k hk
    rw [Nat.add_assoc, getLE_copyBytes (by omega), getLE_arrayBytes hk, he]
  -- the fields do not overlap, so that each is read as it was written
  have hpulse : getLE 64 0 e.bytes = e.pulseAt := getLE_putLE rfl
  have himpact : getLE 8 8 e.bytes = e.impact := by
    rw [bytes]
    exact (getLE_putLE_of_apart (.inr (by decide))).trans (getLE_putLE rfl)
  have horgan : getLE 8 9 e.bytes = e.sourceOrgan := by
    rw [bytes]
    exact (getLE_putLE_of_apart (.inr (by decide))).trans
      ((getLE_putLE_of_apart (.inr (by decide))).trans (getLE_putLE rfl))
  change EpigeneticEvent.mk (getLE 64 (loc + 16 * i + 0) _) (getLE 8 (loc + 16 * i + 8) _)
    (getLE 8 (loc + 16 * i + 9) _) = e
  rw [hfield 64 0 (by decide), hfield 8 8 (by decide), hfield 8 9 (by decide), hpulse, himpact, horgan]

theorem EpigeneticEvent.ofBytes_putLE_of_apart {w place : Nat} {v : BitVec w}
    (h : place + w / 8 ≤ loc ∨ loc + 16 ≤ place) :
    EpigeneticEvent.ofBytes loc (putLE place v b) = EpigeneticEvent.ofBytes loc b := by
  change EpigeneticEvent.mk (getLE 64 (loc + 0) _) (getLE 8 (loc + 8) _) (getLE 8 (loc + 9) _) = _
  rw [getLE_putLE_of_apart (by omega), getLE_putLE_of_apart (by omega), getLE_putLE_of_apart (by omega)]
  rfl

/-- The bytes of a memory stand for it. -/
theorem EpigeneticMemory.ofBytes_bytes (m : EpigeneticMemory) : ofBytes m.bytes = m := by
  -- where the compiler puts the fields
  have hfields : ∀ i, offsetOf epigeneticMemoryFields i = [0, 4, 8, 12, 13, 14, 16, 4112, 4116].getD i 0 :=
    fun i => rfl
  have hevent : epigeneticEventType.size = 16 := rfl
  rw [ofBytes, bytes]
  simp only [hfields, hevent, List.getD_cons_zero, List.getD_cons_succ]
  ext1
  · simp [getLE_putLE]
  · simp [getLE_putLE, getLE_putLE_of_apart]
  · simp [getLE_putLE, getLE_putLE_of_apart]
  · simp [getLE_putLE, getLE_putLE_of_apart]
  · simp [getLE_putLE, getLE_putLE_of_apart]
  · simp [getLE_putLE, getLE_putLE_of_apart]
  · -- the journal, which is the only field that is an array
    dsimp only
    apply Vector.ext
    intro i hi
    rw [Vector.getElem_ofFn]
    repeat rw [EpigeneticEvent.ofBytes_putLE_of_apart (by omega)]
    apply EpigeneticEvent.ofBytes_copyBytes hi
    rw [Vector.getElem?_eq_getElem hi, Option.getD_some]
  · simp [getLE_putLE, getLE_putLE_of_apart, getLE_copyBytes_of_apart, maxEpigeneticEvents]
  · simp [getLE_putLE, getLE_putLE_of_apart, getLE_copyBytes_of_apart, maxEpigeneticEvents]

/-- A buffer that is large enough takes a memory to the next process, with its checksum. -/
theorem vitalEpigeneticImport_export {maxSize : BitVec 32} {m' : EpigeneticMemory}
    (h : epigeneticMemoryType.size ≤ maxSize.toNat) :
    vitalEpigeneticImport (vitalEpigeneticExport false maxSize m).1 maxSize m' =
      (vitalEpigeneticExport false maxSize m).2 := by
  have hexport : vitalEpigeneticExport false maxSize m = (some _, _) :=
    if_neg (not_or.2 ⟨Bool.false_ne_true, Nat.not_lt.2 h⟩)
  rw [hexport, vitalEpigeneticImport]
  dsimp only
  rw [if_neg (Nat.not_lt.2 h), EpigeneticMemory.ofBytes_bytes]
  exact if_neg (not_not.2 rfl)

/-- In a smaller one nothing is kept. -/
theorem vitalEpigeneticExport_of_lt {dstIsNull : Bool} {maxSize : BitVec 32}
    (h : maxSize.toNat < epigeneticMemoryType.size) :
    vitalEpigeneticExport dstIsNull maxSize m = (none, m) := if_pos (.inr h)

theorem vitalEpigeneticImport_of_lt {src : Option Bytes} {size : BitVec 32}
    (h : size.toNat < epigeneticMemoryType.size) : vitalEpigeneticImport src size m = m := by
  cases src with
  | none => rfl
  | some src => exact if_pos h

end OperatingOrganism.Vital

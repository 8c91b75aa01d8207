import Mathlib.Algebra.Group.Nat.Defs
import Mathlib.Data.Vector.Defs

/-!
# Ring logs

A log that keeps the last records in a fixed number of slots. Its head is a 32-bit counter that wraps and is never
reduced: it points to a slot by its remainder. Where the number of slots divides `2 ^ 32`, the wrap goes unnoticed
and the record written last is the one that is read back (`last?_record`).
-/

set_option autoImplicit false

namespace OperatingOrganism

universe u

structure RingLog (α : Type u) (size : Nat) where
  slots : Vector α size
  head : UInt32
  count : UInt32

namespace RingLog

variable {α : Type u} {size : Nat}

/-- A log without records: every slot holds `blank`. -/
def empty (size : Nat) (blank : α) : RingLog α size := ⟨.replicate size blank, 0, 0⟩

/-- The slot that the head points to. -/
def current? (log : RingLog α size) : Option α := log.slots[log.head.toNat % size]?

/-- The slot at the head is rewritten and the head moves on. -/
def record (log : RingLog α size) (rewrite : α → α) : RingLog α size where
  slots :=
    match log.current? with
    | some slot => log.slots.setIfInBounds (log.head.toNat % size) (rewrite slot)
    | none => log.slots
  head := log.head + 1
  count := if log.count.toNat < size then log.count + 1 else log.count

/-- The slot before the head, once there is a record. -/
def last? (log : RingLog α size) : Option α :=
  if log.count = 0 then none
  else log.slots[(log.head - 1 + UInt32.ofNat size).toNat % size]?

/-- One step back from the head and one round forward end in the slot that was written. -/
theorem index_back {head : UInt32} (hdvd : size ∣ 2 ^ 32) :
    (head + 1 - 1 + UInt32.ofNat size).toNat % size = head.toNat % size := by
  rw [UInt32.add_sub_cancel, UInt32.toNat_add, UInt32.toNat_ofNat']
  have hround : (head.toNat + size % 2 ^ 32) % 2 ^ 32 % size = (head.toNat + size % 2 ^ 32) % size :=
    Nat.mod_mod_of_dvd _ hdvd
  rw [hround, Nat.add_mod, Nat.mod_mod_of_dvd size hdvd, Nat.mod_self, Nat.add_zero, Nat.mod_mod]

/-- A record counts, up to the number of the slots. -/
theorem count_record_ne_zero {log : RingLog α size} {rewrite : α → α} (hpos : 0 < size) (hsize : size < 2 ^ 32) :
    (log.record rewrite).count ≠ 0 := by
  intro hzero
  have hnat := congrArg UInt32.toNat hzero
  simp only [record] at hnat
  split at hnat
  · next hroom =>
    rw [UInt32.toNat_add] at hnat
    change (log.count.toNat + 1) % 2 ^ 32 = 0 at hnat
    rw [Nat.mod_eq_of_lt (Nat.lt_of_le_of_lt hroom hsize)] at hnat
    exact Nat.succ_ne_zero _ hnat
  · next hfull => exact hfull (hnat ▸ hpos)

/-- The records are counted up to the number of the slots. -/
theorem count_record {log : RingLog α size} {rewrite : α → α} {n : Nat} (hsize : size < 2 ^ 32)
    (hcount : log.count.toNat = min n size) : (log.record rewrite).count.toNat = min (n + 1) size := by
  simp only [record]
  split
  · rw [UInt32.toNat_add]
    change (log.count.toNat + 1) % 2 ^ 32 = _
    omega
  · omega

/-- The last record is the slot at the head as it was rewritten. -/
theorem last?_record (log : RingLog α size) (rewrite : α → α) (hpos : 0 < size) (hsize : size < 2 ^ 32)
    (hdvd : size ∣ 2 ^ 32) :
    ∃ slot, log.current? = some slot ∧ (log.record rewrite).last? = some (rewrite slot) := by
  have hlt : log.head.toNat % size < size := Nat.mod_lt _ hpos
  obtain ⟨slot, hslot⟩ : ∃ slot, log.current? = some slot :=
    ⟨_, Vector.getElem?_eq_getElem hlt⟩
  refine ⟨slot, hslot, ?_⟩
  rw [last?, if_neg (count_record_ne_zero hpos hsize)]
  simp only [record, hslot]
  rw [index_back hdvd, Vector.getElem?_setIfInBounds_self_of_lt hlt]

end RingLog

end OperatingOrganism

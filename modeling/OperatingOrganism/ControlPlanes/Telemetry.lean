import OperatingOrganism.ControlPlanes.ControlTick
import OperatingOrganism.Library.ByteLayout

/-!
# The telemetry frame

`oo_telemetry_serialize` writes the fields of a packet one after the other, the least significant byte of
each first. A receiver that reads the fields at their places gets the packet back (`carries_serialize`).
-/

set_option autoImplicit false

namespace OperatingOrganism.ControlPlanes

open OperatingOrganism.ByteLayout

/-- The integer of `w` bits at a place of a frame. -/
def frameField (w loc : Nat) (frame : List UInt8) : BitVec w :=
  getLE w loc (overlay (frame.map UInt8.toBitVec) fun _ => 0)

/-- The frame has 24 bytes, and its little-endian fields are those of the packet. -/
structure Carries (frame : List UInt8) (pkt : TelemetryPkt) : Prop where
  length : frame.length = 24
  magic : frameField 32 0 frame = pkt.magic.toBitVec
  organId : frameField 16 4 frame = pkt.organId.toBitVec
  mode : frameField 8 6 frame = pkt.mode.toBitVec
  health : frameField 8 7 frame = pkt.health.toBitVec
  cpuNeural : frameField 32 8 frame = pkt.cpuNeural.toBitVec
  memUsedMb : frameField 32 12 frame = pkt.memUsedMb.toBitVec
  breathRate : frameField 32 16 frame = pkt.breathRate.toBitVec
  tick : frameField 32 20 frame = pkt.tick.toBitVec

/-- A field is read from its own bytes, whatever stands before and behind them. -/
theorem frameField_append {w : Nat} (pre bytes post : List UInt8) (hlength : w / 8 = bytes.length) :
    frameField w pre.length (pre ++ (bytes ++ post)) = frameField w 0 bytes := by
  have hshift : ∀ n k, k + n ≤ bytes.length →
      leNat (overlay ((pre ++ (bytes ++ post)).map UInt8.toBitVec) fun _ => 0) (pre.length + k) n =
        leNat (overlay (bytes.map UInt8.toBitVec) fun _ => 0) k n := by
    intro n
    -- induction on the bytes still to be read
    induction n with
    | zero =>
      intro k _
      rfl
    | succ n ih =>
      intro k hk
      have hlt : k < bytes.length := by omega
      have hbyte : (pre ++ (bytes ++ post))[pre.length + k]? = bytes[k]? := by
        rw [List.getElem?_append_right (Nat.le_add_right _ _), Nat.add_sub_cancel_left,
          List.getElem?_append_left hlt]
      rw [leNat, leNat, Nat.add_assoc, ih (k + 1) (by omega)]
      simp only [overlay, List.getElem?_map, hbyte]
  rw [frameField, frameField, getLE, getLE, hlength]
  apply congrArg
  exact hshift bytes.length 0 (by omega)

theorem frameField_putLe32 (v : UInt32) : frameField 32 0 (putLe32 v) = v.toBitVec := by
  apply BitVec.eq_of_toNat_eq
  have hv := v.toNat_lt
  simp [frameField, getLE, leNat, overlay, putLe32, Nat.shiftRight_eq_div_pow]
  omega

theorem frameField_putLe16 (v : UInt16) : frameField 16 0 (putLe16 v) = v.toBitVec := by
  apply BitVec.eq_of_toNat_eq
  have hv := v.toNat_lt
  simp [frameField, getLE, leNat, overlay, putLe16, Nat.shiftRight_eq_div_pow]
  omega

theorem frameField_byte (v : UInt8) : frameField 8 0 [v] = v.toBitVec := by
  apply BitVec.eq_of_toNat_eq
  have hv := v.toNat_lt
  simp [frameField, getLE, leNat, overlay]

/-- The fields of a serialised packet are read back. -/
theorem carries_serialize (pkt : TelemetryPkt) : Carries (ooTelemetrySerialize pkt 24) pkt := by
  have hframe : ooTelemetrySerialize pkt 24 =
      putLe32 pkt.magic ++ putLe16 pkt.organId ++ [pkt.mode, pkt.health] ++ putLe32 pkt.cpuNeural ++
        putLe32 pkt.memUsedMb ++ putLe32 pkt.breathRate ++ putLe32 pkt.tick := rfl
  rw [hframe]
  refine ⟨rfl, ?_, ?_, ?_, ?_, ?_, ?_, ?_, ?_⟩
  · rw [← frameField_putLe32]
    exact frameField_append [] (putLe32 pkt.magic) _ rfl
  · rw [← frameField_putLe16]
    exact frameField_append (putLe32 pkt.magic) (putLe16 pkt.organId) _ rfl
  · rw [← frameField_byte]
    exact frameField_append (putLe32 pkt.magic ++ putLe16 pkt.organId) [pkt.mode] _ rfl
  · rw [← frameField_byte]
    exact frameField_append (putLe32 pkt.magic ++ putLe16 pkt.organId ++ [pkt.mode]) [pkt.health] _ rfl
  · rw [← frameField_putLe32]
    exact frameField_append (putLe32 pkt.magic ++ putLe16 pkt.organId ++ [pkt.mode, pkt.health])
      (putLe32 pkt.cpuNeural) _ rfl
  · rw [← frameField_putLe32]
    exact frameField_append (putLe32 pkt.magic ++ putLe16 pkt.organId ++ [pkt.mode, pkt.health] ++
      putLe32 pkt.cpuNeural) (putLe32 pkt.memUsedMb) _ rfl
  · rw [← frameField_putLe32]
    exact frameField_append (putLe32 pkt.magic ++ putLe16 pkt.organId ++ [pkt.mode, pkt.health] ++
      putLe32 pkt.cpuNeural ++ putLe32 pkt.memUsedMb) (putLe32 pkt.breathRate) _ rfl
  · rw [← frameField_putLe32]
    exact frameField_append (putLe32 pkt.magic ++ putLe16 pkt.organId ++ [pkt.mode, pkt.health] ++
      putLe32 pkt.cpuNeural ++ putLe32 pkt.memUsedMb ++ putLe32 pkt.breathRate) (putLe32 pkt.tick) [] rfl

end OperatingOrganism.ControlPlanes

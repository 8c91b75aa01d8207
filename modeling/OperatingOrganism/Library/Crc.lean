import Mathlib.Data.BitVec
import Mathlib.Data.List.Basic
import Mathlib.Logic.Function.Iterate

/-!
# Cyclic redundancy checks

A register takes the bits of a message one after the other, the least significant bit of a byte first: the bit is
added to the lowest place, and the register moves down by one, with the polynomial added when a one falls out. The move
is a linear bijection as long as the polynomial has its highest coefficient, and a run of bits that is no longer than
the register has the effect of the word that it spells (`feed_eq`). So two messages that differ in no more
places than the register is long, all told from the first to the last of them, leave different registers behind
(`eq_of_feed_eq`).
-/

set_option autoImplicit false

namespace OperatingOrganism.Crc

open Function

variable {w : Nat} (poly : BitVec w)

/-- The register moves down by one place. -/
def shift (r : BitVec w) : BitVec w := if r.getLsbD 0 then (r >>> 1) ^^^ poly else r >>> 1

/-- A bit in the lowest place. -/
def bitWord (b : Bool) : BitVec w := (BitVec.ofBool b).setWidth w

def feedBit (r : BitVec w) (b : Bool) : BitVec w := shift poly (r ^^^ bitWord b)

/-- The register after a message. -/
def feed (r : BitVec w) (bits : List Bool) : BitVec w := bits.foldl (feedBit poly) r

/-- The word that bits spell, the lowest first. -/
def wordOf (bits : List Bool) : BitVec w := (BitVec.ofBoolListLE bits).setWidth w

/-! ## The move -/

section Shift

variable {poly} {r s : BitVec w}

theorem shift_xor : shift poly (r ^^^ s) = shift poly r ^^^ shift poly s := by
  have hcancel : ∀ a b : BitVec w, a ^^^ b = a ^^^ poly ^^^ (b ^^^ poly) := by
    intro a b
    rw [BitVec.xor_comm b, BitVec.xor_assoc, ← BitVec.xor_assoc poly, BitVec.xor_self, BitVec.zero_xor]
  simp only [shift, BitVec.getLsbD_xor, BitVec.ushiftRight_xor_distrib]
  cases r.getLsbD 0 <;> cases s.getLsbD 0
  · rfl
  · simp [BitVec.xor_assoc]
  · simp [BitVec.xor_assoc, BitVec.xor_comm poly]
  · simpa using hcancel (r >>> 1) (s >>> 1)

/-- A word without its highest bit comes back from one place further up. -/
theorem shift_shiftLeft (h : r.msb = false) : shift poly (r <<< 1) = r := by
  have hlow : (r <<< 1).getLsbD 0 = false := by simp
  rw [shift, hlow, if_neg (by simp)]
  apply BitVec.eq_of_getElem_eq
  intro i hi
  by_cases hlast : i = w - 1
  · rw [BitVec.msb_eq_getLsbD_last, ← hlast, BitVec.getLsbD_eq_getElem hi] at h
    simp [h, show ¬ 1 + i < w by omega]
  · simp [show 1 + i < w by omega]

/-- What falls out shows in the highest place. -/
theorem msb_shift (hpoly : poly.msb = true) (r : BitVec w) : (shift poly r).msb = r.getLsbD 0 := by
  have hempty : (r >>> 1).msb = false := by
    rw [BitVec.msb_eq_getLsbD_last, BitVec.getLsbD_ushiftRight]
    exact BitVec.getLsbD_of_ge r _ (by omega)
  cases hbit : r.getLsbD 0 <;> simp [shift, hbit, hempty, hpoly]

theorem shift_injective (hpoly : poly.msb = true) : Injective (shift poly) := by
  intro r s heq
  -- the highest bit of the result tells whether the polynomial was added
  have hlow : r.getLsbD 0 = s.getLsbD 0 := by
    rw [← msb_shift hpoly, ← msb_shift hpoly, heq]
  have hrest : r >>> 1 = s >>> 1 := by
    rw [shift, shift, hlow] at heq
    cases hbit : s.getLsbD 0 <;> simpa [hbit] using heq
  apply BitVec.eq_of_getLsbD_eq
  intro i _
  cases i with
  | zero => exact hlow
  | succ i =>
    have hplace := congrArg (BitVec.getLsbD · i) hrest
    simpa [Nat.add_comm] using hplace

end Shift

/-! ## The word of a run of bits -/

section Words

variable {poly} {bits bits' : List Bool} {b : Bool} {r s : BitVec w}

@[simp] theorem getElem_wordOf {i : Nat} (hi : i < w) : (wordOf bits : BitVec w)[i] = bits.getD i false := by
  simp [wordOf, ← BitVec.getLsbD_eq_getElem, hi]

theorem wordOf_nil : wordOf [] = (0 : BitVec w) := by
  apply BitVec.eq_of_getElem_eq
  simp

/-- The first bit is in the lowest place. -/
theorem wordOf_cons : wordOf (b :: bits) = bitWord b ^^^ (wordOf bits <<< 1 : BitVec w) := by
  apply BitVec.eq_of_getElem_eq
  intro i hi
  cases i with
  | zero => simp [bitWord]
  | succ i => simp [bitWord]

theorem msb_wordOf (h : bits.length < w) : (wordOf bits : BitVec w).msb = false := by
  have hlast : w - 1 < w := by omega
  rw [BitVec.msb_eq_getLsbD_last, BitVec.getLsbD_eq_getElem hlast, getElem_wordOf]
  simp [show bits.length ≤ w - 1 by omega]

/-- Bits that fit are told by their word. -/
theorem eq_of_wordOf_eq (hlength : bits.length = bits'.length) (hfits : bits.length ≤ w)
    (h : (wordOf bits : BitVec w) = wordOf bits') : bits = bits' := by
  apply List.ext_getElem hlength
  intro i hi hi'
  have hw : i < w := by omega
  have hplace : (wordOf bits : BitVec w)[i] = (wordOf bits')[i] := by rw [h]
  simpa [hi, hi'] using hplace

/-- A run of bits that is no longer than the register has the effect of its word. -/
theorem feed_eq (hfits : bits.length ≤ w) (r : BitVec w) :
    feed poly r bits = (shift poly)^[bits.length] (r ^^^ wordOf bits) := by
  induction bits generalizing r with
  | nil => simp [feed, wordOf_nil]
  | cons b bits ih =>
    rw [List.length_cons] at hfits ⊢
    calc feed poly r (b :: bits)
        = (shift poly)^[bits.length] (shift poly (r ^^^ bitWord b) ^^^ wordOf bits) :=
          ih (by omega) (shift poly (r ^^^ bitWord b))
      _ = (shift poly)^[bits.length] (shift poly (r ^^^ bitWord b) ^^^ shift poly (wordOf bits <<< 1)) := by
          rw [shift_shiftLeft (msb_wordOf (by omega))]
      _ = (shift poly)^[bits.length + 1] (r ^^^ wordOf (b :: bits)) := by
          rw [← shift_xor, iterate_succ_apply, wordOf_cons, BitVec.xor_assoc]

theorem feed_append (bits bits' : List Bool) : feed poly r (bits ++ bits') = feed poly (feed poly r bits) bits' :=
  List.foldl_append

/-- Different registers stay different. -/
theorem feed_injective (hpoly : poly.msb = true) (bits : List Bool) : Injective (feed poly · bits) := by
  induction bits with
  | nil => exact injective_id
  | cons b bits ih =>
    intro r s heq
    have hstep : feedBit poly r b = feedBit poly s b := ih heq
    exact (BitVec.xor_left_inj _).1 (shift_injective hpoly hstep)

/-- Two runs that are no longer than the register are told from one another behind any message, and before any. -/
theorem eq_of_feed_eq (hpoly : poly.msb = true) (hlength : bits.length = bits'.length) (hfits : bits.length ≤ w)
    {front back : List Bool} (h : feed poly r (front ++ bits ++ back) = feed poly r (front ++ bits' ++ back)) :
    bits = bits' := by
  rw [feed_append, feed_append, feed_append, feed_append] at h
  have hbehind : feed poly (feed poly r front) bits = feed poly (feed poly r front) bits' :=
    feed_injective hpoly back h
  have hfits' : bits'.length ≤ w := by omega
  rw [feed_eq hfits (feed poly r front), feed_eq hfits' (feed poly r front), ← hlength] at hbehind
  have hword := (shift_injective hpoly).iterate bits.length hbehind
  exact eq_of_wordOf_eq hlength hfits ((BitVec.xor_right_inj _).1 hword)

end Words

/-! ## Bytes -/

section Bytes

variable {poly} {bytes bytes' : List Nat} {front burst burst' back : List Bool}

/-- The bits of a byte, the lowest first. -/
def byteBits (b : Nat) : List Bool := (List.range 8).map b.testBit

/-- The bits of a message, in the order in which the register takes them. -/
def bitsOf (bytes : List Nat) : List Bool := bytes.flatMap byteBits

/-- A byte at once: it is added to the lowest places, and the register moves down by eight. -/
def feedByte (poly r : BitVec w) (b : Nat) : BitVec w := (shift poly)^[8] (r ^^^ (BitVec.ofNat 8 b).setWidth w)

def feedBytes (poly r : BitVec w) (bytes : List Nat) : BitVec w := bytes.foldl (feedByte poly) r

theorem wordOf_byteBits (b : Nat) : wordOf (byteBits b) = (BitVec.ofNat 8 b).setWidth w := by
  apply BitVec.eq_of_getElem_eq
  intro i hi
  rw [getElem_wordOf, byteBits, BitVec.getElem_setWidth, BitVec.getLsbD_ofNat]
  by_cases hbyte : i < 8
  · simp [hbyte]
  · simp [hbyte]

/-- Byte by byte or bit by bit, the register is the same. -/
theorem feedBytes_eq (hw : 8 ≤ w) (r : BitVec w) : feedBytes poly r bytes = feed poly r (bitsOf bytes) := by
  induction bytes generalizing r with
  | nil => rfl
  | cons b bytes ih =>
    have hbyte : feed poly r (byteBits b) = feedByte poly r b := by
      rw [feed_eq (by simpa [byteBits] using hw), wordOf_byteBits]
      simp [byteBits, feedByte]
    calc feedBytes poly r (b :: bytes) = feed poly (feedByte poly r b) (bitsOf bytes) := ih _
      _ = feed poly r (byteBits b ++ bitsOf bytes) := by rw [feed_append, hbyte]

/-- A burst of errors that is no longer than the register does not go unnoticed. -/
theorem feedBytes_ne_of_burst (hpoly : poly.msb = true) (hw : 8 ≤ w) (r : BitVec w)
    (hbits : bitsOf bytes = front ++ burst ++ back) (hbits' : bitsOf bytes' = front ++ burst' ++ back)
    (hlength : burst.length = burst'.length) (hfits : burst.length ≤ w) (hne : burst ≠ burst') :
    feedBytes poly r bytes ≠ feedBytes poly r bytes' := by
  rw [feedBytes_eq hw, feedBytes_eq hw, hbits, hbits']
  exact fun heq => hne (eq_of_feed_eq hpoly hlength hfits heq)

end Bytes

/-! ## The check of `zlib` -/

/-- The polynomial of `zlib`, its highest coefficient in the lowest place left out. -/
def zlibPolynomial : BitVec 32 := 0xEDB88320

/-- `zlib.crc32` -/
def crc32 (bytes : List Nat) : BitVec 32 := feedBytes zlibPolynomial (.allOnes 32) bytes ^^^ .allOnes 32

/-- No burst of errors of up to 32 bits, wherever it begins, leaves the check as it was. -/
theorem crc32_ne_of_burst {bytes bytes' : List Nat} {front burst burst' back : List Bool}
    (hbits : bitsOf bytes = front ++ burst ++ back) (hbits' : bitsOf bytes' = front ++ burst' ++ back)
    (hlength : burst.length = burst'.length) (hfits : burst.length ≤ 32) (hne : burst ≠ burst') :
    crc32 bytes ≠ crc32 bytes' := by
  intro heq
  have hpoly : zlibPolynomial.msb = true := rfl
  apply feedBytes_ne_of_burst hpoly (Nat.le_add_left 8 24) (.allOnes 32) hbits hbits' hlength hfits hne
  exact (BitVec.xor_left_inj _).1 heq

-- the check of one letter
example : crc32 [0x61] = 0xE8B7BE43 := by decide

end OperatingOrganism.Crc

import Mathlib.Logic.Basic

/-!
# The cell bitmap

The bitmap of `bio_alloc.c` has one bit for each cell of 4096 bytes, eight to a byte. This module is about
the three operations on bits; what follows speaks of cells as used or free only.

Fixed-width integers of the source are bit vectors. An index into the bitmap is a natural number.
-/

set_option autoImplicit false

namespace OperatingOrganism.Memory

/-- `CELL_SIZE` -/
def cellSize : Nat := 4096

/-- `BITMAP_MAX_CELLS` -/
def bitmapMaxCells : Nat := 102400

/-- `cell_bitmap` -/
abbrev CellBitmap := Vector (BitVec 8) (bitmapMaxCells / 8)

namespace CellBitmap

/-- A byte of the bitmap. -/
def byte (bitmap : CellBitmap) (n : Nat) : BitVec 8 := bitmap[n]?.getD 0

/-- `set_bit` -/
def setBit (bitmap : CellBitmap) (index : Nat) : CellBitmap :=
  bitmap.setIfInBounds (index / 8) (bitmap.byte (index / 8) ||| 1#8 <<< (index % 8))

/-- `clear_bit` -/
def clearBit (bitmap : CellBitmap) (index : Nat) : CellBitmap :=
  bitmap.setIfInBounds (index / 8) (bitmap.byte (index / 8) &&& ~~~(1#8 <<< (index % 8)))

/-- `test_bit` -/
def testBit (bitmap : CellBitmap) (index : Nat) : Bool :=
  bitmap.byte (index / 8) &&& 1#8 <<< (index % 8) ≠ 0#8

/-- The bitmap after `bio_mem_init`. -/
def zero : CellBitmap := Vector.replicate _ 0#8

variable {bitmap : CellBitmap} {i j : Nat}

/-- A mask of one bit tests that bit. -/
theorem and_mask_ne_zero (b : BitVec 8) (k : Nat) (hk : k < 8) :
    b &&& 1#8 <<< k ≠ 0#8 ↔ b.getLsbD k = true := by
  rw [← BitVec.twoPow_eq, BitVec.and_twoPow]
  cases b.getLsbD k with
  | false => simp
  | true =>
    refine iff_of_true ?_ rfl
    intro h
    have := congrArg (BitVec.getLsbD · k) h
    simp [hk] at this

theorem testBit_eq (bitmap : CellBitmap) (i : Nat) :
    bitmap.testBit i = (bitmap.byte (i / 8)).getLsbD (i % 8) := by
  rw [testBit, Bool.eq_iff_iff, decide_eq_true_iff]
  exact and_mask_ne_zero _ _ (Nat.mod_lt _ (by decide))

theorem byte_setIfInBounds_self {n : Nat} (hn : n < bitmapMaxCells / 8) (b : BitVec 8) :
    byte (bitmap.setIfInBounds n b) n = b := by
  rw [byte, Vector.getElem?_setIfInBounds_self_of_lt hn]
  rfl

theorem byte_setIfInBounds_ne {n m : Nat} (hn : n ≠ m) (b : BitVec 8) :
    byte (bitmap.setIfInBounds n b) m = bitmap.byte m := by
  rw [byte, Vector.getElem?_setIfInBounds_ne hn]
  rfl

/-- A change of the byte of cell `i` is a change of its bits. -/
theorem testBit_setIfInBounds (hi : i < bitmapMaxCells) (b : BitVec 8) :
    testBit (bitmap.setIfInBounds (i / 8) b) j =
      if j / 8 = i / 8 then b.getLsbD (j % 8) else bitmap.testBit j := by
  have hbyte : i / 8 < bitmapMaxCells / 8 := by
    rw [bitmapMaxCells] at hi ⊢
    omega
  rw [testBit_eq, testBit_eq]
  by_cases h : j / 8 = i / 8
  · rw [if_pos h, h, byte_setIfInBounds_self hbyte]
  · rw [if_neg h, byte_setIfInBounds_ne (Ne.symm h)]

theorem getLsbD_mask {k l : Nat} (hl : l < 8) : (1#8 <<< k).getLsbD l = decide (k = l) := by
  rw [← BitVec.twoPow_eq, BitVec.getLsbD_twoPow, Bool.eq_iff_iff]
  simp
  omega

/-- `set_bit` marks one cell. -/
theorem testBit_setBit (hi : i < bitmapMaxCells) :
    (bitmap.setBit i).testBit j = (bitmap.testBit j || decide (j = i)) := by
  have hj : j % 8 < 8 := Nat.mod_lt _ (by decide)
  rw [setBit, testBit_setIfInBounds hi]
  by_cases h : j / 8 = i / 8
  · have hiff : i % 8 = j % 8 ↔ j = i := by omega
    rw [if_pos h, BitVec.getLsbD_or, getLsbD_mask hj, testBit_eq, h]
    simp only [hiff]
  · have hne : j ≠ i := by
      rintro rfl
      exact h rfl
    rw [if_neg h, decide_eq_false hne, Bool.or_false]

/-- `clear_bit` frees one cell. -/
theorem testBit_clearBit (hi : i < bitmapMaxCells) :
    (bitmap.clearBit i).testBit j = (bitmap.testBit j && decide (j ≠ i)) := by
  have hj : j % 8 < 8 := Nat.mod_lt _ (by decide)
  rw [clearBit, testBit_setIfInBounds hi]
  by_cases h : j / 8 = i / 8
  · have hiff : i % 8 = j % 8 ↔ j = i := by omega
    rw [if_pos h, BitVec.getLsbD_and, BitVec.getLsbD_not, getLsbD_mask hj, testBit_eq, h]
    simp [hj, hiff]
  · have hne : j ≠ i := by
      rintro rfl
      exact h rfl
    rw [if_neg h, decide_eq_true hne, Bool.and_true]

/-- Bitmaps with the same cells in use are equal. -/
theorem eq_of_testBit {bitmap' : CellBitmap} (h : ∀ i, bitmap.testBit i = bitmap'.testBit i) :
    bitmap = bitmap' := by
  apply Vector.ext
  intro n hn
  apply BitVec.eq_of_getLsbD_eq
  intro k hk
  -- bit `k` of byte `n`
  have hbit := h (8 * n + k)
  have hbyte : (8 * n + k) / 8 = n := by omega
  have hmod : (8 * n + k) % 8 = k := by omega
  rw [testBit_eq, testBit_eq, hbyte, hmod, byte, byte, Vector.getElem?_eq_getElem hn,
    Vector.getElem?_eq_getElem hn] at hbit
  exact hbit

/-- Freeing a cell changes nothing if and only if it was free. -/
theorem clearBit_eq_self_iff (hi : i < bitmapMaxCells) : bitmap.clearBit i = bitmap ↔ bitmap.testBit i = false := by
  constructor
  · intro heq
    have hbit := @testBit_clearBit bitmap i i hi
    rw [heq, decide_eq_false (not_not.2 rfl), Bool.and_false] at hbit
    exact hbit
  · intro hfree
    apply eq_of_testBit
    intro j
    rw [testBit_clearBit hi]
    by_cases hj : j = i
    · rw [hj, hfree, Bool.false_and]
    · rw [decide_eq_true hj, Bool.and_true]

/-- After `bio_mem_init` no cell is used. -/
theorem testBit_zero (i : Nat) : zero.testBit i = false := by
  have hbyte : zero.byte (i / 8) = 0#8 := by
    rw [byte, zero, Vector.getElem?_replicate]
    split <;> rfl
  rw [testBit_eq, hbyte, BitVec.getLsbD_zero]

end CellBitmap

end OperatingOrganism.Memory

import OperatingOrganism.Memory.NeuralTissue

/-!
# Which cell does an address free?

`bio_free_cell` divides the distance from `mem_base` by the size of a cell, drops the upper half of the number, and
compares what is left with the size of the bitmap. So an address `2 ^ 32` cells or a multiple of that behind a cell
counts as an address of the cell. `freeCell_iff` says exactly when the call frees the cell of its address and
nothing else.
-/

set_option autoImplicit false

namespace OperatingOrganism.Memory

open OperatingOrganism.ByteMemory

/-- The address lies in cell `i` above `mem_base`, as numbers: no address is past the end of the address space. -/
def InCell (base ptr : Address) (i : Nat) : Prop :=
  base.toNat + i * cellSize ≤ ptr.toNat ∧ ptr.toNat < base.toNat + i * cellSize + cellSize

/-- An address in one of the managed cells frees that cell and no other one, and any other address leaves the
bitmap as it is. -/
structure FreesItsCell (ptr : Address) (s : BioMem) : Prop where
  managed : ∀ i < bitmapMaxCells, InCell s.memBase ptr i →
    ∀ k, (bioFreeCell ptr s).Used k ↔ s.Used k ∧ k ≠ i
  foreign : (∀ i < bitmapMaxCells, ¬ InCell s.memBase ptr i) → (bioFreeCell ptr s).cellBitmap = s.cellBitmap

/-- The address is not a multiple of `2 ^ 32` cells behind a cell that is used. -/
def NoAlias (ptr : Address) (s : BioMem) : Prop :=
  ∀ i < bitmapMaxCells, ∀ n, 0 < n → InCell s.memBase ptr (i + n * 2 ^ 32) → ¬ s.Used i

variable {s : BioMem} {base ptr : Address} {i : Nat}

/-- The one cell in which an address lies. -/
theorem inCell_iff (hle : base ≤ ptr) : InCell base ptr i ↔ distance base ptr / cellSize = i := by
  have hnat : base.toNat ≤ ptr.toNat := BitVec.le_def.1 hle
  have hdist : distance base ptr = ptr.toNat - base.toNat := BitVec.toNat_sub_of_le hle
  rw [InCell, hdist, cellSize]
  omega

theorem not_inCell (h : ¬ base ≤ ptr) : ¬ InCell base ptr i := by
  rw [BitVec.le_def] at h
  rintro ⟨hle, -⟩
  omega

/-- What the call does with an address that is not below `mem_base`. -/
theorem freeCell_of_le (hle : s.memBase ≤ ptr) :
    bioFreeCell ptr s =
      if distance s.memBase ptr / cellSize % 2 ^ 32 < bitmapMaxCells then
        { s with cellBitmap := s.cellBitmap.clearBit (distance s.memBase ptr / cellSize % 2 ^ 32) }
      else s := by
  rw [bioFreeCell, if_pos hle, toNat_cellIndex]

/-- For every address and every state, the call frees the cell of the address and nothing else if and only if the
address is not a multiple of `2 ^ 32` cells behind a used cell. -/
theorem freeCell_iff (ptr : Address) (s : BioMem) : FreesItsCell ptr s ↔ NoAlias ptr s := by
  by_cases hle : s.memBase ≤ ptr
  · have hcell : ∀ i, InCell s.memBase ptr i ↔ distance s.memBase ptr / cellSize = i := fun i => inCell_iff hle
    have hfree := freeCell_of_le hle
    constructor
    · intro hfrees i hi n hn hin hused
      rw [hcell] at hin
      -- the number of the cell is kept in 32 bits
      have hindex : distance s.memBase ptr / cellSize % 2 ^ 32 = i := by
        rw [hin, Nat.add_mul_mod_self_right, Nat.mod_eq_of_lt (hi.trans (by decide))]
      rw [hindex, if_pos hi] at hfree
      have hsame := hfrees.foreign ?_
      · rw [hfree, CellBitmap.clearBit_eq_self_iff hi] at hsame
        exact absurd hused (Bool.eq_false_iff.1 hsame)
      · intro j hj hjn
        rw [hcell, hin] at hjn
        rw [bitmapMaxCells] at hj
        omega
    · intro hno
      constructor
      · intro i hi hin k
        rw [hcell] at hin
        have hindex : distance s.memBase ptr / cellSize % 2 ^ 32 = i := by
          rw [hin, Nat.mod_eq_of_lt (hi.trans (by decide))]
        rw [hindex, if_pos hi] at hfree
        rw [hfree, BioMem.Used, CellBitmap.testBit_clearBit hi, Bool.and_eq_true, decide_eq_true_iff]
        rfl
      · intro hout
        by_cases hlt : distance s.memBase ptr / cellSize % 2 ^ 32 < bitmapMaxCells
        · -- another cell than the one of the address is freed, which is free already
          have hlarge : ¬ distance s.memBase ptr / cellSize < bitmapMaxCells := fun hq =>
            hout _ hq ((hcell _).2 rfl)
          rw [if_pos hlt] at hfree
          rw [hfree]
          refine (CellBitmap.clearBit_eq_self_iff hlt).2 (Bool.eq_false_iff.2 ?_)
          apply hno _ hlt (distance s.memBase ptr / cellSize / 2 ^ 32)
          · rw [bitmapMaxCells] at hlt hlarge
            omega
          · rw [hcell, Nat.mod_add_div']
        · rw [hfree, if_neg hlt]
  · rw [NoAlias]
    refine iff_of_true ⟨fun i _ hin => absurd hin (not_inCell hle), fun _ => ?_⟩
      fun i _ n _ hin => absurd hin (not_inCell hle)
    rw [freeCell_of_not_le hle]

/-- The address `2 ^ 44` bytes behind the first cell, which is in none of the managed cells, frees that cell. -/
theorem exists_foreign_frees :
    (∀ i < bitmapMaxCells, ¬ InCell 0x100000 0x100000100000 i) ∧
      ¬ FreesItsCell 0x100000100000 (oneCellMem 0x100000 0x19000000) := by
  have hcell : ∀ i, InCell 0x100000 0x100000100000 i ↔ 2 ^ 32 = i := fun i => inCell_iff (by decide)
  have hforeign : ∀ i < bitmapMaxCells, ¬ InCell 0x100000 0x100000100000 i := by
    intro i hi hin
    rw [hcell] at hin
    rw [bitmapMaxCells] at hi
    omega
  refine ⟨hforeign, fun hfrees => ?_⟩
  have hsame := hfrees.foreign hforeign
  rw [freeCell_of_le (by decide), if_pos (by decide), CellBitmap.clearBit_eq_self_iff (by decide)] at hsame
  have hused : (oneCellMem 0x100000 0x19000000).Used 0 := by
    rw [BioMem.Used, oneCellMem, testBit_markCells (by decide)]
    rfl
  exact absurd hused (Bool.eq_false_iff.1 hsame)

end OperatingOrganism.Memory

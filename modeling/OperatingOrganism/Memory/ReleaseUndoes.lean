import OperatingOrganism.Memory.LowestFree
import OperatingOrganism.Memory.Purge

/-!
# Does a release undo the allocation?

`bio_apoptosis` frees the cells that its size covers, `bio_free_cell` frees one cell, and
`bio_consolidate_memory`, which takes a size too, calls `bio_free_cell`. So consolidation gives back the first
cell of a block and keeps the others marked. None of them gives back a block whose address has wrapped around
below `mem_base`, and with the memory at address 0 the null pointer of a failed allocation is the address of a
cell. `release_undoes_iff` says exactly when each of the three brings the bitmap back.
-/

set_option autoImplicit false

namespace OperatingOrganism.Memory

open OperatingOrganism.ByteMemory OperatingOrganism.FirstFit OperatingOrganism.UnitedBus

/-! ## The three laws -/

/-- A block is allocated, and what the call returned is given to `release` with the same size: the bitmap is as
before. -/
def TissueUndone (release : Address → BitVec 64 → BioMem → BioMem) (sizeInBytes : BitVec 64) (s : BioMem) : Prop :=
  let (p, t) := bioAllocateNeuralTissue sizeInBytes s
  (release p sizeInBytes t).cellBitmap = s.cellBitmap

/-- The same for a cell and `bio_free_cell`. -/
def CellUndone (stack : Globule) (s : BioMem) : Prop :=
  let (p, t) := bioAllocateCell stack s
  (bioFreeCell p t).cellBitmap = s.cellBitmap

/-! ## Their conditions -/

/-- The block that the call finds does not lie below `mem_base`; and if it finds none, the memory is not at
address 0 or the first cells, as many as it looked for, are free. -/
structure ApoptosisFits (sizeInBytes : BitVec 64) (s : BioMem) : Prop where
  found : ∀ i, FirstFits s.free bitmapMaxCells (cellsNeeded sizeInBytes).toNat i →
    s.memBase ≤ cellAddress s.memBase i
  failed : (∀ i, ¬ Fits s.free bitmapMaxCells (cellsNeeded sizeInBytes).toNat i) → s.memBase = 0 →
    ∀ k < bitmapMaxCells, k < (cellsNeeded sizeInBytes).toNat → ¬ s.Used k

/-- The block that the call finds is one cell and does not lie below `mem_base`; and if it finds none, the memory
is not at address 0 or its first cell is free. -/
structure ConsolidationFits (sizeInBytes : BitVec 64) (s : BioMem) : Prop where
  found : ∀ i, FirstFits s.free bitmapMaxCells (cellsNeeded sizeInBytes).toNat i →
    s.memBase ≤ cellAddress s.memBase i ∧ (cellsNeeded sizeInBytes).toNat = 1
  failed : (∀ i, ¬ Fits s.free bitmapMaxCells (cellsNeeded sizeInBytes).toNat i) → s.memBase = 0 → ¬ s.Used 0

/-- The lowest free cell does not lie below `mem_base`, and if it is at address 0 it is the only one; and if no
cell is free, the memory is not at address 0. -/
structure CellFits (s : BioMem) : Prop where
  found : ∀ i, LowestFree s i → s.memBase ≤ cellAddress s.memBase i ∧
    (cellAddress s.memBase i = 0 → ∀ k < bitmapMaxCells, k ≠ i → s.Used k)
  failed : (∀ k < bitmapMaxCells, s.Used k) → s.memBase ≠ 0

/-! ## What a release does -/

section Releases

variable {s : BioMem} {base p : Address} {size : BitVec 64} {i k : Nat}

@[simp] theorem cellAddress_zero (base : Address) : cellAddress base 0 = base := BitVec.add_zero base

/-- A cell of the bitmap is freed by its address. -/
theorem testBit_freeCell (hbase : s.memBase = base) (hi : i < bitmapMaxCells) (hle : base ≤ cellAddress base i) :
    (bioFreeCell (cellAddress base i) s).cellBitmap.testBit k =
      (s.cellBitmap.testBit k && !decide (k = i)) := by
  subst hbase
  rw [freeCell_cellAddress hi hle]
  rw [CellBitmap.testBit_clearBit hi, decide_not]

/-- The cells that a purge from a cell of the bitmap on comes to. -/
theorem swept_cellAddress_iff (hi : i < bitmapMaxCells) (hwrap : i + (cellsNeeded size).toNat < 4294967296) :
    Swept base (cellAddress base i) size k ↔ i ≤ k ∧ k < i + (cellsNeeded size).toNat := by
  rw [bitmapMaxCells] at hi
  have hdist : distance base (cellAddress base i) = i * cellSize := distance_add (by rw [cellSize]; omega)
  rw [toNat_cellsNeeded_eq] at hwrap ⊢
  have hcell : 0 < cellSize := by decide
  rw [Swept, hdist, Nat.mul_div_cancel i hcell]
  omega

/-- It frees them. -/
theorem testBit_purge (hbase : s.memBase = base) (hi : i < bitmapMaxCells) (hle : base ≤ cellAddress base i)
    (hwrap : i + (cellsNeeded size).toNat < 4294967296) :
    (bioPurgeInfectedTissue (cellAddress base i) size s).cellBitmap.testBit k =
      (s.cellBitmap.testBit k && !decide (i ≤ k ∧ k < i + (cellsNeeded size).toNat)) := by
  subst hbase
  have hsweeps : Sweeps (cellAddress s.memBase i) size s _ := sweeps_purge hle
  rw [Bool.eq_iff_iff]
  by_cases hk : Swept s.memBase (cellAddress s.memBase i) size k
  · rw [decide_eq_true ((swept_cellAddress_iff hi hwrap).1 hk), Bool.not_true, Bool.and_false]
    exact iff_of_false (hsweeps.freed k hk) Bool.false_ne_true
  · rw [decide_eq_false fun hin => hk ((swept_cellAddress_iff hi hwrap).2 hin), Bool.not_false, Bool.and_true]
    exact hsweeps.kept k hk

/-- An address below `mem_base` purges nothing. -/
theorem purge_of_not_le (h : ¬ s.memBase ≤ p) : bioPurgeInfectedTissue p size s = s :=
  if_pos (BitVec.not_le.1 h)

/-- With the memory at address 0, the null pointer is the address of cell 0. -/
theorem testBit_freeCell_null (hbase : s.memBase = 0) :
    (bioFreeCell 0 s).cellBitmap.testBit k = (s.cellBitmap.testBit k && !decide (k = 0)) := by
  have hcell := @testBit_freeCell s 0 0 k hbase (by decide) (by decide)
  rw [cellAddress_zero] at hcell
  exact hcell

theorem testBit_purge_null (hbase : s.memBase = 0) :
    (bioPurgeInfectedTissue 0 size s).cellBitmap.testBit k =
      (s.cellBitmap.testBit k && !decide (k < (cellsNeeded size).toNat)) := by
  have hwrap : 0 + (cellsNeeded size).toNat < 4294967296 := by
    rw [Nat.zero_add]
    exact (cellsNeeded size).isLt
  have hcells := @testBit_purge s 0 size 0 k hbase (by decide) (by decide) hwrap
  rw [cellAddress_zero] at hcells
  simpa using hcells

/-- Cells that were freed have changed nothing if and only if they were free. -/
theorem frees_nothing_iff {t : BioMem} {freed : Nat → Bool}
    (h : ∀ k, t.cellBitmap.testBit k = (s.cellBitmap.testBit k && !freed k)) :
    t.cellBitmap = s.cellBitmap ↔ ∀ k < bitmapMaxCells, freed k = true → ¬ s.Used k := by
  constructor
  · intro heq k _ hk hused
    have hbit := h k
    rw [heq, hk, Bool.not_true, Bool.and_false] at hbit
    exact absurd (hbit.symm.trans hused) Bool.false_ne_true
  · intro hfree
    apply bitmap_eq_of_lt
    intro k hmax
    rw [h]
    cases hk : freed k with
    | false => exact Bool.and_true _
    | true => rw [Bool.eq_false_iff.2 (hfree k hmax hk), Bool.false_and]

/-- Elsewhere it is below `mem_base`. -/
theorem not_le_null (hbase : s.memBase ≠ 0) : ¬ s.memBase ≤ 0 := by
  intro hle
  exact hbase (BitVec.le_zero_iff.1 hle)

end Releases

/-! ## Blocks -/

section Blocks

variable {s t : BioMem} {size : BitVec 64} {i : Nat}

/-- The cells of a free block were marked. -/
structure MarksBlock (s : BioMem) (n i : Nat) (t : BioMem) : Prop where
  first : FirstFits s.free bitmapMaxCells n i
  memBase : t.memBase = s.memBase
  testBit : ∀ k, t.cellBitmap.testBit k = (s.cellBitmap.testBit k || decide (i ≤ k ∧ k < i + n))

/-- The two outcomes of an allocation. -/
theorem tissue_cases (size : BitVec 64) (s : BioMem) :
    (∃ i t, bioAllocateNeuralTissue size s = (cellAddress s.memBase i, t) ∧
      MarksBlock s (cellsNeeded size).toNat i t) ∨
    bioAllocateNeuralTissue size s = (0, s) ∧ ∀ i, ¬ Fits s.free bitmapMaxCells (cellsNeeded size).toNat i := by
  rcases bioAllocateNeuralTissue_cases size s with ⟨i, hfirst, hres⟩ | ⟨hnone, hres⟩
  · exact .inl ⟨i, _, hres, hfirst, rfl, fun _ => testBit_markCells hfirst.fits.within⟩
  · exact .inr ⟨hres, hnone⟩

section Marked

variable {n k : Nat}

theorem MarksBlock.lt_max (h : MarksBlock s n i t) : i < bitmapMaxCells := by
  have hpos := h.first.fits.pos
  have hwithin := h.first.fits.within
  omega

/-- A cell of the block was free. -/
theorem MarksBlock.free (h : MarksBlock s n i t) (hle : i ≤ k) (hlt : k < i + n) :
    s.cellBitmap.testBit k = false :=
  Bool.eq_false_iff.2 (not_used_iff.2 (h.first.fits.run k hle hlt))

/-- The bitmap is not as before while a cell of the block is marked. -/
theorem MarksBlock.not_undone (h : MarksBlock s n i t) (hle : i ≤ k) (hlt : k < i + n) {u : BioMem}
    (hu : u.cellBitmap.testBit k = t.cellBitmap.testBit k) : u.cellBitmap ≠ s.cellBitmap := by
  intro heq
  rw [heq, h.testBit, h.free hle hlt, decide_eq_true ⟨hle, hlt⟩] at hu
  cases hu

end Marked

theorem apoptosis_undone_iff (size : BitVec 64) (s : BioMem) :
    TissueUndone bioApoptosis size s ↔ ApoptosisFits size s := by
  have hcells : (cellsNeeded size).toNat < 4294967296 := (cellsNeeded size).isLt
  rcases tissue_cases size s with ⟨i, t, hres, hmarks⟩ | ⟨hres, hnone⟩
  · have hpos := hmarks.first.fits.pos
    have hwithin : i + (cellsNeeded size).toNat ≤ 102400 := hmarks.first.fits.within
    rw [TissueUndone, hres]
    dsimp only [bioApoptosis]
    by_cases hle : s.memBase ≤ cellAddress s.memBase i
    · refine iff_of_true ?_ ⟨?_, ?_⟩
      · apply CellBitmap.eq_of_testBit
        intro k
        rw [testBit_purge hmarks.memBase hmarks.lt_max hle (by omega), hmarks.testBit]
        by_cases hk : i ≤ k ∧ k < i + (cellsNeeded size).toNat
        · rw [hmarks.free hk.1 hk.2, decide_eq_true hk]
          rfl
        · rw [decide_eq_false hk]
          simp
      · intro j hj
        rw [← hmarks.first.unique hj]
        exact hle
      · intro hnone
        exact absurd hmarks.first.fits (hnone i)
    · rw [purge_of_not_le (hmarks.memBase ▸ hle)]
      refine iff_of_false ?_ fun hfits => hle (hfits.found i hmarks.first)
      exact hmarks.not_undone (Nat.le_refl i) (by omega) rfl
  · rw [TissueUndone, hres]
    dsimp only [bioApoptosis]
    have hfound : ∀ i, FirstFits s.free bitmapMaxCells (cellsNeeded size).toNat i →
        s.memBase ≤ cellAddress s.memBase i := fun i hi => absurd hi.fits (hnone i)
    by_cases hbase : s.memBase = 0
    · rw [frees_nothing_iff fun k => testBit_purge_null hbase]
      constructor
      · intro hfree
        refine ⟨hfound, ?_⟩
        intro _ _ k hmax hk
        exact hfree k hmax (decide_eq_true hk)
      · intro hfits k hmax hk
        exact hfits.failed hnone hbase k hmax (of_decide_eq_true hk)
    · rw [purge_of_not_le (not_le_null hbase)]
      refine iff_of_true rfl ⟨hfound, ?_⟩
      intro _ hzero
      exact absurd hzero hbase

theorem consolidation_undone_iff (size : BitVec 64) (s : BioMem) :
    TissueUndone bioConsolidateMemory size s ↔ ConsolidationFits size s := by
  rcases tissue_cases size s with ⟨i, t, hres, hmarks⟩ | ⟨hres, hnone⟩
  · have hpos := hmarks.first.fits.pos
    rw [TissueUndone, hres]
    dsimp only [bioConsolidateMemory]
    by_cases hle : s.memBase ≤ cellAddress s.memBase i
    · have hbit : ∀ k, (bioFreeCell (cellAddress s.memBase i) t).cellBitmap.testBit k =
          (t.cellBitmap.testBit k && !decide (k = i)) := fun k =>
        testBit_freeCell hmarks.memBase hmarks.lt_max hle
      by_cases hone : (cellsNeeded size).toNat = 1
      · refine iff_of_true ?_ ⟨?_, ?_⟩
        · apply CellBitmap.eq_of_testBit
          intro k
          rw [hbit, hmarks.testBit, hone]
          by_cases hk : k = i
          · rw [hk, hmarks.free (Nat.le_refl i) (by omega), decide_eq_true rfl, Bool.not_true, Bool.and_false]
          · rw [decide_eq_false hk, decide_eq_false (by omega)]
            simp
        · intro j hj
          rw [← hmarks.first.unique hj]
          exact ⟨hle, hone⟩
        · intro hnone
          exact absurd hmarks.first.fits (hnone i)
      · refine iff_of_false ?_ fun hfits => hone (hfits.found i hmarks.first).2
        -- the second cell of the block stays marked
        apply hmarks.not_undone (Nat.le_succ i) (by omega)
        rw [hbit, decide_eq_false (Nat.succ_ne_self i), Bool.not_false, Bool.and_true]
    · rw [freeCell_of_not_le (hmarks.memBase ▸ hle)]
      refine iff_of_false ?_ fun hfits => hle (hfits.found i hmarks.first).1
      exact hmarks.not_undone (Nat.le_refl i) (by omega) rfl
  · rw [TissueUndone, hres]
    dsimp only [bioConsolidateMemory]
    have hfound : ∀ i, FirstFits s.free bitmapMaxCells (cellsNeeded size).toNat i →
        s.memBase ≤ cellAddress s.memBase i ∧ (cellsNeeded size).toNat = 1 :=
      fun i hi => absurd hi.fits (hnone i)
    by_cases hbase : s.memBase = 0
    · rw [frees_nothing_iff fun k => testBit_freeCell_null hbase]
      constructor
      · intro hfree
        exact ⟨hfound, fun _ _ => hfree 0 (by decide) (decide_eq_true rfl)⟩
      · intro hfits k _ hk
        rw [of_decide_eq_true hk]
        exact hfits.failed hnone hbase
    · rw [freeCell_of_not_le (not_le_null hbase)]
      refine iff_of_true rfl ⟨hfound, ?_⟩
      intro _ hzero
      exact absurd hzero hbase

end Blocks

/-! ## Single cells -/

section Cells

variable {s t : BioMem} {base p : Address} {bitmap : CellBitmap} {i j k : Nat}

/-- While the loop of `bio_allocate_cell` holds no address, it marks every cell it comes to. -/
theorem cellLoop_marks {left freeCount : Nat} (h : i + left ≤ bitmapMaxCells)
    (hnull : (cellLoop base left i 0 freeCount bitmap).1 = 0) (hle : i ≤ k) (hlt : k < i + left) :
    (cellLoop base left i 0 freeCount bitmap).2.2.testBit k = true := by
  induction left generalizing i freeCount bitmap with
  | zero => omega
  | succ left ih =>
    have hrest : i + 1 + left ≤ bitmapMaxCells := by omega
    rw [cellLoop] at hnull ⊢
    by_cases hused : bitmap.testBit i = true
    · rw [if_pos hused] at hnull ⊢
      rcases Nat.eq_or_lt_of_le hle with rfl | hgt
      · exact testBit_cellLoop hrest hused
      · exact ih hrest hnull hgt (by omega)
    · rw [if_neg hused, if_pos rfl] at hnull ⊢
      -- an address that is not 0 would be returned
      have haddress : cellAddress base i = 0 := by
        by_contra hne
        obtain ⟨count, hloop⟩ := @cellLoop_of_allocated base (cellAddress base i) (bitmap.setBit i) (i + 1) left
          freeCount hne
        rw [hloop] at hnull
        exact hne hnull
      rw [haddress] at hnull ⊢
      rcases Nat.eq_or_lt_of_le hle with rfl | hgt
      · apply testBit_cellLoop hrest
        rw [CellBitmap.testBit_setBit (by omega), decide_eq_true rfl, Bool.or_true]
      · exact ih hrest hnull hgt (by omega)

/-- If the call returns NULL, every cell is marked. -/
theorem allocateCell_marks {stack : Globule} (hnull : (bioAllocateCell stack s).1 = 0) (hk : k < bitmapMaxCells) :
    (bioAllocateCell stack s).2.cellBitmap.testBit k = true := by
  have hloop : (bioAllocateCell stack s).1 = (cellLoop s.memBase bitmapMaxCells 0 0 0 s.cellBitmap).1 := by
    rw [bioAllocateCell]
    dsimp only
    split
    · rfl
    · rfl
  rw [hloop] at hnull
  rw [(bioAllocateCell_loop stack s).1]
  apply cellLoop_marks (Nat.le_of_eq (Nat.zero_add _)) hnull (Nat.zero_le k)
  rw [Nat.zero_add]
  exact hk

/-- Only one cell is at address 0. -/
theorem cellAddress_inj (hi : i < bitmapMaxCells) (hj : j < bitmapMaxCells)
    (h : cellAddress base i = cellAddress base j) : i = j := by
  rw [← toNat_cellIndex_cellAddress hi, h, toNat_cellIndex_cellAddress hj]

/-- A cell that is taken is given back by its address, unless an earlier cell was marked as well. -/
theorem takesCell_undone_iff (hj : j < bitmapMaxCells) (hbase : t.memBase = s.memBase)
    (h : TakesCell s.memBase s.cellBitmap 0 j p t.cellBitmap) :
    (bioFreeCell p t).cellBitmap = s.cellBitmap ↔ CellFits s := by
  have hfree : ¬ s.Used j := Bool.eq_false_iff.1 h.free
  have hbit : ∀ k, t.cellBitmap.testBit k = (s.cellBitmap.testBit k || decide (0 ≤ k ∧ k ≤ j)) := h.testBit
  rw [h.address]
  obtain ⟨i, hij, hi⟩ := exists_lowestFree hj hfree
  rcases Nat.eq_or_lt_of_le hij with rfl | hlt
  · by_cases hle : s.memBase ≤ cellAddress s.memBase i
    · refine iff_of_true ?_ ⟨?_, ?_⟩
      · apply CellBitmap.eq_of_testBit
        intro k
        rw [testBit_freeCell hbase hj hle, hbit]
        rcases Nat.lt_trichotomy k i with hki | rfl | hki
        · have hused : s.cellBitmap.testBit k = true := hi.first k hki
          rw [hused, decide_eq_false (Nat.ne_of_lt hki)]
          rfl
        · rw [h.free, decide_eq_true rfl]
          simp
        · rw [decide_eq_false (by omega), decide_eq_false (by omega)]
          simp
      · intro i' hi'
        rw [hi'.unique hi]
        refine ⟨hle, ?_⟩
        intro hzero
        exact absurd (h.address.trans hzero) h.ne_zero
      · intro hfull
        exact absurd (hfull i hj) hfree
    · rw [freeCell_of_not_le (hbase ▸ hle)]
      refine iff_of_false ?_ fun hfits => hle (hfits.found i hi).1
      intro heq
      have hmarked := hbit i
      rw [heq, h.free, decide_eq_true ⟨Nat.zero_le i, Nat.le_refl i⟩] at hmarked
      cases hmarked
  · -- the lowest free cell is at address 0, and stays marked
    have hzero : cellAddress s.memBase i = 0 := h.first i (Nat.zero_le i) hlt (Bool.eq_false_iff.2 hi.free)
    refine iff_of_false ?_ ?_
    · intro heq
      have hmarked : t.cellBitmap.testBit i = true := by
        rw [hbit, decide_eq_true ⟨Nat.zero_le i, hij⟩, Bool.or_true]
      by_cases hle : s.memBase ≤ cellAddress s.memBase j
      · have hkept := @testBit_freeCell t s.memBase j i hbase hj hle
        rw [heq, hmarked, decide_eq_false (Nat.ne_of_lt hlt)] at hkept
        exact hi.free hkept
      · rw [freeCell_of_not_le (hbase ▸ hle)] at heq
        rw [heq] at hmarked
        exact hi.free hmarked
    · intro hfits
      exact hfree ((hfits.found i hi).2 hzero j hj (Nat.ne_of_gt hlt))

/-- The null pointer gives back a cell only if it is the address of the one that was free. -/
theorem takesNone_undone_iff (hbase : t.memBase = s.memBase) (hmarked : ∀ k < bitmapMaxCells, t.Used k)
    (h : TakesNone s.memBase s.cellBitmap 0 bitmapMaxCells p t.cellBitmap) :
    (bioFreeCell p t).cellBitmap = s.cellBitmap ↔ CellFits s := by
  rw [h.address]
  have hzero : ∀ k < bitmapMaxCells, ¬ s.Used k → cellAddress s.memBase k = 0 := fun k hk hfree =>
    h.none k (Nat.zero_le k) hk (Bool.eq_false_iff.2 hfree)
  by_cases hb : s.memBase = 0
  · have hbit : ∀ k, (bioFreeCell 0 t).cellBitmap.testBit k = (t.cellBitmap.testBit k && !decide (k = 0)) :=
      fun k => testBit_freeCell_null (hbase.trans hb)
    -- no cell but the first is at address 0
    have hothers : ∀ k < bitmapMaxCells, k ≠ 0 → s.Used k := by
      intro k hk hne
      by_contra hfree
      apply hne
      apply cellAddress_inj hk (by decide)
      rw [hzero k hk hfree, hb]
      rfl
    by_cases hfirst : s.Used 0
    · refine iff_of_false ?_ ?_
      · intro heq
        have hfreed := hbit 0
        rw [heq, decide_eq_true rfl, Bool.not_true, Bool.and_false] at hfreed
        exact Bool.eq_false_iff.1 hfreed hfirst
      · intro hfits
        apply hfits.failed _ hb
        intro k hk
        by_cases hne : k = 0
        · rw [hne]
          exact hfirst
        · exact hothers k hk hne
    · have hlowest : LowestFree s 0 := ⟨by decide, hfirst, fun k hk => absurd hk (Nat.not_lt_zero k)⟩
      refine iff_of_true ?_ ⟨?_, ?_⟩
      · apply bitmap_eq_of_lt
        intro k hk
        rw [hbit]
        by_cases hne : k = 0
        · rw [hne, Bool.eq_false_iff.2 hfirst]
          simp
        · rw [decide_eq_false hne, Bool.not_false, Bool.and_true]
          exact (hmarked k hk).trans (hothers k hk hne).symm
      · intro i hi
        rw [hi.unique hlowest, cellAddress_zero]
        exact ⟨BitVec.le_refl _, fun _ => hothers⟩
      · intro hfull
        exact absurd (hfull 0 (by decide)) hfirst
  · rw [freeCell_of_not_le (not_le_null (hbase ▸ hb))]
    by_cases hfull : ∀ k < bitmapMaxCells, s.Used k
    · refine iff_of_true ?_ ⟨?_, ?_⟩
      · apply bitmap_eq_of_lt
        intro k hk
        exact (hmarked k hk).trans (hfull k hk).symm
      · intro i hi
        exact absurd (hfull i hi.lt_max) hi.free
      · exact fun _ => hb
    · -- the free cell is at address 0, below `mem_base`, and stays marked
      simp only [not_forall] at hfull
      obtain ⟨k, hk, hfree⟩ := hfull
      obtain ⟨i, -, hi⟩ := exists_lowestFree hk hfree
      refine iff_of_false ?_ ?_
      · intro heq
        have hused := hmarked i hi.lt_max
        rw [BioMem.Used, heq] at hused
        exact hi.free hused
      · intro hfits
        have hle := (hfits.found i hi).1
        rw [hzero i hi.lt_max hi.free] at hle
        exact not_le_null hb hle

theorem cell_undone_iff (stack : Globule) (s : BioMem) : CellUndone stack s ↔ CellFits s := by
  obtain ⟨hcases, hbase, -⟩ := bioAllocateCell_cases stack s
  rcases hcases with ⟨j, hj, htakes⟩ | hnone
  · exact takesCell_undone_iff hj hbase htakes
  · exact takesNone_undone_iff hbase (fun k hk => allocateCell_marks hnone.address hk) hnone

end Cells

/-- For every bitmap and size, exactly when each of the three releases brings back the bitmap of before the
allocation. -/
theorem release_undoes_iff (stack : Globule) (size : BitVec 64) (s : BioMem) :
    (TissueUndone bioApoptosis size s ↔ ApoptosisFits size s) ∧
      (TissueUndone bioConsolidateMemory size s ↔ ConsolidationFits size s) ∧
      (CellUndone stack s ↔ CellFits s) :=
  ⟨apoptosis_undone_iff size s, consolidation_undone_iff size s, cell_undone_iff stack s⟩

/-- Consolidation of a block of two cells leaves the second one marked. -/
theorem exists_not_consolidation_undone :
    ∃ p t, bioAllocateNeuralTissue 8192 (freshMem 0x100000 0x19000000) = (p, t) ∧
      (bioConsolidateMemory p 8192 t).cellBitmap.testBit 1 = true ∧
      (freshMem 0x100000 0x19000000).cellBitmap.testBit 1 = false ∧
      ¬ TissueUndone bioConsolidateMemory 8192 (freshMem 0x100000 0x19000000) := by
  have hfirst : FirstFits (freshMem 0x100000 0x19000000).free bitmapMaxCells (cellsNeeded 8192).toNat 0 :=
    firstFits_freshMem (by decide) (by decide)
  have hfree : (freshMem 0x100000 0x19000000).cellBitmap.testBit 1 = false := CellBitmap.testBit_zero 1
  rcases tissue_cases 8192 (freshMem 0x100000 0x19000000) with ⟨i, t, hres, hmarks⟩ | ⟨-, hnone⟩
  · obtain rfl := hfirst.unique hmarks.first
    have hmarked : (bioConsolidateMemory (cellAddress (freshMem 0x100000 0x19000000).memBase 0) 8192
        t).cellBitmap.testBit 1 = true := by
      rw [bioConsolidateMemory, testBit_freeCell hmarks.memBase (by decide) (by decide), hmarks.testBit, hfree]
      decide
    refine ⟨_, t, hres, hmarked, hfree, ?_⟩
    intro hundone
    rw [TissueUndone, hres] at hundone
    rw [hundone, hfree] at hmarked
    cases hmarked
  · exact absurd hfirst.fits (hnone 0)

end OperatingOrganism.Memory

import OperatingOrganism.Memory.NeuralTissue

/-!
# The lowest free cells

Both allocators search the bitmap from cell 0 on. The pass of `bio_allocate_neural_tissue` finds the lowest run
that is long enough (`scan_eq_some_iff`), and the loop of `bio_allocate_cell` the lowest free cell. But an address
is also how they say that they have nothing to give, and the cell at address 0 has the address of no cell: a run
that begins there is marked and reported as NULL, and the loop over the cells marks it and goes on to the next
one. With these cells aside both do what they are for (`findsFirst_iff`, `allocatesLowest_iff`).
-/

set_option autoImplicit false

namespace OperatingOrganism.Memory

open OperatingOrganism.FirstFit OperatingOrganism.UnitedBus

/-! ## Blocks -/

/-- The call returns NULL if and only if no run of free cells is long enough, and otherwise the address of the
lowest one. -/
structure FindsFirst (s : BioMem) (sizeInBytes : BitVec 64) : Prop where
  null : (bioAllocateNeuralTissue sizeInBytes s).1 = 0 ↔
    ∀ i, ¬ Fits s.free bitmapMaxCells (blockCells sizeInBytes.toNat) i
  lowest : ∀ i, FirstFits s.free bitmapMaxCells (blockCells sizeInBytes.toNat) i →
    (bioAllocateNeuralTissue sizeInBytes s).1 = cellAddress s.memBase i

section Blocks

variable {s : BioMem} {size : BitVec 64}

/-- For a block of at most as many cells as the bitmap has, the call does what it is for if and only if the
lowest run that is long enough does not begin at address 0. -/
theorem findsFirst_iff (hmax : blockCells size.toNat ≤ bitmapMaxCells) :
    FindsFirst s size ↔ ∀ i, FirstFits s.free bitmapMaxCells (blockCells size.toNat) i →
      cellAddress s.memBase i ≠ 0 := by
  have hcases := bioAllocateNeuralTissue_cases size s
  rw [toNat_cellsNeeded_of_le hmax] at hcases
  rcases hcases with ⟨i, hfirst, hres⟩ | ⟨hnone, hres⟩
  · constructor
    · intro hfinds j hj hzero
      -- the null pointer says that there is no run
      have hnull := hfinds.lowest j hj
      rw [hzero] at hnull
      exact hfinds.null.1 hnull j hj.fits
    · intro haddress
      constructor
      · rw [hres]
        exact iff_of_false (haddress i hfirst) fun hnone => hnone i hfirst.fits
      · intro j hj
        rw [hres, hfirst.unique hj]
  · refine iff_of_true ?_ fun i hi => absurd hi.fits (hnone i)
    constructor
    · rw [hres]
      exact iff_of_true rfl hnone
    · intro i hi
      exact absurd hi.fits (hnone i)

/-- One cell of a fresh bitmap from the first megabyte on. -/
theorem findsFirst_freshMem : FindsFirst (freshMem 0x100000 0x19000000) 1 := by
  rw [findsFirst_iff (by decide)]
  intro i hi
  rw [← (firstFits_freshMem (by decide) (by decide)).unique hi]
  decide

/-- With the memory at address 0, the first cell of a fresh bitmap is given out as NULL. -/
theorem exists_not_findsFirst :
    (bioAllocateNeuralTissue 1 (freshMem 0 0x19000000)).1 = 0 ∧
      Fits (freshMem 0 0x19000000).free bitmapMaxCells (blockCells 1) 0 ∧
      ¬ FindsFirst (freshMem 0 0x19000000) 1 := by
  have hfirst : FirstFits (freshMem 0 0x19000000).free bitmapMaxCells (blockCells 1) 0 :=
    firstFits_freshMem (by decide) (by decide)
  have hnull : (bioAllocateNeuralTissue 1 (freshMem 0 0x19000000)).1 = 0 := by
    rw [bioAllocateNeuralTissue_of_first (i := 0) hfirst]
    rfl
  refine ⟨hnull, hfirst.fits, ?_⟩
  intro hfinds
  exact hfinds.null.1 hnull 0 hfirst.fits

end Blocks

/-! ## Single cells -/

/-- The free cell with the lowest index. -/
structure LowestFree (s : BioMem) (i : Nat) : Prop where
  lt_max : i < bitmapMaxCells
  free : ¬ s.Used i
  first : ∀ k < i, s.Used k

/-- The cells of the bitmap that are not marked. -/
def freeCells (bitmap : CellBitmap) : Nat := (List.range bitmapMaxCells).countP fun i => !bitmap.testBit i

/-- The call returns the lowest free cell and marks just that one, or else NULL, if no cell is free, and then
leaves the bitmap alone; and it raises the alert if and only if fewer than 5120 cells are free after it. -/
structure AllocatesLowest (stack : Globule) (s : BioMem) : Prop where
  lowest : ∀ i, LowestFree s i → (bioAllocateCell stack s).1 = cellAddress s.memBase i ∧
    ∀ k, (bioAllocateCell stack s).2.cellBitmap.testBit k = (s.cellBitmap.testBit k || decide (k = i))
  null : (bioAllocateCell stack s).1 = 0 ↔ ∀ i < bitmapMaxCells, s.Used i
  unchanged : (∀ i < bitmapMaxCells, s.Used i) → (bioAllocateCell stack s).2.cellBitmap = s.cellBitmap
  pressure : (bioAllocateCell stack s).2.bus =
    if freeCells (bioAllocateCell stack s).2.cellBitmap < 5120 then
      (unitedBusPump s.bus { stack with type := .yellow, targetOrgan := 3 }).1
    else s.bus

section Cells

variable {s : BioMem} {base p : Address} {bitmap : CellBitmap} {stack : Globule} {i j k : Nat}

/-- A bitmap says nothing about cells that it does not have. -/
theorem bitmap_eq_of_lt {bitmap' : CellBitmap}
    (h : ∀ k < bitmapMaxCells, bitmap.testBit k = bitmap'.testBit k) : bitmap = bitmap' := by
  apply CellBitmap.eq_of_testBit
  intro k
  rcases Nat.lt_or_ge k bitmapMaxCells with hlt | hge
  · exact h k hlt
  · rw [testBit_of_le hge, testBit_of_le hge]

theorem LowestFree.unique (hi : LowestFree s i) (hj : LowestFree s j) : i = j := by
  rcases Nat.lt_trichotomy i j with hlt | heq | hlt
  · exact absurd (hj.first i hlt) hi.free
  · exact heq
  · exact absurd (hi.first j hlt) hj.free

/-- A free cell comes at or after the lowest one. -/
theorem exists_lowestFree (hj : j < bitmapMaxCells) (hfree : ¬ s.Used j) : ∃ i ≤ j, LowestFree s i := by
  classical
  have hex : ∃ i, ¬ s.Used i := ⟨j, hfree⟩
  have hle : Nat.find hex ≤ j := Nat.find_min' hex hfree
  refine ⟨Nat.find hex, hle, Nat.lt_of_le_of_lt hle hj, Nat.find_spec hex, ?_⟩
  intro k hk
  exact not_not.1 (Nat.find_min hex hk)

/-- The loop of `bio_allocate_cell` frees nothing. -/
theorem testBit_cellLoop {left freeCount : Nat} (h : i + left ≤ bitmapMaxCells)
    (hk : bitmap.testBit k = true) :
    (cellLoop base left i p freeCount bitmap).2.2.testBit k = true := by
  by_cases hp : p = 0
  · rw [hp]
    rcases @cellLoop_spec base bitmap i left freeCount h with ⟨j, -, htakes⟩ | hnone
    · rw [htakes.testBit, hk, Bool.true_or]
    · exact hnone.testBit k hk
  · obtain ⟨count, hloop⟩ := @cellLoop_of_allocated base p bitmap i left freeCount hp
    rw [hloop]
    exact hk

/-- The loop counts the cells that are free when it ends. -/
theorem cellLoop_count {left freeCount : Nat} (h : i + left ≤ bitmapMaxCells) :
    (cellLoop base left i p freeCount bitmap).2.1 = freeCount +
      (List.range' i left).countP fun k => !(cellLoop base left i p freeCount bitmap).2.2.testBit k := by
  induction left generalizing i p freeCount bitmap with
  | zero => rfl
  | succ left ih =>
    have hrest : i + 1 + left ≤ bitmapMaxCells := by omega
    rw [List.range'_succ, List.countP_cons, cellLoop]
    split
    · next hused =>
      -- a used cell stays used
      rw [testBit_cellLoop hrest hused, ih hrest]
      rfl
    · next hfree =>
      split
      · -- a cell that is marked stays marked
        have hmarked : (bitmap.setBit i).testBit i = true := by
          rw [CellBitmap.testBit_setBit (by omega), decide_eq_true rfl, Bool.or_true]
        rw [testBit_cellLoop hrest hmarked, ih hrest]
        rfl
      · next hp =>
        have hcount : (cellLoop base left (i + 1) p (freeCount + 1) bitmap).2.1 = freeCount + 1 +
            (List.range' (i + 1) left).countP fun k =>
              !(cellLoop base left (i + 1) p (freeCount + 1) bitmap).2.2.testBit k := ih hrest
        obtain ⟨count, hloop⟩ := @cellLoop_of_allocated base p bitmap (i + 1) left (freeCount + 1) hp
        rw [hloop] at hcount ⊢
        rw [Bool.not_eq_true] at hfree
        dsimp only at hcount ⊢
        rw [hcount, hfree, Nat.add_assoc, Nat.add_comm 1]
        rfl

/-- The alert depends on what the loop counted. -/
theorem bioAllocateCell_loop (stack : Globule) (s : BioMem) :
    (bioAllocateCell stack s).2.cellBitmap = (cellLoop s.memBase bitmapMaxCells 0 0 0 s.cellBitmap).2.2 ∧
      (bioAllocateCell stack s).2.bus =
        if (cellLoop s.memBase bitmapMaxCells 0 0 0 s.cellBitmap).2.1 < bitmapMaxCells / 20 then
          (unitedBusPump s.bus { stack with type := .yellow, targetOrgan := 3 }).1
        else s.bus := by
  rw [bioAllocateCell]
  dsimp only
  split
  · exact ⟨rfl, rfl⟩
  · exact ⟨rfl, rfl⟩

/-- The loop counted the cells that are free after the call. -/
theorem bioAllocateCell_bus (stack : Globule) (s : BioMem) :
    (bioAllocateCell stack s).2.bus =
      if freeCells (bioAllocateCell stack s).2.cellBitmap < 5120 then
        (unitedBusPump s.bus { stack with type := .yellow, targetOrgan := 3 }).1
      else s.bus := by
  obtain ⟨hbitmap, hbus⟩ := bioAllocateCell_loop stack s
  have hcount := @cellLoop_count s.memBase 0 s.cellBitmap 0 bitmapMaxCells 0 (Nat.le_of_eq (Nat.zero_add _))
  have hbound : bitmapMaxCells / 20 = 5120 := rfl
  rw [Nat.zero_add, ← List.range_eq_range', ← hbitmap] at hcount
  rw [hbus, hcount, hbound, freeCells]

/-- The call does what it is for if and only if the lowest free cell, if there is one, is not at address 0. -/
theorem allocatesLowest_iff (stack : Globule) (s : BioMem) :
    AllocatesLowest stack s ↔ ∀ i, LowestFree s i → cellAddress s.memBase i ≠ 0 := by
  constructor
  · intro halloc i hi hzero
    -- the null pointer says that every cell is used
    have hnull := (halloc.lowest i hi).1
    rw [hzero] at hnull
    exact hi.free (halloc.null.1 hnull i hi.lt_max)
  · intro haddress
    obtain ⟨⟨j, hjmax, htakes⟩ | hnone, -⟩ := bioAllocateCell_cases stack s
    · have hfree : ¬ s.Used j := by
        rw [BioMem.Used, htakes.free]
        exact Bool.false_ne_true
      -- a free cell before `j` would be at address 0
      have hlowest : LowestFree s j := by
        obtain ⟨i, hij, hi⟩ := exists_lowestFree hjmax hfree
        rcases Nat.eq_or_lt_of_le hij with rfl | hlt
        · exact hi
        · exact absurd (htakes.first i (Nat.zero_le i) hlt (Bool.eq_false_iff.2 hi.free)) (haddress i hi)
      refine ⟨?_, ?_, ?_, bioAllocateCell_bus stack s⟩
      · intro i hi
        obtain rfl : i = j := hi.unique hlowest
        refine ⟨htakes.address, ?_⟩
        intro k
        rw [htakes.testBit]
        rcases Nat.lt_or_ge k i with hlt | hge
        · have hused : s.cellBitmap.testBit k = true := hi.first k hlt
          rw [hused, Bool.true_or, Bool.true_or]
        · have hiff : 0 ≤ k ∧ k ≤ i ↔ k = i := by omega
          simp only [hiff]
      · exact iff_of_false htakes.ne_zero fun hfull => hfree (hfull j hjmax)
      · intro hfull
        exact absurd (hfull j hjmax) hfree
    · have hfull : ∀ i < bitmapMaxCells, s.Used i := by
        intro j hj
        by_contra hfree
        obtain ⟨i, -, hi⟩ := exists_lowestFree hj hfree
        exact haddress i hi (hnone.none i (Nat.zero_le i) hi.lt_max (Bool.eq_false_iff.2 hi.free))
      refine ⟨?_, ?_, ?_, bioAllocateCell_bus stack s⟩
      · intro i hi
        exact absurd (hfull i hi.lt_max) hi.free
      · exact iff_of_true hnone.address hfull
      · intro _
        apply bitmap_eq_of_lt
        intro k hk
        have hused : s.cellBitmap.testBit k = true := hfull k hk
        rw [hused, hnone.testBit k hused]

theorem lowestFree_freshMem (base : Address) (total : BitVec 64) : LowestFree (freshMem base total) 0 where
  lt_max := by decide
  free := not_used_iff.2 (free_freshMem base total 0)
  first k hk := absurd hk (Nat.not_lt_zero k)

/-- With the memory at address 0, a fresh bitmap gives out the second cell, and marks the first one too. -/
theorem exists_not_allocatesLowest :
    LowestFree (freshMem 0 0x19000000) 0 ∧
      (bioAllocateCell .zero (freshMem 0 0x19000000)).1 = cellAddress 0 1 ∧
      (bioAllocateCell .zero (freshMem 0 0x19000000)).2.cellBitmap.testBit 0 = true ∧
      (bioAllocateCell .zero (freshMem 0 0x19000000)).2.cellBitmap.testBit 1 = true ∧
      ¬ AllocatesLowest .zero (freshMem 0 0x19000000) := by
  have hlowest := lowestFree_freshMem 0 0x19000000
  have hfree : ∀ k, (freshMem 0 0x19000000).cellBitmap.testBit k = false := CellBitmap.testBit_zero
  have hsecond : cellAddress (freshMem 0 0x19000000).memBase 1 ≠ 0 := by decide
  obtain ⟨⟨j, -, htakes⟩ | hnone, -⟩ := bioAllocateCell_cases .zero (freshMem 0 0x19000000)
  · -- the first cell is at address 0, the second one is not
    have hj : j = 1 := by
      rcases Nat.lt_trichotomy j 1 with hlt | heq | hgt
      · obtain rfl := Nat.lt_one_iff.1 hlt
        exact absurd htakes.address htakes.ne_zero
      · exact heq
      · exact absurd (htakes.first 1 (Nat.zero_le 1) hgt (hfree 1)) hsecond
    subst hj
    refine ⟨hlowest, htakes.address, ?_, ?_, ?_⟩
    · rw [htakes.testBit, hfree]
      rfl
    · rw [htakes.testBit, hfree]
      rfl
    · intro halloc
      exact htakes.ne_zero (halloc.lowest 0 hlowest).1
  · exact absurd (hnone.none 1 (Nat.zero_le 1) (by decide) (hfree 1)) hsecond

end Cells

end OperatingOrganism.Memory

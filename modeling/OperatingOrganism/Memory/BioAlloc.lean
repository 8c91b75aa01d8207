import OperatingOrganism.Library.ByteMemory
import OperatingOrganism.Library.FirstFit
import OperatingOrganism.Memory.CellBitmap
import OperatingOrganism.UnitedBus.Bus

/-!
# The allocator of cells

`bio_alloc.c` gives out memory in cells of 4096 bytes from `mem_base` on: single cells, and blocks of
consecutive cells, found first fit. The static variables of the file are the fields of `BioMem`, with the
memory that it manages and the bus that it alerts. An address is a 64-bit number, and 0 is the null
pointer. Messages to `oo_print` are left out.
-/

set_option autoImplicit false

namespace OperatingOrganism.Memory

open OperatingOrganism.ByteMemory OperatingOrganism.FirstFit OperatingOrganism.UnitedBus

abbrev Address := BitVec 64

structure BioMem where
  memBase : Address
  memTotal : BitVec 64
  cellBitmap : CellBitmap
  memory : Address → BitVec 8
  bus : Bus

/-- `mem_base + (i * CELL_SIZE)`, for a cell of the bitmap. -/
def cellAddress (base : Address) (i : Nat) : Address := base + BitVec.ofNat 64 (i * cellSize)

/-- `bio_mem_init` -/
def bioMemInit (physicalMemoryBase : Address) (totalMemoryBytes : BitVec 64) (s : BioMem) : BioMem :=
  { s with memBase := physicalMemoryBase, memTotal := totalMemoryBytes, cellBitmap := .zero }

/-- `united_bus_pump`, whose return code the file ignores. -/
def BioMem.pump (s : BioMem) (globule : Globule) : BioMem :=
  { s with bus := (unitedBusPump s.bus globule).1 }

/-! ## Single cells -/

/-- The loop of `bio_allocate_cell` over the cells from `i` on: what it has allocated and counted, and the
bitmap. -/
def cellLoop (base : Address) :
    (left i : Nat) → (allocated : Address) → (freeCount : Nat) → CellBitmap → Address × Nat × CellBitmap
  | 0, _, allocated, freeCount, bitmap => (allocated, freeCount, bitmap)
  | left + 1, i, allocated, freeCount, bitmap =>
    if bitmap.testBit i then cellLoop base left (i + 1) allocated freeCount bitmap
    else if allocated = 0 then
      -- a cell at address 0 is marked, and counts as not allocated
      cellLoop base left (i + 1) (cellAddress base i) freeCount (bitmap.setBit i)
    else cellLoop base left (i + 1) allocated (freeCount + 1) bitmap

/-- `bio_allocate_cell`. The other fields of the alert are what `stack` holds. -/
def bioAllocateCell (stack : Globule) (s : BioMem) : Address × BioMem :=
  let (allocated, freeCount, bitmap) := cellLoop s.memBase bitmapMaxCells 0 0 0 s.cellBitmap
  let s := { s with cellBitmap := bitmap }
  if freeCount < bitmapMaxCells / 20 then
    (allocated, s.pump { stack with type := .yellow, targetOrgan := 3 })
  else (allocated, s)

/-- `(addr - mem_base) / CELL_SIZE`, as a `uint32_t`. -/
def cellIndex (base ptr : Address) : BitVec 32 := ((ptr - base) / 4096#64).setWidth 32

/-- `bio_free_cell` -/
def bioFreeCell (ptr : Address) (s : BioMem) : BioMem :=
  if s.memBase ≤ ptr then
    let index := (cellIndex s.memBase ptr).toNat
    if index < bitmapMaxCells then { s with cellBitmap := s.cellBitmap.clearBit index } else s
  else s

/-! ## Blocks -/

/-- `(size_in_bytes + CELL_SIZE - 1) / CELL_SIZE`, as a `uint32_t`. -/
def cellsNeeded (sizeInBytes : BitVec 64) : BitVec 32 :=
  ((sizeInBytes + 4096#64 - 1#64) / 4096#64).setWidth 32

/-- A cell that `test_bit` finds free. -/
def BioMem.free (s : BioMem) (i : Nat) : Bool := !s.cellBitmap.testBit i

/-- The loop that marks a block. -/
def markCells (bitmap : CellBitmap) (start count : Nat) : CellBitmap :=
  (List.range' start count).foldl .setBit bitmap

/-- `bio_allocate_neural_tissue`; its loop is the pass `scan`. -/
def bioAllocateNeuralTissue (sizeInBytes : BitVec 64) (s : BioMem) : Address × BioMem :=
  let cellsNeeded := (cellsNeeded sizeInBytes).toNat
  match scan s.free cellsNeeded bitmapMaxCells 0 0 0 with
  | some startIndex =>
    (cellAddress s.memBase startIndex,
      { s with cellBitmap := markCells s.cellBitmap startIndex cellsNeeded })
  | none => (0, s)

/-- The body of the loop of `bio_purge_infected_tissue`: a cell of the bitmap is zeroed and freed. -/
def purgeCell (s : BioMem) (i : Nat) : BioMem :=
  if i < bitmapMaxCells then
    { s with
      memory := fill s.memory (cellAddress s.memBase i) cellSize 0
      cellBitmap := s.cellBitmap.clearBit i }
  else s

/-- `bio_purge_infected_tissue`. The end of its loop is computed in 32 bits. -/
def bioPurgeInfectedTissue (ptr : Address) (sizeInBytes : BitVec 64) (s : BioMem) : BioMem :=
  if ptr < s.memBase then s
  else
    let startIndex := cellIndex s.memBase ptr
    let stop := startIndex + cellsNeeded sizeInBytes
    (List.range' startIndex.toNat (stop.toNat - startIndex.toNat)).foldl purgeCell s

/-- `bio_apoptosis` -/
def bioApoptosis (ptr : Address) (sizeInBytes : BitVec 64) (s : BioMem) : BioMem :=
  bioPurgeInfectedTissue ptr sizeInBytes s

/-- `bio_consolidate_memory` frees the first cell, whatever the size. -/
def bioConsolidateMemory (ptr : Address) (_sizeInBytes : BitVec 64) (s : BioMem) : BioMem :=
  bioFreeCell ptr s

/-- `bio_map_cell`, with its return code; `stack` holds the identifier of the globule. -/
def bioMapCell (stack : Globule) (physicalAddr : Address) (flags : BitVec 32) (s : BioMem) : Int × BioMem :=
  if physicalAddr < s.memBase ∨ s.memBase + s.memTotal ≤ physicalAddr then (-1, s)
  else if flags = 0 then (-1, s)
  else
    (0, s.pump
      { stack with type := .yellow, sourceOrgan := 4, targetOrgan := 0xFF, payloadAddr := 0, payloadSize := 0 })

/-! ## What the loops do -/

variable {s t : BioMem} {base ptr p : Address} {bitmap : CellBitmap} {size : BitVec 64} {i j start n : Nat}

/-- A marked block. -/
theorem testBit_markCells (h : start + n ≤ bitmapMaxCells) :
    (markCells bitmap start n).testBit j =
      (bitmap.testBit j || decide (start ≤ j ∧ j < start + n)) := by
  induction n generalizing start bitmap with
  | zero =>
    have hnone : ¬ (start ≤ j ∧ j < start + 0) := by omega
    rw [decide_eq_false hnone, Bool.or_false]
    rfl
  | succ n ih =>
    have hrest := @ih (bitmap.setBit start) (start + 1) (by omega)
    have hiff : (start ≤ j ∧ j < start + (n + 1)) ↔
        j = start ∨ (start + 1 ≤ j ∧ j < start + 1 + n) := by omega
    calc (markCells bitmap start (n + 1)).testBit j
        = (markCells (bitmap.setBit start) (start + 1) n).testBit j := rfl
      _ = (bitmap.testBit j || decide (j = start) ||
          decide (start + 1 ≤ j ∧ j < start + 1 + n)) := by
        rw [hrest, CellBitmap.testBit_setBit (by omega)]
      _ = _ := by rw [Bool.or_assoc, ← Bool.decide_or, decide_eq_decide.2 hiff]

theorem testBit_of_le (h : bitmapMaxCells ≤ j) : bitmap.testBit j = false := by
  have hnone : bitmap[j / 8]? = none := by
    rw [Vector.getElem?_eq_none_iff]
    simp only [bitmapMaxCells] at h ⊢
    omega
  rw [CellBitmap.testBit_eq, CellBitmap.byte, hnone]
  exact BitVec.getLsbD_zero

/-- Cells that are purged one after the other. -/
structure Purges (cells : List Nat) (s t : BioMem) : Prop where
  memBase : t.memBase = s.memBase
  testBit : ∀ j, t.cellBitmap.testBit j = (s.cellBitmap.testBit j && decide (j ∉ cells))
  memory : ∀ a, (∀ i ∈ cells, i < bitmapMaxCells → a ∉ span (cellAddress s.memBase i) cellSize) →
    t.memory a = s.memory a

theorem purges_foldl (cells : List Nat) (s : BioMem) : Purges cells s (cells.foldl purgeCell s) := by
  -- induction on the cells, from any state
  induction cells generalizing s with
  | nil => exact ⟨rfl, fun j => by simp, fun _ _ => rfl⟩
  | cons i cells ih =>
    have hrest := ih (purgeCell s i)
    rw [List.foldl_cons]
    by_cases hi : i < bitmapMaxCells
    · have hstep : purgeCell s i = _ := if_pos hi
      rw [hstep] at hrest ⊢
      refine ⟨hrest.memBase, fun j => ?_, fun a ha => ?_⟩
      · rw [hrest.testBit, CellBitmap.testBit_clearBit hi, Bool.and_assoc, ← Bool.decide_and]
        simp only [List.mem_cons, not_or]
      · rw [hrest.memory a fun k hk hkmax => ha k (List.mem_cons_of_mem _ hk) hkmax]
        exact fill_of_not_mem (ha i List.mem_cons_self hi)
    · -- a cell that the bitmap does not have is not used
      have hstep : purgeCell s i = s := if_neg hi
      rw [hstep] at hrest ⊢
      refine ⟨hrest.memBase, fun j => ?_, fun a ha => ?_⟩
      · rw [hrest.testBit]
        by_cases hj : j = i
        · rw [hj, testBit_of_le (Nat.not_lt.1 hi), Bool.false_and, Bool.false_and]
        · simp only [List.mem_cons, hj, false_or]
      · exact hrest.memory a fun k hk => ha k (List.mem_cons_of_mem _ hk)

/-! ## What the calls do -/

/-- The number of cells of a block, kept in 32 bits. -/
theorem toNat_cellsNeeded (size : BitVec 64) :
    (cellsNeeded size).toNat = (size.toNat + 4095) / 4096 % 4294967296 := by
  have hsize := size.isLt
  have hsum : (size + 4096#64 - 1#64).toNat = (size.toNat + 4095) % 18446744073709551616 := by
    simp only [BitVec.toNat_sub, BitVec.toNat_add, BitVec.toNat_ofNat]
    omega
  have hcell : (4096#64).toNat = 4096 := rfl
  rw [cellsNeeded, BitVec.toNat_setWidth, BitVec.toNat_udiv, hsum, hcell]
  omega

/-- What `bio_allocate_neural_tissue` does with the first run of free cells that is long enough. -/
theorem bioAllocateNeuralTissue_of_first
    (h : FirstFits s.free bitmapMaxCells (cellsNeeded size).toNat i) :
    bioAllocateNeuralTissue size s = (cellAddress s.memBase i,
      { s with cellBitmap := markCells s.cellBitmap i (cellsNeeded size).toNat }) := by
  rw [bioAllocateNeuralTissue, scan_eq_some_iff.2 h]

/-- The two outcomes of `bio_allocate_neural_tissue`. -/
theorem bioAllocateNeuralTissue_cases (size : BitVec 64) (s : BioMem) :
    (∃ i, FirstFits s.free bitmapMaxCells (cellsNeeded size).toNat i ∧
      bioAllocateNeuralTissue size s = (cellAddress s.memBase i,
        { s with cellBitmap := markCells s.cellBitmap i (cellsNeeded size).toNat })) ∨
    (∀ i, ¬ Fits s.free bitmapMaxCells (cellsNeeded size).toNat i) ∧
      bioAllocateNeuralTissue size s = (0, s) := by
  cases hscan : scan s.free (cellsNeeded size).toNat bitmapMaxCells 0 0 0 with
  | some i =>
    have hfirst := scan_eq_some_iff.1 hscan
    exact .inl ⟨i, hfirst, bioAllocateNeuralTissue_of_first hfirst⟩
  | none =>
    right
    constructor
    · intro i hi
      have := scan_isSome_iff.2 ⟨i, hi⟩
      rw [hscan] at this
      cases this
    · rw [bioAllocateNeuralTissue, hscan]

/-- The index of a cell, kept in 32 bits. -/
theorem toNat_cellIndex (base ptr : Address) :
    (cellIndex base ptr).toNat = distance base ptr / cellSize % 2 ^ 32 := by
  rw [cellIndex, BitVec.toNat_setWidth, BitVec.toNat_udiv]
  rfl

/-- A cell address read back. -/
theorem toNat_cellIndex_cellAddress (hi : i < bitmapMaxCells) :
    (cellIndex base (cellAddress base i)).toNat = i := by
  rw [bitmapMaxCells] at hi
  have hdist : distance base (cellAddress base i) = i * cellSize := distance_add (by rw [cellSize]; omega)
  rw [toNat_cellIndex, hdist, cellSize]
  omega

/-- A cell of the bitmap is freed by its address. -/
theorem freeCell_cellAddress (hi : i < bitmapMaxCells) (hle : s.memBase ≤ cellAddress s.memBase i) :
    bioFreeCell (cellAddress s.memBase i) s = { s with cellBitmap := s.cellBitmap.clearBit i } := by
  rw [bioFreeCell, if_pos hle, toNat_cellIndex_cellAddress hi, if_pos hi]

/-- An address below `mem_base` frees nothing. -/
theorem freeCell_of_not_le (h : ¬ s.memBase ≤ p) : bioFreeCell p s = s := if_neg h

/-- The free cell `j`, found from cell `i` on, is marked and its address is returned; the free cells before
it are at address 0, and marked too. -/
structure TakesCell (base : Address) (bitmap : CellBitmap) (i j : Nat) (p : Address)
    (bitmap' : CellBitmap) : Prop where
  le : i ≤ j
  free : bitmap.testBit j = false
  address : p = cellAddress base j
  ne_zero : p ≠ 0
  first : ∀ k, i ≤ k → k < j → bitmap.testBit k = false → cellAddress base k = 0
  testBit : ∀ k, bitmap'.testBit k = (bitmap.testBit k || decide (i ≤ k ∧ k ≤ j))

/-- From cell `i` to `stop` there is no free cell that is not at address 0. -/
structure TakesNone (base : Address) (bitmap : CellBitmap) (i stop : Nat) (p : Address)
    (bitmap' : CellBitmap) : Prop where
  address : p = 0
  testBit : ∀ k, bitmap.testBit k = true → bitmap'.testBit k = true
  none : ∀ k, i ≤ k → k < stop → bitmap.testBit k = false → cellAddress base k = 0

/-- Once it holds an address, the loop of `bio_allocate_cell` only counts. -/
theorem cellLoop_of_allocated {left freeCount : Nat} (hp : p ≠ 0) :
    ∃ count, cellLoop base left i p freeCount bitmap = (p, count, bitmap) := by
  induction left generalizing i freeCount with
  | zero => exact ⟨freeCount, rfl⟩
  | succ left ih =>
    rw [cellLoop, if_neg hp]
    split
    · exact ih
    · exact ih

/-- What the loop of `bio_allocate_cell` does from cell `i` on. -/
theorem cellLoop_spec {left freeCount : Nat} (h : i + left ≤ bitmapMaxCells) :
    (∃ j < i + left, TakesCell base bitmap i j (cellLoop base left i 0 freeCount bitmap).1
      (cellLoop base left i 0 freeCount bitmap).2.2) ∨
    TakesNone base bitmap i (i + left) (cellLoop base left i 0 freeCount bitmap).1
      (cellLoop base left i 0 freeCount bitmap).2.2 := by
  -- induction on the cells to come; the bitmap changes when a cell at address 0 is marked
  induction left generalizing i freeCount bitmap with
  | zero => exact .inr ⟨rfl, fun _ hk => hk, fun k hk hki => absurd hk (by omega)⟩
  | succ left ih =>
    have hsize : i + 1 + left = i + (left + 1) := by omega
    rw [cellLoop]
    by_cases hused : bitmap.testBit i = true
    · rw [if_pos hused]
      -- a used cell is skipped
      have hskip : ∀ k, bitmap.testBit k = false → i ≤ k → i + 1 ≤ k := by
        intro k hfree hk
        by_contra hlt
        have : k = i := by omega
        rw [this, hused] at hfree
        cases hfree
      rcases @ih bitmap (i + 1) freeCount (by omega) with ⟨j, hj, htakes⟩ | hnone
      · left
        refine ⟨j, by omega, by have := htakes.le; omega, htakes.free, htakes.address, htakes.ne_zero,
          fun k hk hkj hfree => htakes.first k (hskip k hfree hk) hkj hfree, fun k => ?_⟩
        rw [htakes.testBit]
        by_cases hk : k = i
        · rw [hk, hused, Bool.true_or, Bool.true_or]
        · have hiff : (i + 1 ≤ k ∧ k ≤ j) ↔ (i ≤ k ∧ k ≤ j) := by omega
          simp only [hiff]
      · right
        exact ⟨hnone.address, hnone.testBit,
          fun k hk hki hfree => hnone.none k (hskip k hfree hk) (by omega) hfree⟩
    · have hfree : bitmap.testBit i = false := Bool.eq_false_iff.2 hused
      rw [if_neg hused, if_pos rfl]
      by_cases haddress : cellAddress base i = 0
      · -- the cell is marked, and the search goes on
        rw [haddress]
        have hmarked : ∀ k, (bitmap.setBit i).testBit k = (bitmap.testBit k || decide (k = i)) :=
          fun k => CellBitmap.testBit_setBit (by omega)
        have hlater : ∀ k, i + 1 ≤ k → (bitmap.setBit i).testBit k = bitmap.testBit k := by
          intro k hk
          rw [hmarked, decide_eq_false (by omega), Bool.or_false]
        rcases @ih (bitmap.setBit i) (i + 1) freeCount (by omega) with
          ⟨j, hj, htakes⟩ | hnone
        · left
          have hij := htakes.le
          refine ⟨j, by omega, by omega, ?_, htakes.address, htakes.ne_zero, fun k hk hkj hkfree => ?_,
            fun k => ?_⟩
          · rw [← hlater j hij]
            exact htakes.free
          · by_cases hki : k = i
            · rw [hki]
              exact haddress
            · exact htakes.first k (by omega) hkj (by rw [hlater k (by omega)]; exact hkfree)
          · have hiff : (k = i ∨ i + 1 ≤ k ∧ k ≤ j) ↔ (i ≤ k ∧ k ≤ j) := by omega
            rw [htakes.testBit, hmarked, Bool.or_assoc, ← Bool.decide_or]
            simp only [hiff]
        · right
          refine ⟨hnone.address, fun k hk => hnone.testBit k ?_, fun k hk hki hkfree => ?_⟩
          · rw [hmarked, hk, Bool.true_or]
          · by_cases hki' : k = i
            · rw [hki']
              exact haddress
            · exact hnone.none k (by omega) (by omega) (by rw [hlater k (by omega)]; exact hkfree)
      · left
        -- the cell is taken, and the rest of the loop only counts
        obtain ⟨count, hloop⟩ : ∃ count, cellLoop base left (i + 1) (cellAddress base i) freeCount
            (bitmap.setBit i) = (cellAddress base i, count, bitmap.setBit i) :=
          cellLoop_of_allocated haddress
        rw [hloop]
        refine ⟨i, by omega, le_refl i, hfree, rfl, haddress, fun k hk hki => absurd hk (by omega),
          fun k => ?_⟩
        have hiff : k = i ↔ (i ≤ k ∧ k ≤ i) := by omega
        rw [CellBitmap.testBit_setBit (by omega)]
        simp only [hiff]

/-- The two outcomes of `bio_allocate_cell`. -/
theorem bioAllocateCell_cases (stack : Globule) (s : BioMem) :
    ((∃ j < bitmapMaxCells, TakesCell s.memBase s.cellBitmap 0 j (bioAllocateCell stack s).1
        (bioAllocateCell stack s).2.cellBitmap) ∨
      TakesNone s.memBase s.cellBitmap 0 bitmapMaxCells (bioAllocateCell stack s).1
        (bioAllocateCell stack s).2.cellBitmap) ∧
    (bioAllocateCell stack s).2.memBase = s.memBase ∧
    (bioAllocateCell stack s).2.memTotal = s.memTotal ∧
    (bioAllocateCell stack s).2.memory = s.memory := by
  have hloop := @cellLoop_spec s.memBase s.cellBitmap 0 bitmapMaxCells 0 (by omega)
  rw [Nat.zero_add] at hloop
  rw [bioAllocateCell]
  dsimp only
  split
  · exact ⟨hloop, rfl, rfl, rfl⟩
  · exact ⟨hloop, rfl, rfl, rfl⟩

end OperatingOrganism.Memory

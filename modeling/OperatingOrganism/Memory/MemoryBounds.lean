import OperatingOrganism.Memory.HedgedMemory

/-!
# Are the blocks inside the managed memory?

The bitmap has a fixed number of cells, and none of the functions that allocate looks at `mem_total`: a block
is returned wherever the bitmap has room. It lies inside the memory that `bio_mem_init` was given if and only
if that memory has room for it too (`allSteps_inside_iff`).
-/

set_option autoImplicit false

namespace OperatingOrganism.Memory

open OperatingOrganism.ByteMemory OperatingOrganism.Execution OperatingOrganism.FirstFit
open OperatingOrganism.UnitedBus

/-- An allocation or a release. -/
inductive MemoryOp where
  | cell (stack : Globule)
  | tissue (sizeInBytes : BitVec 64)
  | hedged (sizeInBytes : BitVec 64) (replicaCount : BitVec 32)
  | freeCell (ptr : Address)
  | purge (ptr : Address) (sizeInBytes : BitVec 64)
  | apoptosis (ptr : Address) (sizeInBytes : BitVec 64)
  | consolidate (ptr : Address) (sizeInBytes : BitVec 64)
  | hedgedFree (ptr : Address)

def MemoryOp.apply (s : HedgedMem) : MemoryOp → HedgedMem
  | .cell stack => { s with bio := (bioAllocateCell stack s.bio).2 }
  | .tissue size => { s with bio := (bioAllocateNeuralTissue size s.bio).2 }
  | .hedged size replicas => (hedgedMalloc size replicas s).2
  | .freeCell ptr => { s with bio := bioFreeCell ptr s.bio }
  | .purge ptr size => { s with bio := bioPurgeInfectedTissue ptr size s.bio }
  | .apoptosis ptr size => { s with bio := bioApoptosis ptr size s.bio }
  | .consolidate ptr size => { s with bio := bioConsolidateMemory ptr size s.bio }
  | .hedgedFree ptr => Memory.hedgedFree ptr s

def MemoryStep (s : HedgedMem) (op : MemoryOp) (t : HedgedMem) : Prop := t = op.apply s

/-- The address that an allocation returns, and the bytes that it was asked for. -/
def MemoryOp.block (s : HedgedMem) : MemoryOp → Option Block
  | .cell stack => some ⟨(bioAllocateCell stack s.bio).1, cellSize⟩
  | .tissue size => some ⟨(bioAllocateNeuralTissue size s.bio).1, size.toNat⟩
  | .hedged size replicas => some ⟨(hedgedMalloc size replicas s).1, size.toNat * replicas.toNat⟩
  | .freeCell _ | .purge _ _ | .apoptosis _ _ | .consolidate _ _ | .hedgedFree _ => none

/-- The block that a call returns, if it returns one, is inside the managed memory. -/
def Inside (base : Address) (total : BitVec 64) (s : HedgedMem) (op : MemoryOp) : Prop :=
  ∀ b, op.block s = some b → b.address ≠ 0 → b.span ⊆ span base total.toNat

/-- The first `total` bytes have room for a block of `bytes` in `n` free cells, if the bitmap has. -/
def Room (s : BioMem) (total bytes n : Nat) : Prop :=
  ∀ i, FirstFits s.free bitmapMaxCells n i → cellAddress s.memBase i ≠ 0 →
    ∃ j, Fits s.free bitmapMaxCells n j ∧ j * cellSize + bytes ≤ total

/-- The first `total` bytes have a free cell, if the bitmap has one. A cell at address 0 does not count. -/
def RoomForCell (s : BioMem) (total : Nat) : Prop :=
  ∀ i < bitmapMaxCells, s.free i = true → cellAddress s.memBase i ≠ 0 →
    ∃ j < bitmapMaxCells, s.free j = true ∧ cellAddress s.memBase j ≠ 0 ∧ j * cellSize + cellSize ≤ total

/-- `hedged_malloc` comes to the allocation. -/
def Accepts (s : HedgedMem) (replicaCount : BitVec 32) : Prop :=
  s.allocations.length < hedgedMallocMaxAllocations ∧ replicaCount.toNat ≠ 0 ∧
    replicaCount.toNat ≤ hedgedMallocReplicaCount

/-- The managed memory has room for an allocation, if the bitmap has. -/
def MemoryOp.HasRoom (total : BitVec 64) (s : HedgedMem) : MemoryOp → Prop
  | .cell _ => RoomForCell s.bio total.toNat
  | .tissue size => Room s.bio total.toNat size.toNat (blockCells size.toNat % 2 ^ 32)
  | .hedged size replicas => Accepts s replicas →
      Room s.bio total.toNat (size.toNat * replicas.toNat)
        (blockCells (size.toNat * replicas.toNat % 2 ^ 64) % 2 ^ 32)
  | .freeCell _ | .purge _ _ | .apoptosis _ _ | .consolidate _ _ | .hedgedFree _ => True

variable {base : Address} {total size : BitVec 64} {replicas : BitVec 32} {s : HedgedMem} {op : MemoryOp}
  {i n bytes : Nat}

/-- A block at a cell is inside the memory if it ends there; one of `2 ^ 64` bytes or more is every address. -/
theorem span_subset_iff_of_cell (hpos : 0 < bytes)
    (hwrap : i * cellSize + bytes ≤ 2 ^ 64 ∨ 2 ^ 64 ≤ bytes) :
    (Block.span ⟨cellAddress base i, bytes⟩ ⊆ span base total.toNat) ↔
      i * cellSize + bytes ≤ total.toNat := by
  have htotal := total.isLt
  rw [Block.span, cellAddress]
  by_cases hle : i * cellSize + bytes ≤ 2 ^ 64
  · exact span_subset_iff hle hpos
  · refine iff_of_false (fun hsub => ?_) (by omega)
    -- the address behind the memory
    have hmem : base + BitVec.ofNat 64 total.toNat ∈
        span (base + BitVec.ofNat 64 (i * cellSize)) bytes :=
      (distance_lt _ _).trans_le (by omega)
    have := hsub hmem
    rw [mem_span, distance_add htotal] at this
    exact Nat.lt_irrefl _ this

/-- What `Room` says of the cells that are found. -/
theorem room_iff {s : BioMem} (h : FirstFits s.free bitmapMaxCells n i)
    (haddress : cellAddress s.memBase i ≠ 0) {total : Nat} :
    Room s total bytes n ↔ i * cellSize + bytes ≤ total := by
  constructor
  · intro hroom
    obtain ⟨j, hj, hle⟩ := hroom i h haddress
    -- the first run of cells ends before any other one does
    have := Nat.mul_le_mul_right cellSize (h.first j hj)
    omega
  · intro hle i' hi' _
    obtain rfl := h.unique hi'
    exact ⟨i, h.fits, hle⟩

/-- `bio_allocate_neural_tissue` returns a block of the memory if and only if the memory has room. -/
theorem tissue_subset_iff {s : BioMem} (hbytes : bytes % 2 ^ 64 = size.toNat) :
    ((bioAllocateNeuralTissue size s).1 ≠ 0 →
      Block.span ⟨(bioAllocateNeuralTissue size s).1, bytes⟩ ⊆ span s.memBase total.toNat) ↔
      Room s total.toNat bytes (blockCells size.toNat % 2 ^ 32) := by
  rcases bioAllocateNeuralTissue_cases size s with ⟨i, hfirst, hres⟩ | ⟨hnone, hres⟩
  · rw [toNat_cellsNeeded_eq] at hfirst hres
    have hplaced := placed_of_fits hfirst.fits
    have hle : i * cellSize + size.toNat ≤ 2 ^ 64 := hplaced.le
    have hpos : 0 < size.toNat := hplaced.pos
    rw [hres]
    dsimp only
    by_cases haddress : cellAddress s.memBase i = 0
    · -- the run begins at address 0, which counts as failure
      refine iff_of_true (fun hne => absurd haddress hne) fun i' hi' hne => ?_
      obtain rfl := hfirst.unique hi'
      exact absurd haddress hne
    · rw [room_iff hfirst haddress, forall_prop_of_true haddress]
      apply span_subset_iff_of_cell
      · omega
      · omega
  · rw [toNat_cellsNeeded_eq] at hnone
    rw [hres]
    exact iff_of_true (fun hne => absurd rfl hne) fun i hi => absurd hi.fits (hnone i)

theorem cell_subset_iff {s : BioMem} (stack : Globule) :
    ((bioAllocateCell stack s).1 ≠ 0 →
      Block.span ⟨(bioAllocateCell stack s).1, cellSize⟩ ⊆ span s.memBase total.toNat) ↔
      RoomForCell s total.toNat := by
  obtain ⟨⟨j, hj, htakes⟩ | hnone, -, -, -⟩ := bioAllocateCell_cases stack s
  · have hsubset : Block.span ⟨cellAddress s.memBase j, cellSize⟩ ⊆ span s.memBase total.toNat ↔
        j * cellSize + cellSize ≤ total.toNat := by
      apply span_subset_iff_of_cell (by decide)
      left
      simp only [cellSize, bitmapMaxCells] at *
      omega
    have hfree : s.free j = true := by
      rw [BioMem.free, htakes.free]
      rfl
    have haddress : cellAddress s.memBase j ≠ 0 := htakes.address ▸ htakes.ne_zero
    rw [forall_prop_of_true htakes.ne_zero, htakes.address, hsubset]
    constructor
    · intro hle i hi hifree hiaddress
      exact ⟨j, hj, hfree, haddress, hle⟩
    · intro hroom
      obtain ⟨k, hk, hkfree, hkaddress, hle⟩ := hroom j hj hfree haddress
      -- the cell that was taken does not come after it
      have hjk : j ≤ k := by
        by_contra hlt
        rw [BioMem.free, Bool.not_eq_true'] at hkfree
        exact hkaddress (htakes.first k (Nat.zero_le k) (Nat.not_le.1 hlt) hkfree)
      have := Nat.mul_le_mul_right cellSize hjk
      omega
  · -- no cell was found, so there is none to have room for
    refine iff_of_true (fun hne => absurd hnone.address hne) fun i hi hifree hiaddress => ?_
    rw [BioMem.free, Bool.not_eq_true'] at hifree
    exact absurd (hnone.none i (Nat.zero_le i) hi hifree) hiaddress

theorem hedgedMalloc_eq (h : Accepts s replicas) :
    (hedgedMalloc size replicas s).1 = (bioAllocateNeuralTissue (totalSize size replicas) s.bio).1 := by
  rw [hedgedMalloc, if_neg (Nat.not_le.2 h.1), if_neg (not_or.2 ⟨h.2.1, Nat.not_lt.2 h.2.2⟩)]
  dsimp only
  split
  · rename_i hzero
    exact hzero.symm
  · rfl

theorem hedgedMalloc_eq_zero (h : ¬ Accepts s replicas) : (hedgedMalloc size replicas s).1 = 0 := by
  rw [hedgedMalloc]
  split
  · rfl
  · split
    · rfl
    · rename_i hlength hreplicas
      exact absurd ⟨Nat.not_le.1 hlength, (not_or.1 hreplicas).1, Nat.not_lt.1 (not_or.1 hreplicas).2⟩ h

theorem hedged_subset_iff :
    ((hedgedMalloc size replicas s).1 ≠ 0 →
      Block.span ⟨(hedgedMalloc size replicas s).1, size.toNat * replicas.toNat⟩ ⊆
        span s.bio.memBase total.toNat) ↔ (MemoryOp.hedged size replicas).HasRoom total s := by
  by_cases haccepts : Accepts s replicas
  · have hmod : (totalSize size replicas).toNat = size.toNat * replicas.toNat % 2 ^ 64 := by
      rw [totalSize_eq, BitVec.toNat_ofNat]
    rw [MemoryOp.HasRoom, forall_prop_of_true haccepts, hedgedMalloc_eq haccepts,
      tissue_subset_iff hmod.symm, hmod]
  · rw [hedgedMalloc_eq_zero haccepts]
    exact iff_of_true (fun hne => absurd rfl hne) fun h => absurd h haccepts

/-- A call returns a block of the managed memory if and only if that has room. -/
theorem inside_iff (hbase : s.bio.memBase = base) : Inside base total s op ↔ op.HasRoom total s := by
  subst hbase
  rw [Inside]
  cases op with
  | cell stack =>
    simp only [MemoryOp.block, Option.some.injEq, forall_eq']
    exact cell_subset_iff stack
  | tissue size =>
    simp only [MemoryOp.block, Option.some.injEq, forall_eq']
    exact tissue_subset_iff (Nat.mod_eq_of_lt size.isLt)
  | hedged size replicas =>
    simp only [MemoryOp.block, Option.some.injEq, forall_eq']
    exact hedged_subset_iff
  | freeCell ptr => exact iff_of_true nofun trivial
  | purge ptr size => exact iff_of_true nofun trivial
  | apoptosis ptr size => exact iff_of_true nofun trivial
  | consolidate ptr size => exact iff_of_true nofun trivial
  | hedgedFree ptr => exact iff_of_true nofun trivial

/-- A memory as large as the bitmap has room for every block whose count of cells is not truncated. -/
theorem room_of_managed {s : BioMem} {total : Nat} (htotal : managedBytes ≤ total)
    (hbytes : bytes ≤ 2 ^ 44 - 4096) : Room s total bytes (blockCells bytes % 2 ^ 32) := by
  intro i hi _
  refine ⟨i, hi.fits, ?_⟩
  have hwithin := hi.fits.within
  simp only [blockCells, managedBytes, cellSize, bitmapMaxCells] at *
  omega

/-! ## Runs -/

theorem memBase_bioFreeCell (ptr : Address) (s : BioMem) : (bioFreeCell ptr s).memBase = s.memBase := by
  rw [bioFreeCell]
  dsimp only
  split
  · split
    · rfl
    · rfl
  · rfl

theorem memBase_bioPurgeInfectedTissue (ptr : Address) (size : BitVec 64) (s : BioMem) :
    (bioPurgeInfectedTissue ptr size s).memBase = s.memBase := by
  rw [bioPurgeInfectedTissue]
  split
  · rfl
  · exact (purges_foldl _ s).memBase

theorem memBase_bioAllocateNeuralTissue (size : BitVec 64) (s : BioMem) :
    (bioAllocateNeuralTissue size s).2.memBase = s.memBase := by
  rcases bioAllocateNeuralTissue_cases size s with ⟨i, -, hres⟩ | ⟨-, hres⟩
  · rw [hres]
  · rw [hres]

/-- No call moves the memory. -/
theorem memBase_apply (op : MemoryOp) (s : HedgedMem) : (op.apply s).bio.memBase = s.bio.memBase := by
  cases op with
  | cell stack => exact (bioAllocateCell_cases stack s.bio).2.1
  | tissue size => exact memBase_bioAllocateNeuralTissue size s.bio
  | hedged size replicas =>
    rw [MemoryOp.apply]
    rcases hedgedMalloc_cases size replicas s with hres | ⟨-, hres⟩ | ⟨-, hres⟩
    · rw [hres]
    · rw [hres]
      exact memBase_bioAllocateNeuralTissue _ s.bio
    · rw [hres]
      exact memBase_bioAllocateNeuralTissue _ s.bio
  | freeCell ptr => exact memBase_bioFreeCell ptr s.bio
  | purge ptr size => exact memBase_bioPurgeInfectedTissue ptr size s.bio
  | apoptosis ptr size => exact memBase_bioPurgeInfectedTissue ptr size s.bio
  | consolidate ptr size => exact memBase_bioFreeCell ptr s.bio
  | hedgedFree ptr =>
    rw [MemoryOp.apply]
    rcases hedgedFree_cases ptr s with ⟨-, hres⟩ | ⟨alloc, i, -, -, hres⟩
    · rw [hres]
    · rw [hres]
      exact memBase_bioPurgeInfectedTissue _ _ s.bio

/-- In every run from `bio_mem_init`, all the blocks are inside the managed memory if and only if that has
room at each allocation. -/
theorem allSteps_inside_iff (base : Address) (total : BitVec 64) (bio : BioMem)
    (allocations : List HedgedAllocation) {tr : List (MemoryOp × HedgedMem)}
    (h : Exec MemoryStep ⟨bioMemInit base total bio, allocations⟩ tr) :
    AllSteps (Inside base total) ⟨bioMemInit base total bio, allocations⟩ tr ↔
      AllSteps (fun s op => op.HasRoom total s) ⟨bioMemInit base total bio, allocations⟩ tr := by
  refine h.allSteps_congr (I := fun s => s.bio.memBase = base) rfl ?_ fun s op => inside_iff
  rintro s op t hbase - rfl
  rw [memBase_apply, hbase]

/-- Two cells for a block, in a memory as large as the bitmap. -/
theorem allSteps_inside_two_cells :
    AllSteps (Inside 0x100000 0x19000000) ⟨freshMem 0x100000 0x19000000, []⟩
      [(.tissue 8192, MemoryOp.apply ⟨freshMem 0x100000 0x19000000, []⟩ (.tissue 8192))] := by
  have hexec : Exec MemoryStep ⟨freshMem 0x100000 0x19000000, []⟩
      [(.tissue 8192, MemoryOp.apply ⟨freshMem 0x100000 0x19000000, []⟩ (.tissue 8192))] := ⟨rfl, trivial⟩
  refine (allSteps_inside_iff 0x100000 0x19000000 _ [] hexec).2 ⟨?_, trivial⟩
  change Room _ _ 8192 (blockCells 8192 % 2 ^ 32)
  exact room_of_managed (by decide) (by decide)

/-- In a memory of one cell, a block of two cells reaches outside. -/
theorem exists_block_outside :
    ∃ tr, Exec MemoryStep ⟨freshMem 0x100000 4096, []⟩ tr ∧
      ¬ AllSteps (Inside 0x100000 4096) ⟨freshMem 0x100000 4096, []⟩ tr := by
  refine ⟨[(.tissue 8192, MemoryOp.apply ⟨freshMem 0x100000 4096, []⟩ (.tissue 8192))], ⟨rfl, trivial⟩,
    fun hall => ?_⟩
  have hinside : Inside 0x100000 4096 ⟨freshMem 0x100000 4096, []⟩ (.tissue 8192) := hall.1
  have hfirst : FirstFits (freshMem 0x100000 4096).free bitmapMaxCells (cellsNeeded 8192).toNat 0 :=
    firstFits_freshMem (by decide) (by decide)
  have hblock : MemoryOp.block ⟨freshMem 0x100000 4096, []⟩ (.tissue 8192) =
      some ⟨cellAddress 0x100000 0, 8192⟩ := by
    rw [MemoryOp.block, bioAllocateNeuralTissue_of_first hfirst]
    rfl
  have hsub : Block.span ⟨cellAddress 0x100000 0, 8192⟩ ⊆ span 0x100000 (4096#64).toNat :=
    hinside _ hblock (show cellAddress 0x100000 0 ≠ 0 by decide)
  have hle := (span_subset_iff_of_cell (by decide) (.inl (by decide))).1 hsub
  exact absurd hle (by decide)

end OperatingOrganism.Memory

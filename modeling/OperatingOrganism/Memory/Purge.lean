import OperatingOrganism.Memory.NeuralTissue

/-!
# What a purge reaches

`bio_purge_infected_tissue` takes the index of the cell in which the range begins, drops its upper half, and adds
the number of cells that the size alone would need. A range that begins inside a cell can end in one cell more,
which is not purged; and a range that begins `2 ^ 44` bytes or more behind `mem_base` purges cells at its
beginning. The cells that the loop comes to are those with `Swept`. `purge_iff` says exactly when the call leaves
no byte of the range, frees its cells and touches no others, and `purgeFits_iff_of_le` what that means for a range
near `mem_base`.
-/

set_option autoImplicit false

namespace OperatingOrganism.Memory

open OperatingOrganism.ByteMemory OperatingOrganism.UnitedBus

/-- After the purge every byte of the range that lies in a cell is zero, every cell that the range reaches into is
free, and no other cell has changed. -/
structure PurgesRange (ptr : Address) (sizeInBytes : BitVec 64) (s : BioMem) : Prop where
  zeroed : ∀ a ∈ span ptr sizeInBytes.toNat, (∃ i < bitmapMaxCells, a ∈ s.cellSpan i) →
    (bioPurgeInfectedTissue ptr sizeInBytes s).memory a = 0
  freed : ∀ i < bitmapMaxCells, Block.Overlaps ⟨ptr, sizeInBytes.toNat⟩ s i →
    ¬ (bioPurgeInfectedTissue ptr sizeInBytes s).Used i
  untouched : ∀ i < bitmapMaxCells, ¬ Block.Overlaps ⟨ptr, sizeInBytes.toNat⟩ s i →
    ((bioPurgeInfectedTissue ptr sizeInBytes s).Used i ↔ s.Used i) ∧
      ∀ a ∈ s.cellSpan i, (bioPurgeInfectedTissue ptr sizeInBytes s).memory a = s.memory a

/-- The index lies between the one of the first cell and the end of the loop, both kept in 32 bits. -/
def Swept (base ptr : Address) (sizeInBytes : BitVec 64) (i : Nat) : Prop :=
  distance base ptr / cellSize % 2 ^ 32 ≤ i ∧
    i < (distance base ptr / cellSize + blockCells sizeInBytes.toNat) % 2 ^ 32

/-- A cell of the range that is not swept is free and zero in the range already, and a swept cell that the range
does not reach into is free and zero already. -/
structure PurgeFits (ptr : Address) (sizeInBytes : BitVec 64) (s : BioMem) : Prop where
  missed : ∀ i < bitmapMaxCells, Block.Overlaps ⟨ptr, sizeInBytes.toNat⟩ s i →
    ¬ Swept s.memBase ptr sizeInBytes i →
      ¬ s.Used i ∧ ∀ a ∈ s.cellSpan i, a ∈ span ptr sizeInBytes.toNat → s.memory a = 0
  extra : ∀ i < bitmapMaxCells, Swept s.memBase ptr sizeInBytes i →
    ¬ Block.Overlaps ⟨ptr, sizeInBytes.toNat⟩ s i → ¬ s.Used i ∧ ∀ a ∈ s.cellSpan i, s.memory a = 0

/-! ## The loop -/

section Loop

variable {s : BioMem} {ptr a : Address} {size : BitVec 64} {i j : Nat}

/-- A byte lies in one cell at most. -/
theorem cellSpan_inj (hi : i < bitmapMaxCells) (hj : j < bitmapMaxCells) (ha : a ∈ s.cellSpan i)
    (ha' : a ∈ s.cellSpan j) : i = j := by
  rw [mem_cellSpan hi] at ha
  rw [mem_cellSpan hj] at ha'
  exact ha.symm.trans ha'

/-- The bytes of a cell that was purged are zero. -/
theorem memory_foldl_purgeCell {cells : List Nat} (hmem : i ∈ cells) (hi : i < bitmapMaxCells)
    (ha : a ∈ s.cellSpan i) : (cells.foldl purgeCell s).memory a = 0 := by
  induction cells generalizing s with
  | nil => cases hmem
  | cons j cells ih =>
    rw [List.foldl_cons]
    have hbase : (purgeCell s j).memBase = s.memBase := by
      rw [purgeCell]
      split
      · rfl
      · rfl
    have ha' : a ∈ (purgeCell s j).cellSpan i := by
      rw [BioMem.cellSpan, hbase]
      exact ha
    by_cases hlater : i ∈ cells
    · exact ih hlater ha'
    · -- the cell is not purged again, so no later cell has the byte
      obtain rfl : i = j := (List.mem_cons.1 hmem).resolve_right hlater
      rw [(purges_foldl cells (purgeCell s i)).memory]
      · rw [purgeCell, if_pos hi]
        exact if_pos ha
      · intro k hk hmax hak
        have hik : i = k := cellSpan_inj (s := purgeCell s i) hi hmax ha' hak
        exact hlater (hik ▸ hk)

/-- What the call does to the bitmap and the memory. -/
structure Sweeps (ptr : Address) (size : BitVec 64) (s t : BioMem) : Prop where
  freed : ∀ i, Swept s.memBase ptr size i → ¬ t.Used i
  kept : ∀ i, ¬ Swept s.memBase ptr size i → (t.Used i ↔ s.Used i)
  zeroed : ∀ i < bitmapMaxCells, Swept s.memBase ptr size i → ∀ a ∈ s.cellSpan i, t.memory a = 0
  spared : ∀ i < bitmapMaxCells, ¬ Swept s.memBase ptr size i → ∀ a ∈ s.cellSpan i, t.memory a = s.memory a

/-- The cells that the loop comes to. -/
theorem mem_sweep_iff (base ptr : Address) (size : BitVec 64) (i : Nat) :
    i ∈ List.range' (cellIndex base ptr).toNat
        ((cellIndex base ptr + cellsNeeded size).toNat - (cellIndex base ptr).toNat) ↔
      Swept base ptr size i := by
  rw [List.mem_range'_1, BitVec.toNat_add, toNat_cellIndex, toNat_cellsNeeded_eq, Swept]
  omega

theorem sweeps_purge (hle : s.memBase ≤ ptr) : Sweeps ptr size s (bioPurgeInfectedTissue ptr size s) := by
  rw [bioPurgeInfectedTissue, if_neg (BitVec.not_lt.2 hle)]
  have hmem := mem_sweep_iff s.memBase ptr size
  dsimp only
  generalize List.range' (cellIndex s.memBase ptr).toNat
    ((cellIndex s.memBase ptr + cellsNeeded size).toNat - (cellIndex s.memBase ptr).toNat) = cells at hmem ⊢
  have hpurges := purges_foldl cells s
  refine ⟨?_, ?_, ?_, ?_⟩
  · intro i hi
    rw [← hmem] at hi
    rw [BioMem.Used, hpurges.testBit, decide_eq_false (not_not.2 hi), Bool.and_false]
    exact Bool.false_ne_true
  · intro i hi
    rw [← hmem] at hi
    rw [BioMem.Used, BioMem.Used, hpurges.testBit, decide_eq_true hi, Bool.and_true]
  · intro i hmax hi a ha
    exact memory_foldl_purgeCell ((hmem i).2 hi) hmax ha
  · intro i hmax hi a ha
    apply hpurges.memory
    intro k hk hkmax hak
    -- the byte lies in cell `i` only
    obtain rfl := cellSpan_inj hmax hkmax ha hak
    exact hi ((hmem i).1 hk)

end Loop

/-! ## The property -/

section Range

variable {s : BioMem} {ptr : Address} {size : BitVec 64} {i : Nat}

/-- For every pointer at or above `mem_base` and every size, a purge does what it is for if and only if the cells
that it misses, and the cells that it purges without need, are free and zero already. -/
theorem purge_iff (hle : s.memBase ≤ ptr) : PurgesRange ptr size s ↔ PurgeFits ptr size s := by
  have hsweeps : Sweeps ptr size s (bioPurgeInfectedTissue ptr size s) := sweeps_purge hle
  constructor
  · intro hpurges
    constructor
    · intro i hmax hover hmissed
      constructor
      · rw [← hsweeps.kept i hmissed]
        exact hpurges.freed i hmax hover
      · intro a ha hrange
        rw [← hsweeps.spared i hmax hmissed a ha]
        exact hpurges.zeroed a hrange ⟨i, hmax, ha⟩
    · intro i hmax hswept hapart
      obtain ⟨hused, hmemory⟩ := hpurges.untouched i hmax hapart
      constructor
      · rw [← hused]
        exact hsweeps.freed i hswept
      · intro a ha
        rw [← hmemory a ha]
        exact hsweeps.zeroed i hmax hswept a ha
  · intro hfits
    refine ⟨?_, ?_, ?_⟩
    · rintro a hrange ⟨i, hmax, ha⟩
      by_cases hswept : Swept s.memBase ptr size i
      · exact hsweeps.zeroed i hmax hswept a ha
      · rw [hsweeps.spared i hmax hswept a ha]
        exact (hfits.missed i hmax ⟨a, ha, hrange⟩ hswept).2 a ha hrange
    · intro i hmax hover
      by_cases hswept : Swept s.memBase ptr size i
      · exact hsweeps.freed i hswept
      · rw [hsweeps.kept i hswept]
        exact (hfits.missed i hmax hover hswept).1
    · intro i hmax hapart
      by_cases hswept : Swept s.memBase ptr size i
      · obtain ⟨hfree, hzero⟩ := hfits.extra i hmax hswept hapart
        refine ⟨iff_of_false (hsweeps.freed i hswept) hfree, ?_⟩
        intro a ha
        rw [hsweeps.zeroed i hmax hswept a ha, hzero a ha]
      · exact ⟨hsweeps.kept i hswept, hsweeps.spared i hmax hswept⟩

/-- The cells that a range reaches into, if it ends before the addresses wrap around. -/
theorem overlaps_range_iff (hwrap : distance s.memBase ptr + size.toNat ≤ 2 ^ 64) (hi : i < bitmapMaxCells) :
    Block.Overlaps ⟨ptr, size.toNat⟩ s i ↔ 0 < size.toNat ∧
      i * cellSize < distance s.memBase ptr + size.toNat ∧ distance s.memBase ptr < i * cellSize + cellSize := by
  have hcell : i * cellSize + cellSize ≤ 2 ^ 64 := by
    rw [bitmapMaxCells] at hi
    rw [cellSize]
    omega
  have hiff := @inter_nonempty_iff 64 s.memBase _ _ _ _ hcell hwrap
  rw [add_distance] at hiff
  rw [Block.Overlaps, BioMem.cellSpan, Block.span, cellAddress, hiff]
  exact and_iff_right (Nat.succ_pos 4095)

/-- Near `mem_base` the call misses at most one cell, the one behind as many cells as the size needs, when the
range reaches into it, and purges none without need. -/
theorem purgeFits_iff_of_le (hnear : distance s.memBase ptr + size.toNat ≤ 2 ^ 44 - 4096)
    (hpos : 0 < size.toNat) :
    PurgeFits ptr size s ↔
      ∀ i < bitmapMaxCells, i = distance s.memBase ptr / cellSize + blockCells size.toNat →
        i * cellSize < distance s.memBase ptr + size.toNat →
        ¬ s.Used i ∧ ∀ a ∈ s.cellSpan i, a ∈ span ptr size.toNat → s.memory a = 0 := by
  have hwrap : distance s.memBase ptr + size.toNat ≤ 2 ^ 64 := by omega
  have hswept : ∀ i, Swept s.memBase ptr size i ↔ distance s.memBase ptr / cellSize ≤ i ∧
      i < distance s.memBase ptr / cellSize + blockCells size.toNat := by
    intro i
    simp only [Swept, blockCells, cellSize]
    omega
  constructor
  · intro hfits i hi heq hlt
    apply hfits.missed i hi
    · rw [overlaps_range_iff hwrap hi]
      refine ⟨hpos, hlt, ?_⟩
      simp only [blockCells, cellSize] at *
      omega
    · rw [hswept]
      omega
  · intro hbehind
    constructor
    · intro i hi hover hmissed
      rw [overlaps_range_iff hwrap hi] at hover
      rw [hswept] at hmissed
      apply hbehind i hi _ hover.2.1
      simp only [blockCells, cellSize] at *
      omega
    · intro i hi hsweep hapart
      rw [hswept] at hsweep
      exfalso
      apply hapart
      rw [overlaps_range_iff hwrap hi]
      simp only [blockCells, cellSize] at *
      omega

/-- A block of one cell is purged. -/
theorem purgesRange_freshMem : PurgesRange 0x100000 4096 (freshMem 0x100000 0x19000000) := by
  apply (purge_iff (by decide)).2
  rw [purgeFits_iff_of_le (by decide) (by decide)]
  rintro i - rfl hlt
  exact absurd hlt (by decide)

/-- A range of one cell's size that begins in the middle of the first cell leaves an infected byte in the second
one. -/
theorem exists_not_purgesRange :
    (bioPurgeInfectedTissue 0x100800 4096
        { freshMem 0x100000 0x19000000 with memory := fun _ => 1 }).memory 0x101000 = 1 ∧
      ¬ PurgesRange 0x100800 4096 { freshMem 0x100000 0x19000000 with memory := fun _ => 1 } := by
  have hsweeps : Sweeps 0x100800 4096 { freshMem 0x100000 0x19000000 with memory := fun _ => 1 } _ :=
    sweeps_purge (by decide)
  have hcell : (0x101000 : Address) ∈
      BioMem.cellSpan { freshMem 0x100000 0x19000000 with memory := fun _ => 1 } 1 := by
    rw [mem_cellSpan (by decide)]
    decide
  have hinfected : (bioPurgeInfectedTissue 0x100800 4096
      { freshMem 0x100000 0x19000000 with memory := fun _ => 1 }).memory 0x101000 = 1 := by
    apply hsweeps.spared 1 (by decide) _ _ hcell
    rintro ⟨-, hlt⟩
    exact absurd hlt (by decide)
  refine ⟨hinfected, ?_⟩
  intro hpurges
  have hzero := hpurges.zeroed 0x101000 (mem_span.2 (by decide)) ⟨1, by decide, hcell⟩
  rw [hinfected] at hzero
  exact absurd hzero (by decide)

end Range

end OperatingOrganism.Memory

import OperatingOrganism.Library.Execution
import OperatingOrganism.Memory.BioAlloc

/-!
# Blocks and their owners

A block is given out in whole cells. As long as the cells that a block reaches into were free, and are
marked with it, the blocks that clients hold stay apart (`Owned`). `bio_allocate_neural_tissue` keeps the
number of cells in 32 bits, and so can give a block that reaches beyond the cells it has marked
(`tissueExact_iff`).
-/

set_option autoImplicit false

namespace OperatingOrganism.Memory

open OperatingOrganism.ByteMemory OperatingOrganism.Execution OperatingOrganism.FirstFit
open OperatingOrganism.UnitedBus

/-! ## Blocks and cells -/

/-- A block of memory that was given out. -/
structure Block where
  address : Address
  size : Nat
  deriving DecidableEq

def Block.span (b : Block) : Set Address := ByteMemory.span b.address b.size

/-- The addresses of a cell. -/
def BioMem.cellSpan (s : BioMem) (i : Nat) : Set Address := span (cellAddress s.memBase i) cellSize

/-- The block reaches into cell `i`. -/
def Block.Overlaps (b : Block) (s : BioMem) (i : Nat) : Prop := (s.cellSpan i ∩ b.span).Nonempty

/-- The cell is marked. -/
def BioMem.Used (s : BioMem) (i : Nat) : Prop := s.cellBitmap.testBit i = true

/-- The block begins at cell `i` of the bitmap, and ends before the addresses wrap around to it. -/
structure Placed (base : Address) (b : Block) (i : Nat) : Prop where
  address : b.address = cellAddress base i
  lt_max : i < bitmapMaxCells
  pos : 0 < b.size
  le : i * cellSize + b.size ≤ 2 ^ 64

section

variable {s t : BioMem} {b b' : Block} {blocks : List Block} {i j k : Nat} {size : BitVec 64}

/-- The addresses of a cell, by their distance from `mem_base`. -/
theorem mem_cellSpan {a : Address} (hi : i < bitmapMaxCells) :
    a ∈ s.cellSpan i ↔ distance s.memBase a / cellSize = i := by
  rw [BioMem.cellSpan, cellAddress, mem_span_add, cellSize]
  · omega
  · rw [bitmapMaxCells] at hi
    rw [cellSize]
    omega

theorem not_used_iff : ¬ s.Used i ↔ s.free i = true := by
  rw [BioMem.Used, BioMem.free, Bool.not_eq_true, Bool.not_eq_true']

/-- The cells that a block reaches into are the one where it begins and those after it. -/
theorem Placed.overlaps_iff (h : Placed s.memBase b i) (hk : k < bitmapMaxCells) :
    b.Overlaps s k ↔ i ≤ k ∧ k * cellSize < i * cellSize + b.size := by
  have hpos := h.pos
  have hcell : k * cellSize + cellSize ≤ 2 ^ 64 := by
    simp only [bitmapMaxCells, cellSize] at hk ⊢
    omega
  rw [Block.Overlaps, BioMem.cellSpan, Block.span, h.address, cellAddress, cellAddress,
    inter_nonempty_iff hcell h.le]
  simp only [cellSize]
  omega

/-- Blocks that share an address share a cell, and conversely. -/
theorem Placed.not_disjoint_iff (h : Placed s.memBase b i) (h' : Placed s.memBase b' j) :
    ¬ Disjoint b.span b'.span ↔ ∃ k < bitmapMaxCells, b.Overlaps s k ∧ b'.Overlaps s k := by
  have hpos := h.pos
  have hpos' := h'.pos
  have hi := h.lt_max
  have hj := h'.lt_max
  rw [Set.not_disjoint_iff_nonempty_inter, Block.span, Block.span, h.address, h'.address, cellAddress,
    cellAddress, inter_nonempty_iff h.le h'.le]
  constructor
  · rintro ⟨-, -, hij, hji⟩
    -- the later one of the two first cells
    refine ⟨max i j, by omega, (h.overlaps_iff (by omega)).2 ?_, (h'.overlaps_iff (by omega)).2 ?_⟩
    · simp only [cellSize] at *
      omega
    · simp only [cellSize] at *
      omega
  · rintro ⟨k, hk, hb, hb'⟩
    rw [h.overlaps_iff hk] at hb
    rw [h'.overlaps_iff hk] at hb'
    simp only [cellSize] at *
    omega

/-! ## Ownership -/

/-- The blocks are apart, and the cells that they reach into are marked. -/
structure Owned (s : BioMem) (blocks : List Block) : Prop where
  placed : ∀ b ∈ blocks, ∃ i, Placed s.memBase b i
  used : ∀ b ∈ blocks, ∀ k < bitmapMaxCells, b.Overlaps s k → s.Used k
  apart : blocks.Pairwise fun b b' => Disjoint b.span b'.span

theorem owned_nil (s : BioMem) : Owned s [] := ⟨nofun, nofun, .nil⟩

/-- The cells do not move. -/
theorem overlaps_congr (hbase : t.memBase = s.memBase) : b.Overlaps t k ↔ b.Overlaps s k := by
  rw [Block.Overlaps, Block.Overlaps, BioMem.cellSpan, BioMem.cellSpan, hbase]

/-- A block whose cells were free, and are marked now, is apart from the others. -/
theorem Owned.take (h : Owned s blocks) (hb : Placed s.memBase b i) (hbase : t.memBase = s.memBase)
    (hused : ∀ k, s.Used k → t.Used k)
    (hcells : ∀ k < bitmapMaxCells, b.Overlaps s k → ¬ s.Used k ∧ t.Used k) : Owned t (b :: blocks) := by
  refine ⟨?_, ?_, List.pairwise_cons.2 ⟨fun b' hb' => ?_, h.apart⟩⟩
  · rintro b' hb'
    rw [hbase]
    rcases List.mem_cons.1 hb' with rfl | hb'
    · exact ⟨i, hb⟩
    · exact h.placed b' hb'
  · rintro b' hb' k hk hover
    rw [overlaps_congr hbase] at hover
    rcases List.mem_cons.1 hb' with rfl | hb'
    · exact (hcells k hk hover).2
    · exact hused k (h.used b' hb' k hk hover)
  · obtain ⟨j, hplaced⟩ := h.placed b' hb'
    -- a shared cell would have been free for the new block and marked for the old one
    by_contra hshare
    obtain ⟨k, hk, hover, hover'⟩ := (hb.not_disjoint_iff hplaced).1 hshare
    exact (hcells k hk hover).1 (h.used b' hb' k hk hover')

/-- A block begins where no other one does. -/
theorem Owned.address_ne (h : Owned s (b :: blocks)) (hb' : b' ∈ blocks) : b'.address ≠ b.address := by
  intro heq
  obtain ⟨i, hplaced⟩ := h.placed b List.mem_cons_self
  obtain ⟨j, hplaced'⟩ := h.placed b' (List.mem_cons_of_mem b hb')
  have hmem : b'.address ∈ b'.span := mem_span_self hplaced'.pos
  rw [heq] at hmem
  exact Set.disjoint_left.1 ((List.pairwise_cons.1 h.apart).1 b' hb') (mem_span_self hplaced.pos) hmem

/-- The order of the blocks does not matter. -/
theorem Owned.perm {blocks' : List Block} (h : Owned s blocks) (hperm : blocks.Perm blocks') :
    Owned s blocks' where
  placed b hb := h.placed b (hperm.mem_iff.2 hb)
  used b hb := h.used b (hperm.mem_iff.2 hb)
  apart := (hperm.pairwise_iff fun hdisj => hdisj.symm).1 h.apart

/-- Giving back a block frees no cell of another one. -/
theorem Owned.release (h : Owned s (b :: blocks)) (hbase : t.memBase = s.memBase)
    (hused : ∀ k < bitmapMaxCells, s.Used k → ¬ b.Overlaps s k → t.Used k) : Owned t blocks := by
  obtain ⟨i, hplaced⟩ := h.placed b List.mem_cons_self
  obtain ⟨hdisj, hapart⟩ := List.pairwise_cons.1 h.apart
  refine ⟨fun b' hb' => ?_, fun b' hb' k hk hover => ?_, hapart⟩
  · rw [hbase]
    exact h.placed b' (List.mem_cons_of_mem _ hb')
  · rw [overlaps_congr hbase] at hover
    have hmem := List.mem_cons_of_mem b hb'
    obtain ⟨j, hplaced'⟩ := h.placed b' hmem
    -- the block that goes shares no cell with one that stays
    refine hused k hk (h.used b' hmem k hk hover) fun hshared => ?_
    exact (hplaced.not_disjoint_iff hplaced').2 ⟨k, hk, hshared, hover⟩ (hdisj b' hb')

/-! ## Giving back a block -/

/-- The ways to give back a block. -/
inductive Release where
  | freeCell | purge | apoptosis | consolidate
  deriving DecidableEq, Repr

def Release.run (release : Release) (b : Block) (s : BioMem) : BioMem :=
  match release with
  | .freeCell => bioFreeCell b.address s
  | .purge => bioPurgeInfectedTissue b.address (.ofNat 64 b.size) s
  | .apoptosis => bioApoptosis b.address (.ofNat 64 b.size) s
  | .consolidate => bioConsolidateMemory b.address (.ofNat 64 b.size) s

/-- A release frees cells of the block only. -/
structure Releases (b : Block) (s t : BioMem) : Prop where
  memBase : t.memBase = s.memBase
  used : ∀ k < bitmapMaxCells, s.Used k → ¬ b.Overlaps s k → t.Used k
  memory : ∀ a, (∀ k < bitmapMaxCells, b.Overlaps s k → a ∉ s.cellSpan k) → t.memory a = s.memory a

theorem Releases.refl (b : Block) (s : BioMem) : Releases b s s := ⟨rfl, fun _ _ hk _ => hk, fun _ _ => rfl⟩

theorem releases_freeCell (h : Placed s.memBase b i) : Releases b s (bioFreeCell b.address s) := by
  rw [h.address]
  by_cases hle : s.memBase ≤ cellAddress s.memBase i
  · rw [freeCell_cellAddress h.lt_max hle]
    refine ⟨rfl, fun k hk hused hover => ?_, fun _ _ => rfl⟩
    -- only the first cell is freed, and the block reaches into it
    have hne : k ≠ i := by
      rintro rfl
      exact hover ((h.overlaps_iff hk).2 ⟨Nat.le_refl k, Nat.lt_add_of_pos_right h.pos⟩)
    rw [BioMem.Used, CellBitmap.testBit_clearBit h.lt_max, decide_eq_true hne, Bool.and_true]
    exact hused
  · rw [freeCell_of_not_le hle]
    exact .refl b s

theorem releases_purge (h : Placed s.memBase b i) :
    Releases b s (bioPurgeInfectedTissue b.address (.ofNat 64 b.size) s) := by
  have hindex : (cellIndex s.memBase (cellAddress s.memBase i)).toNat = i :=
    toNat_cellIndex_cellAddress h.lt_max
  rw [bioPurgeInfectedTissue, h.address]
  by_cases hlt : cellAddress s.memBase i < s.memBase
  · rw [if_pos hlt]
    exact .refl b s
  · rw [if_neg hlt]
    dsimp only
    rw [hindex]
    -- the cells from the first to the end that the code computes are cells of the block
    have hcells : ∀ k ∈ List.range' i ((cellIndex s.memBase (cellAddress s.memBase i) +
        cellsNeeded (.ofNat 64 b.size)).toNat - i), k < bitmapMaxCells → b.Overlaps s k := by
      intro k hk hmax
      rw [List.mem_range'_1, BitVec.toNat_add, hindex, toNat_cellsNeeded, BitVec.toNat_ofNat] at hk
      rw [h.overlaps_iff hmax, cellSize]
      omega
    have hpurges := purges_foldl (List.range' i ((cellIndex s.memBase (cellAddress s.memBase i) +
      cellsNeeded (.ofNat 64 b.size)).toNat - i)) s
    refine ⟨hpurges.memBase, fun k hk hused hover => ?_, fun a ha => ?_⟩
    · have hnot : k ∉ List.range' i _ := fun hmem => hover (hcells k hmem hk)
      rw [BioMem.Used, hpurges.testBit, decide_eq_true hnot, Bool.and_true]
      exact hused
    · exact hpurges.memory a fun k hk hmax => ha k hmax (hcells k hk hmax)

theorem releases_run (h : Placed s.memBase b i) (release : Release) : Releases b s (release.run b s) := by
  cases release with
  | freeCell => exact releases_freeCell h
  | purge => exact releases_purge h
  | apoptosis => exact releases_purge h
  | consolidate => exact releases_freeCell h

end

end OperatingOrganism.Memory

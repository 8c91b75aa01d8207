import Mathlib.Data.BitVec
import OperatingOrganism.Memory.BlockOwnership

/-!
# Does a block get the cells that it reaches into?

`bio_allocate_neural_tissue` rounds the size of a block up to cells and keeps their number as a `uint32_t`.
A block of more than `2 ^ 44 - 4096` bytes needs more cells than that holds, and what is left of the number
may be small enough for the bitmap: then the block is longer than the cells that are marked for it.
`tissueExact_iff` says exactly which calls give out a block with just the cells that it reaches into, and
`clients_apart` that the blocks of clients stay apart in a run of such calls.
-/

set_option autoImplicit false

namespace OperatingOrganism.Memory

open OperatingOrganism.ByteMemory OperatingOrganism.Execution OperatingOrganism.FirstFit
open OperatingOrganism.UnitedBus

/-! ## One call -/

/-- The cells that the block reaches into were free and are marked, and no other cell has changed. -/
structure ServesExactly (s : BioMem) (b : Block) (t : BioMem) : Prop where
  free : ∀ i < bitmapMaxCells, b.Overlaps s i → ¬ s.Used i
  used : ∀ i < bitmapMaxCells, b.Overlaps s i → t.Used i
  others : ∀ i < bitmapMaxCells, ¬ b.Overlaps s i → (t.Used i ↔ s.Used i)

/-- If the call returns an address, the block has just its cells. -/
def TissueExact (s : BioMem) (sizeInBytes : BitVec 64) : Prop :=
  (bioAllocateNeuralTissue sizeInBytes s).1 ≠ 0 →
    ServesExactly s ⟨(bioAllocateNeuralTissue sizeInBytes s).1, sizeInBytes.toNat⟩
      (bioAllocateNeuralTissue sizeInBytes s).2

/-- The number of cells that a block needs. -/
def blockCells (sizeInBytes : Nat) : Nat := (sizeInBytes + 4095) / cellSize

/-- The number of cells fits in 32 bits; or else the first run of as many free cells as is left of it, if
there is one, is at address 0 or ends with the bitmap. -/
def CountFits (s : BioMem) (sizeInBytes : BitVec 64) : Prop :=
  sizeInBytes.toNat ≤ 2 ^ 44 - 4096 ∨
    ∀ i, FirstFits s.free bitmapMaxCells (blockCells sizeInBytes.toNat % 2 ^ 32) i →
      cellAddress s.memBase i = 0 ∨ i + blockCells sizeInBytes.toNat % 2 ^ 32 = bitmapMaxCells

variable {s t : BioMem} {b : Block} {i j k n : Nat} {size : BitVec 64}

theorem toNat_cellsNeeded_eq (size : BitVec 64) :
    (cellsNeeded size).toNat = blockCells size.toNat % 2 ^ 32 := toNat_cellsNeeded size

/-- A number of cells that the bitmap has is kept in 32 bits. -/
theorem toNat_cellsNeeded_of_le (h : blockCells size.toNat ≤ bitmapMaxCells) :
    (cellsNeeded size).toNat = blockCells size.toNat := by
  rw [toNat_cellsNeeded_eq]
  apply Nat.mod_eq_of_lt
  exact Nat.lt_of_le_of_lt h (by decide)

/-- A block that was found ends before the addresses wrap around to it. -/
theorem placed_of_fits (h : Fits s.free bitmapMaxCells (blockCells size.toNat % 2 ^ 32) i) :
    Placed s.memBase ⟨cellAddress s.memBase i, size.toNat⟩ i := by
  have hsize := size.isLt
  have hpos := h.pos
  have hwithin := h.within
  refine ⟨rfl, by omega, ?_, ?_⟩
  · show 0 < size.toNat
    simp only [blockCells, cellSize] at hpos
    omega
  · show i * cellSize + size.toNat ≤ 2 ^ 64
    simp only [blockCells, cellSize, bitmapMaxCells] at *
    omega

/-- A block whose cells were counted right, or that reaches to the end of the bitmap, reaches into the cells
that are marked for it and no others. -/
theorem overlaps_iff_marked (h : Fits s.free bitmapMaxCells (blockCells size.toNat % 2 ^ 32) i)
    (hcount : size.toNat ≤ 2 ^ 44 - 4096 ∨ i + blockCells size.toNat % 2 ^ 32 = bitmapMaxCells)
    (hk : k < bitmapMaxCells) :
    Block.Overlaps ⟨cellAddress s.memBase i, size.toNat⟩ s k ↔
      i ≤ k ∧ k < i + blockCells size.toNat % 2 ^ 32 := by
  have hsize := size.isLt
  have hpos := h.pos
  rw [(placed_of_fits h).overlaps_iff hk]
  simp only [blockCells, cellSize, bitmapMaxCells] at *
  omega

/-- A run of free cells is marked. -/
theorem used_markCells (h : i + n ≤ bitmapMaxCells) :
    BioMem.Used { s with cellBitmap := markCells s.cellBitmap i n } k ↔
      s.Used k ∨ i ≤ k ∧ k < i + n := by
  rw [BioMem.Used, testBit_markCells h, Bool.or_eq_true, decide_eq_true_iff]
  rfl

/-- A call gives out a block with just the cells that it reaches into, unless the number of cells does not
fit in 32 bits and what is left of it fits in the bitmap before its end. -/
theorem tissueExact_iff (s : BioMem) (size : BitVec 64) : TissueExact s size ↔ CountFits s size := by
  rcases bioAllocateNeuralTissue_cases size s with ⟨i, hfirst, hres⟩ | ⟨hnone, hres⟩
  · rw [toNat_cellsNeeded_eq] at hfirst hres
    have hfits := hfirst.fits
    have hplaced := placed_of_fits hfits
    rw [TissueExact, hres]
    dsimp only
    constructor
    · intro hexact
      by_contra hcount
      rw [CountFits, not_or] at hcount
      obtain ⟨hlarge, hbefore⟩ := hcount
      simp only [not_forall, not_or] at hbefore
      obtain ⟨i', hfirst', haddress, hend⟩ := hbefore
      obtain rfl := hfirst.unique hfirst'
      -- the last cell of the bitmap is a cell of the block, and it is not marked for it
      have hwithin := hfits.within
      have hover : Block.Overlaps ⟨cellAddress s.memBase i, size.toNat⟩ s (bitmapMaxCells - 1) := by
        rw [hplaced.overlaps_iff (by decide)]
        simp only [cellSize, bitmapMaxCells] at *
        omega
      have hfree := (hexact haddress).free _ (by decide) hover
      have hused := (hexact haddress).used _ (by decide) hover
      rw [used_markCells hwithin] at hused
      rcases hused with hused | hmarked
      · exact hfree hused
      · omega
    · intro hcount haddress
      have hends : size.toNat ≤ 2 ^ 44 - 4096 ∨
          i + blockCells size.toNat % 2 ^ 32 = bitmapMaxCells := by
        rcases hcount with hsmall | hall
        · exact .inl hsmall
        · exact .inr ((hall i hfirst).resolve_left haddress)
      refine ⟨fun k hk hover => ?_, fun k hk hover => ?_, fun k hk hover => ?_⟩
      · rw [overlaps_iff_marked hfits hends hk] at hover
        exact not_used_iff.2 (hfits.run k hover.1 hover.2)
      · rw [overlaps_iff_marked hfits hends hk] at hover
        rw [used_markCells hfits.within]
        exact .inr hover
      · rw [overlaps_iff_marked hfits hends hk] at hover
        rw [used_markCells hfits.within]
        exact or_iff_left hover
  · rw [toNat_cellsNeeded_eq] at hnone
    refine iff_of_true ?_ (.inr fun i hfirst => absurd hfirst.fits (hnone i))
    rw [TissueExact, hres]
    exact fun hne => absurd rfl hne

/-! ## Runs -/

/-- The allocator, and the blocks that its clients hold. -/
structure Clients where
  mem : BioMem
  blocks : List Block

/-- A call of a client. -/
inductive ClientOp where
  | cell (stack : Globule)
  | tissue (sizeInBytes : BitVec 64)
  | release (kind : Release) (block : Block)

/-- The blocks with the one that a call returned, unless it returned the null pointer. -/
def holdNew (blocks : List Block) (b : Block) : List Block := if b.address = 0 then blocks else b :: blocks

/-- A call, and what the clients hold after it. -/
def ClientOp.apply (s : Clients) : ClientOp → Clients
  | .cell stack =>
    let (p, mem) := bioAllocateCell stack s.mem
    ⟨mem, holdNew s.blocks ⟨p, cellSize⟩⟩
  | .tissue size =>
    let (p, mem) := bioAllocateNeuralTissue size s.mem
    ⟨mem, holdNew s.blocks ⟨p, size.toNat⟩⟩
  | .release kind b => ⟨kind.run b s.mem, s.blocks.erase b⟩

/-- Clients release only blocks that they hold. -/
def ClientStep (s : Clients) (op : ClientOp) (t : Clients) : Prop :=
  (∀ kind b, op = .release kind b → b ∈ s.blocks) ∧ t = op.apply s

/-- The cell that `bio_allocate_cell` returns is free, and marked after the call. -/
theorem owned_cell {blocks : List Block} (stack : Globule) (h : Owned s blocks) :
    Owned (bioAllocateCell stack s).2 (holdNew blocks ⟨(bioAllocateCell stack s).1, cellSize⟩) := by
  obtain ⟨⟨j, hj, htakes⟩ | hnone, hbase, -, -⟩ := bioAllocateCell_cases stack s
  · have hplaced : Placed s.memBase ⟨(bioAllocateCell stack s).1, cellSize⟩ j := by
      refine ⟨htakes.address, hj, Nat.succ_pos 4095, ?_⟩
      simp only [cellSize, bitmapMaxCells] at *
      omega
    rw [holdNew, if_neg htakes.ne_zero]
    refine h.take hplaced hbase (fun k hk => ?_) fun k hk hover => ?_
    · rw [BioMem.Used, htakes.testBit, hk, Bool.true_or]
    · -- the block is one cell
      have hkj : k = j := by
        rw [hplaced.overlaps_iff hk] at hover
        simp only [cellSize] at hover
        omega
      subst hkj
      refine ⟨Bool.eq_false_iff.1 htakes.free, ?_⟩
      rw [BioMem.Used, htakes.testBit, decide_eq_true ⟨Nat.zero_le k, Nat.le_refl k⟩, Bool.or_true]
  · rw [holdNew, if_pos hnone.address]
    refine ⟨?_, ?_, h.apart⟩
    · rw [hbase]
      exact h.placed
    · intro b hb k hk hover
      rw [overlaps_congr hbase] at hover
      exact hnone.testBit k (h.used b hb k hk hover)

/-- A call that gives out a block with its cells keeps the blocks apart. -/
theorem owned_tissue {blocks : List Block} (h : Owned s blocks) (hexact : TissueExact s size) :
    Owned (bioAllocateNeuralTissue size s).2
      (holdNew blocks ⟨(bioAllocateNeuralTissue size s).1, size.toNat⟩) := by
  rcases bioAllocateNeuralTissue_cases size s with ⟨i, hfirst, hres⟩ | ⟨-, hres⟩
  · rw [toNat_cellsNeeded_eq] at hfirst hres
    have hfits := hfirst.fits
    rw [TissueExact, hres] at hexact
    rw [hres, holdNew]
    dsimp only at hexact ⊢
    have hmono : ∀ k, s.Used k → BioMem.Used
        { s with cellBitmap := markCells s.cellBitmap i (blockCells size.toNat % 2 ^ 32) } k :=
      fun k hk => (used_markCells hfits.within).2 (.inl hk)
    split
    · exact ⟨h.placed, fun b hb k hk hover => hmono k (h.used b hb k hk hover), h.apart⟩
    · rename_i hne
      exact h.take (placed_of_fits hfits) rfl hmono fun k hk hover =>
        ⟨(hexact hne).free k hk hover, (hexact hne).used k hk hover⟩
  · rw [hres, holdNew, if_pos rfl]
    exact h

theorem ClientStep.owned {s t : Clients} {op : ClientOp} (h : ClientStep s op t)
    (hs : Owned s.mem s.blocks) (hexact : ∀ size, op = .tissue size → TissueExact s.mem size) :
    Owned t.mem t.blocks := by
  obtain ⟨hheld, rfl⟩ := h
  cases op with
  | cell stack => exact owned_cell stack hs
  | tissue size => exact owned_tissue hs (hexact size rfl)
  | release kind b =>
    have hb := hheld kind b rfl
    obtain ⟨i, hplaced⟩ := hs.placed b hb
    have hreleases := releases_run hplaced kind
    exact (hs.perm (List.perm_cons_erase hb)).release hreleases.memBase hreleases.used

/-- The blocks that clients hold do not overlap. -/
def Clients.Apart (s : Clients) : Prop := s.blocks.Pairwise fun b b' => Disjoint b.span b'.span

/-- A call gives out a block with just the cells that it reaches into if and only if the count of cells
fits; and in a run in which it fits for every call the blocks that clients hold never overlap. -/
theorem clients_apart (s : BioMem) (size : BitVec 64) (mem : BioMem) {tr : List (ClientOp × Clients)}
    (htr : Exec ClientStep ⟨mem, []⟩ tr) :
    (TissueExact s size ↔ CountFits s size) ∧
      (AllSteps (fun s op => ∀ size, op = .tissue size → CountFits s.mem size) ⟨mem, []⟩ tr →
        AllStates Clients.Apart ⟨mem, []⟩ tr) := by
  refine ⟨tissueExact_iff s size, fun hfits => ?_⟩
  -- the invariant of the run is `Owned`
  have howned := htr.allStates (P := fun s => Owned s.mem s.blocks) (owned_nil mem) hfits
    fun s op t hs hcount hst => hst.owned hs fun size hop => (tissueExact_iff _ _).2 (hcount size hop)
  exact howned.imp fun s hs => hs.apart

/-- The allocator after `bio_mem_init`, with the bus at rest. -/
def freshMem (base : Address) (total : BitVec 64) : BioMem :=
  bioMemInit base total ⟨0, 0, .zero, fun _ => 0, Bus.boot⟩

theorem free_freshMem (base : Address) (total : BitVec 64) (i : Nat) : (freshMem base total).free i = true := by
  rw [BioMem.free, freshMem, bioMemInit, CellBitmap.testBit_zero]
  rfl

/-- A block of two cells and one of one cell, which begins where the first one ends. -/
theorem clients_apart_two :
    let s₀ : Clients := ⟨freshMem 0x100000 0x19000000, []⟩
    let s₁ := ClientOp.apply s₀ (.tissue 8192)
    AllStates Clients.Apart s₀
      [(ClientOp.tissue 8192, s₁), (ClientOp.cell .zero, ClientOp.apply s₁ (.cell .zero))] := by
  intro s₀ s₁
  have hexec : Exec ClientStep s₀ [(.tissue 8192, s₁), (.cell .zero, ClientOp.apply s₁ (.cell .zero))] :=
    ⟨⟨nofun, rfl⟩, ⟨nofun, rfl⟩, trivial⟩
  refine (clients_apart s₀.mem 8192 (freshMem 0x100000 0x19000000) hexec).2 ⟨?_, ?_, trivial⟩
  · rintro size ⟨⟩
    exact .inl (by decide)
  · nofun

/-- The first cells of a fresh bitmap. -/
theorem firstFits_freshMem {base : Address} {total : BitVec 64} (hn : 0 < n) (hmax : n ≤ bitmapMaxCells) :
    FirstFits (freshMem base total).free bitmapMaxCells n 0 :=
  ⟨⟨hn, by omega, fun k _ _ => free_freshMem base total k⟩, fun j _ => Nat.zero_le j⟩

/-- A call that finds a run of free cells that is long enough. -/
theorem apply_tissue_of_first {s : Clients}
    (h : FirstFits s.mem.free bitmapMaxCells (cellsNeeded size).toNat i) :
    ClientOp.apply s (.tissue size) =
      ⟨{ s.mem with cellBitmap := markCells s.mem.cellBitmap i (cellsNeeded size).toNat },
        holdNew s.blocks ⟨cellAddress s.mem.memBase i, size.toNat⟩⟩ := by
  rw [ClientOp.apply, bioAllocateNeuralTissue_of_first h]

/-- A fresh allocator whose first cell was given out. -/
def oneCellMem (base : Address) (total : BitVec 64) : BioMem :=
  { freshMem base total with cellBitmap := markCells .zero 0 1 }

/-- Then the second cell is the first free one. -/
theorem firstFits_oneCellMem {base : Address} {total : BitVec 64} :
    FirstFits (oneCellMem base total).free bitmapMaxCells 1 1 := by
  have hfree : ∀ k, (oneCellMem base total).free k = true ↔ k ≠ 0 := by
    intro k
    rw [BioMem.free, oneCellMem, testBit_markCells (by decide), CellBitmap.testBit_zero]
    simp
  refine ⟨⟨by decide, by decide, fun k hk _ => (hfree k).2 (by omega)⟩, fun j hj => ?_⟩
  have := (hfree j).1 (hj.run j (Nat.le_refl j) (by omega))
  omega

/-- A block of `2 ^ 44 + 1` bytes gets one cell, and the next block is inside it. -/
theorem exists_not_apart :
    ¬ TissueExact (freshMem 0x100000 0x19000000) (2 ^ 44 + 1) ∧
      ∃ tr, Exec ClientStep ⟨freshMem 0x100000 0x19000000, []⟩ tr ∧
        ¬ AllStates Clients.Apart ⟨freshMem 0x100000 0x19000000, []⟩ tr := by
  constructor
  · rw [tissueExact_iff]
    rintro (hsmall | hend)
    · exact absurd hsmall (by decide)
    · rcases hend 0 (firstFits_freshMem (by decide) (by decide)) with hzero | hmax
      · exact absurd hzero (by decide)
      · exact absurd hmax (by decide)
  · have hfirst := @apply_tissue_of_first 0 (2 ^ 44 + 1) ⟨freshMem 0x100000 0x19000000, []⟩
      (firstFits_freshMem (by decide) (by decide))
    have hsecond := @apply_tissue_of_first 1 4096
      ⟨oneCellMem 0x100000 0x19000000, [⟨cellAddress 0x100000 0, 2 ^ 44 + 1⟩]⟩ firstFits_oneCellMem
    refine ⟨[(.tissue (2 ^ 44 + 1), _), (.tissue 4096, _)], ⟨⟨nofun, hfirst.symm⟩, ⟨nofun, hsecond.symm⟩,
      trivial⟩, fun hapart => ?_⟩
    have hlast : Clients.Apart _ := hapart.2 _ (List.mem_cons_of_mem _ List.mem_cons_self)
    -- the second block begins at the second cell, and the first one goes on there
    have hdisj := (List.pairwise_cons.1 hlast).1 ⟨cellAddress 0x100000 0, 2 ^ 44 + 1⟩ List.mem_cons_self
    have hinner : cellAddress 0x100000 1 ∈ span (cellAddress 0x100000 1) 4096 :=
      mem_span_self (by decide)
    have houter : cellAddress 0x100000 1 ∈ span (cellAddress 0x100000 0) (2 ^ 44 + 1) :=
      (mem_span_add (x := 0) (n := 2 ^ 44 + 1) (by decide)).2 ⟨by decide, by decide⟩
    exact Set.disjoint_left.1 hdisj hinner houter

end OperatingOrganism.Memory

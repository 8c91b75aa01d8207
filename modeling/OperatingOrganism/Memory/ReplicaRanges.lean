import OperatingOrganism.Memory.HedgedTable

/-!
# Do the replicas keep to the reserved cells?

`hedged_malloc` multiplies the size by the replica count as a `size_t`, and `bio_allocate_neural_tissue` keeps the
number of cells as a `uint32_t`. Where either number is truncated, fewer cells are marked than the replicas need, and
`hedged_replicate_data` writes over the cells of others. `replicas_reserved_iff` says exactly which calls of a run
give out replicas that are apart, do not wrap around and lie in the cells that were marked for them.
-/

set_option autoImplicit false

namespace OperatingOrganism.Memory

open OperatingOrganism.ByteMemory OperatingOrganism.Execution OperatingOrganism.FirstFit
open OperatingOrganism.UnitedBus

/-- The addresses of the cells that a call has marked. -/
def newlyMarked (s t : BioMem) : Set Address :=
  fun a => ∃ k < bitmapMaxCells, ¬ s.Used k ∧ t.Used k ∧ a ∈ s.cellSpan k

/-- A replica, as a block. -/
def HedgedAllocation.replica (alloc : HedgedAllocation) (r : Nat) : Block :=
  ⟨alloc.replicaAddr r, alloc.allocationSize.toNat⟩

/-- The replicas of an allocation end before the address space does, are apart, and lie in the cells that the call
from `s` to `t` has marked; and data of any length that is accepted is written to these cells only. -/
structure ReplicasReserved (alloc : HedgedAllocation) (s t : HedgedMem) : Prop where
  no_wrap : ∀ r < alloc.replicaCount.toNat,
    alloc.baseAddress.toNat + (r + 1) * alloc.allocationSize.toNat ≤ 2 ^ 64
  apart : ∀ r < alloc.replicaCount.toNat, ∀ r' < alloc.replicaCount.toNat, r ≠ r' →
    Disjoint (alloc.replica r).span (alloc.replica r').span
  inside : ∀ r < alloc.replicaCount.toNat, (alloc.replica r).span ⊆ newlyMarked s.bio t.bio
  writes : ∀ data a,
    (hedgedReplicateData alloc.baseAddress data t).2.bio.memory a ≠ t.bio.memory a →
      a ∈ newlyMarked s.bio t.bio

/-- A call of `hedged_malloc` that succeeds reserves the cells of its replicas. -/
def HedgedOp.Reserves (s : Ledger) : HedgedOp → Prop
  | .malloc size count =>
    (hedgedMalloc size count s.mem).1 ≠ 0 →
      ReplicasReserved ⟨(hedgedMalloc size count s.mem).1, size, count, 0, 0⟩ s.mem
        (hedgedMalloc size count s.mem).2
  | .replicate _ _ | .read _ _ _ | .free _ => True

/-- The size times the replica count is within the managed memory, and the block that is found for it ends before
the address space does. -/
structure ReplicasFit (size : BitVec 64) (count : BitVec 32) (s : BioMem) : Prop where
  managed : size.toNat * count.toNat ≤ managedBytes
  ends : ∀ i, FirstFits s.free bitmapMaxCells (blockCells (size.toNat * count.toNat)) i →
    (cellAddress s.memBase i).toNat + size.toNat * count.toNat ≤ 2 ^ 64

def HedgedOp.Fits (s : Ledger) : HedgedOp → Prop
  | .malloc size count => (hedgedMalloc size count s.mem).1 ≠ 0 → ReplicasFit size count s.mem.bio
  | .replicate _ _ | .read _ _ _ | .free _ => True

/-! ## One call -/

section Call

variable {s : HedgedMem} {size : BitVec 64} {count : BitVec 32} {i n : Nat}

/-- The entry of a block that begins at cell `i`. -/
def newEntry (s : BioMem) (size : BitVec 64) (count : BitVec 32) (i : Nat) : HedgedAllocation :=
  ⟨cellAddress s.memBase i, size, count, 0, 0⟩

/-- The memory and the table when the cells from `i` on are taken for a block. -/
def HedgedMem.take (s : HedgedMem) (size : BitVec 64) (count : BitVec 32) (i : Nat) : HedgedMem :=
  ⟨{ s.bio with cellBitmap := markCells s.bio.cellBitmap i (cellsNeeded (totalSize size count)).toNat },
    s.allocations ++ [newEntry s.bio size count i]⟩

/-- What a call that succeeds has found and marked. -/
theorem hedgedMalloc_of_ne_zero (h : (hedgedMalloc size count s).1 ≠ 0) :
    ∃ i, FirstFits s.bio.free bitmapMaxCells (cellsNeeded (totalSize size count)).toNat i ∧
      hedgedMalloc size count s = (cellAddress s.bio.memBase i, s.take size count i) := by
  rcases hedgedMalloc_cases size count s with hres | ⟨-, hres⟩ | ⟨hne, hres⟩
  · rw [hres] at h
    exact absurd rfl h
  · rw [hres] at h
    exact absurd rfl h
  · rcases bioAllocateNeuralTissue_cases (totalSize size count) s.bio with ⟨i, hfirst, htissue⟩ | ⟨-, htissue⟩
    · rw [htissue] at hres
      exact ⟨i, hfirst, hres⟩
    · rw [htissue] at hne
      exact absurd rfl hne

/-- The cells that were marked are those from the first one on. -/
theorem newlyMarked_eq {s : BioMem} (h : Fits s.free bitmapMaxCells n i) :
    newlyMarked s { s with cellBitmap := markCells s.cellBitmap i n } =
      span (cellAddress s.memBase i) (n * cellSize) := by
  have hwithin := h.within
  ext a
  have hspan : a ∈ span (cellAddress s.memBase i) (n * cellSize) ↔
      i * cellSize ≤ distance s.memBase a ∧ distance s.memBase a < i * cellSize + n * cellSize := by
    apply mem_span_add
    simp only [bitmapMaxCells, cellSize] at *
    omega
  rw [hspan]
  constructor
  · rintro ⟨k, hk, hfree, hused, ha⟩
    rw [used_markCells hwithin] at hused
    rw [mem_cellSpan hk] at ha
    have hrange := hused.resolve_left hfree
    simp only [cellSize] at *
    omega
  · intro ha
    have hrange : i ≤ distance s.memBase a / cellSize ∧ distance s.memBase a / cellSize < i + n := by
      simp only [cellSize] at *
      omega
    have hk : distance s.memBase a / cellSize < bitmapMaxCells := hrange.2.trans_le hwithin
    exact ⟨_, hk, not_used_iff.2 (h.run _ hrange.1 hrange.2), (used_markCells hwithin).2 (.inr hrange),
      (mem_cellSpan hk).2 rfl⟩

/-- The distance of a replica from the beginning of the block. -/
theorem replica_span {alloc : HedgedAllocation} (r : Nat) : (alloc.replica r).span =
    span (alloc.baseAddress + BitVec.ofNat 64 (r * alloc.allocationSize.toNat)) alloc.allocationSize.toNat := by
  rw [Block.span, HedgedAllocation.replica, replicaAddr_eq]

/-- Replicas within `2 ^ 64` bytes are apart. -/
theorem replicas_apart {alloc : HedgedAllocation}
    (hle : alloc.replicaCount.toNat * alloc.allocationSize.toNat ≤ 2 ^ 64) {r r' : Nat}
    (hr : r < alloc.replicaCount.toNat) (hr' : r' < alloc.replicaCount.toNat) (hne : r ≠ r') :
    Disjoint (alloc.replica r).span (alloc.replica r').span := by
  have hends : ∀ r < alloc.replicaCount.toNat,
      r * alloc.allocationSize.toNat + alloc.allocationSize.toNat ≤ 2 ^ 64 := by
    intro r hr
    rw [← Nat.succ_mul]
    exact (Nat.mul_le_mul_right _ hr).trans hle
  by_contra hshare
  rw [Set.not_disjoint_iff_nonempty_inter, replica_span, replica_span,
    inter_nonempty_iff (hends r hr) (hends r' hr'), ← Nat.succ_mul, ← Nat.succ_mul] at hshare
  obtain ⟨-, -, hlt, hlt'⟩ := hshare
  have hle := Nat.lt_of_mul_lt_mul_right hlt
  have hle' := Nat.lt_of_mul_lt_mul_right hlt'
  omega

/-- The cells that are counted for a total within the managed memory: nothing is truncated. -/
theorem toNat_cellsNeeded_total (h : size.toNat * count.toNat ≤ managedBytes) :
    (cellsNeeded (totalSize size count)).toNat = blockCells (size.toNat * count.toNat) := by
  have htotal : (totalSize size count).toNat = size.toNat * count.toNat := by
    rw [totalSize_eq, BitVec.toNat_ofNat, Nat.mod_eq_of_lt (h.trans_lt (by decide))]
  rw [← htotal]
  apply toNat_cellsNeeded_of_le
  rw [htotal]
  simp only [managedBytes, blockCells, bitmapMaxCells, cellSize] at *
  omega

theorem le_blockCells (total : Nat) : total ≤ blockCells total * cellSize := by
  simp only [blockCells, cellSize]
  omega

/-- A total that is a multiple of `2 ^ 64` finds no block. -/
theorem total_mod_pos (h : 0 < (cellsNeeded (totalSize size count)).toNat) :
    0 < size.toNat * count.toNat % 2 ^ 64 := by
  rw [toNat_cellsNeeded_eq, totalSize_eq, BitVec.toNat_ofNat] at h
  by_contra hzero
  rw [Nat.eq_zero_of_not_pos hzero] at h
  exact absurd h (by decide)

/-- Where the replicas keep to the cells, the last one shows that nothing was truncated. -/
theorem ReplicasReserved.fit (h : ReplicasReserved (newEntry s.bio size count i) s (s.take size count i))
    (hfirst : FirstFits s.bio.free bitmapMaxCells (cellsNeeded (totalSize size count)).toNat i) :
    ReplicasFit size count s.bio := by
  have hmod := total_mod_pos hfirst.fits.pos
  have htotal : 0 < size.toNat * count.toNat := hmod.trans_le (Nat.mod_le _ _)
  have hsize : 0 < size.toNat := Nat.pos_of_mul_pos_right htotal
  obtain ⟨r, hr⟩ : ∃ r, count.toNat = r + 1 :=
    Nat.exists_eq_succ_of_ne_zero (Nat.pos_of_mul_pos_left htotal).ne'
  have hlast : r < count.toNat := hr ▸ Nat.lt_succ_self r
  have hproduct : (r + 1) * size.toNat = size.toNat * count.toNat := by rw [hr, Nat.mul_comm]
  have hwrap : (cellAddress s.bio.memBase i).toNat + (r + 1) * size.toNat ≤ 2 ^ 64 := h.no_wrap r hlast
  rw [hproduct] at hwrap
  -- the last replica ends within the cells
  have hinside := h.inside r hlast
  have hmarked : newlyMarked s.bio (s.take size count i).bio = _ := newlyMarked_eq hfirst.fits
  have hbound : r * size.toNat + size.toNat ≤ 2 ^ 64 := by
    rw [← Nat.succ_mul, hproduct]
    omega
  rw [replica_span, hmarked] at hinside
  have hends := (span_subset_iff hbound hsize).1 hinside
  rw [← Nat.succ_mul, hproduct] at hends
  have hmanaged : size.toNat * count.toNat ≤ managedBytes :=
    hends.trans (Nat.mul_le_mul_right _ ((Nat.le_add_left _ i).trans hfirst.fits.within))
  refine ⟨hmanaged, fun i' hi' => ?_⟩
  rw [toNat_cellsNeeded_total hmanaged] at hfirst
  obtain rfl := hfirst.unique hi'
  exact hwrap

/-- Where nothing is truncated, data is written to the new cells only: no older entry has the address. -/
theorem ReplicasFit.writes (h : ReplicasFit size count s.bio)
    (hfirst : FirstFits s.bio.free bitmapMaxCells (cellsNeeded (totalSize size count)).toNat i)
    (hfresh : ∀ alloc ∈ s.allocations, alloc.baseAddress ≠ cellAddress s.bio.memBase i)
    {data : Option (List (BitVec 8))} {a : Address}
    (hwritten : (hedgedReplicateData (cellAddress s.bio.memBase i) data (s.take size count i)).2.bio.memory a ≠
      (s.take size count i).bio.memory a) :
    a ∈ newlyMarked s.bio (s.take size count i).bio := by
  have hmarked : newlyMarked s.bio (s.take size count i).bio = _ := newlyMarked_eq hfirst.fits
  have hends := le_blockCells (size.toNat * count.toNat)
  have hle : count.toNat * size.toNat ≤ 2 ^ 64 := by
    rw [Nat.mul_comm]
    exact h.managed.trans (by decide)
  rw [hmarked, toNat_cellsNeeded_total h.managed]
  rcases hedgedReplicateData_cases (cellAddress s.bio.memBase i) data (s.take size count i) with
    hres | ⟨found, bytes, hfound, hptr, rfl, hlength, hres⟩
  · rw [hres] at hwritten
    exact absurd rfl hwritten
  · -- the entry that is found is the new one
    have hnew : found = newEntry s.bio size count i := by
      rcases List.mem_append.1 hfound with hold | hnew
      · exact absurd hptr (hfresh found hold)
      · exact List.mem_singleton.1 hnew
    subst hnew
    rw [hres] at hwritten
    dsimp only at hwritten
    have hle' : (newEntry s.bio size count i).replicaCount.toNat *
        (newEntry s.bio size count i).allocationSize.toNat ≤ 2 ^ 64 := hle
    rw [writeReplicas_apply hlength hle'] at hwritten
    by_contra hout
    rw [mem_span] at hout
    refine hwritten (if_neg ?_)
    change ¬ distance (cellAddress s.bio.memBase i) a < count.toNat * size.toNat
    rw [Nat.mul_comm]
    omega

/-- Where nothing is truncated, the replicas keep to the cells. -/
theorem ReplicasFit.reserved (h : ReplicasFit size count s.bio)
    (hfirst : FirstFits s.bio.free bitmapMaxCells (cellsNeeded (totalSize size count)).toNat i)
    (hfresh : ∀ alloc ∈ s.allocations, alloc.baseAddress ≠ cellAddress s.bio.memBase i) :
    ReplicasReserved (newEntry s.bio size count i) s (s.take size count i) := by
  have hmarked : newlyMarked s.bio (s.take size count i).bio = _ := newlyMarked_eq hfirst.fits
  have hcells := toNat_cellsNeeded_total h.managed
  have hends := le_blockCells (size.toNat * count.toNat)
  have hmanaged : size.toNat * count.toNat ≤ 2 ^ 64 := h.managed.trans (by decide)
  -- where a replica ends
  have hreplica : ∀ r < count.toNat, (r + 1) * size.toNat ≤ size.toNat * count.toNat := by
    intro r hr
    rw [Nat.mul_comm]
    exact Nat.mul_le_mul_left _ hr
  have hle : count.toNat * size.toNat ≤ 2 ^ 64 := by rwa [Nat.mul_comm]
  refine ⟨fun r hr => ?_, fun r hr r' hr' hne => replicas_apart hle hr hr' hne, fun r hr => ?_,
    fun data a => h.writes hfirst hfresh⟩
  · change (cellAddress s.bio.memBase i).toNat + (r + 1) * size.toNat ≤ 2 ^ 64
    rw [hcells] at hfirst
    exact (Nat.add_le_add_left (hreplica r hr) _).trans (h.ends i hfirst)
  · have hr' := hreplica r hr
    rw [Nat.succ_mul] at hr'
    rw [hmarked, hcells, replica_span]
    intro a ha
    change a ∈ span (cellAddress s.bio.memBase i + BitVec.ofNat 64 (r * size.toNat)) size.toNat at ha
    rw [mem_span_add (hr'.trans hmanaged)] at ha
    rw [mem_span]
    omega

end Call

/-! ## Runs -/

section Runs

variable {s : Ledger}

theorem reserves_iff (h : s.Sound) (op : HedgedOp) : op.Reserves s ↔ op.Fits s := by
  cases op with
  | malloc size count =>
    rw [HedgedOp.Reserves, HedgedOp.Fits]
    refine imp_congr_right fun hne => ?_
    obtain ⟨i, hfirst, hres⟩ := hedgedMalloc_of_ne_zero hne
    -- the address is that of no live allocation
    have howned := owned_reserve h.owned (totalSize size count)
    rw [hres] at hne ⊢
    rw [bioAllocateNeuralTissue_of_first hfirst, holdNew, if_neg hne] at howned
    have hfresh : ∀ alloc ∈ s.mem.allocations, alloc.baseAddress ≠ cellAddress s.mem.bio.memBase i :=
      fun alloc ha => howned.address_ne (List.mem_map_of_mem ha)
    exact ⟨fun hreserved => hreserved.fit hfirst, fun hfit => hfit.reserved hfirst hfresh⟩
  | replicate p data => exact Iff.rfl
  | read p outIsNull size => exact Iff.rfl
  | free p => exact Iff.rfl

/-- In every run from an empty table, each allocation reserves the cells of its replicas if and only if each size
times its replica count is within the managed memory, and no block runs past the end of the address space. -/
theorem replicas_reserved_iff {mem : HedgedMem} (hempty : mem.allocations = []) {tr : List (HedgedOp × Ledger)}
    (h : Exec LedgerStep (Ledger.start mem) tr) :
    AllSteps (fun s op => op.Reserves s) (Ledger.start mem) tr ↔
      AllSteps (fun s op => op.Fits s) (Ledger.start mem) tr :=
  h.allSteps_congr (I := Ledger.Sound) (sound_start hempty) (fun _ _ _ hs _ hst => hst.sound hs)
    fun _ op hs => reserves_iff hs op

/-- An allocation of two replicas in a fresh memory. -/
theorem replicas_reserved_freshMem :
    AllSteps (fun s op => HedgedOp.Reserves s op) (.start ⟨freshMem 0x100000 0x19000000, []⟩)
      (driven HedgedOp.record (.start ⟨freshMem 0x100000 0x19000000, []⟩) [.malloc 4096 2]) := by
  refine (replicas_reserved_iff rfl (exec_recorded _ _)).2 ⟨fun _ => ⟨by decide, fun i hi => ?_⟩, trivial⟩
  obtain rfl : i = 0 := hi.unique (firstFits_freshMem (by decide) (by decide))
  decide

/-- Two replicas of `2 ^ 43 + 2048` bytes get one cell. -/
theorem exists_replicas_not_reserved :
    (hedgedMalloc (2 ^ 43 + 2048) 2 ⟨freshMem 0x100000 0x19000000, []⟩).1 = 0x100000 ∧
      ¬ AllSteps (fun s op => HedgedOp.Reserves s op) (.start ⟨freshMem 0x100000 0x19000000, []⟩)
        (driven HedgedOp.record (.start ⟨freshMem 0x100000 0x19000000, []⟩) [.malloc (2 ^ 43 + 2048) 2]) := by
  have hfirst := @bioAllocateNeuralTissue_of_first (freshMem 0x100000 0x19000000) (totalSize (2 ^ 43 + 2048) 2) 0
    (firstFits_freshMem (by decide) (by decide))
  have haddress : (hedgedMalloc (2 ^ 43 + 2048) 2 ⟨freshMem 0x100000 0x19000000, []⟩).1 = 0x100000 := by
    rw [hedgedMalloc, if_neg (by decide), if_neg (by decide), hfirst]
    rfl
  refine ⟨haddress, fun hreserved => ?_⟩
  have hfits := ((reserves_iff (sound_start rfl) _).1 hreserved.1)
    (show (hedgedMalloc (2 ^ 43 + 2048) 2 ⟨freshMem 0x100000 0x19000000, []⟩).1 ≠ 0 by rw [haddress]; decide)
  exact absurd hfits.managed (by decide)

end Runs

end OperatingOrganism.Memory

import OperatingOrganism.Library.KeyedTable
import OperatingOrganism.Memory.HedgedMemory

/-!
# The table of hedged allocations

What a client can know of the table of `hedged_malloc.c`: which allocations it was given and has not freed, and the
latency of each successful read since (`Ledger`). The cells that `bio_allocate_neural_tissue` marks for an allocation
stay marked until it is freed, also where the size was truncated on the way, so the address of a live allocation is
never given out again. `table_intact` puts the table together with the ledger in every run.
-/

set_option autoImplicit false

namespace OperatingOrganism.Memory

open OperatingOrganism.ByteMemory OperatingOrganism.Execution OperatingOrganism.FirstFit
open OperatingOrganism.KeyedTable OperatingOrganism.UnitedBus

/-! ## Reserved cells -/

/-- The number of cells that are marked for an allocation. -/
def HedgedAllocation.cells (alloc : HedgedAllocation) : Nat :=
  (cellsNeeded (totalSize alloc.allocationSize alloc.replicaCount)).toNat

/-- The cells that are marked for an allocation, as a block. -/
def HedgedAllocation.reserved (alloc : HedgedAllocation) : Block := ⟨alloc.baseAddress, alloc.cells * cellSize⟩

section Reserved

variable {s : BioMem} {blocks : List Block} {size size' : BitVec 64}

/-- A block of whole cells needs as many cells. -/
theorem cellsNeeded_cells (size : BitVec 64) :
    cellsNeeded (.ofNat 64 ((cellsNeeded size).toNat * cellSize)) = cellsNeeded size := by
  have hcells := (cellsNeeded size).isLt
  apply BitVec.eq_of_toNat_eq
  rw [toNat_cellsNeeded, BitVec.toNat_ofNat, cellSize]
  omega

/-- The allocator and the purge look at a size for the number of its cells only. -/
theorem tissue_congr (h : cellsNeeded size = cellsNeeded size') (s : BioMem) :
    bioAllocateNeuralTissue size s = bioAllocateNeuralTissue size' s := by
  rw [bioAllocateNeuralTissue, bioAllocateNeuralTissue, h]

theorem purge_congr (h : cellsNeeded size = cellsNeeded size') (p : Address) (s : BioMem) :
    bioPurgeInfectedTissue p size s = bioPurgeInfectedTissue p size' s := by
  rw [bioPurgeInfectedTissue, bioPurgeInfectedTissue, h]

/-- A call marks the cells that it has counted, whether the block needs more or not. -/
theorem owned_reserve (h : Owned s blocks) (size : BitVec 64) :
    Owned (bioAllocateNeuralTissue size s).2
      (holdNew blocks ⟨(bioAllocateNeuralTissue size s).1, (cellsNeeded size).toNat * cellSize⟩) := by
  have hcells := (cellsNeeded size).isLt
  have hsize : (BitVec.ofNat 64 ((cellsNeeded size).toNat * cellSize)).toNat =
      (cellsNeeded size).toNat * cellSize := by
    rw [BitVec.toNat_ofNat, cellSize]
    omega
  have hexact : TissueExact s (.ofNat 64 ((cellsNeeded size).toNat * cellSize)) := by
    apply (tissueExact_iff _ _).2
    left
    rw [hsize, cellSize]
    omega
  have howned := owned_tissue h hexact
  rwa [tissue_congr (cellsNeeded_cells size), hsize] at howned

/-- Freeing an allocation frees the cells that were marked for it. -/
theorem release_reserved (alloc : HedgedAllocation) (s : BioMem) :
    Release.apoptosis.run alloc.block s = Release.apoptosis.run alloc.reserved s := by
  have hblock : cellsNeeded (.ofNat 64 alloc.block.size) = cellsNeeded (.ofNat 64 alloc.reserved.size) := by
    rw [HedgedAllocation.reserved, HedgedAllocation.cells, cellsNeeded_cells, totalSize_eq]
    rfl
  exact purge_congr hblock _ _

end Reserved

/-! ## The ledger -/

/-- An allocation that a client holds, with the latency of each read that succeeded. -/
structure LiveAllocation where
  size : BitVec 64
  replicaCount : BitVec 32
  latencies : List (BitVec 32)

/-- One more read; its latency is that of the fastest replica. -/
def LiveAllocation.read (a : LiveAllocation) : LiveAllocation :=
  { a with latencies := a.latencies ++ [(fastestReplica a.replicaCount.toNat).2] }

def LiveAllocation.totalLatency (a : LiveAllocation) : Nat := (a.latencies.map BitVec.toNat).sum

/-- The entry of the table that belongs to a live allocation. -/
def LiveAllocation.entry (a : LiveAllocation) (p : Address) : HedgedAllocation where
  baseAddress := p
  allocationSize := a.size
  replicaCount := a.replicaCount
  readLatencyTotalNs := .ofNat 64 a.totalLatency
  readCount := .ofNat 32 a.latencies.length

/-- The memory, and the live allocations by their addresses. -/
structure Ledger where
  mem : HedgedMem
  live : Address → Option LiveAllocation

/-- Nothing was allocated yet. -/
def Ledger.start (mem : HedgedMem) : Ledger := ⟨mem, fun _ => none⟩

/-- A call, and what the client learns from what it returns. -/
def HedgedOp.record (s : Ledger) : HedgedOp → Ledger
  | .malloc size count =>
    let (p, mem) := hedgedMalloc size count s.mem
    ⟨mem, if p = 0 then s.live else Function.update s.live p (some ⟨size, count, []⟩)⟩
  | .replicate ptr data => ⟨(hedgedReplicateData ptr data s.mem).2, s.live⟩
  | .read ptr outIsNull size =>
    let (bytes, mem) := hedgedRead ptr outIsNull size s.mem
    ⟨mem, if bytes.isSome then Function.update s.live ptr ((s.live ptr).map .read) else s.live⟩
  | .free ptr => ⟨hedgedFree ptr s.mem, Function.update s.live ptr none⟩

def LedgerStep (s : Ledger) (op : HedgedOp) (t : Ledger) : Prop := t = op.record s

/-- The entries that the table should have. -/
def entries (live : Address → Option LiveAllocation) (p : Address) : Option HedgedAllocation :=
  (live p).map (·.entry p)

/-- The table lists the live allocations, and the cells that were marked for them are apart. -/
structure Ledger.Sound (s : Ledger) : Prop where
  owned : Owned s.mem.bio (s.mem.allocations.map HedgedAllocation.reserved)
  lists : Lists HedgedAllocation.baseAddress s.mem.allocations (entries s.live)
  live_zero : s.live 0 = none

/-! ## Statistics -/

section Statistics

variable {a : LiveAllocation} {p : Address}

theorem entry_read : a.read.entry p = (a.entry p).countRead (fastestReplica a.replicaCount.toNat).2 := by
  have hcount : BitVec.ofNat 32 (a.latencies.length + 1) = BitVec.ofNat 32 a.latencies.length + 1 :=
    BitVec.ofNat_add ..
  have htotal : a.read.totalLatency = a.totalLatency + (fastestReplica a.replicaCount.toNat).2.toNat := by
    simp [LiveAllocation.read, LiveAllocation.totalLatency]
  rw [LiveAllocation.entry, htotal, BitVec.ofNat_add, BitVec.ofNat_toNat]
  simp [LiveAllocation.read, HedgedAllocation.countRead, LiveAllocation.entry, hcount]

theorem sum_toNat_le (latencies : List (BitVec 32)) :
    (latencies.map BitVec.toNat).sum ≤ latencies.length * 2 ^ 32 := by
  induction latencies with
  | nil => exact Nat.zero_le _
  | cons x latencies ih =>
    have hx := x.isLt
    rw [List.map_cons, List.sum_cons, List.length_cons]
    omega

/-- A sum of 32-bit numbers, fewer than `2 ^ 32` of them, fits in 64 bits. -/
theorem totalLatency_lt (h : a.latencies.length < 2 ^ 32) : a.totalLatency < 2 ^ 64 :=
  calc a.totalLatency ≤ a.latencies.length * 2 ^ 32 := sum_toNat_le a.latencies
    _ < 2 ^ 32 * 2 ^ 32 := Nat.mul_lt_mul_of_pos_right h (by decide)
    _ = 2 ^ 64 := by decide

end Statistics

/-! ## Runs -/

section Runs

variable {s t : Ledger} {live : Address → Option LiveAllocation} {a : LiveAllocation} {p : Address}

theorem entries_update (live : Address → Option LiveAllocation) (p : Address) (a : Option LiveAllocation) :
    entries (Function.update live p a) = Function.update (entries live) p (a.map (·.entry p)) := by
  funext q
  by_cases hq : q = p
  · subst hq
    rw [entries, Function.update_self, Function.update_self]
  · rw [entries, Function.update_of_ne hq, Function.update_of_ne hq, entries]

/-- An address has an entry if and only if its allocation is live. -/
theorem entries_eq_none_iff : entries live p = none ↔ live p = none := Option.map_eq_none_iff

theorem sound_start {mem : HedgedMem} (hempty : mem.allocations = []) : (Ledger.start mem).Sound := by
  refine ⟨?_, ?_, rfl⟩
  · change Owned mem.bio (mem.allocations.map _)
    rw [hempty]
    exact owned_nil _
  · change Lists _ mem.allocations _
    rw [hempty]
    exact .nil

theorem Ledger.Sound.malloc (h : s.Sound) (size : BitVec 64) (count : BitVec 32) :
    (HedgedOp.record s (.malloc size count)).Sound := by
  have howned := owned_reserve h.owned (totalSize size count)
  rw [HedgedOp.record]
  rcases hedgedMalloc_cases size count s.mem with hres | ⟨hzero, hres⟩ | ⟨hne, hres⟩
  · rw [hres]
    exact h
  · -- no block was found, or one at address 0, whose cells stay marked
    rw [holdNew, if_pos hzero] at howned
    rw [hres]
    exact ⟨howned, h.lists, h.live_zero⟩
  · rw [holdNew, if_neg hne] at howned
    rw [hres]
    dsimp only
    rw [if_neg hne]
    generalize (bioAllocateNeuralTissue (totalSize size count) s.mem.bio).1 = p at *
    refine ⟨?_, ?_, ?_⟩
    · rw [List.map_append]
      exact howned.perm (List.perm_append_singleton _ _).symm
    · -- the address is that of no live allocation
      have hfresh : entries s.live p = none := by
        rw [h.lists.eq_none_iff]
        intro alloc ha
        exact howned.address_ne (List.mem_map_of_mem ha)
      change Lists _ _ (entries (Function.update s.live p _))
      rw [entries_update]
      exact h.lists.append hfresh
    · change Function.update s.live p _ 0 = none
      rw [Function.update_of_ne (Ne.symm hne), h.live_zero]

theorem Ledger.Sound.replicate (h : s.Sound) (p : Address) (data : Option (List (BitVec 8))) :
    (HedgedOp.record s (.replicate p data)).Sound := by
  rw [HedgedOp.record]
  rcases hedgedReplicateData_cases p data s.mem with hres | ⟨alloc, bytes, -, -, -, -, hres⟩
  · rw [hres]
    exact h
  · rw [hres]
    exact ⟨⟨h.owned.placed, h.owned.used, h.owned.apart⟩, h.lists, h.live_zero⟩

/-- The live allocation of an entry. -/
theorem Ledger.Sound.live_of_mem (h : s.Sound) {alloc : HedgedAllocation} (ha : alloc ∈ s.mem.allocations) :
    ∃ a, s.live alloc.baseAddress = some a ∧ a.entry alloc.baseAddress = alloc :=
  Option.map_eq_some_iff.1 (h.lists.content_of_mem ha)

theorem Ledger.Sound.read (h : s.Sound) (p : Address) (outIsNull : Bool) (size : BitVec 64) :
    (HedgedOp.record s (.read p outIsNull size)).Sound := by
  rw [HedgedOp.record]
  rcases hedgedRead_cases p outIsNull size s.mem with hres | ⟨alloc, i, halloc, rfl, -, hres⟩
  · rw [hres]
    exact h
  · obtain ⟨a, hlive, hentry⟩ := h.live_of_mem (List.mem_of_getElem? halloc)
    have hcounted : a.read.entry alloc.baseAddress =
        alloc.countRead (fastestReplica alloc.replicaCount.toNat).2 := by
      rw [entry_read, hentry, ← hentry]
      rfl
    rw [hres]
    dsimp only
    rw [Option.isSome_some, if_pos rfl, hlive, Option.map_some]
    refine ⟨?_, ?_, ?_⟩
    · rw [map_set_of_eq halloc]
      · exact h.owned
      · rfl
    · change Lists _ _ (entries (Function.update s.live _ _))
      rw [entries_update, Option.map_some, hcounted]
      exact h.lists.set halloc rfl
    · have hne : (0 : Address) ≠ alloc.baseAddress := by
        intro heq
        rw [← heq, h.live_zero] at hlive
        cases hlive
      change Function.update s.live _ _ 0 = none
      rw [Function.update_of_ne hne, h.live_zero]

theorem Ledger.Sound.free (h : s.Sound) (p : Address) : (HedgedOp.record s (.free p)).Sound := by
  rw [HedgedOp.record]
  rcases hedgedFree_cases p s.mem with ⟨hunknown, hres⟩ | ⟨alloc, i, halloc, rfl, hres⟩
  · -- nothing was live at the address
    have hnone : s.live p = none := by
      rcases hunknown with rfl | hunknown
      · exact h.live_zero
      · exact entries_eq_none_iff.1 (h.lists.eq_none_iff.2 hunknown)
    rw [hres, Function.update_eq_self_iff.2 hnone.symm]
    exact h
  · have hperm := swapRemove_perm halloc
    have howned := h.owned.perm (hperm.map HedgedAllocation.reserved)
    obtain ⟨j, hplaced⟩ := howned.placed alloc.reserved List.mem_cons_self
    have hreleases := releases_run hplaced .apoptosis
    rw [hres, release_reserved]
    refine ⟨howned.release hreleases.memBase hreleases.used, ?_, ?_⟩
    · change Lists _ _ (entries (Function.update s.live _ _))
      rw [entries_update]
      exact (h.lists.perm hperm).tail
    · change Function.update s.live _ none 0 = none
      by_cases hzero : (0 : Address) = alloc.baseAddress
      · rw [hzero, Function.update_self]
      · rw [Function.update_of_ne hzero, h.live_zero]

theorem exec_recorded (s : Ledger) (ops : List HedgedOp) : Exec LedgerStep s (driven HedgedOp.record s ops) :=
  @exec_driven _ _ LedgerStep HedgedOp.record (fun _ _ => rfl) s ops

theorem LedgerStep.sound {op : HedgedOp} (h : LedgerStep s op t) (hs : s.Sound) : t.Sound := by
  obtain rfl : t = _ := h
  cases op with
  | malloc size count => exact hs.malloc size count
  | replicate p data => exact hs.replicate p data
  | read p outIsNull size => exact hs.read p outIsNull size
  | free p => exact hs.free p

/-! ## What the client can rely on -/

/-- The addresses in the table are distinct, and its entries are the live allocations with their own size, replica
count and statistics: the number of the reads that succeeded, as long as it is below `2 ^ 32`, and the floor of
their mean latency, which is 0 where there was none. Freeing removes the entry of the pointer and no other one, and
does nothing without one. -/
structure Ledger.Intact (s : Ledger) : Prop where
  distinct : (s.mem.allocations.map HedgedAllocation.baseAddress).Nodup
  mem_iff : ∀ alloc, alloc ∈ s.mem.allocations ↔ ∃ p a, s.live p = some a ∧ alloc = a.entry p
  stats : ∀ p a, s.live p = some a → a.latencies.length < 2 ^ 32 →
    ∃ averageLatency readCount, hedgedGetStats p s.mem = some (averageLatency, readCount) ∧
      readCount.toNat = a.latencies.length ∧ averageLatency.toNat = a.totalLatency / a.latencies.length
  freed : ∀ p, (hedgedFree p s.mem).allocations.Perm
    (s.mem.allocations.filter fun alloc => alloc.baseAddress ≠ p)
  unknown : ∀ p, s.live p = none → hedgedFree p s.mem = s.mem

/-- The statistics of a live allocation. -/
theorem Ledger.Sound.stats (h : s.Sound) (hlive : s.live p = some a) (hreads : a.latencies.length < 2 ^ 32) :
    ∃ averageLatency readCount, hedgedGetStats p s.mem = some (averageLatency, readCount) ∧
      readCount.toNat = a.latencies.length ∧ averageLatency.toNat = a.totalLatency / a.latencies.length := by
  have hne : p ≠ 0 := by
    rintro rfl
    rw [h.live_zero] at hlive
    cases hlive
  have hfind : ((s.mem.find p).bind fun i => s.mem.allocations[i]?) = some (a.entry p) := by
    rw [HedgedMem.find, h.lists.getElem?_findIdx?, entries, hlive, Option.map_some]
  have hcount : (a.entry p).readCount.toNat = a.latencies.length := by
    rw [LiveAllocation.entry, BitVec.toNat_ofNat, Nat.mod_eq_of_lt hreads]
  have htotal : (a.entry p).readLatencyTotalNs.toNat = a.totalLatency := by
    rw [LiveAllocation.entry, BitVec.toNat_ofNat, Nat.mod_eq_of_lt (totalLatency_lt hreads)]
  rw [hedgedGetStats, if_neg hne, hfind]
  dsimp only
  by_cases hpos : 0 < (a.entry p).readCount
  · rw [if_pos hpos]
    refine ⟨_, _, rfl, hcount, ?_⟩
    rw [BitVec.toNat_udiv, BitVec.toNat_setWidth, hcount, htotal, Nat.mod_eq_of_lt (hreads.trans (by decide))]
  · -- no read yet: the average is 0
    rw [BitVec.lt_def, hcount] at hpos
    have hnone : a.latencies.length = 0 := Nat.eq_zero_of_not_pos hpos
    rw [if_neg (by rwa [BitVec.lt_def, hcount])]
    exact ⟨_, _, rfl, hcount, by rw [hnone, Nat.div_zero]; rfl⟩

theorem Ledger.Sound.freed (h : s.Sound) (p : Address) : (hedgedFree p s.mem).allocations.Perm
    (s.mem.allocations.filter fun alloc => alloc.baseAddress ≠ p) := by
  rcases hedgedFree_cases p s.mem with ⟨hunknown, hres⟩ | ⟨alloc, i, halloc, rfl, hres⟩
  · have hother : ∀ alloc ∈ s.mem.allocations, alloc.baseAddress ≠ p := by
      rcases hunknown with rfl | hunknown
      · exact h.lists.eq_none_iff.1 (entries_eq_none_iff.2 h.live_zero)
      · exact hunknown
    rw [hres, List.filter_eq_self.2 fun alloc ha => decide_eq_true (hother alloc ha)]
  · have hperm := swapRemove_perm halloc
    rw [hres]
    exact (h.lists.perm hperm).perm_filter.trans (hperm.symm.filter _)

theorem Ledger.Sound.unknown (h : s.Sound) (hnone : s.live p = none) : hedgedFree p s.mem = s.mem := by
  rcases hedgedFree_cases p s.mem with ⟨-, hres⟩ | ⟨alloc, i, halloc, rfl, -⟩
  · exact hres
  · have hmem := List.mem_of_getElem? halloc
    exact absurd rfl (h.lists.eq_none_iff.1 (entries_eq_none_iff.2 hnone) alloc hmem)

theorem Ledger.Sound.intact (h : s.Sound) : s.Intact where
  distinct := h.lists.nodup
  mem_iff alloc := by
    constructor
    · intro ha
      obtain ⟨a, hlive, hentry⟩ := h.live_of_mem ha
      exact ⟨_, a, hlive, hentry.symm⟩
    · rintro ⟨p, a, hlive, rfl⟩
      exact ((h.lists.eq_some_iff p _).1 (Option.map_eq_some_iff.2 ⟨a, hlive, rfl⟩)).1
  stats _ _ hlive hreads := h.stats hlive hreads
  freed := h.freed
  unknown _ hnone := h.unknown hnone

/-- In every run from an empty table, the table is intact in every state. -/
theorem table_intact {mem : HedgedMem} (hempty : mem.allocations = []) {tr : List (HedgedOp × Ledger)}
    (h : Exec LedgerStep (Ledger.start mem) tr) : AllStates Ledger.Intact (Ledger.start mem) tr := by
  have hsound : AllStates Ledger.Sound (Ledger.start mem) tr :=
    h.invariant (sound_start hempty) fun s op t hs hst => hst.sound hs
  exact hsound.imp fun s hs => hs.intact

/-- Two allocations, a read of the first one, and it is freed. -/
theorem table_intact_two_allocations :
    AllStates Ledger.Intact (.start ⟨freshMem 0x100000 0x19000000, []⟩)
      (driven HedgedOp.record (.start ⟨freshMem 0x100000 0x19000000, []⟩)
        [.malloc 4 2, .malloc 64 4, .read 0x100000 false 4, .free 0x100000]) :=
  table_intact rfl (exec_recorded _ _)

end Runs

end OperatingOrganism.Memory

import OperatingOrganism.Memory.HedgedMalloc

/-!
# What a hedged read returns

Every replica of an allocation holds, at each position, the byte of the last data that was replicated to the
allocation and reaches that far (`Consistent`). The table has one entry for each block, the blocks are apart,
and what is written to a block, or zeroed when it is freed, is inside its cells. So a read returns the data
that was replicated last, with the rest of longer data that was replicated before (`hedgedRead_last`).
-/

set_option autoImplicit false

namespace OperatingOrganism.Memory

open OperatingOrganism.ByteMemory OperatingOrganism.Execution OperatingOrganism.FirstFit
open OperatingOrganism.UnitedBus

/-! ## Data over data -/

section Overwrite

variable {β : Type}

/-- New data over old data. -/
def overwrite (old new : List β) : List β := new ++ old.drop new.length

/-- The byte at position `k` of the last data that reaches that far. -/
def lastByte (history : List (List β)) (k : Nat) : Option β :=
  history.foldl (fun old data => data[k]?.or old) none

theorem lastByte_append (history : List (List β)) (data : List β) (k : Nat) :
    lastByte (history ++ [data]) k = data[k]?.or (lastByte history k) := by
  rw [lastByte, List.foldl_append]
  rfl

theorem getElem?_overwrite (old new : List β) (k : Nat) : (overwrite old new)[k]? = new[k]?.or old[k]? := by
  rw [overwrite, List.getElem?_append]
  split
  · rename_i hk
    rw [List.getElem?_eq_getElem hk, Option.some_or]
  · rename_i hk
    rw [List.getElem?_eq_none (Nat.not_lt.1 hk), Option.none_or, List.getElem?_drop,
      Nat.add_sub_cancel' (Nat.not_lt.1 hk)]

theorem getElem?_foldl_overwrite (later : List (List β)) (old : List β) (k : Nat) :
    (later.foldl overwrite old)[k]? = later.foldl (fun old data => data[k]?.or old) old[k]? := by
  induction later generalizing old with
  | nil => rfl
  | cons data later ih => rw [List.foldl_cons, ih, getElem?_overwrite, List.foldl_cons]

/-- Once data reaches position `k`, what came before does not matter there. -/
theorem lastByte_of_reaches (earlier later : List (List β)) {data : List β} {k : Nat}
    (h : k < data.length) :
    lastByte (earlier ++ data :: later) k = (later.foldl overwrite data)[k]? := by
  rw [getElem?_foldl_overwrite, lastByte, List.foldl_append, List.foldl_cons,
    List.getElem?_eq_getElem h, Option.some_or]

theorem length_foldl_overwrite {later : List (List β)} {data : List β}
    (h : ∀ x ∈ later, x.length ≤ data.length) : (later.foldl overwrite data).length = data.length := by
  -- induction on the shorter data, each written over data of the same length
  induction later generalizing data with
  | nil => rfl
  | cons x later ih =>
    have hx := h x List.mem_cons_self
    have hlength : (overwrite data x).length = data.length := by
      rw [overwrite, List.length_append, List.length_drop]
      omega
    rw [List.foldl_cons, ih fun y hy => ?_, hlength]
    rw [hlength]
    exact h y (List.mem_cons_of_mem _ hy)

end Overwrite

/-! ## Replicas -/

/-- The block of an allocation. -/
def HedgedAllocation.block (alloc : HedgedAllocation) : Block :=
  ⟨alloc.baseAddress, alloc.allocationSize.toNat * alloc.replicaCount.toNat⟩

variable {memory : Address → BitVec 8} {alloc alloc' : HedgedAllocation} {data : List (BitVec 8)}
  {a p ptr : Address} {count i k n : Nat}

theorem replicaAddr_eq (alloc : HedgedAllocation) (r : Nat) :
    alloc.replicaAddr r = alloc.baseAddress + BitVec.ofNat 64 (r * alloc.allocationSize.toNat) := by
  rw [HedgedAllocation.replicaAddr, BitVec.ofNat_mul, BitVec.ofNat_toNat, BitVec.setWidth_eq]

/-- The loop over the replicas writes the data at the beginning of each one. -/
theorem writeReplicas_apply (hsize : data.length ≤ alloc.allocationSize.toNat)
    (hcount : count * alloc.allocationSize.toNat ≤ 2 ^ 64) :
    writeReplicas alloc data count memory a =
      if distance alloc.baseAddress a < count * alloc.allocationSize.toNat then
        data[distance alloc.baseAddress a % alloc.allocationSize.toNat]?.getD (memory a)
      else memory a := by
  -- induction on the replicas written so far
  induction count with
  | zero => rw [Nat.zero_mul, if_neg (Nat.not_lt_zero _)]; rfl
  | succ count ih =>
    rw [Nat.succ_mul] at hcount
    have hstep : writeReplicas alloc data (count + 1) memory =
        write (writeReplicas alloc data count memory) (alloc.replicaAddr count) data := by
      rw [writeReplicas, List.range_succ, List.foldl_append]
      rfl
    rw [hstep, replicaAddr_eq, write_add (by omega), ih (by omega), Nat.succ_mul]
    generalize hoff : distance alloc.baseAddress a = y
    generalize hbegin : count * alloc.allocationSize.toNat = x at *
    by_cases hlt : y < x
    · -- an earlier replica
      rw [if_neg (by omega), if_pos hlt, if_pos (by omega)]
    · rw [if_pos (by omega), if_neg hlt]
      by_cases hend : y < x + alloc.allocationSize.toNat
      · -- this replica
        have hmod : y % alloc.allocationSize.toNat = y - x := by
          have hy : y = y - x + alloc.allocationSize.toNat * count := by
            rw [Nat.mul_comm, hbegin]
            omega
          rw [hy, Nat.add_mul_mod_self_left, Nat.mod_eq_of_lt (by omega)]
          omega
        rw [if_pos hend, hmod]
      · rw [if_neg hend, List.getElem?_eq_none (by omega), Option.getD_none]

/-! ## Runs -/

/-- The memory, with the data that was replicated to each allocation since it was made. -/
structure Tracked where
  mem : HedgedMem
  history : Address → List (List (BitVec 8))

/-- A call of the interface. -/
inductive HedgedOp where
  | malloc (sizeInBytes : BitVec 64) (replicaCount : BitVec 32)
  | replicate (ptr : Address) (data : Option (List (BitVec 8)))
  | read (ptr : Address) (outIsNull : Bool) (sizeInBytes : BitVec 64)
  | free (ptr : Address)

/-- A call, and the data that was replicated up to then. -/
def HedgedOp.apply (s : Tracked) : HedgedOp → Tracked
  | .malloc size count =>
    let (p, mem) := hedgedMalloc size count s.mem
    ⟨mem, if p = 0 then s.history else Function.update s.history p []⟩
  | .replicate ptr data =>
    let (code, mem) := hedgedReplicateData ptr data s.mem
    ⟨mem, if code = 0 then Function.update s.history ptr (s.history ptr ++ data.toList) else s.history⟩
  | .read ptr outIsNull size => ⟨(hedgedRead ptr outIsNull size s.mem).2, s.history⟩
  | .free ptr => ⟨hedgedFree ptr s.mem, s.history⟩

def HedgedStep (s : Tracked) (op : HedgedOp) (t : Tracked) : Prop := t = op.apply s

/-- The bytes that the bitmap manages. -/
def managedBytes : Nat := bitmapMaxCells * cellSize

/-- The size of an allocation times its replica count stays within the managed memory. -/
def HedgedOp.Managed : HedgedOp → Prop
  | .malloc size count => size.toNat * count.toNat ≤ managedBytes
  | .replicate _ _ | .read _ _ _ | .free _ => True

/-- The blocks are apart, and their replicas hold the data that was replicated. -/
structure Consistent (s : Tracked) : Prop where
  owned : Owned s.mem.bio (s.mem.allocations.map HedgedAllocation.block)
  managed : ∀ alloc ∈ s.mem.allocations, alloc.block.size ≤ managedBytes
  holds : ∀ alloc ∈ s.mem.allocations, ∀ a ∈ alloc.block.span, ∀ v,
    lastByte (s.history alloc.baseAddress)
      (distance alloc.baseAddress a % alloc.allocationSize.toNat) = some v → s.mem.bio.memory a = v

variable {s t : Tracked} {size : BitVec 64} {replicas : BitVec 32}

/-- Different entries have blocks that are apart. -/
theorem Consistent.disjoint (h : Consistent s) (ha : alloc ∈ s.mem.allocations)
    (ha' : alloc' ∈ s.mem.allocations) (hne : alloc ≠ alloc') :
    Disjoint alloc.block.span alloc'.block.span := by
  have : Std.Symm fun a b : HedgedAllocation => Disjoint a.block.span b.block.span :=
    ⟨fun _ _ hdisj => hdisj.symm⟩
  exact (List.pairwise_map.1 h.owned.apart).forall ha ha' hne

theorem Consistent.pos (h : Consistent s) (ha : alloc ∈ s.mem.allocations) : 0 < alloc.block.size := by
  obtain ⟨i, hplaced⟩ := h.owned.placed alloc.block (List.mem_map_of_mem ha)
  exact hplaced.pos

/-- An address has one entry. -/
theorem Consistent.eq_of_base (h : Consistent s) (ha : alloc ∈ s.mem.allocations)
    (ha' : alloc' ∈ s.mem.allocations) (hbase : alloc'.baseAddress = alloc.baseAddress) :
    alloc' = alloc := by
  by_contra hne
  have hmem : alloc.baseAddress ∈ alloc.block.span := mem_span_self (h.pos ha)
  have hmem' : alloc'.baseAddress ∈ alloc'.block.span := mem_span_self (h.pos ha')
  rw [hbase] at hmem'
  exact Set.disjoint_left.1 (h.disjoint ha' ha hne) hmem' hmem

/-! ### Allocating -/

theorem totalSize_eq (size : BitVec 64) (replicas : BitVec 32) :
    totalSize size replicas = BitVec.ofNat 64 (size.toNat * replicas.toNat) := by
  apply BitVec.eq_of_toNat_eq
  have hreplicas := replicas.isLt
  rw [totalSize, BitVec.toNat_mul, BitVec.toNat_setWidth, BitVec.toNat_ofNat,
    Nat.mod_eq_of_lt (show replicas.toNat < 2 ^ 64 by omega)]

theorem toNat_totalSize (h : size.toNat * replicas.toNat ≤ managedBytes) :
    (totalSize size replicas).toNat = size.toNat * replicas.toNat := by
  have hlt : managedBytes < 2 ^ 64 := by decide
  rw [totalSize_eq, BitVec.toNat_ofNat, Nat.mod_eq_of_lt (by omega)]

/-- The outcomes of `hedged_malloc`: refused before anything is allocated, no address, or a new entry. -/
theorem hedgedMalloc_cases (size : BitVec 64) (replicas : BitVec 32) (s : HedgedMem) :
    hedgedMalloc size replicas s = (0, s) ∨
    (bioAllocateNeuralTissue (totalSize size replicas) s.bio).1 = 0 ∧
      hedgedMalloc size replicas s =
        (0, { s with bio := (bioAllocateNeuralTissue (totalSize size replicas) s.bio).2 }) ∨
    (bioAllocateNeuralTissue (totalSize size replicas) s.bio).1 ≠ 0 ∧
      hedgedMalloc size replicas s =
        ((bioAllocateNeuralTissue (totalSize size replicas) s.bio).1,
          ⟨(bioAllocateNeuralTissue (totalSize size replicas) s.bio).2,
            s.allocations ++ [⟨(bioAllocateNeuralTissue (totalSize size replicas) s.bio).1, size, replicas,
              0, 0⟩]⟩) := by
  rw [hedgedMalloc]
  split
  · exact .inl rfl
  · split
    · exact .inl rfl
    · right
      dsimp only
      split
      · rename_i hzero
        exact .inl ⟨hzero, rfl⟩
      · rename_i hne
        exact .inr ⟨hne, rfl⟩

theorem memory_bioAllocateNeuralTissue (size : BitVec 64) (s : BioMem) :
    (bioAllocateNeuralTissue size s).2.memory = s.memory := by
  rcases bioAllocateNeuralTissue_cases size s with ⟨i, -, hres⟩ | ⟨-, hres⟩
  · rw [hres]
  · rw [hres]

theorem Consistent.malloc (h : Consistent s) (hm : size.toNat * replicas.toNat ≤ managedBytes) :
    Consistent (HedgedOp.apply s (.malloc size replicas)) := by
  have hexact : TissueExact s.mem.bio (totalSize size replicas) := by
    apply (tissueExact_iff _ _).2
    left
    rw [toNat_totalSize hm]
    exact hm.trans (by decide)
  have howned := owned_tissue h.owned hexact
  have hmemory := memory_bioAllocateNeuralTissue (totalSize size replicas) s.mem.bio
  rw [toNat_totalSize hm] at howned
  rw [HedgedOp.apply]
  rcases hedgedMalloc_cases size replicas s.mem with hres | ⟨hzero, hres⟩ | ⟨hne, hres⟩
  · rw [hres]
    exact ⟨h.owned, h.managed, h.holds⟩
  · -- no block was found: the memory and the table are as before
    rw [holdNew, if_pos hzero] at howned
    rw [hres]
    refine ⟨howned, h.managed, fun alloc ha a hspan v hv => ?_⟩
    show (bioAllocateNeuralTissue (totalSize size replicas) s.mem.bio).2.memory a = v
    rw [hmemory]
    exact h.holds alloc ha a hspan v hv
  · rw [holdNew, if_neg hne] at howned
    rw [hres]
    dsimp only
    rw [if_neg hne]
    generalize (bioAllocateNeuralTissue (totalSize size replicas) s.mem.bio).1 = p at *
    refine ⟨?_, fun alloc ha => ?_, fun alloc ha a hspan v hv => ?_⟩
    · rw [List.map_append]
      exact howned.perm (List.perm_append_singleton _ _).symm
    · rcases List.mem_append.1 ha with ha | ha
      · exact h.managed alloc ha
      · rw [List.mem_singleton.1 ha]
        exact hm
    · -- the address of the new block is that of no entry
      show (bioAllocateNeuralTissue (totalSize size replicas) s.mem.bio).2.memory a = v
      dsimp only at hv
      rw [hmemory]
      rcases List.mem_append.1 ha with hold | hnew
      · have hbase : alloc.baseAddress ≠ p := howned.address_ne (List.mem_map_of_mem hold)
        rw [Function.update_of_ne hbase] at hv
        exact h.holds alloc hold a hspan v hv
      · obtain rfl := List.mem_singleton.1 hnew
        rw [Function.update_self] at hv
        cases hv

/-! ### Writing -/

/-- `hedged_replicate_data` fails, or copies the data to the replicas of the entry of its pointer. -/
theorem hedgedReplicateData_cases (ptr : Address) (data : Option (List (BitVec 8))) (s : HedgedMem) :
    hedgedReplicateData ptr data s = (-1, s) ∨
    ∃ alloc bytes, alloc ∈ s.allocations ∧ alloc.baseAddress = ptr ∧ data = some bytes ∧
      bytes.length ≤ alloc.allocationSize.toNat ∧
      hedgedReplicateData ptr data s = (0, { s with bio := { s.bio with
        memory := writeReplicas alloc bytes alloc.replicaCount.toNat s.bio.memory } }) := by
  cases data with
  | none => exact .inl rfl
  | some bytes =>
    rw [hedgedReplicateData]
    split
    · exact .inl rfl
    · cases hfind : s.find ptr with
      | none => exact .inl rfl
      | some i =>
        obtain ⟨alloc, halloc, hbase⟩ := find_eq_some hfind
        rw [Option.bind_some, halloc]
        dsimp only
        split
        · exact .inl rfl
        · rename_i hsize
          exact .inr ⟨alloc, bytes, List.mem_of_getElem? halloc, hbase, rfl, Nat.not_lt.1 hsize, rfl⟩

theorem Consistent.replicate (h : Consistent s) (data : Option (List (BitVec 8))) :
    Consistent (HedgedOp.apply s (.replicate ptr data)) := by
  rw [HedgedOp.apply]
  rcases hedgedReplicateData_cases ptr data s.mem with hres | ⟨alloc, bytes, ha, rfl, rfl, hsize, hres⟩
  · rw [hres]
    exact ⟨h.owned, h.managed, h.holds⟩
  · have hmanaged : alloc.replicaCount.toNat * alloc.allocationSize.toNat ≤ 2 ^ 64 := by
      have := h.managed alloc ha
      rw [Nat.mul_comm]
      exact this.trans (by decide)
    rw [hres]
    dsimp only
    rw [if_pos rfl]
    refine ⟨⟨h.owned.placed, h.owned.used, h.owned.apart⟩, h.managed, fun alloc' ha' a hspan v hv => ?_⟩
    show writeReplicas alloc bytes alloc.replicaCount.toNat s.mem.bio.memory a = v
    dsimp only at hv
    rw [writeReplicas_apply hsize hmanaged, Nat.mul_comm]
    by_cases hsame : alloc' = alloc
    · subst hsame
      rw [Function.update_self, Option.toList_some, lastByte_append] at hv
      have hin : distance alloc'.baseAddress a <
          alloc'.allocationSize.toNat * alloc'.replicaCount.toNat := hspan
      rw [if_pos hin]
      -- where the data does not reach, the byte from before stays
      cases hbyte : bytes[distance alloc'.baseAddress a % alloc'.allocationSize.toNat]? with
      | none =>
        rw [hbyte, Option.none_or] at hv
        exact h.holds alloc' ha' a hspan v hv
      | some byte =>
        rw [hbyte, Option.some_or] at hv
        exact Option.some.inj hv
    · -- the other blocks are apart from the one that is written
      have hbase : alloc'.baseAddress ≠ alloc.baseAddress := fun hbase => hsame (h.eq_of_base ha ha' hbase)
      have hout : ¬ distance alloc.baseAddress a <
          alloc.allocationSize.toNat * alloc.replicaCount.toNat :=
        Set.disjoint_left.1 (h.disjoint ha' ha hsame) hspan
      rw [Function.update_of_ne hbase] at hv
      rw [if_neg hout]
      exact h.holds alloc' ha' a hspan v hv

/-! ### Reading -/

/-- `hedged_read` fails, or reads the first replica of the entry of its pointer, and counts it there. -/
theorem hedgedRead_cases (ptr : Address) (outIsNull : Bool) (size : BitVec 64) (s : HedgedMem) :
    hedgedRead ptr outIsNull size s = (none, s) ∨
    ∃ alloc i, s.allocations[i]? = some alloc ∧ alloc.baseAddress = ptr ∧
      size.toNat ≤ alloc.allocationSize.toNat ∧
      hedgedRead ptr outIsNull size s = (some (read s.bio.memory ptr size.toNat),
        { s with
          allocations := s.allocations.set i
            (alloc.countRead (fastestReplica alloc.replicaCount.toNat).2) }) := by
  rw [hedgedRead]
  split
  · exact .inl rfl
  · cases hfind : s.find ptr with
    | none => exact .inl rfl
    | some i =>
      obtain ⟨alloc, halloc, rfl⟩ := find_eq_some hfind
      have hreplica : alloc.replicaAddr 0 = alloc.baseAddress := by
        rw [replicaAddr_eq, Nat.zero_mul]
        exact BitVec.add_zero _
      dsimp only
      rw [halloc]
      dsimp only
      split
      · exact .inl rfl
      · rename_i hsize
        right
        refine ⟨alloc, i, halloc, rfl, Nat.not_lt.1 hsize, ?_⟩
        rw [fastestReplica_eq_zero, hreplica]

theorem Consistent.read (h : Consistent s) (outIsNull : Bool) :
    Consistent (HedgedOp.apply s (.read ptr outIsNull size)) := by
  rw [HedgedOp.apply]
  rcases hedgedRead_cases ptr outIsNull size s.mem with hres | ⟨alloc, i, halloc, -, -, hres⟩
  · rw [hres]
    exact h
  · generalize hcounted : alloc.countRead (fastestReplica alloc.replicaCount.toNat).2 = counted at hres
    have hblock : counted.block = alloc.block := by rw [← hcounted]; rfl
    have hsize : counted.allocationSize = alloc.allocationSize := by rw [← hcounted]; rfl
    have hmem : ∀ alloc' ∈ s.mem.allocations.set i counted, alloc' ∈ s.mem.allocations ∨ alloc' = counted :=
      fun alloc' => List.mem_or_eq_of_mem_set
    have ha := List.mem_of_getElem? halloc
    -- counting a read changes the statistics of the entry, not its block
    have hblocks : (s.mem.allocations.set i counted).map HedgedAllocation.block =
        s.mem.allocations.map HedgedAllocation.block := map_set_of_eq halloc hblock
    rw [hres]
    refine ⟨?_, fun alloc' ha' => ?_, fun alloc' ha' a hspan v hv => ?_⟩
    · rw [hblocks]
      exact h.owned
    · rcases hmem alloc' ha' with hold | rfl
      · exact h.managed alloc' hold
      · rw [hblock]
        exact h.managed alloc ha
    · rcases hmem alloc' ha' with hold | rfl
      · exact h.holds alloc' hold a hspan v hv
      · have hbase : alloc'.baseAddress = alloc.baseAddress := congrArg Block.address hblock
        rw [hblock] at hspan
        rw [hbase, hsize] at hv
        exact h.holds alloc ha a hspan v hv

/-! ### Freeing -/

/-- `hedged_free` does nothing for a pointer without an entry, or frees the block of the entry and removes the
entry. -/
theorem hedgedFree_cases (ptr : Address) (s : HedgedMem) :
    (ptr = 0 ∨ ∀ alloc ∈ s.allocations, alloc.baseAddress ≠ ptr) ∧ hedgedFree ptr s = s ∨
    ∃ alloc i, s.allocations[i]? = some alloc ∧ alloc.baseAddress = ptr ∧
      hedgedFree ptr s =
        ⟨Release.apoptosis.run alloc.block s.bio, swapRemove s.allocations i⟩ := by
  rw [hedgedFree]
  split
  · rename_i hnull
    exact .inl ⟨.inl hnull, rfl⟩
  · cases hfind : s.find ptr with
    | none =>
      rw [HedgedMem.find, List.findIdx?_eq_none_iff] at hfind
      exact .inl ⟨.inr fun alloc ha => of_decide_eq_false (hfind alloc ha), rfl⟩
    | some i =>
      obtain ⟨alloc, halloc, rfl⟩ := find_eq_some hfind
      dsimp only
      rw [halloc]
      dsimp only
      rw [totalSize_eq]
      exact .inr ⟨alloc, i, halloc, rfl, rfl⟩

theorem Consistent.free (h : Consistent s) : Consistent (HedgedOp.apply s (.free ptr)) := by
  rw [HedgedOp.apply]
  rcases hedgedFree_cases ptr s.mem with ⟨-, hres⟩ | ⟨alloc, i, halloc, -, hres⟩
  · rw [hres]
    exact h
  · have hperm := swapRemove_perm halloc
    have howned := h.owned.perm (hperm.map HedgedAllocation.block)
    obtain ⟨j, hplaced⟩ := howned.placed alloc.block List.mem_cons_self
    have hreleases := releases_run hplaced .apoptosis
    have hmem : ∀ alloc' ∈ swapRemove s.mem.allocations i, alloc' ∈ s.mem.allocations :=
      fun alloc' ha' => hperm.mem_iff.2 (List.mem_cons_of_mem _ ha')
    rw [hres]
    refine ⟨howned.release hreleases.memBase hreleases.used, fun alloc' ha' => h.managed alloc' (hmem alloc' ha'),
      fun alloc' ha' a hspan v hv => ?_⟩
    show (Release.apoptosis.run alloc.block s.mem.bio).memory a = v
    rw [hreleases.memory a ?_]
    · exact h.holds alloc' (hmem alloc' ha') a hspan v hv
    · -- a cell of the freed block is no cell of another one
      intro k hk hover hcell
      have hmap : alloc'.block ∈ (swapRemove s.mem.allocations i).map HedgedAllocation.block :=
        List.mem_map_of_mem ha'
      obtain ⟨j', hplaced'⟩ := howned.placed alloc'.block (List.mem_cons_of_mem _ hmap)
      have hdisj := (List.pairwise_cons.1 howned.apart).1 alloc'.block hmap
      exact (hplaced.not_disjoint_iff hplaced').2 ⟨k, hk, hover, a, hcell, hspan⟩ hdisj

/-! ### What a read returns -/

theorem HedgedStep.consistent {op : HedgedOp} (h : HedgedStep s op t) (hm : op.Managed)
    (hs : Consistent s) : Consistent t := by
  obtain rfl : t = _ := h
  cases op with
  | malloc size count => exact hs.malloc hm
  | replicate ptr data => exact hs.replicate data
  | read ptr outIsNull size => exact hs.read outIsNull
  | free ptr => exact hs.free

/-- A read that succeeds returns the last data that is at least as long as the read, with the shorter data
that came after it written over its beginning. -/
def Tracked.ReadsLast (s : Tracked) : Prop :=
  ∀ ptr outIsNull (size : BitVec 64) bytes, (hedgedRead ptr outIsNull size s.mem).1 = some bytes →
    ∀ earlier data later, s.history ptr = earlier ++ data :: later → size.toNat ≤ data.length →
      (∀ x ∈ later, x.length < size.toNat) → bytes = later.foldl overwrite (data.take size.toNat)

theorem Consistent.readsLast (h : Consistent s) : s.ReadsLast := by
  intro ptr outIsNull size bytes hread earlier data later hhistory hlong hshort
  rcases hedgedRead_cases ptr outIsNull size s.mem with
    hres | ⟨alloc, i, halloc, rfl, hsize, hres⟩
  · rw [hres] at hread
    cases hread
  · rw [hres] at hread
    obtain rfl := Option.some.inj hread
    have ha := List.mem_of_getElem? halloc
    have hlength : (later.foldl overwrite (data.take size.toNat)).length = size.toNat := by
      have htake : (data.take size.toNat).length = size.toNat := List.length_take_of_le hlong
      rw [length_foldl_overwrite, htake]
      rw [htake]
      exact fun x hx => Nat.le_of_lt (hshort x hx)
    refine List.ext_getElem (by rw [length_read, hlength]) fun k hk hk' => ?_
    rw [length_read] at hk
    have hbyte : lastByte (s.history alloc.baseAddress) k =
        some (later.foldl overwrite (data.take size.toNat))[k] := by
      rw [hhistory, lastByte_of_reaches earlier later (by omega), ← List.getElem?_eq_getElem hk',
        getElem?_foldl_overwrite, getElem?_foldl_overwrite, List.getElem?_take_of_lt hk]
    -- the byte is in the first replica
    have hpos := h.pos ha
    have hlt : k < 2 ^ 64 := by
      have := size.isLt
      omega
    have hdist : distance alloc.baseAddress (alloc.baseAddress + BitVec.ofNat 64 k) = k := distance_add hlt
    have hspan : alloc.baseAddress + BitVec.ofNat 64 k ∈ alloc.block.span := by
      show distance alloc.baseAddress _ < alloc.allocationSize.toNat * alloc.replicaCount.toNat
      rw [hdist]
      have hcount : 0 < alloc.replicaCount.toNat := Nat.pos_of_mul_pos_left hpos
      exact (show k < alloc.allocationSize.toNat by omega).trans_le (Nat.le_mul_of_pos_right _ hcount)
    rw [getElem_read]
    apply h.holds alloc ha _ hspan
    rw [hdist, Nat.mod_eq_of_lt (by omega)]
    exact hbyte

/-- In a run of allocations that stay within the managed memory every read that succeeds returns the data
that was replicated last. -/
theorem hedgedRead_last {mem : HedgedMem} (hempty : mem.allocations = [])
    {tr : List (HedgedOp × Tracked)} (htr : Exec HedgedStep ⟨mem, fun _ => []⟩ tr)
    (hmanaged : AllSteps (fun _ op => op.Managed) ⟨mem, fun _ => []⟩ tr) :
    AllStates Tracked.ReadsLast ⟨mem, fun _ => []⟩ tr := by
  have hstart : Consistent ⟨mem, fun _ => []⟩ := by
    refine ⟨?_, ?_, ?_⟩
    · rw [hempty]
      exact owned_nil _
    · rw [hempty]
      exact nofun
    · rw [hempty]
      exact nofun
  have hconsistent := htr.allStates (P := Consistent) hstart hmanaged
    fun s op t hs hm hst => hst.consistent hm hs
  exact hconsistent.imp fun s hs => hs.readsLast

/-! ### Data over longer data -/

/-- A fresh memory with one allocation of four bytes, in two replicas. -/
def twoReplicas : HedgedMem :=
  ⟨oneCellMem 0x100000 0x19000000, [⟨0x100000, 4, 2, 0, 0⟩]⟩

theorem hedgedMalloc_fresh :
    hedgedMalloc 4 2 ⟨freshMem 0x100000 0x19000000, []⟩ = (0x100000, twoReplicas) := by
  have hfirst := @bioAllocateNeuralTissue_of_first (freshMem 0x100000 0x19000000) (totalSize 4 2) 0
    (firstFits_freshMem (by decide) (by decide))
  rw [hedgedMalloc, if_neg (by decide), if_neg (by decide), hfirst]
  rfl

/-- The four bytes are replicated, and then one more byte. -/
def shorterWrite : List (HedgedOp × Tracked) :=
  let s₁ : Tracked := ⟨twoReplicas, Function.update (fun _ => []) 0x100000 []⟩
  let s₂ := HedgedOp.apply s₁ (.replicate 0x100000 (some [1, 2, 3, 4]))
  let s₃ := HedgedOp.apply s₂ (.replicate 0x100000 (some [9]))
  [(.malloc 4 2, s₁), (.replicate 0x100000 (some [1, 2, 3, 4]), s₂),
    (.replicate 0x100000 (some [9]), s₃)]

theorem exec_shorterWrite :
    Exec HedgedStep ⟨⟨freshMem 0x100000 0x19000000, []⟩, fun _ => []⟩ shorterWrite := by
  -- the first step is the allocation; the others are as defined
  refine ⟨?_, rfl, rfl, trivial⟩
  rw [HedgedStep, HedgedOp.apply, hedgedMalloc_fresh]
  rfl

theorem managed_shorterWrite :
    AllSteps (fun _ op => HedgedOp.Managed op) ⟨⟨freshMem 0x100000 0x19000000, []⟩, fun _ => []⟩
      shorterWrite := by
  refine ⟨?_, trivial, trivial, trivial⟩
  show 4 * 2 ≤ managedBytes
  decide

/-- A read that succeeds returns the beginning of the last data that is at least as long. -/
def Tracked.ReadsLastLong (s : Tracked) : Prop :=
  ∀ ptr outIsNull (size : BitVec 64) bytes, (hedgedRead ptr outIsNull size s.mem).1 = some bytes →
    ∀ earlier data later, s.history ptr = earlier ++ data :: later → size.toNat ≤ data.length →
      (∀ x ∈ later, x.length < size.toNat) → bytes = data.take size.toNat

/-- After the shorter write the read returns the byte `9` first. -/
theorem exists_shorter_write :
    ∃ tr, Exec HedgedStep ⟨⟨freshMem 0x100000 0x19000000, []⟩, fun _ => []⟩ tr ∧
      AllSteps (fun _ op => HedgedOp.Managed op) ⟨⟨freshMem 0x100000 0x19000000, []⟩, fun _ => []⟩ tr ∧
      ¬ AllStates Tracked.ReadsLastLong ⟨⟨freshMem 0x100000 0x19000000, []⟩, fun _ => []⟩ tr := by
  refine ⟨shorterWrite, exec_shorterWrite, managed_shorterWrite, fun hall => ?_⟩
  have hlast := hall.final 0x100000 false 4 [9, 2, 3, 4] rfl [] [1, 2, 3, 4] [[9]] rfl (by decide) (by decide)
  exact absurd hlast (by decide)

/-- It returns the shorter data over the longer one. -/
theorem hedgedRead_last_shorterWrite :
    (hedgedRead 0x100000 false 4
      (final ⟨⟨freshMem 0x100000 0x19000000, []⟩, fun _ => []⟩ shorterWrite).mem).1 =
        some (overwrite [1, 2, 3, 4] [9]) ∧
      AllStates Tracked.ReadsLast ⟨⟨freshMem 0x100000 0x19000000, []⟩, fun _ => []⟩ shorterWrite :=
  ⟨rfl, hedgedRead_last rfl exec_shorterWrite managed_shorterWrite⟩

end OperatingOrganism.Memory

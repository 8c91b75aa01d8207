import Mathlib.Data.List.Perm.Basic
import OperatingOrganism.Memory.NeuralTissue

/-!
# Hedged allocations

`hedged_malloc.c` keeps several copies of the same data. A block of `replica_count` times the size comes
from `bio_allocate_neural_tissue`, and a table has one entry for each block: a write goes to all replicas, a
read takes the one with the smallest simulated latency, and freeing a block zeroes it and moves the last
entry of the table into its place.

The caller's buffers are lists of bytes.
-/

set_option autoImplicit false

namespace OperatingOrganism.Memory

open OperatingOrganism.ByteMemory OperatingOrganism.FirstFit OperatingOrganism.UnitedBus

/-- `HEDGED_MALLOC_MAX_ALLOCATIONS` -/
def hedgedMallocMaxAllocations : Nat := 256

/-- `HEDGED_MALLOC_REPLICA_COUNT` -/
def hedgedMallocReplicaCount : Nat := 4

/-- `hedged_allocation_t` -/
structure HedgedAllocation where
  baseAddress : Address
  allocationSize : BitVec 64
  replicaCount : BitVec 32
  readLatencyTotalNs : BitVec 64
  readCount : BitVec 32
  deriving DecidableEq

/-- The allocator of cells, and the first `allocation_count` entries of `allocations`. -/
structure HedgedMem where
  bio : BioMem
  allocations : List HedgedAllocation

/-- `size_in_bytes * replica_count`, as a `size_t`. -/
def totalSize (sizeInBytes : BitVec 64) (replicaCount : BitVec 32) : BitVec 64 :=
  sizeInBytes * replicaCount.setWidth 64

/-- `hedged_malloc` -/
def hedgedMalloc (sizeInBytes : BitVec 64) (replicaCount : BitVec 32) (s : HedgedMem) :
    Address × HedgedMem :=
  if hedgedMallocMaxAllocations ≤ s.allocations.length then (0, s)
  else if replicaCount.toNat = 0 ∨ hedgedMallocReplicaCount < replicaCount.toNat then (0, s)
  else
    let (block, bio) := bioAllocateNeuralTissue (totalSize sizeInBytes replicaCount) s.bio
    if block = 0 then (0, { s with bio := bio })
    else
      (block,
        { bio := bio
          allocations := s.allocations ++
            [{ baseAddress := block
               allocationSize := sizeInBytes
               replicaCount := replicaCount
               readLatencyTotalNs := 0
               readCount := 0 }] })

/-- The search for the entry of a pointer: the index of the first one with its address. -/
def HedgedMem.find (s : HedgedMem) (ptr : Address) : Option Nat :=
  s.allocations.findIdx? fun alloc => alloc.baseAddress = ptr

/-- `alloc->base_address + (r * alloc->allocation_size)` -/
def HedgedAllocation.replicaAddr (alloc : HedgedAllocation) (r : Nat) : Address :=
  alloc.baseAddress + BitVec.ofNat 64 r * alloc.allocationSize

/-- The loop that copies data to the first `count` replicas. -/
def writeReplicas (alloc : HedgedAllocation) (data : List (BitVec 8)) (count : Nat)
    (memory : Address → BitVec 8) : Address → BitVec 8 :=
  (List.range count).foldl (fun memory r => write memory (alloc.replicaAddr r) data) memory

/-- `hedged_replicate_data`; `data` is `none` for the null pointer. -/
def hedgedReplicateData (ptr : Address) (data : Option (List (BitVec 8))) (s : HedgedMem) :
    Int × HedgedMem :=
  match data with
  | none => (-1, s)
  | some data =>
    if ptr = 0 then (-1, s)
    else
      match (s.find ptr).bind fun i => s.allocations[i]? with
      | none => (-1, s)
      | some alloc =>
        if alloc.allocationSize.toNat < data.length then (-1, s)
        else
          (0, { s with
            bio := { s.bio with
              memory := writeReplicas alloc data alloc.replicaCount.toNat s.bio.memory } })

/-- `simulate_replica_latency` -/
def simulateReplicaLatency (replicaIndex : Nat) : BitVec 32 :=
  80#32 + (BitVec.ofNat 32 replicaIndex * 13579#32) % 120#32

/-- The loop over the replicas: the fastest one, with its latency. -/
def fastestReplica (count : Nat) : Nat × BitVec 32 :=
  (List.range count).foldl
    (fun best r =>
      if simulateReplicaLatency r < best.2 then (r, simulateReplicaLatency r) else best)
    (0, 0xffffffff#32)

/-- The statistics after a read. -/
def HedgedAllocation.countRead (alloc : HedgedAllocation) (latency : BitVec 32) : HedgedAllocation :=
  { alloc with
    readLatencyTotalNs := alloc.readLatencyTotalNs + latency.setWidth 64
    readCount := alloc.readCount + 1 }

/-- `hedged_read`: the bytes that it copies, if it succeeds. `outIsNull` is the test of `out_buffer`. -/
def hedgedRead (ptr : Address) (outIsNull : Bool) (sizeInBytes : BitVec 64) (s : HedgedMem) :
    Option (List (BitVec 8)) × HedgedMem :=
  if ptr = 0 ∨ outIsNull then (none, s)
  else
    match s.find ptr with
    | none => (none, s)
    | some i =>
      match s.allocations[i]? with
      | none => (none, s)
      | some alloc =>
        if alloc.allocationSize.toNat < sizeInBytes.toNat then (none, s)
        else
          let (bestReplica, bestLatency) := fastestReplica alloc.replicaCount.toNat
          (some (read s.bio.memory (alloc.replicaAddr bestReplica) sizeInBytes.toNat),
            { s with allocations := s.allocations.set i (alloc.countRead bestLatency) })

/-- `hedged_get_stats`: the average latency and the number of reads. -/
def hedgedGetStats (ptr : Address) (s : HedgedMem) : Option (BitVec 64 × BitVec 32) :=
  if ptr = 0 then none
  else
    match (s.find ptr).bind fun i => s.allocations[i]? with
    | none => none
    | some alloc =>
      if 0 < alloc.readCount then
        some (alloc.readLatencyTotalNs / alloc.readCount.setWidth 64, alloc.readCount)
      else some (0, alloc.readCount)

/-- The removal of an entry: the last one takes its place. -/
def swapRemove {α : Type} (l : List α) (i : Nat) : List α :=
  match l.getLast? with
  | none => l
  | some last => (l.set i last).dropLast

/-- `hedged_free` -/
def hedgedFree (ptr : Address) (s : HedgedMem) : HedgedMem :=
  if ptr = 0 then s
  else
    match s.find ptr with
    | none => s
    | some i =>
      match s.allocations[i]? with
      | none => s
      | some alloc =>
        { bio := bioApoptosis ptr (totalSize alloc.allocationSize alloc.replicaCount) s.bio
          allocations := swapRemove s.allocations i }

/-! ## The table -/

variable {s t : HedgedMem} {ptr p a : Address} {alloc : HedgedAllocation} {data : List (BitVec 8)}
  {i k n count : Nat}

/-- Removing an entry leaves the others, in some order. -/
theorem swapRemove_perm {α : Type} {l : List α} {i : Nat} {x : α} (h : l[i]? = some x) :
    l.Perm (x :: swapRemove l i) := by
  obtain ⟨hi, rfl⟩ := List.getElem?_eq_some_iff.1 h
  obtain ⟨init, last, rfl⟩ : ∃ init last, l = init ++ [last] := by
    have hne : l ≠ [] := List.ne_nil_of_length_pos (by omega)
    exact ⟨l.dropLast, l.getLast hne, (List.dropLast_append_getLast hne).symm⟩
  rw [swapRemove, List.getLast?_concat]
  by_cases hlast : i = init.length
  · subst hlast
    simp
  · have hlt : i < init.length := by
      simp at hi
      omega
    simp only [List.set_append_left _ _ hlt, List.dropLast_concat, List.getElem_append_left hlt]
    -- the entry and the last one change places
    have hset : (init.set i last).Perm (last :: init.eraseIdx i) := List.set_perm_cons_eraseIdx hlt last
    have hget := List.getElem_cons_eraseIdx_perm hlt
    calc init ++ [last]
        _ |>.Perm (last :: init) := List.perm_append_comm
        _ |>.Perm (last :: init[i] :: init.eraseIdx i) := hget.symm.cons last
        _ |>.Perm (init[i] :: last :: init.eraseIdx i) := .swap ..
        _ |>.Perm (init[i] :: init.set i last) := hset.symm.cons _

/-- Rewriting an entry does not change what it keeps. -/
theorem map_set_of_eq {α β : Type} {f : α → β} {l : List α} {i : Nat} {x y : α} (h : l[i]? = some x)
    (hf : f y = f x) : (l.set i y).map f = l.map f := by
  obtain ⟨hi, rfl⟩ := List.getElem?_eq_some_iff.1 h
  have hi' : i < (l.map f).length := by rwa [List.length_map]
  have hself : f l[i] = (l.map f)[i] := by rw [List.getElem_map]
  rw [List.map_set, hf, hself, List.set_getElem_self]

/-- What the search finds. -/
theorem find_eq_some (h : s.find ptr = some i) :
    ∃ alloc, s.allocations[i]? = some alloc ∧ alloc.baseAddress = ptr := by
  obtain ⟨hi, hptr, -⟩ := List.findIdx?_eq_some_iff_getElem.1 h
  exact ⟨_, List.getElem?_eq_getElem hi, of_decide_eq_true hptr⟩

/-! ## Replicas -/

/-- The first replica has the smallest latency. -/
theorem fastestReplica_eq_zero (count : Nat) : (fastestReplica count).1 = 0 := by
  have hmin : ∀ r, ¬ simulateReplicaLatency r < simulateReplicaLatency 0 := by
    intro r
    have h0 : simulateReplicaLatency 0 = 80#32 := rfl
    have hmod : ((BitVec.ofNat 32 r * 13579#32) % 120#32).toNat < 120 := by
      rw [BitVec.toNat_umod]
      exact Nat.mod_lt _ (by decide)
    rw [h0, BitVec.lt_def, simulateReplicaLatency, BitVec.toNat_add]
    simp only [BitVec.toNat_ofNat]
    omega
  have hstep : ∀ n, fastestReplica (n + 1) = (0, simulateReplicaLatency 0) := by
    intro n
    induction n with
    | zero => rfl
    | succ n ih =>
      rw [fastestReplica, List.range_succ, List.foldl_append]
      exact (congrArg (fun best => if simulateReplicaLatency (n + 1) < best.2 then
        (n + 1, simulateReplicaLatency (n + 1)) else best) ih).trans (if_neg (hmin _))
  cases count with
  | zero => rfl
  | succ n => rw [hstep]

end OperatingOrganism.Memory

import OperatingOrganism.Library.Execution
import OperatingOrganism.Vital.HebbianLearning
import OperatingOrganism.Vital.SynapsePropagation

/-!
# The bounds of the table of links

Every loop of `synapse_network.c` over the links runs to `link_count`, an 8-bit counter that `synapse_connect`
keeps within the table and that `synapse_import_links` sets to what it has copied. The import cuts its count down to
64 from above only. A negative size passes: the copy runs over the end of the table and of the buffer. For every
other size the import keeps to both, and all later loops keep to the table (`imports_inside_iff`). The count that the
loops run to is the length of the table along every run (`linkCount_runs`).
-/

set_option autoImplicit false

namespace OperatingOrganism.Vital

open OperatingOrganism.ByteLayout OperatingOrganism.Execution

/-- `link_count` after an import. -/
def importedLinkCount (size : BitVec 32) : BitVec 8 := (importCount size).setWidth 8

/-- The calls of `synapse_network.c` that write. -/
inductive SynapseCall where
  | init
  | addNode (nodeId threshold : BitVec 8)
  | connect (fromNode toNode weight plasticity : BitVec 8)
  | stimulate (nodeId : BitVec 8) (signal : BitVec 16)
  | propagate
  | hebbianLearning
  | importLinks (loc : Nat) (buffer : Bytes) (size : BitVec 32)

/-- What a call does to the network; `none` if it runs out of the tables. -/
def SynapseCall.run (s : SynapseNetwork) : SynapseCall → Option SynapseNetwork
  | init => some (synapseInit s)
  | addNode nodeId threshold => some (synapseAddNode nodeId threshold s).2
  | connect fromNode toNode weight plasticity => some (synapseConnect fromNode toNode weight plasticity s).2
  | stimulate nodeId signal => some (synapseStimulate nodeId signal s)
  | propagate => some (synapsePropagate s)
  | hebbianLearning => some (synapseHebbianLearning s)
  | importLinks loc buffer size => synapseImportLinks loc buffer size s

/-- What a call does to `link_count`. -/
def SynapseCall.linkCount (count : BitVec 8) : SynapseCall → BitVec 8
  | init => 0
  | connect _ _ _ _ => if synapseMaxLinks ≤ count.toNat then count else count + 1
  | importLinks _ _ size => importedLinkCount size
  | addNode _ _ | stimulate _ _ | propagate | hebbianLearning => count

/-- The entries of `links` that a call writes or goes through, by `link_count`. An import is seen to apart. -/
def SynapseCall.entries (count : BitVec 8) : SynapseCall → List Nat
  | connect _ _ _ _ => if synapseMaxLinks ≤ count.toNat then [] else [count.toNat]
  | propagate | hebbianLearning => List.range count.toNat
  | init | addNode _ _ | stimulate _ _ | importLinks _ _ _ => []

/-- A call stays inside the table of links. -/
def LinksInside (count : BitVec 8) (call : SynapseCall) : Prop := ∀ j ∈ call.entries count, j < synapseMaxLinks

/-- The values of `link_count` during some calls. -/
def linkCountsFrom (count : BitVec 8) (calls : List SynapseCall) : List (SynapseCall × BitVec 8) :=
  driven (fun count call => call.linkCount count) count calls

/-- An import keeps to the table and to the buffer, and so do the loops over the table after it, as long as nothing
of a negative size is imported again. -/
structure ImportsInside (size : BitVec 32) : Prop where
  writes : ∀ k < importBytes size, k < synapseMaxLinks * synapseLinkType.size
  reads : ∀ k < importBytes size, (k : Int) < max size.toInt 0
  count : (importedLinkCount size).toNat ≤ synapseMaxLinks
  later : ∀ calls : List SynapseCall,
    (∀ loc buffer size', SynapseCall.importLinks loc buffer size' ∈ calls → 0 ≤ size'.toInt) →
    AllSteps LinksInside (importedLinkCount size) (linkCountsFrom (importedLinkCount size) calls)

section Counts

variable {size : BitVec 32} {count : BitVec 8} {s t : SynapseNetwork} {call : SynapseCall}

theorem toInt_nonneg_iff (size : BitVec 32) : 0 ≤ size.toInt ↔ size.toNat < 2 ^ 31 := by
  have hsize := size.isLt
  rw [BitVec.toInt_eq_toNat_cond]
  split
  · omega
  · omega

/-- The count of a size that is not negative. -/
theorem toNat_importedLinkCount (h : size.toNat < 2 ^ 31) :
    (importedLinkCount size).toNat = min (size.toNat / 4) 64 := by
  rw [importedLinkCount, BitVec.toNat_setWidth, toNat_importCount h]
  exact Nat.mod_eq_of_lt (by omega)

/-- `link_count` is the number of links of the network, along every call that keeps to the tables. -/
theorem linkCount_run (hcount : s.links.length = count.toNat) (hrun : call.run s = some t) :
    t.links.length = (call.linkCount count).toNat := by
  cases call with
  | init =>
    obtain rfl := Option.some.inj hrun
    rfl
  | addNode nodeId threshold =>
    obtain rfl := Option.some.inj hrun
    rw [synapseAddNode]
    split
    · exact hcount
    · exact hcount
  | connect fromNode toNode weight plasticity =>
    obtain rfl := Option.some.inj hrun
    rw [SynapseCall.linkCount, synapseConnect, ← hcount]
    split
    · exact hcount
    · next hroom =>
      rw [synapseMaxLinks] at hroom
      rw [BitVec.toNat_add, ← hcount, List.length_append]
      exact (Nat.mod_eq_of_lt (by change s.links.length + 1 < 256; omega)).symm
  | stimulate nodeId signal =>
    obtain rfl := Option.some.inj hrun
    rw [(frame_stimulate nodeId signal s).1]
    exact hcount
  | propagate =>
    obtain rfl := Option.some.inj hrun
    rw [links_propagate]
    exact hcount
  | hebbianLearning =>
    obtain rfl := Option.some.inj hrun
    rw [length_links_learning]
    exact hcount
  | importLinks loc buffer size =>
    change synapseImportLinks loc buffer size s = some t at hrun
    by_cases hsize : size.toNat < 2 ^ 31
    · obtain ⟨t', himport, hlinks, -, -⟩ := synapseImportLinks_of_nonneg loc buffer s hsize
      obtain rfl := Option.some.inj (hrun.symm.trans himport)
      rw [hlinks, linksAt, List.length_map, List.length_range]
      exact (toNat_importedLinkCount hsize).symm
    · rw [synapseImportLinks_of_neg (Nat.not_lt.1 hsize)] at hrun
      cases hrun

/-- The same along a run of calls. -/
theorem linkCount_runs {calls : List SynapseCall} (hcount : s.links.length = count.toNat)
    (hrun : calls.foldlM SynapseCall.run s = some t) :
    t.links.length = (calls.foldl SynapseCall.linkCount count).toNat := by
  induction calls generalizing s count with
  | nil =>
    obtain rfl := Option.some.inj hrun
    exact hcount
  | cons call calls ih =>
    rw [List.foldlM_cons] at hrun
    obtain ⟨u, hcall, hrest⟩ := Option.bind_eq_some_iff.1 hrun
    exact ih (linkCount_run hcount hcall) hrest

/-- Within the bound of the table, a call keeps to the table. -/
theorem linksInside_of_le (hcount : count.toNat ≤ synapseMaxLinks) (call : SynapseCall) : LinksInside count call := by
  intro j hj
  cases call with
  | connect fromNode toNode weight plasticity =>
    rw [SynapseCall.entries] at hj
    split at hj
    · exact absurd hj List.not_mem_nil
    · next hroom =>
      obtain rfl := List.mem_singleton.1 hj
      exact Nat.not_le.1 hroom
  | propagate | hebbianLearning => exact (List.mem_range.1 hj).trans_le hcount
  | init | addNode _ _ | stimulate _ _ | importLinks _ _ _ => exact absurd hj List.not_mem_nil

/-- It keeps to the bound if it imports nothing of a negative size. -/
theorem linkCount_le (hcount : count.toNat ≤ synapseMaxLinks)
    (himport : ∀ loc buffer size, call = .importLinks loc buffer size → 0 ≤ size.toInt) :
    (call.linkCount count).toNat ≤ synapseMaxLinks := by
  cases call with
  | init => exact Nat.zero_le _
  | connect fromNode toNode weight plasticity =>
    rw [SynapseCall.linkCount]
    split
    · exact hcount
    · next hroom =>
      rw [synapseMaxLinks] at hroom ⊢
      rw [BitVec.toNat_add]
      exact (Nat.mod_le _ _).trans (Nat.not_le.1 hroom)
  | importLinks loc buffer size =>
    have hsize := (toInt_nonneg_iff size).1 (himport loc buffer size rfl)
    rw [SynapseCall.linkCount, toNat_importedLinkCount hsize]
    exact Nat.min_le_right _ _
  | addNode _ _ | stimulate _ _ | propagate | hebbianLearning => exact hcount

/-- Along every run that imports nothing of a negative size. -/
theorem linksInside_run (hcount : count.toNat ≤ synapseMaxLinks) {calls : List SynapseCall}
    (himports : ∀ loc buffer size, SynapseCall.importLinks loc buffer size ∈ calls → 0 ≤ size.toInt) :
    AllSteps LinksInside count (linkCountsFrom count calls) := by
  have hexec : Exec (fun count (call : SynapseCall) next => call.linkCount count = next) count
      (linkCountsFrom count calls) := exec_driven (fun _ _ => rfl) _ _
  have hnonneg : AllSteps (fun _ (call : SynapseCall) => ∀ loc buffer size, call = .importLinks loc buffer size →
      0 ≤ size.toInt) count (linkCountsFrom count calls) :=
    allSteps_driven count fun call hmem loc buffer size hcall => himports loc buffer size (hcall ▸ hmem)
  have hbounded : AllStates (fun count => count.toNat ≤ synapseMaxLinks) count (linkCountsFrom count calls) := by
    refine hexec.allStates hcount hnonneg ?_
    rintro count call _ hle himport rfl
    exact linkCount_le hle himport
  exact hbounded.allSteps fun count call hle => linksInside_of_le hle call

/-- An import, and all that follows it, stays inside the tables if and only if its size is not negative. -/
theorem imports_inside_iff (size : BitVec 32) : ImportsInside size ↔ 0 ≤ size.toInt := by
  rw [toInt_nonneg_iff]
  constructor
  · intro h
    by_contra hneg
    have hbeyond := lt_importBytes_of_neg (Nat.not_lt.1 hneg)
    exact absurd (h.writes _ hbeyond) (Nat.lt_irrefl _)
  · intro hsize
    have hbytes := importBytes_of_nonneg hsize
    have hcount : (importedLinkCount size).toNat ≤ synapseMaxLinks := by
      rw [toNat_importedLinkCount hsize]
      exact Nat.min_le_right _ _
    refine ⟨fun k hk => ?_, fun k hk => ?_, hcount, fun calls himports => linksInside_run hcount himports⟩
    · rw [size_synapseLinkType, synapseMaxLinks]
      omega
    · rw [BitVec.toInt_eq_toNat_cond, if_pos (by omega)]
      omega

/-- The size that four bytes of ones on the disk stand for. -/
theorem exists_import_not_inside : ∃ size : BitVec 32, ¬ ImportsInside size :=
  ⟨0xFFFFFFFF, fun h => absurd (h.writes _ (lt_importBytes_of_neg (by decide))) (Nat.lt_irrefl _)⟩

end Counts

end OperatingOrganism.Vital

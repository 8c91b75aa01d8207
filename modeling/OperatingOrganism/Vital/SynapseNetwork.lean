import OperatingOrganism.Library.ByteLayout

/-!
# The synapse network

The tables of `synapse_network.c` with their initialisation, and how the links go to a buffer and come back.
A table is the list of its first entries; the entries behind `node_count` and `link_count` are never read.
`synapse_import_links` computes with the size of the buffer as a `size_t`: a negative size makes it run out
of the tables, which has no defined outcome.
-/

set_option autoImplicit false

namespace OperatingOrganism.Vital

open OperatingOrganism.ByteLayout

/-- `SYNAPSE_MAX_NODES` -/
def synapseMaxNodes : Nat := 16

/-- `SYNAPSE_MAX_LINKS` -/
def synapseMaxLinks : Nat := 64

/-- `oo_synapse_node_t`; `activation` is an `int16_t`. -/
structure SynapseNode where
  nodeId : BitVec 8
  activation : BitVec 16
  threshold : BitVec 8
  refractory : BitVec 8
  fireCount : BitVec 32
  deriving DecidableEq

/-- `oo_synapse_link_t`; `weight` is an `int8_t`. -/
structure SynapseLink where
  fromNode : BitVec 8
  toNode : BitVec 8
  weight : BitVec 8
  plasticity : BitVec 8
  deriving DecidableEq, Inhabited

/-- The static variables of the file. -/
structure SynapseNetwork where
  nodes : List SynapseNode
  links : List SynapseLink
  recentlyFired : Vector (BitVec 8) synapseMaxNodes
  nodes_le : nodes.length ≤ synapseMaxNodes
  links_le : links.length ≤ synapseMaxLinks

attribute [ext] SynapseNetwork

/-- Before the first call. -/
def SynapseNetwork.zero : SynapseNetwork := ⟨[], [], .replicate _ 0, Nat.zero_le _, Nat.zero_le _⟩

/-- `synapse_init` -/
def synapseInit (_s : SynapseNetwork) : SynapseNetwork :=
  ⟨[], [], .replicate _ 0, Nat.zero_le _, Nat.zero_le _⟩

/-- `synapse_add_node` -/
def synapseAddNode (nodeId threshold : BitVec 8) (s : SynapseNetwork) : Int × SynapseNetwork :=
  if h : synapseMaxNodes ≤ s.nodes.length then (-1, s)
  else
    (0, { s with
      nodes := s.nodes ++ [⟨nodeId, 0, threshold, 0, 0⟩]
      nodes_le := by rw [List.length_append]; exact Nat.not_le.1 h })

/-- `synapse_connect` -/
def synapseConnect (fromNode toNode weight plasticity : BitVec 8) (s : SynapseNetwork) :
    Int × SynapseNetwork :=
  if h : synapseMaxLinks ≤ s.links.length then (-1, s)
  else
    (0, { s with
      links := s.links ++ [⟨fromNode, toNode, weight, plasticity⟩]
      links_le := by rw [List.length_append]; exact Nat.not_le.1 h })

/-! ## The bytes of the links -/

def synapseLinkFields : List CType := [.int 1, .int 1, .int 1, .int 1]

def synapseLinkType : CType := .struct synapseLinkFields

def SynapseLink.bytes (link : SynapseLink) : Bytes :=
  let field := offsetOf synapseLinkFields
  putLE (field 0) link.fromNode <| putLE (field 1) link.toNode <| putLE (field 2) link.weight <|
    putLE (field 3) link.plasticity fun _ => 0

/-- The link at a place. -/
def SynapseLink.ofBytes (loc : Nat) (b : Bytes) : SynapseLink :=
  let field := offsetOf synapseLinkFields
  ⟨getLE 8 (loc + field 0) b, getLE 8 (loc + field 1) b, getLE 8 (loc + field 2) b, getLE 8 (loc + field 3) b⟩

/-- The table `links`, as bytes. -/
def linkBytes (links : List SynapseLink) : Bytes :=
  arrayBytes synapseLinkType.size fun i => (links[i]?.getD default).bytes

/-- The links at a place. -/
def linksAt (count loc : Nat) (b : Bytes) : List SynapseLink :=
  (List.range count).map fun i => .ofBytes (loc + synapseLinkType.size * i) b

/-- `synapse_export_links`: how many bytes it copies to the buffer, and from what. -/
def synapseExportLinks (maxSize : Int) (s : SynapseNetwork) : Int × Bytes :=
  let size : Int := s.links.length * synapseLinkType.size
  (if maxSize < size then maxSize else size, linkBytes s.links)

/-- `count` of `synapse_import_links`. The division is one of `size_t`. -/
def importCount (size : BitVec 32) : BitVec 32 :=
  let count : BitVec 32 := (size.signExtend 64 / 4#64).setWidth 32
  if (64#32).slt count then 64#32 else count

/-- `count * sizeof(oo_synapse_link_t)`, the end of the loop of `synapse_import_links`. -/
def importBytes (size : BitVec 32) : Nat := ((importCount size).signExtend 64 * 4#64).toNat

/-- `synapse_import_links` of a buffer that begins at `loc`; `none` if it runs out of the table. -/
def synapseImportLinks (loc : Nat) (buffer : Bytes) (size : BitVec 32) (s : SynapseNetwork) :
    Option SynapseNetwork :=
  if h : importBytes size ≤ synapseMaxLinks * synapseLinkType.size then
    some { s with
      links := linksAt (importBytes size / synapseLinkType.size) loc buffer
      links_le := by
        rw [linksAt, List.length_map, List.length_range]
        exact Nat.div_le_of_le_mul (by rwa [Nat.mul_comm]) }
  else none

variable {s : SynapseNetwork} {b : Bytes} {size : BitVec 32} {loc n : Nat} {links : List SynapseLink}

theorem size_synapseLinkType : synapseLinkType.size = 4 := rfl

/-- An `int` as a `size_t`. -/
theorem toNat_signExtend_int (x : BitVec 32) :
    (x.signExtend 64).toNat = if x.toNat < 2 ^ 31 then x.toNat else x.toNat + (2 ^ 64 - 2 ^ 32) := by
  have hx := x.isLt
  rw [BitVec.toNat_signExtend, BitVec.toNat_setWidth, Nat.mod_eq_of_lt (by omega), BitVec.msb_eq_decide]
  by_cases h : x.toNat < 2 ^ 31
  · rw [if_pos h, if_neg (by simpa using h), Nat.add_zero]
  · rw [if_neg h, if_pos (by simpa using h)]

theorem lt_toInt_iff (x : BitVec 32) : (64#32).slt x = true ↔ 64 < x.toNat ∧ x.toNat < 2 ^ 31 := by
  have hx := x.isLt
  have h64 : (64#32).toInt = 64 := rfl
  rw [BitVec.slt_iff_toInt_lt, h64, BitVec.toInt_eq_toNat_cond]
  split
  · omega
  · omega

theorem toNat_count (size : BitVec 32) : ((size.signExtend 64 / 4#64).setWidth 32).toNat =
    if size.toNat < 2 ^ 31 then size.toNat / 4 else (size.toNat + (2 ^ 64 - 2 ^ 32)) / 4 % 2 ^ 32 := by
  have hfour : (4#64).toNat = 4 := rfl
  rw [BitVec.toNat_setWidth, BitVec.toNat_udiv, toNat_signExtend_int, hfour]
  split
  · omega
  · rfl

/-- The number of links in a buffer of a size that is not negative, as far as there is room. -/
theorem toNat_importCount (h : size.toNat < 2 ^ 31) : (importCount size).toNat = min (size.toNat / 4) 64 := by
  have hcount := toNat_count size
  rw [if_pos h] at hcount
  rw [importCount]
  split
  · rename_i hlt
    rw [lt_toInt_iff, hcount] at hlt
    rw [Nat.min_eq_right (by omega)]
    rfl
  · rename_i hle
    rw [lt_toInt_iff, hcount] at hle
    rw [hcount, Nat.min_eq_left (by omega)]

/-- What is imported from a buffer of a size that an `int` can hold. -/
theorem importBytes_of_nonneg (h : size.toNat < 2 ^ 31) : importBytes size = min (size.toNat / 4) 64 * 4 := by
  have hfour : (4#64).toNat = 4 := rfl
  rw [importBytes, BitVec.toNat_mul, toNat_signExtend_int, toNat_importCount h, if_pos (by omega), hfour]
  exact Nat.mod_eq_of_lt (by omega)

/-- A negative size leaves the table. -/
theorem lt_importBytes_of_neg (h : 2 ^ 31 ≤ size.toNat) :
    synapseMaxLinks * synapseLinkType.size < importBytes size := by
  have hsize := size.isLt
  have hcount := toNat_count size
  rw [if_neg (Nat.not_lt.2 h)] at hcount
  -- the quotient of the sign-extended size is negative as an `int`, and is not cut down to 64
  have hneg : ¬ (64#32).slt ((size.signExtend 64 / 4#64).setWidth 32) = true := by
    rw [lt_toInt_iff, hcount]
    omega
  have hfour : (4#64).toNat = 4 := rfl
  rw [importBytes, importCount, if_neg hneg, BitVec.toNat_mul, toNat_signExtend_int, hcount, if_neg (by omega), hfour,
    size_synapseLinkType, synapseMaxLinks]
  omega

/-! ### Reading back -/

/-- `synapse_import_links` of a size that is not negative. -/
theorem synapseImportLinks_of_nonneg (loc : Nat) (b : Bytes) (s : SynapseNetwork) (h : size.toNat < 2 ^ 31) :
    ∃ t, synapseImportLinks loc b size s = some t ∧ t.links = linksAt (min (size.toNat / 4) 64) loc b ∧
      t.nodes = s.nodes ∧ t.recentlyFired = s.recentlyFired := by
  have hbytes := importBytes_of_nonneg h
  have hle : importBytes size ≤ synapseMaxLinks * synapseLinkType.size := by
    rw [hbytes, size_synapseLinkType, synapseMaxLinks]
    omega
  refine ⟨_, dif_pos hle, ?_, rfl, rfl⟩
  change linksAt (importBytes size / 4) loc b = _
  rw [hbytes, Nat.mul_div_cancel _ (by decide)]

theorem synapseImportLinks_of_neg (h : 2 ^ 31 ≤ size.toNat) : synapseImportLinks loc b size s = none :=
  dif_neg (Nat.not_le.2 (lt_importBytes_of_neg h))

/-- A link is read back from its bytes. -/
theorem SynapseLink.ofBytes_bytes {source : Bytes} {link : SynapseLink}
    (h : ∀ k < 4, getLE 8 (loc + k) source = getLE 8 k link.bytes) : ofBytes loc source = link := by
  have hfrom : getLE 8 0 link.bytes = link.fromNode := getLE_putLE rfl
  have hto : getLE 8 1 link.bytes = link.toNode := by
    rw [bytes]
    exact (getLE_putLE_of_apart (.inr (by decide))).trans (getLE_putLE rfl)
  have hweight : getLE 8 2 link.bytes = link.weight := by
    rw [bytes]
    exact (getLE_putLE_of_apart (.inr (by decide))).trans
      ((getLE_putLE_of_apart (.inr (by decide))).trans (getLE_putLE rfl))
  have hplasticity : getLE 8 3 link.bytes = link.plasticity := by
    rw [bytes]
    exact (getLE_putLE_of_apart (.inr (by decide))).trans ((getLE_putLE_of_apart (.inr (by decide))).trans
      ((getLE_putLE_of_apart (.inr (by decide))).trans (getLE_putLE rfl)))
  change SynapseLink.mk (getLE 8 (loc + 0) _) (getLE 8 (loc + 1) _) (getLE 8 (loc + 2) _)
    (getLE 8 (loc + 3) _) = link
  rw [h 0 (by decide), h 1 (by decide), h 2 (by decide), h 3 (by decide), hfrom, hto, hweight, hplasticity]

/-- Links that were copied to a buffer are read back. -/
theorem linksAt_linkBytes (h : ∀ k < links.length * 4, getLE 8 (loc + k) b = getLE 8 k (linkBytes links)) :
    linksAt links.length loc b = links := by
  apply List.ext_getElem
  · rw [linksAt, List.length_map, List.length_range]
  · intro i hi hi'
    simp only [linksAt, List.getElem_map, List.getElem_range]
    apply SynapseLink.ofBytes_bytes
    intro k hk
    rw [size_synapseLinkType, Nat.add_assoc, h (4 * i + k) (by omega), linkBytes]
    refine (getLE_arrayBytes (by omega)).trans ?_
    rw [List.getElem?_eq_getElem hi', Option.getD_some]

end OperatingOrganism.Vital

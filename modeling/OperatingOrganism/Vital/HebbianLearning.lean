import OperatingOrganism.Vital.SynapseNetwork
import Mathlib.Algebra.Order.BigOperators.Group.List
import Mathlib.Algebra.Order.Ring.Nat
import Mathlib.Data.Nat.ModEq

/-!
# Hebbian learning

`synapse_hebbian_learning` strengthens a link whose ends have both fired and weakens one whose target has not. If
the weights of the links between registered nodes come to more than 1000, every weight is multiplied by 950 and
divided by their sum. Truncation only makes a magnitude smaller, so that the sum is at most 950 then, no weight
grows, and every value that is computed fits in its `int8_t` (`synapses_scaled`).
-/

set_option autoImplicit false

namespace OperatingOrganism.Vital

/-- `from_idx` and `to_idx`: the place of the last node with the identifier, or 255. -/
def nodeIndex (nodes : List SynapseNode) (nodeId : BitVec 8) : BitVec 8 :=
  (List.range nodes.length).foldl
    (fun idx j => if nodes[j]?.map SynapseNode.nodeId = some nodeId then .ofNat 8 j else idx) 0xFF

/-- The mark of a propagation at a place of the table. -/
def SynapseNetwork.FiredAt (s : SynapseNetwork) (idx : BitVec 8) : Prop := s.recentlyFired[idx.toNat]?.getD 0 ≠ 0

instance (s : SynapseNetwork) (idx : BitVec 8) : Decidable (s.FiredAt idx) := inferInstanceAs (Decidable (_ ≠ _))

/-- `reinforcement` -/
def SynapseLink.reinforcement (link : SynapseLink) : Nat := link.plasticity.toNat / 32 + 1

/-- The value that reinforcement assigns to the weight. -/
def SynapseLink.reinforced (link : SynapseLink) : Int :=
  if link.weight.toInt < 127 - link.reinforcement then link.weight.toInt + link.reinforcement else 127

/-- The value that depression assigns to the weight. -/
def SynapseLink.depressed (link : SynapseLink) : Int := link.weight.toInt - 1

/-- The value that scaling assigns to the weight. The quotient is truncated. -/
def SynapseLink.scaled (total : Int) (link : SynapseLink) : Int := (link.weight.toInt * 950).tdiv total

/-- An assignment to the weight, which keeps eight bits of the value. -/
def SynapseLink.assign (link : SynapseLink) (value : Int) : SynapseLink := { link with weight := .ofInt 8 value }

/-- The magnitude that a link adds to `total_weight_abs`. -/
def SynapseLink.weightAbs (link : SynapseLink) : Int :=
  if link.weight.toInt < 0 then -link.weight.toInt else link.weight.toInt

/-- Both ends of the link were found. -/
def SynapseNetwork.Joins (s : SynapseNetwork) (link : SynapseLink) : Prop :=
  ¬ (nodeIndex s.nodes link.fromNode = 0xFF ∨ nodeIndex s.nodes link.toNode = 0xFF)

instance (s : SynapseNetwork) (link : SynapseLink) : Decidable (s.Joins link) := inferInstanceAs (Decidable (¬ _))

/-- What the first loop does to a link. -/
def SynapseNetwork.learn (s : SynapseNetwork) (link : SynapseLink) : SynapseLink :=
  if s.Joins link then
    let fromIdx := nodeIndex s.nodes link.fromNode
    let toIdx := nodeIndex s.nodes link.toNode
    let link := if s.FiredAt fromIdx ∧ s.FiredAt toIdx then link.assign link.reinforced else link
    if s.FiredAt fromIdx ∧ ¬ s.FiredAt toIdx then
      if -120 < link.weight.toInt then link.assign link.depressed else link
    else link
  else link

/-- The links after the first loop. -/
def SynapseNetwork.learnedLinks (s : SynapseNetwork) : List SynapseLink := s.links.map s.learn

/-- `total_weight_abs` after the first loop; it passes over the links that join no nodes. -/
def SynapseNetwork.totalWeightAbs (s : SynapseNetwork) : Int :=
  s.links.foldl (fun total link => if s.Joins link then total + (s.learn link).weightAbs else total) 0

/-- `synapse_hebbian_learning` -/
def synapseHebbianLearning (s : SynapseNetwork) : SynapseNetwork :=
  let total := s.totalWeightAbs
  let links := s.learnedLinks
  { s with
    links := if 1000 < total then links.map fun link => link.assign (link.scaled total) else links
    links_le := by
      have hlen : links.length = s.links.length := List.length_map _
      split
      · rw [List.length_map, hlen]
        exact s.links_le
      · rw [hlen]
        exact s.links_le }

/-! ## What is asked of it -/

/-- The value fits in an `int8_t`. -/
def FitsInt8 (value : Int) : Prop := -128 ≤ value ∧ value ≤ 127

/-- Both ends of the link are registered nodes. -/
def SynapseNetwork.Anchored (s : SynapseNetwork) (link : SynapseLink) : Prop :=
  (∃ node ∈ s.nodes, node.nodeId = link.fromNode) ∧ ∃ node ∈ s.nodes, node.nodeId = link.toNode

instance (s : SynapseNetwork) (link : SynapseLink) : Decidable (s.Anchored link) :=
  inferInstanceAs (Decidable (_ ∧ _))

/-- The sum of the magnitudes over the links between registered nodes. -/
def SynapseNetwork.registeredWeight (s : SynapseNetwork) : Nat :=
  ((s.links.filter fun link => s.Anchored link).map fun link => link.weight.toInt.natAbs).sum

/-- A weight keeps its sign and does not grow. -/
def Shrinks (before after : Int) : Prop :=
  (0 ≤ before → 0 ≤ after) ∧ (before ≤ 0 → after ≤ 0) ∧ after.natAbs ≤ before.natAbs

/-- Every value that is assigned to a weight fits, and the magnitudes that are summed up do in their `int32_t`;
the sum is bounded afterwards, no link is lost, and a scaled weight has not grown. -/
structure SynapsesScaled (s : SynapseNetwork) : Prop where
  reinforced : ∀ link ∈ s.links, FitsInt8 link.reinforced
  depressed : ∀ link ∈ s.links, -120 < link.weight.toInt → FitsInt8 link.depressed
  total : 0 ≤ s.totalWeightAbs ∧ s.totalWeightAbs ≤ 64 * 128
  scaled : 1000 < s.totalWeightAbs → ∀ link ∈ s.learnedLinks, FitsInt8 (link.scaled s.totalWeightAbs)
  bounded : (synapseHebbianLearning s).registeredWeight ≤ 1000
  kept : (synapseHebbianLearning s).links.length = s.links.length
  shrinks : 1000 < s.totalWeightAbs → ∀ (i : Nat) (link link' : SynapseLink), s.learnedLinks[i]? = some link →
    (synapseHebbianLearning s).links[i]? = some link' → Shrinks link.weight.toInt link'.weight.toInt

/-! ## The search for the ends -/

section Ends

variable {s : SynapseNetwork} {link : SynapseLink} {nodes : List SynapseNode} {nodeId : BitVec 8}

/-- The search fails if and only if there is no such node. -/
theorem nodeIndex_eq_iff (hlen : nodes.length ≤ synapseMaxNodes) :
    nodeIndex nodes nodeId = 0xFF ↔ ∀ node ∈ nodes, node.nodeId ≠ nodeId := by
  -- what the loop has seen after `k` rounds
  have hloop : ∀ k ≤ nodes.length,
      ((List.range k).foldl
        (fun idx j => if nodes[j]?.map SynapseNode.nodeId = some nodeId then BitVec.ofNat 8 j else idx) 0xFF = 0xFF ↔
        ∀ j < k, nodes[j]?.map SynapseNode.nodeId ≠ some nodeId) := by
    intro k hk
    induction k with
    | zero => exact iff_of_true rfl nofun
    | succ k ih =>
      rw [List.range_succ, List.foldl_append, List.foldl_cons, List.foldl_nil]
      split
      · next hfound =>
        refine iff_of_false (fun heq => ?_) fun hnone => hnone k (Nat.lt_succ_self k) hfound
        have hplace := congrArg BitVec.toNat heq
        rw [BitVec.toNat_ofNat] at hplace
        change k % 256 = 255 at hplace
        rw [synapseMaxNodes] at hlen
        omega
      · next hother =>
        rw [ih (Nat.le_of_succ_le hk), Nat.forall_lt_succ_right]
        exact (and_iff_left hother).symm
  rw [nodeIndex, hloop _ (Nat.le_refl _)]
  constructor
  · intro h node hnode hid
    obtain ⟨j, hj⟩ := List.mem_iff_getElem?.1 hnode
    refine h j (List.getElem?_eq_some_iff.1 hj).1 ?_
    rw [hj, Option.map_some, hid]
  · intro h j _ hj
    obtain ⟨node, hnode, hid⟩ := Option.map_eq_some_iff.1 hj
    exact h node (List.mem_of_getElem? hnode) hid

theorem joins_iff : s.Joins link ↔ s.Anchored link := by
  rw [SynapseNetwork.Joins, nodeIndex_eq_iff s.nodes_le, nodeIndex_eq_iff s.nodes_le, not_or]
  simp only [not_forall, not_not, exists_prop]
  exact Iff.rfl

end Ends

/-! ## Weights -/

section Weights

variable {s : SynapseNetwork} {link : SynapseLink} {value : Int}

/-- A value that fits is kept. -/
theorem toInt_assign (h : FitsInt8 value) : (link.assign value).weight.toInt = value := by
  obtain ⟨hlow, hhigh⟩ := h
  exact BitVec.toInt_ofInt_eq_self (by decide) (by omega) (by omega)

theorem fitsInt8_weight (link : SynapseLink) : FitsInt8 link.weight.toInt := by
  have hlow := link.weight.le_toInt
  have hhigh := link.weight.toInt_lt
  constructor
  · omega
  · omega

theorem fitsInt8_reinforced (link : SynapseLink) : FitsInt8 link.reinforced := by
  obtain ⟨hlow, hhigh⟩ := fitsInt8_weight link
  rw [SynapseLink.reinforced, FitsInt8]
  split
  · omega
  · omega

/-- The quotient of the magnitudes. -/
theorem natAbs_scaled {total : Int} (link : SynapseLink) :
    (link.scaled total).natAbs = link.weight.toInt.natAbs * 950 / total.natAbs := by
  have hfactor : (950 : Int).natAbs = 950 := rfl
  rw [SynapseLink.scaled, Int.natAbs_tdiv, Int.natAbs_mul, hfactor]
  rfl

/-- Scaling by less than one shrinks a weight. -/
theorem shrinks_scaled {total : Int} (htotal : 1000 < total) (link : SynapseLink) :
    Shrinks link.weight.toInt (link.scaled total) := by
  refine ⟨fun hpos => ?_, fun hneg => ?_, ?_⟩
  · exact Int.tdiv_nonneg (by omega) (by omega)
  · have hflip : 0 ≤ (-(link.weight.toInt * 950)).tdiv total := Int.tdiv_nonneg (by omega) (by omega)
    rw [Int.neg_tdiv] at hflip
    rw [SynapseLink.scaled]
    omega
  · rw [natAbs_scaled]
    apply Nat.div_le_of_le_mul
    rw [Nat.mul_comm total.natAbs]
    exact Nat.mul_le_mul_left _ (by omega)

theorem fitsInt8_scaled {total : Int} (htotal : 1000 < total) (link : SynapseLink) :
    FitsInt8 (link.scaled total) := by
  obtain ⟨hpos, hneg, habs⟩ := shrinks_scaled htotal link
  obtain ⟨hlow, hhigh⟩ := fitsInt8_weight link
  constructor
  · omega
  · omega

theorem weightAbs_eq (link : SynapseLink) : link.weightAbs = link.weight.toInt.natAbs := by
  rw [SynapseLink.weightAbs]
  split
  · omega
  · omega

@[simp] theorem fromNode_assign : (link.assign value).fromNode = link.fromNode := rfl

@[simp] theorem toNode_assign : (link.assign value).toNode = link.toNode := rfl

/-- Learning rewrites nothing but the weight. -/
theorem ends_learn (s : SynapseNetwork) (link : SynapseLink) :
    (s.learn link).fromNode = link.fromNode ∧ (s.learn link).toNode = link.toNode := by
  simp only [SynapseNetwork.learn, apply_ite SynapseLink.fromNode, apply_ite SynapseLink.toNode, fromNode_assign,
    toNode_assign, ite_self, and_self]

theorem anchored_congr {link' : SynapseLink} (hfrom : link'.fromNode = link.fromNode)
    (hto : link'.toNode = link.toNode) : s.Anchored link' ↔ s.Anchored link := by
  rw [SynapseNetwork.Anchored, SynapseNetwork.Anchored, hfrom, hto]

end Weights

/-! ## The sum -/

section Sum

variable {s : SynapseNetwork}

/-- The magnitudes over the links between registered nodes that are in a list. -/
def SynapseNetwork.magnitudes (s : SynapseNetwork) (links : List SynapseLink) : List Nat :=
  (links.filter fun link => s.Anchored link).map fun link => link.weight.toInt.natAbs

/-- The accumulator of the first loop is the sum over the links that it has learned. -/
theorem totalWeightAbs_eq (s : SynapseNetwork) : s.totalWeightAbs = ((s.magnitudes s.learnedLinks).sum : Nat) := by
  have hloop : ∀ (links : List SynapseLink) (acc : Int),
      links.foldl (fun total link => if s.Joins link then total + (s.learn link).weightAbs else total) acc =
        acc + ((s.magnitudes (links.map s.learn)).sum : Nat) := by
    intro links
    induction links with
    | nil => exact fun acc => (Int.add_zero acc).symm
    | cons link links ih =>
      intro acc
      obtain ⟨hfrom, hto⟩ := ends_learn s link
      have hsame : s.Anchored (s.learn link) ↔ s.Anchored link := anchored_congr hfrom hto
      rw [List.foldl_cons, ih, SynapseNetwork.magnitudes, SynapseNetwork.magnitudes, List.map_cons, List.filter_cons]
      by_cases hjoins : s.Joins link
      · have hanchored := hsame.2 (joins_iff.1 hjoins)
        rw [if_pos hjoins, if_pos (decide_eq_true hanchored), List.map_cons, List.sum_cons, weightAbs_eq,
          Int.natCast_add, Int.add_assoc]
      · have hloose : ¬ s.Anchored (s.learn link) := fun h => hjoins (joins_iff.2 (hsame.1 h))
        rw [if_neg hjoins, if_neg (by simpa using hloose)]
  rw [SynapseNetwork.totalWeightAbs, hloop, Int.zero_add]
  rfl

/-- At most 64 magnitudes of at most 128 each. -/
theorem totalWeightAbs_le (s : SynapseNetwork) : s.totalWeightAbs ≤ 64 * 128 := by
  have hcount : (s.magnitudes s.learnedLinks).length ≤ synapseMaxLinks := by
    rw [SynapseNetwork.magnitudes, List.length_map]
    refine (List.length_filter_le _ _).trans ?_
    rw [SynapseNetwork.learnedLinks, List.length_map]
    exact s.links_le
  have heach : ∀ x ∈ s.magnitudes s.learnedLinks, x ≤ 128 := by
    intro x hx
    obtain ⟨link, -, rfl⟩ := List.mem_map.1 hx
    obtain ⟨hlow, hhigh⟩ := fitsInt8_weight link
    omega
  have hsum := List.sum_le_card_nsmul _ 128 heach
  rw [nsmul_eq_mul, Nat.cast_id] at hsum
  rw [synapseMaxLinks] at hcount
  rw [totalWeightAbs_eq]
  omega

/-- Truncated quotients add up to no more than the quotient of the sum. -/
theorem sum_map_div_le (magnitudes : List Nat) (factor divisor : Nat) :
    (magnitudes.map fun x => x * factor / divisor).sum ≤ magnitudes.sum * factor / divisor := by
  induction magnitudes with
  | nil => exact Nat.zero_le _
  | cons x magnitudes ih =>
    rw [List.map_cons, List.sum_cons, List.sum_cons, Nat.add_mul]
    exact (Nat.add_le_add_left ih _).trans Nat.div_add_div_le_add_div

/-- The magnitudes of the links after scaling. -/
theorem magnitudes_scaled {total : Int} (htotal : 1000 < total) (links : List SynapseLink) :
    s.magnitudes (links.map fun link => link.assign (link.scaled total)) =
      (s.magnitudes links).map fun x => x * 950 / total.natAbs := by
  rw [SynapseNetwork.magnitudes, SynapseNetwork.magnitudes, List.filter_map, List.map_map, List.map_map]
  apply List.map_congr_left
  intro link _
  rw [Function.comp_apply, Function.comp_apply, toInt_assign (fitsInt8_scaled htotal link), natAbs_scaled]

theorem registeredWeight_le (s : SynapseNetwork) : (synapseHebbianLearning s).registeredWeight ≤ 1000 := by
  have htotal := totalWeightAbs_eq s
  change (s.magnitudes (if 1000 < s.totalWeightAbs then
    s.learnedLinks.map fun link => link.assign (link.scaled s.totalWeightAbs) else s.learnedLinks)).sum ≤ 1000
  split
  · next hlarge =>
    rw [magnitudes_scaled hlarge]
    refine (sum_map_div_le _ _ _).trans ?_
    rw [htotal, Int.natAbs_natCast]
    have hself : (s.magnitudes s.learnedLinks).sum * 950 / (s.magnitudes s.learnedLinks).sum ≤ 950 :=
      Nat.div_le_of_le_mul (Nat.le_refl _)
    exact hself.trans (by decide)
  · next hsmall =>
    rw [htotal] at hsmall
    omega

theorem length_links_learning (s : SynapseNetwork) : (synapseHebbianLearning s).links.length = s.links.length := by
  change (if 1000 < s.totalWeightAbs then _ else s.learnedLinks).length = _
  split
  · rw [List.length_map, SynapseNetwork.learnedLinks, List.length_map]
  · rw [SynapseNetwork.learnedLinks, List.length_map]

/-- For every network and every firing pattern. -/
theorem synapses_scaled (s : SynapseNetwork) : SynapsesScaled s where
  reinforced link _ := fitsInt8_reinforced link
  depressed link _ hlow := by
    obtain ⟨_, hhigh⟩ := fitsInt8_weight link
    rw [SynapseLink.depressed, FitsInt8]
    omega
  total := ⟨totalWeightAbs_eq s ▸ Int.natCast_nonneg _, totalWeightAbs_le s⟩
  scaled hlarge link _ := fitsInt8_scaled hlarge link
  bounded := registeredWeight_le s
  kept := length_links_learning s
  shrinks hlarge i link link' hi hi' := by
    have hlinks : (synapseHebbianLearning s).links =
        s.learnedLinks.map fun link => link.assign (link.scaled s.totalWeightAbs) := if_pos hlarge
    rw [hlinks, List.getElem?_map, hi] at hi'
    obtain rfl := Option.some.inj hi'
    rw [toInt_assign (fitsInt8_scaled hlarge link)]
    exact shrinks_scaled hlarge link

end Sum

end OperatingOrganism.Vital

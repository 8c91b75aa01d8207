import OperatingOrganism.Library.Sweep
import OperatingOrganism.Vital.SynapseNetwork

/-!
# Propagation

`synapse_propagate` goes through the nodes once. Its comments tell two phases, which nodes fire and what they
send, but a signal is delivered as soon as its sender fires: a node behind the sender in the table is asked with
the signal, and a node before it was asked without. The pass is a sweep (`firedNodes_propagate`), so that the nodes
that were ready at the start are those that fire if and only if the signals take no node across its threshold
(`fires_synchronously_iff`).
-/

set_option autoImplicit false

namespace OperatingOrganism.Vital

open OperatingOrganism.Sweep

/-! ## Nodes -/

/-- The clamped sum of `synapse_stimulate`. It is an `int32_t`, which holds the sum of two values of `int16_t`. -/
def SynapseNode.stimulate (signal : BitVec 16) (node : SynapseNode) : SynapseNode :=
  let newActivation : Int := node.activation.toInt + signal.toInt
  let newActivation := if newActivation > 127 then 127 else newActivation
  let newActivation := if newActivation < -128 then -128 else newActivation
  { node with activation := .ofInt 16 newActivation }

/-- The activation reaches the threshold. -/
def SynapseNode.Excited (node : SynapseNode) : Prop := (node.threshold.toNat : Int) ≤ node.activation.toInt

instance (node : SynapseNode) : Decidable node.Excited := inferInstanceAs (Decidable (_ ≤ _))

/-- The decay at the end of a visit. -/
def SynapseNode.leak (node : SynapseNode) : SynapseNode :=
  let node := if 0 < node.activation.toInt then { node with activation := node.activation - 1 } else node
  if node.activation.toInt < 0 then { node with activation := node.activation + 1 } else node

/-- `find_node`: the place of the first node with the identifier. -/
def findNode (nodes : List SynapseNode) (nodeId : BitVec 8) : Option Nat := nodes.findIdx? (·.nodeId = nodeId)

/-- A write to a node of the table. -/
def SynapseNetwork.modifyNode (s : SynapseNetwork) (i : Nat) (f : SynapseNode → SynapseNode) : SynapseNetwork :=
  { s with
    nodes := s.nodes.modify i f
    nodes_le := by rw [List.length_modify]; exact s.nodes_le }

/-- `synapse_stimulate` -/
def synapseStimulate (nodeId : BitVec 8) (signal : BitVec 16) (s : SynapseNetwork) : SynapseNetwork :=
  match findNode s.nodes nodeId with
  | some i => s.modifyNode i (·.stimulate signal)
  | none => s

/-! ## The pass -/

/-- What a link carries when a node fires. -/
def SynapseNetwork.transmit (nodeId : BitVec 8) (s : SynapseNetwork) (link : SynapseLink) : SynapseNetwork :=
  if link.fromNode = nodeId then
    match (findNode s.nodes link.toNode).bind (s.nodes[·]?) with
    | some target => synapseStimulate target.nodeId (link.weight.signExtend 16) s
    | none => s
  else s

/-- A node fires: it is marked, and its links carry their weights at once. -/
def SynapseNetwork.fire (i : Nat) (nodeId : BitVec 8) (s : SynapseNetwork) : SynapseNetwork :=
  let s := s.modifyNode i fun node => { node with fireCount := node.fireCount + 1, refractory := 3 }
  let s := { s with recentlyFired := s.recentlyFired.setIfInBounds i 1 }
  s.links.foldl (SynapseNetwork.transmit nodeId) s

/-- The body of the loop over the nodes. -/
def SynapseNetwork.visit (s : SynapseNetwork) (i : Nat) : SynapseNetwork :=
  match s.nodes[i]? with
  | some node =>
    if 0 < node.refractory.toNat then
      s.modifyNode i fun node => { node with refractory := node.refractory - 1 }
    else
      let s := if node.Excited then s.fire i node.nodeId else s
      s.modifyNode i SynapseNode.leak
  | none => s

/-- `synapse_propagate` -/
def synapsePropagate (s : SynapseNetwork) : SynapseNetwork :=
  (List.range s.nodes.length).foldl SynapseNetwork.visit { s with recentlyFired := .replicate _ 0 }

/-! ## What is asked of it -/

/-- No two nodes have one identifier. -/
def SynapseNetwork.Distinct (s : SynapseNetwork) : Prop := (s.nodes.map SynapseNode.nodeId).Nodup

instance (s : SynapseNetwork) : Decidable s.Distinct := inferInstanceAs (Decidable (List.Nodup _))

/-- The node is ready to fire. -/
def SynapseNode.Ready (node : SynapseNode) : Prop := node.refractory = 0 ∧ node.Excited

instance (node : SynapseNode) : Decidable node.Ready := inferInstanceAs (Decidable (_ ∧ _))

/-- The node is marked as fired by a propagation. -/
def SynapseNetwork.Fires (s : SynapseNetwork) (node : SynapseNode) : Prop :=
  ∃ i : Nat, s.nodes[i]? = some node ∧ (synapsePropagate s).recentlyFired[i]? = some 1

/-- Exactly the nodes that are ready at the start fire. -/
def SynapseNetwork.FiresSynchronously (s : SynapseNetwork) : Prop := ∀ node ∈ s.nodes, (s.Fires node ↔ node.Ready)

/-- The networks with the same nodes, added in any order, and the same links. -/
def SynapseNetwork.Reorders (t s : SynapseNetwork) : Prop := t.links = s.links ∧ t.nodes.Perm s.nodes

/-- The signals from one node to another. -/
def signalsFrom (links : List SynapseLink) (sender target : BitVec 8) : List (BitVec 16) :=
  (links.filter fun link => link.fromNode = sender ∧ link.toNode = target).map (·.weight.signExtend 16)

/-- The signals that a node gets from some nodes that fire in turn. -/
def signalsTo (links : List SynapseLink) (senders : List SynapseNode) (node : SynapseNode) : List (BitVec 16) :=
  senders.flatMap fun sender => signalsFrom links sender.nodeId node.nodeId

/-- A node after some signals. -/
def SynapseNode.absorb (signals : List (BitVec 16)) (node : SynapseNode) : SynapseNode :=
  signals.foldl (fun node signal => node.stimulate signal) node

/-- The node fires when the senders have fired before. -/
def FiresAfter (links : List SynapseLink) (senders : List SynapseNode) (node : SynapseNode) : Prop :=
  node.refractory = 0 ∧ (node.absorb (signalsTo links senders node)).Excited

instance (links : List SynapseLink) (senders : List SynapseNode) (node : SynapseNode) :
    Decidable (FiresAfter links senders node) := inferInstanceAs (Decidable (_ ∧ _))

/-- The signals of the ready nodes before it take no node across its threshold, unless it is refractory. -/
def SynapseNetwork.Undisturbed (s : SynapseNetwork) : Prop :=
  ∀ before node after, s.nodes = before ++ node :: after → node.refractory = 0 →
    ((node.absorb (signalsTo s.links (before.filter SynapseNode.Ready) node)).Excited ↔ node.Excited)

/-- The signals of some ready nodes, in any order, take no other node across its threshold, unless it is
refractory. -/
def SynapseNetwork.NeverDisturbed (s : SynapseNetwork) : Prop :=
  ∀ node ∈ s.nodes, node.refractory = 0 → ∀ senders : List SynapseNode, senders.Nodup →
    (∀ sender ∈ senders, sender ∈ s.nodes ∧ sender ≠ node ∧ sender.Ready) →
    ((node.absorb (signalsTo s.links senders node)).Excited ↔ node.Excited)

/-! ## Signals -/

section Signals

variable {node : SynapseNode} {signals : List (BitVec 16)} {links : List SynapseLink}

@[simp] theorem nodeId_absorb : (node.absorb signals).nodeId = node.nodeId := by
  induction signals generalizing node with
  | nil => rfl
  | cons signal signals ih => exact ih

@[simp] theorem refractory_absorb : (node.absorb signals).refractory = node.refractory := by
  induction signals generalizing node with
  | nil => rfl
  | cons signal signals ih => exact ih

theorem absorb_append (signals signals' : List (BitVec 16)) (node : SynapseNode) :
    node.absorb (signals ++ signals') = (node.absorb signals).absorb signals' := List.foldl_append

/-- The leak changes the activation and nothing else. -/
theorem exists_leak_eq (node : SynapseNode) : ∃ activation, node.leak = { node with activation := activation } := by
  rw [SynapseNode.leak]
  split
  · split
    · exact ⟨_, rfl⟩
    · exact ⟨_, rfl⟩
  · split
    · exact ⟨_, rfl⟩
    · exact ⟨_, rfl⟩

@[simp] theorem nodeId_leak : node.leak.nodeId = node.nodeId := by
  obtain ⟨activation, hleak⟩ := exists_leak_eq node
  rw [hleak]

/-- One more sender. -/
theorem signalsTo_concat (senders : List SynapseNode) (sender : SynapseNode) :
    signalsTo links (senders ++ [sender]) node =
      signalsTo links senders node ++ signalsFrom links sender.nodeId node.nodeId := by
  rw [signalsTo, List.flatMap_append, List.flatMap_singleton]
  rfl

end Signals

/-! ## Delivery -/

section Delivery

variable {s : SynapseNetwork} {nodeId : BitVec 8} {signal : BitVec 16} {i : Nat}

theorem nodup_of_distinct (h : s.Distinct) : s.nodes.Nodup := List.Nodup.of_map _ h

/-- The places of a table without two equal identifiers. -/
theorem SynapseNetwork.Distinct.place_inj (h : s.Distinct) {i j : Nat} {m n : SynapseNode}
    (hi : s.nodes[i]? = some m) (hj : s.nodes[j]? = some n) (hid : m.nodeId = n.nodeId) : i = j := by
  have hids : (s.nodes.map SynapseNode.nodeId)[i]? = (s.nodes.map SynapseNode.nodeId)[j]? := by
    rw [List.getElem?_map, List.getElem?_map, hi, hj, Option.map_some, Option.map_some, hid]
  refine (List.getElem?_inj ?_ h).1 hids
  rw [List.length_map]
  exact (List.getElem?_eq_some_iff.1 hi).1

/-- A stimulus reaches the node with the identifier, if there is one. -/
theorem nodes_stimulate (h : s.Distinct) :
    (synapseStimulate nodeId signal s).nodes =
      s.nodes.map fun node => if node.nodeId = nodeId then node.stimulate signal else node := by
  apply List.ext_getElem?
  intro j
  rw [synapseStimulate, List.getElem?_map]
  cases hfind : findNode s.nodes nodeId with
  | none =>
    dsimp only
    cases hj : s.nodes[j]? with
    | none => rfl
    | some node =>
      have hne := List.findIdx?_eq_none_iff.1 hfind node (List.mem_of_getElem? hj)
      rw [Option.map_some, if_neg (of_decide_eq_false hne)]
  | some i =>
    obtain ⟨hi, hid, -⟩ := List.findIdx?_eq_some_iff_getElem.1 hfind
    dsimp only [SynapseNetwork.modifyNode]
    rw [List.getElem?_modify]
    cases hj : s.nodes[j]? with
    | none => rfl
    | some node =>
      rw [Option.map_some]
      change some (if i = j then node.stimulate signal else node) = _
      by_cases hij : i = j
      · subst hij
        obtain rfl : s.nodes[i] = node := Option.some.inj ((List.getElem?_eq_getElem hi).symm.trans hj)
        rw [if_pos rfl, if_pos (of_decide_eq_true hid)]
      · have hne : node.nodeId ≠ nodeId := by
          intro heq
          exact hij (h.place_inj (List.getElem?_eq_getElem hi) hj ((of_decide_eq_true hid).trans heq.symm))
        rw [if_neg hij, if_neg hne]

theorem frame_stimulate (nodeId : BitVec 8) (signal : BitVec 16) (s : SynapseNetwork) :
    (synapseStimulate nodeId signal s).links = s.links ∧
      (synapseStimulate nodeId signal s).recentlyFired = s.recentlyFired := by
  rw [synapseStimulate]
  split
  · exact ⟨rfl, rfl⟩
  · exact ⟨rfl, rfl⟩

/-- A link of a node that fires stimulates its target. -/
theorem transmit_of_sender {link : SynapseLink} (hfrom : link.fromNode = nodeId) :
    s.transmit nodeId link = synapseStimulate link.toNode (link.weight.signExtend 16) s := by
  rw [SynapseNetwork.transmit, if_pos hfrom]
  cases hfind : findNode s.nodes link.toNode with
  | none => rw [synapseStimulate, hfind]; rfl
  | some i =>
    obtain ⟨hi, hid, -⟩ := List.findIdx?_eq_some_iff_getElem.1 hfind
    rw [Option.bind_some, List.getElem?_eq_getElem hi]
    dsimp only
    rw [of_decide_eq_true hid]

/-- What a link carries reaches its target, if its sender fires. -/
theorem nodes_transmit (h : s.Distinct) (link : SynapseLink) :
    (s.transmit nodeId link).nodes = s.nodes.map fun node => node.absorb (signalsFrom [link] nodeId node.nodeId) := by
  by_cases hfrom : link.fromNode = nodeId
  · rw [transmit_of_sender hfrom, nodes_stimulate h]
    apply List.map_congr_left
    intro node _
    rw [signalsFrom, List.filter_singleton]
    by_cases hto : node.nodeId = link.toNode
    · rw [if_pos hto, decide_eq_true ⟨hfrom, hto.symm⟩]
      rfl
    · rw [if_neg hto, decide_eq_false fun hboth => hto hboth.2.symm]
      rfl
  · rw [SynapseNetwork.transmit, if_neg hfrom]
    refine (List.map_id' _).symm.trans (List.map_congr_left fun node _ => ?_)
    rw [signalsFrom, List.filter_singleton, decide_eq_false fun hboth => hfrom hboth.1]
    rfl

theorem frame_transmit (nodeId : BitVec 8) (s : SynapseNetwork) (link : SynapseLink) :
    (s.transmit nodeId link).links = s.links ∧ (s.transmit nodeId link).recentlyFired = s.recentlyFired := by
  by_cases hfrom : link.fromNode = nodeId
  · rw [transmit_of_sender hfrom]
    exact frame_stimulate _ _ s
  · rw [SynapseNetwork.transmit, if_neg hfrom]
    exact ⟨rfl, rfl⟩

/-- A rewriting of the nodes that keeps their identifiers keeps them distinct. -/
theorem SynapseNetwork.Distinct.map (h : s.Distinct) {t : SynapseNetwork} {f : SynapseNode → SynapseNode}
    (ht : t.nodes = s.nodes.map f) (hf : ∀ node, (f node).nodeId = node.nodeId) : t.Distinct := by
  have hids : t.nodes.map SynapseNode.nodeId = s.nodes.map SynapseNode.nodeId := by
    rw [ht, List.map_map]
    exact List.map_congr_left fun node _ => hf node
  rw [SynapseNetwork.Distinct, hids]
  exact h

theorem frame_transmit_all (nodeId : BitVec 8) (links : List SynapseLink) (s : SynapseNetwork) :
    (links.foldl (SynapseNetwork.transmit nodeId) s).links = s.links ∧
      (links.foldl (SynapseNetwork.transmit nodeId) s).recentlyFired = s.recentlyFired := by
  induction links generalizing s with
  | nil => exact ⟨rfl, rfl⟩
  | cons link links ih =>
    obtain ⟨hlinks, hfired⟩ := frame_transmit nodeId s link
    obtain ⟨ihlinks, ihfired⟩ := ih (s.transmit nodeId link)
    exact ⟨ihlinks.trans hlinks, ihfired.trans hfired⟩

/-- A node that fires sends along all its links, in their order. -/
theorem nodes_transmit_all (h : s.Distinct) (links : List SynapseLink) :
    (links.foldl (SynapseNetwork.transmit nodeId) s).nodes =
      s.nodes.map fun node => node.absorb (signalsFrom links nodeId node.nodeId) := by
  induction links generalizing s with
  | nil => exact (List.map_id' _).symm
  | cons link links ih =>
    have hnodes := @nodes_transmit s nodeId h link
    have ihnodes := ih (h.map hnodes fun node => nodeId_absorb)
    rw [List.foldl_cons, ihnodes, hnodes, List.map_map]
    apply List.map_congr_left
    intro node _
    rw [Function.comp_apply, nodeId_absorb, ← absorb_append, signalsFrom, signalsFrom, signalsFrom, ← List.map_append,
      ← List.filter_append]
    rfl

/-! ### The links -/

theorem links_fire (i : Nat) (nodeId : BitVec 8) (s : SynapseNetwork) : (s.fire i nodeId).links = s.links :=
  (frame_transmit_all nodeId s.links _).1

theorem links_visit (s : SynapseNetwork) (i : Nat) : (s.visit i).links = s.links := by
  rw [SynapseNetwork.visit]
  split
  · split
    · rfl
    · split
      · exact links_fire i _ s
      · rfl
  · rfl

/-- A propagation rewrites no link. -/
theorem links_propagate (s : SynapseNetwork) : (synapsePropagate s).links = s.links := by
  have hvisits : ∀ (places : List Nat) (t : SynapseNetwork),
      (places.foldl SynapseNetwork.visit t).links = t.links := by
    intro places
    induction places with
    | nil => exact fun _ => rfl
    | cons i places ih => exact fun t => (ih (t.visit i)).trans (links_visit t i)
  exact hvisits _ _

end Delivery

/-! ## The pass is a sweep -/

section Pass

variable {s t : SynapseNetwork} {node : SynapseNode} {i k : Nat}

/-- The nodes that fire among the first `k`, each asked with the signals of those before it. -/
def SynapseNetwork.firedBefore (s : SynapseNetwork) (k : Nat) : List SynapseNode :=
  sweep (FiresAfter s.links) (s.nodes.take k)

/-- The invariant of the pass over `s` after `k` visits: the nodes that are still to be visited have absorbed the
signals of those that fired, and these are marked. -/
structure Swept (s : SynapseNetwork) (k : Nat) (t : SynapseNetwork) : Prop where
  links : t.links = s.links
  ids : t.nodes.map SynapseNode.nodeId = s.nodes.map SynapseNode.nodeId
  rest : t.nodes.drop k = (s.nodes.drop k).map fun node => node.absorb (signalsTo s.links (s.firedBefore k) node)
  fired : ∀ i : Nat, t.recentlyFired[i]? = some 1 ↔ ∃ node ∈ s.firedBefore k, s.nodes[i]? = some node

theorem firedBefore_succ (h : s.nodes[k]? = some node) :
    s.firedBefore (k + 1) =
      if FiresAfter s.links (s.firedBefore k) node then s.firedBefore k ++ [node] else s.firedBefore k := by
  rw [SynapseNetwork.firedBefore, List.take_add_one, h]
  exact sweep_concat _ _

/-- A write that keeps the identifiers. -/
theorem ids_modifyNode {f : SynapseNode → SynapseNode} (hf : ∀ node, (f node).nodeId = node.nodeId) :
    (t.modifyNode i f).nodes.map SynapseNode.nodeId = t.nodes.map SynapseNode.nodeId := by
  apply List.ext_getElem?
  intro j
  rw [List.getElem?_map, List.getElem?_map]
  change (t.nodes.modify i f)[j]?.map _ = _
  rw [List.getElem?_modify]
  cases t.nodes[j]? with
  | none => rfl
  | some node =>
    change some (if i = j then f node else node).nodeId = some node.nodeId
    split
    · rw [hf]
    · rfl

/-- What firing does. -/
theorem fire_spec (h : t.Distinct) (i : Nat) (nodeId : BitVec 8) :
    (t.fire i nodeId).nodes.map SynapseNode.nodeId = t.nodes.map SynapseNode.nodeId ∧
      (t.fire i nodeId).nodes.drop (i + 1) =
        (t.nodes.drop (i + 1)).map (fun node => node.absorb (signalsFrom t.links nodeId node.nodeId)) ∧
      (t.fire i nodeId).links = t.links ∧
      (t.fire i nodeId).recentlyFired = t.recentlyFired.setIfInBounds i 1 := by
  let marked : SynapseNetwork :=
    { t.modifyNode i (fun node => { node with fireCount := node.fireCount + 1, refractory := 3 }) with
      recentlyFired := t.recentlyFired.setIfInBounds i 1 }
  have hids : marked.nodes.map SynapseNode.nodeId = t.nodes.map SynapseNode.nodeId := ids_modifyNode fun _ => rfl
  have hmarked : marked.Distinct := by
    rw [SynapseNetwork.Distinct, hids]
    exact h
  have hnodes := @nodes_transmit_all marked nodeId hmarked t.links
  refine ⟨?_, ?_, links_fire i nodeId t, (frame_transmit_all nodeId t.links marked).2⟩
  · change (t.links.foldl (SynapseNetwork.transmit nodeId) marked).nodes.map _ = _
    rw [hnodes, List.map_map, ← hids]
    exact List.map_congr_left fun node _ => nodeId_absorb
  · change (t.links.foldl (SynapseNetwork.transmit nodeId) marked).nodes.drop _ = _
    rw [hnodes, ← List.map_drop]
    change ((t.nodes.modify i _).drop (i + 1)).map _ = _
    rw [List.drop_modify_of_lt _ _ _ _ (Nat.lt_succ_self i)]

/-- The node that is visited next. -/
theorem Swept.next (h : Swept s k t) (hk : s.nodes[k]? = some node) :
    t.nodes[k]? = some (node.absorb (signalsTo s.links (s.firedBefore k) node)) := by
  have hhead := congrArg (fun nodes : List SynapseNode => nodes[0]?) h.rest
  simp only [List.getElem?_map, List.getElem?_drop, Nat.add_zero, hk, Option.map_some] at hhead
  exact hhead

/-- The nodes behind it. -/
theorem Swept.behind (h : Swept s k t) :
    t.nodes.drop (k + 1) =
      (s.nodes.drop (k + 1)).map fun node => node.absorb (signalsTo s.links (s.firedBefore k) node) := by
  rw [← List.drop_drop, h.rest, ← List.map_drop, List.drop_drop]

theorem Swept.distinct (h : Swept s k t) (hs : s.Distinct) : t.Distinct := by
  rw [SynapseNetwork.Distinct, h.ids]
  exact hs

/-- A visit of a node that does not fire. -/
theorem Swept.skip (h : Swept s k t) (hk : s.nodes[k]? = some node)
    (hrests : ¬ FiresAfter s.links (s.firedBefore k) node) {f : SynapseNode → SynapseNode}
    (hf : ∀ node, (f node).nodeId = node.nodeId) : Swept s (k + 1) (t.modifyNode k f) := by
  have hsame : s.firedBefore (k + 1) = s.firedBefore k := by rw [firedBefore_succ hk, if_neg hrests]
  refine ⟨h.links, (ids_modifyNode hf).trans h.ids, ?_, ?_⟩
  · change (t.nodes.modify k f).drop (k + 1) = _
    rw [List.drop_modify_of_lt _ _ _ _ (Nat.lt_succ_self k), h.behind, hsame]
  · rw [hsame]
    exact h.fired

/-- A visit of a node that fires. -/
theorem Swept.fire (h : Swept s k t) (hs : s.Distinct) (hk : s.nodes[k]? = some node)
    (hfires : FiresAfter s.links (s.firedBefore k) node) :
    Swept s (k + 1) ((t.fire k node.nodeId).modifyNode k SynapseNode.leak) := by
  have hmore : s.firedBefore (k + 1) = s.firedBefore k ++ [node] := by rw [firedBefore_succ hk, if_pos hfires]
  obtain ⟨hids, hnodes, hlinks, hfired⟩ := fire_spec (h.distinct hs) k node.nodeId
  refine ⟨hlinks.trans h.links, ((ids_modifyNode fun _ => nodeId_leak).trans hids).trans h.ids, ?_, fun i => ?_⟩
  · change ((t.fire k node.nodeId).nodes.modify k _).drop (k + 1) = _
    rw [List.drop_modify_of_lt _ _ _ _ (Nat.lt_succ_self k), hnodes, h.behind, List.map_map, hmore, h.links]
    apply List.map_congr_left
    intro target _
    rw [Function.comp_apply, nodeId_absorb, ← absorb_append, signalsTo_concat]
  · change (t.fire k node.nodeId).recentlyFired[i]? = some 1 ↔ _
    rw [hfired, hmore]
    by_cases hik : i = k
    · subst hik
      have hlt : i < synapseMaxNodes := (List.getElem?_eq_some_iff.1 hk).1.trans_le s.nodes_le
      rw [Vector.getElem?_setIfInBounds_self_of_lt hlt]
      exact iff_of_true rfl ⟨node, List.mem_append_right _ List.mem_cons_self, hk⟩
    · rw [Vector.getElem?_setIfInBounds_ne (Ne.symm hik), h.fired i]
      constructor
      · rintro ⟨other, hother, hi⟩
        exact ⟨other, List.mem_append_left _ hother, hi⟩
      · rintro ⟨other, hother, hi⟩
        rcases List.mem_append.1 hother with hother | hother
        · exact ⟨other, hother, hi⟩
        · -- the node that fires now is at no other place
          obtain rfl := List.mem_singleton.1 hother
          exact absurd (hs.place_inj hi hk rfl) hik

/-- A visit goes one node on. -/
theorem Swept.visit (h : Swept s k t) (hs : s.Distinct) (hk : s.nodes[k]? = some node) :
    Swept s (k + 1) (t.visit k) := by
  rw [SynapseNetwork.visit, h.next hk]
  dsimp only
  rw [refractory_absorb, nodeId_absorb]
  by_cases hrefractory : 0 < node.refractory.toNat
  · rw [if_pos hrefractory]
    refine h.skip hk (fun hfires => ?_) fun _ => rfl
    rw [hfires.1] at hrefractory
    exact absurd hrefractory (by decide)
  · have hzero : node.refractory = 0 := BitVec.eq_of_toNat_eq (Nat.eq_zero_of_not_pos hrefractory)
    rw [if_neg hrefractory]
    by_cases hexcited : (node.absorb (signalsTo s.links (s.firedBefore k) node)).Excited
    · rw [if_pos hexcited]
      exact h.fire hs hk ⟨hzero, hexcited⟩
    · rw [if_neg hexcited]
      exact h.skip hk (fun hfires => hexcited hfires.2) fun _ => nodeId_leak

theorem swept_of_le (hs : s.Distinct) (hk : k ≤ s.nodes.length) :
    Swept s k ((List.range k).foldl SynapseNetwork.visit { s with recentlyFired := .replicate _ 0 }) := by
  induction k with
  | zero =>
    have hnone : s.firedBefore 0 = [] := rfl
    refine ⟨rfl, rfl, ?_, fun i => ?_⟩
    · rw [hnone]
      exact (List.map_id' _).symm
    · rw [hnone]
      refine iff_of_false (fun hmarked => ?_) nofun
      change (Vector.replicate synapseMaxNodes (0 : BitVec 8))[i]? = some 1 at hmarked
      obtain ⟨hi, hone⟩ := Vector.getElem?_eq_some_iff.1 hmarked
      rw [Vector.getElem_replicate] at hone
      exact absurd hone (by decide)
  | succ k ih =>
    rw [List.range_succ, List.foldl_append]
    exact (ih (Nat.le_of_succ_le hk)).visit hs (List.getElem?_eq_getElem hk)

/-- The nodes that fire are those that a sweep chooses. -/
theorem fires_iff_mem_sweep (hs : s.Distinct) (hnode : node ∈ s.nodes) :
    s.Fires node ↔ node ∈ sweep (FiresAfter s.links) s.nodes := by
  have hswept := swept_of_le hs (Nat.le_refl _)
  have hall : s.firedBefore s.nodes.length = sweep (FiresAfter s.links) s.nodes := by
    rw [SynapseNetwork.firedBefore, List.take_length]
  rw [← hall]
  constructor
  · rintro ⟨i, hi, hmarked⟩
    obtain ⟨other, hother, hi'⟩ := (hswept.fired i).1 hmarked
    obtain rfl := Option.some.inj (hi.symm.trans hi')
    exact hother
  · intro hmem
    obtain ⟨i, hi⟩ := List.mem_iff_getElem?.1 hnode
    exact ⟨i, hi, (hswept.fired i).2 ⟨node, hmem, hi⟩⟩

end Pass

/-! ## Two phases -/

section Phases

variable {s : SynapseNetwork}

/-- With one answer for both, a condition on the nodes that may fire is one on all. -/
theorem firesAfter_iff_ready (senders : List SynapseNode) (node : SynapseNode) :
    (FiresAfter s.links senders node ↔ node.Ready) ↔
      (node.refractory = 0 → ((node.absorb (signalsTo s.links senders node)).Excited ↔ node.Excited)) :=
  and_congr_right_iff

theorem undisturbed_iff :
    s.Undisturbed ↔ Sweep.Undisturbed SynapseNode.Ready (FiresAfter s.links) s.nodes :=
  forall₄_congr fun _ node _ _ => (firesAfter_iff_ready _ node).symm

theorem neverDisturbed_iff :
    s.NeverDisturbed ↔ Sweep.NeverDisturbed SynapseNode.Ready (FiresAfter s.links) s.nodes := by
  constructor
  · intro h node hnode senders hnodup hsenders
    exact (firesAfter_iff_ready senders node).2 fun hzero => h node hnode hzero senders hnodup hsenders
  · intro h node hnode hzero senders hnodup hsenders
    exact (firesAfter_iff_ready senders node).1 (h node hnode senders hnodup hsenders) hzero

theorem firesSynchronously_iff (hs : s.Distinct) : s.FiresSynchronously ↔ s.Undisturbed := by
  rw [undisturbed_iff, ← sweep_iff SynapseNode.Ready (nodup_of_distinct hs)]
  exact forall₂_congr fun node hnode => by rw [fires_iff_mem_sweep hs hnode]

/-- The nodes that are ready at the start are those that fire, if and only if the signals of the ready nodes before
it take no node across its threshold; this is so in every order of the nodes, if and only if the signals of no
choice of ready nodes do. -/
theorem fires_synchronously_iff (hs : s.Distinct) :
    (s.FiresSynchronously ↔ s.Undisturbed) ∧
      ((∀ t : SynapseNetwork, t.Reorders s → t.FiresSynchronously) ↔ s.NeverDisturbed) := by
  refine ⟨firesSynchronously_iff hs, ?_⟩
  have hdistinct : ∀ t : SynapseNetwork, t.nodes.Perm s.nodes → t.Distinct := fun t hperm =>
    (hperm.map SynapseNode.nodeId).nodup_iff.2 hs
  rw [neverDisturbed_iff, ← undisturbed_perm_iff SynapseNode.Ready (nodup_of_distinct hs)]
  constructor
  · intro h nodes hperm
    -- the network with its nodes in the order asked for
    let t : SynapseNetwork := { s with nodes := nodes, nodes_le := hperm.length_eq ▸ s.nodes_le }
    exact undisturbed_iff.1 ((firesSynchronously_iff (hdistinct t hperm)).1 (h t ⟨rfl, hperm⟩))
  · rintro h t ⟨hlinks, hperm⟩
    rw [firesSynchronously_iff (hdistinct t hperm), undisturbed_iff, hlinks]
    exact h t.nodes hperm

/-- Two nodes that are added in turn, a link from the first identifier to the second, and a stimulus of the
first. -/
def relayNetwork (first second : BitVec 8) : SynapseNetwork :=
  let s := (synapseAddNode first 5 (synapseInit .zero)).2
  let s := (synapseAddNode second 5 s).2
  synapseStimulate 1 10 (synapseConnect 1 2 10 0 s).2

theorem fires_synchronously_relay :
    ((relayNetwork 1 2).FiresSynchronously ↔ (relayNetwork 1 2).Undisturbed) ∧
      ((∀ t : SynapseNetwork, t.Reorders (relayNetwork 1 2) → t.FiresSynchronously) ↔
        (relayNetwork 1 2).NeverDisturbed) :=
  fires_synchronously_iff (by decide)

/-- A node at rest fires with the node that excites it, if it was added behind it, and not if it was added
before it. -/
theorem exists_not_firesSynchronously :
    ∃ (s t : SynapseNetwork) (node : SynapseNode), s.Distinct ∧ ¬ s.FiresSynchronously ∧ t.Reorders s ∧
      node ∈ s.nodes ∧ ¬ node.Ready ∧ s.Fires node ∧ ¬ t.Fires node := by
  have hmem : (⟨2, 0, 5, 0, 0⟩ : SynapseNode) ∈ (relayNetwork 1 2).nodes := by decide
  have hrest : ¬ (⟨2, 0, 5, 0, 0⟩ : SynapseNode).Ready := by decide
  have hfires : (relayNetwork 1 2).Fires ⟨2, 0, 5, 0, 0⟩ := ⟨1, by decide, by decide⟩
  have hlater : ¬ (relayNetwork 2 1).Fires ⟨2, 0, 5, 0, 0⟩ := by
    rw [fires_iff_mem_sweep (by decide) (by decide)]
    decide
  refine ⟨relayNetwork 1 2, relayNetwork 2 1, ⟨2, 0, 5, 0, 0⟩, by decide, fun h => ?_, ⟨rfl, ?_⟩, hmem, hrest, hfires,
    hlater⟩
  · exact hrest ((h _ hmem).1 hfires)
  · exact List.Perm.swap _ _ _

end Phases

end OperatingOrganism.Vital

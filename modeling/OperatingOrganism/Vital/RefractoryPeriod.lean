import OperatingOrganism.Library.Execution
import OperatingOrganism.Vital.HebbianLearning
import OperatingOrganism.Vital.SynapsePropagation

/-!
# The refractory period

A node that fires is refractory for the next three propagations: its visit only counts down. Nothing else writes the
counter, neither a stimulus nor the signals of a node to itself or along a cycle within the same pass. So a node
fires at most once in four propagations, whatever is called in between, and the clamp of `synapse_stimulate` keeps
every activation in the range of an `int8_t` (`refractory_period`). The identifiers need not be distinct.
-/

set_option autoImplicit false

namespace OperatingOrganism.Vital

open OperatingOrganism.Execution

/-- The calls of `synapse_network.c` that act on a network that was initialised. -/
inductive ActivityCall where
  | addNode (nodeId threshold : BitVec 8)
  | connect (fromNode toNode weight plasticity : BitVec 8)
  | stimulate (nodeId : BitVec 8) (signal : BitVec 16)
  | propagate
  | hebbianLearning
  deriving DecidableEq

/-- What a call does to the network. -/
def ActivityCall.run (s : SynapseNetwork) : ActivityCall → SynapseNetwork
  | addNode nodeId threshold => (synapseAddNode nodeId threshold s).2
  | connect fromNode toNode weight plasticity => (synapseConnect fromNode toNode weight plasticity s).2
  | stimulate nodeId signal => synapseStimulate nodeId signal s
  | propagate => synapsePropagate s
  | hebbianLearning => synapseHebbianLearning s

/-- The node at a place is marked as fired by a propagation. -/
def SynapseNetwork.FiresAt (s : SynapseNetwork) (i : Nat) : Prop :=
  (synapsePropagate s).recentlyFired[i]? = some 1

instance (s : SynapseNetwork) (i : Nat) : Decidable (s.FiresAt i) := inferInstanceAs (Decidable (_ = _))

/-- How often the node at a place fires during some calls. -/
def firings (i : Nat) (s : SynapseNetwork) (calls : List ActivityCall) : Nat :=
  countSteps (fun s call => call = .propagate ∧ s.FiresAt i) s (driven ActivityCall.run s calls)

/-- The refractory counter at a place; a node that is not there yet is not refractory. -/
def SynapseNetwork.refractoryAt (s : SynapseNetwork) (i : Nat) : Nat :=
  (s.nodes[i]?.map fun node => node.refractory.toNat).getD 0

/-- The number of firings that is noted at a place. -/
def SynapseNetwork.fireCountAt (s : SynapseNetwork) (i : Nat) : BitVec 32 :=
  (s.nodes[i]?.map SynapseNode.fireCount).getD 0

/-- The activation is in the range of the clamp. -/
def SynapseNode.Clamped (node : SynapseNode) : Prop := -128 ≤ node.activation.toInt ∧ node.activation.toInt ≤ 127

def SynapseNetwork.Clamped (s : SynapseNetwork) : Prop := ∀ node ∈ s.nodes, node.Clamped

/-- Along the calls every activation is clamped; in any part of them with at most four propagations a node fires at
most once; and what a node notes is how often it has fired. -/
structure KeepsRefractory (s : SynapseNetwork) (calls : List ActivityCall) : Prop where
  clamped : AllStates SynapseNetwork.Clamped s (driven ActivityCall.run s calls)
  once : ∀ before window after, calls = before ++ window ++ after → window.count .propagate ≤ 4 →
    ∀ i, firings i (before.foldl ActivityCall.run s) window ≤ 1
  noted : ∀ before window after, calls = before ++ window ++ after → ∀ i,
    (window.foldl ActivityCall.run (before.foldl ActivityCall.run s)).fireCountAt i =
      (before.foldl ActivityCall.run s).fireCountAt i +
        .ofNat 32 (firings i (before.foldl ActivityCall.run s) window)

/-! ## The clock of a place -/

section Clock

variable {s : SynapseNetwork} {i j : Nat} {nodeId : BitVec 8}

/-- The two counters of a node. -/
def SynapseNode.clock (node : SynapseNode) : BitVec 8 × BitVec 32 := (node.refractory, node.fireCount)

/-- The counters of a place and its mark. -/
def SynapseNetwork.clockAt (s : SynapseNetwork) (i : Nat) :
    Option (BitVec 8 × BitVec 32) × Option (BitVec 8) := (s.nodes[i]?.map SynapseNode.clock, s.recentlyFired[i]?)

/-- A write seen from its own place. -/
theorem nodes_modifyNode_self (s : SynapseNetwork) (i : Nat) (f : SynapseNode → SynapseNode) :
    (s.modifyNode i f).nodes[i]? = s.nodes[i]?.map f := by
  change (s.nodes.modify i f)[i]? = _
  rw [List.getElem?_modify_eq]
  rfl

/-- A write seen from another place. -/
theorem nodes_modifyNode_of_ne (h : j ≠ i) (s : SynapseNetwork) (f : SynapseNode → SynapseNode) :
    (s.modifyNode j f).nodes[i]? = s.nodes[i]? := by
  change (s.nodes.modify j f)[i]? = _
  rw [List.getElem?_modify]
  cases s.nodes[i]? with
  | none => rfl
  | some node => exact congrArg some (if_neg h)

theorem clockAt_modifyNode_of_ne (h : j ≠ i) (f : SynapseNode → SynapseNode) :
    (s.modifyNode j f).clockAt i = s.clockAt i := by
  rw [SynapseNetwork.clockAt, nodes_modifyNode_of_ne h]
  rfl

/-- A write that keeps the counters. -/
theorem clockAt_modifyNode_of_keeps {f : SynapseNode → SynapseNode} (hf : ∀ node, (f node).clock = node.clock) :
    (s.modifyNode j f).clockAt i = s.clockAt i := by
  by_cases h : j = i
  · subst h
    rw [SynapseNetwork.clockAt, nodes_modifyNode_self, Option.map_map]
    exact Prod.ext (Option.map_congr fun node _ => hf node) rfl
  · exact clockAt_modifyNode_of_ne h f

theorem clockAt_stimulate (nodeId : BitVec 8) (signal : BitVec 16) (s : SynapseNetwork) (i : Nat) :
    (synapseStimulate nodeId signal s).clockAt i = s.clockAt i := by
  rw [synapseStimulate]
  split
  · exact clockAt_modifyNode_of_keeps fun _ => rfl
  · rfl

/-- A signal touches no counter. -/
theorem clockAt_transmit (nodeId : BitVec 8) (links : List SynapseLink) (s : SynapseNetwork) (i : Nat) :
    (links.foldl (SynapseNetwork.transmit nodeId) s).clockAt i = s.clockAt i := by
  induction links generalizing s with
  | nil => rfl
  | cons link links ih =>
    rw [List.foldl_cons, ih, SynapseNetwork.transmit]
    split
    · split
      · exact clockAt_stimulate _ _ s i
      · rfl
    · rfl

theorem clock_leak (node : SynapseNode) : node.leak.clock = node.clock := by
  obtain ⟨activation, hleak⟩ := exists_leak_eq node
  rw [hleak]
  rfl

/-- Firing at another place. -/
theorem clockAt_fire_of_ne (h : j ≠ i) : (s.fire j nodeId).clockAt i = s.clockAt i := by
  rw [SynapseNetwork.fire, clockAt_transmit]
  refine Prod.ext ?_ (Vector.getElem?_setIfInBounds_ne h)
  change (s.modifyNode j _).nodes[i]?.map _ = _
  rw [nodes_modifyNode_of_ne h]
  rfl

/-- Firing starts the refractory period, counts and marks. -/
theorem clockAt_fire_self {node : SynapseNode} (hi : s.nodes[i]? = some node) :
    (s.fire i nodeId).clockAt i = (some (3, node.fireCount + 1), some 1) := by
  have hlt : i < synapseMaxNodes := (List.getElem?_eq_some_iff.1 hi).1.trans_le s.nodes_le
  rw [SynapseNetwork.fire, clockAt_transmit]
  refine Prod.ext ?_ (Vector.getElem?_setIfInBounds_self_of_lt hlt)
  change (s.modifyNode i _).nodes[i]?.map _ = _
  rw [nodes_modifyNode_self, hi]
  rfl

/-- A visit of another place. -/
theorem clockAt_visit_of_ne (h : j ≠ i) : (s.visit j).clockAt i = s.clockAt i := by
  rw [SynapseNetwork.visit]
  split
  · split
    · exact clockAt_modifyNode_of_ne h _
    · dsimp only
      rw [clockAt_modifyNode_of_ne h]
      split
      · exact clockAt_fire_of_ne h
      · rfl
  · rfl

/-- The visit of a node counts down, fires or does nothing to the counters. -/
theorem clockAt_visit_self {node : SynapseNode} (hi : s.nodes[i]? = some node) :
    (s.visit i).clockAt i =
      if 0 < node.refractory.toNat then (some (node.refractory - 1, node.fireCount), s.recentlyFired[i]?)
      else if node.Excited then (some (3, node.fireCount + 1), some 1)
      else s.clockAt i := by
  rw [SynapseNetwork.visit, hi]
  dsimp only
  split
  · rw [SynapseNetwork.clockAt, nodes_modifyNode_self, hi]
    rfl
  · rw [clockAt_modifyNode_of_keeps clock_leak]
    split
    · exact clockAt_fire_self hi
    · rfl

/-- Visits of other places. -/
theorem clockAt_visits {places : List Nat} (h : i ∉ places) (s : SynapseNetwork) :
    (places.foldl SynapseNetwork.visit s).clockAt i = s.clockAt i := by
  induction places generalizing s with
  | nil => rfl
  | cons j places ih =>
    rw [List.mem_cons, not_or] at h
    rw [List.foldl_cons, ih h.2, clockAt_visit_of_ne (Ne.symm h.1)]

/-! ### One propagation -/

/-- The counters after a propagation are those after the only visit of the place, which finds a node with the
counters that it had before. -/
theorem clockAt_propagate {node : SynapseNode} (hi : s.nodes[i]? = some node) :
    ∃ (t : SynapseNetwork) (node' : SynapseNode), t.nodes[i]? = some node' ∧ node'.clock = node.clock ∧
      t.recentlyFired[i]? = some 0 ∧ (synapsePropagate s).clockAt i = (t.visit i).clockAt i := by
  obtain ⟨hlt, -⟩ := List.getElem?_eq_some_iff.1 hi
  obtain ⟨before, after, hplaces⟩ := List.append_of_mem (List.mem_range.2 hlt)
  have hnodup := List.nodup_range (n := s.nodes.length)
  rw [hplaces, List.nodup_append, List.nodup_cons] at hnodup
  obtain ⟨-, ⟨hafter, -⟩, hdisjoint⟩ := hnodup
  have hbefore : i ∉ before := fun hmem => hdisjoint i hmem i List.mem_cons_self rfl
  let start : SynapseNetwork := { s with recentlyFired := .replicate _ 0 }
  have hstart : (before.foldl SynapseNetwork.visit start).clockAt i = (some node.clock, some 0) := by
    rw [clockAt_visits hbefore]
    refine Prod.ext (congrArg (Option.map SynapseNode.clock) hi) ?_
    change (Vector.replicate synapseMaxNodes (0 : BitVec 8))[i]? = some 0
    rw [Vector.getElem?_replicate, if_pos (hlt.trans_le s.nodes_le)]
  obtain ⟨node', hnode', hclock⟩ := Option.map_eq_some_iff.1 (congrArg Prod.fst hstart)
  refine ⟨_, node', hnode', hclock, congrArg Prod.snd hstart, ?_⟩
  rw [synapsePropagate, hplaces, List.foldl_append, List.foldl_cons, clockAt_visits hafter]

theorem refractoryAt_eq (s : SynapseNetwork) (i : Nat) :
    s.refractoryAt i = ((s.clockAt i).1.map fun clock => clock.1.toNat).getD 0 := by
  rw [SynapseNetwork.clockAt, Option.map_map]
  rfl

theorem fireCountAt_eq (s : SynapseNetwork) (i : Nat) :
    s.fireCountAt i = ((s.clockAt i).1.map Prod.snd).getD 0 := by
  rw [SynapseNetwork.clockAt, Option.map_map]
  rfl

theorem firesAt_iff (s : SynapseNetwork) (i : Nat) :
    s.FiresAt i ↔ ((synapsePropagate s).clockAt i).2 = some 1 := Iff.rfl

/-- What a propagation does to the counters of a place: the node counts down, or it was not refractory, fires, and
is refractory from then on. -/
theorem propagate_cases (s : SynapseNetwork) (i : Nat) :
    (¬ s.FiresAt i ∧ (synapsePropagate s).refractoryAt i = s.refractoryAt i - 1 ∧
        (synapsePropagate s).fireCountAt i = s.fireCountAt i) ∨
      (s.FiresAt i ∧ s.refractoryAt i = 0 ∧ (synapsePropagate s).refractoryAt i = 3 ∧
        (synapsePropagate s).fireCountAt i = s.fireCountAt i + 1) := by
  rw [firesAt_iff, refractoryAt_eq, refractoryAt_eq, fireCountAt_eq, fireCountAt_eq]
  cases hi : s.nodes[i]? with
  | none =>
    -- no visit is one of this place, and its mark is cleared
    have hplaces : i ∉ List.range s.nodes.length := fun hmem =>
      Nat.not_lt.2 (List.getElem?_eq_none_iff.1 hi) (List.mem_range.1 hmem)
    have hnone : (s.clockAt i).1 = none := congrArg (Option.map SynapseNode.clock) hi
    have hmark : (Vector.replicate synapseMaxNodes (0 : BitVec 8))[i]? ≠ some 1 := by
      intro hone
      obtain ⟨hlt, heq⟩ := Vector.getElem?_eq_some_iff.1 hone
      rw [Vector.getElem_replicate] at heq
      exact absurd heq (by decide)
    rw [synapsePropagate, clockAt_visits hplaces]
    refine .inl ⟨hmark, ?_, ?_⟩
    · change ((s.clockAt i).1.map _).getD 0 = _
      rw [hnone]
      rfl
    · rfl
  | some node =>
    obtain ⟨t, node', hnode', hclock, hmark, hvisit⟩ := clockAt_propagate hi
    have hbefore : (s.clockAt i).1 = some node'.clock := by
      rw [SynapseNetwork.clockAt, hi, hclock]
      rfl
    rw [hvisit, hbefore, clockAt_visit_self hnode']
    have hunmarked : (some 0 : Option (BitVec 8)) ≠ some 1 := by decide
    split
    · next hrefractory =>
      refine .inl ⟨hmark ▸ hunmarked, ?_, rfl⟩
      change (node'.refractory - 1).toNat = node'.refractory.toNat - 1
      exact BitVec.toNat_sub_of_le (BitVec.le_def.2 hrefractory)
    · next hready =>
      have hzero : node'.refractory.toNat = 0 := Nat.eq_zero_of_not_pos hready
      split
      · exact .inr ⟨rfl, hzero, rfl, rfl⟩
      · have hsame : t.clockAt i = (some node'.clock, some 0) := by
          rw [SynapseNetwork.clockAt, hnode', hmark]
          rfl
        rw [hsame]
        refine .inl ⟨hunmarked, ?_, rfl⟩
        change node'.refractory.toNat = node'.refractory.toNat - 1
        rw [hzero]

/-- The other calls leave the counters as they are; a node that is added starts with zeros. -/
theorem counters_of_ne_propagate {call : ActivityCall} (h : call ≠ .propagate) (s : SynapseNetwork) (i : Nat) :
    (call.run s).refractoryAt i = s.refractoryAt i ∧ (call.run s).fireCountAt i = s.fireCountAt i := by
  cases call with
  | addNode nodeId threshold =>
    rw [ActivityCall.run, synapseAddNode]
    split
    · exact ⟨rfl, rfl⟩
    · -- a place behind the new node, the place of the new node, or one before it
      simp only [SynapseNetwork.refractoryAt, SynapseNetwork.fireCountAt, List.getElem?_append,
        List.getElem?_singleton]
      split
      · exact ⟨rfl, rfl⟩
      · next hge =>
        rw [List.getElem?_eq_none_iff.2 (Nat.not_lt.1 hge)]
        split
        · exact ⟨rfl, rfl⟩
        · exact ⟨rfl, rfl⟩
  | connect fromNode toNode weight plasticity =>
    rw [ActivityCall.run, synapseConnect]
    split
    · exact ⟨rfl, rfl⟩
    · exact ⟨rfl, rfl⟩
  | stimulate nodeId signal =>
    have hclock := clockAt_stimulate nodeId signal s i
    rw [refractoryAt_eq, refractoryAt_eq, fireCountAt_eq, fireCountAt_eq, ActivityCall.run, hclock]
    exact ⟨rfl, rfl⟩
  | propagate => exact absurd rfl h
  | hebbianLearning => exact ⟨rfl, rfl⟩

end Clock

/-! ## Windows -/

section Window

variable {s : SynapseNetwork} {i : Nat} {call : ActivityCall} {calls : List ActivityCall}

theorem firings_cons (i : Nat) (s : SynapseNetwork) (call : ActivityCall) (calls : List ActivityCall) :
    firings i s (call :: calls) =
      (decide (call = .propagate ∧ s.FiresAt i)).toNat + firings i (call.run s) calls := rfl

/-- A call that is no propagation fires nothing. -/
theorem firings_cons_of_ne (h : call ≠ .propagate) : firings i s (call :: calls) = firings i (call.run s) calls := by
  rw [firings_cons, decide_eq_false fun hboth => h hboth.1]
  exact Nat.zero_add _

theorem firings_propagate_of_quiet (h : ¬ s.FiresAt i) :
    firings i s (.propagate :: calls) = firings i (synapsePropagate s) calls := by
  rw [firings_cons, decide_eq_false fun hboth => h hboth.2]
  exact Nat.zero_add _

theorem firings_propagate_of_fires (h : s.FiresAt i) :
    firings i s (.propagate :: calls) = 1 + firings i (synapsePropagate s) calls := by
  rw [firings_cons, decide_eq_true ⟨rfl, h⟩]
  rfl

/-- A refractory node stays silent for as many propagations as its counter says. -/
theorem firings_eq_zero (h : calls.count .propagate ≤ s.refractoryAt i) : firings i s calls = 0 := by
  induction calls generalizing s with
  | nil => rfl
  | cons call calls ih =>
    by_cases hcall : call = .propagate
    · subst hcall
      rw [List.count_cons_self] at h
      rcases propagate_cases s i with ⟨hquiet, hdown, -⟩ | ⟨-, hzero, -, -⟩
      · rw [firings_propagate_of_quiet hquiet]
        exact ih (by rw [hdown]; omega)
      · omega
    · rw [List.count_cons_of_ne hcall] at h
      rw [firings_cons_of_ne hcall]
      exact ih (by rwa [(counters_of_ne_propagate hcall s i).1])

/-- In a window with four propagations a node fires at most once: after it has fired, it is refractory for the
rest. -/
theorem firings_le_one (h : calls.count .propagate ≤ 4) : firings i s calls ≤ 1 := by
  induction calls generalizing s with
  | nil => exact Nat.zero_le 1
  | cons call calls ih =>
    by_cases hcall : call = .propagate
    · subst hcall
      rw [List.count_cons_self] at h
      rcases propagate_cases s i with ⟨hquiet, -, -⟩ | ⟨hfires, -, hthree, -⟩
      · rw [firings_propagate_of_quiet hquiet]
        exact ih (Nat.le_of_succ_le h)
      · have hrest : firings i (synapsePropagate s) calls = 0 := firings_eq_zero (by rw [hthree]; omega)
        rw [firings_propagate_of_fires hfires, hrest]
    · rw [List.count_cons_of_ne hcall] at h
      rw [firings_cons_of_ne hcall]
      exact ih h

/-- What a node notes is how often it has fired. -/
theorem fireCountAt_run (i : Nat) (s : SynapseNetwork) (calls : List ActivityCall) :
    (calls.foldl ActivityCall.run s).fireCountAt i = s.fireCountAt i + .ofNat 32 (firings i s calls) := by
  induction calls generalizing s with
  | nil => exact (BitVec.add_zero _).symm
  | cons call calls ih =>
    rw [List.foldl_cons, ih]
    by_cases hcall : call = .propagate
    · subst hcall
      rcases propagate_cases s i with ⟨hquiet, -, hsame⟩ | ⟨hfires, -, -, hmore⟩
      · rw [firings_propagate_of_quiet hquiet, ActivityCall.run, hsame]
      · rw [firings_propagate_of_fires hfires, ActivityCall.run, hmore, BitVec.ofNat_add, BitVec.add_assoc]
        rfl
    · rw [firings_cons_of_ne hcall, (counters_of_ne_propagate hcall s i).2]

end Window

/-! ## Activations -/

section Activation

variable {s : SynapseNetwork} {node : SynapseNode}

/-- The clamp of a stimulus, whatever the signal. -/
theorem clamped_stimulate (signal : BitVec 16) (node : SynapseNode) : (node.stimulate signal).Clamped := by
  have hfits : ∀ x : Int, -128 ≤ x ∧ x ≤ 127 →
      -128 ≤ (BitVec.ofInt 16 x).toInt ∧ (BitVec.ofInt 16 x).toInt ≤ 127 := by
    rintro x ⟨hlow, hhigh⟩
    rw [BitVec.toInt_ofInt_eq_self (by decide) (by omega) (by omega)]
    exact ⟨hlow, hhigh⟩
  refine hfits _ ?_
  split
  · omega
  · split
    · omega
    · omega

theorem toInt_sub_one_of_pos {x : BitVec 16} (h : 0 < x.toInt) : (x - 1).toInt = x.toInt - 1 := by
  have hone : (1 : BitVec 16).toInt = 1 := rfl
  have hhigh := x.toInt_lt
  rw [BitVec.toInt_sub, hone, Int.bmod_def]
  split
  · omega
  · omega

theorem toInt_add_one_of_neg {x : BitVec 16} (h : x.toInt < 0) : (x + 1).toInt = x.toInt + 1 := by
  have hone : (1 : BitVec 16).toInt = 1 := rfl
  have hlow := x.le_toInt
  rw [BitVec.toInt_add, hone, Int.bmod_def]
  split
  · omega
  · omega

/-- The leak takes an activation towards zero. -/
theorem SynapseNode.Clamped.leak (h : node.Clamped) : node.leak.Clamped := by
  obtain ⟨hlow, hhigh⟩ := h
  rw [SynapseNode.leak, SynapseNode.Clamped]
  by_cases hpos : 0 < node.activation.toInt
  · have hdown := toInt_sub_one_of_pos hpos
    have hstill : ¬ (node.activation - 1).toInt < 0 := by
      rw [hdown]
      omega
    simp only [hpos, hstill, if_true, if_false]
    rw [hdown]
    omega
  · by_cases hneg : node.activation.toInt < 0
    · simp only [hpos, hneg, if_true, if_false]
      rw [toInt_add_one_of_neg hneg]
      omega
    · simp only [hpos, hneg, if_false]
      exact ⟨hlow, hhigh⟩

/-- A write that keeps the range of its node. -/
theorem SynapseNetwork.Clamped.modifyNode (h : s.Clamped) (i : Nat) {f : SynapseNode → SynapseNode}
    (hf : ∀ node : SynapseNode, node.Clamped → (f node).Clamped) : (s.modifyNode i f).Clamped := by
  intro node hnode
  obtain ⟨j, hj⟩ := List.mem_iff_getElem?.1 hnode
  by_cases hij : i = j
  · subst hij
    rw [nodes_modifyNode_self] at hj
    obtain ⟨node', hnode', rfl⟩ := Option.map_eq_some_iff.1 hj
    exact hf node' (h node' (List.mem_of_getElem? hnode'))
  · rw [nodes_modifyNode_of_ne hij] at hj
    exact h node (List.mem_of_getElem? hj)

theorem SynapseNetwork.Clamped.stimulate (h : s.Clamped) (nodeId : BitVec 8) (signal : BitVec 16) :
    (synapseStimulate nodeId signal s).Clamped := by
  rw [synapseStimulate]
  split
  · exact h.modifyNode _ fun node _ => clamped_stimulate signal node
  · exact h

theorem SynapseNetwork.Clamped.transmit (h : s.Clamped) (nodeId : BitVec 8) (links : List SynapseLink) :
    (links.foldl (SynapseNetwork.transmit nodeId) s).Clamped := by
  induction links generalizing s with
  | nil => exact h
  | cons link links ih =>
    rw [List.foldl_cons]
    apply ih
    rw [SynapseNetwork.transmit]
    split
    · split
      · exact h.stimulate _ _
      · exact h
    · exact h

theorem SynapseNetwork.Clamped.fire (h : s.Clamped) (i : Nat) (nodeId : BitVec 8) : (s.fire i nodeId).Clamped := by
  have hmarked : SynapseNetwork.Clamped
      { s.modifyNode i (fun node => { node with fireCount := node.fireCount + 1, refractory := 3 }) with
        recentlyFired := s.recentlyFired.setIfInBounds i 1 } := h.modifyNode i fun _ hnode => hnode
  exact hmarked.transmit nodeId s.links

theorem SynapseNetwork.Clamped.visit (h : s.Clamped) (i : Nat) : (s.visit i).Clamped := by
  rw [SynapseNetwork.visit]
  split
  · split
    · exact h.modifyNode i fun _ hnode => hnode
    · dsimp only
      split
      · exact (h.fire i _).modifyNode i fun _ hnode => hnode.leak
      · exact h.modifyNode i fun _ hnode => hnode.leak
  · exact h

theorem SynapseNetwork.Clamped.propagate (h : s.Clamped) : (synapsePropagate s).Clamped := by
  have hvisits : ∀ (places : List Nat) (t : SynapseNetwork), t.Clamped →
      (places.foldl SynapseNetwork.visit t).Clamped := by
    intro places
    induction places with
    | nil => exact fun _ ht => ht
    | cons i places ih => exact fun t ht => ih (t.visit i) (ht.visit i)
  exact hvisits _ _ h

/-- Every call keeps the activations in their range. -/
theorem SynapseNetwork.Clamped.run (h : s.Clamped) (call : ActivityCall) : (call.run s).Clamped := by
  cases call with
  | addNode nodeId threshold =>
    rw [ActivityCall.run, synapseAddNode]
    split
    · exact h
    · intro node hnode
      rcases List.mem_append.1 hnode with hnode | hnode
      · exact h node hnode
      · obtain rfl := List.mem_singleton.1 hnode
        have hzero : (0 : BitVec 16).toInt = 0 := rfl
        rw [SynapseNode.Clamped, hzero]
        exact ⟨by decide, by decide⟩
  | connect fromNode toNode weight plasticity =>
    rw [ActivityCall.run, synapseConnect]
    split
    · exact h
    · exact h
  | stimulate nodeId signal => exact h.stimulate nodeId signal
  | propagate => exact h.propagate
  | hebbianLearning => exact h

end Activation

/-- In every run after `synapse_init`, a node fires at most once in four consecutive propagations, with any calls
between them, and every activation is in the range of the clamp. -/
theorem refractory_period (s₀ : SynapseNetwork) (calls : List ActivityCall) :
    KeepsRefractory (synapseInit s₀) calls where
  clamped :=
    (@exec_driven _ _ (fun s call t => call.run s = t) ActivityCall.run (fun _ _ => rfl) _ calls).invariant nofun
      (by rintro s call _ h rfl; exact h.run call)
  once _ _ _ _ hwindow _ := firings_le_one hwindow
  noted before window _ _ i := fireCountAt_run i (before.foldl ActivityCall.run (synapseInit s₀)) window

end OperatingOrganism.Vital

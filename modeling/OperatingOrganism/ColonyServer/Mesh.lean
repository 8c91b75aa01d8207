import OperatingOrganism.ColonyServer.Emission
import OperatingOrganism.Library.Execution
import OperatingOrganism.Library.Flooding

/-!
# The mesh

The nodes of a mesh, the posts of one gossip that are on their way, and the calls of `send_gossip_to_peers`
that have not ended. Nothing is assumed of the order of the steps, and between them a node may change in
any way (`Label.other`): it may forget what it has seen, learn of other peers, or take in other gossip.

Every copy that is on its way carries the number of network hops it has made when it arrives. Each copy that
a node processes has used up its hops (`ttl_containment`), so none goes further than the gossip was sent
with, and there are finitely many.
-/

set_option autoImplicit false

namespace OperatingOrganism.ColonyServer

open OperatingOrganism.Execution
open OperatingOrganism.Flooding

/-! ## The state of a mesh -/

/-- What is still to be done for a gossip. The number of hops is the one of the copy. -/
inductive Pending (V : Type) where
  /-- A post on its way. -/
  | post (url : String) (envelope : GossipEnvelope) (hops : Nat)
  /-- A call of `send_gossip_to_peers` that has not read the registry yet. -/
  | relay (v : V) (envelope : GossipEnvelope) (excludePeerId : Option String) (hops : Nat)
  /-- One that has, with the peers that are left. -/
  | sending (v : V) (envelope : GossipEnvelope) (peers : List MeshPeer) (hops : Nat)

/-- A copy that a node passed on to `store_gossip`, and what came of it. -/
structure Processed (V : Type) where
  node : V
  gossip : GossipEnvelope
  hops : Nat
  stored : Except StorageError MeshPeer

structure Mesh (V : Type) where
  node : V → AppState
  pending : List (Pending V)
  processed : List (Processed V)

inductive Label (V : Type) where
  /-- Item `n`, a post of `envelope`, reaches the node `v`. -/
  | deliver (n : Nat) (v : V) (envelope : GossipEnvelope)
  /-- Item `n`, a post, reaches nobody. -/
  | lose (n : Nat)
  /-- Item `n`, a call at the node `v`, reads the registry. -/
  | start (n : Nat) (v : V)
  /-- Item `n`, a call at the node `v`, comes to `peer`. -/
  | send (n : Nat) (v : V) (peer : MeshPeer)
  /-- Item `n`, a call, ends. -/
  | finish (n : Nat)
  /-- The node `v` changes to `s`. -/
  | other (v : V) (s : AppState)

section

variable {V : Type}

/-- A node has just emitted a gossip. -/
def Mesh.emitted (node : V → AppState) (origin : V) (gossip : GossipEnvelope) : Mesh V where
  node := node
  pending := [.relay origin gossip none 0]
  processed := []

/-- How a call goes on after it has read the registry. -/
def afterRead (v : V) (envelope : GossipEnvelope) (excludePeerId : Option String) (hops : Nat)
    (nodeId : String) : Except StorageError MeshRegistry → List (Pending V)
  | .ok registry => [.sending v envelope (recipients nodeId excludePeerId registry) hops]
  | .error _ => []

theorem mem_afterRead {y : Pending V} {v : V} {envelope : GossipEnvelope}
    {excludePeerId : Option String} {hops : Nat} {nodeId : String}
    {result : Except StorageError MeshRegistry} :
    y ∈ afterRead v envelope excludePeerId hops nodeId result ↔ ∃ registry, result = .ok registry ∧
      y = .sending v envelope (recipients nodeId excludePeerId registry) hops := by
  cases result <;> simp [afterRead]

/-! ## Hops -/

/-- It differs from the gossip in the hops that are left and the signature only. -/
def IsCopy (gossip envelope : GossipEnvelope) : Prop :=
  { envelope with ttlHops := gossip.ttlHops, hmacSha256 := gossip.hmacSha256 } = gossip

theorem IsCopy.gossipId {gossip envelope : GossipEnvelope} (h : IsCopy gossip envelope) :
    envelope.gossipId = gossip.gossipId := by
  rw [IsCopy] at h
  rw [← h]

theorem IsCopy.fromPeer {gossip envelope : GossipEnvelope} (h : IsCopy gossip envelope) :
    envelope.fromPeer = gossip.fromPeer := by
  rw [IsCopy] at h
  rw [← h]

/-- Signing makes a copy with as many hops left. -/
theorem ttlHops_outbound (hmac : String → String → Vector UInt8 32) (runtime : MeshRuntimeConfig)
    (envelope : GossipEnvelope) :
    (runtime.outbound hmac envelope).ttlHops = envelope.ttlHops := by
  rw [MeshRuntimeConfig.outbound]
  cases runtime.gossipHmacSigningKey <;> rfl

theorem IsCopy.outbound {gossip envelope : GossipEnvelope} (h : IsCopy gossip envelope)
    (hmac : String → String → Vector UInt8 32) (runtime : MeshRuntimeConfig) :
    IsCopy gossip (runtime.outbound hmac envelope) := by
  rw [MeshRuntimeConfig.outbound]
  cases runtime.gossipHmacSigningKey <;> exact h

/-- The hops made and the hops left add up to those of the gossip, where the hop of a post on its way counts
as made and still costs one that is left. -/
def Pending.InBudget (gossip : GossipEnvelope) : Pending V → Prop
  | .post _ envelope hops =>
    IsCopy gossip envelope ∧ 1 ≤ hops ∧ envelope.ttlHops.toNat + hops = gossip.ttlHops.toNat + 1
  | .relay _ envelope _ hops =>
    IsCopy gossip envelope ∧ envelope.ttlHops.toNat + hops = gossip.ttlHops.toNat
  | .sending _ envelope _ hops =>
    IsCopy gossip envelope ∧ envelope.ttlHops.toNat + hops = gossip.ttlHops.toNat

def Processed.InBudget (gossip : GossipEnvelope) (p : Processed V) : Prop :=
  IsCopy gossip p.gossip ∧ 1 ≤ p.hops ∧ 1 ≤ p.gossip.ttlHops.toNat ∧
    p.gossip.ttlHops.toNat + p.hops = gossip.ttlHops.toNat + 1

structure Mesh.InBudget (gossip : GossipEnvelope) (m : Mesh V) : Prop where
  pending : ∀ x ∈ m.pending, x.InBudget gossip
  processed : ∀ p ∈ m.processed, p.InBudget gossip

/-- What takes the place of an item comes from it: a call ends, goes on, or makes posts, and a post leads to a
call. -/
def Pending.Leads (hmac : String → String → Vector UInt8 32) : Pending V → Pending V → Prop
  | .post _ envelope hops, .relay _ relayed excludePeerId hops' =>
    1 < envelope.ttlHops ∧ relayed = { envelope with ttlHops := envelope.ttlHops - 1 } ∧
      excludePeerId = some envelope.fromPeer.peerId ∧ hops' = hops
  | .relay v envelope _ hops, .sending v' envelope' _ hops' =>
    v' = v ∧ envelope' = envelope ∧ hops' = hops
  | .sending v envelope peers hops, .sending v' envelope' peers' hops' =>
    v' = v ∧ envelope' = envelope ∧ hops' = hops ∧ peers'.length < peers.length
  | .sending _ envelope _ hops, .post _ posted hops' =>
    (∃ runtime : MeshRuntimeConfig, posted = runtime.outbound hmac envelope) ∧ hops' = hops + 1
  | _, _ => False

theorem toNat_pred {ttlHops : UInt8} (h : 1 < ttlHops) : (ttlHops - 1).toNat + 1 = ttlHops.toNat := by
  have hlt : 1 < ttlHops.toNat := UInt8.lt_iff_toNat_lt.1 h
  have hsub : (ttlHops - 1).toNat = ttlHops.toNat - 1 :=
    UInt8.toNat_sub_of_le ttlHops 1 (UInt8.le_iff_toNat_le.2 (Nat.le_of_lt hlt))
  rw [hsub]
  exact Nat.sub_add_cancel (Nat.le_of_lt hlt)

/-- What comes from an item is in the budget if the item is. -/
theorem Pending.Leads.inBudget {hmac : String → String → Vector UInt8 32} {gossip : GossipEnvelope}
    {x y : Pending V} (h : x.Leads hmac y) (hx : x.InBudget gossip) : y.InBudget gossip := by
  cases x <;> cases y <;> try exact h.elim
  case post.relay url envelope hops v relayed excludePeerId hops' =>
    obtain ⟨httl, rfl, -, rfl⟩ := h
    obtain ⟨hcopy, hhops, hsum⟩ := hx
    refine ⟨hcopy, ?_⟩
    show (envelope.ttlHops - 1).toNat + hops' = gossip.ttlHops.toNat
    have hpred := toNat_pred httl
    omega
  case relay.sending v envelope excludePeerId hops v' envelope' peers hops' =>
    obtain ⟨-, rfl, rfl⟩ := h
    exact hx
  case sending.post v envelope peers hops url posted hops' =>
    obtain ⟨⟨runtime, rfl⟩, rfl⟩ := h
    refine ⟨hx.1.outbound hmac runtime, Nat.le_add_left 1 hops, ?_⟩
    rw [ttlHops_outbound, ← Nat.add_assoc, hx.2]
  case sending.sending v envelope peers hops v' envelope' peers' hops' =>
    obtain ⟨-, rfl, rfl, -⟩ := h
    exact hx

/-- What comes from an item has fewer hops left, is nearer to its posts, or has fewer peers to come. -/
def Pending.rank : Pending V → Nat × Nat
  | .post _ envelope _ => (3 * envelope.ttlHops.toNat, 0)
  | .relay _ envelope _ _ => (3 * envelope.ttlHops.toNat + 2, 0)
  | .sending _ envelope peers _ => (3 * envelope.ttlHops.toNat + 1, peers.length)

theorem Pending.Leads.rank_lt {hmac : String → String → Vector UInt8 32} {x y : Pending V}
    (h : x.Leads hmac y) : Prod.Lex (· < ·) (· < ·) y.rank x.rank := by
  cases x <;> cases y <;> try exact h.elim
  case post.relay url envelope hops v relayed excludePeerId hops' =>
    obtain ⟨httl, rfl, -⟩ := h
    refine .left _ _ ?_
    show 3 * (envelope.ttlHops - 1).toNat + 2 < 3 * envelope.ttlHops.toNat
    have hpred := toNat_pred httl
    omega
  case relay.sending v envelope excludePeerId hops v' envelope' peers hops' =>
    obtain ⟨-, rfl, -⟩ := h
    exact .left _ _ (Nat.lt_succ_self _)
  case sending.post v envelope peers hops url posted hops' =>
    obtain ⟨⟨runtime, rfl⟩, -⟩ := h
    refine .left _ _ ?_
    rw [ttlHops_outbound]
    exact Nat.lt_succ_self _
  case sending.sending v envelope peers hops v' envelope' peers' hops' =>
    obtain ⟨-, rfl, -, hlt⟩ := h
    exact .right _ hlt

/-- So no chain of items that come from one another goes on for ever. -/
theorem wellFounded_leads (hmac : String → String → Vector UInt8 32) :
    WellFounded fun y x : Pending V => x.Leads hmac y :=
  Subrelation.wf Pending.Leads.rank_lt
    (InvImage.wf Pending.rank (WellFounded.prod_lex wellFounded_lt wellFounded_lt))

theorem Mesh.inBudget_emitted (node : V → AppState) (origin : V) (gossip : GossipEnvelope) :
    (Mesh.emitted node origin gossip).InBudget gossip where
  pending := by
    intro x hx
    obtain rfl := List.mem_singleton.1 hx
    exact ⟨rfl, rfl⟩
  processed := by simp [Mesh.emitted]

end

/-! ## The steps -/

section

variable {V : Type} [DecidableEq V] (hmac : String → String → Vector UInt8 32) (route : String → Option V)

namespace Mesh

def set (m : Mesh V) (v : V) (s : AppState) : V → AppState := Function.update m.node v s

def deliver (m : Mesh V) (n : Nat) (v : V) (envelope : GossipEnvelope) (hops : Nat) : Mesh V :=
  let (handled, s) := handleMeshGossip hmac envelope (m.node v)
  { node := m.set v s
    pending := replaceAt m.pending n (handled.relay.map fun relay => .relay v relay.1 relay.2 hops).toList
    processed := m.processed ++ (handled.stored.map fun stored => ⟨v, envelope, hops, stored⟩).toList }

def start (m : Mesh V) (n : Nat) (v : V) (envelope : GossipEnvelope) (excludePeerId : Option String)
    (hops : Nat) : Mesh V :=
  let (result, s) := (m.node v).storage getMeshRegistry
  { m with
    node := m.set v s
    pending := replaceAt m.pending n
      (afterRead v envelope excludePeerId hops s.nodeProfile.nodeId result) }

def send (m : Mesh V) (n : Nat) (respond : Nat → Bool) (v : V) (envelope : GossipEnvelope)
    (peer : MeshPeer) (peers : List MeshPeer) (hops : Nat) : Mesh V :=
  let (posts, s) := sendGossipToPeer hmac respond envelope peer (m.node v)
  { m with
    node := m.set v s
    pending := replaceAt m.pending n
      (.sending v envelope peers hops :: posts.map fun post => .post post.1 post.2 (hops + 1)) }

section Deliver

variable (m : Mesh V) (n : Nat) (v : V) (envelope : GossipEnvelope) (hops : Nat)

theorem node_deliver : (m.deliver hmac n v envelope hops).node =
    m.set v (handleMeshGossip hmac envelope (m.node v)).2 := rfl

theorem pending_deliver : (m.deliver hmac n v envelope hops).pending =
    replaceAt m.pending n ((handleMeshGossip hmac envelope (m.node v)).1.relay.map fun relay =>
      .relay v relay.1 relay.2 hops).toList := rfl

theorem processed_deliver : (m.deliver hmac n v envelope hops).processed =
    m.processed ++ ((handleMeshGossip hmac envelope (m.node v)).1.stored.map fun stored =>
      ⟨v, envelope, hops, stored⟩).toList := rfl

end Deliver

theorem pending_start (m : Mesh V) (n : Nat) (v : V) (envelope : GossipEnvelope)
    (excludePeerId : Option String) (hops : Nat) :
    (m.start n v envelope excludePeerId hops).pending = replaceAt m.pending n
      (afterRead v envelope excludePeerId hops (m.node v).nodeProfile.nodeId
        ((m.node v).storage getMeshRegistry).1) := rfl

theorem pending_send (m : Mesh V) (n : Nat) (respond : Nat → Bool) (v : V) (envelope : GossipEnvelope)
    (peer : MeshPeer) (peers : List MeshPeer) (hops : Nat) :
    (m.send hmac n respond v envelope peer peers hops).pending = replaceAt m.pending n
      (.sending v envelope peers hops ::
        (sendGossipToPeer hmac respond envelope peer (m.node v)).1.map fun post =>
          .post post.1 post.2 (hops + 1)) := rfl

/-- The steps. `route` says which node a URL belongs to. -/
inductive Step : Mesh V → Label V → Mesh V → Prop
  | deliver {m : Mesh V} {n : Nat} {v : V} {url : String} {envelope : GossipEnvelope} {hops : Nat}
      (hitem : m.pending[n]? = some (.post url envelope hops)) (hroute : route url = some v) :
      Step m (.deliver n v envelope) (m.deliver hmac n v envelope hops)
  | lose {m : Mesh V} {n : Nat} {url : String} {envelope : GossipEnvelope} {hops : Nat}
      (hitem : m.pending[n]? = some (.post url envelope hops)) :
      Step m (.lose n) { m with pending := replaceAt m.pending n [] }
  | start {m : Mesh V} {n : Nat} {v : V} {envelope : GossipEnvelope} {excludePeerId : Option String}
      {hops : Nat} (hitem : m.pending[n]? = some (.relay v envelope excludePeerId hops)) :
      Step m (.start n v) (m.start n v envelope excludePeerId hops)
  | send {m : Mesh V} {n : Nat} {v : V} {envelope : GossipEnvelope} {peer : MeshPeer}
      {peers : List MeshPeer} {hops : Nat} (respond : Nat → Bool)
      (hitem : m.pending[n]? = some (.sending v envelope (peer :: peers) hops)) :
      Step m (.send n v peer) (m.send hmac n respond v envelope peer peers hops)
  | finish {m : Mesh V} {n : Nat} {v : V} {envelope : GossipEnvelope} {hops : Nat}
      (hitem : m.pending[n]? = some (.sending v envelope [] hops)) :
      Step m (.finish n) { m with pending := replaceAt m.pending n [] }
  | other {m : Mesh V} (v : V) (s : AppState) : Step m (.other v s) { m with node := m.set v s }

end Mesh

/-! ## The calls of `send_gossip_to_peers` -/

variable {hmac route}

/-- A call that has read the registry can come to the end of its peers, and what it does to its node and
posts on the way is what `send_gossip_to_peers` does. -/
theorem exec_sending (respond : String → Nat → Bool) {m : Mesh V} {n : Nat} {v : V}
    {envelope : GossipEnvelope} {peers : List MeshPeer} {hops : Nat}
    (hitem : m.pending[n]? = some (.sending v envelope peers hops)) :
    ∃ tr, Exec (Mesh.Step hmac route) m tr ∧
      (final m tr).node = m.set v (sendGossipTo hmac respond envelope peers (m.node v)).2 ∧
      (final m tr).processed = m.processed ∧
      (final m tr).pending = replaceAt m.pending n
        ((sendGossipTo hmac respond envelope peers (m.node v)).1.map fun post =>
          .post post.1 post.2 (hops + 1)) := by
  induction peers generalizing m n with
  | nil =>
    refine ⟨[(.finish n, _)], ⟨.finish hitem, trivial⟩, ?_, rfl, rfl⟩
    exact (Function.update_eq_self v m.node).symm
  | cons peer peers ih =>
    have hitems : (m.send hmac n (respond peer.peerId) v envelope peer peers hops).pending =
        m.pending.eraseIdx n ++ .sending v envelope peers hops ::
          (sendGossipToPeer hmac (respond peer.peerId) envelope peer (m.node v)).1.map fun post =>
            .post post.1 post.2 (hops + 1) := rfl
    -- the call that goes on is the first of the new items
    have hnext : (m.send hmac n (respond peer.peerId) v envelope peer peers hops).pending[
        (m.pending.eraseIdx n).length]? = some (.sending v envelope peers hops) := by
      rw [hitems, List.getElem?_append_right (Nat.le_refl _), Nat.sub_self]
      rfl
    obtain ⟨tr, htr, hnode, hprocessed, hpending⟩ := ih hnext
    refine ⟨(.send n v peer, _) :: tr, ⟨.send _ hitem, htr⟩, ?_, hprocessed, ?_⟩
    · rw [final_cons, hnode]
      simp [Mesh.send, Mesh.set, sendGossipTo]
    · rw [final_cons, hpending, hitems, replaceAt_append, replaceAt, sendGossipTo, List.map_append]
      simp [Mesh.send, Mesh.set]

/-- A call can come to its end, and do what `send_gossip_to_peers` does. -/
theorem exec_relay (respond : String → Nat → Bool) {m : Mesh V} {n : Nat} {v : V}
    {envelope : GossipEnvelope} {excludePeerId : Option String} {hops : Nat}
    (hitem : m.pending[n]? = some (.relay v envelope excludePeerId hops)) :
    ∃ tr, Exec (Mesh.Step hmac route) m tr ∧
      (final m tr).node =
        m.set v (sendGossipToPeers hmac respond envelope excludePeerId (m.node v)).2 ∧
      (final m tr).processed = m.processed ∧
      (final m tr).pending = replaceAt m.pending n
        ((sendGossipToPeers hmac respond envelope excludePeerId (m.node v)).1.map fun post =>
          .post post.1 post.2 (hops + 1)) := by
  have hstart : Mesh.Step hmac route m (.start n v) (m.start n v envelope excludePeerId hops) :=
    .start hitem
  rcases hres : (m.node v).storage getMeshRegistry with ⟨e | registry, s⟩
  · refine ⟨[(.start n v, _)], ⟨hstart, trivial⟩, ?_⟩
    simp [Mesh.start, afterRead, sendGossipToPeers, hres]
  · have hitems : (m.start n v envelope excludePeerId hops).pending = m.pending.eraseIdx n ++
        [.sending v envelope (recipients s.nodeProfile.nodeId excludePeerId registry) hops] := by
      simp [Mesh.start, afterRead, replaceAt, hres]
    -- the call with its peers is the last item now
    have hnext : (m.start n v envelope excludePeerId hops).pending[(m.pending.eraseIdx n).length]? =
        some (.sending v envelope (recipients s.nodeProfile.nodeId excludePeerId registry) hops) := by
      rw [hitems, List.getElem?_concat_length]
    obtain ⟨tr, htr, hnode, hprocessed, hpending⟩ := exec_sending respond hnext
    refine ⟨(.start n v, _) :: tr, ⟨hstart, htr⟩, ?_, hprocessed, ?_⟩
    · rw [final_cons, hnode]
      simp [Mesh.start, Mesh.set, sendGossipToPeers, hres]
    · rw [final_cons, hpending, hitems, replaceAt_append]
      simp [Mesh.start, Mesh.set, sendGossipToPeers, hres, replaceAt]

/-- A step other than a change of a node replaces an item by items that come from it. -/
theorem Mesh.Step.replaces {m m' : Mesh V} {label : Label V} (h : Mesh.Step hmac route m label m') :
    (∃ v s, label = .other v s) ∧ m'.pending = m.pending ∨
      Replaces (fun y x => x.Leads hmac y) m.pending m'.pending := by
  cases h with
  | @deliver n v url envelope hops hitem hroute =>
    refine .inr ⟨n, _, _, hitem, rfl, ?_⟩
    intro y hy
    obtain ⟨⟨relayed, excludePeerId⟩, hrelay, rfl⟩ := Option.map_eq_some_iff.1 (Option.mem_toList.1 hy)
    obtain ⟨-, httl, rfl, rfl⟩ := (relay_handle_iff hmac).1 hrelay
    exact ⟨httl, rfl, rfl, rfl⟩
  | @lose n url envelope hops hitem => exact .inr ⟨n, _, [], hitem, rfl, by simp⟩
  | @start n v envelope excludePeerId hops hitem =>
    refine .inr ⟨n, _, _, hitem, rfl, ?_⟩
    intro y hy
    obtain ⟨registry, -, rfl⟩ := mem_afterRead.1 hy
    exact ⟨rfl, rfl, rfl⟩
  | @send n v envelope peer peers hops respond hitem =>
    refine .inr ⟨n, _, _, hitem, rfl, ?_⟩
    intro y hy
    rcases List.mem_cons.1 hy with rfl | hy
    · exact ⟨rfl, rfl, rfl, Nat.lt_succ_self _⟩
    · obtain ⟨post, hpost, rfl⟩ := List.mem_map.1 hy
      rw [mem_sendGossipToPeer hmac hpost]
      exact ⟨⟨_, rfl⟩, rfl⟩
  | @finish n v envelope hops hitem => exact .inr ⟨n, _, [], hitem, rfl, by simp⟩
  | other v s => exact .inl ⟨⟨v, s, rfl⟩, rfl⟩

/-- A copy is processed when it is delivered, and only if it has a hop left. -/
theorem Mesh.Step.processed {m m' : Mesh V} {label : Label V} (h : Mesh.Step hmac route m label m') :
    m'.processed = m.processed ∨ ∃ (n : Nat) (v : V) (url : String) (envelope : GossipEnvelope)
      (hops : Nat) (stored : Except StorageError MeshPeer),
      m.pending[n]? = some (Pending.post url envelope hops) ∧ envelope.ttlHops ≠ 0 ∧
        m'.processed = m.processed ++ [⟨v, envelope, hops, stored⟩] := by
  cases h with
  | @deliver n v url envelope hops hitem hroute =>
    cases hstored : (handleMeshGossip hmac envelope (m.node v)).1.stored with
    | none =>
      left
      simp [Mesh.processed_deliver, hstored]
    | some stored =>
      have hpasses : Passes hmac envelope (m.node v) := by
        rw [Passes, hstored]
        rfl
      refine .inr ⟨n, v, url, envelope, hops, stored, hitem, ?_, ?_⟩
      · exact ((passes_iff hmac).1 hpasses).1.ttlHops
      · simp [Mesh.processed_deliver, hstored]
  | lose hitem => exact .inl rfl
  | start hitem => exact .inl rfl
  | send respond hitem => exact .inl rfl
  | finish hitem => exact .inl rfl
  | other v s => exact .inl rfl

theorem Mesh.InBudget.step {gossip : GossipEnvelope} {m m' : Mesh V} {label : Label V}
    (hm : m.InBudget gossip) (h : Mesh.Step hmac route m label m') : m'.InBudget gossip where
  pending := by
    rcases h.replaces with ⟨-, hsame⟩ | ⟨n, x, new, hitem, hpending, hleads⟩
    · rw [hsame]
      exact hm.pending
    · intro y hy
      rw [hpending] at hy
      rcases mem_of_mem_replaceAt hy with hold | hnew
      · exact hm.pending y hold
      · exact (hleads y hnew).inBudget (hm.pending x (List.mem_of_getElem? hitem))
  processed := by
    rcases h.processed with hsame | ⟨n, v, url, envelope, hops, stored, hitem, httl, hprocessed⟩
    · rw [hsame]
      exact hm.processed
    · intro p hp
      rw [hprocessed] at hp
      rcases List.mem_append.1 hp with hold | hnew
      · exact hm.processed p hold
      · obtain rfl := List.mem_singleton.1 hnew
        obtain ⟨hcopy, hhops, hsum⟩ := hm.pending _ (List.mem_of_getElem? hitem)
        refine ⟨hcopy, hhops, ?_, hsum⟩
        rw [Nat.one_le_iff_ne_zero]
        exact fun hzero => httl (UInt8.toNat_inj.1 hzero)

/-! ## Whole runs -/

def Label.IsDelivery : Label V → Prop
  | .deliver _ _ _ => True
  | _ => False

variable (hmac route)

/-- A copy that a node processes after `k` hops has `h - k + 1` hops left, which is at least one, and in an
infinite run there are finitely many deliveries. -/
theorem ttl_containment (node : V → AppState) (origin : V) (gossip : GossipEnvelope) :
    (∀ tr, Exec (Mesh.Step hmac route) (Mesh.emitted node origin gossip) tr →
      AllStates (fun m => ∀ p ∈ m.processed,
        p.gossip.ttlHops.toNat = gossip.ttlHops.toNat - p.hops + 1 ∧ 1 ≤ p.gossip.ttlHops.toNat ∧
          1 ≤ p.hops ∧ p.hops ≤ gossip.ttlHops.toNat) (Mesh.emitted node origin gossip) tr) ∧
      ∀ (m : Nat → Mesh V) (label : Nat → Label V), m 0 = Mesh.emitted node origin gossip →
        (∀ n, Mesh.Step hmac route (m n) (label n) (m (n + 1))) →
        {n | (label n).IsDelivery}.Finite := by
  constructor
  · intro tr htr
    -- the budget gives the numbers
    have hbudget : ∀ m : Mesh V, m.InBudget gossip → ∀ p ∈ m.processed,
        p.gossip.ttlHops.toNat = gossip.ttlHops.toNat - p.hops + 1 ∧ 1 ≤ p.gossip.ttlHops.toNat ∧
          1 ≤ p.hops ∧ p.hops ≤ gossip.ttlHops.toNat := by
      intro m hm p hp
      obtain ⟨-, hhops, httl, hsum⟩ := hm.processed p hp
      omega
    have hall := htr.invariant (Mesh.inBudget_emitted node origin gossip)
      fun _ _ _ hm hstep => hm.step hstep
    exact hall.imp hbudget
  · intro m label _ hrun
    have hfinite := finite_setOf_replaces (wellFounded_leads hmac) (fun n => (m n).pending)
      fun n => (hrun n).replaces.imp_left And.right
    apply hfinite.subset
    intro n hn
    -- a delivery replaces a post
    rcases (hrun n).replaces with ⟨⟨v, s, hother⟩, -⟩ | hreplaces
    · rw [Set.mem_ofPred, hother] at hn
      exact hn.elim
    · exact hreplaces

end

end OperatingOrganism.ColonyServer

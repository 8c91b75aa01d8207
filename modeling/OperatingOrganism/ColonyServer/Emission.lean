import OperatingOrganism.ColonyServer.MeshGossip

/-!
# What a node sends, and whether it would take it

Every envelope that is posted is signed when it is sent, if the node has a signing key, whatever the
signature it had before. So a node whose `COLONY_GOSSIP_HMAC_KEY` is set accepts what it sends. One that has
previous keys only does not sign, and refuses its own gossip (`accepts_emitted_iff`).
-/

set_option autoImplicit false

namespace OperatingOrganism.ColonyServer

open OperatingOrganism.FaultyIo
open OperatingOrganism.JoinedText

section

variable (hmac : String → String → Vector UInt8 32)
variable {envelope : GossipEnvelope} {peer : MeshPeer} {s : AppState} {post : Post}

/-! ## Posts -/

/-- Sending changes the counters and the circuit breakers only. -/
structure SendKeeps (s t : AppState) : Prop where
  world : t.world = s.world
  nodeProfile : t.nodeProfile = s.nodeProfile
  seenGossip : t.seenGossip = s.seenGossip
  runtime : t.runtime = s.runtime

theorem sendGossipToPeer_keeps (respond : Nat → Bool) (envelope : GossipEnvelope) (peer : MeshPeer)
    (s : AppState) : SendKeeps s (sendGossipToPeer hmac respond envelope peer s).2 := by
  rw [sendGossipToPeer]
  dsimp only
  split
  · exact ⟨rfl, rfl, rfl, rfl⟩
  · exact ⟨rfl, rfl, rfl, rfl⟩

theorem sendGossipTo_keeps (respond : String → Nat → Bool) (envelope : GossipEnvelope)
    (peers : List MeshPeer) (s : AppState) :
    SendKeeps s (sendGossipTo hmac respond envelope peers s).2 := by
  induction peers generalizing s with
  | nil => exact ⟨rfl, rfl, rfl, rfl⟩
  | cons peer peers ih =>
    have hfirst := sendGossipToPeer_keeps hmac (respond peer.peerId) envelope peer s
    have hrest := ih (sendGossipToPeer hmac (respond peer.peerId) envelope peer s).2
    exact ⟨hrest.world.trans hfirst.world, hrest.nodeProfile.trans hfirst.nodeProfile,
      hrest.seenGossip.trans hfirst.seenGossip, hrest.runtime.trans hfirst.runtime⟩

theorem mem_sendGossipToPeer {respond : Nat → Bool}
    (h : post ∈ (sendGossipToPeer hmac respond envelope peer s).1) :
    post = (meshGossipUrl peer.address, s.runtime.outbound hmac envelope) := by
  rw [sendGossipToPeer] at h
  dsimp only at h
  split at h
  · cases h
  · exact List.eq_of_mem_replicate h

/-- While the circuit breaker is closed, there is a post. -/
theorem mem_sendGossipToPeer_of_closed (respond : Nat → Bool) (envelope : GossipEnvelope) (peer : MeshPeer)
    (s : AppState) (h : (s.peerFailures.lookup peer.peerId).getD 0 < 5) :
    (meshGossipUrl peer.address, s.runtime.outbound hmac envelope) ∈
      (sendGossipToPeer hmac respond envelope peer s).1 := by
  have hattempts : (attemptLoop respond 0 maxAttempts).1 ≠ 0 := by
    simp only [maxAttempts, attemptLoop]
    split
    · exact Nat.one_ne_zero
    · split
      · exact Nat.succ_ne_zero 1
      · split
        · exact Nat.succ_ne_zero 2
        · exact Nat.succ_ne_zero 2
  rw [sendGossipToPeer]
  dsimp only
  rw [if_neg (UInt32.not_le.2 h)]
  exact List.mem_replicate.2 ⟨hattempts, rfl⟩

/-- Every post of the loop over the peers goes to one of them and carries the same envelope. -/
theorem mem_sendGossipTo {respond : String → Nat → Bool} {peers : List MeshPeer}
    (h : post ∈ (sendGossipTo hmac respond envelope peers s).1) :
    ∃ peer ∈ peers, post = (meshGossipUrl peer.address, s.runtime.outbound hmac envelope) := by
  induction peers generalizing s with
  | nil => cases h
  | cons peer peers ih =>
    have hposts : post ∈ (sendGossipToPeer hmac (respond peer.peerId) envelope peer s).1 ++
        (sendGossipTo hmac respond envelope peers
          (sendGossipToPeer hmac (respond peer.peerId) envelope peer s).2).1 := h
    rcases List.mem_append.1 hposts with hfirst | hrest
    · exact ⟨peer, List.mem_cons_self, mem_sendGossipToPeer hmac hfirst⟩
    · obtain ⟨other, hmem, hpost⟩ := ih hrest
      rw [(sendGossipToPeer_keeps hmac (respond peer.peerId) envelope peer s).runtime] at hpost
      exact ⟨other, List.mem_cons_of_mem peer hmem, hpost⟩

/-- What is posted is the envelope, signed with the key of the node. -/
theorem mem_sendGossipToPeers {respond : String → Nat → Bool} {excludePeerId : Option String}
    (h : post ∈ (sendGossipToPeers hmac respond envelope excludePeerId s).1) :
    post.2 = s.runtime.outbound hmac envelope := by
  rw [sendGossipToPeers] at h
  rcases hres : s.storage getMeshRegistry with ⟨_ | registry, t⟩
  · rw [hres] at h
    cases h
  · rw [hres] at h
    obtain ⟨peer, -, rfl⟩ := mem_sendGossipTo hmac h
    have hruntime : t.runtime = s.runtime := by
      have hadvances := advances_storage keeps_organisms_getMeshRegistry s
      rw [hres] at hadvances
      exact hadvances.runtime
    rw [← hruntime]

/-- The posts of a round carry its own gossip, signed with the key of the node. -/
theorem mem_gossipRound {respond : String → Nat → Bool} {gossipId : String} {maxHops : UInt8}
    {observedThreats : List String} {observedOrganisms : UInt64}
    (h : post ∈ (gossipRound hmac respond gossipId maxHops observedThreats observedOrganisms s).1) :
    ∃ sentAt, post.2 = s.runtime.outbound hmac
      (ownGossip hmac gossipId maxHops observedThreats observedOrganisms sentAt s) := by
  have hadvances := advances_storage keeps_organisms_getMeshRegistry s
  rw [gossipRound] at h
  rcases hres : s.storage getMeshRegistry with ⟨_ | registry, t⟩
  · rw [hres] at h
    cases h
  · rw [hres] at h hadvances
    dsimp only at h hadvances
    split at h
    · cases h
    · refine ⟨t.now, ?_⟩
      rw [mem_sendGossipToPeers hmac h, ownGossip, ownGossip, ← hadvances.runtime,
        ← hadvances.nodeProfile]
      rfl

/-! ## Signing -/

/-- A node that signs posts what it accepts, whatever it is given to post. -/
theorem accepts_outbound {key prevKeys : Option String} {dedupWindowS : Int} {k : String}
    (hk : (parseGossipHmacKeys key prevKeys).1 = some k) (envelope : GossipEnvelope) :
    verifyGossipSignatureWithAnyKey hmac
      (MeshRuntimeConfig.outbound hmac ⟨dedupWindowS, (parseGossipHmacKeys key prevKeys).1,
        (parseGossipHmacKeys key prevKeys).2⟩ envelope)
      (parseGossipHmacKeys key prevKeys).2 := by
  rw [verifyGossipSignatureWithAnyKey, List.any_eq_true]
  refine ⟨k, mem_verifyKeys.2 (.inl hk), ?_⟩
  rw [MeshRuntimeConfig.outbound, hk]
  exact verify_signGossipEnvelope hmac envelope k

theorem outbound_of_none {runtime : MeshRuntimeConfig} (h : runtime.gossipHmacSigningKey = none)
    (envelope : GossipEnvelope) : runtime.outbound hmac envelope = envelope := by
  rw [MeshRuntimeConfig.outbound, h]

/-! ## Every configuration -/

/-- The configuration that `main` takes from `COLONY_GOSSIP_DEDUP_WINDOW_S`, `COLONY_GOSSIP_HMAC_KEY` and
`COLONY_GOSSIP_HMAC_PREV_KEYS`. -/
def runtimeConfig (dedupWindowS key prevKeys : Option String) : MeshRuntimeConfig where
  dedupWindowS := parseGossipDedupWindowS dedupWindowS
  gossipHmacSigningKey := (parseGossipHmacKeys key prevKeys).1
  gossipHmacVerifyKeys := (parseGossipHmacKeys key prevKeys).2

/-- What a node with this configuration posts. -/
inductive Emits (runtime : MeshRuntimeConfig) : GossipEnvelope → Prop
  | own {s : AppState} {respond : String → Nat → Bool} {gossipId : String} {maxHops : UInt8}
      {observedThreats : List String} {observedOrganisms : UInt64} {post : Post}
      (hruntime : s.runtime = runtime)
      (hpost : post ∈
        (gossipRound hmac respond gossipId maxHops observedThreats observedOrganisms s).1) :
      Emits runtime post.2
  /-- It is relayed later, in a state `t`. -/
  | relay {s t : AppState} {respond : String → Nat → Bool} {gossip envelope : GossipEnvelope}
      {excludePeerId : Option String} {post : Post}
      (hruntime : t.runtime = runtime)
      (hrelay : (handleMeshGossip hmac gossip s).1.relay = some (envelope, excludePeerId))
      (hruntime' : s.runtime = runtime)
      (hpost : post ∈ (sendGossipToPeers hmac respond envelope excludePeerId t).1) :
      Emits runtime post.2

/-- Every envelope that is posted went through the signing. -/
theorem Emits.outbound {runtime : MeshRuntimeConfig} {e : GossipEnvelope} (h : Emits hmac runtime e) :
    ∃ envelope, e = runtime.outbound hmac envelope := by
  cases h with
  | own hruntime hpost =>
    obtain ⟨sentAt, hpost⟩ := mem_gossipRound hmac hpost
    rw [hpost, hruntime]
    exact ⟨_, rfl⟩
  | relay hruntime _ _ hpost =>
    rw [mem_sendGossipToPeers hmac hpost, hruntime]
    exact ⟨_, rfl⟩

/-- The gossip of a node that does not sign is accepted under no key. -/
theorem not_accepts_own {s : AppState} {respond : String → Nat → Bool} {gossipId : String}
    {maxHops : UInt8} {observedThreats : List String} {observedOrganisms : UInt64} {post : Post}
    (hunsigned : s.runtime.gossipHmacSigningKey = none)
    (h : post ∈ (gossipRound hmac respond gossipId maxHops observedThreats observedOrganisms s).1)
    (keys : List String) : ¬ verifyGossipSignatureWithAnyKey hmac post.2 keys := by
  obtain ⟨sentAt, hpost⟩ := mem_gossipRound hmac h
  apply not_verify_unsigned
  rw [hpost, ownGossip, outbound_of_none hmac hunsigned, outbound_of_none hmac hunsigned]

/-- A node that knows one peer. -/
def pairedNode (runtime : MeshRuntimeConfig) : AppState where
  world :=
    { disk :=
        { organisms := .absent
          peers := .whole (AList.singleton "node-2"
            { peerId := "node-2"
              address := "10.0.0.2:8080"
              role := "relay"
              firstSeen := .ofSeconds 1700000000
              lastSeen := .ofSeconds 1700000000
              heartbeatCount := 1 })
          logs := fun _ => [] }
      outcomes := fun _ => .ok
      clock := fun _ => .ofSeconds 1700000000 }
  nodeProfile := { nodeId := "node-1", role := "relay", bindAddr := "10.0.0.1:8080" }
  seenGossip := ∅
  metrics := ⟨0, 0, 0, 0, 0, 0, 0, 0⟩
  runtime := runtime
  peerFailures := ∅

/-- It posts its gossip to that peer. -/
theorem gossipRound_pairedNode (runtime : MeshRuntimeConfig) :
    (gossipRound hmac (fun _ _ => true) "g-1" 2 [] 1 (pairedNode runtime)).1 =
      [(meshGossipUrl "10.0.0.2:8080", runtime.outbound hmac
        (ownGossip hmac "g-1" 2 [] 1 (.ofSeconds 1700000000) (pairedNode runtime)))] := rfl

/-- Without a verify key, the key is blank and every part of the previous keys is. -/
theorem verifyKeys_eq_nil {key prevKeys : Option String} :
    (parseGossipHmacKeys key prevKeys).2 = [] ↔ (parseGossipHmacKeys key prevKeys).1 = none ∧
      ∀ raw, prevKeys = some raw → ∀ part ∈ split ',' raw, trim part = "" := by
  rw [List.eq_nil_iff_forall_not_mem]
  constructor
  · intro hnone
    refine ⟨Option.eq_none_iff_forall_ne_some.2 fun k hk => hnone k (mem_verifyKeys.2 (.inl hk)), ?_⟩
    intro raw hraw part hpart
    by_contra hne
    exact hnone _ (mem_verifyKeys.2 (.inr ⟨raw, hraw, part, hpart, rfl, hne⟩))
  · rintro ⟨hsigning, hblank⟩ k hk
    rcases mem_verifyKeys.1 hk with hk | ⟨raw, hraw, part, hpart, rfl, hne⟩
    · rw [hsigning] at hk
      cases hk
    · exact hne (hblank raw hraw part hpart)

/-- A node accepts all that it posts, unless it has nothing to verify with, if and only if its key is set
and not blank or its previous keys are all blank. -/
theorem accepts_emitted_iff (dedupWindowS key prevKeys : Option String) :
    (∀ e, Emits hmac (runtimeConfig dedupWindowS key prevKeys) e →
        (runtimeConfig dedupWindowS key prevKeys).gossipHmacVerifyKeys ≠ [] →
        verifyGossipSignatureWithAnyKey hmac e
          (runtimeConfig dedupWindowS key prevKeys).gossipHmacVerifyKeys) ↔
      (∃ k, key = some k ∧ trim k ≠ "") ∨
        ∀ raw, prevKeys = some raw → ∀ part ∈ split ',' raw, trim part = "" := by
  rw [← @signingKey_isSome key prevKeys]
  constructor
  · intro haccepts
    cases hsigning : (parseGossipHmacKeys key prevKeys).1 with
    | some k => exact .inl rfl
    | none =>
      right
      -- with a key left to verify with, the unsigned gossip of the node is refused
      by_contra hkeys
      have hne : (runtimeConfig dedupWindowS key prevKeys).gossipHmacVerifyKeys ≠ [] :=
        fun hnil => hkeys (verifyKeys_eq_nil.1 hnil).2
      have hpost := List.mem_singleton_self (meshGossipUrl "10.0.0.2:8080",
        (runtimeConfig dedupWindowS key prevKeys).outbound hmac (ownGossip hmac "g-1" 2 [] 1
          (.ofSeconds 1700000000) (pairedNode (runtimeConfig dedupWindowS key prevKeys))))
      rw [← gossipRound_pairedNode hmac] at hpost
      exact not_accepts_own hmac hsigning hpost _ (haccepts _ (.own rfl hpost) hne)
  · intro hkeys e he hne
    obtain ⟨envelope, rfl⟩ := he.outbound hmac
    rcases hkeys with hsigning | hblank
    · obtain ⟨k, hk⟩ := Option.isSome_iff_exists.1 hsigning
      exact accepts_outbound hmac hk envelope
    · cases hsigning : (parseGossipHmacKeys key prevKeys).1 with
      | some k => exact accepts_outbound hmac hsigning envelope
      | none => exact absurd (verifyKeys_eq_nil.2 ⟨hsigning, hblank⟩) hne

end

/-- Previous keys only: the node verifies with them, and refuses its own gossip. -/
theorem own_gossip_refused :
    (runtimeConfig none none (some "old-key")).gossipHmacVerifyKeys ≠ [] ∧
      ∃ e, Emits zeroHmac (runtimeConfig none none (some "old-key")) e ∧
        ¬ verifyGossipSignatureWithAnyKey zeroHmac e
          (runtimeConfig none none (some "old-key")).gossipHmacVerifyKeys := by
  have hpost := List.mem_singleton_self (meshGossipUrl "10.0.0.2:8080",
    (runtimeConfig none none (some "old-key")).outbound zeroHmac (ownGossip zeroHmac "g-1" 2 [] 1
      (.ofSeconds 1700000000) (pairedNode (runtimeConfig none none (some "old-key")))))
  rw [← gossipRound_pairedNode zeroHmac] at hpost
  refine ⟨by decide, _, .own rfl hpost, ?_⟩
  exact not_accepts_own zeroHmac rfl hpost _

end OperatingOrganism.ColonyServer

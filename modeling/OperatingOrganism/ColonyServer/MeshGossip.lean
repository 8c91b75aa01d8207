import OperatingOrganism.ColonyServer.PeerStorage
import OperatingOrganism.ColonyServer.SeenGossip
import OperatingOrganism.ColonyServer.Signature

/-!
# A node of the mesh

`handle_mesh_gossip` takes an envelope that was posted to a node, and `send_gossip_to_peers` posts one to
the peers of a node. Both are functions of the state of the node, which has the disk and the clock of its
machine as a field.

What the handler does is stated once, in three cases: an envelope that is not admitted leaves the cache
alone, one that is not new is refused as a duplicate, and a new one is passed on to `store_gossip` and then
relayed with one hop less.
-/

set_option autoImplicit false

namespace OperatingOrganism.ColonyServer

open OperatingOrganism.FaultyIo

/-! ## The state of a node -/

/-- `MeshMetrics` -/
structure MeshMetrics where
  inboundTotal : UInt64
  inboundDuplicate : UInt64
  inboundAuthFailed : UInt64
  inboundTtlDropped : UInt64
  inboundRelayed : UInt64
  outboundAttempted : UInt64
  outboundSuccess : UInt64
  outboundFailure : UInt64
  deriving DecidableEq

/-- `AppState`, with the machine that the storage and the clock belong to. -/
structure AppState where
  world : World
  nodeProfile : NodeProfile
  seenGossip : SeenCache
  metrics : MeshMetrics
  runtime : MeshRuntimeConfig
  peerFailures : AList fun _ : String => UInt32

/-- `StatusCode::INTERNAL_SERVER_ERROR` -/
inductive StatusCode where
  | internalServerError
  deriving DecidableEq

/-- What a request to `/mesh/gossip` leads to: the response, the result of `store_gossip` if it was called,
and the arguments of `relay_gossip` if it was spawned. -/
structure Handled where
  response : Except StatusCode GossipAck
  stored : Option (Except StorageError MeshPeer)
  relay : Option (GossipEnvelope × Option String)

namespace AppState

/-- An operation of the storage. -/
def storage {α : Type} (s : AppState) (x : Io α) : Except StorageError α × AppState :=
  ((x s.world).1, { s with world := (x s.world).2 })

/-- The next reading of the clock. -/
def now (s : AppState) : DateTime := s.world.clock 0

/-- After a reading of the clock. -/
def tick (s : AppState) : AppState := { s with world := s.world.after s.world.disk 0 1 }

/-- `storage.get_mesh_registry().map(|r| r.peers.len()).unwrap_or(0)` -/
def knownPeerCount (s : AppState) : Nat × AppState :=
  match s.storage getMeshRegistry with
  | (.ok registry, s) => (registry.entries.length, s)
  | (.error _, s) => (0, s)

def count (s : AppState) (f : MeshMetrics → MeshMetrics) : AppState := { s with metrics := f s.metrics }

end AppState

/-! ## Receiving -/

/-- The answer to an envelope that is not stored. -/
def refuse (gossip : GossipEnvelope) (status : String) (duplicate : Bool) (ttlHopsRemaining : UInt8)
    (s : AppState) : Handled × AppState :=
  let (knownPeerCount, s) := s.knownPeerCount
  let ack :=
    { status := status
      localNodeId := s.nodeProfile.nodeId
      gossipId := gossip.gossipId
      duplicate := duplicate
      relayed := false
      ttlHopsRemaining := ttlHopsRemaining
      knownPeerCount := knownPeerCount
      receivedAt := s.now }
  (⟨.ok ack, none, none⟩, s.tick)

/-- The answer to an envelope that was sent too long ago; its time is the one of the test. -/
def refuseStale (gossip : GossipEnvelope) (now : DateTime) (s : AppState) : Handled × AppState :=
  let (knownPeerCount, s) := s.knownPeerCount
  let ack :=
    { status := "stale_replay"
      localNodeId := s.nodeProfile.nodeId
      gossipId := gossip.gossipId
      duplicate := false
      relayed := false
      ttlHopsRemaining := gossip.ttlHops
      knownPeerCount := knownPeerCount
      receivedAt := now }
  (⟨.ok ack, none, none⟩, s)

/-- An envelope that is new: it is stored, and relayed if hops remain. -/
def storeAndRelay (gossip : GossipEnvelope) (s : AppState) : Handled × AppState :=
  match s.storage (storeGossip gossip) with
  | (.error e, s) => (⟨.error .internalServerError, some (.error e), none⟩, s)
  | (.ok peer, s) =>
    let (knownPeerCount, s) := s.knownPeerCount
    let relayed := 1 < gossip.ttlHops
    let ttlHopsRemaining := if relayed then gossip.ttlHops - 1 else gossip.ttlHops
    let s :=
      if relayed then s.count fun m => { m with inboundRelayed := m.inboundRelayed + 1 } else s
    let relay :=
      if relayed then some ({ gossip with ttlHops := ttlHopsRemaining }, some gossip.fromPeer.peerId)
      else none
    let ack :=
      { status := "ok"
        localNodeId := s.nodeProfile.nodeId
        gossipId := gossip.gossipId
        duplicate := false
        relayed := relayed
        ttlHopsRemaining := ttlHopsRemaining
        knownPeerCount := knownPeerCount
        receivedAt := s.now }
    (⟨.ok ack, some (.ok peer), relay⟩, s.tick)

/-- The maximal age of an envelope, in seconds. -/
def maxAgeS : Int := 300

section

variable (hmac : String → String → Vector UInt8 32)

/-- `handle_mesh_gossip` -/
def handleMeshGossip (gossip : GossipEnvelope) (s : AppState) : Handled × AppState :=
  let s := s.count fun m => { m with inboundTotal := m.inboundTotal + 1 }
  let now := s.now
  let s := s.tick
  if maxAgeS < now.numSecondsSince gossip.sentAt then refuseStale gossip now s
  else if s.runtime.gossipHmacVerifyKeys ≠ [] ∧
      ¬ verifyGossipSignatureWithAnyKey hmac gossip s.runtime.gossipHmacVerifyKeys then
    refuse gossip "auth_failed" false gossip.ttlHops
      (s.count fun m => { m with inboundAuthFailed := m.inboundAuthFailed + 1 })
  else if gossip.ttlHops = 0 then
    refuse gossip "dropped_ttl" false 0
      (s.count fun m => { m with inboundTtlDropped := m.inboundTtlDropped + 1 })
  else
    let (seenNow, seen) :=
      markGossipSeen s.seenGossip gossip.gossipId s.runtime.dedupWindowS s.now.timestamp
    let s := { s.tick with seenGossip := seen }
    if seenNow then storeAndRelay gossip s
    else
      refuse gossip "duplicate" true gossip.ttlHops
        (s.count fun m => { m with inboundDuplicate := m.inboundDuplicate + 1 })

/-! ## Sending -/

/-- The copy of an envelope that is posted: signed, if the node has a signing key. -/
def MeshRuntimeConfig.outbound (runtime : MeshRuntimeConfig) (envelope : GossipEnvelope) : GossipEnvelope :=
  match runtime.gossipHmacSigningKey with
  | some key => signGossipEnvelope hmac envelope key
  | none => envelope

/-- `mesh_gossip_url` -/
def meshGossipUrl (address : String) : String :=
  let base := String.ofList ((trim address).toList.reverse.dropWhile (· = '/')).reverse
  if "http://".toList.isPrefixOf base.toList ∨ "https://".toList.isPrefixOf base.toList then
    base ++ "/mesh/gossip"
  else "http://" ++ base ++ "/mesh/gossip"

/-- The loop over the attempts to post: how many were made, and whether the last one succeeded.
`respond n` says whether attempt `n` gets a response with a success status. -/
def attemptLoop (respond : Nat → Bool) : Nat → Nat → Nat × Bool
  | attempts, 0 => (attempts, false)
  | attempts, left + 1 =>
    if respond attempts then (attempts + 1, true) else attemptLoop respond (attempts + 1) left

/-- `max_attempts` -/
def maxAttempts : Nat := 3

/-- A request to post an envelope to a URL. -/
abbrev Post := String × GossipEnvelope

/-- The posts to one peer. -/
def sendGossipToPeer (respond : Nat → Bool) (envelope : GossipEnvelope) (peer : MeshPeer)
    (s : AppState) : List Post × AppState :=
  let outbound := s.runtime.outbound hmac envelope
  let breakerOpen := 5 ≤ (s.peerFailures.lookup peer.peerId).getD 0
  if breakerOpen then ([], s)
  else
    let (attempts, success) := attemptLoop respond 0 maxAttempts
    let s := s.count fun m =>
      { m with
        outboundAttempted := m.outboundAttempted + .ofNat attempts
        outboundSuccess := if success then m.outboundSuccess + 1 else m.outboundSuccess
        outboundFailure := if success then m.outboundFailure else m.outboundFailure + 1 }
    let failures :=
      if success then s.peerFailures.erase peer.peerId
      else s.peerFailures.insert peer.peerId ((s.peerFailures.lookup peer.peerId).getD 0 + 1)
    (List.replicate attempts (meshGossipUrl peer.address, outbound), { s with peerFailures := failures })

/-- The posts to a list of peers. -/
def sendGossipTo (respond : String → Nat → Bool) (envelope : GossipEnvelope) :
    List MeshPeer → AppState → List Post × AppState
  | [], s => ([], s)
  | peer :: peers, s =>
    let (posts, s) := sendGossipToPeer hmac (respond peer.peerId) envelope peer s
    let (rest, s) := sendGossipTo respond envelope peers s
    (posts ++ rest, s)

/-- The peers that `send_gossip_to_peers` posts to: not the node itself, and not the excluded one. -/
def recipients (nodeId : String) (excludePeerId : Option String) (registry : MeshRegistry) :
    List MeshPeer :=
  (registry.entries.map Sigma.snd).filter fun peer =>
    peer.peerId ≠ nodeId ∧ excludePeerId ≠ some peer.peerId

/-- `send_gossip_to_peers` -/
def sendGossipToPeers (respond : String → Nat → Bool) (envelope : GossipEnvelope)
    (excludePeerId : Option String) (s : AppState) : List Post × AppState :=
  match s.storage getMeshRegistry with
  | (.error _, s) => ([], s)
  | (.ok registry, s) =>
    sendGossipTo hmac respond envelope (recipients s.nodeProfile.nodeId excludePeerId registry) s

/-- The gossip that a round of `run_gossip_loop` builds, from the identifier, the threats and the number of
organisms. -/
def ownGossip (gossipId : String) (maxHops : UInt8) (observedThreats : List String)
    (observedOrganisms : UInt64) (sentAt : DateTime) (s : AppState) : GossipEnvelope :=
  s.runtime.outbound hmac
    { gossipId := gossipId
      ttlHops := maxHops
      fromPeer :=
        { peerId := s.nodeProfile.nodeId
          address := s.nodeProfile.bindAddr
          role := s.nodeProfile.role }
      observedThreats := observedThreats
      observedOrganisms := observedOrganisms
      sentAt := sentAt
      hmacSha256 := none }

/-- A round of `run_gossip_loop`, given the identifier drawn and what `get_colony_status` reports. -/
def gossipRound (respond : String → Nat → Bool) (gossipId : String) (maxHops : UInt8)
    (observedThreats : List String) (observedOrganisms : UInt64) (s : AppState) : List Post × AppState :=
  match s.storage getMeshRegistry with
  | (.error _, s) => ([], s)
  | (.ok registry, s) =>
    if registry.entries = [] then ([], s)
    else
      let envelope := ownGossip hmac gossipId maxHops observedThreats observedOrganisms s.now s
      let s := s.tick
      let seen :=
        (markGossipSeen s.seenGossip gossipId s.runtime.dedupWindowS s.now.timestamp).2
      sendGossipToPeers hmac respond envelope none { s.tick with seenGossip := seen }

end

/-! ## What a request leaves as it is -/

/-- Time passes and the disk changes; the configuration and the circuit breakers stay. -/
structure Advances (s t : AppState) : Prop where
  runtime : t.runtime = s.runtime
  nodeProfile : t.nodeProfile = s.nodeProfile
  peerFailures : t.peerFailures = s.peerFailures
  world : ∃ disk m k, t.world = s.world.after disk m k

section

variable {s t u : AppState} {gossip : GossipEnvelope}

theorem Advances.refl (s : AppState) : Advances s s := ⟨rfl, rfl, rfl, s.world.disk, 0, 0, rfl⟩

theorem Advances.trans (h : Advances s t) (h' : Advances t u) : Advances s u := by
  obtain ⟨disk, m, k, hw⟩ := h.world
  obtain ⟨disk', m', k', hw'⟩ := h'.world
  refine ⟨h'.runtime.trans h.runtime, h'.nodeProfile.trans h.nodeProfile,
    h'.peerFailures.trans h.peerFailures, disk', m + m', k + k', ?_⟩
  rw [hw', hw, World.after_after]

theorem advances_tick (s : AppState) : Advances s s.tick := ⟨rfl, rfl, rfl, s.world.disk, 0, 1, rfl⟩

theorem advances_storage {α : Type} {x : Io α} (hx : Keeps x Disk.organisms) (s : AppState) :
    Advances s (s.storage x).2 := by
  obtain ⟨disk, m, k, hw, -⟩ := hx s.world
  exact ⟨rfl, rfl, rfl, disk, m, k, hw⟩

theorem knownPeerCount_eq (s : AppState) :
    (s.knownPeerCount).2 = (s.storage getMeshRegistry).2 := by
  rw [AppState.knownPeerCount]
  rcases s.storage getMeshRegistry with ⟨_ | registry, t⟩ <;> rfl

theorem advances_knownPeerCount (s : AppState) : Advances s (s.knownPeerCount).2 := by
  rw [knownPeerCount_eq]
  exact advances_storage keeps_organisms_getMeshRegistry s

theorem seenGossip_knownPeerCount (s : AppState) : (s.knownPeerCount).2.seenGossip = s.seenGossip := by
  rw [knownPeerCount_eq]
  rfl

/-! ## The cases of the handler -/

variable (hmac : String → String → Vector UInt8 32)

/-- The envelope was not sent too long ago. -/
def Fresh (gossip : GossipEnvelope) (s : AppState) : Prop := s.now.numSecondsSince gossip.sentAt ≤ maxAgeS

/-- The node verifies nothing, or has a key under which the signature is right. -/
def Authentic (gossip : GossipEnvelope) (s : AppState) : Prop :=
  s.runtime.gossipHmacVerifyKeys = [] ∨
    verifyGossipSignatureWithAnyKey hmac gossip s.runtime.gossipHmacVerifyKeys

/-- The request comes to `mark_gossip_seen`. -/
structure Admitted (gossip : GossipEnvelope) (s : AppState) : Prop where
  fresh : Fresh gossip s
  authentic : Authentic hmac gossip s
  ttlHops : gossip.ttlHops ≠ 0

/-- The time at which `mark_gossip_seen` marks. -/
def markTime (s : AppState) : Int := (s.world.clock 1).timestamp

/-- What `mark_gossip_seen` returns, and the cache after it. -/
def mark (gossip : GossipEnvelope) (s : AppState) : Bool × SeenCache :=
  markGossipSeen s.seenGossip gossip.gossipId s.runtime.dedupWindowS (markTime s)

/-- The state in which the envelope is stored. -/
def marked (gossip : GossipEnvelope) (s : AppState) : AppState :=
  { (s.count fun m => { m with inboundTotal := m.inboundTotal + 1 }).tick.tick with
    seenGossip := (mark gossip s).2 }

/-- The request is refused, and nothing is stored or relayed. -/
structure Refused (gossip : GossipEnvelope) (duplicate : Bool) (s : AppState) (seen : SeenCache)
    (result : Handled × AppState) : Prop where
  response : ∃ ack, result.1.response = .ok ack ∧ ack.gossipId = gossip.gossipId ∧
    ack.duplicate = duplicate ∧ ack.relayed = false
  stored : result.1.stored = none
  relay : result.1.relay = none
  seenGossip : result.2.seenGossip = seen
  advances : Advances s result.2

theorem refused_refuse (gossip : GossipEnvelope) (status : String) (duplicate : Bool) (ttl : UInt8)
    (h : Advances s t) : Refused gossip duplicate s t.seenGossip (refuse gossip status duplicate ttl t) where
  response := ⟨_, rfl, rfl, rfl, rfl⟩
  stored := rfl
  relay := rfl
  seenGossip := seenGossip_knownPeerCount t
  advances := (h.trans (advances_knownPeerCount t)).trans (advances_tick _)

theorem refused_refuseStale (gossip : GossipEnvelope) (now : DateTime) (h : Advances s t) :
    Refused gossip false s t.seenGossip (refuseStale gossip now t) where
  response := ⟨_, rfl, rfl, rfl, rfl⟩
  stored := rfl
  relay := rfl
  seenGossip := seenGossip_knownPeerCount t
  advances := h.trans (advances_knownPeerCount t)

/-- The state after the first lines of the handler. -/
def received (s : AppState) : AppState :=
  (s.count fun m => { m with inboundTotal := m.inboundTotal + 1 }).tick

theorem advances_received (s : AppState) : Advances s (received s) :=
  ⟨rfl, rfl, rfl, s.world.disk, 0, 1, rfl⟩

theorem advances_marked (gossip : GossipEnvelope) (s : AppState) : Advances s (marked gossip s) :=
  ⟨rfl, rfl, rfl, s.world.disk, 0, 2, rfl⟩

theorem advances_count (h : Advances s t) (f : MeshMetrics → MeshMetrics) : Advances s (t.count f) :=
  ⟨h.runtime, h.nodeProfile, h.peerFailures, h.world⟩

theorem Authentic.not_refused (h : Authentic hmac gossip s) :
    ¬ (s.runtime.gossipHmacVerifyKeys ≠ [] ∧
      ¬ verifyGossipSignatureWithAnyKey hmac gossip s.runtime.gossipHmacVerifyKeys) := by
  rintro ⟨hne, hnot⟩
  exact h.elim hne hnot

/-- An envelope that is not admitted is stale, or is refused before the cache is looked at. -/
theorem handle_refuses (h : ¬ Admitted hmac gossip s) :
    handleMeshGossip hmac gossip s = refuseStale gossip s.now (received s) ∨
      ∃ status ttl f, handleMeshGossip hmac gossip s =
        refuse gossip status false ttl ((received s).count f) := by
  by_cases hfresh : Fresh gossip s
  · by_cases hauth : Authentic hmac gossip s
    · have httl : gossip.ttlHops = 0 := by
        by_contra httl
        exact h ⟨hfresh, hauth, httl⟩
      exact .inr ⟨"dropped_ttl", 0, fun m => { m with inboundTtlDropped := m.inboundTtlDropped + 1 },
        (if_neg (Int.not_lt.2 hfresh)).trans ((if_neg (hauth.not_refused hmac)).trans (if_pos httl))⟩
    · have hrefused : s.runtime.gossipHmacVerifyKeys ≠ [] ∧
          ¬ verifyGossipSignatureWithAnyKey hmac gossip s.runtime.gossipHmacVerifyKeys :=
        not_or.1 hauth
      exact .inr ⟨"auth_failed", gossip.ttlHops,
        fun m => { m with inboundAuthFailed := m.inboundAuthFailed + 1 },
        (if_neg (Int.not_lt.2 hfresh)).trans (if_pos hrefused)⟩
  · exact .inl (if_pos (Int.not_le.1 hfresh))

/-- An envelope that is not admitted is refused, and the cache stays as it is. -/
theorem handle_of_not_admitted (h : ¬ Admitted hmac gossip s) :
    Refused gossip false s s.seenGossip (handleMeshGossip hmac gossip s) := by
  have hadvances := advances_received s
  rcases handle_refuses hmac h with hstale | ⟨status, ttl, f, hrefused⟩
  · rw [hstale]
    exact refused_refuseStale gossip s.now hadvances
  · rw [hrefused]
    exact refused_refuse gossip status false ttl (advances_count hadvances f)

/-- An admitted envelope comes to `mark_gossip_seen`. -/
theorem handle_of_admitted (h : Admitted hmac gossip s) : handleMeshGossip hmac gossip s =
    if (mark gossip s).1 then storeAndRelay gossip (marked gossip s)
    else
      refuse gossip "duplicate" true gossip.ttlHops
        ((marked gossip s).count fun m => { m with inboundDuplicate := m.inboundDuplicate + 1 }) :=
  (if_neg (Int.not_lt.2 h.fresh)).trans ((if_neg (h.authentic.not_refused hmac)).trans
    (if_neg h.ttlHops))

/-- An admitted envelope that is not new is refused as a duplicate. -/
theorem handle_of_not_new (h : Admitted hmac gossip s) (hnew : (mark gossip s).1 = false) :
    Refused gossip true s (mark gossip s).2 (handleMeshGossip hmac gossip s) := by
  rw [handle_of_admitted hmac h, hnew, if_neg Bool.false_ne_true]
  exact refused_refuse gossip _ true _ (advances_count (advances_marked gossip s) _)

/-- A new one is stored and relayed. -/
theorem handle_of_new (h : Admitted hmac gossip s) (hnew : (mark gossip s).1 = true) :
    handleMeshGossip hmac gossip s = storeAndRelay gossip (marked gossip s) := by
  rw [handle_of_admitted hmac h, if_pos hnew]

/-- A gossip that could not be stored is answered with an error. -/
theorem storeAndRelay_error {e : StorageError} {w : World}
    (h : storeGossip gossip s.world = (.error e, w)) : storeAndRelay gossip s =
      (⟨.error .internalServerError, some (.error e), none⟩, { s with world := w }) := by
  rw [storeAndRelay, AppState.storage, h]

/-- One that was stored is relayed if more than one hop remains. -/
theorem storeAndRelay_ok {peer : MeshPeer} {w : World}
    (h : storeGossip gossip s.world = (.ok peer, w)) :
    (∃ ack, (storeAndRelay gossip s).1.response = .ok ack ∧ ack.gossipId = gossip.gossipId ∧
      ack.duplicate = false ∧ ack.relayed = decide (1 < gossip.ttlHops)) ∧
      (storeAndRelay gossip s).1.stored = some (.ok peer) ∧
      (storeAndRelay gossip s).1.relay =
        if 1 < gossip.ttlHops then
          some ({ gossip with ttlHops := gossip.ttlHops - 1 }, some gossip.fromPeer.peerId)
        else none := by
  rw [storeAndRelay, AppState.storage, h]
  refine ⟨⟨_, rfl, rfl, rfl, rfl⟩, rfl, ?_⟩
  dsimp only
  split
  · rfl
  · rfl

/-- Storing and relaying leaves the cache as it is. -/
theorem storeAndRelay_advances (gossip : GossipEnvelope) (s : AppState) :
    Advances s (storeAndRelay gossip s).2 ∧
      (storeAndRelay gossip s).2.seenGossip = s.seenGossip := by
  have hstored := advances_storage (keeps_organisms_storeGossip gossip) s
  rcases hres : storeGossip gossip s.world with ⟨e | peer, w⟩
  · rw [storeAndRelay_error hres]
    rw [AppState.storage, hres] at hstored
    exact ⟨hstored, rfl⟩
  · rw [AppState.storage, hres] at hstored
    rw [storeAndRelay, AppState.storage, hres]
    dsimp only at hstored ⊢
    have hcount := advances_knownPeerCount { s with world := w }
    have hseen := seenGossip_knownPeerCount { s with world := w }
    split
    · exact ⟨(hstored.trans (advances_count hcount _)).trans (advances_tick _), hseen⟩
    · exact ⟨(hstored.trans hcount).trans (advances_tick _), hseen⟩

/-! ## What every request does -/

/-- The request comes to `store_gossip`. -/
def Passes (gossip : GossipEnvelope) (s : AppState) : Prop :=
  (handleMeshGossip hmac gossip s).1.stored.isSome

theorem storeAndRelay_stored (gossip : GossipEnvelope) (s : AppState) :
    (storeAndRelay gossip s).1.stored = some (storeGossip gossip s.world).1 := by
  rcases hres : storeGossip gossip s.world with ⟨e | peer, w⟩
  · rw [storeAndRelay_error hres]
  · exact (storeAndRelay_ok hres).2.1

/-- Exactly the envelopes that are admitted and new are passed on. -/
theorem passes_iff : Passes hmac gossip s ↔ Admitted hmac gossip s ∧ (mark gossip s).1 = true := by
  rw [Passes]
  by_cases hadm : Admitted hmac gossip s
  · cases hnew : (mark gossip s).1 with
    | false => simp [(handle_of_not_new hmac hadm hnew).stored]
    | true => simp [handle_of_new hmac hadm hnew, storeAndRelay_stored, hadm]
  · simp [(handle_of_not_admitted hmac hadm).stored, hadm]

/-- The cache changes at the mark only. -/
theorem seenGossip_handle (h : Admitted hmac gossip s) :
    (handleMeshGossip hmac gossip s).2.seenGossip = (mark gossip s).2 := by
  cases hnew : (mark gossip s).1 with
  | false => exact (handle_of_not_new hmac h hnew).seenGossip
  | true =>
    rw [handle_of_new hmac h hnew]
    exact (storeAndRelay_advances gossip _).2

theorem advances_handle (gossip : GossipEnvelope) (s : AppState) :
    Advances s (handleMeshGossip hmac gossip s).2 := by
  by_cases hadm : Admitted hmac gossip s
  · cases hnew : (mark gossip s).1 with
    | false => exact (handle_of_not_new hmac hadm hnew).advances
    | true =>
      rw [handle_of_new hmac hadm hnew]
      exact (advances_marked gossip s).trans (storeAndRelay_advances gossip _).1
  · exact (handle_of_not_admitted hmac hadm).advances

/-- Exactly what was stored with more than one hop left is relayed, with one less. -/
theorem relay_handle_iff {relayed : GossipEnvelope} {excludePeerId : Option String} :
    (handleMeshGossip hmac gossip s).1.relay = some (relayed, excludePeerId) ↔
      (∃ peer, (handleMeshGossip hmac gossip s).1.stored = some (.ok peer)) ∧ 1 < gossip.ttlHops ∧
        relayed = { gossip with ttlHops := gossip.ttlHops - 1 } ∧
        excludePeerId = some gossip.fromPeer.peerId := by
  by_cases hadm : Admitted hmac gossip s
  · cases hnew : (mark gossip s).1 with
    | false =>
      have hrefused := handle_of_not_new hmac hadm hnew
      simp [hrefused.stored, hrefused.relay]
    | true =>
      rw [handle_of_new hmac hadm hnew]
      rcases hres : storeGossip gossip (marked gossip s).world with ⟨e | peer, w⟩
      · simp [storeAndRelay_error hres]
      · obtain ⟨-, hstored, hrelay⟩ := storeAndRelay_ok hres
        rw [hstored, hrelay]
        by_cases httl : 1 < gossip.ttlHops
        · simp [httl, eq_comm]
        · simp [httl]
  · have hrefused := handle_of_not_admitted hmac hadm
    simp [hrefused.stored, hrefused.relay]

end

end OperatingOrganism.ColonyServer

import OperatingOrganism.ColonyServer.Redelivery

/-!
# Which gossip is admitted

The handler of `/mesh/gossip` tests the age, the signature and the hops of an envelope, and then whether its
identifier is in the cache. While storage works, the envelopes that pass all four are those for which a record is
appended and the sender registered; nothing else is appended, and what fails one of the first three leaves the cache
as it was (`gossip_admission`).

The age is taken in whole seconds: an envelope is admitted until it is 301 seconds old.
-/

set_option autoImplicit false

namespace OperatingOrganism.ColonyServer

open OperatingOrganism.FaultyIo

/-! ## Requests -/

section

variable (hmac : String → String → Vector UInt8 32)
variable {s t : AppState} {gossip : GossipEnvelope}

/-- The identifier is not in the cache when the entries older than the window have been dropped. -/
def Unseen (gossip : GossipEnvelope) (s : AppState) : Prop :=
  gossip.gossipId ∉ s.seenGossip.recent (markTime s) s.runtime.dedupWindowS

/-- The logs have one record more, that of the envelope. -/
def AppendsRecord (gossip : GossipEnvelope) (s : AppState) : Prop :=
  ∃ receivedAt, (handleMeshGossip hmac gossip s).2.world.disk.logs =
    (s.world.disk.append gossipFile (.line (.gossip (gossipRecord gossip receivedAt)))).logs

/-- The sender is registered, with the address and the role of the envelope and the time. Its record is in the
registry on the disk, unless more than an hour has gone by when the peers are counted. -/
def RegistersSender (gossip : GossipEnvelope) (s : AppState) : Prop :=
  ∃ peer, (handleMeshGossip hmac gossip s).1.stored = some (.ok peer) ∧
    peer.address = gossip.fromPeer.address ∧ peer.role = gossip.fromPeer.role ∧ peer.lastSeen = s.world.clock 3 ∧
      (keepPeer (s.world.clock 5) peer →
        (peerRegistry (handleMeshGossip hmac gossip s).2.world).lookup gossip.fromPeer.peerId = some peer)

theorem mark_fst_iff : (mark gossip s).1 = true ↔ Unseen gossip s := markGossipSeen_fst

theorem logs_knownPeerCount (s : AppState) : (s.knownPeerCount).2.world.disk.logs = s.world.disk.logs := by
  obtain ⟨disk, m, k, hw, hlogs⟩ := keeps_getMeshRegistry (f := Disk.logs) (fun _ _ => rfl) s.world
  rw [knownPeerCount_eq, AppState.storage, hw]
  exact hlogs

/-- An envelope that is refused leaves the logs as they are. -/
theorem logs_refuse (gossip : GossipEnvelope) (status : String) (duplicate : Bool) (ttl : UInt8) (s : AppState) :
    (refuse gossip status duplicate ttl s).2.world.disk.logs = s.world.disk.logs :=
  logs_knownPeerCount s

theorem logs_of_not_admitted (h : ¬ Admitted hmac gossip s) :
    (handleMeshGossip hmac gossip s).2.world.disk.logs = s.world.disk.logs := by
  rcases handle_refuses hmac h with hstale | ⟨status, ttl, f, hrefused⟩
  · rw [hstale]
    exact logs_knownPeerCount (received s)
  · rw [hrefused]
    exact logs_refuse gossip status false ttl _

/-- What is not admitted, or not new, leaves the logs as they are. -/
theorem logs_of_refused (h : ¬ (Admitted hmac gossip s ∧ Unseen gossip s)) :
    (handleMeshGossip hmac gossip s).2.world.disk.logs = s.world.disk.logs := by
  by_cases hadm : Admitted hmac gossip s
  · have hseen : ¬ (mark gossip s).1 = true := fun hnew => h ⟨hadm, mark_fst_iff.1 hnew⟩
    rw [handle_of_admitted hmac hadm, if_neg hseen]
    exact logs_refuse gossip _ _ _ _
  · exact logs_of_not_admitted hmac hadm

theorem stored_of_refused (h : ¬ (Admitted hmac gossip s ∧ Unseen gossip s)) :
    (handleMeshGossip hmac gossip s).1.stored = none := by
  by_cases hadm : Admitted hmac gossip s
  · have hseen : (mark gossip s).1 = false :=
      Bool.eq_false_iff.2 fun hnew => h ⟨hadm, mark_fst_iff.1 hnew⟩
    exact (handle_of_not_new hmac hadm hseen).stored
  · exact (handle_of_not_admitted hmac hadm).stored

/-- After the gossip has been stored, the peers are counted. -/
theorem disk_storeAndRelay {peer : MeshPeer} {w : World} (h : storeGossip gossip s.world = (.ok peer, w)) :
    (storeAndRelay gossip s).2.world.disk = (getMeshRegistry w).2.disk := by
  have hcount : (AppState.knownPeerCount { s with world := w }).2.world = (getMeshRegistry w).2 := by
    rw [knownPeerCount_eq]
    rfl
  rw [storeAndRelay, AppState.storage, h]
  dsimp only
  rw [← hcount]
  split
  · rfl
  · rfl

/-- Counting the peers keeps one that was seen within the hour. -/
theorem lookup_getMeshRegistry {w : World} {id : String} {peer : MeshPeer} (hworks : ∀ n, w.outcomes n = .ok)
    (hlisted : (peerRegistry w).lookup id = some peer) (hkeep : keepPeer (w.clock 0) peer) :
    (peerRegistry (getMeshRegistry w).2).lookup id = some peer := by
  have hkept := lookup_keptPeers (hworks 0) hlisted hkeep
  obtain ⟨disk, m, hread⟩ := getMeshRegistry_succeeds hworks
  obtain ⟨-, disk', m', hw, hdisk⟩ := getMeshRegistry_ok hread
  obtain rfl : disk = disk' := congrArg FaultyIo.World.disk hw
  rw [hread]
  rcases hdisk with rfl | ⟨-, rfl⟩
  · exact hlisted
  · exact hkept

section Works

variable (hworks : ∀ n, s.world.outcomes n = .ok)
include hworks

/-- An admitted envelope that is new is stored. -/
theorem storeGossip_marked (gossip : GossipEnvelope) : ∃ m, storeGossip gossip (marked gossip s).world =
    (.ok (registeredPeer gossip.fromPeer (marked gossip s).world),
      (marked gossip s).world.after (storedDisk gossip (marked gossip s).world) m 3) :=
  storeGossip_writes gossip fun _ => hworks _

theorem appendsRecord_of_new (hadm : Admitted hmac gossip s) (hnew : Unseen gossip s) :
    AppendsRecord hmac gossip s := by
  obtain ⟨m, hstored⟩ := storeGossip_marked hworks gossip
  obtain ⟨disk, m', k, hw, hlogs⟩ := keeps_getMeshRegistry (f := Disk.logs) (fun _ _ => rfl)
    ((marked gossip s).world.after (storedDisk gossip (marked gossip s).world) m 3)
  refine ⟨(marked gossip s).world.clock 2, ?_⟩
  rw [handle_of_new hmac hadm (mark_fst_iff.2 hnew), disk_storeAndRelay hstored, hw]
  exact hlogs

theorem registersSender_of_new (hadm : Admitted hmac gossip s) (hnew : Unseen gossip s) :
    RegistersSender hmac gossip s := by
  obtain ⟨m, hstored⟩ := storeGossip_marked hworks gossip
  refine ⟨registeredPeer gossip.fromPeer (marked gossip s).world, ?_, ?_, ?_, ?_, ?_⟩
  · rw [handle_of_new hmac hadm (mark_fst_iff.2 hnew)]
    exact (storeAndRelay_ok hstored).2.1
  · rw [registeredPeer]
    cases (keptPeers (marked gossip s).world).lookup gossip.fromPeer.peerId <;> rfl
  · rw [registeredPeer]
    cases (keptPeers (marked gossip s).world).lookup gossip.fromPeer.peerId <;> rfl
  · exact registeredPeer_lastSeen gossip.fromPeer _
  · intro hkeep
    rw [peerRegistry, handle_of_new hmac hadm (mark_fst_iff.2 hnew), disk_storeAndRelay hstored]
    refine lookup_getMeshRegistry ?_ ?_ hkeep
    · exact fun _ => hworks _
    · exact AList.lookup_insert _

theorem relay_isSome_of_new (hadm : Admitted hmac gossip s) (hnew : Unseen gossip s) :
    (handleMeshGossip hmac gossip s).1.relay.isSome ↔ 1 < gossip.ttlHops := by
  obtain ⟨m, hstored⟩ := storeGossip_marked hworks gossip
  rw [handle_of_new hmac hadm (mark_fst_iff.2 hnew), (storeAndRelay_ok hstored).2.2]
  split
  · next htl => exact iff_of_true rfl htl
  · next htl => exact iff_of_false nofun htl

/-- While storage works, a record is appended and the sender registered if and only if the envelope passes the tests
of its age in whole seconds, its signature and its hops and is not in the cache; it is relayed if in addition more
than one hop remains. What does not pass leaves the logs as they are, and the cache as well, if it fails one of the
first three tests. -/
theorem gossip_admission :
    (AppendsRecord hmac gossip s ∧ RegistersSender hmac gossip s ↔ Admitted hmac gossip s ∧ Unseen gossip s) ∧
      (¬ (Admitted hmac gossip s ∧ Unseen gossip s) →
        (handleMeshGossip hmac gossip s).2.world.disk.logs = s.world.disk.logs ∧
          (handleMeshGossip hmac gossip s).1.stored = none) ∧
      (¬ Admitted hmac gossip s →
        (handleMeshGossip hmac gossip s).2.seenGossip = s.seenGossip) ∧
      ((handleMeshGossip hmac gossip s).1.relay.isSome ↔
        (Admitted hmac gossip s ∧ Unseen gossip s) ∧ 1 < gossip.ttlHops) := by
  refine ⟨⟨?_, ?_⟩, ?_, ?_, ?_⟩
  · rintro ⟨-, peer, hstored, -⟩
    by_contra hrefused
    rw [stored_of_refused hmac hrefused] at hstored
    cases hstored
  · rintro ⟨hadm, hnew⟩
    exact ⟨appendsRecord_of_new hmac hworks hadm hnew, registersSender_of_new hmac hworks hadm hnew⟩
  · intro hrefused
    exact ⟨logs_of_refused hmac hrefused, stored_of_refused hmac hrefused⟩
  · exact fun hrefused => (handle_of_not_admitted hmac hrefused).seenGossip
  · by_cases hpasses : Admitted hmac gossip s ∧ Unseen gossip s
    · rw [relay_isSome_of_new hmac hworks hpasses.1 hpasses.2]
      exact (and_iff_right hpasses).symm
    · refine iff_of_false ?_ fun h => hpasses h.1
      intro hrelay
      obtain ⟨relay, hrelay⟩ := Option.isSome_iff_exists.1 hrelay
      obtain ⟨⟨peer, hstored⟩, -⟩ := (relay_handle_iff hmac).1 hrelay
      rw [stored_of_refused hmac hpasses] at hstored
      cases hstored

end Works

end

/-! ## Half a second more -/

/-- The envelope was sent at most 300 seconds ago. -/
def SentWithin300Seconds (gossip : GossipEnvelope) (s : AppState) : Prop :=
  s.now.nanos - gossip.sentAt.nanos ≤ 300 * 1000000000

/-- Half a second after the beginning of a second. -/
def halfPast : DateTime where
  nanos := 1700000300500000000
  min_le := by decide
  lt_max := by decide

/-- A node at that time. -/
def lateNode : AppState := meshNode 300 (fun _ => .ok) fun _ => halfPast

theorem lateNode_admits : Admitted zeroHmac sampleGossip lateNode ∧ Unseen sampleGossip lateNode := by
  refine ⟨⟨?_, .inl rfl, by decide⟩, ?_⟩
  · show (1700000300500000000 - 1700000000000000000 : Int).tdiv 1000000000 ≤ 300
    decide
  · exact mark_fst_iff.1 rfl

/-- It stores an envelope that was sent 300.5 seconds ago. -/
theorem stored_after_300_seconds :
    ¬ (AppendsRecord zeroHmac sampleGossip lateNode ∧ RegistersSender zeroHmac sampleGossip lateNode ↔
      SentWithin300Seconds sampleGossip lateNode ∧ Authentic zeroHmac sampleGossip lateNode ∧
        sampleGossip.ttlHops ≠ 0 ∧ Unseen sampleGossip lateNode) := by
  intro hclaim
  obtain ⟨hadm, hnew⟩ := lateNode_admits
  have hstored := hclaim.1 ⟨appendsRecord_of_new zeroHmac (fun _ => rfl) hadm hnew,
    registersSender_of_new zeroHmac (fun _ => rfl) hadm hnew⟩
  have hold : ¬ SentWithin300Seconds sampleGossip lateNode := by
    show ¬ (1700000300500000000 - 1700000000000000000 : Int) ≤ 300 * 1000000000
    decide
  exact hold hstored.1

/-- The record of that envelope is appended, and it is relayed. -/
theorem gossip_admission_lateNode :
    AppendsRecord zeroHmac sampleGossip lateNode ∧ RegistersSender zeroHmac sampleGossip lateNode ∧
      (handleMeshGossip zeroHmac sampleGossip lateNode).1.relay.isSome := by
  have hlaw := @gossip_admission zeroHmac lateNode sampleGossip fun _ => rfl
  obtain ⟨happends, hregisters⟩ := hlaw.1.2 lateNode_admits
  exact ⟨happends, hregisters, hlaw.2.2.2.2 ⟨lateNode_admits, by decide⟩⟩

end OperatingOrganism.ColonyServer

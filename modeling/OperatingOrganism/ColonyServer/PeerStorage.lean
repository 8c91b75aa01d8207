import OperatingOrganism.ColonyServer.Storage

/-!
# What reading and writing the peer registry does

`get_mesh_registry` drops the peers that were not seen for an hour, and writes the registry back if it
dropped one. `register_peer` reads the registry so and writes it with the record of the peer.
-/

set_option autoImplicit false

namespace OperatingOrganism.ColonyServer

open OperatingOrganism.FaultyIo

/-- The peer registry. -/
def peerRegistry (w : World) : MeshRegistry := w.disk.peers.entries

/-- What `get_mesh_registry` returns if it succeeds. -/
def keptPeers (w : World) : MeshRegistry :=
  retain (fun _ peer => keepPeer (w.clock 0) peer) (readEntries peersFile w)

/-- Whether `get_mesh_registry` drops a peer. -/
def Evicts (w : World) : Prop :=
  (keptPeers w).entries.length < (readEntries peersFile w).entries.length

instance (w : World) : Decidable (Evicts w) :=
  inferInstanceAs (Decidable ((keptPeers w).entries.length < _))

section

variable {w : World}

/-- A peer that was seen within the hour is kept, if the registry is read. -/
theorem lookup_keptPeers {id : String} {peer : MeshPeer} (hread : w.outcomes 0 = .ok)
    (hlisted : (peerRegistry w).lookup id = some peer) (hkeep : keepPeer (w.clock 0) peer) :
    (keptPeers w).lookup id = some peer := by
  refine lookup_retain_of_true ?_ hkeep
  rw [readEntries, if_pos hread]
  exact hlisted

theorem getMeshRegistry_eq (w : World) : getMeshRegistry w =
    if Evicts w then
      match w.outcomes 1 with
      | .ok => (.ok (keptPeers w), w.after (peersFile.set (.whole (keptPeers w)) w.disk) 2 1)
      | .failed => (.error .io, w.after w.disk 2 1)
      | .cutShort => (.error .io, w.after (peersFile.set .torn w.disk) 2 1)
    else (.ok (keptPeers w), w.after w.disk 1 1) := by
  rw [getMeshRegistry, bind_of_ok (readJson_unwrapOr peersFile w), utcNow, bind_of_ok (now_eq _)]
  show (if Evicts w then (writeJson peersFile (keptPeers w) >>= fun _ => pure (keptPeers w))
    else pure (keptPeers w)) (w.after w.disk 1 1) = _
  by_cases hevicts : Evicts w
  · rw [if_pos hevicts, if_pos hevicts]
    have hwrite := perform_eq (replaceJson peersFile (keptPeers w)) StorageError.io (w.after w.disk 1 1)
    rw [World.after_outcomes] at hwrite
    cases houtcome : w.outcomes 1 <;> rw [houtcome] at hwrite
    · exact bind_of_ok hwrite
    · exact bind_of_error hwrite
    · exact bind_of_error hwrite
  · rw [if_neg hevicts, if_neg hevicts]
    rfl

theorem getMeshRegistry_ok {registry : MeshRegistry} {w' : World}
    (h : getMeshRegistry w = (.ok registry, w')) : registry = keptPeers w ∧
      ∃ disk m, w' = w.after disk m 1 ∧
        (disk = w.disk ∨ Evicts w ∧ disk = peersFile.set (.whole (keptPeers w)) w.disk) := by
  rw [getMeshRegistry_eq] at h
  split at h
  · rename_i hevicts
    cases houtcome : w.outcomes 1 <;> rw [houtcome] at h <;> cases h
    exact ⟨rfl, _, 2, rfl, .inr ⟨hevicts, rfl⟩⟩
  · cases h
    exact ⟨rfl, _, 1, rfl, .inl rfl⟩

theorem getMeshRegistry_error {e : StorageError} {w' : World}
    (h : getMeshRegistry w = (.error e, w')) :
    ∃ disk m, w' = w.after disk m 1 ∧ (disk = w.disk ∨ disk = peersFile.set .torn w.disk) := by
  rw [getMeshRegistry_eq] at h
  split at h
  · cases houtcome : w.outcomes 1 <;> rw [houtcome] at h <;> cases h
    · exact ⟨_, 2, rfl, .inl rfl⟩
    · exact ⟨_, 2, rfl, .inr rfl⟩
  · cases h

/-- The record that `register_peer` writes. -/
def registeredPeer (peer : PeerRegistration) (w : World) : MeshPeer :=
  meshPeer peer (w.clock 1) ((keptPeers w).lookup peer.peerId)

/-- The registry that `register_peer` writes. -/
def registeredPeers (peer : PeerRegistration) (w : World) : MeshRegistry :=
  (keptPeers w).insert peer.peerId (registeredPeer peer w)

theorem lastSeen_meshPeer (peer : PeerRegistration) (now : DateTime) (found : Option MeshPeer) :
    (meshPeer peer now found).lastSeen = now := by
  cases found with
  | none => rfl
  | some existing => rfl

theorem registeredPeer_lastSeen (peer : PeerRegistration) (w : World) :
    (registeredPeer peer w).lastSeen = w.clock 1 :=
  lastSeen_meshPeer peer (w.clock 1) _

/-- `register_peer` after `get_mesh_registry`. -/
theorem registerPeer_rest (peer : PeerRegistration) (registry : MeshRegistry) (w : World) :
    (do
      let now ← utcNow
      let record := meshPeer peer now (registry.lookup peer.peerId)
      writeJson peersFile (registry.insert peer.peerId record)
      pure record : Io MeshPeer) w =
    match w.outcomes 0 with
    | .ok =>
      (.ok (meshPeer peer (w.clock 0) (registry.lookup peer.peerId)),
        w.after (peersFile.set (.whole (registry.insert peer.peerId
          (meshPeer peer (w.clock 0) (registry.lookup peer.peerId)))) w.disk) 1 1)
    | .failed => (.error .io, w.after w.disk 1 1)
    | .cutShort => (.error .io, w.after (peersFile.set .torn w.disk) 1 1) := by
  rw [utcNow, bind_of_ok (now_eq w)]
  have hwrite := perform_eq (replaceJson peersFile (registry.insert peer.peerId
    (meshPeer peer (w.clock 0) (registry.lookup peer.peerId)))) StorageError.io (w.after w.disk 0 1)
  rw [World.after_outcomes] at hwrite
  cases houtcome : w.outcomes 0 <;> rw [houtcome] at hwrite
  · exact bind_of_ok hwrite
  · exact bind_of_error hwrite
  · exact bind_of_error hwrite

/-- A successful registration writes the registry with the record of the peer. -/
theorem registerPeer_ok {peer : PeerRegistration} {record : MeshPeer} {w' : World}
    (h : registerPeer peer w = (.ok record, w')) :
    record = registeredPeer peer w ∧
      ∃ m, w' = w.after (peersFile.set (.whole (registeredPeers peer w)) w.disk) m 2 := by
  rw [registerPeer, bind_eq_ok] at h
  obtain ⟨registry, w₁, hget, hrest⟩ := h
  obtain ⟨rfl, disk, m, rfl, hdisk⟩ := getMeshRegistry_ok hget
  rw [registerPeer_rest] at hrest
  cases houtcome : (w.after disk m 1).outcomes 0 <;> rw [houtcome] at hrest <;> cases hrest
  refine ⟨rfl, m + 1, ?_⟩
  rw [World.after_after]
  rcases hdisk with rfl | ⟨-, rfl⟩
  · rfl
  · rfl

/-- A successful registration has a second step that ends well. -/
theorem registerPeer_ok_outcome {peer : PeerRegistration} {record : MeshPeer} {w' : World}
    (h : registerPeer peer w = (.ok record, w')) : w.outcomes 1 = .ok := by
  rw [registerPeer, bind_eq_ok] at h
  obtain ⟨registry, w₁, hget, hrest⟩ := h
  rw [getMeshRegistry_eq] at hget
  split at hget
  · cases houtcome : w.outcomes 1 <;> rw [houtcome] at hget <;> cases hget
  · cases hget
    rw [registerPeer_rest, World.after_outcomes] at hrest
    cases houtcome : w.outcomes (0 + 1) <;> rw [houtcome] at hrest <;> cases hrest

/-- Peers are dropped only from a registry that was read. -/
theorem Evicts.read (h : Evicts w) :
    w.outcomes 0 = .ok ∧ ∃ registry, w.disk.peers = .whole registry := by
  have hne : readEntries peersFile w ≠ ∅ := by
    intro hempty
    rw [Evicts, hempty] at h
    exact Nat.not_lt_zero _ h
  by_cases hread : w.outcomes 0 = .ok
  · rw [readEntries, if_pos hread] at hne
    refine ⟨hread, ?_⟩
    cases hfile : w.disk.peers with
    | absent => exact absurd (congrArg JsonFile.entries hfile) hne
    | torn => exact absurd (congrArg JsonFile.entries hfile) hne
    | whole registry => exact ⟨registry, rfl⟩
  · exact absurd (if_neg hread) hne

/-- A registration that fails leaves the registry, the registry without the peers that it dropped, or a
torn file. -/
theorem registerPeer_error {peer : PeerRegistration} {e : StorageError} {w' : World}
    (h : registerPeer peer w = (.error e, w')) :
    ∃ disk m k, w' = w.after disk m k ∧ disk.organisms = w.disk.organisms ∧
      (disk.peers = w.disk.peers ∨ disk.peers = .torn ∨
        Evicts w ∧ disk.peers = .whole (keptPeers w)) := by
  rw [registerPeer, bind_eq_error] at h
  rcases h with hget | ⟨registry, w₁, hget, hrest⟩
  · obtain ⟨disk, m, rfl, rfl | rfl⟩ := getMeshRegistry_error hget
    · exact ⟨_, m, 1, rfl, rfl, .inl rfl⟩
    · exact ⟨_, m, 1, rfl, rfl, .inr (.inl rfl)⟩
  · obtain ⟨rfl, disk, m, rfl, hdisk⟩ := getMeshRegistry_ok hget
    rw [registerPeer_rest] at hrest
    have hkept : disk.organisms = w.disk.organisms ∧ (disk.peers = w.disk.peers ∨
        Evicts w ∧ disk.peers = .whole (keptPeers w)) := by
      rcases hdisk with rfl | ⟨hevicts, rfl⟩
      · exact ⟨rfl, .inl rfl⟩
      · exact ⟨rfl, .inr ⟨hevicts, rfl⟩⟩
    cases houtcome : (w.after disk m 1).outcomes 0 <;> rw [houtcome] at hrest <;> cases hrest
    · refine ⟨disk, m + 1, 2, World.after_after .., hkept.1, ?_⟩
      exact hkept.2.elim .inl fun h => .inr (.inr h)
    · exact ⟨_, m + 1, 2, World.after_after .., hkept.1, .inr (.inl rfl)⟩

/-- As long as no step fails, the registry is read. -/
theorem getMeshRegistry_succeeds (h : ∀ n, w.outcomes n = .ok) :
    ∃ disk m, getMeshRegistry w = (.ok (keptPeers w), w.after disk m 1) := by
  rw [getMeshRegistry_eq, h 1]
  split
  · exact ⟨_, _, rfl⟩
  · exact ⟨_, _, rfl⟩

/-- As long as no step fails, a peer is registered. -/
theorem registerPeer_succeeds (peer : PeerRegistration) (h : ∀ n, w.outcomes n = .ok) :
    ∃ disk m, registerPeer peer w = (.ok (registeredPeer peer w), w.after disk m 2) := by
  obtain ⟨disk, m, hget⟩ := getMeshRegistry_succeeds h
  rw [registerPeer, bind_of_ok hget, registerPeer_rest, World.after_outcomes, h, World.after_after]
  exact ⟨_, _, rfl⟩

/-! ## The other files -/

/-- Reading the peer registry keeps what is not in its file. -/
theorem keeps_getMeshRegistry {V : Type} {f : Disk → V}
    (hf : ∀ file disk, f (peersFile.set file disk) = f disk) : Keeps getMeshRegistry f := by
  intro w
  rw [getMeshRegistry_eq]
  split
  · cases w.outcomes 1 with
    | ok => exact ⟨_, 2, 1, rfl, hf _ _⟩
    | failed => exact ⟨_, 2, 1, rfl, rfl⟩
    | cutShort => exact ⟨_, 2, 1, rfl, hf _ _⟩
  · exact ⟨_, 1, 1, rfl, rfl⟩

theorem keeps_organisms_getMeshRegistry : Keeps getMeshRegistry Disk.organisms :=
  keeps_getMeshRegistry fun _ _ => rfl

theorem keeps_organisms_registerPeer (peer : PeerRegistration) :
    Keeps (registerPeer peer) Disk.organisms := by
  refine keeps_organisms_getMeshRegistry.bind fun registry => keeps_now.bind fun now => ?_
  refine Keeps.bind (keeps_perform ?_ ?_) fun _ => keeps_pure _
  · exact fun _ => rfl
  · exact fun _ => rfl

theorem keeps_organisms_storeGossip (gossip : GossipEnvelope) :
    Keeps (storeGossip gossip) Disk.organisms := by
  refine (keeps_organisms_registerPeer gossip.fromPeer).bind fun peer => ?_
  refine (keeps_attempt StorageError.io).bind fun _ => keeps_now.bind fun now => ?_
  refine Keeps.bind (keeps_perform ?_ ?_) fun _ => keeps_pure _
  · exact fun _ => rfl
  · exact fun _ => rfl

/-- The record of an envelope in the log. -/
def gossipRecord (gossip : GossipEnvelope) (receivedAt : DateTime) : GossipRecord where
  gossipId := gossip.gossipId
  fromPeer := gossip.fromPeer
  observedThreats := gossip.observedThreats
  observedOrganisms := gossip.observedOrganisms
  sentAt := gossip.sentAt
  receivedAt := receivedAt

/-- The disk with the sender registered and the record appended. -/
def storedDisk (gossip : GossipEnvelope) (w : World) : Disk :=
  (peersFile.set (.whole (registeredPeers gossip.fromPeer w)) w.disk).append gossipFile
    (.line (.gossip (gossipRecord gossip (w.clock 2))))

/-- As long as no step fails, the registry is written and one line appended. -/
theorem storeGossip_writes (gossip : GossipEnvelope) (h : ∀ n, w.outcomes n = .ok) :
    ∃ m, storeGossip gossip w =
      (.ok (registeredPeer gossip.fromPeer w), w.after (storedDisk gossip w) m 3) := by
  obtain ⟨disk, m, hregister⟩ := registerPeer_succeeds gossip.fromPeer h
  obtain ⟨-, m', hw⟩ := registerPeer_ok hregister
  have hdisk : disk = peersFile.set (.whole (registeredPeers gossip.fromPeer w)) w.disk :=
    congrArg FaultyIo.World.disk hw
  have hopen : openAppend (w.after disk m 2) = (.ok (), (w.after disk m 2).after disk 1 0) := by
    rw [openAppend, attempt_eq, World.after_outcomes, if_pos (h _)]
    rfl
  have hwrite := fun line => perform_eq (appendLine gossipFile line) StorageError.io
    (((w.after disk m 2).after disk 1 0).after disk 0 1)
  simp only [World.after_outcomes, h] at hwrite
  refine ⟨m + 1 + 0 + 1, ?_⟩
  rw [storeGossip, bind_of_ok hregister, bind_of_ok hopen, utcNow, bind_of_ok (now_eq _)]
  refine (bind_of_ok (hwrite _)).trans ?_
  rw [World.after_after, World.after_after, World.after_after, storedDisk, ← hdisk]
  rfl

/-- As long as no step fails, a gossip is stored. -/
theorem storeGossip_succeeds (gossip : GossipEnvelope) (h : ∀ n, w.outcomes n = .ok) :
    ∃ w', storeGossip gossip w = (.ok (registeredPeer gossip.fromPeer w), w') := by
  obtain ⟨m, hstored⟩ := storeGossip_writes gossip h
  exact ⟨_, hstored⟩

/-! ## Every peer is kept under its identifier -/

def KeyedById (registry : MeshRegistry) : Prop :=
  ∀ id peer, registry.lookup id = some peer → peer.peerId = id

theorem keyedById_empty : KeyedById ∅ := by
  intro id peer h
  rw [AList.lookup_empty] at h
  cases h

theorem KeyedById.keptPeers (h : KeyedById (peerRegistry w)) : KeyedById (keptPeers w) := by
  intro id peer hlookup
  obtain ⟨hread, -⟩ := mem_lookup_retain.1 hlookup
  rw [readEntries] at hread
  split at hread
  · exact h id peer hread
  · exact keyedById_empty id peer hread

theorem KeyedById.insert {registry : MeshRegistry} (h : KeyedById registry) {id : String} {record : MeshPeer}
    (hrecord : record.peerId = id) : KeyedById (registry.insert id record) := by
  intro id' peer hlookup
  by_cases hid : id' = id
  · subst hid
    rw [AList.lookup_insert, Option.some.injEq] at hlookup
    rw [← hlookup]
    exact hrecord
  · rw [AList.lookup_insert_ne hid] at hlookup
    exact h id' peer hlookup

theorem KeyedById.registeredPeers (h : KeyedById (peerRegistry w)) (peer : PeerRegistration) :
    KeyedById (registeredPeers peer w) := by
  refine h.keptPeers.insert ?_
  rw [registeredPeer]
  cases hold : (ColonyServer.keptPeers w).lookup peer.peerId with
  | none => rfl
  | some existing => exact h.keptPeers peer.peerId existing hold

theorem KeyedById.getMeshRegistry (h : KeyedById (peerRegistry w)) :
    KeyedById (peerRegistry (getMeshRegistry w).2) := by
  rcases hres : ColonyServer.getMeshRegistry w with ⟨e | registry, w'⟩
  · obtain ⟨disk, m, rfl, rfl | rfl⟩ := getMeshRegistry_error hres
    · exact h
    · exact keyedById_empty
  · obtain ⟨-, disk, m, rfl, rfl | ⟨-, rfl⟩⟩ := getMeshRegistry_ok hres
    · exact h
    · exact h.keptPeers

theorem KeyedById.registerPeer (h : KeyedById (peerRegistry w)) (peer : PeerRegistration) :
    KeyedById (peerRegistry (registerPeer peer w).2) := by
  rcases hres : ColonyServer.registerPeer peer w with ⟨e | record, w'⟩
  · obtain ⟨disk, m, k, rfl, -, hdisk⟩ := registerPeer_error hres
    show KeyedById disk.peers.entries
    rcases hdisk with hsame | htorn | ⟨-, hkept⟩
    · rw [hsame]
      exact h
    · rw [htorn]
      exact keyedById_empty
    · rw [hkept]
      exact h.keptPeers
  · obtain ⟨-, m, rfl⟩ := registerPeer_ok hres
    exact h.registeredPeers peer

/-- Of the registry, `store_gossip` makes what `register_peer` makes of it. -/
theorem peerRegistry_storeGossip (gossip : GossipEnvelope) (w : World) :
    peerRegistry (storeGossip gossip w).2 = peerRegistry (registerPeer gossip.fromPeer w).2 := by
  rw [storeGossip]
  rcases hres : registerPeer gossip.fromPeer w with ⟨e | record, w'⟩
  · rw [bind_of_error hres]
  · rw [bind_of_ok hres]
    have hkeeps : Keeps (do
        openAppend
        let now ← utcNow
        writeLine gossipFile (.gossip (gossipRecord gossip now))
        pure record : Io MeshPeer) Disk.peers := by
      refine (keeps_attempt StorageError.io).bind fun _ => keeps_now.bind fun now => ?_
      refine Keeps.bind (keeps_perform ?_ ?_) fun _ => keeps_pure _
      · exact fun _ => rfl
      · exact fun _ => rfl
    obtain ⟨disk, m, k, hw, hpeers⟩ := hkeeps w'
    exact (congrArg peerRegistry hw).trans (congrArg JsonFile.entries hpeers)

/-! ## Listed peers -/

/-- The registry has a peer that was seen at the time. -/
def Listed (id : String) (now : DateTime) (disk : Disk) : Prop :=
  ∃ registry peer, disk.peers = .whole registry ∧ registry.lookup id = some peer ∧ peer.peerId = id ∧
    peer.lastSeen = now

/-- A peer that was seen just now is kept. -/
theorem keepPeer_lastSeen (peer : MeshPeer) : keepPeer peer.lastSeen peer := by
  rw [keepPeer, DateTime.numSecondsSince, Int.sub_self, Int.zero_tdiv]
  rfl

/-- A peer that was seen just now is registered, and listed. -/
theorem listed_registerPeer (now : DateTime) (peer : PeerRegistration) (h : KeyedById (peerRegistry w))
    (hok : ∀ k, w.outcomes k = .ok) (hclock : ∀ k, w.clock k = now) :
    ∃ disk m, registerPeer peer w = (.ok (registeredPeer peer w), w.after disk m 2) ∧
      Listed peer.peerId now disk := by
  obtain ⟨disk, m, hregister⟩ := registerPeer_succeeds peer hok
  obtain ⟨-, m', hw⟩ := registerPeer_ok hregister
  have hdisk : disk = peersFile.set (.whole (registeredPeers peer w)) w.disk :=
    congrArg FaultyIo.World.disk hw
  refine ⟨disk, m, hregister, registeredPeers peer w, registeredPeer peer w, ?_, ?_, ?_, ?_⟩
  · rw [hdisk]
    rfl
  · exact AList.lookup_insert _
  · exact h.registeredPeers peer peer.peerId _ (AList.lookup_insert _)
  · rw [registeredPeer_lastSeen, hclock]

/-- A listed peer is read, and stays listed. -/
theorem listed_getMeshRegistry {id : String} {now : DateTime} (h : Listed id now w.disk)
    (hok : ∀ k, w.outcomes k = .ok) (hclock : ∀ k, w.clock k = now) :
    ∃ registry peer disk m, getMeshRegistry w = (.ok registry, w.after disk m 1) ∧
      registry.lookup id = some peer ∧ peer.peerId = id ∧ Listed id now disk := by
  obtain ⟨registry, peer, hpeers, hlookup, hid, hseen⟩ := h
  obtain ⟨disk, m, hread⟩ := getMeshRegistry_succeeds hok
  obtain ⟨-, disk', m', hw, hdisk⟩ := getMeshRegistry_ok hread
  have hkept : (keptPeers w).lookup id = some peer := by
    refine lookup_keptPeers (hok 0) ?_ ?_
    · rw [peerRegistry, hpeers]
      exact hlookup
    · rw [hclock, ← hseen]
      exact keepPeer_lastSeen peer
  refine ⟨keptPeers w, peer, disk, m, hread, hkept, hid, ?_⟩
  obtain rfl : disk = disk' := congrArg FaultyIo.World.disk hw
  rcases hdisk with rfl | ⟨-, rfl⟩
  · exact ⟨registry, peer, hpeers, hlookup, hid, hseen⟩
  · exact ⟨keptPeers w, peer, rfl, hkept, hid, hseen⟩

end

end OperatingOrganism.ColonyServer

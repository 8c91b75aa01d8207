import OperatingOrganism.ColonyServer.NodeSteps

/-!
# The circuit breaker of a peer

A peer whose counter has come to five is skipped, and only an answer to a post takes the counter back. So the
breaker stays open for good once nobody waits for an answer of the peer, and until then it can close again
(`posts_again_iff`). Registering the peer anew and gossip that it sends do not touch the counter.

Two more things keep a node from posting to a peer: that the peer is the node itself, and that the mutex of
the storage is poisoned, where the calls that have read the registry are the last ones.
-/

set_option autoImplicit false

namespace OperatingOrganism.ColonyServer

open OperatingOrganism.Execution
open OperatingOrganism.FaultyIo

/-! ## An open breaker stays open -/

/-- The node posts to the peer no more. -/
structure Abandons (n : MeshNode) (peerId : String) : Prop where
  retries : ∀ send ∈ n.sends, ¬ send.Retries peerId
  lost : peerId = n.app.nodeProfile.nodeId ∨
    (5 ≤ n.failures peerId ∧ ∀ send ∈ n.sends, ¬ send.Tries peerId) ∨
    (n.poisoned = true ∧ ∀ send ∈ n.sends, ¬ send.Awaits peerId)

section

variable {n m : MeshNode} {peerId : String} {send : Sending} {task : Task}

theorem Sending.Retries.tries (h : send.Retries peerId) : send.Tries peerId := by
  obtain ⟨peer, attempts, htrying, hid, -⟩ := h
  exact ⟨peer, attempts, htrying, hid⟩

theorem Abandons.quiet (h : Abandons n peerId) (hquiet : Quiet n m) : Abandons m peerId where
  retries send hsend hretries := by
    rcases hquiet.sends send hsend with hmem | ⟨-, hnone⟩
    · exact h.retries send hmem hretries
    · exact Sending.not_tries hnone hretries.tries
  lost := by
    -- a quiet step counts no failure, and adds no call that has posted
    have hfailures : m.failures peerId = n.failures peerId := by
      rw [MeshNode.failures, MeshNode.failures, hquiet.peerFailures]
    rw [hquiet.nodeProfile, hfailures]
    rcases h.lost with hself | ⟨hopen, htries⟩ | ⟨hpoisoned, hawaits⟩
    · exact .inl hself
    · refine .inr (.inl ⟨hopen, fun send hsend => ?_⟩)
      rcases hquiet.sends send hsend with hmem | ⟨-, hnone⟩
      · exact htries send hmem
      · exact Sending.not_tries hnone
    · refine .inr (.inr ⟨hquiet.poisoned hpoisoned, fun send hsend => ?_⟩)
      -- with the mutex poisoned no call is added at all
      rcases hquiet.sends send hsend with hmem | ⟨hnot, -⟩
      · exact hawaits send hmem
      · rw [hpoisoned] at hnot
        cases hnot

/-- A call goes on, and not with a post to the peer. -/
theorem Abandons.put {app : AppState} {trying : Option (MeshPeer × Nat)} {rest : List MeshPeer}
    (h : Abandons n peerId) (hsend : n.send task = some send) (hprofile : app.nodeProfile = n.app.nodeProfile)
    (hfailures : send.Tries peerId ∨ app.peerFailures.lookup peerId = n.app.peerFailures.lookup peerId)
    (htrying : ∀ peer attempts, trying = some (peer, attempts) → peer.peerId ≠ peerId)
    (hrest : rest ⊆ send.rest) : Abandons ((n.withApp app).put (send.goTo trying rest) task) peerId := by
  have hmem := mem_sends_of_send hsend
  -- the call that goes on does not wait for the peer now
  have hnot : ¬ (send.goTo trying rest).Tries peerId := by
    rintro ⟨peer, attempts, heq, hid⟩
    exact htrying peer attempts heq hid
  refine ⟨fun s hs => ?_, ?_⟩
  · rcases mem_sends_put hs with rfl | hold
    · exact fun hretries => hnot hretries.tries
    · exact h.retries s hold
  · rw [app_put, app_withApp, hprofile, failures_put, poisoned_put, poisoned_withApp]
    rcases h.lost with hself | ⟨hopen, htries⟩ | ⟨hpoisoned, hawaits⟩
    · exact .inl hself
    · refine .inr (.inl ⟨?_, fun s hs => ?_⟩)
      · -- nobody awaits an answer of the peer, so its counter is the old one
        have heq := hfailures.resolve_left (htries send hmem)
        rw [MeshNode.failures, app_withApp, heq]
        exact hopen
      · rcases mem_sends_put hs with rfl | hold
        · exact hnot
        · exact htries s hold
    · refine .inr (.inr ⟨hpoisoned, fun s hs => ?_⟩)
      rcases mem_sends_put hs with rfl | hold
      · rintro ⟨hexclude, peer, hpeer, hid⟩
        exact hawaits send hmem ⟨hexclude, peer, hrest hpeer, hid⟩
      · exact hawaits s hold

theorem Abandons.finish {panics : Bool} (h : Abandons n peerId) :
    Abandons (n.finish panics task) peerId where
  retries send hsend := h.retries send (mem_sends_finish hsend)
  lost := by
    rw [MeshNode.failures, app_finish, poisoned_finish]
    refine h.lost.imp id (Or.imp (fun hopen => ⟨hopen.1, ?_⟩) fun hpoisoned => ⟨hpoisoned.1, ?_⟩)
    · exact fun send hsend => hopen.2 send (mem_sends_finish hsend)
    · exact fun send hsend => hpoisoned.2 send (mem_sends_finish hsend)

/-- The node has no reason to post to the peer in the iteration that a call comes to. -/
theorem Abandons.skips {peer : MeshPeer} (h : Abandons n peerId) (hsend : n.send task = some send)
    (hpeer : peer ∈ send.rest) (hid : peer.peerId = peerId) : Skips n send peer := by
  have hmem := mem_sends_of_send hsend
  rw [Skips, hid]
  rcases h.lost with hself | ⟨hopen, -⟩ | ⟨-, hawaits⟩
  · exact .inl hself
  · exact .inr (.inr hopen)
  · by_contra hskips
    push Not at hskips
    exact hawaits send hmem ⟨hskips.2.1, peer, hpeer, hid⟩

section

variable (hmac : String → String → Vector UInt8 32) (maxHops : UInt8)

/-- No step posts to a peer that the node has abandoned, or changes that it has. -/
theorem Abandons.step {event : NodeEvent} {attempt : Option Attempt} (h : Abandons n peerId)
    (hstep : NodeStep hmac maxHops n (event, attempt) m) :
    Abandons m peerId ∧ ∀ a, attempt = some a → a.peer.peerId ≠ peerId := by
  rcases hstep.cases with ⟨hquiet, rfl⟩ | ⟨task, send, hsend, ⟨rest, hphase, hnext⟩ |
    ⟨success, peer, attempts, rest, hphase, hanswer⟩⟩
  · -- a request, the ticker or a call that reads the registry
    exact ⟨h.quiet hquiet, fun a ha => by cases ha⟩
  · -- the next peer of a call
    have hrest : send.rest = rest := by rw [Sending.rest, hphase]
    cases rest with
    | nil =>
      cases hnext
      exact ⟨h.finish, fun a ha => by cases ha⟩
    | cons peer rest =>
      have hsub : rest ⊆ send.rest := hrest ▸ List.subset_cons_self peer rest
      rw [nextPeer] at hnext
      split at hnext
      · cases hnext
        exact ⟨h.put hsend rfl (.inr rfl) (fun _ _ hnone => by cases hnone) hsub, fun a ha => by cases ha⟩
      · -- an iteration for the abandoned peer would have been skipped
        rename_i hposts
        have hother : peer.peerId ≠ peerId := fun hid =>
          hposts (h.skips hsend (hrest ▸ List.mem_cons_self) hid)
        cases hnext
        refine ⟨h.put hsend rfl (.inr rfl) ?_ hsub, ?_⟩
        · rintro p k ⟨⟩
          exact hother
        · rintro a ⟨⟩
          exact hother
  · -- an answer
    have hsub : rest ⊆ send.rest := by rw [Sending.rest, hphase]; exact fun _ hmem => hmem
    have htrying : send.trying = some (peer, attempts) := by rw [Sending.trying, hphase]
    -- the counter that an answer changes is the one of the peer that was tried
    have hcounter : send.Tries peerId ∨ peer.peerId ≠ peerId := by
      by_cases hid : peer.peerId = peerId
      · exact .inl ⟨peer, attempts, htrying, hid⟩
      · exact .inr hid
    rw [takeAnswer] at hanswer
    split at hanswer
    · cases hanswer
      refine ⟨h.put hsend rfl (hcounter.imp id fun hne => ?_) (fun _ _ hnone => by cases hnone) hsub,
        fun a ha => by cases ha⟩
      exact AList.lookup_erase_ne (Ne.symm hne)
    · split at hanswer
      · -- another attempt is made, which no call has left for the abandoned peer
        rename_i hleft
        have hother : peer.peerId ≠ peerId := fun hid =>
          h.retries send (mem_sends_of_send hsend) ⟨peer, attempts, htrying, hid, hleft⟩
        cases hanswer
        refine ⟨h.put hsend rfl (.inr rfl) ?_ hsub, ?_⟩
        · rintro p k ⟨⟩
          exact hother
        · rintro a ⟨⟩
          exact hother
      · cases hanswer
        refine ⟨h.put hsend rfl (hcounter.imp id fun hne => ?_) (fun _ _ hnone => by cases hnone) hsub,
          fun a ha => by cases ha⟩
        exact AList.lookup_insert_ne (Ne.symm hne)

end

end

/-! ## A breaker that can close -/

section

variable {n m : MeshNode} {send : Sending} {task : Task} {peerId : String}

section

variable (hmac : String → String → Vector UInt8 32) (maxHops : UInt8)

/-- In some run from the state on, the node posts to the peer. -/
def PostsAgain (n : MeshNode) (peerId : String) : Prop :=
  ∃ m, Reaches hmac maxHops n m ∧ ∃ event attempt m',
    NodeStep hmac maxHops m (event, some attempt) m' ∧ attempt.peer.peerId = peerId

variable {hmac maxHops}

theorem PostsAgain.of_reaches (h : PostsAgain hmac maxHops m peerId) (hreaches : Reaches hmac maxHops n m) :
    PostsAgain hmac maxHops n peerId := by
  obtain ⟨m', hm', hposts⟩ := h
  exact ⟨m', hreaches.trans hm', hposts⟩

/-- An abandoned peer is abandoned in every run. -/
theorem Abandons.not_postsAgain (h : Abandons n peerId) : ¬ PostsAgain hmac maxHops n peerId := by
  rintro ⟨m, hreaches, event, attempt, m', hstep, hid⟩
  have hm : Abandons m peerId := Reachable.invariant (P := fun n => Abandons n peerId) hreaches h
    fun _ _ _ hs hst => (hs.step hmac maxHops hst).1
  exact (hm.step hmac maxHops hstep).2 attempt rfl hid

/-- Time passes for the other tasks, and counters go down only. -/
structure Calm (n m : MeshNode) : Prop where
  nodeProfile : m.app.nodeProfile = n.app.nodeProfile
  poisoned : m.poisoned = n.poisoned
  failures : ∀ id, m.failures id = n.failures id ∨ m.failures id = 0

theorem Calm.trans {o : MeshNode} (h : Calm n m) (h' : Calm m o) : Calm n o where
  nodeProfile := h'.nodeProfile.trans h.nodeProfile
  poisoned := h'.poisoned.trans h.poisoned
  failures id := by
    rcases h'.failures id with heq | hzero
    · rw [heq]
      exact h.failures id
    · exact .inr hzero

theorem Calm.closed (h : Calm n m) (hn : n.failures peerId < 5) : m.failures peerId < 5 := by
  rcases h.failures peerId with heq | hzero
  · rw [heq]
    exact hn
  · rw [hzero]
    decide

variable (hmac maxHops)

/-- A call that posts awaits no answer after a success, and the counter of its peer is gone. -/
theorem reaches_success {peer : MeshPeer} {attempts : Nat} {rest : List MeshPeer}
    (hsend : n.send task = some send) (hphase : send.phase = .posting (some (peer, attempts)) rest) :
    ∃ m, Reaches hmac maxHops n m ∧ Calm n m ∧ m.failures peer.peerId = 0 ∧
      (∀ task', task' ≠ task → m.send task' = n.send task') ∧
      m.send task = some (send.goTo none rest) := by
  refine ⟨_, reaches_answer hmac maxHops true hsend hphase, ?_⟩
  rw [takeAnswer, if_pos rfl]
  dsimp only
  refine ⟨⟨by rw [app_put]; rfl, by rw [poisoned_put, poisoned_withApp], fun id => ?_⟩, ?_, ?_, ?_⟩
  · rw [failures_put]
    by_cases hid : id = peer.peerId
    · subst hid
      right
      show ((AList.erase peer.peerId n.app.peerFailures).lookup peer.peerId).getD 0 = 0
      rw [AList.lookup_erase]
      rfl
    · left
      show ((AList.erase peer.peerId n.app.peerFailures).lookup id).getD 0 = n.failures id
      rw [AList.lookup_erase_ne hid]
      rfl
  · rw [failures_put]
    show ((AList.erase peer.peerId n.app.peerFailures).lookup peer.peerId).getD 0 = 0
    rw [AList.lookup_erase]
    rfl
  · intro task' hne
    rw [send_put_of_ne hne, send_withApp]
  · exact send_put (send_withApp.trans hsend)

/-- A call comes past its next peer. -/
theorem reaches_past {peer : MeshPeer} {rest : List MeshPeer} (hsend : n.send task = some send)
    (hphase : send.phase = .posting none (peer :: rest)) :
    ∃ m, Reaches hmac maxHops n m ∧ Calm n m ∧ m.send task = some (send.goTo none rest) := by
  have hgo := reaches_goOn hmac maxHops hsend hphase
  rw [nextPeer] at hgo
  split at hgo
  · refine ⟨_, hgo, ⟨by rw [app_put], by rw [poisoned_put], fun id => .inl failures_put⟩, send_put hsend⟩
  · have hput := send_withApp_put n.app.attempted (send.goTo (some (peer, 0)) rest) hsend
    obtain ⟨m, hm, hcalm, -, -, hmsend⟩ := reaches_success hmac maxHops hput rfl
    refine ⟨m, hgo.trans hm, Calm.trans ?_ hcalm, hmsend⟩
    exact ⟨by rw [app_put]; rfl, by rw [poisoned_put, poisoned_withApp], fun id => .inl failures_put⟩

/-- A call with the peer to come posts to it, unless it is excluded or its breaker is open. -/
theorem postsAgain_of_rest {rest : List MeshPeer} (hsend : n.send task = some send)
    (hphase : send.phase = .posting none rest) (hrest : ∃ peer ∈ rest, peer.peerId = peerId)
    (hexclude : send.excludePeerId ≠ some peerId) (hself : peerId ≠ n.app.nodeProfile.nodeId)
    (hclosed : n.failures peerId < 5) : PostsAgain hmac maxHops n peerId := by
  -- induction on the peers to come: those before the peer are passed by a success each, which opens no breaker
  induction rest generalizing n send with
  | nil =>
    obtain ⟨peer, hmem, -⟩ := hrest
    cases hmem
  | cons peer rest ih =>
    by_cases hid : peer.peerId = peerId
    · subst hid
      have hposts : ¬ Skips n send peer := by
        rintro (h | h | h)
        · exact hself h
        · exact hexclude h
        · exact UInt32.not_le.2 hclosed h
      have hgo := step_goOn hmac maxHops hsend hphase
      rw [nextPeer, if_neg hposts] at hgo
      exact ⟨n, .refl, _, _, _, hgo, rfl⟩
    · obtain ⟨m, hm, hcalm, hmsend⟩ := reaches_past hmac maxHops hsend hphase
      refine PostsAgain.of_reaches (ih hmsend rfl ?_ hexclude ?_ (hcalm.closed hclosed)) hm
      · obtain ⟨other, hmem, heq⟩ := hrest
        rcases List.mem_cons.1 hmem with rfl | hmem
        · exact absurd heq hid
        · exact ⟨other, hmem, heq⟩
      · rw [hcalm.nodeProfile]
        exact hself

/-! ## A round that comes to the peer -/

theorem Calm.of_eq (hprofile : m.app.nodeProfile = n.app.nodeProfile)
    (hfailures : m.app.peerFailures = n.app.peerFailures) (hpoisoned : m.poisoned = n.poisoned) :
    Calm n m where
  nodeProfile := hprofile
  poisoned := hpoisoned
  failures id := by
    rw [MeshNode.failures, hfailures]
    exact .inl rfl

/-- No operation fails, and it is `now` all the time. -/
def Surroundings.quietly (now : DateTime) : Surroundings := ⟨fun _ => .ok, fun _ => now⟩

theorem storage_of_eq {α : Type} {x : Io α} {s : AppState} {result : Except StorageError α} {w : World}
    (h : x s.world = (result, w)) : s.storage x = (result, { s with world := w }) := by
  rw [AppState.storage, h]

/-- A peer that registers is listed. -/
theorem reaches_listed (now : DateTime) (hpoisoned : n.poisoned = false) (hkeyed : KeyedById n.registry)
    (peerId : String) :
    ∃ m, Reaches hmac maxHops n m ∧ Calm n m ∧ m.loop = n.loop ∧ Listed peerId now m.app.world.disk := by
  let s := n.app.within (.quietly now)
  let peer : PeerRegistration := ⟨peerId, "", ""⟩
  obtain ⟨disk, k, hregister, hlisted⟩ :=
    listed_registerPeer (w := s.world) now peer hkeyed (fun _ => rfl) fun _ => rfl
  -- `handle_mesh_peer` reads the registry once more for its answer
  obtain ⟨registry, record, disk', k', hread, -, -, hlisted'⟩ :=
    listed_getMeshRegistry (w := s.world.after disk k 2) hlisted (fun _ => rfl) fun _ => rfl
  have hhandle : handleMeshPeer peer true true s =
      (false, { s with world := (s.world.after disk k 2).after disk' k' 1 }) := by
    rw [handleMeshPeer, storage_of_eq hregister]
    dsimp only
    rw [getMeshState, storage_of_eq (s := { s with world := s.world.after disk k 2 }) hread]
    rfl
  refine ⟨receivePeer peer true true (n.withApp s),
    .single ⟨(.registerPeer peer (.quietly now) true true, none), rfl⟩, ?_⟩
  rw [receivePeer, if_neg (by simp [hpoisoned])]
  dsimp only
  rw [app_withApp, hhandle]
  exact ⟨.of_eq rfl rfl hpoisoned.symm, rfl, hlisted'⟩

/-- The loop that waits begins a round if a peer is listed. -/
theorem reaches_startRound {now : DateTime} (hpoisoned : n.poisoned = false) (hloop : n.loop = .waiting)
    (hlisted : Listed peerId now n.app.world.disk) :
    ∃ m envelope, Reaches hmac maxHops n m ∧ Calm n m ∧ m.loop = .sending ⟨envelope, none, .fetching⟩ ∧
      Listed peerId now m.app.world.disk := by
  let s := n.app.within (.quietly now)
  obtain ⟨registry, peer, disk, k, hread, hlookup, -, hlisted'⟩ :=
    listed_getMeshRegistry (w := s.world) hlisted (fun _ => rfl) fun _ => rfl
  -- a registry that lists the peer is not empty, so the round goes on
  have hne : registry.entries ≠ [] := by
    intro hempty
    have hmem := AList.mem_lookup_iff.1 hlookup
    rw [hempty] at hmem
    cases hmem
  have htick : NodeStep hmac maxHops n (.tick (.quietly now) "" (some ([], 0)), none)
      (startRound hmac maxHops "" (some ([], 0)) (n.withApp s)) := by
    simp [NodeStep, MeshNode.step, hloop, s]
  rw [startRound, if_neg (by simp [hpoisoned]), app_withApp, storage_of_eq hread] at htick
  dsimp only at htick
  rw [if_neg hne] at htick
  exact ⟨_, _, .single ⟨_, htick⟩, .of_eq rfl rfl rfl, rfl, hlisted'⟩

/-- A call of the loop reads a listed peer. -/
theorem reaches_fetched {now : DateTime} {envelope : GossipEnvelope} (hpoisoned : n.poisoned = false)
    (hloop : n.loop = .sending ⟨envelope, none, .fetching⟩)
    (hlisted : Listed peerId now n.app.world.disk) :
    ∃ m rest, Reaches hmac maxHops n m ∧ Calm n m ∧
      m.send .gossipLoop = some ⟨envelope, none, .posting none rest⟩ ∧
      ∃ peer ∈ rest, peer.peerId = peerId := by
  let s := n.app.within (.quietly now)
  obtain ⟨registry, peer, disk, k, hread, hlookup, hid, -⟩ :=
    listed_getMeshRegistry (w := s.world) hlisted (fun _ => rfl) fun _ => rfl
  refine ⟨fetchPeers .gossipLoop ⟨envelope, none, .fetching⟩ (n.withApp s), registry.entries.map Sigma.snd,
    .single ⟨(.fetch .gossipLoop (.quietly now), none), ?_⟩, ?_⟩
  · simp [NodeStep, MeshNode.step, send_gossipLoop.2 hloop, s]
  · rw [fetchPeers, if_neg (by simp [hpoisoned]), app_withApp, storage_of_eq hread]
    refine ⟨.of_eq rfl rfl rfl, rfl, peer, ?_, hid⟩
    exact List.mem_map.2 ⟨⟨peerId, peer⟩, AList.mem_lookup_iff.1 hlookup, rfl⟩

/-- A call of the loop that posts comes to its end. -/
theorem reaches_waiting_of_rest {rest : List MeshPeer} (hsend : n.send .gossipLoop = some send)
    (hphase : send.phase = .posting none rest) :
    ∃ m, Reaches hmac maxHops n m ∧ Calm n m ∧ m.loop = .waiting := by
  -- induction on the peers to come, each of which answers
  induction rest generalizing n send with
  | nil =>
    refine ⟨_, reaches_goOn hmac maxHops hsend hphase, ?_, rfl⟩
    exact .of_eq rfl rfl rfl
  | cons peer rest ih =>
    obtain ⟨m, hm, hcalm, hmsend⟩ := reaches_past hmac maxHops hsend hphase
    obtain ⟨o, ho, hcalm', hwaiting⟩ := ih hmsend rfl
    exact ⟨o, hm.trans ho, hcalm.trans hcalm', hwaiting⟩

/-- So does the call in any phase, if the loop has not panicked. -/
theorem reaches_waiting (now : DateTime) (hpoisoned : n.poisoned = false) (hloop : n.loop ≠ .ended) :
    ∃ m, Reaches hmac maxHops n m ∧ Calm n m ∧ m.loop = .waiting := by
  cases hn : n.loop with
  | ended => exact absurd hn hloop
  | waiting => exact ⟨n, .refl, .of_eq rfl rfl rfl, hn⟩
  | sending send =>
    have hsend := send_gossipLoop.2 hn
    cases hphase : send.phase with
    | fetching =>
      let s := n.app.within (.quietly now)
      obtain ⟨disk, k, hread⟩ := getMeshRegistry_succeeds (w := s.world) fun _ => rfl
      have hfetch : NodeStep hmac maxHops n (.fetch .gossipLoop (.quietly now), none)
          (fetchPeers .gossipLoop send (n.withApp s)) := by
        simp [NodeStep, MeshNode.step, hsend, hphase, s]
      rw [fetchPeers, if_neg (by simp [hpoisoned]), app_withApp, storage_of_eq hread] at hfetch
      have hput := send_withApp_put { s with world := s.world.after disk k 1 }
        (send.goTo none ((keptPeers s.world).entries.map Sigma.snd)) hsend
      obtain ⟨m, hm, hcalm, hwaiting⟩ := reaches_waiting_of_rest hmac maxHops hput rfl
      refine ⟨m, .head ⟨_, hfetch⟩ hm, Calm.trans ?_ hcalm, hwaiting⟩
      exact .of_eq rfl rfl rfl
    | posting trying rest =>
      cases trying with
      | none => exact reaches_waiting_of_rest hmac maxHops hsend hphase
      | some trying =>
        obtain ⟨m, hm, hcalm, -, -, hmsend⟩ := reaches_success hmac maxHops hsend hphase
        obtain ⟨o, ho, hcalm', hwaiting⟩ := reaches_waiting_of_rest hmac maxHops hmsend rfl
        exact ⟨o, hm.trans ho, hcalm.trans hcalm', hwaiting⟩

/-- As long as its breaker is closed, a node that is not poisoned posts to a peer that registers. -/
theorem postsAgain_of_closed (h : n.Sound) (hpoisoned : n.poisoned = false)
    (hself : peerId ≠ n.app.nodeProfile.nodeId) (hclosed : n.failures peerId < 5) :
    PostsAgain hmac maxHops n peerId := by
  -- the loop ends its round, the peer registers, and the next round comes to the peer
  let now : DateTime := .ofSeconds 0
  obtain ⟨n₁, h₁, hcalm₁, hwaiting⟩ := reaches_waiting hmac maxHops now hpoisoned (h.loop hpoisoned)
  have hpoisoned₁ := hcalm₁.poisoned.trans hpoisoned
  obtain ⟨n₂, h₂, hcalm₂, hloop₂, hlisted₂⟩ :=
    reaches_listed hmac maxHops now hpoisoned₁ (h.reaches hmac maxHops h₁).keyed peerId
  have hpoisoned₂ := hcalm₂.poisoned.trans hpoisoned₁
  obtain ⟨n₃, envelope, h₃, hcalm₃, hloop₃, hlisted₃⟩ :=
    reaches_startRound hmac maxHops hpoisoned₂ (hloop₂.trans hwaiting) hlisted₂
  obtain ⟨n₄, rest, h₄, hcalm₄, hsend, hrest⟩ :=
    reaches_fetched hmac maxHops (hcalm₃.poisoned.trans hpoisoned₂) hloop₃ hlisted₃
  have hcalm := ((hcalm₁.trans hcalm₂).trans hcalm₃).trans hcalm₄
  have hposts : PostsAgain hmac maxHops n₄ peerId :=
    postsAgain_of_rest hmac maxHops hsend rfl hrest nofun (hcalm.nodeProfile ▸ hself) (hcalm.closed hclosed)
  exact hposts.of_reaches (((h₁.trans h₂).trans h₃).trans h₄)

/-! ## When a node posts again -/

theorem Sending.phase_of_trying {trying : MeshPeer × Nat} (h : send.trying = some trying) :
    ∃ rest, send.phase = .posting (some trying) rest := by
  rw [Sending.trying] at h
  cases hphase : send.phase with
  | fetching =>
    rw [hphase] at h
    cases h
  | posting trying rest =>
    rw [hphase] at h
    exact ⟨rest, congrArg (SendPhase.posting · rest) h⟩

/-- While a call awaits an answer of the peer, a success can close its breaker. -/
theorem reaches_closed (htries : n.failures peerId < 5 ∨ ∃ send ∈ n.sends, send.Tries peerId) :
    ∃ m, Reaches hmac maxHops n m ∧ Calm n m ∧ m.failures peerId < 5 ∧
      ∀ send ∈ n.sends, send.Awaits peerId → ∃ send' ∈ m.sends, send'.Awaits peerId := by
  rcases htries with hclosed | ⟨send, hmem, peer, attempts, htrying, rfl⟩
  · exact ⟨n, .refl, .of_eq rfl rfl rfl, hclosed, fun send hsend hawaits => ⟨send, hsend, hawaits⟩⟩
  · obtain ⟨task, hsend⟩ := exists_task hmem
    obtain ⟨rest, hphase⟩ := Sending.phase_of_trying htrying
    obtain ⟨m, hm, hcalm, hzero, hothers, hmsend⟩ := reaches_success hmac maxHops hsend hphase
    refine ⟨m, hm, hcalm, by rw [hzero]; decide, fun other hother hawaits => ?_⟩
    obtain ⟨task', hsend'⟩ := exists_task hother
    -- the call that got the answer has the same peers to come as before
    by_cases htask : task' = task
    · subst htask
      obtain rfl : send = other := Option.some.inj (hsend.symm.trans hsend')
      refine ⟨_, mem_sends_of_send hmsend, hawaits.1, ?_⟩
      rw [Sending.Awaits, Sending.rest, hphase] at hawaits
      exact hawaits.2
    · exact ⟨other, mem_sends_of_send ((hothers task' htask).trans hsend'), hawaits⟩

/-- A call that has the peer still to come posts to it if the breaker is closed. -/
theorem postsAgain_of_awaits (hmem : send ∈ n.sends) (hawaits : send.Awaits peerId)
    (hself : peerId ≠ n.app.nodeProfile.nodeId) (hclosed : n.failures peerId < 5) :
    PostsAgain hmac maxHops n peerId := by
  obtain ⟨task, hsend⟩ := exists_task hmem
  obtain ⟨hexclude, hrest⟩ := hawaits
  rw [Sending.rest] at hrest
  cases hphase : send.phase with
  | fetching =>
    rw [hphase] at hrest
    obtain ⟨peer, hpeer, -⟩ := hrest
    cases hpeer
  | posting trying rest =>
    rw [hphase] at hrest
    cases trying with
    -- an answer of another peer comes first
    | none => exact postsAgain_of_rest hmac maxHops hsend hphase hrest hexclude hself hclosed
    | some trying =>
      obtain ⟨m, hm, hcalm, -, -, hmsend⟩ := reaches_success hmac maxHops hsend hphase
      exact (postsAgain_of_rest hmac maxHops hmsend rfl hrest hexclude (hcalm.nodeProfile ▸ hself)
        (hcalm.closed hclosed)).of_reaches hm

/-- A call with attempts left posts again when its answer is none. -/
theorem postsAgain_of_retries (hmem : send ∈ n.sends) (hretries : send.Retries peerId) :
    PostsAgain hmac maxHops n peerId := by
  obtain ⟨task, hsend⟩ := exists_task hmem
  obtain ⟨peer, attempts, htrying, rfl, hleft⟩ := hretries
  obtain ⟨rest, hphase⟩ := Sending.phase_of_trying htrying
  have hstep := step_answer hmac maxHops false hsend hphase
  rw [takeAnswer, if_neg Bool.false_ne_true, if_pos hleft] at hstep
  exact ⟨n, .refl, _, _, _, hstep, rfl⟩

/-- What keeps a node from abandoning a peer. -/
theorem not_abandons_iff : ¬ Abandons n peerId ↔ (∃ send ∈ n.sends, send.Retries peerId) ∨
    peerId ≠ n.app.nodeProfile.nodeId ∧
      (n.failures peerId < 5 ∨ ∃ send ∈ n.sends, send.Tries peerId) ∧
      (n.poisoned = false ∨ ∃ send ∈ n.sends, send.Awaits peerId) := by
  constructor
  · intro h
    by_contra hnot
    push Not at hnot
    obtain ⟨hretries, hlost⟩ := hnot
    refine h ⟨hretries, ?_⟩
    by_cases hself : peerId = n.app.nodeProfile.nodeId
    · exact .inl hself
    · by_cases hclosed : n.failures peerId < 5 ∨ ∃ send ∈ n.sends, send.Tries peerId
      · refine .inr (.inr ?_)
        have hend := hlost hself hclosed
        exact ⟨Bool.of_not_eq_false hend.1, hend.2⟩
      · push Not at hclosed
        exact .inr (.inl ⟨UInt32.not_lt.1 hclosed.1, hclosed.2⟩)
  · rintro hposts ⟨hretries, hlost⟩
    rcases hposts with ⟨send, hmem, hretry⟩ | ⟨hself, hclosed, hgoes⟩
    · exact hretries send hmem hretry
    · rcases hlost with heq | ⟨hopen, htries⟩ | ⟨hpoisoned, hawaits⟩
      · exact hself heq
      · rcases hclosed with hlt | ⟨send, hmem, htry⟩
        · exact UInt32.not_le.2 hlt hopen
        · exact htries send hmem htry
      · rcases hgoes with hnot | ⟨send, hmem, hawait⟩
        · rw [hpoisoned] at hnot
          cases hnot
        · exact hawaits send hmem hawait

/-- A node posts to a peer that it has not abandoned. -/
theorem MeshNode.Sound.postsAgain_iff (h : n.Sound) :
    PostsAgain hmac maxHops n peerId ↔ ¬ Abandons n peerId := by
  constructor
  · exact fun hposts habandons => habandons.not_postsAgain hposts
  · intro hnot
    rcases not_abandons_iff.1 hnot with ⟨send, hmem, hretries⟩ | ⟨hself, hclosed, hgoes⟩
    · exact postsAgain_of_retries hmac maxHops hmem hretries
    · obtain ⟨m, hm, hcalm, hclosed', hawaits⟩ := reaches_closed hmac maxHops hclosed
      refine PostsAgain.of_reaches ?_ hm
      rcases hgoes with hpoisoned | ⟨send, hmem, hawait⟩
      · exact postsAgain_of_closed hmac maxHops (h.reaches hmac maxHops hm)
          (hcalm.poisoned.trans hpoisoned) (hcalm.nodeProfile ▸ hself) hclosed'
      · obtain ⟨send', hmem', hawait'⟩ := hawaits send hmem hawait
        exact postsAgain_of_awaits hmac maxHops hmem' hawait' (hcalm.nodeProfile ▸ hself) hclosed'

/-- In a state that a process comes to, there is a run in which it posts to a peer if and only if a call will
post to it again anyway, or the peer is another node, its breaker is closed or an answer can still close it,
and there is a call that will come to it: there is one if the mutex of the storage is not poisoned. -/
theorem posts_again_iff {n₀ : MeshNode} (h₀ : Boots n₀) (h : Reaches hmac maxHops n₀ n) (peerId : String) :
    PostsAgain hmac maxHops n peerId ↔ (∃ send ∈ n.sends, send.Retries peerId) ∨
      peerId ≠ n.app.nodeProfile.nodeId ∧
        (n.failures peerId < 5 ∨ ∃ send ∈ n.sends, send.Tries peerId) ∧
        (n.poisoned = false ∨ ∃ send ∈ n.sends, send.Awaits peerId) :=
  ((h₀.sound.reaches hmac maxHops h).postsAgain_iff hmac maxHops).trans not_abandons_iff

end

end

/-! ## A breaker that stays open -/

/-- The peer of a mesh of two nodes. -/
def otherNode : MeshPeer where
  peerId := "node-b"
  address := "10.0.0.2:8080"
  role := "relay"
  firstSeen := .ofSeconds 0
  lastSeen := .ofSeconds 0
  heartbeatCount := 1

def otherNodeOnly : MeshRegistry := (∅ : MeshRegistry).insert otherNode.peerId otherNode

/-- A node that starts and knows one peer from an earlier run. -/
def firstNode : MeshNode where
  app :=
    { world :=
        { disk := { organisms := .absent, peers := .whole otherNodeOnly, logs := fun _ => [] }
          outcomes := fun _ => .ok
          clock := fun _ => .ofSeconds 0 }
      nodeProfile := ⟨"node-a", "relay", "10.0.0.1:8080"⟩
      seenGossip := ∅
      metrics := ⟨0, 0, 0, 0, 0, 0, 0, 0⟩
      runtime := ⟨86400, none, []⟩
      peerFailures := ∅ }
  poisoned := false
  loop := .waiting
  relays := []

theorem boots_firstNode : Boots firstNode where
  peerFailures := rfl
  poisoned := rfl
  loop := rfl
  relays := rfl
  keyed := keyedById_empty.insert rfl

/-- So many rounds have failed, and the loop has come so far with the next one. -/
structure Trial (n : MeshNode) (loop : GossipLoop) (failed : UInt32) : Prop where
  peers : n.app.world.disk.peers = .whole otherNodeOnly
  nodeId : n.app.nodeProfile.nodeId = "node-a"
  poisoned : n.poisoned = false
  loop : n.loop = loop
  relays : n.relays = []
  failures : n.failures otherNode.peerId = failed

theorem trial_firstNode : Trial firstNode .waiting 0 := ⟨rfl, rfl, rfl, rfl, rfl, rfl⟩

/-- Its registry is read as it is. -/
theorem storage_otherNodeOnly {s : AppState} (hpeers : s.world.disk.peers = .whole otherNodeOnly) :
    (s.within (.quietly (.ofSeconds 0))).storage getMeshRegistry =
      (.ok otherNodeOnly,
        { s with world := (s.within (.quietly (.ofSeconds 0))).world.after s.world.disk 1 1 }) := by
  let w : World := (s.within (.quietly (.ofSeconds 0))).world
  have hread : readEntries peersFile w = otherNodeOnly := congrArg JsonFile.entries hpeers
  have hkept : keptPeers w = otherNodeOnly := by
    rw [keptPeers, hread]
    rfl
  refine storage_of_eq ?_
  rw [getMeshRegistry_eq, if_neg]
  · rw [hkept]
    rfl
  · rw [Evicts, hread, hkept]
    exact Nat.lt_irrefl _

section

variable {n : MeshNode} {failed : UInt32} {envelope : GossipEnvelope}

theorem Trial.tick (h : Trial n .waiting failed) : ∃ m envelope, Reaches zeroHmac 3 n m ∧
    Trial m (.sending ⟨envelope, none, .fetching⟩) failed := by
  have htick : NodeStep zeroHmac 3 n (.tick (.quietly (.ofSeconds 0)) "" (some ([], 0)), none)
      (startRound zeroHmac 3 "" (some ([], 0)) (n.withApp (n.app.within (.quietly (.ofSeconds 0))))) := by
    simp [NodeStep, MeshNode.step, h.loop]
  rw [startRound, if_neg (by simp [h.poisoned]), app_withApp,
    storage_otherNodeOnly h.peers] at htick
  dsimp only at htick
  rw [if_neg (by decide)] at htick
  exact ⟨_, _, .single ⟨_, htick⟩, h.peers, h.nodeId, h.poisoned, rfl, h.relays, h.failures⟩

theorem Trial.fetch (h : Trial n (.sending ⟨envelope, none, .fetching⟩) failed) :
    ∃ m, Reaches zeroHmac 3 n m ∧
      Trial m (.sending ⟨envelope, none, .posting none [otherNode]⟩) failed := by
  have hfetch : NodeStep zeroHmac 3 n (.fetch .gossipLoop (.quietly (.ofSeconds 0)), none)
      (fetchPeers .gossipLoop ⟨envelope, none, .fetching⟩
        (n.withApp (n.app.within (.quietly (.ofSeconds 0))))) := by
    simp [NodeStep, MeshNode.step, send_gossipLoop.2 h.loop]
  rw [fetchPeers, if_neg (by simp [h.poisoned]), app_withApp,
    storage_otherNodeOnly h.peers] at hfetch
  exact ⟨_, .single ⟨_, hfetch⟩, h.peers, h.nodeId, h.poisoned, rfl, h.relays, h.failures⟩

/-- No post to the peer is answered. -/
theorem Trial.posts (h : Trial n (.sending ⟨envelope, none, .posting none [otherNode]⟩) failed)
    (hclosed : failed < 5) : ∃ m, Reaches zeroHmac 3 n m ∧
      Trial m (.sending ⟨envelope, none, .posting none []⟩) (failed + 1) := by
  have hposts := reaches_sendGossipToPeer zeroHmac 3 (fun _ => false) (send_gossipLoop.2 h.loop) rfl
    (by rw [h.nodeId]; decide) nofun
  have hopen : ¬ 5 ≤ n.failures otherNode.peerId := by
    rw [h.failures]
    exact UInt32.not_le.2 hclosed
  rw [sendGossipToPeer_eq_settle zeroHmac _ _ _ hopen] at hposts
  refine ⟨_, hposts, h.peers, h.nodeId, h.poisoned, rfl, h.relays, ?_⟩
  rw [failures_put]
  show ((AList.insert otherNode.peerId (n.failures otherNode.peerId + 1) n.app.peerFailures).lookup
    otherNode.peerId).getD 0 = failed + 1
  rw [AList.lookup_insert, h.failures]
  rfl

theorem Trial.ends (h : Trial n (.sending ⟨envelope, none, .posting none []⟩) failed) :
    ∃ m, Reaches zeroHmac 3 n m ∧ Trial m .waiting failed :=
  ⟨_, reaches_goOn zeroHmac 3 (send_gossipLoop.2 h.loop) rfl, h.peers, h.nodeId, h.poisoned, rfl, h.relays,
    h.failures⟩

/-- A round in which no post is answered. -/
theorem Trial.round (h : Trial n .waiting failed) (hclosed : failed < 5) :
    ∃ m, Reaches zeroHmac 3 n m ∧ Trial m .waiting (failed + 1) := by
  obtain ⟨n₁, envelope, h₁, htrial₁⟩ := h.tick
  obtain ⟨n₂, h₂, htrial₂⟩ := htrial₁.fetch
  obtain ⟨n₃, h₃, htrial₃⟩ := htrial₂.posts hclosed
  obtain ⟨n₄, h₄, htrial₄⟩ := htrial₃.ends
  exact ⟨n₄, ((h₁.trans h₂).trans h₃).trans h₄, htrial₄⟩

end

/-- After four of them the node can still post to its peer. -/
theorem posts_again_fourFailures : ∃ n, Boots firstNode ∧ Reaches zeroHmac 3 firstNode n ∧
    n.failures otherNode.peerId = 4 ∧ PostsAgain zeroHmac 3 n otherNode.peerId := by
  obtain ⟨n₁, h₁, htrial₁⟩ := trial_firstNode.round (by decide)
  obtain ⟨n₂, h₂, htrial₂⟩ := htrial₁.round (by decide)
  obtain ⟨n₃, h₃, htrial₃⟩ := htrial₂.round (by decide)
  obtain ⟨n₄, h₄, htrial₄⟩ := htrial₃.round (by decide)
  have hreaches : Reaches zeroHmac 3 firstNode n₄ := ((h₁.trans h₂).trans h₃).trans h₄
  have hposts := posts_again_iff zeroHmac 3 boots_firstNode hreaches otherNode.peerId
  refine ⟨n₄, boots_firstNode, hreaches, htrial₄.failures, hposts.2 (.inr ⟨?_, .inl ?_, .inl htrial₄.poisoned⟩)⟩
  · rw [htrial₄.nodeId]
    decide
  · rw [htrial₄.failures]
    decide

/-- After five of them nothing makes the node post to its peer again. -/
theorem breaker_absorbs : ¬ ∀ n, Reaches zeroHmac 3 firstNode n →
    ∀ peerId, n.registry.lookup peerId ≠ none → PostsAgain zeroHmac 3 n peerId := by
  intro hall
  obtain ⟨n₁, h₁, htrial₁⟩ := trial_firstNode.round (by decide)
  obtain ⟨n₂, h₂, htrial₂⟩ := htrial₁.round (by decide)
  obtain ⟨n₃, h₃, htrial₃⟩ := htrial₂.round (by decide)
  obtain ⟨n₄, h₄, htrial₄⟩ := htrial₃.round (by decide)
  obtain ⟨n₅, h₅, htrial₅⟩ := htrial₄.round (by decide)
  -- nothing is being sent any more, so nobody waits for an answer that could close the breaker
  have hsends : n₅.sends = [] := by rw [MeshNode.sends, htrial₅.loop, htrial₅.relays]
  have habandons : Abandons n₅ otherNode.peerId := by
    refine ⟨?_, .inr (.inl ⟨?_, ?_⟩)⟩
    · rw [hsends]
      exact fun _ hsend => absurd hsend List.not_mem_nil
    · rw [htrial₅.failures]
      decide
    · rw [hsends]
      exact fun _ hsend => absurd hsend List.not_mem_nil
  refine habandons.not_postsAgain (hall n₅ ((((h₁.trans h₂).trans h₃).trans h₄).trans h₅) otherNode.peerId ?_)
  rw [MeshNode.registry, peerRegistry, htrial₅.peers]
  decide

end OperatingOrganism.ColonyServer

import OperatingOrganism.ColonyServer.GossipTasks

/-!
# What the steps of a node do

A step of the process either leaves what is being sent to which peer as it is (`Quiet`), or takes one call of
`send_gossip_to_peers` on to its next peer or past an answer (`NodeStep.cases`). When no other task comes
between, the steps of one iteration make what `sendGossipToPeer` computes (`reaches_sendGossipToPeer`).
-/

set_option autoImplicit false

namespace OperatingOrganism.ColonyServer

open OperatingOrganism.Execution
open OperatingOrganism.FaultyIo

/-! ## Calls and tasks -/

namespace Sending

/-- It awaits an answer of the peer. -/
def Tries (peerId : String) (send : Sending) : Prop :=
  ∃ peer attempts, send.trying = some (peer, attempts) ∧ peer.peerId = peerId

theorem not_tries {peerId : String} {send : Sending} (h : send.trying = none) : ¬ send.Tries peerId := by
  rintro ⟨peer, attempts, htrying, -⟩
  rw [h] at htrying
  cases htrying

/-- It awaits an answer of the peer, and posts again if the answer is none. -/
def Retries (peerId : String) (send : Sending) : Prop :=
  ∃ peer attempts, send.trying = some (peer, attempts) ∧ peer.peerId = peerId ∧ attempts + 1 < maxAttempts

/-- It has still to come to the peer. -/
def Awaits (peerId : String) (send : Sending) : Prop :=
  send.excludePeerId ≠ some peerId ∧ ∃ peer ∈ send.rest, peer.peerId = peerId

end Sending

/-! ## What a step does -/

/-- The peer registry of a node. -/
def MeshNode.registry (n : MeshNode) : MeshRegistry := peerRegistry n.app.world

/-- Nothing is sent, and a call that is new has yet to read the registry, or has just done so. -/
structure Quiet (n m : MeshNode) : Prop where
  nodeProfile : m.app.nodeProfile = n.app.nodeProfile
  peerFailures : m.app.peerFailures = n.app.peerFailures
  poisoned : n.poisoned = true → m.poisoned = true
  sends : ∀ send ∈ m.sends, send ∈ n.sends ∨ n.poisoned = false ∧ send.trying = none
  loop : m.poisoned = false → n.loop ≠ .ended → m.loop ≠ .ended
  keyed : KeyedById n.registry → KeyedById m.registry

/-- A request that leaves the tasks as they are. -/
structure Served (s t : AppState) : Prop where
  advances : Advances s t
  keyed : KeyedById (peerRegistry s.world) → KeyedById (peerRegistry t.world)

section

variable {n m : MeshNode} {s t u : AppState}

theorem Quiet.refl (n : MeshNode) : Quiet n n :=
  ⟨rfl, rfl, id, fun _ hsend => .inl hsend, fun _ => id, id⟩

/-- A mutex that is not poisoned now has never been. -/
theorem Quiet.not_poisoned (h : Quiet n m) (hm : m.poisoned = false) : n.poisoned = false := by
  by_contra hn
  rw [h.poisoned (Bool.of_not_eq_false hn)] at hm
  cases hm

theorem Quiet.trans {o : MeshNode} (h : Quiet n m) (h' : Quiet m o) : Quiet n o where
  nodeProfile := h'.nodeProfile.trans h.nodeProfile
  peerFailures := h'.peerFailures.trans h.peerFailures
  poisoned hp := h'.poisoned (h.poisoned hp)
  sends send hsend := by
    rcases h'.sends send hsend with hmem | ⟨hm, hnone⟩
    · exact h.sends send hmem
    · exact .inr ⟨h.not_poisoned hm, hnone⟩
  loop ho hloop := h'.loop ho (h.loop (h'.not_poisoned ho) hloop)
  keyed hkeyed := h'.keyed (h.keyed hkeyed)

theorem Served.trans (h : Served s t) (h' : Served t u) : Served s u :=
  ⟨h.advances.trans h'.advances, fun hkeyed => h'.keyed (h.keyed hkeyed)⟩

theorem served_tick (s : AppState) : Served s s.tick := ⟨advances_tick s, id⟩

theorem served_count (s : AppState) (f : MeshMetrics → MeshMetrics) : Served s (s.count f) :=
  ⟨advances_count (Advances.refl s) f, id⟩

theorem served_getMeshRegistry (s : AppState) : Served s (s.storage getMeshRegistry).2 :=
  ⟨advances_storage keeps_organisms_getMeshRegistry s, KeyedById.getMeshRegistry⟩

theorem served_knownPeerCount (s : AppState) : Served s (s.knownPeerCount).2 := by
  rw [knownPeerCount_eq]
  exact served_getMeshRegistry s

theorem served_registerPeer (peer : PeerRegistration) (s : AppState) :
    Served s (s.storage (registerPeer peer)).2 :=
  ⟨advances_storage (keeps_organisms_registerPeer peer) s, fun hkeyed => hkeyed.registerPeer peer⟩

theorem served_storeGossip (gossip : GossipEnvelope) (s : AppState) :
    Served s (s.storage (storeGossip gossip)).2 := by
  refine ⟨advances_storage (keeps_organisms_storeGossip gossip) s, fun hkeyed => ?_⟩
  show KeyedById (peerRegistry (storeGossip gossip s.world).2)
  rw [peerRegistry_storeGossip]
  exact hkeyed.registerPeer gossip.fromPeer

theorem served_getMeshState (status : Bool) (s : AppState) : Served s (getMeshState status s).2 := by
  have hread := served_getMeshRegistry s
  rw [getMeshState]
  rcases hres : s.storage getMeshRegistry with ⟨_ | registry, t⟩ <;> rw [hres] at hread <;> exact hread

theorem served_handleMeshPeer (peer : PeerRegistration) (status statusAgain : Bool) (s : AppState) :
    Served s (handleMeshPeer peer status statusAgain s).2 := by
  have hregister := served_registerPeer peer s
  rw [handleMeshPeer]
  rcases hres : s.storage (registerPeer peer) with ⟨_ | record, t⟩ <;> rw [hres] at hregister
  · -- the answer of `/mesh/peer` holds the state of the mesh
    exact hregister
  · exact hregister.trans (served_getMeshState status t)

theorem served_refuse (gossip : GossipEnvelope) (status : String) (duplicate : Bool) (ttl : UInt8)
    (s : AppState) : Served s (refuse gossip status duplicate ttl s).2 :=
  (served_knownPeerCount s).trans (served_tick _)

theorem served_storeAndRelay (gossip : GossipEnvelope) (s : AppState) :
    Served s (storeAndRelay gossip s).2 := by
  have hstore := served_storeGossip gossip s
  rw [storeAndRelay]
  rcases hres : s.storage (storeGossip gossip) with ⟨_ | peer, t⟩ <;> rw [hres] at hstore
  · exact hstore
  · have hcount := hstore.trans (served_knownPeerCount t)
    dsimp only
    split
    · exact (hcount.trans (served_count _ _)).trans (served_tick _)
    · exact hcount.trans (served_tick _)

theorem quiet_withApp (h : Served n.app s) : Quiet n (n.withApp s) where
  nodeProfile := h.advances.nodeProfile
  peerFailures := h.advances.peerFailures
  poisoned := id
  sends _ hsend := .inl hsend
  loop _ := id
  keyed := h.keyed

theorem quiet_within (env : Surroundings) (n : MeshNode) : Quiet n (n.withApp (n.app.within env)) :=
  ⟨rfl, rfl, id, fun _ hsend => .inl hsend, fun _ => id, id⟩

theorem quiet_receivePeer (peer : PeerRegistration) (status statusAgain : Bool) (n : MeshNode) :
    Quiet n (receivePeer peer status statusAgain n) := by
  have hserved := served_handleMeshPeer peer status statusAgain n.app
  rw [receivePeer]
  split
  · exact .refl n
  · rename_i hpoisoned
    exact ⟨hserved.advances.nodeProfile, hserved.advances.peerFailures, fun hp => absurd hp hpoisoned,
      fun _ hsend => .inl hsend, fun _ => id, hserved.keyed⟩

theorem quiet_receiveStatus (n : MeshNode) : Quiet n (receiveStatus n) := by
  rw [receiveStatus]
  split
  · exact .refl n
  · exact quiet_withApp (served_getMeshRegistry n.app)

/-- Calls that have yet to read the registry come to those that there are. -/
theorem mem_sends_append_relays {relays : List Sending} {send : Sending} {app : AppState}
    (h : send ∈ MeshNode.sends { n with app := app, relays := n.relays ++ relays }) :
    send ∈ n.sends ∨ send ∈ relays := by
  rcases mem_sends.1 h with hloop | hmem
  · exact .inl (mem_sends.2 (.inl hloop))
  · exact (List.mem_append.1 hmem).imp (fun hold => mem_sends.2 (.inr hold)) id

/-- A call comes to its end. -/
theorem quiet_finish (n : MeshNode) (task : Task) : Quiet n (n.finish false task) where
  nodeProfile := by rw [app_finish]
  peerFailures := by rw [app_finish]
  poisoned hp := by rwa [poisoned_finish]
  sends send hsend := .inl (mem_sends_finish hsend)
  loop _ hloop := by
    cases task with
    | gossipLoop => exact nofun
    | relay i => exact hloop
  keyed := by
    rw [MeshNode.registry, MeshNode.registry, app_finish]
    exact id

/-- A call that posts nothing takes the place of another. -/
theorem quiet_put {send : Sending} (n : MeshNode) (task : Task) (hpoisoned : n.poisoned = false)
    (htrying : send.trying = none) : Quiet n (n.put send task) where
  nodeProfile := by rw [app_put]
  peerFailures := by rw [app_put]
  poisoned hp := by rwa [poisoned_put]
  sends s hs := by
    rcases mem_sends_put hs with rfl | hmem
    · exact .inr ⟨hpoisoned, htrying⟩
    · exact .inl hmem
  loop _ hloop := by
    cases task with
    | gossipLoop => exact nofun
    | relay i => exact hloop
  keyed := by
    rw [MeshNode.registry, MeshNode.registry, app_put]
    exact id

section

variable (hmac : String → String → Vector UInt8 32) (maxHops : UInt8)

theorem served_handleMeshGossip (gossip : GossipEnvelope) (s : AppState) :
    Served s (handleMeshGossip hmac gossip s).2 := by
  have hreceived : Served s (received s) := ⟨advances_received s, id⟩
  have hmarked : Served s (marked gossip s) := ⟨advances_marked gossip s, id⟩
  by_cases hadm : Admitted hmac gossip s
  · rw [handle_of_admitted hmac hadm]
    split
    · exact hmarked.trans (served_storeAndRelay gossip _)
    · exact (hmarked.trans (served_count _ _)).trans (served_refuse gossip _ _ _ _)
  · rcases handle_refuses hmac hadm with hstale | ⟨status, ttl, f, hrefused⟩
    · rw [hstale]
      exact hreceived.trans (served_knownPeerCount _)
    · rw [hrefused]
      exact (hreceived.trans (served_count _ f)).trans (served_refuse gossip _ _ _ _)

theorem quiet_receiveGossip (gossip : GossipEnvelope) (n : MeshNode) :
    Quiet n (receiveGossip hmac gossip n) := by
  have hserved := served_handleMeshGossip hmac gossip n.app
  rw [receiveGossip]
  split
  · exact ⟨hserved.advances.nodeProfile, hserved.advances.peerFailures, id, fun _ hsend => .inl hsend,
      fun _ => id, id⟩
  · rename_i hpoisoned
    refine ⟨hserved.advances.nodeProfile, hserved.advances.peerFailures, fun hp => absurd hp hpoisoned,
      fun send hsend => ?_, fun _ => id, hserved.keyed⟩
    rcases mem_sends_append_relays hsend with hmem | hrelay
    · exact .inl hmem
    · rw [Option.mem_toList, Option.map_eq_some_iff] at hrelay
      obtain ⟨relay, -, rfl⟩ := hrelay
      exact .inr ⟨Bool.of_not_eq_true hpoisoned, rfl⟩

theorem quiet_startRound (gossipId : String) (status : Option (List String × UInt64)) (n : MeshNode)
    (hloop : n.loop = .waiting) : Quiet n (startRound hmac maxHops gossipId status n) := by
  have hrelays : n.sends = n.relays := by rw [MeshNode.sends, hloop]
  have hread := served_getMeshRegistry n.app
  rw [startRound]
  split
  · -- the loop panics at the poisoned mutex
    rename_i hpoisoned
    refine ⟨rfl, rfl, id, fun send hsend => .inl (hrelays ▸ hsend), fun hnot => ?_, id⟩
    rw [hpoisoned] at hnot
    cases hnot
  · rename_i hpoisoned
    rcases hres : n.app.storage getMeshRegistry with ⟨_ | registry, s⟩ <;> rw [hres] at hread
    · exact quiet_withApp hread
    · rcases status with _ | ⟨observedThreats, observedOrganisms⟩
      · exact quiet_withApp hread
      · dsimp only
        split
        · exact quiet_withApp hread
        · -- the new call of the loop is the first one of the list
          refine ⟨hread.advances.nodeProfile, hread.advances.peerFailures, id, fun send hsend => ?_,
            fun _ _ hended => (by cases hended), hread.keyed⟩
          rcases List.mem_cons.1 hsend with rfl | hmem
          · exact .inr ⟨Bool.of_not_eq_true hpoisoned, rfl⟩
          · exact .inl (hrelays ▸ hmem)

theorem quiet_fetchPeers {task : Task} {send : Sending} (n : MeshNode) :
    Quiet n (fetchPeers task send n) := by
  have hread := served_getMeshRegistry n.app
  rw [fetchPeers]
  split
  · -- the call panics; if it is the one of the loop, so does the loop
    rename_i hpoisoned
    refine ⟨by rw [app_finish], by rw [app_finish], fun hp => by rwa [poisoned_finish],
      fun send hsend => .inl (mem_sends_finish hsend), fun hnot => ?_, ?_⟩
    · rw [poisoned_finish, hpoisoned] at hnot
      cases hnot
    · rw [MeshNode.registry, MeshNode.registry, app_finish]
      exact id
  · rename_i hpoisoned
    rcases hres : n.app.storage getMeshRegistry with ⟨_ | registry, s⟩ <;> rw [hres] at hread
    · -- without the registry the call ends
      exact (quiet_withApp hread).trans (quiet_finish (n.withApp s) task)
    · refine (quiet_withApp hread).trans (quiet_put (n.withApp s) task ?_ rfl)
      exact Bool.of_not_eq_true hpoisoned

/-- A step is quiet, comes to the next peer of a call, or takes an answer. -/
theorem NodeStep.cases {event : NodeEvent} {attempt : Option Attempt}
    (h : NodeStep hmac maxHops n (event, attempt) m) :
    (Quiet n m ∧ attempt = none) ∨
      ∃ task send, n.send task = some send ∧
        ((∃ rest, send.phase = .posting none rest ∧ nextPeer hmac task send rest n = (m, attempt)) ∨
          ∃ success peer attempts rest, send.phase = .posting (some (peer, attempts)) rest ∧
            takeAnswer hmac task success send peer attempts rest n = (m, attempt)) := by
  cases event with
  | registerPeer peer env status statusAgain =>
    cases h
    exact .inl ⟨(quiet_within env n).trans (quiet_receivePeer peer status statusAgain _), rfl⟩
  | gossip gossip env =>
    cases h
    exact .inl ⟨(quiet_within env n).trans (quiet_receiveGossip hmac gossip _), rfl⟩
  | meshStatus env =>
    cases h
    exact .inl ⟨(quiet_within env n).trans (quiet_receiveStatus _), rfl⟩
  | other organisms logs =>
    cases h
    exact .inl ⟨⟨rfl, rfl, id, fun _ hsend => .inl hsend, fun _ => id, id⟩, rfl⟩
  | tick env gossipId status =>
    dsimp only [NodeStep, MeshNode.step] at h
    cases hloop : n.loop with
    | waiting =>
      rw [hloop] at h
      cases h
      exact .inl ⟨(quiet_within env n).trans (quiet_startRound hmac maxHops gossipId status _ hloop), rfl⟩
    | sending send =>
      rw [hloop] at h
      cases h
    | ended =>
      rw [hloop] at h
      cases h
  | fetch task env =>
    obtain ⟨send, hsend, h⟩ := Option.bind_eq_some_iff.1 h
    dsimp only at h
    split at h
    · cases h
      exact .inl ⟨(quiet_within env n).trans (quiet_fetchPeers _), rfl⟩
    · cases h
  | goOn task =>
    obtain ⟨send, hsend, h⟩ := Option.bind_eq_some_iff.1 h
    dsimp only at h
    split at h
    · rename_i rest hphase
      exact .inr ⟨task, send, hsend, .inl ⟨rest, hphase, Option.some.inj h⟩⟩
    · cases h
    · cases h
  | answer task success =>
    obtain ⟨send, hsend, h⟩ := Option.bind_eq_some_iff.1 h
    dsimp only at h
    split at h
    · rename_i peer attempts rest hphase
      exact .inr ⟨task, send, hsend, .inr ⟨success, peer, attempts, rest, hphase, Option.some.inj h⟩⟩
    · cases h
    · cases h

end

end

/-! ## A call and its answers -/

section

variable (hmac : String → String → Vector UInt8 32) (maxHops : UInt8)
variable {n m : MeshNode} {send : Sending} {task : Task} {peer : MeshPeer} {rest : List MeshPeer}
  {attempts : Nat}

/-- Some run of the process leads to the state. -/
abbrev Reaches (n m : MeshNode) : Prop := Reachable (NodeStep hmac maxHops) n m

theorem step_goOn (hsend : n.send task = some send) (hphase : send.phase = .posting none rest) :
    NodeStep hmac maxHops n (.goOn task, (nextPeer hmac task send rest n).2)
      (nextPeer hmac task send rest n).1 := by
  simp [NodeStep, MeshNode.step, hsend, hphase]

theorem step_answer (success : Bool) (hsend : n.send task = some send)
    (hphase : send.phase = .posting (some (peer, attempts)) rest) :
    NodeStep hmac maxHops n (.answer task success, (takeAnswer hmac task success send peer attempts rest n).2)
      (takeAnswer hmac task success send peer attempts rest n).1 := by
  simp [NodeStep, MeshNode.step, hsend, hphase]

theorem reaches_goOn (hsend : n.send task = some send) (hphase : send.phase = .posting none rest) :
    Reaches hmac maxHops n (nextPeer hmac task send rest n).1 :=
  .single ⟨_, step_goOn hmac maxHops hsend hphase⟩

theorem reaches_answer (success : Bool) (hsend : n.send task = some send)
    (hphase : send.phase = .posting (some (peer, attempts)) rest) :
    Reaches hmac maxHops n (takeAnswer hmac task success send peer attempts rest n).1 :=
  .single ⟨_, step_answer hmac maxHops success hsend hphase⟩

/-- After the rest of an iteration: so many attempts more, and their success. -/
def AppState.settle (s : AppState) (peer : MeshPeer) (more : Nat) (success : Bool) : AppState :=
  let s := s.count fun m =>
    { m with
      outboundAttempted := m.outboundAttempted + .ofNat more
      outboundSuccess := if success then m.outboundSuccess + 1 else m.outboundSuccess
      outboundFailure := if success then m.outboundFailure else m.outboundFailure + 1 }
  let failures :=
    if success then s.peerFailures.erase peer.peerId
    else s.peerFailures.insert peer.peerId ((s.peerFailures.lookup peer.peerId).getD 0 + 1)
  { s with peerFailures := failures }

theorem sendGossipToPeer_eq_settle (respond : Nat → Bool) (envelope : GossipEnvelope) (s : AppState)
    (h : ¬ 5 ≤ (s.peerFailures.lookup peer.peerId).getD 0) :
    (sendGossipToPeer hmac respond envelope peer s).2 =
      s.settle peer (attemptLoop respond 0 maxAttempts).1 (attemptLoop respond 0 maxAttempts).2 := by
  rw [sendGossipToPeer]
  dsimp only
  rw [if_neg h]
  rfl

theorem sendGossipToPeer_of_open (respond : Nat → Bool) (envelope : GossipEnvelope) (s : AppState)
    (h : 5 ≤ (s.peerFailures.lookup peer.peerId).getD 0) :
    sendGossipToPeer hmac respond envelope peer s = ([], s) := by
  rw [sendGossipToPeer]
  dsimp only
  rw [if_pos h]

/-- After one more attempt. -/
def AppState.attempted (s : AppState) : AppState :=
  s.count fun m => { m with outboundAttempted := m.outboundAttempted + 1 }

theorem settle_attempted (s : AppState) (more : Nat) (success : Bool) :
    s.attempted.settle peer more success = s.settle peer (more + 1) success := by
  have hsum : s.metrics.outboundAttempted + 1 + UInt64.ofNat more =
      s.metrics.outboundAttempted + UInt64.ofNat (more + 1) := by
    rw [UInt64.ofNat_add, UInt64.add_assoc, UInt64.add_comm 1]
    rfl
  simp only [AppState.settle, AppState.attempted, AppState.count, hsum]

theorem le_attemptLoop (respond : Nat → Bool) (attempts left : Nat) :
    attempts ≤ (attemptLoop respond attempts left).1 := by
  induction left generalizing attempts with
  | zero => exact Nat.le_refl attempts
  | succ left ih =>
    rw [attemptLoop]
    split
    · exact Nat.le_succ attempts
    · exact Nat.le_of_succ_le (ih (attempts + 1))

/-- An answer ends the iteration if it is a success or the attempts are used up. -/
theorem takeAnswer_last {success : Bool} (s : AppState)
    (h : success = true ∨ ¬ attempts + 1 < maxAttempts) :
    (takeAnswer hmac task success (send.goTo (some (peer, attempts)) rest) peer attempts rest
      ((n.withApp s.attempted).put (send.goTo (some (peer, attempts)) rest) task)).1 =
    (n.withApp (s.settle peer 1 success)).put (send.goTo none rest) task := by
  rw [takeAnswer]
  cases success with
  | true =>
    rw [if_pos rfl]
    dsimp only
    rw [put_withApp_put, app_put]
    rfl
  | false =>
    rw [if_neg Bool.false_ne_true, if_neg (h.resolve_left Bool.false_ne_true)]
    dsimp only
    rw [put_withApp_put, app_put, failures_put]
    rfl

/-- Otherwise there is one more attempt. -/
theorem takeAnswer_retry (s : AppState) (h : attempts + 1 < maxAttempts) :
    (takeAnswer hmac task false (send.goTo (some (peer, attempts)) rest) peer attempts rest
      ((n.withApp s).put (send.goTo (some (peer, attempts)) rest) task)).1 =
    (n.withApp s.attempted).put (send.goTo (some (peer, attempts + 1)) rest) task := by
  rw [takeAnswer, if_neg Bool.false_ne_true, if_pos h, attemptPost]
  dsimp only
  rw [put_withApp_put, app_put]
  rfl

/-- From an attempt on, an iteration comes to its end as in `attemptLoop`. -/
theorem reaches_settle (respond : Nat → Bool) (hsend : n.send task = some send) (left attempts : Nat)
    (s : AppState) (hleft : attempts + left + 1 = maxAttempts) :
    Reaches hmac maxHops
      ((n.withApp s.attempted).put (send.goTo (some (peer, attempts)) rest) task)
      ((n.withApp (s.settle peer ((attemptLoop respond attempts (left + 1)).1 - attempts)
        (attemptLoop respond attempts (left + 1)).2)).put (send.goTo none rest) task) := by
  -- induction on the attempts left, from the state before the post that is under way
  induction left generalizing attempts s with
  | zero =>
    have hput := send_withApp_put s.attempted (send.goTo (some (peer, attempts)) rest) hsend
    have hanswer := reaches_answer hmac maxHops (respond attempts) hput rfl
    rw [takeAnswer_last hmac s (.inr (by omega))] at hanswer
    have hloop : attemptLoop respond attempts 1 = (attempts + 1, respond attempts) := by
      simp only [attemptLoop]
      cases respond attempts <;> rfl
    rw [hloop, Nat.add_sub_cancel_left]
    exact hanswer
  | succ left ih =>
    have hput := send_withApp_put s.attempted (send.goTo (some (peer, attempts)) rest) hsend
    have hanswer := reaches_answer hmac maxHops (respond attempts) hput rfl
    rw [attemptLoop]
    cases hrespond : respond attempts with
    | true =>
      rw [hrespond, takeAnswer_last hmac s (.inl rfl)] at hanswer
      rw [if_pos rfl, Nat.add_sub_cancel_left]
      exact hanswer
    | false =>
      rw [hrespond, takeAnswer_retry hmac s.attempted (by omega)] at hanswer
      have hrest := ih (attempts + 1) s.attempted (by omega)
      have hle := le_attemptLoop respond (attempts + 1) (left + 1)
      have hmore : (attemptLoop respond (attempts + 1) (left + 1)).1 - (attempts + 1) + 1 =
          (attemptLoop respond (attempts + 1) (left + 1)).1 - attempts := by
        omega
      rw [settle_attempted, hmore] at hrest
      rw [if_neg Bool.false_ne_true]
      exact hanswer.trans hrest

/-- The steps of an iteration, none of which comes between, make `send_gossip_to_peer`. -/
theorem reaches_sendGossipToPeer (respond : Nat → Bool) (hsend : n.send task = some send)
    (hphase : send.phase = .posting none (peer :: rest)) (hself : peer.peerId ≠ n.app.nodeProfile.nodeId)
    (hexclude : send.excludePeerId ≠ some peer.peerId) :
    Reaches hmac maxHops n
      ((n.withApp (sendGossipToPeer hmac respond send.envelope peer n.app).2).put
        (send.goTo none rest) task) := by
  have hgo := reaches_goOn hmac maxHops hsend hphase
  rw [nextPeer] at hgo
  by_cases hopen : 5 ≤ n.failures peer.peerId
  · -- an open breaker: the iteration ends before its first post
    rw [if_pos (.inr (.inr hopen))] at hgo
    rw [sendGossipToPeer_of_open hmac respond send.envelope n.app hopen]
    exact hgo
  · have hposts : ¬ Skips n send peer := by
      rintro (h | h | h)
      · exact hself h
      · exact hexclude h
      · exact hopen h
    rw [if_neg hposts] at hgo
    rw [sendGossipToPeer_eq_settle hmac respond send.envelope n.app hopen]
    exact hgo.trans (reaches_settle hmac maxHops respond hsend 2 0 n.app rfl)

end

/-! ## The states that a process comes to -/

/-- A process that has just started. -/
structure Boots (n : MeshNode) : Prop where
  peerFailures : n.app.peerFailures = ∅
  poisoned : n.poisoned = false
  loop : n.loop = .waiting
  relays : n.relays = []
  keyed : KeyedById n.registry

/-- What holds of a process at all times. -/
structure MeshNode.Sound (n : MeshNode) : Prop where
  keyed : KeyedById n.registry
  loop : n.poisoned = false → n.loop ≠ .ended
  others : ∀ send ∈ n.sends, ¬ send.Tries n.app.nodeProfile.nodeId

section

variable {n m : MeshNode} {send : Sending} {task : Task} {peerId : String}

theorem Boots.sound (h : Boots n) : n.Sound where
  keyed := h.keyed
  loop _ := by
    rw [h.loop]
    exact nofun
  others send hsend := by
    rw [MeshNode.sends, h.loop, h.relays] at hsend
    cases hsend

theorem MeshNode.Sound.quiet (h : n.Sound) (hquiet : Quiet n m) : m.Sound where
  keyed := hquiet.keyed h.keyed
  loop hm := hquiet.loop hm (h.loop (hquiet.not_poisoned hm))
  others send hsend := by
    rw [hquiet.nodeProfile]
    rcases hquiet.sends send hsend with hmem | ⟨-, hnone⟩
    · exact h.others send hmem
    · exact Sending.not_tries hnone

theorem MeshNode.Sound.put {app : AppState} {trying : Option (MeshPeer × Nat)} {rest : List MeshPeer}
    (h : n.Sound) (hworld : app.world = n.app.world) (hprofile : app.nodeProfile = n.app.nodeProfile)
    (htrying : ∀ peer attempts, trying = some (peer, attempts) → peer.peerId ≠ n.app.nodeProfile.nodeId) :
    ((n.withApp app).put (send.goTo trying rest) task).Sound where
  keyed := by
    rw [MeshNode.registry, app_put, app_withApp, hworld]
    exact h.keyed
  loop hm := by
    cases task with
    | gossipLoop => exact nofun
    | relay i => exact h.loop hm
  others s hs := by
    rw [app_put, app_withApp, hprofile]
    rcases mem_sends_put hs with rfl | hmem
    · rintro ⟨peer, attempts, heq, hid⟩
      exact htrying peer attempts heq hid
    · exact h.others s hmem

section

variable (hmac : String → String → Vector UInt8 32) (maxHops : UInt8)

theorem MeshNode.Sound.step {event : NodeEvent} {attempt : Option Attempt} (h : n.Sound)
    (hstep : NodeStep hmac maxHops n (event, attempt) m) : m.Sound := by
  rcases hstep.cases with ⟨hquiet, -⟩ | ⟨task, send, hsend, ⟨rest, hphase, hnext⟩ |
    ⟨success, peer, attempts, rest, hphase, hanswer⟩⟩
  · exact h.quiet hquiet
  · cases rest with
    | nil =>
      cases hnext
      exact h.quiet (quiet_finish n task)
    | cons peer rest =>
      rw [nextPeer] at hnext
      split at hnext
      · cases hnext
        exact h.put rfl rfl fun _ _ hnone => by cases hnone
      · rename_i hposts
        cases hnext
        -- the loop never posts to the node itself
        refine h.put rfl rfl ?_
        rintro p k ⟨⟩ hself
        exact hposts (.inl hself)
  · have hother : peer.peerId ≠ n.app.nodeProfile.nodeId := fun hself =>
      h.others send (mem_sends_of_send hsend) ⟨peer, attempts, by rw [Sending.trying, hphase], hself⟩
    rw [takeAnswer] at hanswer
    split at hanswer
    · cases hanswer
      exact h.put rfl rfl fun _ _ hnone => by cases hnone
    · split at hanswer
      · cases hanswer
        refine h.put rfl rfl ?_
        rintro p k ⟨⟩
        exact hother
      · cases hanswer
        exact h.put rfl rfl fun _ _ hnone => by cases hnone

theorem MeshNode.Sound.reaches (h : n.Sound) (hreaches : Reaches hmac maxHops n m) : m.Sound :=
  Reachable.invariant hreaches h fun _ _ _ hs hstep => hs.step hmac maxHops hstep

end

end

end OperatingOrganism.ColonyServer

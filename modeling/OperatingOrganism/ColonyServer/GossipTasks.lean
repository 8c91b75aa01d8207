import OperatingOrganism.ColonyServer.MeshGossip
import OperatingOrganism.Library.Execution

/-!
# The tasks of a running node

A node of the mesh as a process: the requests that come in, the loop of `run_gossip_loop`, and the calls of
`relay_gossip` that it spawned. A call of `send_gossip_to_peers` gives way to the others at every post, so
its steps are those from one post to the next, and the steps of the tasks come in any order. What the disk
and the clock answer is drawn anew at every step.

The storage is behind a mutex. A request that panics while it holds the mutex poisons it, and every task that
comes to lock it later panics as well.
-/

set_option autoImplicit false

namespace OperatingOrganism.ColonyServer

open OperatingOrganism.Execution
open OperatingOrganism.FaultyIo

/-! ## The state of the process -/

/-- How far a call of `send_gossip_to_peers` has come. -/
inductive SendPhase where
  /-- It has not read the registry yet. -/
  | fetching
  /-- It has: the peer whose answer it awaits with the attempts that failed, and the peers to come. -/
  | posting (trying : Option (MeshPeer × Nat)) (rest : List MeshPeer)

/-- A call of `send_gossip_to_peers` that has not ended. -/
structure Sending where
  envelope : GossipEnvelope
  excludePeerId : Option String
  phase : SendPhase

/-- `run_gossip_loop` -/
inductive GossipLoop where
  /-- It waits for the ticker. -/
  | waiting
  | sending (send : Sending)
  /-- It panicked. -/
  | ended

/-- A running process of the server. -/
structure MeshNode where
  app : AppState
  /-- Whether the mutex of the storage is poisoned. -/
  poisoned : Bool
  loop : GossipLoop
  /-- The calls of `relay_gossip` that have not ended. -/
  relays : List Sending

/-- A task that may be sending. -/
inductive Task where
  | gossipLoop
  | relay (i : Nat)
  deriving DecidableEq

/-- A request to a peer. -/
structure Attempt where
  peer : MeshPeer
  post : Post

/-- What the disk and the clock answer. -/
structure Surroundings where
  outcomes : Nat → Outcome
  clock : Nat → DateTime

/-- What happens next in the process. -/
inductive NodeEvent where
  /-- A request to `/mesh/peer`, and whether `get_colony_status` succeeds in it, once and again. -/
  | registerPeer (peer : PeerRegistration) (env : Surroundings) (status statusAgain : Bool)
  /-- A request to `/mesh/gossip`. -/
  | gossip (gossip : GossipEnvelope) (env : Surroundings)
  /-- A request to `/mesh/status`. -/
  | meshStatus (env : Surroundings)
  /-- Any other request; it changes the other files. -/
  | other (organisms : JsonFile OrganismRegistry) (logs : LogPath → List Entry)
  /-- The ticker ticks; the identifier drawn, and what `get_colony_status` returns if it succeeds. -/
  | tick (env : Surroundings) (gossipId : String) (status : Option (List String × UInt64))
  /-- A task reads the registry. -/
  | fetch (task : Task) (env : Surroundings)
  /-- A task comes to its next peer, or to the end. -/
  | goOn (task : Task)
  /-- A task gets its answer, or waits for it in vain. -/
  | answer (task : Task) (success : Bool)

def AppState.within (env : Surroundings) (s : AppState) : AppState :=
  { s with world := ⟨s.world.disk, env.outcomes, env.clock⟩ }

namespace Sending

def trying (send : Sending) : Option (MeshPeer × Nat) :=
  match send.phase with
  | .fetching => none
  | .posting trying _ => trying

def rest (send : Sending) : List MeshPeer :=
  match send.phase with
  | .fetching => []
  | .posting _ rest => rest

/-- The call goes on. -/
def goTo (send : Sending) (trying : Option (MeshPeer × Nat)) (rest : List MeshPeer) : Sending :=
  { send with phase := .posting trying rest }

end Sending

namespace MeshNode

/-- The calls of `send_gossip_to_peers` that have not ended. -/
def sends (n : MeshNode) : List Sending :=
  match n.loop with
  | .sending send => send :: n.relays
  | .waiting | .ended => n.relays

/-- What a task is sending. -/
def send (n : MeshNode) : Task → Option Sending
  | .gossipLoop =>
    match n.loop with
    | .sending send => some send
    | .waiting | .ended => none
  | .relay i => n.relays[i]?

def put (n : MeshNode) (send : Sending) : Task → MeshNode
  | .gossipLoop => { n with loop := .sending send }
  | .relay i => { n with relays := n.relays.set i send }

/-- The call ends, or panics. -/
def finish (n : MeshNode) (panics : Bool) : Task → MeshNode
  | .gossipLoop => { n with loop := if panics then .ended else .waiting }
  | .relay i => { n with relays := n.relays.eraseIdx i }

def withApp (n : MeshNode) (app : AppState) : MeshNode := { n with app := app }

/-- `failures.get(&peer_id)`, or 0. -/
def failures (n : MeshNode) (peerId : String) : UInt32 := (n.app.peerFailures.lookup peerId).getD 0

end MeshNode

/-! ## Requests -/

/-- `get_mesh_state`, up to its result: whether it succeeds. -/
def getMeshState (status : Bool) (s : AppState) : Bool × AppState :=
  match s.storage getMeshRegistry with
  | (.ok _, s) => (status, s)
  | (.error _, s) => (false, s)

/-- `handle_mesh_peer`: whether it panics, and the state after it. -/
def handleMeshPeer (peer : PeerRegistration) (status statusAgain : Bool) (s : AppState) : Bool × AppState :=
  match s.storage (registerPeer peer) with
  | (.error _, s) => (false, s)
  | (.ok _, s) =>
    let (succeeds, s) := getMeshState status s
    -- `storage.get_colony_status().unwrap()`
    (!succeeds && !statusAgain, s)

section

variable (hmac : String → String → Vector UInt8 32) (maxHops : UInt8)

/-- A request to `/mesh/gossip` that panics where it locks the storage: what was counted and marked before
stays. -/
def gossipPanics (gossip : GossipEnvelope) (s : AppState) : AppState :=
  let t := (handleMeshGossip hmac gossip s).2
  { t with
    world := s.world
    metrics := { t.metrics with inboundRelayed := s.metrics.inboundRelayed } }

/-- A request to `/mesh/gossip`. The relay runs as a task of its own. -/
def receiveGossip (gossip : GossipEnvelope) (n : MeshNode) : MeshNode :=
  -- `state.storage.lock().unwrap()` panics
  if n.poisoned then n.withApp (gossipPanics hmac gossip n.app)
  else
    let (handled, s) := handleMeshGossip hmac gossip n.app
    -- the relay is spawned after the storage is let go
    let relay := handled.relay.map fun relay => (⟨relay.1, relay.2, .fetching⟩ : Sending)
    { n with app := s, relays := n.relays ++ relay.toList }

/-- A request to `/mesh/peer`. -/
def receivePeer (peer : PeerRegistration) (status statusAgain : Bool) (n : MeshNode) : MeshNode :=
  if n.poisoned then n
  else
    let (panics, s) := handleMeshPeer peer status statusAgain n.app
    { n with app := s, poisoned := panics }

/-- A request to `/mesh/status`. -/
def receiveStatus (n : MeshNode) : MeshNode :=
  if n.poisoned then n else n.withApp (n.app.storage getMeshRegistry).2

/-! ## Sending -/

/-- A round of `run_gossip_loop`, up to its call of `send_gossip_to_peers`. -/
def startRound (gossipId : String) (status : Option (List String × UInt64)) (n : MeshNode) : MeshNode :=
  if n.poisoned then { n with loop := .ended }
  else
    match n.app.storage getMeshRegistry with
    | (.error _, s) => n.withApp s
    | (.ok registry, s) =>
      match status with
      | none => n.withApp s
      | some (observedThreats, observedOrganisms) =>
        if registry.entries = [] then n.withApp s
        else
          -- the gossip of the round is marked as seen, so that it is not stored when it comes back
          let envelope := ownGossip hmac gossipId maxHops observedThreats observedOrganisms s.now s
          let s := s.tick
          let seen :=
            (markGossipSeen s.seenGossip gossipId s.runtime.dedupWindowS s.now.timestamp).2
          { n with
            app := { s.tick with seenGossip := seen }
            loop := .sending ⟨envelope, none, .fetching⟩ }

/-- `send_gossip_to_peers`, up to its loop. -/
def fetchPeers (task : Task) (send : Sending) (n : MeshNode) : MeshNode :=
  if n.poisoned then n.finish true task
  else
    match n.app.storage getMeshRegistry with
    | (.error _, s) => (n.withApp s).finish false task
    | (.ok registry, s) =>
      (n.withApp s).put (send.goTo none (registry.entries.map Sigma.snd)) task

/-- One more request to the peer of an iteration. -/
def attemptPost (task : Task) (send : Sending) (peer : MeshPeer) (attempts : Nat) (rest : List MeshPeer)
    (n : MeshNode) : MeshNode × Option Attempt :=
  let s := n.app.count fun m => { m with outboundAttempted := m.outboundAttempted + 1 }
  ((n.withApp s).put (send.goTo (some (peer, attempts)) rest) task,
    some ⟨peer, meshGossipUrl peer.address, n.app.runtime.outbound hmac send.envelope⟩)

/-- Whether an iteration ends before its first post: the peer is the node itself, or the excluded one, or its
circuit breaker is open. -/
def Skips (n : MeshNode) (send : Sending) (peer : MeshPeer) : Prop :=
  peer.peerId = n.app.nodeProfile.nodeId ∨ send.excludePeerId = some peer.peerId ∨
    5 ≤ n.failures peer.peerId

instance (n : MeshNode) (send : Sending) (peer : MeshPeer) : Decidable (Skips n send peer) :=
  inferInstanceAs (Decidable (_ ∨ _ ∨ _))

/-- The next iteration of the loop over the peers, up to its first post. -/
def nextPeer (task : Task) (send : Sending) : List MeshPeer → MeshNode → MeshNode × Option Attempt
  | [], n => (n.finish false task, none)
  | peer :: rest, n =>
    if Skips n send peer then (n.put (send.goTo none rest) task, none)
    else attemptPost hmac task send peer 0 rest n

/-- An iteration from an answer on, up to the next post or to its end. -/
def takeAnswer (task : Task) (success : Bool) (send : Sending) (peer : MeshPeer) (attempts : Nat)
    (rest : List MeshPeer) (n : MeshNode) : MeshNode × Option Attempt :=
  if success then
    let s := n.app.count fun m => { m with outboundSuccess := m.outboundSuccess + 1 }
    ((n.withApp { s with peerFailures := s.peerFailures.erase peer.peerId }).put
      (send.goTo none rest) task, none)
  else if attempts + 1 < maxAttempts then attemptPost hmac task send peer (attempts + 1) rest n
  else
    let s := n.app.count fun m => { m with outboundFailure := m.outboundFailure + 1 }
    ((n.withApp
      { s with peerFailures := s.peerFailures.insert peer.peerId (n.failures peer.peerId + 1) }).put
      (send.goTo none rest) task, none)

/-- One step of the process, with the request that it makes. -/
def MeshNode.step (n : MeshNode) : NodeEvent → Option (MeshNode × Option Attempt)
  | .registerPeer peer env status statusAgain =>
    some (receivePeer peer status statusAgain (n.withApp (n.app.within env)), none)
  | .gossip gossip env => some (receiveGossip hmac gossip (n.withApp (n.app.within env)), none)
  | .meshStatus env => some (receiveStatus (n.withApp (n.app.within env)), none)
  | .other organisms logs =>
    let disk := { n.app.world.disk with organisms := organisms, logs := logs }
    some (n.withApp { n.app with world := { n.app.world with disk := disk } }, none)
  | .tick env gossipId status =>
    match n.loop with
    | .waiting =>
      some (startRound hmac maxHops gossipId status (n.withApp (n.app.within env)), none)
    | .sending _ | .ended => none
  | .fetch task env => do
    let send ← n.send task
    match send.phase with
    | .fetching => some (fetchPeers task send (n.withApp (n.app.within env)), none)
    | .posting _ _ => none
  | .goOn task => do
    let send ← n.send task
    match send.phase with
    | .posting none rest => some (nextPeer hmac task send rest n)
    | .posting (some _) _ | .fetching => none
  | .answer task success => do
    let send ← n.send task
    match send.phase with
    | .posting (some (peer, attempts)) rest =>
      some (takeAnswer hmac task success send peer attempts rest n)
    | .posting none _ | .fetching => none

/-- The steps of the process. Their labels carry the request that is made. -/
def NodeStep (n : MeshNode) (label : NodeEvent × Option Attempt) (m : MeshNode) : Prop :=
  n.step hmac maxHops label.1 = some (m, label.2)

end

/-! ## What a task is sending -/

section

variable {n : MeshNode} {send send' : Sending} {task task' : Task} {peerId : String} {app app' : AppState}

theorem mem_sends : send ∈ n.sends ↔ n.loop = .sending send ∨ send ∈ n.relays := by
  rw [MeshNode.sends]
  cases n.loop with
  | sending s => simp [eq_comm]
  | waiting => simp
  | ended => simp

theorem send_gossipLoop : n.send .gossipLoop = some send ↔ n.loop = .sending send := by
  rw [MeshNode.send]
  cases n.loop with
  | sending s => simp
  | waiting => simp
  | ended => simp

theorem mem_sends_of_send (h : n.send task = some send) : send ∈ n.sends := by
  cases task with
  | gossipLoop => exact mem_sends.2 (.inl (send_gossipLoop.1 h))
  | relay i => exact mem_sends.2 (.inr (List.mem_of_getElem? h))

theorem exists_task (h : send ∈ n.sends) : ∃ task, n.send task = some send := by
  rcases mem_sends.1 h with hloop | hrelay
  · exact ⟨.gossipLoop, send_gossipLoop.2 hloop⟩
  · obtain ⟨i, hi⟩ := List.mem_iff_getElem?.1 hrelay
    exact ⟨.relay i, hi⟩

theorem mem_sends_put (h : send ∈ (n.put send' task).sends) : send = send' ∨ send ∈ n.sends := by
  cases task with
  | gossipLoop =>
    rcases mem_sends.1 h with hloop | hrelay
    · cases hloop
      exact .inl rfl
    · exact .inr (mem_sends.2 (.inr hrelay))
  | relay i =>
    rcases mem_sends.1 h with hloop | hrelay
    · exact .inr (mem_sends.2 (.inl hloop))
    · rcases List.mem_or_eq_of_mem_set hrelay with hold | heq
      · exact .inr (mem_sends.2 (.inr hold))
      · exact .inl heq

theorem mem_sends_finish {panics : Bool} (h : send ∈ (n.finish panics task).sends) : send ∈ n.sends := by
  cases task with
  | gossipLoop =>
    rcases mem_sends.1 h with hloop | hrelay
    · -- the loop sends no more, whether it panicked or not
      cases panics <;> cases hloop
    · exact mem_sends.2 (.inr hrelay)
  | relay i =>
    rcases mem_sends.1 h with hloop | hrelay
    · exact mem_sends.2 (.inl hloop)
    · exact mem_sends.2 (.inr (List.mem_of_mem_eraseIdx hrelay))

theorem send_put (h : n.send task = some send) : (n.put send' task).send task = some send' := by
  cases task with
  | gossipLoop => rfl
  | relay i =>
    have hlt : i < n.relays.length := (List.getElem?_eq_some_iff.1 h).1
    exact List.getElem?_set_self hlt

theorem send_put_of_ne (h : task' ≠ task) : (n.put send' task).send task' = n.send task' := by
  cases task with
  | gossipLoop =>
    cases task' with
    | gossipLoop => exact absurd rfl h
    | relay j => rfl
  | relay i =>
    cases task' with
    | gossipLoop => rfl
    | relay j =>
      refine List.getElem?_set_ne fun hij => ?_
      rw [hij] at h
      exact h rfl

@[simp] theorem send_withApp : (n.withApp app).send task = n.send task := by
  cases task <;> rfl

theorem send_withApp_put (app : AppState) (send' : Sending) (h : n.send task = some send) :
    ((n.withApp app).put send' task).send task = some send' :=
  send_put (send_withApp.trans h)

@[simp] theorem app_withApp : (n.withApp app).app = app := rfl

@[simp] theorem poisoned_withApp : (n.withApp app).poisoned = n.poisoned := rfl

@[simp] theorem app_put : (n.put send task).app = n.app := by
  cases task <;> rfl

@[simp] theorem poisoned_put : (n.put send task).poisoned = n.poisoned := by
  cases task <;> rfl

@[simp] theorem failures_put : (n.put send task).failures peerId = n.failures peerId := by
  cases task <;> rfl

@[simp] theorem put_withApp_put :
    ((n.put send task).withApp app).put send' task = (n.withApp app).put send' task := by
  cases task with
  | gossipLoop => rfl
  | relay i => simp [MeshNode.put, MeshNode.withApp]

@[simp] theorem app_finish {panics : Bool} : (n.finish panics task).app = n.app := by
  cases task <;> rfl

@[simp] theorem poisoned_finish {panics : Bool} : (n.finish panics task).poisoned = n.poisoned := by
  cases task <;> rfl

end

end OperatingOrganism.ColonyServer

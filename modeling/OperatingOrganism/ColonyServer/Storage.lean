import OperatingOrganism.ColonyServer.Models
import OperatingOrganism.Library.FaultyIo
import OperatingOrganism.Library.JoinedText

/-!
# The storage of a node

What a node keeps on disk: two registries, each a JSON file that is read whole and written whole, and logs
to which lines are appended. Every file operation can fail. One that writes can also be cut short: an
`fs::write` truncates the file first, and then leaves a beginning of its new content.

The steps of an operation are file operations, and each reads, writes or opens one file.
-/

set_option autoImplicit false

namespace OperatingOrganism.ColonyServer

open OperatingOrganism.JoinedText
open OperatingOrganism.FaultyIo

/-! ## The disk -/

/-- A file that holds one JSON value. -/
inductive JsonFile (α : Type) where
  | absent
  /-- The beginning of a value: no JSON. -/
  | torn
  | whole (value : α)
  deriving DecidableEq

/-- The line that `store_gossip` appends. -/
structure GossipRecord where
  gossipId : String
  fromPeer : PeerRegistration
  observedThreats : List String
  observedOrganisms : UInt64
  sentAt : DateTime
  receivedAt : DateTime
  deriving DecidableEq

/-- The line that `process_threats` appends. -/
structure ThreatRecord where
  threatId : String
  severity : String
  discoveredBy : String
  firstSeen : DateTime
  count : UInt64
  timestamp : DateTime
  deriving DecidableEq

/-- The line that `process_mutations` appends. -/
structure MutationRecord where
  kind : String
  fitness : UInt64
  discoveredBy : String
  discoveredAt : DateTime
  timestamp : DateTime
  deriving DecidableEq

/-- A line of a log. -/
inductive Line where
  | heartbeat (heartbeat : Heartbeat)
  | threat (record : ThreatRecord)
  | mutation (record : MutationRecord)
  | gossip (record : GossipRecord)
  deriving DecidableEq

/-- What a write leaves in a log: a line, or a beginning of one that the next write continues. -/
inductive Entry where
  | line (line : Line)
  | fragment (line : Line)
  deriving DecidableEq

/-- The names on the way from the base directory to a file. -/
abbrev LogPath := List String

/-- One more component of a path, the last one first. -/
def resolveStep (path : List String) (name : String) : List String :=
  if name = "" ∨ name = "." then path
  else if name = ".." then
    match path with
    | [] => [".."]
    | last :: rest => if last = ".." then ".." :: path else rest
  else name :: path

/-- The file that a relative path leads to. -/
def resolve (path : String) : LogPath := ((split '/' path).foldl resolveStep []).reverse

/-- The log of an organism. -/
def fossilPath (organismId : String) : LogPath :=
  resolve ("fossil/organisms" ++ "/" ++ organismId ++ ".ndjson")

/-- `THREATS_FILE` -/
def threatsFile : LogPath := ["fossil", "threats", "threat_signatures.jsonl"]

/-- `MUTATIONS_FILE` -/
def mutationsFile : LogPath := ["fossil", "mutations", "fitness_archive.jsonl"]

/-- `GOSSIP_FILE` -/
def gossipFile : LogPath := ["fossil", "mesh", "gossip.ndjson"]

structure Disk where
  /-- `LIVE_ORGANISMS_FILE` -/
  organisms : JsonFile OrganismRegistry
  /-- `PEERS_FILE` -/
  peers : JsonFile MeshRegistry
  logs : LogPath → List Entry

/-- Where a JSON file is on the disk. -/
structure JsonPath (α : Type) where
  get : Disk → JsonFile α
  set : JsonFile α → Disk → Disk
  get_set : ∀ file disk, get (set file disk) = file

/-- `LIVE_ORGANISMS_FILE` -/
def liveOrganismsFile : JsonPath OrganismRegistry where
  get disk := disk.organisms
  set file disk := { disk with organisms := file }
  get_set _ _ := rfl

/-- `PEERS_FILE` -/
def peersFile : JsonPath MeshRegistry where
  get disk := disk.peers
  set file disk := { disk with peers := file }
  get_set _ _ := rfl

/-! ## Operations that can fail -/

inductive StorageError where
  | io
  /-- "Failed to parse JSON" -/
  | json
  deriving DecidableEq, Repr

abbrev World := FaultyIo.World Disk DateTime

/-- An operation of the storage. -/
abbrev Io (α : Type) := FaultyIo.Io Disk DateTime StorageError α

/-- `Utc::now` -/
def utcNow : Io DateTime := now

/-- `OpenOptions::new().create(true).append(true).open(path)?` -/
def openAppend : Io Unit := attempt .io

def Disk.append (disk : Disk) (path : LogPath) (entry : Entry) : Disk :=
  { disk with logs := Function.update disk.logs path (disk.logs path ++ [entry]) }

/-- A line at the end of a log. -/
def appendLine (path : LogPath) (line : Line) : Write Disk where
  whole disk := disk.append path (.line line)
  cut disk := disk.append path (.fragment line)

/-- A new content of a JSON file. -/
def replaceJson {α : Type} (path : JsonPath α) (value : α) : Write Disk where
  whole := path.set (.whole value)
  cut := path.set .torn

/-- `writeln!` to a log. -/
def writeLine (path : LogPath) (line : Line) : Io Unit := (appendLine path line).perform .io

/-- The value of a JSON file that was opened. -/
def JsonFile.parse {α : Type} : JsonFile α → Except StorageError α
  | .absent => .error .io
  | .torn => .error .json
  | .whole value => .ok value

/-- `read_json` -/
def readJson {α : Type} (path : JsonPath α) : Io α := do
  match ← nextOutcome with
  | .ok => fun w => ((path.get w.disk).parse, w)
  | .failed | .cutShort => fail .io

/-- `write_json` -/
def writeJson {α : Type} (path : JsonPath α) (value : α) : Io Unit := (replaceJson path value).perform .io

/-! ## Registries -/

/-- The entries that a JSON file holds; none, if it cannot be read as JSON. -/
def JsonFile.entries {V : Type} : JsonFile (AList fun _ : String => V) → AList fun _ : String => V
  | .absent => ∅
  | .torn => ∅
  | .whole registry => registry

/-- What the next read makes of a registry file. -/
def readEntries {V : Type} (path : JsonPath (AList fun _ : String => V)) (w : World) :
    AList fun _ : String => V :=
  if w.outcomes 0 = .ok then (path.get w.disk).entries else ∅

/-- A read whose errors count as an empty registry. -/
theorem readJson_unwrapOr {V : Type} (path : JsonPath (AList fun _ : String => V)) (w : World) :
    (readJson path).unwrapOr ∅ w = (.ok (readEntries path w), w.after w.disk 1 0) := by
  rw [Io.unwrapOr, readJson, nextOutcome_bind, readEntries]
  cases w.outcomes 0 with
  | ok =>
    simp only [World.after_disk, if_true]
    cases path.get w.disk <;> rfl
  | failed => rfl
  | cutShort => rfl

/-- From a file that cannot be read, or is torn, no entries are read. -/
theorem readEntries_eq_empty {V : Type} {path : JsonPath (AList fun _ : String => V)} {w : World}
    (h : ¬ (w.outcomes 0 = .ok ∧ path.get w.disk ≠ .torn)) : readEntries path w = ∅ := by
  by_cases hread : w.outcomes 0 = .ok
  · rw [readEntries, if_pos hread]
    cases hfile : path.get w.disk with
    | absent => rfl
    | torn => rfl
    | whole registry => exact absurd ⟨hread, by simp [hfile]⟩ h
  · exact if_neg hread

/-! ## Heartbeats -/

/-- The registry entry that `update_live_registry` inserts. -/
def liveOrganism (heartbeat : Heartbeat) : LiveOrganism where
  organismId := heartbeat.organismId
  habitat := heartbeat.habitat
  lastHeartbeat := heartbeat.timestamp
  isAlive := true
  continuityEpoch := heartbeat.state.continuityEpoch

/-- `update_live_registry` -/
def updateLiveRegistry (heartbeat : Heartbeat) : Io Unit := do
  let registry ← (readJson liveOrganismsFile).unwrapOr ∅
  writeJson liveOrganismsFile (registry.insert heartbeat.organismId (liveOrganism heartbeat))

/-- One round of the loop of `process_threats`. -/
def processThreat (heartbeat : Heartbeat) (threat : ThreatSignal) : Io Unit := do
  openAppend
  let now ← utcNow
  writeLine threatsFile (.threat
    { threatId := threat.threatId
      severity := threat.severity
      discoveredBy := heartbeat.organismId
      firstSeen := threat.firstSeen
      count := threat.count
      timestamp := now })

/-- `process_threats` -/
def processThreats (heartbeat : Heartbeat) : Io Unit :=
  heartbeat.immuneSignals.forM (processThreat heartbeat)

/-- One round of the loop of `process_mutations`. -/
def processMutation (heartbeat : Heartbeat) (mutation : Mutation) : Io Unit := do
  openAppend
  let now ← utcNow
  writeLine mutationsFile (.mutation
    { kind := mutation.kind
      fitness := mutation.fitness
      discoveredBy := heartbeat.organismId
      discoveredAt := mutation.discoveredAt
      timestamp := now })

/-- `process_mutations` -/
def processMutations (heartbeat : Heartbeat) : Io Unit :=
  heartbeat.mutations.forM (processMutation heartbeat)

/-- `store_heartbeat` -/
def storeHeartbeat (heartbeat : Heartbeat) : Io Unit := do
  openAppend
  writeLine (fossilPath heartbeat.organismId) (.heartbeat heartbeat)
  updateLiveRegistry heartbeat
  processThreats heartbeat
  processMutations heartbeat

/-! ## Peers and gossip -/

/-- The eviction policy: a peer is kept for an hour. -/
def keepPeer (now : DateTime) (peer : MeshPeer) : Bool := now.numSecondsSince peer.lastSeen ≤ 3600

/-- `get_mesh_registry` -/
def getMeshRegistry : Io MeshRegistry := do
  let registry ← (readJson peersFile).unwrapOr ∅
  let now ← utcNow
  let kept := retain (fun _ peer => keepPeer now peer) registry
  if kept.entries.length < registry.entries.length then
    writeJson peersFile kept
  pure kept

/-- The record of a registered peer. -/
def meshPeer (peer : PeerRegistration) (now : DateTime) : Option MeshPeer → MeshPeer
  | some existing =>
    { existing with
      address := peer.address
      role := peer.role
      lastSeen := now
      heartbeatCount := existing.heartbeatCount + 1 }
  | none =>
    { peerId := peer.peerId
      address := peer.address
      role := peer.role
      firstSeen := now
      lastSeen := now
      heartbeatCount := 1 }

/-- `register_peer` -/
def registerPeer (peer : PeerRegistration) : Io MeshPeer := do
  let registry ← getMeshRegistry
  let now ← utcNow
  let record := meshPeer peer now (registry.lookup peer.peerId)
  writeJson peersFile (registry.insert peer.peerId record)
  pure record

/-- `store_gossip` -/
def storeGossip (gossip : GossipEnvelope) : Io MeshPeer := do
  let registered ← registerPeer gossip.fromPeer
  openAppend
  let now ← utcNow
  writeLine gossipFile (.gossip
    { gossipId := gossip.gossipId
      fromPeer := gossip.fromPeer
      observedThreats := gossip.observedThreats
      observedOrganisms := gossip.observedOrganisms
      sentAt := gossip.sentAt
      receivedAt := now })
  pure registered

end OperatingOrganism.ColonyServer

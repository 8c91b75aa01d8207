import Mathlib.Algebra.GroupWithZero.Nat
import Mathlib.Data.Int.Init
import Mathlib.Data.List.AList

/-!
# The data of the colony server

The records that the organisms and the nodes of the mesh exchange, and those that a node keeps on disk.

An instant is a number of nanoseconds since the Unix epoch, within the range of the calendar that the
server uses. A floating point number is kept as its 64 bits: the server stores it and computes nothing
from it.
-/

set_option autoImplicit false

namespace OperatingOrganism.ColonyServer

/-! ## Time -/

/-- The first second of the calendar. -/
def minSeconds : Int := -8334601228800

/-- The last second of the calendar. -/
def maxSeconds : Int := 8210266876799

/-- `DateTime<Utc>`. -/
structure DateTime where
  nanos : Int
  min_le : minSeconds * 1000000000 ≤ nanos
  lt_max : nanos < (maxSeconds + 1) * 1000000000
  deriving DecidableEq

namespace DateTime

/-- `timestamp`: whole seconds since the epoch, rounded down. -/
def timestamp (t : DateTime) : Int := t.nanos / 1000000000

/-- `timestamp_millis`. -/
def timestampMillis (t : DateTime) : Int := t.nanos / 1000000

/-- `(t - s).num_seconds()`: whole seconds, rounded towards zero. -/
def numSecondsSince (t s : DateTime) : Int := (t.nanos - s.nanos).tdiv 1000000000

instance : LE DateTime := ⟨fun s t => s.nanos ≤ t.nanos⟩

theorem timestamp_mono {s t : DateTime} (h : s ≤ t) : s.timestamp ≤ t.timestamp :=
  Int.ediv_le_ediv (by decide) h

instance neZero_seconds : NeZero 8000000000 := ⟨Nat.succ_ne_zero 7999999999⟩

/-- The beginning of a second of the twenty-first century and after. -/
def ofSeconds (n : Fin 8000000000) : DateTime where
  nanos := n.val * 1000000000
  min_le := by
    simp only [minSeconds]
    omega
  lt_max := by
    simp only [maxSeconds]
    omega

end DateTime

/-! ## Heartbeats -/

/-- `GoalCounts` -/
structure GoalCounts where
  pending : UInt64
  doing : UInt64
  done : UInt64
  blocked : UInt64
  aborted : UInt64
  deriving DecidableEq

/-- `OrganismState` -/
structure OrganismState where
  continuityEpoch : UInt64
  mode : String
  policyEnforcement : String
  goalCounts : GoalCounts
  deriving DecidableEq

/-- `ThreatSignal` -/
structure ThreatSignal where
  threatId : String
  severity : String
  firstSeen : DateTime
  count : UInt64
  deriving DecidableEq

/-- `Mutation` -/
structure Mutation where
  kind : String
  fitness : UInt64
  discoveredAt : DateTime
  deriving DecidableEq

/-- `Heartbeat` -/
structure Heartbeat where
  organismId : String
  habitat : String
  timestamp : DateTime
  state : OrganismState
  immuneSignals : List ThreatSignal
  mutations : List Mutation
  deriving DecidableEq

/-- `LiveOrganism` -/
structure LiveOrganism where
  organismId : String
  habitat : String
  lastHeartbeat : DateTime
  isAlive : Bool
  continuityEpoch : UInt64
  deriving DecidableEq

/-- The `organisms` of an `OrganismRegistry`. -/
abbrev OrganismRegistry := AList fun _ : String => LiveOrganism

/-! ## The mesh -/

/-- `NodeProfile`, without the times that only the status page shows. -/
structure NodeProfile where
  nodeId : String
  role : String
  bindAddr : String
  deriving DecidableEq

/-- `PeerRegistration` -/
structure PeerRegistration where
  peerId : String
  address : String
  role : String
  deriving DecidableEq

/-- `GossipEnvelope` -/
structure GossipEnvelope where
  gossipId : String
  ttlHops : UInt8
  fromPeer : PeerRegistration
  observedThreats : List String
  observedOrganisms : UInt64
  sentAt : DateTime
  hmacSha256 : Option String
  deriving DecidableEq

/-- `GossipAck` -/
structure GossipAck where
  status : String
  localNodeId : String
  gossipId : String
  duplicate : Bool
  relayed : Bool
  ttlHopsRemaining : UInt8
  knownPeerCount : Nat
  receivedAt : DateTime
  deriving DecidableEq

/-- `MeshPeer` -/
structure MeshPeer where
  peerId : String
  address : String
  role : String
  firstSeen : DateTime
  lastSeen : DateTime
  heartbeatCount : UInt64
  deriving DecidableEq

/-- The `peers` of a `MeshRegistry`. -/
abbrev MeshRegistry := AList fun _ : String => MeshPeer

/-! ## Maps -/

section Map

variable {V : Type}

/-- `HashMap::retain` -/
def retain (f : String → V → Bool) (m : AList fun _ : String => V) : AList fun _ : String => V :=
  ⟨m.entries.filter fun e => f e.1 e.2, m.nodupKeys.sublist List.filter_sublist⟩

/-- An entry is kept if it was there and passes the test. -/
theorem mem_lookup_retain {f : String → V → Bool} {m : AList fun _ : String => V} {k : String} {v : V} :
    v ∈ (retain f m).lookup k ↔ v ∈ m.lookup k ∧ f k v := by
  rw [AList.mem_lookup_iff, AList.mem_lookup_iff, retain, List.mem_filter]

/-- What passes the test is kept. -/
theorem lookup_retain_of_true {f : String → V → Bool} {m : AList fun _ : String => V} {k : String}
    {v : V} (h : m.lookup k = some v) (hf : f k v) : (retain f m).lookup k = some v :=
  mem_lookup_retain.2 ⟨h, hf⟩

end Map

end OperatingOrganism.ColonyServer

import Mathlib.Data.List.TakeWhile
import OperatingOrganism.Bot.ThreatState
import OperatingOrganism.Library.Execution
import OperatingOrganism.Library.Pool
import OperatingOrganism.Library.RingLog

/-!
# The map of the territory

What the bot has seen: processes, connections, files and memory regions, each in a pool of fixed size, and a ring
of the last anomalies. The static counter that stands for the clock is kept with the map. Left out are the fields
that the functions only clear (hashes, labels, domains, flags of processes) and the printed summary.
-/

set_option autoImplicit false

namespace OperatingOrganism.Bot

open OperatingOrganism.Execution

def territoryMaxProcesses : Nat := 512
def territoryMaxConnections : Nat := 256
def territoryMaxWatchedFiles : Nat := 64
def territoryMaxMemRegions : Nat := 128
def territoryMaxAnomalies : Nat := 256

inductive ElemStatus where
  | unknown | trusted | grey | suspicious | hostile | quarantine
  deriving DecidableEq, Repr

/-- The characters of a string before its NUL. -/
abbrev CString := { text : List Char // ∀ c ∈ text, c.toNat ≠ 0 }

structure MappedProcess where
  pid : UInt32
  ppid : UInt32
  name : List Char
  path : List Char
  firstSeen : UInt64
  lastSeen : UInt64
  observationCount : UInt32
  status : ElemStatus
  deriving DecidableEq

/-- Of the 16 bytes of the address, the functions use four. -/
structure MappedConnection where
  remoteIp : Vector UInt8 4
  remotePort : UInt16
  status : ElemStatus
  owningPid : UInt32
  bytesSent : UInt64
  connectionCount : UInt64
  lastSeen : UInt64
  deriving DecidableEq

structure WatchedFile where
  path : List Char
  lastVerified : UInt64
  isIntact : UInt8
  isCritical : UInt8
  deriving DecidableEq

structure MappedMemRegion where
  baseAddr : UInt64
  size : UInt64
  owningPid : UInt32
  isExecutable : UInt8
  isWritable : UInt8
  status : ElemStatus
  deriving DecidableEq

structure TerritoryAnomaly where
  timestamp : UInt64
  pid : UInt32
  anomalyType : UInt8
  severity : UInt8
  description : List Char
  deriving DecidableEq

def anomalyNewProcess : UInt8 := 1
def anomalyUnknownConnection : UInt8 := 2
def anomalyMemExecWrite : UInt8 := 4

structure TerritoryMap where
  processes : Pool MappedProcess territoryMaxProcesses
  connections : Pool MappedConnection territoryMaxConnections
  watchedFiles : Pool WatchedFile territoryMaxWatchedFiles
  memRegions : Pool MappedMemRegion territoryMaxMemRegions
  anomalies : RingLog TerritoryAnomaly territoryMaxAnomalies
  baselineReady : UInt8
  baselineTime : UInt64
  totalObservations : UInt64
  totalAnomalies : UInt64
  /-- the static counter of `_now_placeholder` -/
  clock : UInt64

namespace TerritoryMap

/-- `territory_map_init`, on a map that is not null; the clock goes on. -/
def initAt (clock : UInt64) : TerritoryMap where
  processes := .empty
  connections := .empty
  watchedFiles := .empty
  memRegions := .empty
  anomalies := .empty _ { timestamp := 0, pid := 0, anomalyType := 0, severity := 0, description := [] }
  baselineReady := 0
  baselineTime := 0
  totalObservations := 0
  totalAnomalies := 0
  clock := clock

/-- `territory_record_anomaly`; without a description, the slot keeps the text that it had. -/
def recordAnomaly (map : TerritoryMap) (type severity : UInt8) (pid : UInt32) (description : Option (List Char)) :
    TerritoryMap :=
  let now := map.clock + 1
  { map with
    clock := now
    anomalies := map.anomalies.record fun a =>
      { timestamp := now
        pid := pid
        anomalyType := type
        severity := severity
        description :=
          match description with
          | some text => copiedText 128 text
          | none => a.description }
    totalAnomalies := map.totalAnomalies + 1 }

/-- `territory_last_anomaly` -/
def lastAnomaly (map : TerritoryMap) : Option TerritoryAnomaly := map.anomalies.last?

/-- The entry of a new process. -/
def newProcess (now : UInt64) (pid ppid : UInt32) (name path : Option CString) : MappedProcess where
  pid := pid
  ppid := ppid
  name := (name.map fun text => copiedText 64 text.1).getD []
  path := (path.map fun text => copiedText 256 text.1).getD []
  firstSeen := now
  lastSeen := now
  observationCount := 1
  status := .unknown

/-- `territory_observe_process`, with the place of the entry that the returned pointer leads to. -/
def observeProcess (map : TerritoryMap) (pid ppid : UInt32) (name path : Option CString) :
    TerritoryMap × Option Nat :=
  let now := map.clock + 1
  match map.processes.find? (fun p => p.pid = pid) with
  | some i =>
    ({ map with
        clock := now
        processes := map.processes.modify i fun p =>
          { p with lastSeen := now, observationCount := p.observationCount + 1 }
        totalObservations := map.totalObservations + 1 }, some i)
  | none =>
    match map.processes.push? (newProcess now pid ppid name path) with
    | none => (map, none)
    | some processes =>
      let map :=
        { map with clock := now, processes := processes, totalObservations := map.totalObservations + 1 }
      (map.recordAnomaly anomalyNewProcess 3 pid (some ((name.map Subtype.val).getD "unknown".toList)),
        some (processes.entries.length - 1))

/-- `territory_mark_process` -/
def markProcess (map : TerritoryMap) (pid : UInt32) (status : ElemStatus) : TerritoryMap :=
  match map.processes.find? (fun p => p.pid = pid) with
  | some i => { map with processes := map.processes.modify i fun p => { p with status := status } }
  | none => map

/-- `New connection to %u.%u.%u.%u:%u` -/
def connectionText (ip : Vector UInt8 4) (port : UInt16) : List Char :=
  "New connection to ".toList ++ Nat.toDigits 10 ip[0].toNat ++ ['.'] ++ Nat.toDigits 10 ip[1].toNat ++ ['.'] ++
    Nat.toDigits 10 ip[2].toNat ++ ['.'] ++ Nat.toDigits 10 ip[3].toNat ++ [':'] ++ Nat.toDigits 10 port.toNat

/-- The entry of a new connection. -/
def newConnection (now : UInt64) (pid : UInt32) (ip : Vector UInt8 4) (remotePort : UInt16) (bytesSent : UInt64) :
    MappedConnection where
  remoteIp := ip
  remotePort := remotePort
  status := .unknown
  owningPid := pid
  bytesSent := bytesSent
  connectionCount := 1
  lastSeen := now

/-- `territory_observe_connection`, with the place of the entry. -/
def observeConnection (map : TerritoryMap) (pid : UInt32) (remoteIp : Option (Vector UInt8 4))
    (remotePort : UInt16) (bytesSent : UInt64) : TerritoryMap × Option Nat :=
  match remoteIp with
  | none => (map, none)
  | some ip =>
    let now := map.clock + 1
    match map.connections.find? (fun c => c.remotePort = remotePort && c.remoteIp = ip) with
    | some i =>
      ({ map with
          clock := now
          connections := map.connections.modify i fun c =>
            { c with
              connectionCount := c.connectionCount + 1
              bytesSent := c.bytesSent + bytesSent
              lastSeen := now
              owningPid := pid }
          totalObservations := map.totalObservations + 1 }, some i)
    | none =>
      match map.connections.push? (newConnection now pid ip remotePort bytesSent) with
      | none => (map, none)
      | some connections =>
        let map :=
          { map with clock := now, connections := connections, totalObservations := map.totalObservations + 1 }
        (map.recordAnomaly anomalyUnknownConnection 2 pid (some (copiedText 64 (connectionText ip remotePort))),
          some (connections.entries.length - 1))

/-- `territory_watch_file`, with its return code. -/
def watchFile (map : TerritoryMap) (path : Option CString) (isCritical : UInt8) : TerritoryMap × Int :=
  match path with
  | none => (map, -1)
  | some path =>
    let now := map.clock + 1
    let file : WatchedFile :=
      { path := copiedText 256 path.1, lastVerified := now, isIntact := 1, isCritical := isCritical }
    match map.watchedFiles.push? file with
    | none => (map, -1)
    | some watchedFiles => ({ map with clock := now, watchedFiles := watchedFiles }, 0)

/-- `territory_verify_files` -/
def verifyFiles (map : TerritoryMap) : Nat := map.watchedFiles.entries.countP fun f => f.isIntact = 0

/-- The entry of a new region. -/
def newRegion (base size : UInt64) (pid : UInt32) (exec write : UInt8) : MappedMemRegion where
  baseAddr := base
  size := size
  owningPid := pid
  isExecutable := exec
  isWritable := write
  status := if exec ≠ 0 ∧ write ≠ 0 then .suspicious else .unknown

/-- `territory_observe_mem`, with the place of the entry. -/
def observeMem (map : TerritoryMap) (base size : UInt64) (pid : UInt32) (exec write : UInt8) :
    TerritoryMap × Option Nat :=
  match map.memRegions.find? (fun r => r.baseAddr = base && r.owningPid = pid) with
  | some i =>
    let becameBoth : Bool :=
      match map.memRegions.entries[i]? with
      | some r => exec ≠ 0 && write ≠ 0 && (r.isExecutable = 0 || r.isWritable = 0)
      | none => false
    let map :=
      if becameBoth then
        { map with memRegions := map.memRegions.modify i fun r => { r with status := .suspicious } }.recordAnomaly
          anomalyMemExecWrite 7 pid (some "Region became W+X".toList)
      else map
    ({ map with memRegions := map.memRegions.modify i fun r => { r with isExecutable := exec, isWritable := write } },
      some i)
  | none =>
    match map.memRegions.push? (newRegion base size pid exec write) with
    | none => (map, none)
    | some memRegions =>
      let map := { map with memRegions := memRegions }
      let map :=
        if exec ≠ 0 ∧ write ≠ 0 then
          map.recordAnomaly anomalyMemExecWrite 8 pid (some "New W+X region — possible shellcode".toList)
        else map
      ({ map with totalObservations := map.totalObservations + 1 }, some (memRegions.entries.length - 1))

/-- What is unknown becomes trusted. -/
def baselineStatus (status : ElemStatus) : ElemStatus := if status = .unknown then .trusted else status

/-- `territory_establish_baseline` -/
def establishBaseline (map : TerritoryMap) : TerritoryMap :=
  let now := map.clock + 1
  { map with
    clock := now
    baselineReady := 1
    baselineTime := now
    processes := map.processes.map fun p => { p with status := baselineStatus p.status }
    connections := map.connections.map fun c => { c with status := baselineStatus c.status }
    memRegions := map.memRegions.map fun r => { r with status := baselineStatus r.status } }

end TerritoryMap

/-- The calls on a map. -/
inductive TerritoryOp where
  | init
  | observeProcess (pid ppid : UInt32) (name path : Option CString)
  | markProcess (pid : UInt32) (status : ElemStatus)
  | observeConnection (pid : UInt32) (remoteIp : Option (Vector UInt8 4)) (remotePort : UInt16) (bytesSent : UInt64)
  | watchFile (path : Option CString) (isCritical : UInt8)
  | verifyFiles
  | observeMem (base size : UInt64) (pid : UInt32) (exec write : UInt8)
  | recordAnomaly (type severity : UInt8) (pid : UInt32) (description : Option CString)
  | establishBaseline

def TerritoryOp.run (map : TerritoryMap) : TerritoryOp → TerritoryMap
  | .init => .initAt map.clock
  | .observeProcess pid ppid name path => (map.observeProcess pid ppid name path).1
  | .markProcess pid status => map.markProcess pid status
  | .observeConnection pid remoteIp remotePort bytesSent =>
    (map.observeConnection pid remoteIp remotePort bytesSent).1
  | .watchFile path isCritical => (map.watchFile path isCritical).1
  | .verifyFiles => map
  | .observeMem base size pid exec write => (map.observeMem base size pid exec write).1
  | .recordAnomaly type severity pid description =>
    map.recordAnomaly type severity pid (description.map Subtype.val)
  | .establishBaseline => map.establishBaseline

def TerritoryStep (map : TerritoryMap) (op : TerritoryOp) (map' : TerritoryMap) : Prop := map' = op.run map

/-- A map after its first `territory_map_init`. -/
def territoryMapInit : TerritoryMap := .initAt 0

/-- The run of a list of calls. -/
def territoryRun (ops : List TerritoryOp) : List (TerritoryOp × TerritoryMap) :=
  driven TerritoryOp.run territoryMapInit ops

theorem exec_territoryRun (ops : List TerritoryOp) : Exec TerritoryStep territoryMapInit (territoryRun ops) :=
  @exec_driven _ _ TerritoryStep TerritoryOp.run (fun _ _ => rfl) territoryMapInit ops

/-! ### The anomalies -/

/-- `copiedText` keeps a string that fits. -/
theorem copiedText_of_lt {size : Nat} {text : List Char} (hnul : ∀ c ∈ text, c.toNat ≠ 0)
    (hlt : text.length < size) : copiedText size text = text := by
  rw [copiedText, List.take_of_length_le (Nat.le_sub_one_of_lt hlt), List.takeWhile_eq_self_iff]
  intro c hc
  exact decide_eq_true (hnul c hc)

/-- The anomaly that `territory_record_anomaly` was given is the last one. -/
theorem lastAnomaly_recordAnomaly (map : TerritoryMap) (type severity : UInt8) (pid : UInt32) (text : List Char) :
    (map.recordAnomaly type severity pid (some text)).lastAnomaly =
      some ⟨map.clock + 1, pid, type, severity, copiedText 128 text⟩ := by
  obtain ⟨slot, -, hlast⟩ := map.anomalies.last?_record
    (fun _ => ⟨map.clock + 1, pid, type, severity, copiedText 128 text⟩)
    (by decide) (by decide) (by decide)
  exact hlast

@[simp] theorem processes_recordAnomaly (map : TerritoryMap) (type severity : UInt8) (pid : UInt32)
    (description : Option (List Char)) :
    (map.recordAnomaly type severity pid description).processes = map.processes := rfl

/-! ### Processes -/

/-- What an observation of a process does: it touches the entry of the pid, finds no place for a new one, or adds it
and records the anomaly. -/
theorem observeProcess_cases (map : TerritoryMap) (pid ppid : UInt32) (name path : Option CString) :
    (∃ i, map.processes.find? (fun p => p.pid = pid) = some i ∧
      map.observeProcess pid ppid name path =
        ({ map with
            clock := map.clock + 1
            processes := map.processes.modify i fun p =>
              { p with lastSeen := map.clock + 1, observationCount := p.observationCount + 1 }
            totalObservations := map.totalObservations + 1 }, some i)) ∨
    (map.processes.find? (fun p => p.pid = pid) = none ∧
      ((¬ map.processes.entries.length < territoryMaxProcesses ∧
          map.observeProcess pid ppid name path = (map, none)) ∨
        ∃ processes, map.processes.entries.length < territoryMaxProcesses ∧
          map.processes.push? (TerritoryMap.newProcess (map.clock + 1) pid ppid name path) = some processes ∧
          map.observeProcess pid ppid name path =
            ({ map with
                clock := map.clock + 1
                processes := processes
                totalObservations := map.totalObservations + 1 }.recordAnomaly anomalyNewProcess 3 pid
                  (some ((name.map Subtype.val).getD "unknown".toList)),
              some (processes.entries.length - 1)))) := by
  cases hfind : map.processes.find? (fun p => p.pid = pid) with
  | some i => exact .inl ⟨i, rfl, by simp only [TerritoryMap.observeProcess, hfind]⟩
  | none =>
    refine .inr ⟨rfl, ?_⟩
    by_cases hroom : map.processes.entries.length < territoryMaxProcesses
    · obtain ⟨processes, hpush, -⟩ :=
        Pool.push?_of_lt (TerritoryMap.newProcess (map.clock + 1) pid ppid name path) hroom
      exact .inr ⟨processes, hroom, hpush, by simp only [TerritoryMap.observeProcess, hfind, hpush]⟩
    · exact .inl ⟨hroom, by simp only [TerritoryMap.observeProcess, hfind, Pool.push?_of_not_lt _ hroom]⟩

end OperatingOrganism.Bot

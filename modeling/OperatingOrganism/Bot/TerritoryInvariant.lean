import OperatingOrganism.Bot.TerritoryTrust

/-!
# What holds of every map

The searches before an entry is added keep the pids, the pairs of address and port and the pairs of base and pid
apart; a region that may be written and executed is suspicious from the call that made it so, and the baseline trusts
only what is unknown. With the map goes a chronicle of the anomalies since its initialization (`writtenAnomaly`,
`anomaly?`): the ring returns the last of them, and counts them up to its slots. The counter of their total has 64
bits, and the two counts agree if and only if its wrap goes unnoticed (`inGoodOrder_run`).
-/

set_option autoImplicit false

namespace OperatingOrganism.Bot

open OperatingOrganism.Execution

def MappedConnection.key (c : MappedConnection) : Vector UInt8 4 × UInt16 := (c.remoteIp, c.remotePort)

def MappedMemRegion.key (r : MappedMemRegion) : UInt64 × UInt32 := (r.baseAddr, r.owningPid)

/-! ### The chronicle -/

namespace TerritoryMap

/-- The anomaly that `territory_record_anomaly` writes. -/
def writtenAnomaly (map : TerritoryMap) (type severity : UInt8) (pid : UInt32) (description : Option (List Char)) :
    TerritoryAnomaly where
  timestamp := map.clock + 1
  pid := pid
  anomalyType := type
  severity := severity
  description :=
    match description with
    | some text => copiedText 128 text
    | none => (map.anomalies.current?.map TerritoryAnomaly.description).getD []

/-- The clock of the call has been read. -/
def ticked (map : TerritoryMap) : TerritoryMap := { map with clock := map.clock + 1 }

end TerritoryMap

/-- The anomaly that a call records, if any. -/
def TerritoryOp.anomaly? (map : TerritoryMap) : TerritoryOp → Option TerritoryAnomaly
  | .observeProcess pid _ name _ =>
    if map.processes.find? (fun p => p.pid = pid) = none ∧ map.processes.entries.length < territoryMaxProcesses then
      some (map.ticked.writtenAnomaly anomalyNewProcess 3 pid (some ((name.map Subtype.val).getD "unknown".toList)))
    else none
  | .observeConnection pid (some ip) port _ =>
    if map.connections.find? (fun c => c.remotePort = port && c.remoteIp = ip) = none ∧
        map.connections.entries.length < territoryMaxConnections then
      some (map.ticked.writtenAnomaly anomalyUnknownConnection 2 pid
        (some (copiedText 64 (TerritoryMap.connectionText ip port))))
    else none
  | .observeMem base _ pid exec write =>
    if exec ≠ 0 ∧ write ≠ 0 then
      match map.memRegions.find? (fun r => r.baseAddr = base && r.owningPid = pid) with
      | some i =>
        match map.memRegions.entries[i]? with
        | some r =>
          if r.isExecutable = 0 ∨ r.isWritable = 0 then
            some (map.writtenAnomaly anomalyMemExecWrite 7 pid (some "Region became W+X".toList))
          else none
        | none => none
      | none =>
        if map.memRegions.entries.length < territoryMaxMemRegions then
          some (map.writtenAnomaly anomalyMemExecWrite 8 pid (some "New W+X region — possible shellcode".toList))
        else none
    else none
  | .recordAnomaly type severity pid description =>
    some (map.writtenAnomaly type severity pid (description.map Subtype.val))
  | _ => none

/-- A map with the anomalies since its initialization, the oldest first. -/
abbrev TerritoryChronicle := TerritoryMap × List TerritoryAnomaly

/-- A call, whose anomaly is written down. -/
def TerritoryOp.chronicled (st : TerritoryChronicle) (op : TerritoryOp) : TerritoryChronicle :=
  (op.run st.1,
    match op with
    | .init => []
    | op => st.2 ++ (op.anomaly? st.1).toList)

def ChronicleStep (st : TerritoryChronicle) (op : TerritoryOp) (st' : TerritoryChronicle) : Prop :=
  st' = op.chronicled st

/-- The run of a list of calls on a map after its first `territory_map_init`. -/
def chronicleRun (ops : List TerritoryOp) : List (TerritoryOp × TerritoryChronicle) :=
  driven TerritoryOp.chronicled (territoryMapInit, []) ops

theorem exec_chronicleRun (ops : List TerritoryOp) : Exec ChronicleStep (territoryMapInit, []) (chronicleRun ops) :=
  @exec_driven _ _ ChronicleStep TerritoryOp.chronicled (fun _ _ => rfl) (territoryMapInit, []) ops

/-! ### The property and the invariant -/

/-- What is on the map is there once, within the limits. -/
structure EachOnce (map : TerritoryMap) : Prop where
  pids : map.processes.DistinctKeys MappedProcess.pid
  pairs : map.connections.DistinctKeys MappedConnection.key
  regions : map.memRegions.DistinctKeys MappedMemRegion.key

structure WithinLimits (map : TerritoryMap) : Prop where
  processes : map.processes.entries.length ≤ territoryMaxProcesses
  connections : map.connections.entries.length ≤ territoryMaxConnections
  memRegions : map.memRegions.entries.length ≤ territoryMaxMemRegions

/-- Every region that is both writable and executable is suspicious. -/
def BothSuspicious (map : TerritoryMap) : Prop :=
  ∀ r ∈ map.memRegions.entries, r.isWritable ≠ 0 → r.isExecutable ≠ 0 → r.status = .suspicious

/-- The number of anomalies in the ring is the total, up to the slots. -/
def CountsAgree (map : TerritoryMap) : Prop :=
  map.anomalies.count.toNat = min map.totalAnomalies.toNat territoryMaxAnomalies

structure InGoodOrder (st : TerritoryChronicle) : Prop where
  once : EachOnce st.1
  limits : WithinLimits st.1
  suspicious : BothSuspicious st.1
  last : st.1.lastAnomaly = st.2.getLast?

/-- The total stands for a number that is below `2 ^ 64`, or leaves a remainder that fills the ring as well. -/
def WrapUnnoticed (st : TerritoryChronicle) : Prop :=
  st.2.length < 2 ^ 64 ∨ territoryMaxAnomalies ≤ st.2.length % 2 ^ 64

/-- The two counters count the chronicle. -/
structure Counted (st : TerritoryChronicle) : Prop where
  ring : st.1.anomalies.count.toNat = min st.2.length territoryMaxAnomalies
  total : st.1.totalAnomalies.toNat = st.2.length % 2 ^ 64

theorem Counted.agree_iff {st : TerritoryChronicle} (h : Counted st) : CountsAgree st.1 ↔ WrapUnnoticed st := by
  rw [CountsAgree, WrapUnnoticed, h.ring, h.total, territoryMaxAnomalies]
  omega

/-! ### What a call does to the anomalies -/

/-- A call writes at most one anomaly, which the ring then returns and the total counts. -/
def Chronicles (map map' : TerritoryMap) : Option TerritoryAnomaly → Prop
  | none => map'.anomalies = map.anomalies ∧ map'.totalAnomalies = map.totalAnomalies
  | some a => (∃ rewrite, map'.anomalies = map.anomalies.record rewrite) ∧
      map'.totalAnomalies = map.totalAnomalies + 1 ∧ map'.lastAnomaly = some a

/-- The rest of the maps does not matter. -/
theorem Chronicles.frame {map map' map₁ map₁' : TerritoryMap} {a : Option TerritoryAnomaly}
    (h : Chronicles map₁ map₁' a)
    (hbefore : (map.anomalies, map.totalAnomalies) = (map₁.anomalies, map₁.totalAnomalies))
    (hafter : (map'.anomalies, map'.totalAnomalies) = (map₁'.anomalies, map₁'.totalAnomalies)) :
    Chronicles map map' a := by
  rw [Prod.mk.injEq] at hbefore hafter
  cases a with
  | none => exact ⟨by rw [hbefore.1, hafter.1, h.1], by rw [hbefore.2, hafter.2, h.2]⟩
  | some a =>
    obtain ⟨⟨rewrite, hrecord⟩, htotal, hlast⟩ := h
    refine ⟨⟨rewrite, by rw [hbefore.1, hafter.1, hrecord]⟩, by rw [hbefore.2, hafter.2, htotal], ?_⟩
    rw [TerritoryMap.lastAnomaly, hafter.1]
    exact hlast

namespace TerritoryMap

theorem recordAnomaly_chronicles (map : TerritoryMap) (type severity : UInt8) (pid : UInt32)
    (description : Option (List Char)) :
    Chronicles map (map.recordAnomaly type severity pid description)
      (some (map.writtenAnomaly type severity pid description)) := by
  refine ⟨⟨_, rfl⟩, rfl, ?_⟩
  obtain ⟨slot, hslot, hlast⟩ := map.anomalies.last?_record
    (fun a => ⟨map.clock + 1, pid, type, severity,
      match description with
      | some text => copiedText 128 text
      | none => a.description⟩)
    (by decide) (by decide) (by decide)
  refine hlast.trans ?_
  cases description with
  | none => simp only [writtenAnomaly, hslot, Option.map_some, Option.getD_some]
  | some text => rfl

theorem observeConnection_chronicles (map : TerritoryMap) (pid : UInt32) (ip : Vector UInt8 4) (port : UInt16)
    (bytesSent : UInt64) :
    Chronicles map (map.observeConnection pid (some ip) port bytesSent).1
      (TerritoryOp.anomaly? map (.observeConnection pid (some ip) port bytesSent)) := by
  cases hfind : map.connections.find? (fun c => c.remotePort = port && c.remoteIp = ip) with
  | some i =>
    simp only [observeConnection, TerritoryOp.anomaly?, hfind]
    exact ⟨rfl, rfl⟩
  | none =>
    by_cases hroom : map.connections.entries.length < territoryMaxConnections
    · obtain ⟨connections, hpush, -⟩ := Pool.push?_of_lt (newConnection (map.clock + 1) pid ip port bytesSent) hroom
      simp only [observeConnection, TerritoryOp.anomaly?, hfind, hpush, hroom, and_self, if_true]
      exact recordAnomaly_chronicles { map.ticked with
        connections := connections, totalObservations := map.totalObservations + 1 } _ _ _ _
    · simp only [observeConnection, TerritoryOp.anomaly?, hfind, Pool.push?_of_not_lt _ hroom, hroom, and_false,
        if_false]
      exact ⟨rfl, rfl⟩

theorem observeProcess_chronicles (map : TerritoryMap) (pid ppid : UInt32) (name path : Option CString) :
    Chronicles map (map.observeProcess pid ppid name path).1
      (TerritoryOp.anomaly? map (.observeProcess pid ppid name path)) := by
  rcases observeProcess_cases map pid ppid name path with
    ⟨i, hfind, heq⟩ | ⟨hfind, ⟨hfull, heq⟩ | ⟨processes, hroom, -, heq⟩⟩
  · rw [heq, TerritoryOp.anomaly?, hfind, if_neg fun h => Option.some_ne_none _ h.1]
    exact ⟨rfl, rfl⟩
  · rw [heq, TerritoryOp.anomaly?, if_neg fun h => hfull h.2]
    exact ⟨rfl, rfl⟩
  · rw [heq, TerritoryOp.anomaly?, if_pos ⟨hfind, hroom⟩]
    exact recordAnomaly_chronicles { map.ticked with
      processes := processes, totalObservations := map.totalObservations + 1 } _ _ _ _

/-- The region was not yet both writable and executable, and now it is. -/
def BecomesBoth (r : MappedMemRegion) (exec write : UInt8) : Prop :=
  (exec ≠ 0 ∧ write ≠ 0) ∧ (r.isExecutable = 0 ∨ r.isWritable = 0)

def suspect (r : MappedMemRegion) : MappedMemRegion := { r with status := .suspicious }

def permitted (exec write : UInt8) (r : MappedMemRegion) : MappedMemRegion :=
  { r with isExecutable := exec, isWritable := write }

/-- What an observation of a region does: it gives the entry its new permissions, and raises the alarm when it now
has both; it finds no place for a new one; or it adds it. -/
theorem observeMem_cases (map : TerritoryMap) (base size : UInt64) (pid : UInt32) (exec write : UInt8) :
    (∃ i r, map.memRegions.find? (fun r => r.baseAddr = base && r.owningPid = pid) = some i ∧
      map.memRegions.entries[i]? = some r ∧
      ((BecomesBoth r exec write ∧ (map.observeMem base size pid exec write).1 =
          { { map with memRegions := map.memRegions.modify i suspect }.recordAnomaly anomalyMemExecWrite 7 pid
              (some "Region became W+X".toList) with
            memRegions := (map.memRegions.modify i suspect).modify i (permitted exec write) }) ∨
        (¬ BecomesBoth r exec write ∧ (map.observeMem base size pid exec write).1 =
          { map with memRegions := map.memRegions.modify i (permitted exec write) }))) ∨
    (map.memRegions.find? (fun r => r.baseAddr = base && r.owningPid = pid) = none ∧
      ((¬ map.memRegions.entries.length < territoryMaxMemRegions ∧
          (map.observeMem base size pid exec write).1 = map) ∨
        ∃ memRegions, map.memRegions.entries.length < territoryMaxMemRegions ∧
          map.memRegions.push? (newRegion base size pid exec write) = some memRegions ∧
          (map.observeMem base size pid exec write).1 =
            { (if exec ≠ 0 ∧ write ≠ 0 then
                { map with memRegions := memRegions }.recordAnomaly anomalyMemExecWrite 8 pid
                  (some "New W+X region — possible shellcode".toList)
              else { map with memRegions := memRegions }) with
              totalObservations := map.totalObservations + 1 })) := by
  cases hfind : map.memRegions.find? (fun r => r.baseAddr = base && r.owningPid = pid) with
  | some i =>
    obtain ⟨hlt, -⟩ := List.findIdx?_eq_some_iff_getElem.1 hfind
    have hr := List.getElem?_eq_getElem hlt
    refine .inl ⟨i, _, rfl, hr, ?_⟩
    by_cases hboth : BecomesBoth map.memRegions.entries[i] exec write
    · have hbool : (exec ≠ 0 && write ≠ 0 && (map.memRegions.entries[i].isExecutable = 0 ||
          map.memRegions.entries[i].isWritable = 0)) = true := by
        simpa [BecomesBoth] using hboth
      refine .inl ⟨hboth, ?_⟩
      simp only [observeMem, hfind, hr, hbool, if_true]
      rfl
    · have hbool : (exec ≠ 0 && write ≠ 0 && (map.memRegions.entries[i].isExecutable = 0 ||
          map.memRegions.entries[i].isWritable = 0)) = false := by
        rw [Bool.eq_false_iff]
        intro htrue
        apply hboth
        simpa [BecomesBoth] using htrue
      refine .inr ⟨hboth, ?_⟩
      simp only [observeMem, hfind, hr, hbool, Bool.false_eq_true, if_false]
      rfl
  | none =>
    refine .inr ⟨rfl, ?_⟩
    by_cases hroom : map.memRegions.entries.length < territoryMaxMemRegions
    · obtain ⟨memRegions, hpush, -⟩ := Pool.push?_of_lt (newRegion base size pid exec write) hroom
      refine .inr ⟨memRegions, hroom, hpush, ?_⟩
      simp only [observeMem, hfind, hpush]
      split <;> rfl
    · exact .inl ⟨hroom, by simp only [observeMem, hfind, Pool.push?_of_not_lt _ hroom]⟩

theorem observeMem_chronicles (map : TerritoryMap) (base size : UInt64) (pid : UInt32) (exec write : UInt8) :
    Chronicles map (map.observeMem base size pid exec write).1
      (TerritoryOp.anomaly? map (.observeMem base size pid exec write)) := by
  rcases observeMem_cases map base size pid exec write with
    ⟨i, r, hfind, hr, ⟨hboth, heq⟩ | ⟨hboth, heq⟩⟩ | ⟨hfind, ⟨hfull, heq⟩ | ⟨memRegions, hroom, -, heq⟩⟩
  · rw [heq, TerritoryOp.anomaly?, if_pos hboth.1]
    simp only [hfind, hr, if_pos hboth.2]
    have hrecord := recordAnomaly_chronicles { map with memRegions := map.memRegions.modify i suspect }
      anomalyMemExecWrite 7 pid (some "Region became W+X".toList)
    exact hrecord.frame rfl rfl
  · rw [heq, TerritoryOp.anomaly?]
    split
    · next hnow =>
      simp only [hfind, hr, if_neg fun hthen => hboth ⟨hnow, hthen⟩]
      exact ⟨rfl, rfl⟩
    · exact ⟨rfl, rfl⟩
  · rw [heq, TerritoryOp.anomaly?]
    simp only [hfind, hfull, if_false, ite_self]
    exact ⟨rfl, rfl⟩
  · rw [heq, TerritoryOp.anomaly?]
    simp only [hfind, hroom, if_true]
    split
    · have hrecord := recordAnomaly_chronicles { map with memRegions := memRegions }
        anomalyMemExecWrite 8 pid (some "New W+X region — possible shellcode".toList)
      exact hrecord.frame rfl rfl
    · exact ⟨rfl, rfl⟩

end TerritoryMap

/-- Every call after the initialization writes its anomaly, or none. -/
theorem run_chronicles (map : TerritoryMap) {op : TerritoryOp} (hop : op ≠ .init) :
    Chronicles map (op.run map) (op.anomaly? map) := by
  cases op with
  | init => exact absurd rfl hop
  | observeProcess pid ppid name path => exact map.observeProcess_chronicles pid ppid name path
  | markProcess pid status =>
    simp only [TerritoryOp.run, TerritoryMap.markProcess]
    split <;> exact ⟨rfl, rfl⟩
  | observeConnection pid remoteIp remotePort bytesSent =>
    cases remoteIp with
    | none => exact ⟨rfl, rfl⟩
    | some ip => exact map.observeConnection_chronicles pid ip remotePort bytesSent
  | watchFile path isCritical =>
    cases path with
    | none => exact ⟨rfl, rfl⟩
    | some path =>
      simp only [TerritoryOp.run, TerritoryMap.watchFile]
      split <;> exact ⟨rfl, rfl⟩
  | verifyFiles => exact ⟨rfl, rfl⟩
  | observeMem base size pid exec write => exact map.observeMem_chronicles base size pid exec write
  | recordAnomaly type severity pid description =>
    exact map.recordAnomaly_chronicles type severity pid (description.map Subtype.val)
  | establishBaseline => exact ⟨rfl, rfl⟩

/-! ### What a call does to the pools -/

section

open TerritoryMap

variable {map : TerritoryMap}

/-- A process is added after a search for its pid. -/
theorem pids_run (h : map.processes.DistinctKeys MappedProcess.pid) (op : TerritoryOp) :
    (op.run map).processes.DistinctKeys MappedProcess.pid := by
  cases op with
  | init => exact List.nodup_nil
  | observeProcess pid ppid name path =>
    change (map.observeProcess pid ppid name path).1.processes.DistinctKeys _
    rcases observeProcess_cases map pid ppid name path with
      ⟨i, -, heq⟩ | ⟨hfind, ⟨-, heq⟩ | ⟨processes, -, hpush, heq⟩⟩
    · rw [heq]
      exact h.modify i fun _ => rfl
    · rw [heq]
      exact h
    · rw [heq]
      refine h.push? hpush fun p hp => ?_
      exact of_decide_eq_false (Pool.find?_eq_none_iff.1 hfind p hp)
  | markProcess pid status =>
    simp only [TerritoryOp.run, TerritoryMap.markProcess]
    split
    · exact h.modify _ fun _ => rfl
    · exact h
  | observeConnection pid remoteIp remotePort bytesSent =>
    rw [TerritoryOp.run, TerritoryMap.processes_observeConnection]
    exact h
  | watchFile path isCritical =>
    rw [TerritoryOp.run, TerritoryMap.processes_watchFile]
    exact h
  | observeMem base size pid exec write =>
    rw [TerritoryOp.run, TerritoryMap.processes_observeMem]
    exact h
  | establishBaseline => exact h.map fun _ => rfl
  | verifyFiles => exact h
  | recordAnomaly => exact h

theorem connections_observeMem (base size : UInt64) (pid : UInt32) (exec write : UInt8) :
    (map.observeMem base size pid exec write).1.connections = map.connections := by
  rcases map.observeMem_cases base size pid exec write with
    ⟨i, r, -, -, ⟨-, heq⟩ | ⟨-, heq⟩⟩ | ⟨-, ⟨-, heq⟩ | ⟨memRegions, -, -, heq⟩⟩
  · rw [heq]
    rfl
  · rw [heq]
  · rw [heq]
  · rw [heq]
    split <;> rfl

/-- An observation of a process leaves the other pools. -/
theorem observeProcess_frame (pid ppid : UInt32) (name path : Option CString) :
    (map.observeProcess pid ppid name path).1.connections = map.connections ∧
      (map.observeProcess pid ppid name path).1.memRegions = map.memRegions := by
  rcases observeProcess_cases map pid ppid name path with
    ⟨i, -, heq⟩ | ⟨-, ⟨-, heq⟩ | ⟨processes, -, -, heq⟩⟩
  · rw [heq]
    exact ⟨rfl, rfl⟩
  · rw [heq]
    exact ⟨rfl, rfl⟩
  · rw [heq]
    exact ⟨rfl, rfl⟩

/-- A connection is added after a search for its address and port. -/
theorem pairs_run (h : map.connections.DistinctKeys MappedConnection.key) (op : TerritoryOp) :
    (op.run map).connections.DistinctKeys MappedConnection.key := by
  cases op with
  | init => exact List.nodup_nil
  | observeProcess pid ppid name path =>
    rw [TerritoryOp.run, (observeProcess_frame pid ppid name path).1]
    exact h
  | markProcess pid status =>
    simp only [TerritoryOp.run, TerritoryMap.markProcess]
    split <;> exact h
  | observeConnection pid remoteIp remotePort bytesSent =>
    cases remoteIp with
    | none => exact h
    | some ip =>
      simp only [TerritoryOp.run, TerritoryMap.observeConnection]
      split
      · exact h.modify _ fun _ => rfl
      · next hfind =>
        split
        · exact h
        · next connections hpush =>
          refine h.push? hpush fun c hc hkey => ?_
          have hdiffers := Pool.find?_eq_none_iff.1 hfind c hc
          obtain ⟨hip, hport⟩ := Prod.mk.inj hkey
          simp [hip, hport, TerritoryMap.newConnection] at hdiffers
  | watchFile path isCritical =>
    cases path with
    | none => exact h
    | some path =>
      simp only [TerritoryOp.run, TerritoryMap.watchFile]
      split <;> exact h
  | observeMem base size pid exec write =>
    rw [TerritoryOp.run, connections_observeMem]
    exact h
  | establishBaseline => exact h.map fun _ => rfl
  | verifyFiles => exact h
  | recordAnomaly => exact h

/-- A call that is no observation of a region, no baseline and no initialization leaves the regions. -/
theorem memRegions_run {op : TerritoryOp} (hinit : op ≠ .init) (hbaseline : op ≠ .establishBaseline)
    (hmem : ∀ base size pid exec write, op ≠ .observeMem base size pid exec write) :
    (op.run map).memRegions = map.memRegions := by
  cases op with
  | init => exact absurd rfl hinit
  | establishBaseline => exact absurd rfl hbaseline
  | observeMem base size pid exec write => exact absurd rfl (hmem base size pid exec write)
  | observeProcess pid ppid name path =>
    exact (observeProcess_frame pid ppid name path).2
  | markProcess pid status =>
    simp only [TerritoryOp.run, TerritoryMap.markProcess]
    split <;> rfl
  | observeConnection pid remoteIp remotePort bytesSent =>
    cases remoteIp with
    | none => rfl
    | some ip =>
      simp only [TerritoryOp.run, TerritoryMap.observeConnection]
      split
      · rfl
      · split <;> rfl
  | watchFile path isCritical =>
    cases path with
    | none => rfl
    | some path =>
      simp only [TerritoryOp.run, TerritoryMap.watchFile]
      split <;> rfl
  | verifyFiles => rfl
  | recordAnomaly => rfl

/-- What an observation of a region does to the regions. -/
theorem memRegions_observeMem (map : TerritoryMap) (base size : UInt64) (pid : UInt32) (exec write : UInt8) :
    (∃ i r, map.memRegions.entries[i]? = some r ∧
      (BecomesBoth r exec write ∧ (map.observeMem base size pid exec write).1.memRegions =
          (map.memRegions.modify i suspect).modify i (permitted exec write) ∨
        ¬ BecomesBoth r exec write ∧ (map.observeMem base size pid exec write).1.memRegions =
          map.memRegions.modify i (permitted exec write))) ∨
      (map.observeMem base size pid exec write).1.memRegions = map.memRegions ∨
        map.memRegions.find? (fun r => r.baseAddr = base && r.owningPid = pid) = none ∧
          map.memRegions.push? (newRegion base size pid exec write) =
            some (map.observeMem base size pid exec write).1.memRegions := by
  rcases map.observeMem_cases base size pid exec write with
    ⟨i, r, -, hr, ⟨hboth, heq⟩ | ⟨hboth, heq⟩⟩ | ⟨hfind, ⟨-, heq⟩ | ⟨memRegions, -, hpush, heq⟩⟩
  · exact .inl ⟨i, r, hr, .inl ⟨hboth, by rw [heq]⟩⟩
  · exact .inl ⟨i, r, hr, .inr ⟨hboth, by rw [heq]⟩⟩
  · exact .inr (.inl (by rw [heq]))
  · refine .inr (.inr ⟨hfind, ?_⟩)
    rw [heq, hpush]
    split <;> rfl

/-- A region is added after a search for its base and pid. -/
theorem regions_run (h : map.memRegions.DistinctKeys MappedMemRegion.key) (op : TerritoryOp) :
    (op.run map).memRegions.DistinctKeys MappedMemRegion.key := by
  by_cases hother : op ≠ .init ∧ op ≠ .establishBaseline ∧
      ∀ base size pid exec write, op ≠ .observeMem base size pid exec write
  · rw [memRegions_run hother.1 hother.2.1 hother.2.2]
    exact h
  · cases op with
    | init => exact List.nodup_nil
    | establishBaseline => exact h.map fun _ => rfl
    | observeMem base size pid exec write =>
      change (map.observeMem base size pid exec write).1.memRegions.DistinctKeys _
      rcases memRegions_observeMem map base size pid exec write with
        ⟨i, r, -, ⟨-, heq⟩ | ⟨-, heq⟩⟩ | heq | ⟨hfind, hpush⟩
      · rw [heq]
        have hsuspect := h.modify (f := TerritoryMap.suspect) i fun _ => rfl
        exact hsuspect.modify (f := TerritoryMap.permitted exec write) i fun _ => rfl
      · rw [heq]
        exact h.modify i fun _ => rfl
      · rw [heq]
        exact h
      · refine h.push? hpush fun r hr hkey => ?_
        have hdiffers := Pool.find?_eq_none_iff.1 hfind r hr
        obtain ⟨hbase, hpid⟩ := Prod.mk.inj hkey
        simp [hbase, hpid, TerritoryMap.newRegion] at hdiffers
    | _ => simp at hother

/-- A region gets both permissions together with the suspicion, and the baseline leaves what is suspicious. -/
theorem bothSuspicious_run (h : BothSuspicious map) (op : TerritoryOp) : BothSuspicious (op.run map) := by
  by_cases hother : op ≠ .init ∧ op ≠ .establishBaseline ∧
      ∀ base size pid exec write, op ≠ .observeMem base size pid exec write
  · rw [BothSuspicious, memRegions_run hother.1 hother.2.1 hother.2.2]
    exact h
  · cases op with
    | init => simp [BothSuspicious, TerritoryOp.run, TerritoryMap.initAt, Pool.empty]
    | establishBaseline =>
      intro r hr hwrite hexec
      obtain ⟨old, hold, rfl⟩ := List.mem_map.1 hr
      have hstatus : old.status = .suspicious := h old hold hwrite hexec
      simp [TerritoryMap.baselineStatus, hstatus]
    | observeMem base size pid exec write =>
      change BothSuspicious (map.observeMem base size pid exec write).1
      rw [BothSuspicious]
      rcases memRegions_observeMem map base size pid exec write with
        ⟨i, r, hr, ⟨-, heq⟩ | ⟨hboth, heq⟩⟩ | heq | ⟨-, hpush⟩
      · -- the region is suspected, and then gets its permissions
        rw [heq]
        intro r' hr' hwrite hexec
        rcases Pool.mem_modify hr' with hr' | ⟨s, hs, rfl⟩
        · rcases Pool.mem_modify hr' with hold | ⟨s, -, rfl⟩
          · exact h r' hold hwrite hexec
          · rfl
        · rw [Pool.getElem?_modify hr] at hs
          obtain rfl := Option.some.inj hs
          rfl
      · -- the region had both already, or does not get both
        rw [heq]
        intro r' hr' hwrite hexec
        rcases Pool.mem_modify hr' with hold | ⟨s, hs, rfl⟩
        · exact h r' hold hwrite hexec
        · obtain rfl := Option.some.inj (hr.symm.trans hs)
          have hhad : r.isWritable ≠ 0 ∧ r.isExecutable ≠ 0 := by
            rw [← not_or, or_comm]
            exact fun hlacks => hboth ⟨⟨hexec, hwrite⟩, hlacks⟩
          exact h r (List.mem_iff_getElem?.2 ⟨i, hr⟩) hhad.1 hhad.2
      · rw [heq]
        exact h
      · rw [Pool.entries_push? hpush]
        intro r hr hwrite hexec
        rcases List.mem_append.1 hr with hold | hnew
        · exact h r hold hwrite hexec
        · obtain rfl := List.mem_singleton.1 hnew
          exact if_pos ⟨hexec, hwrite⟩
    | _ => simp at hother

end

/-! ### Every run -/

/-- The anomaly of a call goes behind the earlier ones. -/
theorem chronicled_snd (st : TerritoryChronicle) {op : TerritoryOp} (hop : op ≠ .init) :
    (op.chronicled st).2 = st.2 ++ (op.anomaly? st.1).toList := by
  cases op with
  | init => exact absurd rfl hop
  | _ => rfl

/-- Every call keeps the pools in order and the ring at the end of the chronicle. -/
theorem inGoodOrder_chronicled {st : TerritoryChronicle} (h : InGoodOrder st) (op : TerritoryOp) :
    InGoodOrder (op.chronicled st) where
  once := ⟨pids_run h.once.pids op, pairs_run h.once.pairs op, regions_run h.once.regions op⟩
  limits := ⟨Pool.fits _, Pool.fits _, Pool.fits _⟩
  suspicious := bothSuspicious_run h.suspicious op
  last := by
    by_cases hop : op = .init
    · subst hop
      rfl
    · have hchronicles := run_chronicles st.1 hop
      rw [chronicled_snd st hop]
      cases hanomaly : op.anomaly? st.1 with
      | none =>
        rw [hanomaly] at hchronicles
        rw [Option.toList_none, List.append_nil, ← h.last]
        exact congrArg RingLog.last? hchronicles.1
      | some a =>
        rw [hanomaly] at hchronicles
        rw [Option.toList_some, List.getLast?_append_of_ne_nil _ (List.cons_ne_nil a [])]
        exact hchronicles.2.2

/-- Every call keeps the two counts. -/
theorem counted_chronicled {st : TerritoryChronicle} (h : Counted st) (op : TerritoryOp) :
    Counted (op.chronicled st) := by
  by_cases hop : op = .init
  · subst hop
    exact ⟨rfl, rfl⟩
  · have hchronicles := run_chronicles st.1 hop
    have hpast := chronicled_snd st hop
    cases hanomaly : op.anomaly? st.1 with
    | none =>
      rw [hanomaly] at hchronicles hpast
      rw [Option.toList_none, List.append_nil] at hpast
      refine ⟨?_, ?_⟩
      · rw [hpast, ← h.ring]
        exact congrArg (fun log => log.count.toNat) hchronicles.1
      · rw [hpast, ← h.total]
        exact congrArg UInt64.toNat hchronicles.2
    | some a =>
      rw [hanomaly] at hchronicles hpast
      obtain ⟨⟨rewrite, hrecord⟩, htotal, -⟩ := hchronicles
      have hlength : (op.chronicled st).2.length = st.2.length + 1 := by
        rw [hpast, Option.toList_some, List.length_append, List.length_singleton]
      refine ⟨?_, ?_⟩
      · rw [hlength]
        exact (congrArg (fun log => log.count.toNat) hrecord).trans (RingLog.count_record (by decide) h.ring)
      · have hwrap := (congrArg UInt64.toNat htotal).trans (UInt64.toNat_add _ _)
        rw [h.total] at hwrap
        rw [hlength, Nat.add_mod]
        exact hwrap

/-- So does every run from `territory_map_init`. -/
theorem counted_run {tr : List (TerritoryOp × TerritoryChronicle)}
    (h : Exec ChronicleStep (territoryMapInit, []) tr) :
    AllStates (fun st => InGoodOrder st ∧ Counted st) (territoryMapInit, []) tr := by
  refine h.invariant ⟨?_, ⟨rfl, rfl⟩⟩ ?_
  · refine ⟨⟨List.nodup_nil, List.nodup_nil, List.nodup_nil⟩, ⟨Pool.fits _, Pool.fits _, Pool.fits _⟩, ?_, rfl⟩
    simp [BothSuspicious, territoryMapInit, TerritoryMap.initAt, Pool.empty]
  · rintro st op st' ⟨horder, hcounted⟩ rfl
    exact ⟨inGoodOrder_chronicled horder op, counted_chronicled hcounted op⟩

/-- In every run from `territory_map_init`, every pid, every pair of address and port and every pair of base and pid
is on the map once, within the limits; a region that is both writable and executable is suspicious; the last anomaly
is the one recorded last; and the two counts agree if and only if the wrap of the total goes unnoticed. -/
theorem inGoodOrder_run {tr : List (TerritoryOp × TerritoryChronicle)}
    (h : Exec ChronicleStep (territoryMapInit, []) tr) :
    AllStates (fun st => InGoodOrder st ∧ (CountsAgree st.1 ↔ WrapUnnoticed st)) (territoryMapInit, []) tr :=
  (counted_run h).imp fun _ hst => ⟨hst.1, hst.2.agree_iff⟩

/-- A page that becomes executable between two baselines. -/
theorem page_in_good_order :
    AllStates (fun st => InGoodOrder st ∧ (CountsAgree st.1 ↔ WrapUnnoticed st)) (territoryMapInit, [])
      (chronicleRun [.observeProcess 7 1 none none, .observeMem 4096 512 7 0 1, .establishBaseline,
        .observeMem 4096 512 7 1 1, .establishBaseline]) :=
  inGoodOrder_run (exec_chronicleRun _)

/-! ### The wrap of the total -/

/-- Anomalies that are recorded one after the other are all written down. -/
theorem length_recordAnomalies (n : Nat) (st : TerritoryChronicle) :
    ((List.replicate n (.recordAnomaly 0 1 0 none)).foldl TerritoryOp.chronicled st).2.length =
      st.2.length + n := by
  induction n generalizing st with
  | zero => rfl
  | succ n ih =>
    rw [List.replicate_succ, List.foldl_cons, ih]
    change (st.2 ++ [_]).length + n = _
    rw [List.length_append, List.length_singleton, Nat.add_assoc, Nat.add_comm 1 n]

/-- After `2 ^ 64` anomalies the total is zero, and the ring is full. -/
theorem total_wraps :
    ¬ AllStates (fun st => InGoodOrder st ∧ CountsAgree st.1) (territoryMapInit, [])
      (chronicleRun (List.replicate (2 ^ 64) (.recordAnomaly 0 1 0 none))) := by
  intro hclaim
  have hagree := hclaim.final.2
  have hcounted := (counted_run (exec_chronicleRun (List.replicate (2 ^ 64) (.recordAnomaly 0 1 0 none)))).final.2
  rw [hcounted.agree_iff, chronicleRun, final_driven, WrapUnnoticed, length_recordAnomalies] at hagree
  exact absurd hagree (by decide)

end OperatingOrganism.Bot

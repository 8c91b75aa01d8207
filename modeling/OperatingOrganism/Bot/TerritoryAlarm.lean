import OperatingOrganism.Bot.TerritoryMap

/-!
# Alarms of the territory

Everything that is not on the map is suspect by definition, and a foreign presence is to be detected at once. An
observation of something new records an anomaly only after it has found a place for it: when the pool is full, the
call returns the null pointer and nothing is recorded. A new presence raises an alarm if and only if its pool has
room (`noticesUnknown_iff`), as long as the total of the anomalies does not wrap.
-/

set_option autoImplicit false

namespace OperatingOrganism.Bot

open OperatingOrganism.Execution

namespace TerritoryMap

def KnowsProcess (map : TerritoryMap) (pid : UInt32) : Prop := ∃ p ∈ map.processes.entries, p.pid = pid

def KnowsConnection (map : TerritoryMap) (ip : Vector UInt8 4) (port : UInt16) : Prop :=
  ∃ c ∈ map.connections.entries, c.remoteIp = ip ∧ c.remotePort = port

def KnowsMem (map : TerritoryMap) (base : UInt64) (pid : UInt32) : Prop :=
  ∃ r ∈ map.memRegions.entries, r.baseAddr = base ∧ r.owningPid = pid

/-- The total of the anomalies grows, and the last one has the type, the severity, the process and the text. -/
def Alarmed (map map' : TerritoryMap) (type severity : UInt8) (pid : UInt32) (text : List Char) : Prop :=
  map.totalAnomalies < map'.totalAnomalies ∧
    ∃ a, map'.lastAnomaly = some a ∧
      a.anomalyType = type ∧ a.severity = severity ∧ a.pid = pid ∧ a.description = text

/-- One more anomaly can be counted. -/
def CanCount (map : TerritoryMap) : Prop := map.totalAnomalies.toNat + 1 < 2 ^ 64

end TerritoryMap

/-- An observation of something that is not on the map raises an alarm. -/
def NoticesUnknown (map : TerritoryMap) (op : TerritoryOp) : Prop :=
  match op with
  | .observeProcess pid _ name _ =>
    ¬ map.KnowsProcess pid →
      map.Alarmed (op.run map) anomalyNewProcess 3 pid
        (copiedText 128 ((name.map Subtype.val).getD "unknown".toList))
  | .observeConnection pid (some ip) port _ =>
    ¬ map.KnowsConnection ip port →
      map.Alarmed (op.run map) anomalyUnknownConnection 2 pid (TerritoryMap.connectionText ip port)
  | .observeMem base _ pid exec write =>
    exec ≠ 0 → write ≠ 0 → ¬ map.KnowsMem base pid →
      map.Alarmed (op.run map) anomalyMemExecWrite 8 pid "New W+X region — possible shellcode".toList
  | _ => True

/-- When something that is not on the map is observed, its pool has room, and one more anomaly can be counted. -/
def RoomForUnknown (map : TerritoryMap) (op : TerritoryOp) : Prop :=
  match op with
  | .observeProcess pid _ _ _ =>
    ¬ map.KnowsProcess pid → map.processes.entries.length < territoryMaxProcesses ∧ map.CanCount
  | .observeConnection _ (some ip) port _ =>
    ¬ map.KnowsConnection ip port → map.connections.entries.length < territoryMaxConnections ∧ map.CanCount
  | .observeMem base _ pid exec write =>
    exec ≠ 0 → write ≠ 0 → ¬ map.KnowsMem base pid →
      map.memRegions.entries.length < territoryMaxMemRegions ∧ map.CanCount
  | _ => True

/-! ### The texts fit -/

/-- A digit is not the NUL. -/
theorem toNat_ne_zero_of_mem_toDigits {n : Nat} {c : Char} (hc : c ∈ Nat.toDigits 10 n) : c.toNat ≠ 0 := by
  have hdigit := Nat.isDigit_of_mem_toDigits (by decide) (by decide) hc
  intro hzero
  have hge : 48 ≤ c.toNat := by
    simp only [Char.isDigit, Bool.and_eq_true, decide_eq_true_eq] at hdigit
    exact hdigit.1
  rw [hzero] at hge
  exact absurd hge (by decide)

/-- The buffers keep the whole text of a new connection. -/
theorem copiedText_connectionText (ip : Vector UInt8 4) (port : UInt16) :
    copiedText 128 (copiedText 64 (TerritoryMap.connectionText ip port)) = TerritoryMap.connectionText ip port := by
  have hbyte : ∀ b : UInt8, (Nat.toDigits 10 b.toNat).length ≤ 3 := by
    intro b
    rw [Nat.length_toDigits_le_iff (by decide) (by decide)]
    exact Nat.lt_of_lt_of_le b.toNat_lt (by decide)
  have hport : (Nat.toDigits 10 port.toNat).length ≤ 5 := by
    rw [Nat.length_toDigits_le_iff (by decide) (by decide)]
    exact Nat.lt_of_lt_of_le port.toNat_lt (by decide)
  have hlength : (TerritoryMap.connectionText ip port).length < 64 := by
    have htext : "New connection to ".toList.length = 18 := by simp
    have hsum : ∀ a b c d e, a ≤ 3 → b ≤ 3 → c ≤ 3 → d ≤ 3 → e ≤ 5 →
        18 + a + 1 + b + 1 + c + 1 + d + 1 + e < 64 := by omega
    unfold TerritoryMap.connectionText
    simp only [List.length_append, List.length_singleton, htext]
    exact hsum _ _ _ _ _ (hbyte _) (hbyte _) (hbyte _) (hbyte _) hport
  have hnul : ∀ c ∈ TerritoryMap.connectionText ip port, c.toNat ≠ 0 := by
    have htext : ∀ c ∈ "New connection to ".toList, c.toNat ≠ 0 := by simp
    have hdot : ∀ c ∈ ['.'], c.toNat ≠ 0 := by simp
    have hcolon : ∀ c ∈ [':'], c.toNat ≠ 0 := by simp
    have hdigits : ∀ n, ∀ c ∈ Nat.toDigits 10 n, c.toNat ≠ 0 := fun n c => toNat_ne_zero_of_mem_toDigits
    unfold TerritoryMap.connectionText
    simp only [List.forall_mem_append]
    exact ⟨⟨⟨⟨⟨⟨⟨⟨⟨htext, hdigits _⟩, hdot⟩, hdigits _⟩, hdot⟩, hdigits _⟩, hdot⟩, hdigits _⟩, hcolon⟩, hdigits _⟩
  rw [copiedText_of_lt hnul hlength]
  exact copiedText_of_lt hnul (Nat.lt_trans hlength (by decide))

/-! ### One observation -/

namespace TerritoryMap

/-- A call that records an anomaly when there is room, and changes nothing otherwise, raises the alarm exactly
when there is room and the total does not wrap. -/
theorem alarmed_iff_room {map map' : TerritoryMap} {type severity : UInt8} {pid : UInt32} {text : List Char}
    {room : Prop}
    (hrecorded : room → map'.totalAnomalies = map.totalAnomalies + 1 ∧
      ∃ t, map'.lastAnomaly = some ⟨t, pid, type, severity, text⟩)
    (hignored : ¬ room → map' = map) :
    map.Alarmed map' type severity pid text ↔ room ∧ map.CanCount := by
  by_cases hroom : room
  · obtain ⟨htotal, t, hlast⟩ := hrecorded hroom
    have hcount : map.totalAnomalies < map.totalAnomalies + 1 ↔ map.CanCount := by
      rw [CanCount, UInt64.lt_iff_toNat_lt, UInt64.toNat_add]
      change map.totalAnomalies.toNat < (map.totalAnomalies.toNat + 1) % 2 ^ 64 ↔ _
      have hlt := map.totalAnomalies.toNat_lt
      omega
    rw [Alarmed, htotal, hcount, hlast, and_comm]
    exact and_congr_left fun _ => iff_of_true ⟨_, rfl, rfl, rfl, rfl, rfl⟩ hroom
  · rw [hignored hroom]
    exact iff_of_false (fun h => UInt64.lt_irrefl _ h.1) (fun h => hroom h.1)

variable {map : TerritoryMap} {pid : UInt32}

theorem observeProcess_alarmed_iff (hnew : ¬ map.KnowsProcess pid) (ppid : UInt32) (name path : Option CString) :
    map.Alarmed (map.observeProcess pid ppid name path).1 anomalyNewProcess 3 pid
        (copiedText 128 ((name.map Subtype.val).getD "unknown".toList)) ↔
      map.processes.entries.length < territoryMaxProcesses ∧ map.CanCount := by
  have hfind : map.processes.find? (fun p => p.pid = pid) = none := by
    rw [Pool.find?_eq_none_iff]
    exact fun p hp => decide_eq_false fun heq => hnew ⟨p, hp, heq⟩
  rcases observeProcess_cases map pid ppid name path with
    ⟨j, hsome, -⟩ | ⟨-, ⟨hfull, heq⟩ | ⟨processes, hroom, -, heq⟩⟩
  · rw [hfind] at hsome
    cases hsome
  · rw [heq]
    exact alarmed_iff_room (fun hroom => absurd hroom hfull) fun _ => rfl
  · rw [heq]
    exact alarmed_iff_room (fun _ => ⟨rfl, _, lastAnomaly_recordAnomaly _ _ _ _ _⟩) (fun hfull => absurd hroom hfull)

theorem observeConnection_alarmed_iff {ip : Vector UInt8 4} {port : UInt16} (hnew : ¬ map.KnowsConnection ip port)
    (bytesSent : UInt64) :
    map.Alarmed (map.observeConnection pid (some ip) port bytesSent).1 anomalyUnknownConnection 2 pid
        (connectionText ip port) ↔
      map.connections.entries.length < territoryMaxConnections ∧ map.CanCount := by
  have hfind : map.connections.find? (fun c => c.remotePort = port && c.remoteIp = ip) = none := by
    rw [Pool.find?_eq_none_iff]
    intro c hc
    rw [Bool.and_eq_false_iff, decide_eq_false_iff_not, decide_eq_false_iff_not, ← not_and_or]
    exact fun heq => hnew ⟨c, hc, heq.2, heq.1⟩
  apply alarmed_iff_room
  · intro hroom
    obtain ⟨connections, hpush, -⟩ := Pool.push?_of_lt (newConnection (map.clock + 1) pid ip port bytesSent) hroom
    simp only [observeConnection, hfind, hpush]
    refine ⟨rfl, map.clock + 1 + 1, ?_⟩
    rw [lastAnomaly_recordAnomaly, copiedText_connectionText]
  · intro hfull
    simp only [observeConnection, hfind, Pool.push?_of_not_lt _ hfull]

theorem observeMem_alarmed_iff {base : UInt64} {exec write : UInt8} (hexec : exec ≠ 0) (hwrite : write ≠ 0)
    (hnew : ¬ map.KnowsMem base pid) (size : UInt64) :
    map.Alarmed (map.observeMem base size pid exec write).1 anomalyMemExecWrite 8 pid
        "New W+X region — possible shellcode".toList ↔
      map.memRegions.entries.length < territoryMaxMemRegions ∧ map.CanCount := by
  have hfind : map.memRegions.find? (fun r => r.baseAddr = base && r.owningPid = pid) = none := by
    rw [Pool.find?_eq_none_iff]
    intro r hr
    rw [Bool.and_eq_false_iff, decide_eq_false_iff_not, decide_eq_false_iff_not, ← not_and_or]
    exact fun heq => hnew ⟨r, hr, heq⟩
  apply alarmed_iff_room
  · intro hroom
    obtain ⟨memRegions, hpush, -⟩ := Pool.push?_of_lt (newRegion base size pid exec write) hroom
    simp only [observeMem, hfind, hpush, if_pos (And.intro hexec hwrite)]
    refine ⟨rfl, map.clock + 1, (lastAnomaly_recordAnomaly _ _ _ _ _).trans ?_⟩
    rw [copiedText_of_lt (by simp) (by simp)]
  · intro hfull
    simp only [observeMem, hfind, Pool.push?_of_not_lt _ hfull]

end TerritoryMap

/-- An observation notices what is unknown exactly when there is room for it. -/
theorem noticesUnknown_step_iff (map : TerritoryMap) (op : TerritoryOp) :
    NoticesUnknown map op ↔ RoomForUnknown map op := by
  cases op with
  | observeProcess pid ppid name path =>
    exact forall_congr' fun hnew => TerritoryMap.observeProcess_alarmed_iff hnew ppid name path
  | observeConnection pid remoteIp port bytesSent =>
    cases remoteIp with
    | none => exact Iff.rfl
    | some ip => exact forall_congr' fun hnew => TerritoryMap.observeConnection_alarmed_iff hnew bytesSent
  | observeMem base size pid exec write =>
    exact forall_congr' fun hexec => forall_congr' fun hwrite => forall_congr' fun hnew =>
      TerritoryMap.observeMem_alarmed_iff hexec hwrite hnew size
  | _ => exact Iff.rfl

/-- In every run on a map from its initialization, every observation of something that is not on the map raises
its alarm if and only if each finds its pool with room and the total short of its limit. -/
theorem noticesUnknown_iff {tr : List (TerritoryOp × TerritoryMap)} (h : Exec TerritoryStep territoryMapInit tr) :
    AllSteps NoticesUnknown territoryMapInit tr ↔ AllSteps RoomForUnknown territoryMapInit tr :=
  h.allSteps_congr (I := fun _ => True) trivial (fun _ _ _ _ _ _ => trivial)
    fun map op _ => noticesUnknown_step_iff map op

/-! ### A first process, and one too many -/

/-- A first process and a connection of it. -/
theorem first_process_noticed : AllSteps NoticesUnknown territoryMapInit
    (territoryRun [.observeProcess 7 1 none none, .observeConnection 7 (some #v[10, 0, 0, 1]) 443 100]) := by
  have hcount : ∀ n, n ≤ 1 → (UInt64.ofNat n).toNat + 1 < 2 ^ 64 := by decide
  refine (noticesUnknown_iff (exec_territoryRun _)).2 ⟨fun _ => ?_, fun _ => ?_, trivial⟩
  · exact ⟨by decide, hcount 0 (by decide)⟩
  · exact ⟨by decide, hcount 1 (by decide)⟩

/-- The observations of the processes `0` to `n - 1`. -/
def crowd (n : Nat) : List TerritoryOp :=
  (List.range n).map fun k => .observeProcess (UInt32.ofNat k) 1 none none

/-- A crowd of at most as many processes as there are places is on the map entirely. -/
theorem pids_crowd {n : Nat} (hn : n ≤ territoryMaxProcesses) :
    ((crowd n).foldl TerritoryOp.run territoryMapInit).processes.entries.map MappedProcess.pid =
      (List.range n).map UInt32.ofNat := by
  induction n with
  | zero => rfl
  | succ n ih =>
    have hpids := ih (Nat.le_of_succ_le hn)
    rw [crowd, List.range_succ, List.map_append, List.foldl_append]
    change (TerritoryOp.run _ (.observeProcess (UInt32.ofNat n) 1 none none)).processes.entries.map _ = _
    rw [← crowd]
    generalize (crowd n).foldl TerritoryOp.run territoryMapInit = map at hpids ⊢
    have hlength : map.processes.entries.length = n := by
      have hlen := congrArg List.length hpids
      rwa [List.length_map, List.length_map, List.length_range] at hlen
    have hfind : map.processes.find? (fun p => p.pid = UInt32.ofNat n) = none := by
      rw [Pool.find?_eq_none_iff]
      intro p hp
      apply decide_eq_false
      intro heq
      -- the pids so far are the numbers below `n`, and they are too small to wrap
      have hmem : p.pid ∈ map.processes.entries.map MappedProcess.pid := List.mem_map_of_mem hp
      rw [hpids, heq] at hmem
      obtain ⟨k, hk, hsame⟩ := List.mem_map.1 hmem
      have hkn := List.mem_range.1 hk
      have hsmall : n < 2 ^ 32 := Nat.lt_of_lt_of_le hn (by decide)
      have hnat := congrArg UInt32.toNat hsame
      rw [UInt32.toNat_ofNat_of_lt' (Nat.lt_trans hkn hsmall), UInt32.toNat_ofNat_of_lt' hsmall] at hnat
      exact Nat.ne_of_lt hkn hnat
    obtain ⟨processes, hpush, hentries⟩ := Pool.push?_of_lt
      (TerritoryMap.newProcess (map.clock + 1) (UInt32.ofNat n) 1 none none) (hlength ▸ hn)
    simp only [TerritoryOp.run, TerritoryMap.observeProcess, hfind, hpush, processes_recordAnomaly, hentries,
      List.map_append, hpids]
    rfl

/-- When all the places are taken, a new process goes unnoticed. -/
theorem exists_unnoticed_process : ∃ tr, Exec TerritoryStep territoryMapInit tr ∧
    ¬ AllSteps NoticesUnknown territoryMapInit tr := by
  refine ⟨territoryRun (crowd territoryMaxProcesses ++ [.observeProcess 4711 1 none none]), exec_territoryRun _, ?_⟩
  rw [territoryRun, allSteps_driven_append]
  rintro ⟨-, hnotices, -⟩
  have hpids := pids_crowd (Nat.le_refl territoryMaxProcesses)
  generalize (crowd territoryMaxProcesses).foldl TerritoryOp.run territoryMapInit = map at hpids hnotices
  have hlength : map.processes.entries.length = territoryMaxProcesses := by
    have hlen := congrArg List.length hpids
    rwa [List.length_map, List.length_map, List.length_range] at hlen
  have hnew : ¬ map.KnowsProcess 4711 := by
    rintro ⟨p, hp, heq⟩
    have hmem : p.pid ∈ map.processes.entries.map MappedProcess.pid := List.mem_map_of_mem hp
    rw [hpids, heq] at hmem
    obtain ⟨k, hk, hsame⟩ := List.mem_map.1 hmem
    have hsmall : k < 512 := List.mem_range.1 hk
    have hnat := congrArg UInt32.toNat hsame
    rw [UInt32.toNat_ofNat_of_lt' (Nat.lt_trans hsmall (by decide))] at hnat
    exact absurd (hnat ▸ hsmall) (by decide)
  have hroom := ((noticesUnknown_step_iff map _).1 hnotices hnew).1
  exact Nat.lt_irrefl _ (hlength ▸ hroom)

end OperatingOrganism.Bot

import OperatingOrganism.Bot.TerritoryMap

/-!
# Trust in processes

A process is found on the map by its pid alone, and the baseline trusts every pid that it finds there. The name and
the path of the executable are stored and never compared, so a pid that another program has taken over is still
reported as trusted, and no anomaly is recorded. Trust is bound to the identity of a process if and only if every
observation of a trusted pid gives the name and the path that the pid was first observed with
(`boundToIdentity_iff`).
-/

set_option autoImplicit false

namespace OperatingOrganism.Bot

open OperatingOrganism.Execution

/-! ### The calls so far -/

/-- A map with the calls since its initialization, the oldest first. -/
abbrev TerritoryRecord := TerritoryMap × List TerritoryOp

/-- The calls that are remembered after one more. -/
def TerritoryOp.remembered (past : List TerritoryOp) : TerritoryOp → List TerritoryOp
  | .init => []
  | op => past ++ [op]

/-- A call, which is remembered. -/
def TerritoryOp.recorded (st : TerritoryRecord) (op : TerritoryOp) : TerritoryRecord :=
  (op.run st.1, op.remembered st.2)

def TrustStep (st : TerritoryRecord) (op : TerritoryOp) (st' : TerritoryRecord) : Prop := st' = op.recorded st

/-- The name and the path that a call observes a pid with. -/
def TerritoryOp.identityOf (pid : UInt32) : TerritoryOp → Option (Option CString × Option CString)
  | .observeProcess pid' _ name path => if pid' = pid then some (name, path) else none
  | _ => none

/-- The name and the path of the first observation of a pid. -/
def firstObservation (past : List TerritoryOp) (pid : UInt32) : Option (Option CString × Option CString) :=
  past.findSome? (TerritoryOp.identityOf pid)

/-- The trust in a pid was set by `territory_mark_process`: the last mark of the pid, which had been observed. -/
def MarkSet (past : List TerritoryOp) (pid : UInt32) : Prop :=
  ∃ before after, past = before ++ .markProcess pid .trusted :: after ∧
    (firstObservation before pid).isSome ∧ ∀ status, .markProcess pid status ∉ after

/-- The pid was observed with this name and path before a baseline. -/
def ObservedBeforeBaseline (past : List TerritoryOp) (pid : UInt32) (name path : Option CString) : Prop :=
  ∃ before after ppid, past = before ++ .establishBaseline :: after ∧ .observeProcess pid ppid name path ∈ before

/-- An observation that returns a trusted entry which no mark has set was made, with the same name and path, before
a baseline; and when another executable uses the pid, an anomaly is recorded. -/
def BoundToIdentity (st : TerritoryRecord) (op : TerritoryOp) : Prop :=
  match op with
  | .observeProcess pid ppid name path =>
    ∀ i e, (st.1.observeProcess pid ppid name path).2 = some i →
      (st.1.observeProcess pid ppid name path).1.processes.entries[i]? = some e → e.status = .trusted →
        (¬ MarkSet st.2 pid → ObservedBeforeBaseline st.2 pid name path) ∧
        (firstObservation st.2 pid ≠ some (name, path) →
          st.1.totalAnomalies < (st.1.observeProcess pid ppid name path).1.totalAnomalies)
  | _ => True

/-- An observation of a pid that the map holds as trusted gives the name and the path of its first observation. -/
def KeepsIdentity (st : TerritoryRecord) (op : TerritoryOp) : Prop :=
  match op with
  | .observeProcess pid _ name path =>
    ∀ e, st.1.processes.lookup MappedProcess.pid pid = some e → e.status = .trusted →
      firstObservation st.2 pid = some (name, path)
  | _ => True

/-! ### How the record grows -/

theorem firstObservation_append (past : List TerritoryOp) (op : TerritoryOp) (pid : UInt32) :
    firstObservation (past ++ [op]) pid = (firstObservation past pid).or (op.identityOf pid) := by
  rw [firstObservation, List.findSome?_append, firstObservation]
  congr 1
  rw [List.findSome?_cons, List.findSome?_nil]
  cases op.identityOf pid <;> rfl

theorem firstObservation_append_of_none {past : List TerritoryOp} {op : TerritoryOp} {pid : UInt32}
    (hop : op.identityOf pid = none) : firstObservation (past ++ [op]) pid = firstObservation past pid := by
  rw [firstObservation_append, hop, Option.or_none]

/-- A mark stays the last one until the next. -/
theorem MarkSet.append {past : List TerritoryOp} {pid : UInt32} {op : TerritoryOp} (h : MarkSet past pid)
    (hop : ∀ status, op ≠ .markProcess pid status) : MarkSet (past ++ [op]) pid := by
  obtain ⟨before, after, rfl, hobserved, hlast⟩ := h
  refine ⟨before, after ++ [op], by simp, hobserved, ?_⟩
  intro status hmem
  rcases List.mem_append.1 hmem with hmem | hmem
  · exact hlast status hmem
  · exact hop status (List.mem_singleton.1 hmem).symm

/-! ### What explains an entry -/

/-- The pid was observed, and the entry is trusted only if a mark or a baseline after its first observation made it
so. -/
structure ExplainedBy (past : List TerritoryOp) (pid : UInt32) (status : ElemStatus) : Prop where
  observed : (firstObservation past pid).isSome
  trusted : status = .trusted → MarkSet past pid ∨
    ∃ before after, past = before ++ .establishBaseline :: after ∧
      firstObservation before pid = firstObservation past pid

/-- Every entry on the map is explained by the calls so far. -/
def Explained (st : TerritoryRecord) : Prop :=
  ∀ pid e, st.1.processes.lookup MappedProcess.pid pid = some e → ExplainedBy st.2 pid e.status

/-- A call that is no mark of the pid and leaves the status as it was leaves it explained. -/
theorem ExplainedBy.append {past : List TerritoryOp} {pid : UInt32} {status : ElemStatus} {op : TerritoryOp}
    (h : ExplainedBy past pid status) (hop : ∀ status, op ≠ .markProcess pid status) :
    ExplainedBy (past ++ [op]) pid status := by
  obtain ⟨identity, hidentity⟩ := Option.isSome_iff_exists.1 h.observed
  have hsame : firstObservation (past ++ [op]) pid = firstObservation past pid := by
    rw [firstObservation_append, hidentity]
    rfl
  refine ⟨hsame ▸ h.observed, fun htrusted => ?_⟩
  rcases h.trusted htrusted with hmark | ⟨before, after, hpast, hbefore⟩
  · exact .inl (hmark.append hop)
  · exact .inr ⟨before, after ++ [op], by rw [hpast]; simp, hsame ▸ hbefore⟩

/-! ### What the calls do to the processes -/

namespace TerritoryMap

variable {map : TerritoryMap} {pid pid' : UInt32} {e : MappedProcess}

/-- An observation of a pid on the map returns its entry with the status that it had, and records no anomaly. -/
theorem observeProcess_known {old : MappedProcess} (hold : map.processes.lookup MappedProcess.pid pid = some old)
    (ppid : UInt32) (name path : Option CString) :
    ∃ i e, (map.observeProcess pid ppid name path).2 = some i ∧
      (map.observeProcess pid ppid name path).1.processes.entries[i]? = some e ∧ e.status = old.status ∧
      (map.observeProcess pid ppid name path).1.totalAnomalies = map.totalAnomalies := by
  rcases observeProcess_cases map pid ppid name path with ⟨i, hfind, heq⟩ | ⟨hfind, -⟩
  · obtain ⟨old', hlookup, hplace⟩ := Pool.lookup_of_find? MappedProcess.pid hfind
    obtain rfl := Option.some.inj (hold.symm.trans hlookup)
    rw [heq]
    exact ⟨i, _, rfl, Pool.getElem?_modify hplace, rfl, rfl⟩
  · rw [Pool.lookup_eq_none_iff.2 hfind] at hold
    cases hold

/-- An observation of a pid that is not on the map returns an unknown entry, if any. -/
theorem observeProcess_new (hnew : map.processes.lookup MappedProcess.pid pid = none) {ppid : UInt32}
    {name path : Option CString} {i : Nat} (hreturned : (map.observeProcess pid ppid name path).2 = some i)
    (he : (map.observeProcess pid ppid name path).1.processes.entries[i]? = some e) : e.status = .unknown := by
  rcases observeProcess_cases map pid ppid name path with
    ⟨j, hfind, -⟩ | ⟨-, ⟨-, heq⟩ | ⟨processes, -, hpush, heq⟩⟩
  · rw [Pool.lookup_eq_none_iff.1 hnew] at hfind
    cases hfind
  · rw [heq] at hreturned
    cases hreturned
  · rw [heq] at hreturned he
    obtain rfl := Option.some.inj hreturned
    rw [processes_recordAnomaly, Pool.entries_push? hpush, List.length_append, List.length_singleton,
      Nat.add_sub_cancel, List.getElem?_append_right (Nat.le_refl _), Nat.sub_self] at he
    obtain rfl := Option.some.inj he
    rfl

/-- An observation keeps the status of every entry, and adds at most the observed pid, as unknown. -/
theorem lookup_observeProcess {ppid : UInt32} {name path : Option CString}
    (he : (map.observeProcess pid ppid name path).1.processes.lookup MappedProcess.pid pid' = some e) :
    (∃ old, map.processes.lookup MappedProcess.pid pid' = some old ∧ e.status = old.status) ∨
      (pid' = pid ∧ e.status = .unknown) := by
  rcases observeProcess_cases map pid ppid name path with
    ⟨j, hfind, heq⟩ | ⟨-, ⟨-, heq⟩ | ⟨processes, -, hpush, heq⟩⟩
  · have hmodify := Pool.lookup_modify pid' hfind (f := fun p =>
      { p with lastSeen := map.clock + 1, observationCount := p.observationCount + 1 }) fun _ => rfl
    rw [heq] at he
    have hlookup := hmodify.symm.trans he
    split at hlookup
    · next hpid =>
      obtain ⟨old, hold, rfl⟩ := Option.map_eq_some_iff.1 hlookup
      exact .inl ⟨old, hpid ▸ hold, rfl⟩
    · exact .inl ⟨e, hlookup, rfl⟩
  · rw [heq] at he
    exact .inl ⟨e, he, rfl⟩
  · rw [heq, processes_recordAnomaly] at he
    have hlookup := (Pool.lookup_push? MappedProcess.pid pid' hpush).symm.trans he
    cases hold : map.processes.lookup MappedProcess.pid pid' with
    | some old =>
      rw [hold] at hlookup
      exact .inl ⟨old, rfl, congrArg _ (Option.some.inj hlookup).symm⟩
    | none =>
      rw [hold, Option.none_or] at hlookup
      split at hlookup
      · next hpid =>
        obtain rfl := Option.some.inj hlookup
        exact .inr ⟨hpid.symm, rfl⟩
      · cases hlookup

/-- A mark gives its status to the entry of the pid and keeps the others. -/
theorem lookup_markProcess {status : ElemStatus}
    (he : (map.markProcess pid status).processes.lookup MappedProcess.pid pid' = some e) :
    ∃ old, map.processes.lookup MappedProcess.pid pid' = some old ∧
      e.status = if pid' = pid then status else old.status := by
  unfold markProcess at he
  split at he
  · next i hfind =>
    have hmodify := Pool.lookup_modify pid' hfind (f := fun p => { p with status := status }) fun _ => rfl
    have hlookup := hmodify.symm.trans he
    split at hlookup
    · next hpid =>
      obtain ⟨old, hold, rfl⟩ := Option.map_eq_some_iff.1 hlookup
      exact ⟨old, hpid ▸ hold, (if_pos hpid).symm⟩
    · next hpid => exact ⟨e, hlookup, (if_neg hpid).symm⟩
  · next hfind =>
    have hnone := Pool.lookup_eq_none_iff.2 hfind
    refine ⟨e, he, (if_neg ?_).symm⟩
    rintro rfl
    rw [hnone] at he
    cases he

/-- The baseline trusts what was unknown. -/
theorem lookup_establishBaseline
    (he : map.establishBaseline.processes.lookup MappedProcess.pid pid' = some e) :
    ∃ old, map.processes.lookup MappedProcess.pid pid' = some old ∧ e.status = baselineStatus old.status := by
  have hpid : ∀ p : MappedProcess, ({ p with status := baselineStatus p.status } : MappedProcess).pid = p.pid :=
    fun _ => rfl
  have hmap := Pool.lookup_map map.processes pid' hpid
  obtain ⟨old, hold, rfl⟩ := Option.map_eq_some_iff.1 (hmap.symm.trans he)
  exact ⟨old, hold, rfl⟩

theorem processes_observeConnection (map : TerritoryMap) (pid : UInt32) (remoteIp : Option (Vector UInt8 4))
    (remotePort : UInt16) (bytesSent : UInt64) :
    (map.observeConnection pid remoteIp remotePort bytesSent).1.processes = map.processes := by
  unfold observeConnection
  cases remoteIp with
  | none => rfl
  | some ip =>
    dsimp only
    split
    · rfl
    · split <;> rfl

theorem processes_watchFile (map : TerritoryMap) (path : Option CString) (isCritical : UInt8) :
    (map.watchFile path isCritical).1.processes = map.processes := by
  unfold watchFile
  cases path with
  | none => rfl
  | some path =>
    dsimp only
    split <;> rfl

theorem processes_observeMem (map : TerritoryMap) (base size : UInt64) (pid : UInt32) (exec write : UInt8) :
    (map.observeMem base size pid exec write).1.processes = map.processes := by
  unfold observeMem
  split
  · dsimp only
    split <;> split <;> rfl
  · dsimp only
    split
    · rfl
    · split <;> rfl

end TerritoryMap

/-! ### Every entry is explained -/

section

variable {map map' : TerritoryMap} {past : List TerritoryOp} {op : TerritoryOp}

/-- A call that does not touch the processes leaves them explained. -/
theorem Explained.frame (h : Explained (map, past)) (hsame : map'.processes = map.processes)
    (hop : ∀ pid status, op ≠ .markProcess pid status) : Explained (map', past ++ [op]) := by
  intro pid e he
  rw [hsame] at he
  exact (h pid e he).append (hop pid)

theorem Explained.observeProcess (h : Explained (map, past)) (pid ppid : UInt32) (name path : Option CString) :
    Explained ((map.observeProcess pid ppid name path).1, past ++ [.observeProcess pid ppid name path]) := by
  intro pid' e he
  rcases TerritoryMap.lookup_observeProcess he with ⟨old, hold, hstatus⟩ | ⟨rfl, hstatus⟩
  · rw [hstatus]
    exact (h pid' old hold).append fun _ => TerritoryOp.noConfusion
  · rw [hstatus]
    refine ⟨?_, fun htrusted => ElemStatus.noConfusion htrusted⟩
    rw [firstObservation_append, TerritoryOp.identityOf, if_pos rfl]
    cases firstObservation past pid' <;> rfl

theorem Explained.markProcess (h : Explained (map, past)) (pid : UInt32) (status : ElemStatus) :
    Explained (map.markProcess pid status, past ++ [.markProcess pid status]) := by
  intro pid' e he
  obtain ⟨old, hold, hstatus⟩ := TerritoryMap.lookup_markProcess he
  have hexplained := h pid' old hold
  rw [hstatus]
  by_cases hpid : pid' = pid
  · subst hpid
    rw [if_pos rfl]
    refine ⟨?_, ?_⟩
    · rw [firstObservation_append_of_none rfl]
      exact hexplained.observed
    · rintro rfl
      exact .inl ⟨past, [], rfl, hexplained.observed, fun _ hmem => absurd hmem List.not_mem_nil⟩
  · rw [if_neg hpid]
    refine hexplained.append fun status' heq => hpid ?_
    exact (TerritoryOp.markProcess.inj heq).1.symm

theorem Explained.establishBaseline (h : Explained (map, past)) :
    Explained (map.establishBaseline, past ++ [.establishBaseline]) := by
  intro pid e he
  obtain ⟨old, hold, hstatus⟩ := TerritoryMap.lookup_establishBaseline he
  have hexplained := h pid old hold
  rw [hstatus, TerritoryMap.baselineStatus]
  split
  · -- this baseline trusts the entry, which the past has explained
    have hsame : firstObservation (past ++ [.establishBaseline]) pid = firstObservation past pid :=
      firstObservation_append_of_none rfl
    exact ⟨hsame ▸ hexplained.observed, fun _ => .inr ⟨past, [], rfl, hsame.symm⟩⟩
  · exact hexplained.append fun _ => TerritoryOp.noConfusion

end

/-- Every call leaves every entry explained. -/
theorem explained_recorded {st : TerritoryRecord} (h : Explained st) (op : TerritoryOp) :
    Explained (op.recorded st) := by
  obtain ⟨map, past⟩ := st
  cases op with
  | init =>
    intro pid e he
    cases he
  | observeProcess pid ppid name path => exact h.observeProcess pid ppid name path
  | markProcess pid status => exact h.markProcess pid status
  | observeConnection pid remoteIp remotePort bytesSent =>
    exact h.frame (TerritoryMap.processes_observeConnection map pid remoteIp remotePort bytesSent)
      fun _ _ => TerritoryOp.noConfusion
  | watchFile path isCritical =>
    exact h.frame (TerritoryMap.processes_watchFile map path isCritical) fun _ _ => TerritoryOp.noConfusion
  | verifyFiles => exact h.frame rfl fun _ _ => TerritoryOp.noConfusion
  | observeMem base size pid exec write =>
    exact h.frame (TerritoryMap.processes_observeMem map base size pid exec write)
      fun _ _ => TerritoryOp.noConfusion
  | recordAnomaly type severity pid description => exact h.frame rfl fun _ _ => TerritoryOp.noConfusion
  | establishBaseline => exact h.establishBaseline

/-! ### Trust and identity -/

/-- The first observation is one of the calls. -/
theorem exists_observeProcess {past : List TerritoryOp} {pid : UInt32} {name path : Option CString}
    (h : firstObservation past pid = some (name, path)) :
    ∃ ppid, TerritoryOp.observeProcess pid ppid name path ∈ past := by
  obtain ⟨op, hop, hidentity⟩ := List.exists_of_findSome?_eq_some h
  cases op with
  | observeProcess pid' ppid name' path' =>
    rw [TerritoryOp.identityOf] at hidentity
    split at hidentity
    · next hpid =>
      obtain ⟨rfl, rfl⟩ := Prod.mk.inj (Option.some.inj hidentity)
      exact ⟨ppid, hpid ▸ hop⟩
    · cases hidentity
  | _ => cases hidentity

/-- Where the entries are explained, trust is bound to the identity exactly when the identity is kept. -/
theorem boundToIdentity_step_iff {st : TerritoryRecord} (h : Explained st) (op : TerritoryOp) :
    BoundToIdentity st op ↔ KeepsIdentity st op := by
  obtain ⟨map, past⟩ := st
  cases op with
  | observeProcess pid ppid name path =>
    cases hlookup : map.processes.lookup MappedProcess.pid pid with
    | none =>
      refine iff_of_true (fun i e hreturned he htrusted => ?_) fun old hold => ?_
      · rw [TerritoryMap.observeProcess_new hlookup hreturned he] at htrusted
        cases htrusted
      · cases hlookup.symm.trans hold
    | some old =>
      obtain ⟨i, e, hi, he, hstatus, htotal⟩ := TerritoryMap.observeProcess_known hlookup ppid name path
      constructor
      · intro hbound old' hold' htrusted
        obtain rfl := Option.some.inj (hlookup.symm.trans hold')
        by_contra hother
        -- the entry is found and reported, and no anomaly is recorded
        have hgrows := (hbound i e hi he (hstatus.trans htrusted)).2 hother
        rw [htotal] at hgrows
        exact UInt64.lt_irrefl _ hgrows
      · intro hkeeps i' e' hi' he' htrusted
        obtain rfl := Option.some.inj (hi.symm.trans hi')
        obtain rfl := Option.some.inj (he.symm.trans he')
        have hfirst := hkeeps old hlookup (hstatus.symm.trans htrusted)
        refine ⟨fun hunmarked => ?_, fun hother => absurd hfirst hother⟩
        rcases (h pid old hlookup).trusted (hstatus.symm.trans htrusted) with hmark | ⟨before, after, hpast, hbefore⟩
        · exact absurd hmark hunmarked
        · obtain ⟨ppid', hmem⟩ := exists_observeProcess (hbefore.trans hfirst)
          exact ⟨before, after, ppid', hpast, hmem⟩
  | _ => exact Iff.rfl

/-- In every run from the initialization of the map, trust is bound to the identity of the processes if and only if
every observation of a trusted pid gives the name and the path of its first observation. -/
theorem boundToIdentity_iff {tr : List (TerritoryOp × TerritoryRecord)}
    (h : Exec TrustStep (territoryMapInit, []) tr) :
    AllSteps BoundToIdentity (territoryMapInit, []) tr ↔ AllSteps KeepsIdentity (territoryMapInit, []) tr := by
  refine h.allSteps_congr (I := Explained) ?_ ?_ fun st op hst => boundToIdentity_step_iff hst op
  · intro pid e he
    cases he
  · rintro st op _ hst - rfl
    exact explained_recorded hst op

/-! ### The same program, and another one -/

/-- The run of a list of calls, each remembered. -/
def trustRun (ops : List TerritoryOp) : List (TerritoryOp × TerritoryRecord) :=
  driven TerritoryOp.recorded (territoryMapInit, []) ops

theorem exec_trustRun (ops : List TerritoryOp) : Exec TrustStep (territoryMapInit, []) (trustRun ops) :=
  @exec_driven _ _ TrustStep TerritoryOp.recorded (fun _ _ => rfl) _ ops

def shell : CString := ⟨"sh".toList, by simp⟩

def dropper : CString := ⟨"dropper".toList, by simp⟩

/-- A shell that is seen again after the baseline. -/
theorem shell_stays_trusted : AllSteps BoundToIdentity (territoryMapInit, [])
    (trustRun [.observeProcess 7 1 (some shell) none, .establishBaseline, .observeProcess 7 1 (some shell) none]) := by
  refine (boundToIdentity_iff (exec_trustRun _)).2 ⟨fun e he => ?_, trivial, fun e he htrusted => rfl, trivial⟩
  cases he

/-- After the baseline, another program runs under the pid of the shell and is reported as trusted. -/
theorem exists_trusted_impostor : ∃ tr, Exec TrustStep (territoryMapInit, []) tr ∧
    ¬ AllSteps BoundToIdentity (territoryMapInit, []) tr := by
  refine ⟨trustRun [.observeProcess 7 1 (some shell) none, .establishBaseline, .observeProcess 7 1 (some dropper) none],
    exec_trustRun _, ?_⟩
  rintro ⟨-, -, hbound, -⟩
  have hinit : Explained (territoryMapInit, []) := fun pid e he => nomatch he
  have hkeeps := (boundToIdentity_step_iff (explained_recorded (explained_recorded hinit _) _) _).1 hbound _ rfl rfl
  have hname := congrArg Subtype.val (Option.some.inj (congrArg Prod.fst (Option.some.inj hkeeps)))
  exact absurd hname (by decide)

end OperatingOrganism.Bot

import Mathlib.Data.List.Infix
import OperatingOrganism.Immune.SwarmMind
import OperatingOrganism.Library.InsertionDict

/-!
# The guards of the processes

`ProcWatchAgent` reports a parent and a child that have been seen together in attacks, a rise to the rights of the
system, and a debugger on one of the agents. `ChameleonAgent` hides the agents behind the names of system processes:
in every run an agent has a cover name exactly while the cloak is on, and no two agents share one
(`cover_names`). Lower case is that of the standard library.
-/

set_option autoImplicit false

namespace OperatingOrganism.Immune

open OperatingOrganism.Execution

structure ProcWatchAgent where
  threatsCaught : UInt64
  procsMonitored : UInt64
  deriving DecidableEq

namespace ProcWatchAgent

/-- `ProcWatchAgent::new` -/
def new : ProcWatchAgent := ⟨0, 0⟩

/-- `suspicious_pairs` -/
def suspiciousPairs : List (String × String) :=
  [("winword.exe", "cmd.exe"), ("winword.exe", "powershell.exe"), ("excel.exe", "cmd.exe"),
    ("excel.exe", "wscript.exe"), ("outlook.exe", "powershell.exe"), ("explorer.exe", "regsvr32.exe"),
    ("services.exe", "cmd.exe"), ("svchost.exe", "powershell.exe"), ("msiexec.exe", "cmd.exe"),
    ("werfault.exe", "cmd.exe")]

/-- A threat is caught. -/
def caught (agent : ProcWatchAgent) (threatLevel : ThreatLevel) (description : String) (confidence : UInt8) :
    ProcWatchAgent × Option SwarmEvent :=
  ({ agent with threatsCaught := agent.threatsCaught + 1 }, some
    { fromRole := .procWatch
      threatLevel := threatLevel
      description := description
      timestampNs := 0
      confidence := confidence
      signature := none })

/-- `check_spawn`, where `toLowercase` is that of the standard library. -/
def checkSpawn (toLowercase : String → String) (agent : ProcWatchAgent) (parentName childName : String)
    (childPid : UInt32) : ProcWatchAgent × Option SwarmEvent :=
  let agent := { agent with procsMonitored := agent.procsMonitored + 1 }
  let parent := (toLowercase parentName).toList
  let child := (toLowercase childName).toList
  if suspiciousPairs.any fun pair => pair.1.toList <:+: parent ∧ pair.2.toList <:+: child then
    agent.caught .alert
      ("Suspicious spawn: " ++ parentName ++ " → " ++ childName ++ " (pid=" ++ toString childPid ++ ")") 78
  else (agent, none)

/-- `check_priv_escalation` -/
def checkPrivEscalation (agent : ProcWatchAgent) (pid : UInt32) (fromLevel toLevel : UInt8) :
    ProcWatchAgent × Option SwarmEvent :=
  if fromLevel < 3 ∧ 4 ≤ toLevel then
    agent.caught .alert
      ("Privilege escalation: pid=" ++ toString pid ++ " level " ++ toString fromLevel ++ " → " ++ toString toLevel) 82
  else (agent, none)

/-- `check_debugger_attach` -/
def checkDebuggerAttach (agent : ProcWatchAgent) (targetPid : UInt32) (botPids : List UInt32) :
    ProcWatchAgent × Option SwarmEvent :=
  if targetPid ∈ botPids then
    agent.caught .survival ("Debugger attached to Bot process pid=" ++ toString targetPid) 95
  else (agent, none)

end ProcWatchAgent

/-! ### Covers -/

structure BotCover where
  originalName : String
  coverName : String
  isActive : Bool
  deriving DecidableEq

structure FakeMemRegion where
  addr : UInt64
  size : UInt64
  fakeLabel : String
  isActive : Bool
  deriving DecidableEq

structure ChameleonAgent where
  covers : List BotCover
  fakeMemRegions : List FakeMemRegion
  isCloaked : Bool
  cloakActivations : UInt64
  deriving DecidableEq

namespace ChameleonAgent

/-- `ChameleonAgent::new` -/
def new : ChameleonAgent := ⟨[], [], false, 0⟩

/-- `agent_covers` -/
def agentCovers : List (String × String) :=
  [("swarm_mind", "svchost.exe"), ("mem_watch", "MsMpEng.exe"), ("net_watch", "lsass.exe"),
    ("fs_watch", "SearchIndexer.exe"), ("proc_watch", "WmiPrvSE.exe"), ("honey_trap", "spoolsv.exe"),
    ("regen_agent", "RuntimeBroker.exe")]

/-- `activate_cloak` -/
def activateCloak (agent : ChameleonAgent) : ChameleonAgent × SwarmEvent :=
  let covers := agentCovers.map fun cover => ⟨cover.1, cover.2, true⟩
  ({ agent with isCloaked := true, cloakActivations := agent.cloakActivations + 1, covers := covers },
    { fromRole := .chameleon
      threatLevel := .survival
      description := "Camouflage active: " ++ toString covers.length ++ " agents re-labeled"
      timestampNs := 0
      confidence := 100
      signature := none })

/-- `deactivate_cloak` -/
def deactivateCloak (agent : ChameleonAgent) : ChameleonAgent :=
  { agent with isCloaked := false, covers := agent.covers.map fun cover => { cover with isActive := false } }

/-- `deploy_fake_memory_map` -/
def deployFakeMemoryMap (agent : ChameleonAgent) (baseAddr : UInt64) : ChameleonAgent :=
  let decoys : List (UInt64 × UInt64 × String) :=
    [(baseAddr, 0x1000, "kernel32.dll"), (baseAddr + 0x2000, 0x800, "ntdll.dll"),
      (baseAddr + 0x5000, 0x400, "[stack]")]
  { agent with fakeMemRegions := agent.fakeMemRegions ++ decoys.map fun d => ⟨d.1, d.2.1, d.2.2, true⟩ }

/-- `get_cover_name` -/
def getCoverName (agent : ChameleonAgent) (original : String) : Option String :=
  if !agent.isCloaked then none
  else (agent.covers.find? fun cover => cover.isActive && cover.originalName == original).map BotCover.coverName

end ChameleonAgent

inductive ChameleonOp where
  | activateCloak
  | deactivateCloak
  | deployFakeMemoryMap (baseAddr : UInt64)

def ChameleonOp.run (agent : ChameleonAgent) : ChameleonOp → ChameleonAgent
  | .activateCloak => agent.activateCloak.1
  | .deactivateCloak => agent.deactivateCloak
  | .deployFakeMemoryMap baseAddr => agent.deployFakeMemoryMap baseAddr

def ChameleonStep (agent : ChameleonAgent) (op : ChameleonOp) (agent' : ChameleonAgent) : Prop :=
  agent' = op.run agent

namespace ChameleonAgent

/-- While the cloak is on the covers are those of the table, all of them active. -/
def Covered (agent : ChameleonAgent) : Prop :=
  agent.isCloaked = true → agent.covers = agentCovers.map fun cover => ⟨cover.1, cover.2, true⟩

theorem covered_run {agent : ChameleonAgent} (h : agent.Covered) (op : ChameleonOp) : (op.run agent).Covered := by
  cases op with
  | activateCloak => exact fun _ => rfl
  | deactivateCloak =>
    intro hcloaked
    cases hcloaked
  | deployFakeMemoryMap baseAddr => exact h

/-- The table of the covers, from the agents. -/
def coverTable : InsertionDict String String := ⟨agentCovers, by decide⟩

theorem getCoverName_of_cloaked {agent : ChameleonAgent} (h : agent.Covered) (hcloaked : agent.isCloaked = true)
    (original : String) : agent.getCoverName original = coverTable.get? original := by
  rw [getCoverName, hcloaked, h hcloaked, InsertionDict.get?, List.find?_map, Option.map_map]
  simp [Function.comp_def, coverTable]
  rfl

/-- In every run, an agent has a cover name exactly while the cloak is on and it is in the table, and no two agents
share one. -/
theorem cover_names {tr : List (ChameleonOp × ChameleonAgent)} (h : Exec ChameleonStep .new tr) :
    AllStates (fun agent =>
      (∀ original cover, agent.getCoverName original = some cover ↔
        agent.isCloaked = true ∧ (original, cover) ∈ agentCovers) ∧
      ∀ a b cover, agent.getCoverName a = some cover → agent.getCoverName b = some cover → a = b) .new tr := by
  have hnew : ChameleonAgent.new.Covered := by
    intro hcloaked
    cases hcloaked
  have hkept : ∀ agent op agent', Covered agent → ChameleonStep agent op agent' → Covered agent' := by
    rintro agent op _ hagent rfl
    exact covered_run hagent op
  apply (h.invariant hnew hkept).imp
  intro agent hagent
  have hname : ∀ original cover, agent.getCoverName original = some cover ↔
      agent.isCloaked = true ∧ (original, cover) ∈ agentCovers := by
    intro original cover
    by_cases hcloaked : agent.isCloaked = true
    · rw [getCoverName_of_cloaked hagent hcloaked, ← InsertionDict.mem_items_iff]
      simp [hcloaked, coverTable]
    · simp [getCoverName, hcloaked]
  refine ⟨hname, ?_⟩
  intro a b cover ha hb
  -- no cover is in the table twice
  have hnodup : (agentCovers.map Prod.snd).Nodup := by decide
  have hsame := List.inj_on_of_nodup_map hnodup ((hname a cover).1 ha).2 ((hname b cover).1 hb).2 rfl
  exact congrArg Prod.fst hsame

end ChameleonAgent

end OperatingOrganism.Immune

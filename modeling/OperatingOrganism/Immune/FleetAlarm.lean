import OperatingOrganism.Immune.BootWatch
import OperatingOrganism.Immune.FsWatch
import OperatingOrganism.Immune.HoneyTrap
import OperatingOrganism.Immune.KernelWatch
import OperatingOrganism.Immune.MemWatch
import OperatingOrganism.Immune.NetWatch
import OperatingOrganism.Immune.Neutralizer
import OperatingOrganism.Immune.ProcWatch
import OperatingOrganism.Immune.Regeneration
import OperatingOrganism.Immune.RegenAgent

/-!
# The alarm of the whole fleet

The eleven agents answer their calls with events, and the coordinator hears of them: any event that some agent has
reported may arrive, at any time, in any order, once, often or never. No agent ever proposes the levels `Dormant` and
`Vigilance`, and none reports with less confidence than the coordinator asks for. So the fleet sleeps through every
attack until someone else proposes `Vigilance` (`sleeps_iff`), and whatever the agents report decides on the level by
the matrix alone (`reports_decided_by_matrix`).
-/

set_option autoImplicit false

namespace OperatingOrganism.Immune

open OperatingOrganism.Execution

structure ImmuneAgents where
  memWatch : MemWatchAgent
  netWatch : NetWatchAgent
  fsWatch : FsWatchAgent
  procWatch : ProcWatchAgent
  kernelWatch : KernelWatchAgent
  bootWatch : BootWatchAgent
  quarantine : QuarantineAgent
  honeyTrap : HoneyTrapAgent
  neutralizer : NeutralizerAgent
  chameleon : ChameleonAgent
  regen : RegenAgent

def ImmuneAgents.new : ImmuneAgents :=
  ⟨.new, .new, .new, .new, .new, .new, .new, .new, .new, .new, .new⟩

/-- The calls on the agents. -/
inductive AgentCall where
  | scanRegion (region : List UInt8) (addr : UInt64)
  | onConnection (destIp : String) (destPort : UInt16) (bytesSent : UInt64)
  | resetWindow
  | onFileModified (path ext : String)
  | resetCounters
  | checkSpawn (parentName childName : String) (childPid : UInt32)
  | checkPrivEscalation (pid : UInt32) (fromLevel toLevel : UInt8)
  | checkDebuggerAttach (targetPid : UInt32) (botPids : List UInt32)
  | snapshotSsdt (ssdt : List UInt64)
  | checkSsdt (currentSsdt : List UInt64)
  | checkHiddenDriver (driverBase driverSize : UInt64)
  | checkDkomEprocess (visiblePids realPids : List UInt32)
  | watch (component : BootComponent) (path : String) (expectedHash : FileHash)
  | watchOoDefaults
  | verifyFile (path : String) (actualHash : FileHash)
  | verifyAllWithMock
  | quarantineProcess (pid : UInt32) (reason : String)
  | quarantineFile (path reason : String)
  | release (identifier : String)
  | deployFakeCredentials (path : String)
  | deployFakeBotProcess (fakePidName : String)
  | onHoneyTouched (location : String) (attackerPid : UInt32)
  | deactivateAll
  | terminateProcess (pid : UInt32) (reason : String) (confidence : UInt8)
  | deleteQuarantinedFile (path : String) (confidence : UInt8)
  | activateCloak
  | deactivateCloak
  | deployFakeMemoryMap (baseAddr : UInt64)
  | snapshotAgent (role : AgentRole) (generation : UInt32)
  | regenerate (role : AgentRole)
  | checkAndHeal (deadAgents : List AgentRole)
  | invalidateAllSnapshots

/-- The agents after a call, and the events that it returns. -/
def AgentCall.run (toLowercase : String → String) (agents : ImmuneAgents) : AgentCall → ImmuneAgents × List SwarmEvent
  | .scanRegion region addr =>
    let (agent, event) := agents.memWatch.scanRegion region addr
    ({ agents with memWatch := agent }, event.toList)
  | .onConnection destIp destPort bytesSent =>
    let (agent, event) := agents.netWatch.onConnection destIp destPort bytesSent
    ({ agents with netWatch := agent }, event.toList)
  | .resetWindow => ({ agents with netWatch := agents.netWatch.resetWindow }, [])
  | .onFileModified path ext =>
    let (agent, event) := agents.fsWatch.onFileModified path ext
    ({ agents with fsWatch := agent }, event.toList)
  | .resetCounters => ({ agents with fsWatch := agents.fsWatch.resetCounters }, [])
  | .checkSpawn parentName childName childPid =>
    let (agent, event) := agents.procWatch.checkSpawn toLowercase parentName childName childPid
    ({ agents with procWatch := agent }, event.toList)
  | .checkPrivEscalation pid fromLevel toLevel =>
    let (agent, event) := agents.procWatch.checkPrivEscalation pid fromLevel toLevel
    ({ agents with procWatch := agent }, event.toList)
  | .checkDebuggerAttach targetPid botPids =>
    let (agent, event) := agents.procWatch.checkDebuggerAttach targetPid botPids
    ({ agents with procWatch := agent }, event.toList)
  | .snapshotSsdt ssdt => ({ agents with kernelWatch := agents.kernelWatch.snapshotSsdt ssdt }, [])
  | .checkSsdt currentSsdt =>
    let (agent, event) := agents.kernelWatch.checkSsdt currentSsdt
    ({ agents with kernelWatch := agent }, event.toList)
  | .checkHiddenDriver driverBase driverSize =>
    let (agent, event) := agents.kernelWatch.checkHiddenDriver driverBase driverSize
    ({ agents with kernelWatch := agent }, event.toList)
  | .checkDkomEprocess visiblePids realPids =>
    let (agent, event) := agents.kernelWatch.checkDkomEprocess visiblePids realPids
    ({ agents with kernelWatch := agent }, event.toList)
  | .watch component path expectedHash =>
    ({ agents with bootWatch := agents.bootWatch.watch component path expectedHash }, [])
  | .watchOoDefaults => ({ agents with bootWatch := agents.bootWatch.watchOoDefaults }, [])
  | .verifyFile path actualHash =>
    let (agent, event) := agents.bootWatch.verifyFile path actualHash
    ({ agents with bootWatch := agent }, event.toList)
  | .verifyAllWithMock =>
    let (agent, events) := agents.bootWatch.verifyAllWithMock
    ({ agents with bootWatch := agent }, events)
  | .quarantineProcess pid reason =>
    let (agent, event) := agents.quarantine.quarantineProcess pid reason
    ({ agents with quarantine := agent }, [event])
  | .quarantineFile path reason =>
    let (agent, event) := agents.quarantine.quarantineFile path reason
    ({ agents with quarantine := agent }, [event])
  | .release identifier => ({ agents with quarantine := (agents.quarantine.release identifier).1 }, [])
  | .deployFakeCredentials path => ({ agents with honeyTrap := agents.honeyTrap.deployFakeCredentials path }, [])
  | .deployFakeBotProcess fakePidName =>
    ({ agents with honeyTrap := agents.honeyTrap.deployFakeBotProcess fakePidName }, [])
  | .onHoneyTouched location attackerPid =>
    let (agent, event) := agents.honeyTrap.onHoneyTouched location attackerPid
    ({ agents with honeyTrap := agent }, event.toList)
  | .deactivateAll => ({ agents with honeyTrap := agents.honeyTrap.deactivateAll }, [])
  | .terminateProcess pid reason confidence =>
    let (agent, event) := agents.neutralizer.terminateProcess pid reason confidence
    ({ agents with neutralizer := agent }, event.toList)
  | .deleteQuarantinedFile path confidence =>
    let (agent, event) := agents.neutralizer.deleteQuarantinedFile path confidence
    ({ agents with neutralizer := agent }, event.toList)
  | .activateCloak =>
    let (agent, event) := agents.chameleon.activateCloak
    ({ agents with chameleon := agent }, [event])
  | .deactivateCloak => ({ agents with chameleon := agents.chameleon.deactivateCloak }, [])
  | .deployFakeMemoryMap baseAddr =>
    ({ agents with chameleon := agents.chameleon.deployFakeMemoryMap baseAddr }, [])
  | .snapshotAgent role generation => ({ agents with regen := agents.regen.snapshotAgent role generation }, [])
  | .regenerate role =>
    let (agent, event) := agents.regen.regenerate role
    ({ agents with regen := agent }, event.toList)
  | .checkAndHeal deadAgents =>
    let (agent, events) := agents.regen.checkAndHeal deadAgents
    ({ agents with regen := agent }, events)
  | .invalidateAllSnapshots => ({ agents with regen := agents.regen.invalidateAllSnapshots }, [])

/-! ### What the agents report -/

/-- The coordinator has enough confidence in the event, which does not propose one of the two lowest levels. -/
def Alarming (event : SwarmEvent) : Prop :=
  60 ≤ event.confidence ∧ event.threatLevel ≠ .dormant ∧ event.threatLevel ≠ .vigilance

section Reports

variable {event : SwarmEvent}

theorem alarming_scanRegion {agent : MemWatchAgent} {region : List UInt8} {addr : UInt64}
    (h : event ∈ (agent.scanRegion region addr).2) : Alarming event := by
  unfold MemWatchAgent.scanRegion at h
  split at h
  · simp [MemWatchAgent.report] at h
    simp [Alarming, ← h]
  · split at h
    · simp [MemWatchAgent.report] at h
      simp [Alarming, ← h]
    · cases h

theorem alarming_onConnection {agent : NetWatchAgent} {destIp : String} {destPort : UInt16} {bytesSent : UInt64}
    (h : event ∈ (agent.onConnection destIp destPort bytesSent).2) : Alarming event := by
  unfold NetWatchAgent.onConnection at h
  dsimp only at h
  split at h
  · simp at h
    simp [Alarming, ← h]
  · split at h
    · simp at h
      simp [Alarming, ← h]
    · cases h

theorem alarming_onFileModified {agent : FsWatchAgent} {path ext : String}
    (h : event ∈ (agent.onFileModified path ext).2) : Alarming event := by
  unfold FsWatchAgent.onFileModified at h
  dsimp only at h
  split at h
  · simp [FsWatchAgent.ransomEvent] at h
    simp [Alarming, ← h]
  · split at h
    · simp [FsWatchAgent.massEvent] at h
      simp [Alarming, ← h]
    · cases h

theorem alarming_checkSpawn {toLowercase : String → String} {agent : ProcWatchAgent} {parentName childName : String}
    {childPid : UInt32} (h : event ∈ (agent.checkSpawn toLowercase parentName childName childPid).2) :
    Alarming event := by
  unfold ProcWatchAgent.checkSpawn at h
  dsimp only at h
  split at h
  · simp [ProcWatchAgent.caught] at h
    simp [Alarming, ← h]
  · cases h

theorem alarming_checkPrivEscalation {agent : ProcWatchAgent} {pid : UInt32} {fromLevel toLevel : UInt8}
    (h : event ∈ (agent.checkPrivEscalation pid fromLevel toLevel).2) : Alarming event := by
  unfold ProcWatchAgent.checkPrivEscalation at h
  split at h
  · simp [ProcWatchAgent.caught] at h
    simp [Alarming, ← h]
  · cases h

theorem alarming_checkDebuggerAttach {agent : ProcWatchAgent} {targetPid : UInt32} {botPids : List UInt32}
    (h : event ∈ (agent.checkDebuggerAttach targetPid botPids).2) : Alarming event := by
  unfold ProcWatchAgent.checkDebuggerAttach at h
  split at h
  · simp [ProcWatchAgent.caught] at h
    simp [Alarming, ← h]
  · cases h

theorem alarming_checkSsdt {agent : KernelWatchAgent} {currentSsdt : List UInt64}
    (h : event ∈ (agent.checkSsdt currentSsdt).2) : Alarming event := by
  unfold KernelWatchAgent.checkSsdt at h
  dsimp only at h
  split at h
  · cases h
  · split at h
    · cases h
    · -- the confidence is 95 or 85
      simp at h
      simp only [Alarming, ← h]
      split <;> simp

theorem alarming_checkHiddenDriver {agent : KernelWatchAgent} {driverBase driverSize : UInt64}
    (h : event ∈ (agent.checkHiddenDriver driverBase driverSize).2) : Alarming event := by
  unfold KernelWatchAgent.checkHiddenDriver at h
  dsimp only at h
  split at h
  · simp at h
    simp [Alarming, ← h]
  · cases h

theorem alarming_checkDkomEprocess {agent : KernelWatchAgent} {visiblePids realPids : List UInt32}
    (h : event ∈ (agent.checkDkomEprocess visiblePids realPids).2) : Alarming event := by
  unfold KernelWatchAgent.checkDkomEprocess at h
  dsimp only at h
  split at h
  · cases h
  · simp at h
    simp [Alarming, ← h]

theorem alarming_verifyFile {agent : BootWatchAgent} {path : String} {actualHash : FileHash}
    (h : event ∈ (agent.verifyFile path actualHash).2) : Alarming event := by
  unfold BootWatchAgent.verifyFile at h
  dsimp only at h
  split at h
  · cases h
  · split at h
    · cases h
    · -- the level is that of a lockdown, or of combat
      simp [violationEvent] at h
      simp only [Alarming, ← h]
      split <;> simp

theorem alarming_verifyEach {agent : BootWatchAgent} {files : List (String × FileHash)}
    (h : event ∈ (agent.verifyEach files).2) : Alarming event := by
  induction files generalizing agent with
  | nil => cases h
  | cons file files ih =>
    rcases List.mem_append.1 h with hfirst | hrest
    · exact alarming_verifyFile (Option.mem_toList.1 hfirst)
    · exact ih hrest

theorem alarming_onHoneyTouched {agent : HoneyTrapAgent} {location : String} {attackerPid : UInt32}
    (h : event ∈ (agent.onHoneyTouched location attackerPid).2) : Alarming event := by
  unfold HoneyTrapAgent.onHoneyTouched at h
  split at h
  · simp [honeyEvent] at h
    simp [Alarming, ← h]
  · cases h

/-- The neutralizer passes the confidence on that it demands. -/
theorem alarming_terminateProcess {agent : NeutralizerAgent} (hmin : agent.minConfidence = 90) {pid : UInt32}
    {reason : String} {confidence : UInt8} (h : event ∈ (agent.terminateProcess pid reason confidence).2) :
    Alarming event := by
  unfold NeutralizerAgent.terminateProcess at h
  split at h
  · cases h
  · next hact =>
    have hconfident : (90 : UInt8) ≤ confidence := by simpa [NeutralizerAgent.canAct, hmin] using hact
    simp at h
    simpa [Alarming, ← h] using UInt8.le_trans (by decide) hconfident

theorem alarming_deleteQuarantinedFile {agent : NeutralizerAgent} (hmin : agent.minConfidence = 90) {path : String}
    {confidence : UInt8} (h : event ∈ (agent.deleteQuarantinedFile path confidence).2) : Alarming event := by
  unfold NeutralizerAgent.deleteQuarantinedFile at h
  split at h
  · cases h
  · next hact =>
    have hconfident : (90 : UInt8) ≤ confidence := by simpa [NeutralizerAgent.canAct, hmin] using hact
    split at h
    · cases h
    · simp at h
      simpa [Alarming, ← h] using UInt8.le_trans (by decide) hconfident

theorem alarming_regenerate {agent : RegenAgent} {role : AgentRole} (h : event ∈ (agent.regenerate role).2) :
    Alarming event := by
  unfold RegenAgent.regenerate at h
  split at h
  · simp [RegenAgent.regeneratedEvent] at h
    simp [Alarming, ← h]
  · cases h

theorem alarming_heal {st : RegenAgent × List SwarmEvent} (hst : ∀ e ∈ st.2, Alarming e) {role : AgentRole}
    (h : event ∈ (RegenAgent.heal st role).2) : Alarming event := by
  unfold RegenAgent.heal at h
  split at h
  · next agent healed hwarm =>
    rcases List.mem_append.1 h with hold | hnew
    · exact hst event hold
    · rw [List.mem_singleton.1 hnew]
      apply alarming_regenerate
      rw [hwarm]
      rfl
  · rcases List.mem_append.1 h with hold | hnew
    · exact hst event hold
    · rw [List.mem_singleton.1 hnew]
      simp [Alarming, RegenAgent.coldEvent]

theorem alarming_foldl_heal {deadAgents : List AgentRole} {st : RegenAgent × List SwarmEvent}
    (hst : ∀ e ∈ st.2, Alarming e) (h : event ∈ (deadAgents.foldl RegenAgent.heal st).2) : Alarming event := by
  induction deadAgents generalizing st with
  | nil => exact hst event h
  | cons role deadAgents ih => exact ih (fun e he => alarming_heal hst he) h

variable {toLowercase : String → String} {agents : ImmuneAgents}

/-- Every event that a call returns is alarming. -/
theorem alarming_run (hmin : agents.neutralizer.minConfidence = 90) (call : AgentCall)
    (h : event ∈ (call.run toLowercase agents).2) : Alarming event := by
  cases call with
  | scanRegion region addr => exact alarming_scanRegion (Option.mem_toList.1 h)
  | onConnection destIp destPort bytesSent => exact alarming_onConnection (Option.mem_toList.1 h)
  | onFileModified path ext => exact alarming_onFileModified (Option.mem_toList.1 h)
  | checkSpawn parentName childName childPid => exact alarming_checkSpawn (Option.mem_toList.1 h)
  | checkPrivEscalation pid fromLevel toLevel => exact alarming_checkPrivEscalation (Option.mem_toList.1 h)
  | checkDebuggerAttach targetPid botPids => exact alarming_checkDebuggerAttach (Option.mem_toList.1 h)
  | checkSsdt currentSsdt => exact alarming_checkSsdt (Option.mem_toList.1 h)
  | checkHiddenDriver driverBase driverSize => exact alarming_checkHiddenDriver (Option.mem_toList.1 h)
  | checkDkomEprocess visiblePids realPids => exact alarming_checkDkomEprocess (Option.mem_toList.1 h)
  | verifyFile path actualHash => exact alarming_verifyFile (Option.mem_toList.1 h)
  | verifyAllWithMock => exact alarming_verifyEach h
  -- these two and the cloak report without a condition
  | quarantineProcess pid reason =>
    rw [List.mem_singleton.1 h]
    simp [Alarming]
  | quarantineFile path reason =>
    rw [List.mem_singleton.1 h]
    simp [Alarming]
  | onHoneyTouched location attackerPid => exact alarming_onHoneyTouched (Option.mem_toList.1 h)
  | terminateProcess pid reason confidence => exact alarming_terminateProcess hmin (Option.mem_toList.1 h)
  | deleteQuarantinedFile path confidence => exact alarming_deleteQuarantinedFile hmin (Option.mem_toList.1 h)
  | activateCloak =>
    rw [List.mem_singleton.1 h]
    simp [Alarming]
  | regenerate role => exact alarming_regenerate (Option.mem_toList.1 h)
  | checkAndHeal deadAgents => exact alarming_foldl_heal (fun _ he => absurd he List.not_mem_nil) h
  | _ => cases h

/-- No call changes the confidence that the neutralizer demands. -/
theorem minConfidence_run (call : AgentCall) :
    (call.run toLowercase agents).1.neutralizer.minConfidence = agents.neutralizer.minConfidence := by
  cases call with
  | terminateProcess pid reason confidence =>
    have hkept : (agents.neutralizer.terminateProcess pid reason confidence).1.minConfidence =
        agents.neutralizer.minConfidence := by
      rcases terminateProcess_cases agents.neutralizer pid reason confidence with ⟨-, h⟩ | ⟨-, r, h, -⟩
      · rw [h]
      · rw [h, NeutralizerAgent.act]
    exact hkept
  | deleteQuarantinedFile path confidence =>
    have hkept : (agents.neutralizer.deleteQuarantinedFile path confidence).1.minConfidence =
        agents.neutralizer.minConfidence := by
      rcases deleteQuarantinedFile_cases agents.neutralizer path confidence with ⟨-, h⟩ | ⟨-, -, r, h, -⟩
      · rw [h]
      · rw [h, NeutralizerAgent.act]
    exact hkept
  | _ => rfl

end Reports

/-! ### The fleet and its coordinator -/

/-- The agents, the coordinator, and every event that was reported so far. -/
structure ImmuneSystem where
  agents : ImmuneAgents
  mind : SwarmMind
  reports : List SwarmEvent

def ImmuneSystem.new : ImmuneSystem := ⟨.new, .new, []⟩

/-- An agent is called, a report arrives, someone else proposes a level, or the dead are regenerated. -/
inductive SystemOp where
  | call (agentCall : AgentCall)
  | deliver (event : SwarmEvent)
  | command (event : SwarmEvent)
  | checkAndRegen

namespace SystemOp

/-- Only what was reported arrives. -/
def Enabled (st : ImmuneSystem) : SystemOp → Prop
  | .deliver event => event ∈ st.reports
  | _ => True

instance (st : ImmuneSystem) (op : SystemOp) : Decidable (op.Enabled st) := by
  cases op <;> unfold Enabled <;> infer_instance

def run (toLowercase : String → String) (st : ImmuneSystem) : SystemOp → ImmuneSystem
  | .call agentCall =>
    let (agents, events) := agentCall.run toLowercase st.agents
    { st with agents := agents, reports := st.reports ++ events }
  | .deliver event | .command event => { st with mind := (st.mind.processEvent event).1 }
  | .checkAndRegen => { st with mind := st.mind.checkAndRegen }

end SystemOp

section System

variable (toLowercase : String → String)

def SystemStep (st : ImmuneSystem) (op : SystemOp) (st' : ImmuneSystem) : Prop :=
  op.Enabled st ∧ st' = op.run toLowercase st

/-- Everything that was reported is alarming. -/
structure ReportsAlarm (st : ImmuneSystem) : Prop where
  minConfidence : st.agents.neutralizer.minConfidence = 90
  reports : ∀ event ∈ st.reports, Alarming event

theorem reportsAlarm_new : ReportsAlarm .new := ⟨rfl, fun _ h => absurd h List.not_mem_nil⟩

variable {toLowercase} {st : ImmuneSystem}

theorem ReportsAlarm.run (h : ReportsAlarm st) (op : SystemOp) : ReportsAlarm (op.run toLowercase st) := by
  cases op with
  | call agentCall =>
    refine ⟨(minConfidence_run agentCall).trans h.minConfidence, ?_⟩
    intro event hevent
    rcases List.mem_append.1 hevent with hold | hnew
    · exact h.reports event hold
    · exact alarming_run h.minConfidence agentCall hnew
  | deliver event => exact ⟨h.minConfidence, h.reports⟩
  | command event => exact ⟨h.minConfidence, h.reports⟩
  | checkAndRegen => exact ⟨h.minConfidence, h.reports⟩

/-! ### Sleep -/

/-- Nobody was woken up: the level is `Dormant`, and no agent has got an order. -/
def Asleep (st : ImmuneSystem) : Prop :=
  st.mind.level = ThreatLevel.dormant.toU8 ∧ st.mind.agents = SwarmMind.new.agents ∧ st.mind.totalTransitions = 0

/-- Someone proposes `Vigilance`, with enough confidence. -/
def Wakes (op : SystemOp) : Prop :=
  ∃ event, op = .command event ∧ event.threatLevel = .vigilance ∧ 60 ≤ event.confidence

theorem Asleep.currentLevel (h : Asleep st) : st.mind.currentLevel = .dormant := by
  rw [SwarmMind.currentLevel, h.1]
  rfl

/-- An event that does not propose `Vigilance`, or not firmly enough, lets the coordinator sleep. -/
theorem Asleep.processEvent (h : Asleep st) {event : SwarmEvent}
    (hcalm : ¬ (event.threatLevel = .vigilance ∧ 60 ≤ event.confidence)) :
    Asleep { st with mind := (st.mind.processEvent event).1 } := by
  -- the only way out of the dormant level
  have hmatrix : ThreatLevel.dormant.canTransitionTo event.threatLevel = true → event.threatLevel = .vigilance := by
    cases event.threatLevel <;> decide
  rcases st.mind.processEvent_cases event with ⟨-, heq⟩ | ⟨-, hmoves, -⟩ | ⟨-, -, heq⟩
  · rw [heq]
    exact h
  · rw [SwarmMind.Moves, h.currentLevel] at hmoves
    exact absurd ⟨hmatrix hmoves.1, hmoves.2⟩ hcalm
  · rw [heq]
    cases event.signature with
    | none => exact h
    | some signature =>
      unfold Asleep
      simp only [Option.elim_some, SwarmMind.level_learnAntigen, SwarmMind.agents_learnAntigen,
        SwarmMind.totalTransitions_learnAntigen]
      exact h

/-- One that does wakes it up. -/
theorem not_asleep_of_woken (h : Asleep st) {event : SwarmEvent} (hlevel : event.threatLevel = .vigilance)
    (hconfident : 60 ≤ event.confidence) : ¬ Asleep { st with mind := (st.mind.processEvent event).1 } := by
  intro hasleep
  rcases processEvent_spec st.mind event hconfident with ⟨-, -, -, hcount, -⟩ | ⟨hsame | hrefused, -, -, -⟩
  · have hnone : st.mind.totalTransitions + 1 = 0 := hcount.symm.trans hasleep.2.2
    rw [h.2.2] at hnone
    exact absurd hnone (by decide)
  · rw [h.currentLevel, hlevel] at hsame
    cases hsame
  · rw [h.currentLevel, hlevel] at hrefused
    exact absurd hrefused (by decide)

theorem Asleep.checkAndRegen (h : Asleep st) : Asleep { st with mind := st.mind.checkAndRegen } := by
  -- the agents are those of the start, and none of them is dead
  have hdead : st.mind.deadRoles = [] := by
    rw [SwarmMind.deadRoles, h.2.1]
    rfl
  unfold Asleep SwarmMind.checkAndRegen
  split
  · rw [hdead]
    exact h
  · exact h

/-- In every run, whatever happens to the agents and in whatever order their reports arrive, once, often or never: the
level stays `Dormant` and no agent ever gets an order, if and only if nobody else proposes `Vigilance`. -/
theorem sleeps_iff {tr : List (SystemOp × ImmuneSystem)} (h : Exec (SystemStep toLowercase) .new tr) :
    AllStates Asleep .new tr ↔ AllSteps (fun _ op => ¬ Wakes op) .new tr := by
  apply h.allStates_iff_allSteps (I := ReportsAlarm) reportsAlarm_new ⟨rfl, rfl, rfl⟩
  · rintro st op _ hst ⟨-, rfl⟩
    exact hst.run op
  · rintro st op _ hst hasleep ⟨henabled, rfl⟩
    cases op with
    | call agentCall => exact iff_of_true hasleep fun ⟨_, heq, _⟩ => SystemOp.noConfusion heq
    | checkAndRegen => exact iff_of_true hasleep.checkAndRegen fun ⟨_, heq, _⟩ => SystemOp.noConfusion heq
    | deliver event =>
      refine iff_of_true (hasleep.processEvent ?_) fun ⟨_, heq, _⟩ => SystemOp.noConfusion heq
      -- a report proposes more than vigilance
      exact fun hwakes => (hst.reports event henabled).2.2 hwakes.1
    | command event =>
      constructor
      · rintro hstill ⟨_, heq, hlevel, hconfident⟩
        cases heq
        exact not_asleep_of_woken hasleep hlevel hconfident hstill
      · intro hcalm
        apply hasleep.processEvent
        exact fun hwakes => hcalm ⟨event, rfl, hwakes⟩

/-! ### Awake -/

/-- A report that arrives proposes neither `Dormant` nor `Vigilance`, and it is followed exactly when the matrix allows
it; and nothing but reports and commands changes the level. -/
def DecidedByMatrix (toLowercase : String → String) (st : ImmuneSystem) (op : SystemOp) : Prop :=
  match op with
  | .deliver event => event ∈ st.reports →
      (event.threatLevel ≠ .dormant ∧ event.threatLevel ≠ .vigilance) ∧
      (op.run toLowercase st).mind.currentLevel =
        if st.mind.currentLevel.canTransitionTo event.threatLevel then event.threatLevel else st.mind.currentLevel
  | .command _ => True
  | _ => (op.run toLowercase st).mind.currentLevel = st.mind.currentLevel

theorem currentLevel_processEvent (mind : SwarmMind) {event : SwarmEvent} (hconfident : 60 ≤ event.confidence) :
    (mind.processEvent event).1.currentLevel =
      if mind.currentLevel.canTransitionTo event.threatLevel then event.threatLevel else mind.currentLevel := by
  -- the matrix refuses to stay
  have hdiagonal : ∀ level : ThreatLevel, level.canTransitionTo level = false := by
    intro level
    cases level <;> rfl
  rcases processEvent_spec mind event hconfident with ⟨-, hallowed, hlevel, -, -⟩ | ⟨hstays, hlevel, -, -⟩
  · rw [if_pos hallowed, SwarmMind.currentLevel, hlevel, ThreatLevel.fromU8_toU8, Option.getD_some]
  · have hrefused : mind.currentLevel.canTransitionTo event.threatLevel = false := by
      rcases hstays with hsame | hrefused
      · rw [hsame, hdiagonal]
      · exact hrefused
    rw [hrefused, SwarmMind.currentLevel, hlevel, SwarmMind.currentLevel]
    rfl

/-- In every run, each report that arrives is decided by the matrix alone, whatever its confidence, and none proposes
`Dormant` or `Vigilance`. -/
theorem reports_decided_by_matrix {tr : List (SystemOp × ImmuneSystem)}
    (h : Exec (SystemStep toLowercase) .new tr) : AllSteps (DecidedByMatrix toLowercase) .new tr := by
  apply h.allSteps_of_invariant reportsAlarm_new
  · rintro st op _ hst ⟨-, rfl⟩
    exact hst.run op
  · intro st op hst
    cases op with
    | call agentCall => rfl
    | deliver event =>
      intro hreported
      obtain ⟨hconfident, hcalm⟩ := hst.reports event hreported
      exact ⟨hcalm, currentLevel_processEvent st.mind hconfident⟩
    | command event => trivial
    | checkAndRegen =>
      have hlevel : st.mind.checkAndRegen.level = st.mind.level := by
        unfold SwarmMind.checkAndRegen
        split <;> rfl
      simp only [DecidedByMatrix, SystemOp.run, SwarmMind.currentLevel, hlevel]

end System

/-! ### A decoy that is touched -/

/-- The states after some operations. -/
def systemRun (ops : List SystemOp) : List (SystemOp × ImmuneSystem) :=
  driven (SystemOp.run String.toLower) .new ops

theorem exec_driven_of_enabled {st : ImmuneSystem} {ops : List SystemOp}
    (h : AllSteps (fun st op => op.Enabled st) st (driven (SystemOp.run String.toLower) st ops)) :
    Exec (SystemStep String.toLower) st (driven (SystemOp.run String.toLower) st ops) := by
  induction ops generalizing st with
  | nil => trivial
  | cons op ops ih => exact ⟨⟨h.1, rfl⟩, ih h.2⟩

def touchEvent : SwarmEvent := honeyEvent .fakeCredentialFile "/tmp/honey/credentials.json" 9999

/-- A decoy is touched, and its report arrives twice. -/
def touchedTwice : List SystemOp :=
  [.call (.deployFakeCredentials "/tmp/honey"), .call (.onHoneyTouched "/tmp/honey/credentials.json" 9999),
    .deliver touchEvent, .checkAndRegen, .deliver touchEvent]

theorem exec_touchedTwice : Exec (SystemStep String.toLower) .new (systemRun touchedTwice) := by
  apply exec_driven_of_enabled
  have hreported : touchEvent ∈ ([] ++ [] ++ [touchEvent] : List SwarmEvent) := by simp
  exact ⟨trivial, trivial, hreported, trivial, hreported, trivial⟩

theorem touchedTwice_slept_through : AllStates Asleep .new (systemRun touchedTwice) :=
  (sleeps_iff exec_touchedTwice).2 (allSteps_driven _ (by simp [touchedTwice, Wakes]))

theorem touchedTwice_decided : AllSteps (DecidedByMatrix String.toLower) .new (systemRun touchedTwice) :=
  reports_decided_by_matrix exec_touchedTwice

end OperatingOrganism.Immune

import Mathlib.Data.List.Infix
import OperatingOrganism.Immune.SwarmMind

/-!
# Quarantine and neutralization

The quarantine agent isolates processes and files; the neutralizer terminates and deletes them. The order is
mandatory, quarantine before neutralization, but the agents share no state: the neutralizer does not ask about
processes at all, and recognizes a quarantined file by a part of its name. Every action has the confidence that the
neutralizer demands, and every target is isolated if and only if each confident call names one that the quarantine
agent holds (`isolatesFirst_iff`).
-/

set_option autoImplicit false

namespace OperatingOrganism.Immune

open OperatingOrganism.Execution

/-! ### The quarantine agent -/

inductive QuarantineKind where
  | process | file | networkEndpoint
  deriving DecidableEq, Repr

structure QuarantineEntry where
  kind : QuarantineKind
  identifier : String
  reason : String
  timestamp : UInt64
  isReleased : Bool
  deriving DecidableEq

structure QuarantineAgent where
  quarantined : List QuarantineEntry
  totalQuarantined : UInt64

/-- `pid:{}` -/
def pidIdentifier (pid : UInt32) : String := "pid:" ++ toString pid

namespace QuarantineAgent

/-- `QuarantineAgent::new` -/
def new : QuarantineAgent := ⟨[], 0⟩

/-- What `quarantine_process` and `quarantine_file` do to the list. -/
def isolate (agent : QuarantineAgent) (kind : QuarantineKind) (identifier reason : String) : QuarantineAgent where
  quarantined := agent.quarantined ++
    [{ kind := kind, identifier := identifier, reason := reason, timestamp := 0, isReleased := false }]
  totalQuarantined := agent.totalQuarantined + 1

/-- `quarantine_process` -/
def quarantineProcess (agent : QuarantineAgent) (pid : UInt32) (reason : String) : QuarantineAgent × SwarmEvent :=
  (agent.isolate .process (pidIdentifier pid) reason,
    { fromRole := .quarantine
      threatLevel := .alert
      description := "Process " ++ toString pid ++ " quarantined: " ++ reason
      timestampNs := 0
      confidence := 95
      signature := none })

/-- `quarantine_file` -/
def quarantineFile (agent : QuarantineAgent) (path reason : String) : QuarantineAgent × SwarmEvent :=
  (agent.isolate .file path reason,
    { fromRole := .quarantine
      threatLevel := .alert
      description := "File '" ++ path ++ "' quarantined: " ++ reason
      timestampNs := 0
      confidence := 90
      signature := none })

/-- `release`: the first entry of the identifier that is not released yet, whatever its kind. -/
def release (agent : QuarantineAgent) (identifier : String) : QuarantineAgent × Bool :=
  match agent.quarantined.findIdx? (fun e => e.identifier = identifier && !e.isReleased) with
  | some i =>
    ({ agent with quarantined := agent.quarantined.modify i fun e => { e with isReleased := true } }, true)
  | none => (agent, false)

/-- The agent holds an entry of this kind that is not released. -/
def Holds (agent : QuarantineAgent) (kind : QuarantineKind) (identifier : String) : Prop :=
  ∃ e ∈ agent.quarantined, e.kind = kind ∧ e.identifier = identifier ∧ e.isReleased = false

end QuarantineAgent

/-! ### The neutralizer -/

inductive NeutralizeAction where
  | terminateProcess | deleteFile | cleanRegistry | revokeNetworkAccess | flushMaliciousMemory
  deriving DecidableEq, Repr

structure NeutralizeResult where
  action : NeutralizeAction
  target : String
  success : Bool
  confidence : UInt8
  timestamp : UInt64
  auditNote : String
  deriving DecidableEq

structure NeutralizerAgent where
  actionsTaken : List NeutralizeResult
  totalKills : UInt64
  minConfidence : UInt8

namespace NeutralizerAgent

/-- `NeutralizerAgent::new` -/
def new : NeutralizerAgent := ⟨[], 0, 90⟩

/-- `can_act` -/
def canAct (agent : NeutralizerAgent) (confidence : UInt8) : Bool := !(confidence < agent.minConfidence)

/-- An action that is recorded. -/
def act (agent : NeutralizerAgent) (result : NeutralizeResult) : NeutralizerAgent :=
  { agent with actionsTaken := agent.actionsTaken ++ [result], totalKills := agent.totalKills + 1 }

/-- `terminate_process` -/
def terminateProcess (agent : NeutralizerAgent) (pid : UInt32) (reason : String) (confidence : UInt8) :
    NeutralizerAgent × Option SwarmEvent :=
  if !agent.canAct confidence then (agent, none)
  else
    let result : NeutralizeResult :=
      { action := .terminateProcess
        target := pidIdentifier pid
        success := true
        confidence := confidence
        timestamp := 0
        auditNote := "Reason: " ++ reason ++ " | conf=" ++ toString confidence ++ "%" }
    (agent.act result, some
      { fromRole := .neutralizer
        threatLevel := .combat
        description :=
          "Process pid=" ++ toString pid ++ " terminated: " ++ reason ++ " (conf=" ++ toString confidence ++ "%)"
        timestampNs := 0
        confidence := confidence
        signature := none })

/-- The name of the file says that it is in quarantine. -/
def InQuarantineZone (path : String) : Prop :=
  ".quarantine".toList <:+: path.toList ∨ "QUAR_".toList <:+: path.toList

instance (path : String) : Decidable (InQuarantineZone path) :=
  inferInstanceAs (Decidable (".quarantine".toList <:+: path.toList ∨ "QUAR_".toList <:+: path.toList))

/-- `delete_quarantined_file` -/
def deleteQuarantinedFile (agent : NeutralizerAgent) (path : String) (confidence : UInt8) :
    NeutralizerAgent × Option SwarmEvent :=
  if !agent.canAct confidence then (agent, none)
  else if ¬ InQuarantineZone path then (agent, none)
  else
    let result : NeutralizeResult :=
      { action := .deleteFile
        target := path
        success := true
        confidence := confidence
        timestamp := 0
        auditNote := "Quarantine delete | conf=" ++ toString confidence ++ "%" }
    (agent.act result, some
      { fromRole := .neutralizer
        threatLevel := .combat
        description := "File deleted from quarantine: '" ++ path ++ "'"
        timestampNs := 0
        confidence := confidence
        signature := none })

end NeutralizerAgent

/-! ### Both agents -/

/-- The two agents of a fleet. -/
structure Fleet where
  quarantine : QuarantineAgent
  neutralizer : NeutralizerAgent

/-- The calls on the agents. -/
inductive FleetOp where
  | quarantineProcess (pid : UInt32) (reason : String)
  | quarantineFile (path reason : String)
  | release (identifier : String)
  | terminateProcess (pid : UInt32) (reason : String) (confidence : UInt8)
  | deleteQuarantinedFile (path : String) (confidence : UInt8)

def FleetOp.run (fleet : Fleet) : FleetOp → Fleet
  | .quarantineProcess pid reason => { fleet with quarantine := (fleet.quarantine.quarantineProcess pid reason).1 }
  | .quarantineFile path reason => { fleet with quarantine := (fleet.quarantine.quarantineFile path reason).1 }
  | .release identifier => { fleet with quarantine := (fleet.quarantine.release identifier).1 }
  | .terminateProcess pid reason confidence =>
    { fleet with neutralizer := (fleet.neutralizer.terminateProcess pid reason confidence).1 }
  | .deleteQuarantinedFile path confidence =>
    { fleet with neutralizer := (fleet.neutralizer.deleteQuarantinedFile path confidence).1 }

def FleetStep (fleet : Fleet) (op : FleetOp) (fleet' : Fleet) : Prop := fleet' = op.run fleet

def newFleet : Fleet := ⟨.new, .new⟩

/-- Every action has at least the confidence that the neutralizer demands. -/
def Confident (fleet : Fleet) : Prop :=
  ∀ r ∈ fleet.neutralizer.actionsTaken, fleet.neutralizer.minConfidence ≤ r.confidence

/-- The target of an action is held by the quarantine agent. -/
def Isolated (agent : QuarantineAgent) (r : NeutralizeResult) : Prop :=
  match r.action with
  | .terminateProcess => agent.Holds .process r.target
  | .deleteFile => agent.Holds .file r.target
  | _ => True

/-- The target of the action that a call records is isolated when the action is taken. -/
def IsolatesFirst (fleet : Fleet) (op : FleetOp) : Prop :=
  ∀ r, (op.run fleet).neutralizer.actionsTaken = fleet.neutralizer.actionsTaken ++ [r] → Isolated fleet.quarantine r

/-- A confident call to terminate names a process that is held in quarantine; a confident call to delete a file
whose name says that it is in quarantine names one that is held there. -/
def NamesIsolated (fleet : Fleet) (op : FleetOp) : Prop :=
  match op with
  | .terminateProcess pid _ confidence =>
    fleet.neutralizer.minConfidence ≤ confidence → fleet.quarantine.Holds .process (pidIdentifier pid)
  | .deleteQuarantinedFile path confidence =>
    fleet.neutralizer.minConfidence ≤ confidence → NeutralizerAgent.InQuarantineZone path →
      fleet.quarantine.Holds .file path
  | _ => True

/-! ### One call -/

section

variable {agent : NeutralizerAgent} {confidence : UInt8}

theorem canAct_eq_true_iff : agent.canAct confidence = true ↔ agent.minConfidence ≤ confidence := by
  simp [NeutralizerAgent.canAct]

/-- A call to terminate is refused, or recorded with its pid and its confidence. -/
theorem terminateProcess_cases (agent : NeutralizerAgent) (pid : UInt32) (reason : String) (confidence : UInt8) :
    (¬ agent.minConfidence ≤ confidence ∧ (agent.terminateProcess pid reason confidence).1 = agent) ∨
    (agent.minConfidence ≤ confidence ∧
      ∃ r, (agent.terminateProcess pid reason confidence).1 = agent.act r ∧
        r.action = .terminateProcess ∧ r.target = pidIdentifier pid ∧ r.confidence = confidence) := by
  unfold NeutralizerAgent.terminateProcess
  by_cases hact : agent.minConfidence ≤ confidence
  · rw [canAct_eq_true_iff.2 hact]
    exact .inr ⟨hact, _, rfl, rfl, rfl, rfl⟩
  · rw [Bool.eq_false_iff.2 fun h => hact (canAct_eq_true_iff.1 h)]
    exact .inl ⟨hact, rfl⟩

/-- A call to delete is refused, or recorded with its path and its confidence. -/
theorem deleteQuarantinedFile_cases (agent : NeutralizerAgent) (path : String) (confidence : UInt8) :
    (¬ (agent.minConfidence ≤ confidence ∧ NeutralizerAgent.InQuarantineZone path) ∧
      (agent.deleteQuarantinedFile path confidence).1 = agent) ∨
    (agent.minConfidence ≤ confidence ∧ NeutralizerAgent.InQuarantineZone path ∧
      ∃ r, (agent.deleteQuarantinedFile path confidence).1 = agent.act r ∧
        r.action = .deleteFile ∧ r.target = path ∧ r.confidence = confidence) := by
  unfold NeutralizerAgent.deleteQuarantinedFile
  by_cases hact : agent.minConfidence ≤ confidence
  · rw [canAct_eq_true_iff.2 hact]
    by_cases hzone : NeutralizerAgent.InQuarantineZone path
    · rw [if_neg (not_not.2 hzone)]
      exact .inr ⟨hact, hzone, _, rfl, rfl, rfl, rfl⟩
    · rw [if_pos hzone]
      exact .inl ⟨fun h => hzone h.2, rfl⟩
  · rw [Bool.eq_false_iff.2 fun h => hact (canAct_eq_true_iff.1 h)]
    exact .inl ⟨fun h => hact h.1, rfl⟩

/-- What an agent that acts has recorded. -/
theorem actionsTaken_act_eq_iff {r r' : NeutralizeResult} :
    (agent.act r).actionsTaken = agent.actionsTaken ++ [r'] ↔ r = r' := by
  simp [NeutralizerAgent.act]

/-- An action with enough confidence leaves all actions confident. -/
theorem Confident.act {fleet : Fleet} (h : Confident fleet) {r : NeutralizeResult}
    (hr : fleet.neutralizer.minConfidence ≤ r.confidence) :
    Confident { fleet with neutralizer := fleet.neutralizer.act r } := by
  intro r' hr'
  rcases List.mem_append.1 hr' with hold | hnew
  · exact h r' hold
  · rw [List.mem_singleton.1 hnew]
    exact hr

end

/-- Every call leaves all actions confident. -/
theorem confident_run {fleet : Fleet} (h : Confident fleet) (op : FleetOp) : Confident (op.run fleet) := by
  cases op with
  | terminateProcess pid reason confidence =>
    rw [FleetOp.run]
    rcases terminateProcess_cases fleet.neutralizer pid reason confidence with
      ⟨-, heq⟩ | ⟨hact, r, heq, -, -, hconfidence⟩
    · rw [heq]
      exact h
    · rw [heq]
      exact h.act (hconfidence ▸ hact)
  | deleteQuarantinedFile path confidence =>
    rw [FleetOp.run]
    rcases deleteQuarantinedFile_cases fleet.neutralizer path confidence with
      ⟨-, heq⟩ | ⟨hact, -, r, heq, -, -, hconfidence⟩
    · rw [heq]
      exact h
    · rw [heq]
      exact h.act (hconfidence ▸ hact)
  | _ => exact h

/-- A call isolates first exactly when it names a target that is isolated. -/
theorem isolatesFirst_step_iff (fleet : Fleet) (op : FleetOp) : IsolatesFirst fleet op ↔ NamesIsolated fleet op := by
  have hnothing : ∀ r, fleet.neutralizer.actionsTaken ≠ fleet.neutralizer.actionsTaken ++ [r] := by simp
  cases op with
  | terminateProcess pid reason confidence =>
    simp only [IsolatesFirst, NamesIsolated, FleetOp.run]
    rcases terminateProcess_cases fleet.neutralizer pid reason confidence with
      ⟨hact, heq⟩ | ⟨hact, r, heq, haction, htarget, -⟩
    · rw [heq]
      exact iff_of_true (fun r hr => absurd hr (hnothing r)) (fun h => absurd h hact)
    · rw [heq]
      simp only [actionsTaken_act_eq_iff, forall_eq', Isolated, haction, htarget, hact, forall_const]
  | deleteQuarantinedFile path confidence =>
    simp only [IsolatesFirst, NamesIsolated, FleetOp.run]
    rcases deleteQuarantinedFile_cases fleet.neutralizer path confidence with
      ⟨hact, heq⟩ | ⟨hact, hzone, r, heq, haction, htarget, -⟩
    · rw [heq]
      exact iff_of_true (fun r hr => absurd hr (hnothing r)) (fun h h' => absurd ⟨h, h'⟩ hact)
    · rw [heq]
      simp only [actionsTaken_act_eq_iff, forall_eq', Isolated, haction, htarget, hact, hzone, forall_const]
  | _ => exact iff_of_true (fun r hr => absurd hr (hnothing r)) trivial

/-! ### Runs of both agents -/

/-- In every run of the two agents, all actions are confident and all targets isolated at the time of the action if
and only if every confident call names an isolated target. -/
theorem isolatesFirst_iff {tr : List (FleetOp × Fleet)} (h : Exec FleetStep newFleet tr) :
    AllStates Confident newFleet tr ∧ AllSteps IsolatesFirst newFleet tr ↔ AllSteps NamesIsolated newFleet tr := by
  have hinit : Confident newFleet := fun r hr => nomatch hr
  apply h.allStates_and_allSteps_iff (I := fun _ => True) trivial hinit (fun _ _ _ _ _ => trivial)
  rintro fleet op _ - hconfident rfl
  rw [isolatesFirst_step_iff]
  exact and_iff_right (confident_run hconfident op)

/-- The run of a list of calls. -/
def fleetRun (ops : List FleetOp) : List (FleetOp × Fleet) := driven FleetOp.run newFleet ops

theorem exec_fleetRun (ops : List FleetOp) : Exec FleetStep newFleet (fleetRun ops) :=
  @exec_driven _ _ FleetStep FleetOp.run (fun _ _ => rfl) newFleet ops

/-- A process that is isolated and then terminated. -/
theorem isolated_then_terminated :
    let tr := fleetRun [.quarantineProcess 7 "", .terminateProcess 7 "" 95]
    AllStates Confident newFleet tr ∧ AllSteps IsolatesFirst newFleet tr := by
  refine (isolatesFirst_iff (exec_fleetRun _)).2 ⟨trivial, fun _ => ?_, trivial⟩
  exact ⟨_, List.mem_singleton_self _, rfl, rfl, rfl⟩

/-- A process that nobody isolated is terminated. -/
theorem exists_terminated_unisolated : ∃ tr, Exec FleetStep newFleet tr ∧
    ¬ (AllStates Confident newFleet tr ∧ AllSteps IsolatesFirst newFleet tr) := by
  refine ⟨fleetRun [.terminateProcess 7 "" 95], exec_fleetRun _, ?_⟩
  rintro ⟨-, hfirst, -⟩
  obtain ⟨e, he, -⟩ := (isolatesFirst_step_iff _ _).1 hfirst (by decide : (90 : UInt8) ≤ 95)
  cases he

end OperatingOrganism.Immune

import OperatingOrganism.Bot.ThreatState
import OperatingOrganism.Library.Execution
import OperatingOrganism.Library.RingLog

/-!
# The instinct layer

`instinct_layer.c` looks a trigger up in a table of rules: the reaction comes from one of the rules that apply, and
the threat level that is recommended is the highest that an applicable rule names. The event is written to a journal
of the last 256, then the threat state is asked to move to the recommended level, and then the reaction is carried
out through callbacks.

The journal and the callbacks get the recommended level, but the matrix of the threat state may refuse the move. So
they tell the truth if and only if the highest level that an applicable rule names is one that the matrix allows
(`journalTruthful_iff`).
-/

set_option autoImplicit false

namespace OperatingOrganism.Bot

open OperatingOrganism.Execution

/-- `TriggerType` -/
inductive TriggerType where
  | memWriteExec | memSpray | memShellcodeSig | memRopChain
  | procHollow | procInject | procPrivEsc | procAbnormalChild | procDebugger
  | netC2Beacon | netExfilVolume | netUnusualPort | netDnsTunnel
  | fsMassEncrypt | fsCriticalModif | fsBootModif | fsRapidDelete
  | kernSyscallHook | kernRootkitSig | kernDkom
  | botSelfScan | botKillAttempt | botCorruptDetect
  deriving DecidableEq, Repr

/-- The value of the enumerator. -/
def TriggerType.code : TriggerType → Nat
  | memWriteExec => 0x01
  | memSpray => 0x02
  | memShellcodeSig => 0x03
  | memRopChain => 0x04
  | procHollow => 0x10
  | procInject => 0x11
  | procPrivEsc => 0x12
  | procAbnormalChild => 0x13
  | procDebugger => 0x14
  | netC2Beacon => 0x20
  | netExfilVolume => 0x21
  | netUnusualPort => 0x22
  | netDnsTunnel => 0x23
  | fsMassEncrypt => 0x30
  | fsCriticalModif => 0x31
  | fsBootModif => 0x32
  | fsRapidDelete => 0x33
  | kernSyscallHook => 0x40
  | kernRootkitSig => 0x41
  | kernDkom => 0x42
  | botSelfScan => 0x50
  | botKillAttempt => 0x51
  | botCorruptDetect => 0x52

/-- `ReactionType` -/
inductive ReactionType where
  | none
  | quarantineProc | quarantineFile | cutNetwork | cutNetworkAll
  | deployHoneytrap | fakeResources
  | intensifyWatch | captureMemory | logFull
  | regenAgent | camouflageSelf | backupDna
  | escalateThreat | alertSwarmMind | alertOoBridge
  deriving DecidableEq, Repr

/-- `InstinctRule` -/
structure InstinctRule where
  trigger : TriggerType
  minThreatLevel : UInt8
  minConfidence : UInt32
  reaction : ReactionType
  newThreatLevel : UInt8
  deriving DecidableEq, Repr

/-- `INSTINCT_RULES` -/
def instinctRules : List InstinctRule :=
  [⟨.memWriteExec, 0, 60, .intensifyWatch, threatVigilance⟩,
    ⟨.memWriteExec, 1, 75, .captureMemory, threatAlert⟩,
    ⟨.memShellcodeSig, 0, 70, .quarantineProc, threatAlert⟩,
    ⟨.memShellcodeSig, 2, 85, .logFull, threatCombat⟩,
    ⟨.memSpray, 0, 65, .intensifyWatch, threatVigilance⟩,
    ⟨.memRopChain, 1, 70, .captureMemory, threatAlert⟩,
    ⟨.procHollow, 0, 75, .quarantineProc, threatAlert⟩,
    ⟨.procHollow, 2, 85, .logFull, threatCombat⟩,
    ⟨.procInject, 0, 70, .quarantineProc, threatAlert⟩,
    ⟨.procPrivEsc, 0, 65, .intensifyWatch, threatAlert⟩,
    ⟨.procPrivEsc, 2, 80, .quarantineProc, threatCombat⟩,
    ⟨.procAbnormalChild, 0, 60, .intensifyWatch, threatVigilance⟩,
    ⟨.procDebugger, 0, 75, .camouflageSelf, threatAlert⟩,
    ⟨.procDebugger, 2, 85, .alertSwarmMind, threatCombat⟩,
    ⟨.netC2Beacon, 0, 70, .deployHoneytrap, threatAlert⟩,
    ⟨.netC2Beacon, 2, 85, .cutNetwork, threatCombat⟩,
    ⟨.netExfilVolume, 0, 65, .logFull, threatAlert⟩,
    ⟨.netExfilVolume, 2, 80, .cutNetwork, threatCombat⟩,
    ⟨.netUnusualPort, 0, 55, .intensifyWatch, threatVigilance⟩,
    ⟨.netDnsTunnel, 0, 70, .deployHoneytrap, threatAlert⟩,
    ⟨.fsMassEncrypt, 0, 80, .quarantineProc, threatCombat⟩,
    ⟨.fsMassEncrypt, 3, 90, .cutNetworkAll, threatCombat⟩,
    ⟨.fsCriticalModif, 0, 75, .alertSwarmMind, threatAlert⟩,
    ⟨.fsBootModif, 0, 80, .alertSwarmMind, threatCombat⟩,
    ⟨.fsRapidDelete, 0, 70, .quarantineProc, threatAlert⟩,
    ⟨.kernSyscallHook, 0, 80, .alertSwarmMind, threatCombat⟩,
    ⟨.kernRootkitSig, 0, 75, .alertSwarmMind, threatCombat⟩,
    ⟨.kernDkom, 0, 85, .cutNetworkAll, threatCombat⟩,
    ⟨.botSelfScan, 0, 60, .camouflageSelf, threatVigilance⟩,
    ⟨.botKillAttempt, 0, 70, .backupDna, threatSurvival⟩,
    ⟨.botKillAttempt, 4, 85, .regenAgent, threatSurvival⟩,
    ⟨.botCorruptDetect, 0, 80, .regenAgent, threatSurvival⟩]

/-- `INSTINCT_HISTORY_SIZE` -/
def instinctHistorySize : Nat := 256

/-- `InstinctEvent` -/
structure InstinctEvent where
  trigger : TriggerType
  timestamp : UInt64
  targetAddr : UInt64
  targetPid : UInt32
  confidence : UInt32
  reactionTaken : ReactionType
  threatLevelBefore : UInt8
  threatLevelAfter : UInt8
  deriving DecidableEq, Repr

/-- Which of the callbacks are set. -/
structure InstinctCallbacks where
  onQuarantine : Bool
  onNetworkCut : Bool
  onHoneytrapDeploy : Bool
  onRegenRequest : Bool
  onSwarmAlert : Bool
  onOoBridgeAlert : Bool
  deriving DecidableEq, Repr

/-- A call of one of them. -/
inductive CallbackCall where
  | onQuarantine (pid : UInt32) (addr : UInt64)
  | onNetworkCut (full : Int)
  | onHoneytrapDeploy (targetAddr : UInt64)
  | onRegenRequest (agentRole : UInt8)
  | onSwarmAlert (threatLevel : UInt8) (trigger : TriggerType)
  | onOoBridgeAlert (threatLevel : UInt8) (summary : String)
  deriving DecidableEq, Repr

/-- `InstinctLayer`; an entry of the journal is `none` until an event is written there. -/
structure InstinctLayer where
  threatState : ThreatState
  history : Vector (Option InstinctEvent) instinctHistorySize
  historyHead : UInt32
  historyCount : UInt32
  callbacks : InstinctCallbacks
  totalTriggers : UInt64
  totalReactions : UInt64

/-- `instinct_init` -/
def instinctInit : InstinctLayer where
  threatState := threatStateInit
  history := .replicate _ none
  historyHead := 0
  historyCount := 0
  callbacks := ⟨false, false, false, false, false, false⟩
  totalTriggers := 0
  totalReactions := 0

/-- A rule applies to a trigger of a confidence at a threat level. -/
def InstinctRule.Applies (r : InstinctRule) (trigger : TriggerType) (level : UInt8) (confidence : UInt32) : Prop :=
  r.trigger = trigger ∧ r.minThreatLevel ≤ level ∧ r.minConfidence ≤ confidence

instance (r : InstinctRule) (trigger : TriggerType) (level : UInt8) (confidence : UInt32) :
    Decidable (r.Applies trigger level confidence) := inferInstanceAs (Decidable (_ ∧ _))

section

variable (rules : List InstinctRule)

/-- `instinct_get_reaction`, for any table of rules. -/
def instinctGetReaction (trigger : TriggerType) (currentThreatLevel : UInt8) (confidence : UInt32) : ReactionType :=
  (rules.foldl
    (fun best r =>
      if r.Applies trigger currentThreatLevel confidence ∧ r.minThreatLevel ≤ best.2 then
        (r.reaction, r.minThreatLevel)
      else best)
    (ReactionType.intensifyWatch, (255 : UInt8))).1

/-- The loop that finds `new_level`. -/
def recommendedLevel (trigger : TriggerType) (current : UInt8) (confidence : UInt32) : UInt8 :=
  rules.foldl
    (fun newLevel r =>
      if r.Applies trigger current confidence ∧ r.newThreatLevel > newLevel then r.newThreatLevel else newLevel)
    current

/-- The text that `snprintf` makes. -/
def triggerReason (trigger : TriggerType) (pid confidence : UInt32) : List Char :=
  let hex := Nat.toDigits 16 trigger.code
  copiedText 64 <| "trigger=0x".toList ++ List.replicate (2 - hex.length) '0' ++ hex ++
    " pid=".toList ++ Nat.toDigits 10 pid.toNat ++ " conf=".toList ++ Nat.toDigits 10 confidence.toNat

/-- The calls of a callback that may not be set. -/
def callIf (isSet : Bool) (call : CallbackCall) : List CallbackCall := if isSet then [call] else []

/-- The `switch` over the reaction. -/
def InstinctCallbacks.react (callbacks : InstinctCallbacks) (reaction : ReactionType) (newLevel : UInt8)
    (trigger : TriggerType) (pid : UInt32) (addr : UInt64) : List CallbackCall :=
  match reaction with
  | .quarantineProc => callIf callbacks.onQuarantine (.onQuarantine pid addr)
  | .cutNetwork => callIf callbacks.onNetworkCut (.onNetworkCut 0)
  | .cutNetworkAll => callIf callbacks.onNetworkCut (.onNetworkCut 1)
  | .deployHoneytrap => callIf callbacks.onHoneytrapDeploy (.onHoneytrapDeploy addr)
  | .regenAgent => callIf callbacks.onRegenRequest (.onRegenRequest addr.toUInt8)
  | .alertSwarmMind => callIf callbacks.onSwarmAlert (.onSwarmAlert newLevel trigger)
  | .alertOoBridge => callIf callbacks.onOoBridgeAlert (.onOoBridgeAlert newLevel "instinct trigger")
  | .backupDna => callIf callbacks.onSwarmAlert (.onSwarmAlert newLevel trigger)
  | _ => callIf (newLevel ≥ threatCombat && callbacks.onSwarmAlert) (.onSwarmAlert newLevel trigger)

/-- The event is written to the journal. -/
def InstinctLayer.record (inst : InstinctLayer) (ev : InstinctEvent) : InstinctLayer :=
  { inst with
    history := inst.history.setIfInBounds (inst.historyHead.toNat % instinctHistorySize) (some ev)
    historyHead := inst.historyHead + 1
    historyCount :=
      if inst.historyCount.toNat < instinctHistorySize then inst.historyCount + 1 else inst.historyCount
    totalTriggers := inst.totalTriggers + 1 }

/-- The event of a trigger. It says what level is asked for, before it is known whether it is reached. -/
def InstinctLayer.event (inst : InstinctLayer) (trigger : TriggerType) (pid : UInt32) (addr : UInt64)
    (confidence : UInt32) : InstinctEvent where
  trigger := trigger
  timestamp := inst.totalTriggers
  targetAddr := addr
  targetPid := pid
  confidence := confidence
  reactionTaken := instinctGetReaction rules trigger inst.threatState.currentLevel confidence
  threatLevelBefore := inst.threatState.currentLevel
  threatLevelAfter := recommendedLevel rules trigger inst.threatState.currentLevel confidence

/-- `instinct_trigger`, with the callbacks that it calls. -/
def instinctTrigger (inst : InstinctLayer) (trigger : TriggerType) (pid : UInt32) (addr : UInt64)
    (confidence : UInt32) : InstinctLayer × List CallbackCall :=
  let current := inst.threatState.currentLevel
  let reaction := instinctGetReaction rules trigger current confidence
  let newLevel := recommendedLevel rules trigger current confidence
  let inst := inst.record (inst.event rules trigger pid addr confidence)
  let inst :=
    if newLevel ≠ current then
      { inst with
        threatState := (threatTransition inst.threatState newLevel (some (triggerReason trigger pid confidence))).1 }
    else inst
  ({ inst with totalReactions := inst.totalReactions + 1 },
    inst.callbacks.react reaction newLevel trigger pid addr)

end

/-- `instinct_last_event` -/
def instinctLastEvent (inst : InstinctLayer) : Option InstinctEvent :=
  if inst.historyCount = 0 then none
  else (inst.history[(inst.historyHead - 1 + 256).toNat % instinctHistorySize]?).getD none

/-- `instinct_reset_to_dormant`, with its return code. -/
def instinctResetToDormant (inst : InstinctLayer) (reason : Option (List Char)) : InstinctLayer × Int :=
  if inst.threatState.currentLevel = threatDormant then (inst, 0)
  else
    let r := threatTransition inst.threatState threatDormant reason
    ({ inst with threatState := r.1 }, r.2)

/-! ## The layer as a transition system -/

/-- A call of the interface, or the owner setting the callbacks. -/
inductive InstinctOp where
  | trigger (trigger : TriggerType) (pid : UInt32) (addr : UInt64) (confidence : UInt32)
  | resetToDormant (reason : Option (List Char))
  | setCallbacks (callbacks : InstinctCallbacks)

/-- The effect of a call. -/
def InstinctOp.run (inst : InstinctLayer) : InstinctOp → InstinctLayer
  | .trigger cause pid addr confidence => (instinctTrigger instinctRules inst cause pid addr confidence).1
  | .resetToDormant reason => (instinctResetToDormant inst reason).1
  | .setCallbacks callbacks => { inst with callbacks := callbacks }

def InstinctStep (inst : InstinctLayer) (op : InstinctOp) (inst' : InstinctLayer) : Prop := inst' = op.run inst

/-- The threat level that a callback is told. -/
def CallbackCall.toldLevel : CallbackCall → Option UInt8
  | .onSwarmAlert level _ => some level
  | .onOoBridgeAlert level _ => some level
  | _ => none

/-- The event that a trigger records has the levels right before and right after it, and the callbacks are told
the latter. -/
def JournalTruthful (inst : InstinctLayer) (op : InstinctOp) : Prop :=
  match op with
  | .trigger trigger pid addr confidence =>
    let r := instinctTrigger instinctRules inst trigger pid addr confidence
    (∃ ev, instinctLastEvent r.1 = some ev ∧
      ev.threatLevelBefore = inst.threatState.currentLevel ∧
      ev.threatLevelAfter = r.1.threatState.currentLevel) ∧
    ∀ call ∈ r.2, ∀ level, call.toldLevel = some level → level = r.1.threatState.currentLevel
  | _ => True

/-- No applicable rule names a level above the current one, or the matrix allows the move to the highest level
that one names. -/
def LegalAdvice (inst : InstinctLayer) (op : InstinctOp) : Prop :=
  match op with
  | .trigger trigger _ _ confidence =>
    let current := inst.threatState.currentLevel
    (∀ r ∈ instinctRules, r.Applies trigger current confidence → r.newThreatLevel ≤ current) ∨
    ∃ r ∈ instinctRules, r.Applies trigger current confidence ∧
      (∀ r' ∈ instinctRules, r'.Applies trigger current confidence → r'.newThreatLevel ≤ r.newThreatLevel) ∧
      threatTransitionIsValid current r.newThreatLevel ≠ 0
  | _ => True

/-! ### The recommended level -/

section

variable (rules : List InstinctRule) (cause : TriggerType) (current : UInt8) (confidence : UInt32)

/-- The loop finds the highest level among its start and the levels of the applicable rules. -/
theorem foldl_recommended (start : UInt8) :
    let level := rules.foldl
      (fun newLevel r =>
        if r.Applies cause current confidence ∧ r.newThreatLevel > newLevel then r.newThreatLevel else newLevel) start
    start ≤ level ∧ (∀ r ∈ rules, r.Applies cause current confidence → r.newThreatLevel ≤ level) ∧
      (level = start ∨ ∃ r ∈ rules, r.Applies cause current confidence ∧ r.newThreatLevel = level) := by
  induction rules generalizing start with
  | nil =>
    refine ⟨UInt8.le_refl start, ?_, .inl rfl⟩
    intro r hr
    cases hr
  | cons r rules ih =>
    dsimp only at ih ⊢
    rw [List.foldl_cons]
    by_cases hr : r.Applies cause current confidence ∧ r.newThreatLevel > start
    · rw [if_pos hr]
      obtain ⟨hle, hall, hfrom⟩ := ih r.newThreatLevel
      refine ⟨UInt8.le_trans (UInt8.le_of_lt hr.2) hle, ?_, ?_⟩
      · intro r' hr' happlies
        rcases List.mem_cons.1 hr' with rfl | hr'
        · exact hle
        · exact hall r' hr' happlies
      · rcases hfrom with heq | ⟨r', hr', hfrom⟩
        · exact .inr ⟨r, List.mem_cons_self, hr.1, heq.symm⟩
        · exact .inr ⟨r', List.mem_cons_of_mem r hr', hfrom⟩
    · rw [if_neg hr]
      obtain ⟨hle, hall, hfrom⟩ := ih start
      refine ⟨hle, ?_, ?_⟩
      · intro r' hr' happlies
        rcases List.mem_cons.1 hr' with rfl | hr'
        · exact UInt8.le_trans (UInt8.not_lt.1 fun hlt => hr ⟨happlies, hlt⟩) hle
        · exact hall r' hr' happlies
      · rcases hfrom with heq | ⟨r', hr', hfrom⟩
        · exact .inl heq
        · exact .inr ⟨r', List.mem_cons_of_mem r hr', hfrom⟩

/-- The recommended level is the current one or can be reached from it exactly when the advice is legal. -/
theorem recommendedLevel_legal_iff :
    (recommendedLevel rules cause current confidence = current ∨
        threatTransitionIsValid current (recommendedLevel rules cause current confidence) ≠ 0) ↔
      (∀ r ∈ rules, r.Applies cause current confidence → r.newThreatLevel ≤ current) ∨
      ∃ r ∈ rules, r.Applies cause current confidence ∧
        (∀ r' ∈ rules, r'.Applies cause current confidence → r'.newThreatLevel ≤ r.newThreatLevel) ∧
        threatTransitionIsValid current r.newThreatLevel ≠ 0 := by
  obtain ⟨hle, hall, hfrom⟩ := foldl_recommended rules cause current confidence current
  rw [← recommendedLevel] at hle hall hfrom
  constructor
  · rintro (hsame | hvalid)
    · exact .inl fun r hr happlies => hsame ▸ hall r hr happlies
    · rcases hfrom with hsame | ⟨r, hr, happlies, heq⟩
      · exact .inl fun r hr happlies => hsame ▸ hall r hr happlies
      · refine .inr ⟨r, hr, happlies, ?_, ?_⟩
        · rw [heq]
          exact hall
        · rw [heq]
          exact hvalid
  · intro h
    by_cases hsame : recommendedLevel rules cause current confidence = current
    · exact .inl hsame
    · -- an applicable rule names the recommended level, which is above the current one
      obtain ⟨r, hr, happlies, heq⟩ := hfrom.resolve_left hsame
      have habove : ¬ recommendedLevel rules cause current confidence ≤ current := fun hge =>
        hsame (UInt8.le_antisymm hge hle)
      rcases h with hnone | ⟨r', hr', happlies', hhighest, hvalid⟩
      · exact absurd (heq ▸ hnone r hr happlies) habove
      · have htop : r'.newThreatLevel = recommendedLevel rules cause current confidence :=
          UInt8.le_antisymm (hall r' hr' happlies') (heq ▸ hhighest r hr happlies)
        exact .inr (htop ▸ hvalid)

end

/-! ### The journal -/

section

variable (inst : InstinctLayer)

/-- The event that was recorded last. -/
theorem lastEvent_record (ev : InstinctEvent) : instinctLastEvent (inst.record ev) = some ev := by
  have hcount : (inst.record ev).historyCount ≠ 0 := by
    rw [InstinctLayer.record]
    dsimp only
    intro hzero
    have hnat := congrArg UInt32.toNat hzero
    split at hnat
    · next hlt =>
      have hroom : inst.historyCount.toNat < 256 := hlt
      rw [UInt32.toNat_add] at hnat
      change (inst.historyCount.toNat + 1) % 4294967296 = 0 at hnat
      omega
    · next hge => exact hge (by rw [hnat]; decide)
  -- 256 divides 2^32, so the index does not notice that the head wraps
  have hindex : (inst.historyHead + 1 - 1 + 256).toNat % instinctHistorySize =
      inst.historyHead.toNat % instinctHistorySize := RingLog.index_back (by decide)
  have hlt : inst.historyHead.toNat % instinctHistorySize < instinctHistorySize := Nat.mod_lt _ (by decide)
  rw [instinctLastEvent, if_neg hcount]
  change ((inst.history.setIfInBounds _ (some ev))[(inst.historyHead + 1 - 1 + 256).toNat % instinctHistorySize]?).getD
    none = some ev
  rw [hindex, Vector.getElem?_setIfInBounds_self_of_lt hlt]
  rfl

theorem mem_callIf {isSet : Bool} {only call : CallbackCall} :
    call ∈ callIf isSet only ↔ isSet = true ∧ call = only := by
  cases isSet <;> simp [callIf]

/-- The callbacks are told the recommended level. -/
theorem toldLevel_react {callbacks : InstinctCallbacks} {reaction : ReactionType} {newLevel : UInt8}
    {cause : TriggerType} {pid : UInt32} {addr : UInt64} {call : CallbackCall} {level : UInt8}
    (hcall : call ∈ callbacks.react reaction newLevel cause pid addr) (hlevel : call.toldLevel = some level) :
    level = newLevel := by
  have htold : call.toldLevel = some newLevel ∨ call.toldLevel = none := by
    cases reaction <;>
    · obtain ⟨-, rfl⟩ := mem_callIf.1 hcall
      simp [CallbackCall.toldLevel]
  rcases htold with htold | htold
  · exact Option.some.inj (hlevel.symm.trans htold)
  · rw [htold] at hlevel
    cases hlevel

/-- The level after a trigger is the recommended one exactly when that is the current one or the matrix allows the
move. -/
theorem currentLevel_trigger_iff (rules : List InstinctRule) (cause : TriggerType) (pid : UInt32) (addr : UInt64)
    (confidence : UInt32) :
    (instinctTrigger rules inst cause pid addr confidence).1.threatState.currentLevel =
        recommendedLevel rules cause inst.threatState.currentLevel confidence ↔
      recommendedLevel rules cause inst.threatState.currentLevel confidence = inst.threatState.currentLevel ∨
      threatTransitionIsValid inst.threatState.currentLevel
        (recommendedLevel rules cause inst.threatState.currentLevel confidence) ≠ 0 := by
  rw [instinctTrigger]
  dsimp only
  by_cases hsame : recommendedLevel rules cause inst.threatState.currentLevel confidence =
      inst.threatState.currentLevel
  · rw [if_neg (not_not.2 hsame)]
    exact iff_of_true hsame.symm (.inl hsame)
  · rw [if_pos hsame]
    exact currentLevel_transition_iff inst.threatState _ _

/-- The event of a trigger is in the journal after it. -/
theorem lastEvent_trigger (rules : List InstinctRule) (cause : TriggerType) (pid : UInt32) (addr : UInt64)
    (confidence : UInt32) :
    instinctLastEvent (instinctTrigger rules inst cause pid addr confidence).1 =
      some (inst.event rules cause pid addr confidence) := by
  rw [← lastEvent_record inst, instinctTrigger]
  -- what follows the record leaves the journal as it is
  dsimp only
  split <;> rfl

/-- A trigger is recorded truthfully exactly when the advice is legal. -/
theorem journalTruthful_step_iff (op : InstinctOp) : JournalTruthful inst op ↔ LegalAdvice inst op := by
  cases op with
  | trigger cause pid addr confidence =>
    have hlast := lastEvent_trigger inst instinctRules cause pid addr confidence
    rw [LegalAdvice, ← recommendedLevel_legal_iff instinctRules,
      ← currentLevel_trigger_iff inst instinctRules cause pid addr confidence]
    constructor
    · rintro ⟨⟨ev, hev, -, hafter⟩, -⟩
      obtain rfl : _ = ev := Option.some.inj (hlast.symm.trans hev)
      exact hafter.symm
    · intro hlevel
      refine ⟨⟨_, hlast, rfl, hlevel.symm⟩, ?_⟩
      intro call hcall level htold
      exact (toldLevel_react hcall htold).trans hlevel.symm
  | _ => exact Iff.rfl

end

/-- In every run from `instinct_init`, the journal and the callbacks tell the truth about the threat level if and
only if all advice that the table gives is legal. -/
theorem journalTruthful_iff {tr : List (InstinctOp × InstinctLayer)} (h : Exec InstinctStep instinctInit tr) :
    AllSteps JournalTruthful instinctInit tr ↔ AllSteps LegalAdvice instinctInit tr :=
  h.allSteps_congr (I := fun _ => True) trivial (fun _ _ _ _ _ _ => trivial)
    fun inst op _ => journalTruthful_step_iff inst op

/-! ### A spray and a mass encryption -/

/-- The run of a list of calls. -/
def instinctRun (ops : List InstinctOp) : List (InstinctOp × InstinctLayer) := driven InstinctOp.run instinctInit ops

theorem exec_instinctRun (ops : List InstinctOp) : Exec InstinctStep instinctInit (instinctRun ops) :=
  @exec_driven _ _ InstinctStep InstinctOp.run (fun _ _ => rfl) instinctInit ops

/-- A spray of the heap takes the sleeping layer to `VIGILANCE`. -/
theorem spray_recorded : AllSteps JournalTruthful instinctInit (instinctRun [.trigger .memSpray 7 0 65]) := by
  refine (journalTruthful_iff (exec_instinctRun _)).2 ⟨.inr ?_, trivial⟩
  exact ⟨⟨.memSpray, 0, 65, .intensifyWatch, threatVigilance⟩, by decide, by decide, by decide, by decide⟩

/-- A mass encryption asks for `COMBAT`: the journal says that it is reached, and the layer sleeps on. -/
theorem exists_journal_untruthful : ∃ tr, Exec InstinctStep instinctInit tr ∧
    ¬ AllSteps JournalTruthful instinctInit tr := by
  refine ⟨instinctRun [.trigger .fsMassEncrypt 7 0 80], exec_instinctRun _, ?_⟩
  rintro ⟨⟨⟨ev, hev, -, hafter⟩, -⟩, -⟩
  have hlast := lastEvent_trigger instinctInit instinctRules .fsMassEncrypt 7 0 80
  obtain rfl : _ = ev := Option.some.inj (hlast.symm.trans hev)
  exact absurd hafter (by decide)

end OperatingOrganism.Bot

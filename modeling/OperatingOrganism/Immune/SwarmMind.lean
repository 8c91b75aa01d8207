import OperatingOrganism.Bot.ThreatState
import OperatingOrganism.Library.Execution

/-!
# The coordinator of the fleet

`SwarmMind` decides on the threat level of the agents from the events that they send. Its enumeration, its matrix
and its counters mirror those of the threat state in C. The two agree along every run in which both are given the
same proposals with enough confidence (`swarm_mirrors_instinct`). What the coordinator prints and the journal it
appends to are left out; its counters wrap, as in a release build.
-/

set_option autoImplicit false

namespace OperatingOrganism.Immune

open OperatingOrganism.Execution
open OperatingOrganism.Bot (ThreatState threatStateInit threatTransition threatTransitionIsValid)

inductive ThreatLevel where
  | dormant | vigilance | alert | combat | survival | confinement
  deriving DecidableEq, Repr

/-- `as u8` -/
def ThreatLevel.toU8 : ThreatLevel → UInt8
  | .dormant => 0
  | .vigilance => 1
  | .alert => 2
  | .combat => 3
  | .survival => 4
  | .confinement => 5

/-- `from_u8` -/
def ThreatLevel.fromU8 (v : UInt8) : Option ThreatLevel :=
  if v = 0 then some .dormant
  else if v = 1 then some .vigilance
  else if v = 2 then some .alert
  else if v = 3 then some .combat
  else if v = 4 then some .survival
  else if v = 5 then some .confinement
  else none

/-- `MATRIX`: a row for each level that is left, a column for each that is entered. -/
def swarmMatrix : List (List Bool) :=
  [[false, true, false, false, false, false],
    [true, false, true, false, false, false],
    [false, true, false, true, false, false],
    [true, false, true, false, true, true],
    [false, false, false, true, false, true],
    [false, false, false, false, true, false]]

/-- `can_transition_to` -/
def ThreatLevel.canTransitionTo (level next : ThreatLevel) : Bool :=
  (swarmMatrix.getD level.toU8.toNat []).getD next.toU8.toNat false

inductive AgentRole where
  | memWatch | netWatch | fsWatch | procWatch | kernelWatch | bootWatch
  | quarantine | honeyTrap | neutralizer | chameleon | mimicry | mutation | regen | ooBridge | swarmMind
  deriving DecidableEq, Repr

inductive AgentStatus where
  | active | standby | deployed | regenerating | dead
  deriving DecidableEq, Repr

structure AgentRecord where
  role : AgentRole
  status : AgentStatus
  generation : UInt32
  threatsCaught : UInt64
  falsePositives : UInt64
  health : UInt8
  deriving DecidableEq

/-- `AgentRecord::new` -/
def AgentRecord.new (role : AgentRole) : AgentRecord where
  role := role
  status := .standby
  generation := 1
  threatsCaught := 0
  falsePositives := 0
  health := 100

def AgentRecord.isAlive (agent : AgentRecord) : Bool := agent.status ≠ .dead && 0 < agent.health

structure SwarmEvent where
  fromRole : AgentRole
  threatLevel : ThreatLevel
  description : String
  timestampNs : UInt64
  confidence : UInt8
  signature : Option (Vector UInt8 32)
  deriving DecidableEq

structure Antigen where
  signature : Vector UInt8 32
  frequency : UInt32
  lastSeen : UInt64
  deriving DecidableEq

structure SwarmMind where
  /-- the level as a byte -/
  level : UInt8
  totalEvents : UInt64
  totalTransitions : UInt64
  agents : List AgentRecord
  antigens : List Antigen
  deriving DecidableEq

namespace SwarmMind

/-- `SwarmMind::new` -/
def new : SwarmMind where
  level := ThreatLevel.dormant.toU8
  totalEvents := 0
  totalTransitions := 0
  agents :=
    [AgentRole.memWatch, .netWatch, .fsWatch, .procWatch, .kernelWatch, .bootWatch, .quarantine, .honeyTrap,
      .neutralizer, .chameleon, .mimicry, .regen, .ooBridge].map AgentRecord.new
  antigens := []

/-- `current_level` -/
def currentLevel (mind : SwarmMind) : ThreatLevel := (ThreatLevel.fromU8 mind.level).getD .dormant

/-- `learn_antigen` -/
def learnAntigen (mind : SwarmMind) (signature : Vector UInt8 32) : SwarmMind :=
  match mind.antigens.findIdx? (fun a => a.signature = signature) with
  | some i => { mind with antigens := mind.antigens.modify i fun a => { a with frequency := a.frequency + 1 } }
  | none =>
    if mind.antigens.length < 256 then
      { mind with antigens := mind.antigens ++ [{ signature := signature, frequency := 1, lastSeen := 0 }] }
    else mind

/-- The order that an agent receives when the level becomes `target`. -/
def order (target : ThreatLevel) (agent : AgentRecord) : AgentStatus :=
  match target with
  | .dormant => if agent.isAlive then .standby else agent.status
  | .vigilance =>
    if agent.role ∈ [.memWatch, .netWatch, .fsWatch, .procWatch] then .active else agent.status
  | .alert => if agent.role ∈ [.honeyTrap, .mimicry] then .deployed else agent.status
  | .combat => if agent.isAlive then .active else agent.status
  | .survival => if agent.role ∈ [.regen, .chameleon] then .active else agent.status
  | .confinement => if agent.role = .ooBridge then .active else .standby

/-- `on_level_changed` -/
def onLevelChanged (mind : SwarmMind) (target : ThreatLevel) : SwarmMind :=
  { mind with agents := mind.agents.map fun agent => { agent with status := order target agent } }

/-- `process_event`, with the new level if the event changes it. -/
def processEvent (mind : SwarmMind) (event : SwarmEvent) : SwarmMind × Option ThreatLevel :=
  let current := mind.currentLevel
  let mind := { mind with totalEvents := mind.totalEvents + 1 }
  let proposed := event.threatLevel
  if proposed = current then (mind, none)
  else if current.canTransitionTo proposed ∧ 60 ≤ event.confidence then
    let mind := { mind with level := proposed.toU8, totalTransitions := mind.totalTransitions + 1 }
    (mind.onLevelChanged proposed, some proposed)
  else
    match event.signature with
    | some signature => (mind.learnAntigen signature, none)
    | none => (mind, none)

@[simp] theorem level_learnAntigen (mind : SwarmMind) (signature : Vector UInt8 32) :
    (mind.learnAntigen signature).level = mind.level := by
  unfold learnAntigen
  split
  · rfl
  · split <;> rfl

@[simp] theorem totalTransitions_learnAntigen (mind : SwarmMind) (signature : Vector UInt8 32) :
    (mind.learnAntigen signature).totalTransitions = mind.totalTransitions := by
  unfold learnAntigen
  split
  · rfl
  · split <;> rfl

@[simp] theorem agents_learnAntigen (mind : SwarmMind) (signature : Vector UInt8 32) :
    (mind.learnAntigen signature).agents = mind.agents := by
  unfold learnAntigen
  split
  · rfl
  · split <;> rfl

/-- One more event. -/
def counted (mind : SwarmMind) : SwarmMind := { mind with totalEvents := mind.totalEvents + 1 }

/-- The move to a level, with its orders. -/
def moved (mind : SwarmMind) (target : ThreatLevel) : SwarmMind :=
  { mind with level := target.toU8, totalTransitions := mind.totalTransitions + 1 }.onLevelChanged target

/-- The event changes the level. -/
def Moves (mind : SwarmMind) (event : SwarmEvent) : Prop :=
  mind.currentLevel.canTransitionTo event.threatLevel ∧ 60 ≤ event.confidence

/-- An event that proposes the current level is only counted, one that changes the level gives the orders, and any
other one teaches its signature. -/
theorem processEvent_cases (mind : SwarmMind) (event : SwarmEvent) :
    (event.threatLevel = mind.currentLevel ∧ mind.processEvent event = (mind.counted, none)) ∨
    (event.threatLevel ≠ mind.currentLevel ∧ mind.Moves event ∧
      mind.processEvent event = (mind.counted.moved event.threatLevel, some event.threatLevel)) ∨
    (event.threatLevel ≠ mind.currentLevel ∧ ¬ mind.Moves event ∧
      mind.processEvent event = (event.signature.elim mind.counted mind.counted.learnAntigen, none)) := by
  by_cases hsame : event.threatLevel = mind.currentLevel
  · exact .inl ⟨hsame, if_pos hsame⟩
  · by_cases hmoves : mind.Moves event
    · exact .inr (.inl ⟨hsame, hmoves, (if_neg hsame).trans (if_pos hmoves)⟩)
    · refine .inr (.inr ⟨hsame, hmoves, ((if_neg hsame).trans (if_neg hmoves)).trans ?_⟩)
      cases event.signature with
      | none => rfl
      | some signature => rfl

end SwarmMind

/-! ### The two encodings -/

@[simp] theorem ThreatLevel.fromU8_toU8 (level : ThreatLevel) : ThreatLevel.fromU8 level.toU8 = some level := by
  cases level <;> rfl

@[simp] theorem ThreatLevel.toU8_inj {a b : ThreatLevel} : a.toU8 = b.toU8 ↔ a = b := by
  constructor
  · intro h
    have hsome := congrArg ThreatLevel.fromU8 h
    simpa using hsome
  · rintro rfl
    rfl

theorem ThreatLevel.toU8_le (level : ThreatLevel) : level.toU8 ≤ 5 := by
  cases level <;> decide

/-- The two matrices allow the same moves. -/
theorem canTransitionTo_iff_isValid (level next : ThreatLevel) :
    level.canTransitionTo next = true ↔ threatTransitionIsValid level.toU8 next.toU8 ≠ 0 := by
  cases level <;> cases next <;> decide

/-! ### One step of both -/

/-- A proposal to both machines: an event with enough confidence, and the reason that the C call is given. -/
structure Proposal where
  event : SwarmEvent
  reason : Option (List Char)
  confident : 60 ≤ event.confidence

/-- `threat_transition` and `process_event` on the same proposal. -/
def mirror (st : ThreatState × SwarmMind) (p : Proposal) : ThreatState × SwarmMind :=
  ((threatTransition st.1 p.event.threatLevel.toU8 p.reason).1, (st.2.processEvent p.event).1)

def MirrorStep (st : ThreatState × SwarmMind) (p : Proposal) (st' : ThreatState × SwarmMind) : Prop :=
  st' = mirror st p

/-- The machines stand on the same level of the enumeration and have counted the same transitions. -/
def SameLevel (st : ThreatState × SwarmMind) : Prop :=
  st.1.currentLevel = st.2.currentLevel.toU8 ∧ st.2.level = st.2.currentLevel.toU8 ∧
    st.1.transitionCount = st.2.totalTransitions

/-- `process_event` returns a level exactly when `threat_transition` changes the level. -/
def ReportsChange (st : ThreatState × SwarmMind) (p : Proposal) : Prop :=
  (st.2.processEvent p.event).2.isSome ↔
    (threatTransition st.1 p.event.threatLevel.toU8 p.reason).1.currentLevel ≠ st.1.currentLevel

/-- What `process_event` does to the level and the count, and what it returns. -/
theorem processEvent_spec (mind : SwarmMind) (event : SwarmEvent) (hconfident : 60 ≤ event.confidence) :
    (event.threatLevel ≠ mind.currentLevel ∧ mind.currentLevel.canTransitionTo event.threatLevel = true ∧
      (mind.processEvent event).1.level = event.threatLevel.toU8 ∧
      (mind.processEvent event).1.totalTransitions = mind.totalTransitions + 1 ∧
      (mind.processEvent event).2 = some event.threatLevel) ∨
    ((event.threatLevel = mind.currentLevel ∨ mind.currentLevel.canTransitionTo event.threatLevel = false) ∧
      (mind.processEvent event).1.level = mind.level ∧
      (mind.processEvent event).1.totalTransitions = mind.totalTransitions ∧
      (mind.processEvent event).2 = none) := by
  rcases mind.processEvent_cases event with ⟨hsame, heq⟩ | ⟨hne, hmoves, heq⟩ | ⟨-, hstays, heq⟩
  · rw [heq]
    exact .inr ⟨.inl hsame, rfl, rfl, rfl⟩
  · rw [heq]
    exact .inl ⟨hne, hmoves.1, rfl, rfl, rfl⟩
  · have hrefused : ¬ mind.currentLevel.canTransitionTo event.threatLevel = true := fun h => hstays ⟨h, hconfident⟩
    rw [heq]
    refine .inr ⟨.inr (Bool.eq_false_iff.2 hrefused), ?_⟩
    cases event.signature with
    | none => exact ⟨rfl, rfl, rfl⟩
    | some signature =>
      exact ⟨SwarmMind.level_learnAntigen _ signature, SwarmMind.totalTransitions_learnAntigen _ signature, rfl⟩

/-- What `threat_transition` does to the level and the count, for a level of the enumeration. -/
theorem threatTransition_spec (s : ThreatState) (level : ThreatLevel) (reason : Option (List Char)) :
    (level.toU8 ≠ s.currentLevel ∧ threatTransitionIsValid s.currentLevel level.toU8 ≠ 0 ∧
      threatTransition s level.toU8 reason = (s.move level.toU8 reason, 1)) ∨
    ((level.toU8 = s.currentLevel ∨ threatTransitionIsValid s.currentLevel level.toU8 = 0) ∧
      (threatTransition s level.toU8 reason).1 = s) := by
  unfold threatTransition
  rw [if_neg (UInt8.not_lt.2 level.toU8_le)]
  by_cases hsame : level.toU8 = s.currentLevel
  · rw [if_pos hsame]
    exact .inr ⟨.inl hsame, rfl⟩
  · rw [if_neg hsame]
    by_cases hinvalid : threatTransitionIsValid s.currentLevel level.toU8 = 0
    · rw [if_pos hinvalid]
      exact .inr ⟨.inr hinvalid, rfl⟩
    · rw [if_neg hinvalid]
      exact .inl ⟨hsame, hinvalid, rfl⟩

/-- From the same level, both machines move or both stay. -/
theorem mirror_step {st : ThreatState × SwarmMind} (hsame : SameLevel st) (p : Proposal) :
    SameLevel (mirror st p) ∧ ReportsChange st p := by
  obtain ⟨s, mind⟩ := st
  obtain ⟨hlevel, hbyte, hcount⟩ := hsame
  dsimp only at hlevel hbyte hcount
  unfold mirror
  have hmatrix := canTransitionTo_iff_isValid mind.currentLevel p.event.threatLevel
  rw [← hlevel] at hmatrix
  rcases processEvent_spec mind p.event p.confident with
    ⟨hne, hallowed, hnewLevel, hnewCount, hsome⟩ | ⟨hstay, hnewLevel, hnewCount, hnone⟩
  · -- both move: the matrices allow the same moves
    have hmove : threatTransition s p.event.threatLevel.toU8 p.reason =
        (s.move p.event.threatLevel.toU8 p.reason, 1) := by
      rcases threatTransition_spec s p.event.threatLevel p.reason with ⟨-, -, h⟩ | ⟨heq | hinvalid, -⟩
      · exact h
      · rw [hlevel, ThreatLevel.toU8_inj] at heq
        exact absurd heq hne
      · exact absurd hinvalid (hmatrix.1 hallowed)
    have hcurrent : (mind.processEvent p.event).1.currentLevel = p.event.threatLevel := by
      rw [SwarmMind.currentLevel, hnewLevel, ThreatLevel.fromU8_toU8, Option.getD_some]
    refine ⟨⟨?_, ?_, ?_⟩, ?_⟩
    · rw [hmove, hcurrent]
      rfl
    · rw [hcurrent]
      exact hnewLevel
    · rw [hnewCount, hmove, ← hcount]
      rfl
    · rw [ReportsChange, hsome, hmove]
      refine iff_of_true rfl ?_
      rw [hlevel]
      exact fun h => hne (ThreatLevel.toU8_inj.1 h)
  · -- both stay
    have hfixed : (threatTransition s p.event.threatLevel.toU8 p.reason).1 = s := by
      rcases threatTransition_spec s p.event.threatLevel p.reason with ⟨hne, hvalid, -⟩ | ⟨-, h⟩
      · rcases hstay with heq | hrefused
        · rw [heq] at hne
          exact absurd hlevel.symm hne
        · rw [hmatrix.2 hvalid] at hrefused
          exact absurd hrefused Bool.noConfusion
      · exact h
    have hcurrent : (mind.processEvent p.event).1.currentLevel = mind.currentLevel := by
      rw [SwarmMind.currentLevel, hnewLevel, SwarmMind.currentLevel]
    refine ⟨⟨?_, ?_, ?_⟩, ?_⟩
    · rw [hfixed, hcurrent]
      exact hlevel
    · rw [hcurrent, hnewLevel]
      exact hbyte
    · rw [hfixed, hnewCount]
      exact hcount
    · rw [ReportsChange, hnone, hfixed]
      exact iff_of_false Bool.noConfusion (fun h => h rfl)

/-! ### Runs of both -/

/-- Two machines driven by the same proposals. -/
def mirrorRun (ps : List Proposal) : List (Proposal × (ThreatState × SwarmMind)) :=
  driven mirror (threatStateInit, SwarmMind.new) ps

theorem exec_mirrorRun (ps : List Proposal) :
    Exec MirrorStep (threatStateInit, SwarmMind.new) (mirrorRun ps) :=
  @exec_driven _ _ MirrorStep mirror (fun _ _ => rfl) _ ps

theorem sameLevel_initial : SameLevel (threatStateInit, SwarmMind.new) := ⟨rfl, rfl, rfl⟩

/-- Along every run of proposals from the two initial states, the machines stand on the same level and have counted
the same transitions, and the coordinator reports exactly the changes of the threat state. -/
theorem swarm_mirrors_instinct {tr : List (Proposal × (ThreatState × SwarmMind))}
    (h : Exec MirrorStep (threatStateInit, SwarmMind.new) tr) :
    AllStates (fun st => st.1.currentLevel = st.2.currentLevel.toU8 ∧ st.1.transitionCount = st.2.totalTransitions)
        (threatStateInit, SwarmMind.new) tr ∧
      AllSteps ReportsChange (threatStateInit, SwarmMind.new) tr := by
  have hkept : ∀ st p st', SameLevel st → MirrorStep st p st' → SameLevel st' := by
    rintro st p _ hsame rfl
    exact (mirror_step hsame p).1
  refine ⟨(h.invariant sameLevel_initial hkept).imp fun st hst => ⟨hst.1, hst.2.2⟩, ?_⟩
  exact h.allSteps_of_invariant sameLevel_initial hkept fun st p hsame => (mirror_step hsame p).2

/-- A proposal with a confidence of 70 and nothing else. -/
def plainProposal (level : ThreatLevel) : Proposal where
  event :=
    { fromRole := .memWatch, threatLevel := level, description := "", timestampNs := 0, confidence := 70,
      signature := none }
  reason := none
  confident := (by decide : (60 : UInt8) ≤ 70)

/-- Two levels up, the same level again, and a jump that both refuse. -/
theorem mirrored_climb :
    let tr := mirrorRun ([.vigilance, .alert, .alert, .confinement].map plainProposal)
    AllStates (fun st => st.1.currentLevel = st.2.currentLevel.toU8 ∧ st.1.transitionCount = st.2.totalTransitions)
        (threatStateInit, SwarmMind.new) tr ∧
      AllSteps ReportsChange (threatStateInit, SwarmMind.new) tr :=
  swarm_mirrors_instinct (exec_mirrorRun _)

end OperatingOrganism.Immune

import Mathlib.Algebra.BigOperators.Group.List.Basic
import Mathlib.Algebra.GroupWithZero.Nat
import OperatingOrganism.Immune.SwarmMind

/-!
# Decoys

`HoneyTrapAgent` deploys decoys that only an attacker touches. A touch goes to the first active decoy at its location,
and a decoy that is deactivated never answers again. In every run a touch is answered if and only if a decoy was
deployed at its location since the last deactivation, by the first one of these, and every answered touch is counted
in one decoy and in the total (`honeyTrap_answers`).
-/

set_option autoImplicit false

namespace OperatingOrganism.Immune

open OperatingOrganism.Execution

inductive HoneyType where
  | fakeCredentialFile | fakeConfigFile | fakeNetworkService | fakeApiEndpoint | fakeKernelObject | fakeBotProcess
  deriving DecidableEq, Repr

/-- `{:?}` -/
def HoneyType.debug : HoneyType → String
  | .fakeCredentialFile => "FakeCredentialFile"
  | .fakeConfigFile => "FakeConfigFile"
  | .fakeNetworkService => "FakeNetworkService"
  | .fakeApiEndpoint => "FakeApiEndpoint"
  | .fakeKernelObject => "FakeKernelObject"
  | .fakeBotProcess => "FakeBotProcess"

structure HoneyPot where
  honeyType : HoneyType
  location : String
  isActive : Bool
  touchCount : UInt64
  lastTouched : UInt64
  deriving DecidableEq

namespace HoneyPot

/-- `HoneyPot::new` -/
def new (honeyType : HoneyType) (location : String) : HoneyPot := ⟨honeyType, location, true, 0, 0⟩

def touched (pot : HoneyPot) : HoneyPot := { pot with touchCount := pot.touchCount + 1, lastTouched := 0 }

/-- The decoy answers at a location. -/
def Answers (location : String) (pot : HoneyPot) : Prop := pot.isActive = true ∧ pot.location = location

instance (location : String) (pot : HoneyPot) : Decidable (pot.Answers location) :=
  inferInstanceAs (Decidable (_ ∧ _))

end HoneyPot

structure HoneyTrapAgent where
  pots : List HoneyPot
  totalTouches : UInt64
  uniqueAttackers : UInt64
  deriving DecidableEq

def honeyEvent (honeyType : HoneyType) (location : String) (attackerPid : UInt32) : SwarmEvent where
  fromRole := .honeyTrap
  threatLevel := .combat
  description := "HoneyPot touched: " ++ honeyType.debug ++ " at '" ++ location ++ "' by pid=" ++ toString attackerPid
  timestampNs := 0
  confidence := 98
  signature := none

namespace HoneyTrapAgent

/-- `HoneyTrapAgent::new` -/
def new : HoneyTrapAgent := ⟨[], 0, 0⟩

def deploy (agent : HoneyTrapAgent) (honeyType : HoneyType) (location : String) : HoneyTrapAgent :=
  { agent with pots := agent.pots ++ [.new honeyType location] }

/-- `deploy_fake_credentials` -/
def deployFakeCredentials (agent : HoneyTrapAgent) (path : String) : HoneyTrapAgent :=
  agent.deploy .fakeCredentialFile (path ++ "/credentials.json")

/-- `deploy_fake_bot_process` -/
def deployFakeBotProcess (agent : HoneyTrapAgent) (fakePidName : String) : HoneyTrapAgent :=
  agent.deploy .fakeBotProcess ("pid_decoy:" ++ fakePidName)

/-- The loop of `on_honey_touched`: the type of the decoy that answers, and the decoys with the touch. -/
def touchFirst (location : String) : List HoneyPot → Option (HoneyType × List HoneyPot)
  | [] => none
  | pot :: pots =>
    if pot.Answers location then some (pot.honeyType, pot.touched :: pots)
    else (touchFirst location pots).map fun answer => (answer.1, pot :: answer.2)

/-- `on_honey_touched` -/
def onHoneyTouched (agent : HoneyTrapAgent) (location : String) (attackerPid : UInt32) :
    HoneyTrapAgent × Option SwarmEvent :=
  match touchFirst location agent.pots with
  | some (honeyType, pots) =>
    ({ agent with pots := pots, totalTouches := agent.totalTouches + 1 },
      some (honeyEvent honeyType location attackerPid))
  | none => (agent, none)

/-- `deactivate_all` -/
def deactivateAll (agent : HoneyTrapAgent) : HoneyTrapAgent :=
  { agent with pots := agent.pots.map fun pot => { pot with isActive := false } }

/-- `active_count` -/
def activeCount (agent : HoneyTrapAgent) : Nat := (agent.pots.filter HoneyPot.isActive).length

end HoneyTrapAgent

inductive HoneyOp where
  | deployFakeCredentials (path : String)
  | deployFakeBotProcess (fakePidName : String)
  | onHoneyTouched (location : String) (attackerPid : UInt32)
  | deactivateAll

/-! ### What was deployed -/

/-- The decoys since the last deactivation, in the order in which they were deployed, and the answered touches. -/
structure Deployed where
  decoys : List (HoneyType × String)
  touches : Nat

namespace Deployed

/-- The first decoy at the location answers. -/
def answer (deployed : Deployed) (location : String) (attackerPid : UInt32) : Option SwarmEvent :=
  (deployed.decoys.find? fun decoy => decoy.2 = location).map fun decoy => honeyEvent decoy.1 location attackerPid

def next (deployed : Deployed) : HoneyOp → Deployed
  | .deployFakeCredentials path =>
    { deployed with decoys := deployed.decoys ++ [(.fakeCredentialFile, path ++ "/credentials.json")] }
  | .deployFakeBotProcess fakePidName =>
    { deployed with decoys := deployed.decoys ++ [(.fakeBotProcess, "pid_decoy:" ++ fakePidName)] }
  | .onHoneyTouched location attackerPid =>
    { deployed with touches := deployed.touches + (deployed.answer location attackerPid).toList.length }
  | .deactivateAll => { deployed with decoys := [] }

end Deployed

def HoneyOp.run (agent : HoneyTrapAgent) : HoneyOp → HoneyTrapAgent
  | .deployFakeCredentials path => agent.deployFakeCredentials path
  | .deployFakeBotProcess fakePidName => agent.deployFakeBotProcess fakePidName
  | .onHoneyTouched location attackerPid => (agent.onHoneyTouched location attackerPid).1
  | .deactivateAll => agent.deactivateAll

abbrev HoneyRecord := HoneyTrapAgent × Deployed

def HoneyOp.recorded (st : HoneyRecord) (op : HoneyOp) : HoneyRecord := (op.run st.1, st.2.next op)

def HoneyStep (st : HoneyRecord) (op : HoneyOp) (st' : HoneyRecord) : Prop := st' = op.recorded st

def honeyRun (ops : List HoneyOp) : List (HoneyOp × HoneyRecord) := driven HoneyOp.recorded (.new, ⟨[], 0⟩) ops

theorem exec_honeyRun (ops : List HoneyOp) : Exec HoneyStep (.new, ⟨[], 0⟩) (honeyRun ops) :=
  @exec_driven _ _ HoneyStep HoneyOp.recorded (fun _ _ => rfl) (HoneyTrapAgent.new, ⟨[], 0⟩) ops

/-- A touch is answered by the first decoy that was deployed at its location. -/
def AnsweredByFirst (st : HoneyRecord) : HoneyOp → Prop
  | .onHoneyTouched location attackerPid =>
    (st.1.onHoneyTouched location attackerPid).2 = st.2.answer location attackerPid
  | _ => True

/-- A second decoy at a location, as long as the first one is active. -/
def Shadowed (pot pot' : HoneyPot) : Prop :=
  pot.isActive = true → pot'.isActive = true → pot.location = pot'.location → pot'.touchCount = 0

/-- The counters of the decoys and of the agent. -/
structure TouchesCounted (st : HoneyRecord) : Prop where
  total : st.1.totalTouches = UInt64.ofNat st.2.touches
  pots : (st.1.pots.map fun pot => pot.touchCount.toNat).sum % 2 ^ 64 = st.2.touches % 2 ^ 64
  active : st.1.activeCount = st.2.decoys.length
  shadowed : st.1.pots.Pairwise Shadowed

namespace HoneyTrapAgent

variable {agent : HoneyTrapAgent} {pots : List HoneyPot} {location : String} {st : HoneyRecord}

/-- The active decoys, as they were deployed. -/
def decoys (pots : List HoneyPot) : List (HoneyType × String) :=
  (pots.filter HoneyPot.isActive).map fun pot => (pot.honeyType, pot.location)

theorem decoys_append (pots pots' : List HoneyPot) : decoys (pots ++ pots') = decoys pots ++ decoys pots' := by
  simp [decoys]

/-- A touch is answered by no decoy, or by one with none before it that answers. -/
theorem touchFirst_cases (location : String) (pots : List HoneyPot) :
    (touchFirst location pots = none ∧ ∀ pot ∈ pots, ¬ pot.Answers location) ∨
      ∃ front pot back, pots = front ++ pot :: back ∧ pot.Answers location ∧
        (∀ pot' ∈ front, ¬ pot'.Answers location) ∧
        touchFirst location pots = some (pot.honeyType, front ++ pot.touched :: back) := by
  induction pots with
  | nil => exact .inl ⟨rfl, by simp⟩
  | cons pot pots ih =>
    by_cases hanswers : pot.Answers location
    · exact .inr ⟨[], pot, pots, rfl, hanswers, by simp, if_pos hanswers⟩
    · rcases ih with ⟨hnone, hall⟩ | ⟨front, pot', back, rfl, hpot', hfront, htouch⟩
      · refine .inl ⟨?_, List.forall_mem_cons.2 ⟨hanswers, hall⟩⟩
        rw [touchFirst, if_neg hanswers, hnone]
        rfl
      · refine .inr ⟨pot :: front, pot', back, rfl, hpot', List.forall_mem_cons.2 ⟨hanswers, hfront⟩, ?_⟩
        rw [touchFirst, if_neg hanswers, htouch]
        rfl

theorem find?_decoys_of_not_answers (h : ∀ pot ∈ pots, ¬ pot.Answers location) :
    (decoys pots).find? (fun decoy => decoy.2 = location) = none := by
  rw [List.find?_eq_none]
  simp only [decoys, List.mem_map, List.mem_filter, decide_eq_true_eq]
  rintro _ ⟨pot, ⟨hpot, hactive⟩, rfl⟩ hlocation
  exact h pot hpot ⟨hactive, hlocation⟩

/-- The decoys that were deployed are the active ones, and all touches are counted. -/
structure Watched (st : HoneyRecord) : Prop where
  deployed : decoys st.1.pots = st.2.decoys
  total : st.1.totalTouches = UInt64.ofNat st.2.touches
  pots : (st.1.pots.map fun pot => pot.touchCount.toNat).sum % 2 ^ 64 = st.2.touches % 2 ^ 64
  shadowed : st.1.pots.Pairwise Shadowed

theorem Watched.touchesCounted (h : Watched st) : TouchesCounted st where
  total := h.total
  pots := h.pots
  active := by
    rw [← h.deployed, decoys, List.length_map]
    rfl
  shadowed := h.shadowed

/-- A new decoy has no touches. -/
theorem Watched.deploy (h : Watched st) (honeyType : HoneyType) (location : String) :
    Watched (st.1.deploy honeyType location, { st.2 with decoys := st.2.decoys ++ [(honeyType, location)] }) where
  deployed := by
    simp only [HoneyTrapAgent.deploy, decoys_append, h.deployed]
    rfl
  total := h.total
  pots := by simpa [HoneyTrapAgent.deploy, HoneyPot.new] using h.pots
  shadowed := by
    apply List.pairwise_append.2
    refine ⟨h.shadowed, List.pairwise_singleton _ _, ?_⟩
    intro pot _ pot' hpot' _ _ _
    rw [List.mem_singleton.1 hpot']
    rfl

theorem Watched.deactivateAll (h : Watched st) : Watched (st.1.deactivateAll, { st.2 with decoys := [] }) where
  deployed := by simp [HoneyTrapAgent.deactivateAll, decoys]
  total := h.total
  pots := by simpa [HoneyTrapAgent.deactivateAll, Function.comp_def] using h.pots
  shadowed := by
    apply List.pairwise_map.2
    apply h.shadowed.imp
    intro _ _ _ hactive
    cases hactive

/-- The touch of a decoy is counted there and in the total. -/
theorem Watched.touched {front back : List HoneyPot} {pot : HoneyPot} (h : Watched st)
    (hpots : st.1.pots = front ++ pot :: back) (hanswers : pot.Answers location)
    (hfront : ∀ pot' ∈ front, ¬ pot'.Answers location) :
    Watched ({ st.1 with pots := front ++ pot.touched :: back, totalTouches := st.1.totalTouches + 1 },
      { st.2 with touches := st.2.touches + 1 }) where
  deployed := by
    rw [← h.deployed, hpots, decoys_append, decoys_append, List.append_cancel_left_eq]
    simp [decoys, HoneyPot.touched, hanswers.1]
  total := by simp [h.total]
  pots := by
    have hpotsCounted := h.pots
    rw [hpots] at hpotsCounted
    simp only [List.map_append, List.map_cons, List.sum_append, List.sum_cons, HoneyPot.touched,
      UInt64.toNat_add] at hpotsCounted ⊢
    have hone : (1 : UInt64).toNat = 1 := rfl
    omega
  shadowed := by
    have hshadowed := h.shadowed
    rw [hpots] at hshadowed
    simp only [List.pairwise_append, List.pairwise_cons, List.forall_mem_cons] at hshadowed ⊢
    obtain ⟨hbefore, ⟨hpot, hbehind⟩, hacross⟩ := hshadowed
    refine ⟨hbefore, ⟨hpot, hbehind⟩, ?_⟩
    intro pot' hpot'
    refine ⟨?_, (hacross pot' hpot').2⟩
    -- nothing before the decoy answers at its location
    intro hactive _ hlocation
    exact absurd ⟨hactive, hlocation.trans hanswers.2⟩ (hfront pot' hpot')

/-- A touch goes to the first decoy at its location. -/
theorem Watched.answer (h : Watched st) (location : String) (attackerPid : UInt32) :
    AnsweredByFirst st (.onHoneyTouched location attackerPid) ∧
      Watched (HoneyOp.recorded st (.onHoneyTouched location attackerPid)) := by
  simp only [AnsweredByFirst, HoneyOp.recorded, HoneyOp.run, Deployed.next, Deployed.answer, onHoneyTouched]
  rcases touchFirst_cases location st.1.pots with ⟨hnone, hall⟩ | ⟨front, pot, back, hpots, hanswers, hfront, htouch⟩
  · have hfind := find?_decoys_of_not_answers hall
    rw [h.deployed] at hfind
    rw [hfind, hnone]
    exact ⟨rfl, h⟩
  · have hfind : st.2.decoys.find? (fun decoy => decoy.2 = location) = some (pot.honeyType, location) := by
      -- no decoy in front of it answers
      rw [← h.deployed, hpots, decoys_append, List.find?_append, find?_decoys_of_not_answers hfront]
      simp [decoys, hanswers.1, hanswers.2]
    rw [hfind, htouch]
    exact ⟨rfl, h.touched hpots hanswers hfront⟩

theorem watched_recorded (h : Watched st) (op : HoneyOp) : Watched (op.recorded st) := by
  cases op with
  | deployFakeCredentials path => exact h.deploy _ _
  | deployFakeBotProcess fakePidName => exact h.deploy _ _
  | onHoneyTouched location attackerPid => exact (h.answer location attackerPid).2
  | deactivateAll => exact h.deactivateAll

/-- In every run, each touch is answered by the first decoy at its location since the last deactivation, and each
answer is counted once in the decoys and once in the total. -/
theorem honeyTrap_answers {tr : List (HoneyOp × HoneyRecord)} (h : Exec HoneyStep (.new, ⟨[], 0⟩) tr) :
    AllSteps AnsweredByFirst (.new, ⟨[], 0⟩) tr ∧ AllStates TouchesCounted (.new, ⟨[], 0⟩) tr := by
  have hnew : Watched (.new, ⟨[], 0⟩) := ⟨rfl, rfl, rfl, List.Pairwise.nil⟩
  have hkept : ∀ st op st', Watched st → HoneyStep st op st' → Watched st' := by
    rintro st op _ hst rfl
    exact watched_recorded hst op
  refine ⟨h.allSteps_of_invariant hnew hkept ?_, (h.invariant hnew hkept).imp fun st hst => hst.touchesCounted⟩
  intro st op hst
  cases op with
  | onHoneyTouched location attackerPid => exact (hst.answer location attackerPid).1
  | _ => trivial

/-- Two decoys at one location, and a touch before and after they are deactivated. -/
theorem honeyTrap_answers_decoyTwice :
    let tr := honeyRun [.deployFakeCredentials "/tmp/honey", .deployFakeCredentials "/tmp/honey",
      .onHoneyTouched "/tmp/honey/credentials.json" 9999, .deactivateAll,
      .onHoneyTouched "/tmp/honey/credentials.json" 9999]
    AllSteps AnsweredByFirst (.new, ⟨[], 0⟩) tr ∧ AllStates TouchesCounted (.new, ⟨[], 0⟩) tr :=
  honeyTrap_answers (exec_honeyRun _)

end HoneyTrapAgent

end OperatingOrganism.Immune

import Mathlib.Algebra.GroupWithZero.Nat
import Mathlib.Data.List.Nodup
import OperatingOrganism.Immune.SwarmMind
import OperatingOrganism.Library.FirstMatch

/-!
# Who revives an agent

An agent is alive if its status is not dead and its health is not zero. `check_and_regen` revives the dead agents,
looking each up by its role, as long as a Regen agent is alive. `on_level_changed` gives its orders to all agents of
a role, dead or alive, except on the way to the levels dormant and combat.

So a dead agent is left to the regeneration if and only if an event that changes the level does not order it to
another status; and the regeneration revives the dead agents one by one if and only if each is the first of the fleet
with its role and its generation can be counted up (`only_regeneration_revives_iff`).
-/

set_option autoImplicit false

namespace OperatingOrganism.Immune

open OperatingOrganism.FirstMatch

/-- The agent starts its next generation. -/
def AgentRecord.regenerated (agent : AgentRecord) : AgentRecord :=
  { agent with health := 100, generation := agent.generation + 1, status := .regenerating }

@[simp] theorem role_regenerated (agent : AgentRecord) : agent.regenerated.role = agent.role := rfl

@[simp] theorem isAlive_regenerated (agent : AgentRecord) : agent.regenerated.isAlive = true := rfl

namespace SwarmMind

/-- `regen_healthy` -/
def regenHealthy (mind : SwarmMind) : Bool := mind.agents.any fun a => a.role = .regen && a.isAlive

/-- `dead_roles` -/
def deadRoles (mind : SwarmMind) : List AgentRole := (mind.agents.filter fun a => !a.isAlive).map AgentRecord.role

/-- `check_and_regen` -/
def checkAndRegen (mind : SwarmMind) : SwarmMind :=
  if mind.regenHealthy then
    { mind with agents := mind.deadRoles.foldl (modifyFirst AgentRecord.role AgentRecord.regenerated) mind.agents }
  else mind

/-- An event leaves the status, the health and the generation of the agents that are not alive as they are. -/
def EventKeepsDead (mind : SwarmMind) (event : SwarmEvent) : Prop :=
  ∀ (i : Nat) (agent : AgentRecord), mind.agents[i]? = some agent → agent.isAlive = false →
    ∃ agent', (mind.processEvent event).1.agents[i]? = some agent' ∧ agent'.status = agent.status ∧
      agent'.health = agent.health ∧ agent'.generation = agent.generation

/-- While a Regen agent is alive, the regeneration turns each dead agent into a living one of the next generation and
leaves the living ones alone; while none is, it changes nothing. -/
def RegenRevivesDead (mind : SwarmMind) : Prop :=
  if mind.regenHealthy then
    ∀ (i : Nat) (agent : AgentRecord), mind.agents[i]? = some agent →
      ∃ agent', mind.checkAndRegen.agents[i]? = some agent' ∧
        (agent.isAlive = true → agent' = agent) ∧
        (agent.isAlive = false →
          agent'.isAlive = true ∧ agent'.generation.toNat = agent.generation.toNat + 1)
  else mind.checkAndRegen = mind

end SwarmMind

/-- The orders for a level leave the status of a dead agent as it is. -/
def Spared (target : ThreatLevel) (agent : AgentRecord) : Prop :=
  match target with
  | .dormant => True
  | .vigilance => agent.role ∈ [AgentRole.memWatch, .netWatch, .fsWatch, .procWatch] → agent.status = .active
  | .alert => agent.role ∈ [AgentRole.honeyTrap, .mimicry] → agent.status = .deployed
  | .combat => True
  | .survival => agent.role ∈ [AgentRole.regen, .chameleon] → agent.status = .active
  | .confinement => agent.status = if agent.role = .ooBridge then .active else .standby

namespace SwarmMind

/-- If the event changes the level, the orders spare the dead agents. -/
def SparesDead (mind : SwarmMind) (event : SwarmEvent) : Prop :=
  event.threatLevel ≠ mind.currentLevel → mind.currentLevel.canTransitionTo event.threatLevel = true →
    60 ≤ event.confidence → ∀ agent ∈ mind.agents, agent.isAlive = false → Spared event.threatLevel agent

/-- If a Regen agent is alive, each dead agent is the first with its role and has not reached the last
generation. -/
def DeadComeFirst (mind : SwarmMind) : Prop :=
  mind.regenHealthy = true →
    ∀ (i : Nat) (agent : AgentRecord), mind.agents[i]? = some agent → agent.isAlive = false →
      IsFirst AgentRecord.role mind.agents i ∧ agent.generation.toNat + 1 < 2 ^ 32

end SwarmMind

/-! ### The orders -/

/-- A dead agent keeps its status under the orders for a level if and only if they spare it. -/
theorem order_eq_status_iff {agent : AgentRecord} (hdead : agent.isAlive = false) (target : ThreatLevel) :
    SwarmMind.order target agent = agent.status ↔ Spared target agent := by
  cases target with
  | dormant => exact iff_of_true (if_neg (hdead ▸ Bool.false_ne_true)) trivial
  | combat => exact iff_of_true (if_neg (hdead ▸ Bool.false_ne_true)) trivial
  | vigilance => exact ite_eq_right_iff.trans (imp_congr_right fun _ => eq_comm)
  | alert => exact ite_eq_right_iff.trans (imp_congr_right fun _ => eq_comm)
  | survival => exact ite_eq_right_iff.trans (imp_congr_right fun _ => eq_comm)
  | confinement => exact eq_comm

/-- An event gives orders to the agents or does nothing to them. -/
theorem agents_processEvent (mind : SwarmMind) (event : SwarmEvent) :
    (event.threatLevel ≠ mind.currentLevel ∧ mind.Moves event ∧ (mind.processEvent event).1.agents =
      mind.agents.map fun agent => { agent with status := SwarmMind.order event.threatLevel agent }) ∨
    (¬ (event.threatLevel ≠ mind.currentLevel ∧ mind.Moves event) ∧
      (mind.processEvent event).1.agents = mind.agents) := by
  rcases mind.processEvent_cases event with ⟨hsame, heq⟩ | ⟨hne, hmoves, heq⟩ | ⟨-, hstays, heq⟩
  · rw [heq]
    exact .inr ⟨fun h => h.1 hsame, rfl⟩
  · rw [heq]
    exact .inl ⟨hne, hmoves, rfl⟩
  · rw [heq]
    refine .inr ⟨fun h => hstays h.2, ?_⟩
    cases event.signature with
    | none => rfl
    | some signature => exact SwarmMind.agents_learnAntigen _ signature

/-- An event leaves the dead agents alone if and only if its orders spare them. -/
theorem eventKeepsDead_iff (mind : SwarmMind) (event : SwarmEvent) :
    mind.EventKeepsDead event ↔ mind.SparesDead event := by
  rcases agents_processEvent mind event with ⟨hne, hmoves, heq⟩ | ⟨hstays, heq⟩
  · constructor
    · intro hkeeps _ _ _ agent hmem hdead
      obtain ⟨i, hi⟩ := List.mem_iff_getElem?.1 hmem
      obtain ⟨agent', hi', hstatus, -⟩ := hkeeps i agent hi hdead
      rw [heq, List.getElem?_map, hi, Option.map_some, Option.some.injEq] at hi'
      rw [← order_eq_status_iff hdead, ← hstatus, ← hi']
    · intro hspares i agent hi hdead
      have hspared := hspares hne hmoves.1 hmoves.2 agent (List.mem_of_getElem? hi) hdead
      refine ⟨{ agent with status := SwarmMind.order event.threatLevel agent }, ?_, ?_, rfl, rfl⟩
      · rw [heq, List.getElem?_map, hi]
        rfl
      · exact (order_eq_status_iff hdead _).2 hspared
  · refine iff_of_true (fun i agent hi _ => ⟨agent, heq ▸ hi, rfl, rfl, rfl⟩) ?_
    exact fun hne hallowed hconfident => absurd ⟨hne, hallowed, hconfident⟩ hstays

/-! ### The regeneration -/

/-- All dead agents are the first with their roles. -/
def DeadFirst (agents : List AgentRecord) : Prop :=
  ∀ (i : Nat) (agent : AgentRecord), agents[i]? = some agent → agent.isAlive = false → IsFirst AgentRecord.role agents i

namespace SwarmMind

variable {mind : SwarmMind} {i : Nat} {agent : AgentRecord}

theorem mem_deadRoles_iff {role : AgentRole} :
    role ∈ mind.deadRoles ↔ ∃ dead ∈ mind.agents, dead.isAlive = false ∧ dead.role = role := by
  rw [deadRoles, List.mem_map]
  simp only [List.mem_filter, Bool.not_eq_eq_eq_not, Bool.not_true, and_assoc]

/-- The regeneration of an agent, as often as its role is among the dead ones if it is the first with it. -/
theorem getElem?_checkAndRegen (hhealthy : mind.regenHealthy = true) (hi : mind.agents[i]? = some agent) :
    mind.checkAndRegen.agents[i]? =
      some (if IsFirst AgentRecord.role mind.agents i then
          AgentRecord.regenerated^[mind.deadRoles.count agent.role] agent
        else agent) := by
  rw [checkAndRegen, if_pos hhealthy]
  dsimp only
  rw [getElem?_foldl_modifyFirst role_regenerated, hi, Option.map_some]

/-- Where the dead come first, the role of a dead agent is listed once. -/
theorem count_deadRoles_of_dead (hfirst : DeadFirst mind.agents) (hi : mind.agents[i]? = some agent)
    (hdead : agent.isAlive = false) : mind.deadRoles.count agent.role = 1 := by
  refine List.count_eq_one_of_mem ?_ (mem_deadRoles_iff.2 ⟨agent, List.mem_of_getElem? hi, hdead, rfl⟩)
  rw [deadRoles, List.Nodup, List.pairwise_map, List.pairwise_filter, List.pairwise_iff_getElem]
  intro j k hj hk hlt _ hkdead hsame
  have hkfirst := hfirst k _ (List.getElem?_eq_getElem hk) (by simpa using hkdead)
  refine hkfirst j hlt ?_
  rw [List.getElem?_map, List.getElem?_map, List.getElem?_eq_getElem hj, List.getElem?_eq_getElem hk, Option.map_some,
    Option.map_some, hsame]

/-- Where the dead come first, the role of a living agent that is the first with it is not listed. -/
theorem count_deadRoles_of_alive (hfirst : DeadFirst mind.agents) (hi : mind.agents[i]? = some agent)
    (halive : agent.isAlive = true) (hthis : IsFirst AgentRecord.role mind.agents i) :
    mind.deadRoles.count agent.role = 0 := by
  refine List.count_eq_zero_of_not_mem fun hmem => ?_
  obtain ⟨dead, hdead, hnot, hrole⟩ := mem_deadRoles_iff.1 hmem
  obtain ⟨j, hj⟩ := List.mem_iff_getElem?.1 hdead
  have heq := (hfirst j dead hj hnot).unique hthis hj hi hrole
  rw [heq, hi, Option.some.injEq] at hj
  rw [← hj, halive] at hnot
  cases hnot

/-- The regeneration revives the dead agents one by one if and only if they come first and can be counted up. -/
theorem regenRevivesDead_iff (mind : SwarmMind) : mind.RegenRevivesDead ↔ mind.DeadComeFirst := by
  rw [RegenRevivesDead]
  by_cases hhealthy : mind.regenHealthy = true
  · rw [if_pos hhealthy]
    constructor
    · intro hrevives _
      have hfirst : DeadFirst mind.agents := by
        intro i agent hi hdead
        obtain ⟨agent', hi', -, hrevived⟩ := hrevives i agent hi
        rw [getElem?_checkAndRegen hhealthy hi, Option.some.injEq] at hi'
        by_contra hother
        rw [if_neg hother] at hi'
        have halive := (hrevived hdead).1
        rw [← hi', hdead] at halive
        cases halive
      intro i agent hi hdead
      refine ⟨hfirst i agent hi hdead, ?_⟩
      obtain ⟨agent', -, -, hrevived⟩ := hrevives i agent hi
      rw [← (hrevived hdead).2]
      exact agent'.generation.toNat_lt
    · intro hcond i agent hi
      have hfirst : DeadFirst mind.agents := fun i agent hi hdead => (hcond hhealthy i agent hi hdead).1
      refine ⟨_, getElem?_checkAndRegen hhealthy hi, fun halive => ?_, fun hdead => ?_⟩
      · split
        · next hthis =>
          rw [count_deadRoles_of_alive hfirst hi halive hthis]
          rfl
        · rfl
      · obtain ⟨hthis, hfits⟩ := hcond hhealthy i agent hi hdead
        rw [if_pos hthis, count_deadRoles_of_dead hfirst hi hdead, Function.iterate_one]
        refine ⟨isAlive_regenerated agent, ?_⟩
        change (agent.generation + 1).toNat = _
        rw [UInt32.toNat_add]
        exact Nat.mod_eq_of_lt hfits
  · rw [if_neg hhealthy]
    refine iff_of_true ?_ fun hhealthy' => absurd hhealthy' hhealthy
    rw [checkAndRegen, if_neg hhealthy]

end SwarmMind

/-! ### Both together -/

/-- For every fleet and every event, only the regeneration revives, as it should, if and only if the orders spare the
dead and the dead come first. -/
theorem only_regeneration_revives_iff (mind : SwarmMind) (event : SwarmEvent) :
    mind.EventKeepsDead event ∧ mind.RegenRevivesDead ↔ mind.SparesDead event ∧ mind.DeadComeFirst :=
  and_congr (eventKeepsDead_iff mind event) (mind.regenRevivesDead_iff)

/-- In a fleet without two agents of a role, as it is made, the regeneration only fails at the last generation. -/
theorem deadComeFirst_iff_of_nodup {mind : SwarmMind} (h : (mind.agents.map AgentRecord.role).Nodup) :
    mind.DeadComeFirst ↔ (mind.regenHealthy = true →
      ∀ agent ∈ mind.agents, agent.isAlive = false → agent.generation.toNat + 1 < 2 ^ 32) := by
  constructor
  · intro hcond hhealthy agent hmem hdead
    obtain ⟨i, hi⟩ := List.mem_iff_getElem?.1 hmem
    exact (hcond hhealthy i agent hi hdead).2
  · intro hfits hhealthy i agent hi hdead
    refine ⟨fun j hj heq => ?_, hfits hhealthy agent (List.mem_of_getElem? hi) hdead⟩
    have hlt : i < (mind.agents.map AgentRecord.role).length := by
      rw [List.length_map]
      exact (List.getElem?_eq_some_iff.1 hi).1
    rw [List.getElem?_eq_getElem hlt, List.getElem?_eq_getElem (Nat.lt_trans hj hlt)] at heq
    exact absurd ((List.Nodup.getElem_inj_iff h).1 (Option.some.inj heq)) (Nat.ne_of_lt hj)

/-- A new fleet whose first agent, a watcher, has died. -/
def fleetWithDeadWatcher : SwarmMind :=
  { SwarmMind.new with
    agents := SwarmMind.new.agents.modify 0 fun agent => { agent with status := .dead } }

/-- The move to vigilance sets the dead watcher to active, and it counts as alive. -/
theorem exists_dead_revived_by_event :
    ∃ (mind : SwarmMind) (event : SwarmEvent), ¬ (mind.EventKeepsDead event ∧ mind.RegenRevivesDead) := by
  refine ⟨fleetWithDeadWatcher, ⟨.netWatch, .vigilance, "", 0, 60, none⟩, fun hboth => ?_⟩
  obtain ⟨agent, hagent, hstatus, -⟩ :=
    hboth.1 0 ⟨.memWatch, .dead, 1, 0, 0, 100⟩ (by decide) (by decide)
  have hactive : (fleetWithDeadWatcher.processEvent ⟨.netWatch, .vigilance, "", 0, 60, none⟩).1.agents[0]? =
      some ⟨.memWatch, .active, 1, 0, 0, 100⟩ := by decide
  rw [hactive, Option.some.injEq] at hagent
  rw [← hagent] at hstatus
  cases hstatus

end OperatingOrganism.Immune

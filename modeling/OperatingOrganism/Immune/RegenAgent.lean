import Mathlib.Algebra.GroupWithZero.Nat
import Mathlib.Data.List.Pairwise
import OperatingOrganism.Immune.SwarmMind
import OperatingOrganism.Library.KeyedTable

/-!
# Generations of the regenerated agents

`RegenAgent` keeps a snapshot of each agent with its generation. A warm regeneration announces the generation after
that of the snapshot, which it leaves as it is, so a second one announces the same generation again; and an agent
that was regenerated without a snapshot starts at generation 1 again.

With the lives of the agents as a ghost, in which a generation is announced when the event of a regeneration says so
(`recorded_announces`, `healed_announces`), the announced generations of every role grow if and only if each warm
regeneration finds a snapshot that was taken since the last one, from an agent that was not regenerated cold in
between, and the generation does not wrap (`generationsAdvance_iff`). What the agent prints is left out.
-/

set_option autoImplicit false

namespace OperatingOrganism.Immune

open OperatingOrganism.Execution OperatingOrganism.KeyedTable

/-- `{:?}` -/
def AgentRole.debug : AgentRole → String
  | .memWatch => "MemWatch"
  | .netWatch => "NetWatch"
  | .fsWatch => "FsWatch"
  | .procWatch => "ProcWatch"
  | .kernelWatch => "KernelWatch"
  | .bootWatch => "BootWatch"
  | .quarantine => "Quarantine"
  | .honeyTrap => "HoneyTrap"
  | .neutralizer => "Neutralizer"
  | .chameleon => "Chameleon"
  | .mimicry => "Mimicry"
  | .mutation => "Mutation"
  | .regen => "Regen"
  | .ooBridge => "OoBridge"
  | .swarmMind => "SwarmMind"

structure AgentSnapshot where
  role : AgentRole
  generation : UInt32
  dnaHash : Vector UInt8 32
  snapshotTime : UInt64
  isValid : Bool
  deriving DecidableEq

/-- `AgentSnapshot::new` -/
def AgentSnapshot.new (role : AgentRole) (generation : UInt32) : AgentSnapshot where
  role := role
  generation := generation
  dnaHash := .replicate 32 0
  snapshotTime := 0
  isValid := true

/-- An existing snapshot is taken again. -/
def AgentSnapshot.retaken (snap : AgentSnapshot) (generation : UInt32) : AgentSnapshot :=
  { snap with generation := generation, snapshotTime := 0, isValid := true }

structure RegenAgent where
  snapshots : List AgentSnapshot
  regensPerformed : UInt64
  isHealthy : Bool

namespace RegenAgent

/-- `RegenAgent::new` -/
def new : RegenAgent := ⟨[], 0, true⟩

/-- `snapshot_agent` -/
def snapshotAgent (agent : RegenAgent) (role : AgentRole) (generation : UInt32) : RegenAgent :=
  match agent.snapshots.findIdx? fun s => s.role = role with
  | some i => { agent with snapshots := agent.snapshots.modify i fun s => s.retaken generation }
  | none => { agent with snapshots := agent.snapshots ++ [.new role generation] }

/-- The snapshot that a warm regeneration starts from. -/
def warmSnapshot? (agent : RegenAgent) (role : AgentRole) : Option AgentSnapshot :=
  agent.snapshots.find? fun s => s.role = role && s.isValid

/-- The confirmation of a warm regeneration, which announces the new generation. -/
def regeneratedEvent (role : AgentRole) (generation newGen : UInt32) : SwarmEvent where
  fromRole := .regen
  threatLevel := .survival
  description :=
    "Agent " ++ role.debug ++ " regenerated (gen " ++ toString generation ++ "→" ++ toString newGen ++ ")"
  timestampNs := 0
  confidence := 100
  signature := none

/-- `regenerate` -/
def regenerate (agent : RegenAgent) (role : AgentRole) : RegenAgent × Option SwarmEvent :=
  match agent.warmSnapshot? role with
  | some snap =>
    let newGen := snap.generation + 1
    ({ agent with regensPerformed := agent.regensPerformed + 1 }, some (regeneratedEvent role snap.generation newGen))
  | none => (agent, none)

/-- The event of an attempt from nothing, at generation 1. -/
def coldEvent (role : AgentRole) : SwarmEvent where
  fromRole := .regen
  threatLevel := .survival
  description := "Agent " ++ role.debug ++ " cold-regenerated (no snapshot)"
  timestampNs := 0
  confidence := 70
  signature := none

/-- One turn of the loop of `check_and_heal`. -/
def heal (st : RegenAgent × List SwarmEvent) (role : AgentRole) : RegenAgent × List SwarmEvent :=
  match st.1.regenerate role with
  | (agent, some event) => (agent, st.2 ++ [event])
  | (agent, none) => (agent, st.2 ++ [coldEvent role])

/-- `check_and_heal` -/
def checkAndHeal (agent : RegenAgent) (deadAgents : List AgentRole) : RegenAgent × List SwarmEvent :=
  deadAgents.foldl heal (agent, [])

/-- `invalidate_all_snapshots` -/
def invalidateAllSnapshots (agent : RegenAgent) : RegenAgent :=
  { agent with snapshots := agent.snapshots.map fun s => { s with isValid := false } }

end RegenAgent

/-! ### The lives of the agents -/

/-- What happened to the agent of a role. -/
structure AgentLife where
  /-- the generation that it has -/
  generation : UInt32
  /-- the generations that were announced for it, the last one first -/
  announced : List UInt32
  /-- a snapshot of it was taken since the last announcement -/
  snapshotSince : Bool
  /-- it was regenerated cold since the last announcement -/
  coldSince : Bool

namespace AgentLife

/-- An agent of some generation. -/
def born (generation : UInt32) : AgentLife := ⟨generation, [], false, false⟩

def snapshotTaken (life : AgentLife) : AgentLife := { life with snapshotSince := true }

/-- The agent comes back with the announced generation. -/
def warm (life : AgentLife) (newGen : UInt32) : AgentLife := ⟨newGen, newGen :: life.announced, false, false⟩

/-- The agent comes back from nothing. -/
def cold (life : AgentLife) : AgentLife := { life with generation := 1, coldSince := true }

/-- Each announced generation is larger than every earlier one. -/
def Advances (life : AgentLife) : Prop := life.announced.Pairwise (· > ·)

/-- Since the last announcement a snapshot was taken, the agent was not put back to generation 1 (unless that is
ahead), and the announced generation has a successor. -/
def Fresh (life : AgentLife) : Prop :=
  ∀ last ∈ life.announced.head?,
    life.snapshotSince = true ∧ (life.coldSince = true → last < 2) ∧ last.toNat + 1 < 2 ^ 32

end AgentLife

abbrev AgentLives := AgentRole → AgentLife

/-- What a turn of `check_and_heal` does to the lives. -/
def AgentLives.healed (agent : RegenAgent) (lives : AgentLives) (role : AgentRole) : AgentLives :=
  Function.update lives role <|
    match agent.warmSnapshot? role with
    | some snap => (lives role).warm (snap.generation + 1)
    | none => (lives role).cold

inductive RegenOp where
  | snapshotAgent (role : AgentRole)
  | regenerate (role : AgentRole)
  | checkAndHeal (deadAgents : List AgentRole)
  | invalidateAllSnapshots

abbrev RegenRecord := RegenAgent × AgentLives

/-- A call; a snapshot is taken with the generation that the agent has. -/
def RegenOp.recorded (st : RegenRecord) : RegenOp → RegenRecord
  | .snapshotAgent role =>
    (st.1.snapshotAgent role (st.2 role).generation, Function.update st.2 role (st.2 role).snapshotTaken)
  | .regenerate role =>
    ((st.1.regenerate role).1,
      match st.1.warmSnapshot? role with
      | some snap => Function.update st.2 role ((st.2 role).warm (snap.generation + 1))
      | none => st.2)
  | .checkAndHeal deadAgents => ((st.1.checkAndHeal deadAgents).1, deadAgents.foldl (AgentLives.healed st.1) st.2)
  | .invalidateAllSnapshots => (st.1.invalidateAllSnapshots, st.2)

def RegenStep (st : RegenRecord) (op : RegenOp) (st' : RegenRecord) : Prop := st' = op.recorded st

/-- A run with agents of any generations. -/
def regenRun (generations : AgentRole → UInt32) (ops : List RegenOp) : List (RegenOp × RegenRecord) :=
  driven RegenOp.recorded (.new, fun role => .born (generations role)) ops

theorem exec_regenRun (generations : AgentRole → UInt32) (ops : List RegenOp) :
    Exec RegenStep (.new, fun role => .born (generations role)) (regenRun generations ops) :=
  @exec_driven _ _ RegenStep RegenOp.recorded (fun _ _ => rfl)
    (RegenAgent.new, fun role => AgentLife.born (generations role)) ops

/-- The announced generations of every role grow. -/
def GenerationsAdvance (st : RegenRecord) : Prop := ∀ role, (st.2 role).Advances

/-- A role that is regenerated warm has a fresh snapshot. -/
def WarmIsFresh (agent : RegenAgent) (lives : AgentLives) (role : AgentRole) : Prop :=
  (agent.warmSnapshot? role).isSome → (lives role).Fresh

/-- Every warm regeneration of a call finds a fresh snapshot. -/
def RegeneratesFresh (st : RegenRecord) : RegenOp → Prop
  | .regenerate role => WarmIsFresh st.1 st.2 role
  | .checkAndHeal deadAgents =>
    AllSteps (WarmIsFresh st.1) st.2 (driven (AgentLives.healed st.1) st.2 deadAgents)
  | _ => True

/-! ### What is announced -/

/-- A regeneration leaves the snapshots. -/
theorem snapshots_regenerate (agent : RegenAgent) (role : AgentRole) :
    (agent.regenerate role).1.snapshots = agent.snapshots := by
  unfold RegenAgent.regenerate
  split <;> rfl

theorem snapshots_heal (st : RegenAgent × List SwarmEvent) (role : AgentRole) :
    (RegenAgent.heal st role).1.snapshots = st.1.snapshots := by
  have hsame := snapshots_regenerate st.1 role
  unfold RegenAgent.heal
  split
  · next heq => rwa [heq] at hsame
  · next heq => rwa [heq] at hsame

/-- The events of `check_and_heal`: each dead agent comes back warm if it has a valid snapshot, and cold otherwise. -/
theorem checkAndHeal_spec (agent : RegenAgent) (deadAgents : List AgentRole) :
    (agent.checkAndHeal deadAgents).1.snapshots = agent.snapshots ∧
      (agent.checkAndHeal deadAgents).2 = deadAgents.map fun role =>
        match agent.warmSnapshot? role with
        | some snap => RegenAgent.regeneratedEvent role snap.generation (snap.generation + 1)
        | none => RegenAgent.coldEvent role := by
  suffices hfold : ∀ (st : RegenAgent × List SwarmEvent), st.1.snapshots = agent.snapshots →
      (deadAgents.foldl RegenAgent.heal st).1.snapshots = agent.snapshots ∧
        (deadAgents.foldl RegenAgent.heal st).2 = st.2 ++ deadAgents.map fun role =>
          match agent.warmSnapshot? role with
          | some snap => RegenAgent.regeneratedEvent role snap.generation (snap.generation + 1)
          | none => RegenAgent.coldEvent role from
    hfold (agent, []) rfl
  induction deadAgents with
  | nil =>
    intro st hst
    exact ⟨hst, (List.append_nil _).symm⟩
  | cons role rest ih =>
    intro st hst
    have hwarm : st.1.warmSnapshot? role = agent.warmSnapshot? role := by
      rw [RegenAgent.warmSnapshot?, hst, RegenAgent.warmSnapshot?]
    obtain ⟨hsnapshots, hevents⟩ := ih (RegenAgent.heal st role) ((snapshots_heal st role).trans hst)
    rw [List.foldl_cons]
    refine ⟨hsnapshots, hevents.trans ?_⟩
    rw [List.map_cons, RegenAgent.heal, RegenAgent.regenerate, hwarm]
    cases agent.warmSnapshot? role <;> simp

/-- A generation is recorded as announced for a role when it stands in the event of its warm regeneration. -/
theorem recorded_announces {st : RegenRecord} {role : AgentRole} {event : SwarmEvent}
    (h : (st.1.regenerate role).2 = some event) :
    ∃ generation newGen, event = RegenAgent.regeneratedEvent role generation newGen ∧
      (RegenOp.recorded st (.regenerate role)).2 role = (st.2 role).warm newGen := by
  rw [RegenAgent.regenerate] at h
  simp only [RegenOp.recorded]
  cases hsnap : st.1.warmSnapshot? role with
  | none =>
    rw [hsnap] at h
    cases h
  | some snap =>
    rw [hsnap] at h
    exact ⟨_, _, (Option.some.inj h).symm, Function.update_self ..⟩

/-- In the loop of `check_and_heal`, too; and an agent comes back from nothing when that is what the event says. -/
theorem healed_announces (st : RegenAgent × List SwarmEvent) (lives : AgentLives) (role : AgentRole) :
    ∃ event, (RegenAgent.heal st role).2 = st.2 ++ [event] ∧
      ((∃ generation newGen, event = RegenAgent.regeneratedEvent role generation newGen ∧
          AgentLives.healed st.1 lives role role = (lives role).warm newGen) ∨
        event = RegenAgent.coldEvent role ∧ AgentLives.healed st.1 lives role role = (lives role).cold) := by
  rw [RegenAgent.heal, RegenAgent.regenerate, AgentLives.healed]
  cases st.1.warmSnapshot? role with
  | none => exact ⟨_, rfl, .inr ⟨rfl, Function.update_self ..⟩⟩
  | some snap => exact ⟨_, rfl, .inl ⟨_, _, rfl, Function.update_self ..⟩⟩

/-! ### The snapshots and the lives -/

/-- A snapshot taken since the last announcement has the generation of the agent, an older one the generation before
the announced one. The agent has the generation announced last, or 1 after a cold regeneration. -/
structure LifeTracked (snap? : Option AgentSnapshot) (life : AgentLife) : Prop where
  taken : life.snapshotSince = true → ∀ snap, snap? = some snap → snap.isValid = true →
    snap.generation = life.generation
  used : life.snapshotSince = false → ∀ last ∈ life.announced.head?, ∀ snap, snap? = some snap →
    snap.generation + 1 = last
  announced : life.coldSince = false → ∀ last ∈ life.announced.head?, life.generation = last
  cold : life.coldSince = true → life.generation = 1

/-- There is one snapshot for a role at most, and it tracks the life of its agent. -/
def Tracked (st : RegenRecord) : Prop :=
  ∃ content, Lists AgentSnapshot.role st.1.snapshots content ∧ ∀ role, LifeTracked (content role) (st.2 role)

theorem warmSnapshot?_eq {agent : RegenAgent} {content : AgentRole → Option AgentSnapshot}
    (h : Lists AgentSnapshot.role agent.snapshots content) (role : AgentRole) :
    agent.warmSnapshot? role = (content role).filter AgentSnapshot.isValid :=
  h.find?_and role AgentSnapshot.isValid

section

variable {content : AgentRole → Option AgentSnapshot} {lives : AgentLives}

/-- A change to one life and its snapshot leaves the others tracked. -/
theorem tracked_update (hlives : ∀ role, LifeTracked (content role) (lives role)) {role : AgentRole}
    {snap? : Option AgentSnapshot} {life : AgentLife} (hnew : LifeTracked snap? life) (role' : AgentRole) :
    LifeTracked (Function.update content role snap? role') (Function.update lives role life role') := by
  by_cases hrole : role' = role
  · subst hrole
    rw [Function.update_self, Function.update_self]
    exact hnew
  · rw [Function.update_of_ne hrole, Function.update_of_ne hrole]
    exact hlives role'

/-- A warm regeneration keeps the snapshot, whose generation is now the one before the announced one. -/
theorem LifeTracked.warmLife {snap : AgentSnapshot} (life : AgentLife) :
    LifeTracked (some snap) (life.warm (snap.generation + 1)) where
  taken := Bool.noConfusion
  used _ last hlast snap' hsnap' := by
    obtain rfl := Option.some.inj hsnap'
    exact Option.some.inj hlast
  announced _ last hlast := Option.some.inj hlast
  cold := Bool.noConfusion

/-- A cold regeneration happens where no snapshot is valid. -/
theorem LifeTracked.coldLife {snap? : Option AgentSnapshot} {life : AgentLife} (h : LifeTracked snap? life)
    (hnone : snap?.filter AgentSnapshot.isValid = none) : LifeTracked snap? life.cold where
  taken _ snap hsnap hvalid := by
    rw [hsnap, Option.filter_some, if_pos hvalid] at hnone
    cases hnone
  used := h.used
  announced := Bool.noConfusion
  cold _ := rfl

/-- A turn of `check_and_heal` leaves the lives tracked. -/
theorem tracked_healed {agent : RegenAgent} (hlists : Lists AgentSnapshot.role agent.snapshots content)
    (hlives : ∀ role, LifeTracked (content role) (lives role)) (role role' : AgentRole) :
    LifeTracked (content role') (lives.healed agent role role') := by
  have hsame : Function.update content role (content role) = content := Function.update_eq_self role content
  rw [← hsame, AgentLives.healed]
  apply tracked_update hlives
  cases hwarm : agent.warmSnapshot? role with
  | none =>
    rw [warmSnapshot?_eq hlists] at hwarm
    exact (hlives role).coldLife hwarm
  | some snap =>
    rw [warmSnapshot?_eq hlists, Option.filter_eq_some_iff] at hwarm
    rw [hwarm.1]
    exact LifeTracked.warmLife (lives role)

/-- The whole of `check_and_heal`. -/
theorem tracked_heals {agent : RegenAgent} (hlists : Lists AgentSnapshot.role agent.snapshots content)
    (deadAgents : List AgentRole) (hlives : ∀ role, LifeTracked (content role) (lives role)) (role : AgentRole) :
    LifeTracked (content role) (deadAgents.foldl (AgentLives.healed agent) lives role) := by
  induction deadAgents generalizing lives with
  | nil => exact hlives role
  | cons dead rest ih => exact ih fun role' => tracked_healed hlists hlives dead role'

/-- A new snapshot has the generation of the agent. -/
theorem LifeTracked.snapshotLife {snap? : Option AgentSnapshot} {life : AgentLife} (h : LifeTracked snap? life)
    (snap : AgentSnapshot) (hgeneration : snap.generation = life.generation) :
    LifeTracked (some snap) life.snapshotTaken where
  taken := by
    rintro - snap' hsnap' -
    obtain rfl := Option.some.inj hsnap'
    exact hgeneration
  used := Bool.noConfusion
  announced := h.announced
  cold := h.cold

/-- A snapshot is taken again, or for the first time. -/
theorem tracked_snapshotAgent {agent : RegenAgent} (hlists : Lists AgentSnapshot.role agent.snapshots content)
    (hlives : ∀ role, LifeTracked (content role) (lives role)) (role : AgentRole) :
    Tracked (RegenOp.recorded (agent, lives) (.snapshotAgent role)) := by
  simp only [RegenOp.recorded, RegenAgent.snapshotAgent]
  split
  · next i hfind =>
    obtain ⟨hlt, hrole, -⟩ := List.findIdx?_eq_some_iff_getElem.1 hfind
    have hsnap := List.getElem?_eq_getElem hlt
    have hset := hlists.set (y := agent.snapshots[i].retaken (lives role).generation) hsnap rfl
    rw [of_decide_eq_true hrole] at hset
    have hlife := (hlives role).snapshotLife (agent.snapshots[i].retaken (lives role).generation) rfl
    refine ⟨_, ?_, tracked_update hlives hlife⟩
    rwa [List.modify_eq_set_getElem?, hsnap]
  · next hfind =>
    have hfresh : content role = none := by
      rw [hlists.eq_none_iff]
      exact fun snap hsnap => of_decide_eq_false (List.findIdx?_eq_none_iff.1 hfind snap hsnap)
    have happend := hlists.append (x := AgentSnapshot.new role (lives role).generation) hfresh
    have hlife := (hlives role).snapshotLife (.new role (lives role).generation) rfl
    exact ⟨_, happend, tracked_update hlives hlife⟩

/-- A snapshot that is invalid is not used. -/
theorem LifeTracked.invalidated {snap? : Option AgentSnapshot} {life : AgentLife} (h : LifeTracked snap? life) :
    LifeTracked (snap?.map fun s => { s with isValid := false }) life where
  taken _ snap hsnap hvalid := by
    obtain ⟨old, -, rfl⟩ := Option.map_eq_some_iff.1 hsnap
    cases hvalid
  used hused last hlast snap hsnap := by
    obtain ⟨old, hold, rfl⟩ := Option.map_eq_some_iff.1 hsnap
    exact h.used hused last hlast old hold
  announced := h.announced
  cold := h.cold

end

/-- Every call keeps the lives tracked. -/
theorem tracked_recorded {st : RegenRecord} (h : Tracked st) (op : RegenOp) : Tracked (op.recorded st) := by
  obtain ⟨agent, lives⟩ := st
  obtain ⟨content, hlists, hlives⟩ := h
  cases op with
  | snapshotAgent role => exact tracked_snapshotAgent hlists hlives role
  | regenerate role =>
    refine ⟨content, ?_, fun role' => ?_⟩
    · rw [RegenOp.recorded, snapshots_regenerate]
      exact hlists
    · have hhealed := tracked_healed hlists hlives role role'
      simp only [RegenOp.recorded]
      cases hwarm : agent.warmSnapshot? role with
      | none => exact hlives role'
      | some snap =>
        rw [AgentLives.healed, hwarm] at hhealed
        exact hhealed
  | checkAndHeal deadAgents =>
    refine ⟨content, ?_, tracked_heals hlists deadAgents hlives⟩
    rw [RegenOp.recorded, (checkAndHeal_spec agent deadAgents).1]
    exact hlists
  | invalidateAllSnapshots => exact ⟨_, hlists.map fun _ => rfl, fun role => (hlives role).invalidated⟩

theorem tracked_new (generations : AgentRole → UInt32) :
    Tracked (.new, fun role => .born (generations role)) := by
  refine ⟨_, Lists.nil, fun role => ⟨Bool.noConfusion, ?_, ?_, Bool.noConfusion⟩⟩
  · intro _ last hlast
    cases hlast
  · intro _ last hlast
    cases hlast

/-! ### When a generation advances -/

/-- From a snapshot that tracks the life of its agent, the announced generation advances exactly when the snapshot
is fresh. -/
theorem advances_warm_iff {snap : AgentSnapshot} {life : AgentLife} (h : LifeTracked (some snap) life)
    (hvalid : snap.isValid = true) (hadvances : life.Advances) :
    (life.warm (snap.generation + 1)).Advances ↔ life.Fresh := by
  have hearlier : life.announced.Pairwise (· > ·) := hadvances
  rw [AgentLife.Advances, AgentLife.warm, List.pairwise_cons, and_iff_left hearlier]
  cases hannounced : life.announced with
  | nil => simp [AgentLife.Fresh, hannounced]
  | cons last earlier =>
    have hhead : life.announced.head? = some last := by rw [hannounced, List.head?_cons]
    -- the last announced generation is the largest
    have hlargest : (∀ g ∈ last :: earlier, snap.generation + 1 > g) ↔ last < snap.generation + 1 := by
      rw [hannounced, List.pairwise_cons] at hearlier
      refine ⟨fun hall => hall last List.mem_cons_self, fun hlast g hg => ?_⟩
      rcases List.mem_cons.1 hg with rfl | hg
      · exact hlast
      · exact UInt32.lt_trans (hearlier.1 g hg) hlast
    rw [hlargest, AgentLife.Fresh]
    simp only [hhead, Option.mem_some_iff, forall_eq']
    rw [UInt32.lt_iff_toNat_lt]
    cases hsince : life.snapshotSince with
    | false =>
      rw [← h.used hsince last hhead snap rfl]
      simp
    | true =>
      rw [h.taken hsince snap rfl hvalid]
      cases hcold : life.coldSince with
      | false =>
        rw [h.announced hcold last hhead, UInt32.toNat_add]
        have hlt := last.toNat_lt
        change last.toNat < (last.toNat + 1) % 2 ^ 32 ↔ _
        simp only [true_and, Bool.false_eq_true, false_implies]
        omega
      | true =>
        rw [h.cold hcold]
        have hlt := last.toNat_lt
        change last.toNat < 2 ↔ _
        simp only [true_and, true_implies, UInt32.lt_iff_toNat_lt]
        change _ ↔ last.toNat < 2 ∧ _
        omega

/-- The announced generations of all lives grow. -/
def AgentLives.Advance (lives : AgentLives) : Prop := ∀ role, (lives role).Advances

section

variable {agent : RegenAgent} {content : AgentRole → Option AgentSnapshot} {lives : AgentLives}

/-- One life is changed. -/
theorem advance_update_iff (hadvance : lives.Advance) (role : AgentRole) (life : AgentLife) :
    AgentLives.Advance (Function.update lives role life) ↔ life.Advances := by
  constructor
  · intro hall
    have hlife := hall role
    rwa [Function.update_self] at hlife
  · intro hlife role'
    by_cases hrole : role' = role
    · subst hrole
      rwa [Function.update_self]
    · rw [Function.update_of_ne hrole]
      exact hadvance role'

/-- A warm regeneration of a role, or none. -/
theorem advance_regenerated_iff (hlists : Lists AgentSnapshot.role agent.snapshots content)
    (hlives : ∀ role, LifeTracked (content role) (lives role)) (hadvance : lives.Advance) {role : AgentRole}
    {snap : AgentSnapshot} (hwarm : agent.warmSnapshot? role = some snap) :
    AgentLives.Advance (Function.update lives role ((lives role).warm (snap.generation + 1))) ↔
      WarmIsFresh agent lives role := by
  have hcontent := hwarm
  rw [warmSnapshot?_eq hlists, Option.filter_eq_some_iff] at hcontent
  have htracked := hlives role
  rw [hcontent.1] at htracked
  rw [advance_update_iff hadvance, advances_warm_iff htracked hcontent.2 (hadvance role), WarmIsFresh, hwarm]
  simp

theorem advance_healed_iff (hlists : Lists AgentSnapshot.role agent.snapshots content)
    (hlives : ∀ role, LifeTracked (content role) (lives role)) (hadvance : lives.Advance) (role : AgentRole) :
    (lives.healed agent role).Advance ↔ WarmIsFresh agent lives role := by
  cases hwarm : agent.warmSnapshot? role with
  | some snap =>
    rw [AgentLives.healed, hwarm]
    exact advance_regenerated_iff hlists hlives hadvance hwarm
  | none =>
    rw [AgentLives.healed, hwarm, WarmIsFresh, hwarm]
    refine iff_of_true ((advance_update_iff hadvance role _).2 ?_) nofun
    exact hadvance role

/-- What has been announced stays announced. -/
theorem advance_of_healed {role : AgentRole} (h : (lives.healed agent role).Advance) : lives.Advance := by
  intro role'
  have hrole' := h role'
  by_cases hrole : role' = role
  · subst hrole
    rw [AgentLives.healed, Function.update_self] at hrole'
    cases hwarm : agent.warmSnapshot? role' with
    | some snap =>
      rw [hwarm] at hrole'
      exact (List.pairwise_cons.1 hrole').2
    | none =>
      rw [hwarm] at hrole'
      exact hrole'
  · rwa [AgentLives.healed, Function.update_of_ne hrole] at hrole'

theorem advance_of_heals {deadAgents : List AgentRole}
    (h : AgentLives.Advance (deadAgents.foldl (AgentLives.healed agent) lives)) : lives.Advance := by
  induction deadAgents generalizing lives with
  | nil => exact h
  | cons role rest ih => exact advance_of_healed (ih h)

/-- The whole of `check_and_heal`: the dead agents one after the other. -/
theorem advance_heals_iff (hlists : Lists AgentSnapshot.role agent.snapshots content) (deadAgents : List AgentRole)
    (hlives : ∀ role, LifeTracked (content role) (lives role)) (hadvance : lives.Advance) :
    AgentLives.Advance (deadAgents.foldl (AgentLives.healed agent) lives) ↔
      AllSteps (WarmIsFresh agent) lives (driven (AgentLives.healed agent) lives deadAgents) := by
  induction deadAgents generalizing lives with
  | nil => exact iff_of_true hadvance trivial
  | cons role rest ih =>
    have hone := advance_healed_iff hlists hlives hadvance role
    have hrest := ih fun role' => tracked_healed hlists hlives role role'
    rw [List.foldl_cons, driven, allSteps_cons]
    constructor
    · intro hall
      have hnow : (lives.healed agent role).Advance := advance_of_heals hall
      exact ⟨hone.1 hnow, (hrest hnow).1 hall⟩
    · rintro ⟨hfresh, hsteps⟩
      exact (hrest (hone.2 hfresh)).2 hsteps

end

/-- A call advances the generations exactly when every warm regeneration finds a fresh snapshot. -/
theorem generationsAdvance_step_iff {st : RegenRecord} (h : Tracked st) (hadvance : GenerationsAdvance st)
    (op : RegenOp) : GenerationsAdvance (op.recorded st) ↔ RegeneratesFresh st op := by
  obtain ⟨agent, lives⟩ := st
  obtain ⟨content, hlists, hlives⟩ := h
  cases op with
  | snapshotAgent role => exact iff_of_true ((advance_update_iff hadvance role _).2 (hadvance role)) trivial
  | regenerate role =>
    simp only [RegenOp.recorded, RegeneratesFresh, GenerationsAdvance]
    cases hwarm : agent.warmSnapshot? role with
    | some snap => exact advance_regenerated_iff hlists hlives hadvance hwarm
    | none =>
      refine iff_of_true hadvance fun hsome => ?_
      rw [hwarm] at hsome
      cases hsome
  | checkAndHeal deadAgents => exact advance_heals_iff hlists deadAgents hlives hadvance
  | invalidateAllSnapshots => exact iff_of_true hadvance trivial

/-- In every run, with agents of any generations, the announced generations of every role grow in every state if and
only if each warm regeneration finds a fresh snapshot. -/
theorem generationsAdvance_iff {generations : AgentRole → UInt32} {tr : List (RegenOp × RegenRecord)}
    (h : Exec RegenStep (.new, fun role => .born (generations role)) tr) :
    AllStates GenerationsAdvance (.new, fun role => .born (generations role)) tr ↔
      AllSteps RegeneratesFresh (.new, fun role => .born (generations role)) tr := by
  refine h.allStates_iff_allSteps (tracked_new generations) (fun _ => List.Pairwise.nil) ?_ ?_
  · rintro st op st' hst rfl
    exact tracked_recorded hst op
  · rintro st op st' hst hadvance rfl
    exact generationsAdvance_step_iff hst hadvance op

/-- A snapshot is taken before each of two regenerations. -/
theorem refreshed_generations_advance :
    AllStates GenerationsAdvance (.new, fun _ => .born 1)
      (regenRun (fun _ => 1) [.snapshotAgent .memWatch, .regenerate .memWatch, .snapshotAgent .memWatch,
        .checkAndHeal [.memWatch, .netWatch]]) := by
  refine (generationsAdvance_iff (exec_regenRun (fun _ => 1) _)).2 ⟨trivial, fun _ => ?_, trivial, ?_, trivial⟩
  · exact fun last hlast => absurd hlast (Option.not_mem_none last)
  · refine ⟨fun _ last hlast => ?_, nofun, trivial⟩
    obtain rfl := Option.some.inj hlast
    decide

/-- Without a new snapshot, a second regeneration announces the same generation. -/
theorem generation_announced_twice :
    ¬ AllStates GenerationsAdvance (.new, fun _ => .born 1)
      (regenRun (fun _ => 1) [.snapshotAgent .memWatch, .regenerate .memWatch, .regenerate .memWatch]) := by
  intro h
  exact absurd (h.final .memWatch) (by unfold AgentLife.Advances; decide)

end OperatingOrganism.Immune

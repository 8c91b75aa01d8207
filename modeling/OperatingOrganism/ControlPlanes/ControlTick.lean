import OperatingOrganism.ControlPlanes.HomeostasisMode

/-!
# The control tick

`control_tick` evaluates the mode, asks three engines for a decision and resolves by rank. Each engine
has its own ladder: the reflex engine looks at the vital chain and the mean health, the autonomy engine
at the worst health outside the vital chain, the strategic engine at the mode.

`rank_eq_zero_iff`, `rank_le_one_iff` and `rank_le_two_iff` say when the resolved rank is at most a given
one. From them the ticks on two registries, the first sicker than the second, are compared
(`tick_protective_iff`). The first is at least as protective but in two positions that the ladders
leave open: where a worst organ drops below the SAFE threshold the autonomy engine turns from throttling
to self-healing, and where the mode waits in SAFE for the recovery threshold no engine asks for more
than holding.
-/

set_option autoImplicit false

namespace OperatingOrganism.ControlPlanes

open OperatingOrganism.UnitedBus

/-- `oo_decision_t`. -/
inductive Decision where
  | none | hold | throttle | isolate | recover | optimize
  deriving DecidableEq, Repr

/-- `oo_plane_status_t`. The decision that an engine returns is the one in its status. -/
structure PlaneStatus where
  active : Bool
  lastDecision : Decision
  reasonCode : UInt16
  riskScore : UInt8
  deriving DecidableEq, Repr

/-- A zero-initialised status. -/
def PlaneStatus.zero : PlaneStatus := ⟨false, .none, 0, 0⟩

/-! ## The engines -/

def reflexOk : UInt16 := 0
def reflexVitalBreach : UInt16 := 1
def reflexHealthCritical : UInt16 := 2
def reflexHealthLow : UInt16 := 3

/-- `reflex_engine_run`. -/
def reflexEngineRun (r : Registry) (_mode : HomeostasisMode) (aggHealth : UInt8) : PlaneStatus :=
  if organStateVitalChainAlive r = false then ⟨true, .throttle, reflexVitalBreach, 100⟩
  else if aggHealth < healthSafeBelow then ⟨true, .throttle, reflexHealthCritical, 90⟩
  else if aggHealth < healthDegradedBelow then ⟨true, .isolate, reflexHealthLow, 60⟩
  else ⟨true, .hold, reflexOk, 0⟩

def stratIdle : UInt16 := 0
def stratOptimize : UInt16 := 1
def stratRecover : UInt16 := 2
def stratDefer : UInt16 := 3

/-- `strategic_brain_run`. -/
def strategicBrainRun (mode : HomeostasisMode) (aggHealth : UInt8) : PlaneStatus :=
  match mode with
  | .normal =>
    if aggHealth ≥ healthNormalAbove then ⟨true, .optimize, stratOptimize, 10⟩
    else ⟨true, .hold, stratIdle, 10⟩
  | .recovery => ⟨true, .recover, stratRecover, 30⟩
  | .degraded | .safe => ⟨true, .hold, stratDefer, 50⟩

def autonIdle : UInt16 := 0
def autonSelfheal : UInt16 := 1
def autonLocalThrot : UInt16 := 2

/-- The body of the loop of `organ_autonomy_run`, which reads through `organ_state_get`. -/
def autonomyStep (r : Registry) (worst : UInt8) (i : Organ) : UInt8 :=
  if i ∈ vitalChain then worst
  else match organStateGet r i with
    | some s => if s.present then (if s.health < worst then s.health else worst) else worst
    | none => worst

/-- `organ_autonomy_run`. -/
def organAutonomyRun (r : Registry) (_mode : HomeostasisMode) (_aggHealth : UInt8) : PlaneStatus :=
  let worst := (List.finRange organCount).foldl (autonomyStep r) 100
  if worst < healthSafeBelow then ⟨true, .recover, autonSelfheal, 40⟩
  else if worst < healthDegradedBelow then ⟨true, .throttle, autonLocalThrot, 25⟩
  else ⟨true, .hold, autonIdle, 0⟩

/-! ## Telemetry -/

/-- `oo_telemetry_pkt_t`. -/
structure TelemetryPkt where
  magic : UInt32
  organId : UInt16
  mode : UInt8
  health : UInt8
  cpuNeural : UInt32
  memUsedMb : UInt32
  breathRate : UInt32
  tick : UInt32
  deriving DecidableEq, Repr

/-- `oo_telemetry_fill`; `breathRate` is what `network_get_stats` reports. -/
def ooTelemetryFill (s : ControlState) (ticks breathRate : UInt32) : TelemetryPkt where
  magic := 0x4F4F5431
  organId := 0xFFFF
  mode := s.mode.code.toUInt8
  health := organStateAggregateHealth s.registry
  cpuNeural :=
    match organStateGet s.registry ooOrganCortex with
    | some cortex =>
      if cortex.present then (if cortex.health ≤ 100 then 100 - cortex.health.toUInt32 else 0) else 0
    | none => 0
  memUsedMb := 0
  breathRate := breathRate
  tick := ticks

/-- `put_le32`. -/
def putLe32 (v : UInt32) : List UInt8 :=
  [v.toUInt8, (v >>> 8).toUInt8, (v >>> 16).toUInt8, (v >>> 24).toUInt8]

/-- `put_le16`. -/
def putLe16 (v : UInt16) : List UInt8 := [v.toUInt8, (v >>> 8).toUInt8]

/-- `oo_telemetry_serialize` into a buffer of `outLen` bytes: the bytes written. -/
def ooTelemetrySerialize (pkt : TelemetryPkt) (outLen : Nat) : List UInt8 :=
  if outLen < 24 then []
  else putLe32 pkt.magic ++ putLe16 pkt.organId ++ [pkt.mode, pkt.health] ++
    putLe32 pkt.cpuNeural ++ putLe32 pkt.memUsedMb ++ putLe32 pkt.breathRate ++ putLe32 pkt.tick

/-! ## The tick -/

/-- `decision_rank`: the lower number dominates. -/
def decisionRank : Decision → Nat
  | .throttle => 0
  | .isolate => 1
  | .recover => 2
  | .hold => 3
  | .optimize => 4
  | .none => 5

/-- The static variables of `control_tick.c`, over those of the registry and the mode machine. -/
structure PlanesState where
  control : ControlState
  reflex : PlaneStatus
  strategic : PlaneStatus
  autonomy : PlaneStatus
  ticks : UInt32

/-- Step 5 of `control_tick`. -/
def resolve (reflex strat auton : Decision) : Decision :=
  let resolved := reflex
  let resolved := if decisionRank auton < decisionRank resolved then auton else resolved
  if decisionRank strat < decisionRank resolved then strat else resolved

/-- What a tick hands out: the resolved decision and the frame given to `network_exhale`. -/
structure TickResult where
  state : PlanesState
  decision : Decision
  frame : List UInt8

/-- `control_tick`. -/
def controlTick (p : PlanesState) (breathRate : UInt32) : TickResult :=
  let ticks := p.ticks + 1
  let control := homeostasisModeEvaluate p.control
  let mode := control.mode
  let health := organStateAggregateHealth control.registry
  let reflex := reflexEngineRun control.registry mode health
  let strat := strategicBrainRun mode health
  let auton := organAutonomyRun control.registry mode health
  { state := ⟨control, reflex, strat, auton, ticks⟩
    decision := resolve reflex.lastDecision strat.lastDecision auton.lastDecision
    frame := ooTelemetrySerialize (ooTelemetryFill control ticks breathRate) 24 }

/-- The resolved rank is the least of the three. -/
theorem rank_resolve (reflex strat auton : Decision) :
    decisionRank (resolve reflex strat auton) =
      min (decisionRank reflex) (min (decisionRank strat) (decisionRank auton)) := by
  rw [resolve]
  grind

/-! ## The ladder of a tick -/

section Ladder

variable (p : PlanesState) (breathRate : UInt32)

theorem aggregateHealth_init (r : Registry) :
    organStateAggregateHealth (organStateInit r) = organStateAggregateHealth r := by
  rw [organStateAggregateHealth, organStateInit_idem]
  rfl

theorem worstNonvitalHealth_init (r : Registry) :
    organStateWorstNonvitalHealth (organStateInit r) = organStateWorstNonvitalHealth r := by
  rw [organStateWorstNonvitalHealth, organStateInit_idem]
  rfl

theorem vitalChainAlive_init (r : Registry) :
    organStateVitalChainAlive (organStateInit r) = organStateVitalChainAlive r := by
  rw [organStateVitalChainAlive, organStateInit_idem]
  rfl

/-- The autonomy engine finds the worst health that the mode machine sees. -/
theorem autonomy_worst (r : Registry) :
    (List.finRange organCount).foldl (autonomyStep r) 100 = organStateWorstNonvitalHealth r := by
  have hstep : autonomyStep r = worstStep (organStateInit r) := by
    funext w i
    have hi : 0 ≤ ((i : Nat) : Int) ∧ ((i : Nat) : Int).toNat < organCount :=
      ⟨Int.natCast_nonneg _, by simp⟩
    unfold autonomyStep worstStep organStateGet
    rw [dif_pos hi, organStateInit_snapshots]
    grind
  rw [hstep, organStateWorstNonvitalHealth]

/-- The ranks of the three engines. -/
theorem rank_tick :
    decisionRank (controlTick p breathRate).decision =
      min (if organStateVitalChainAlive p.control.registry = false ∨
            organStateAggregateHealth p.control.registry < healthSafeBelow then 0
          else if organStateAggregateHealth p.control.registry < healthDegradedBelow then 1 else 3)
        (min (decisionRank (strategicBrainRun (nextMode p.control.mode p.control.registry.vitals)
            (organStateAggregateHealth p.control.registry)).lastDecision)
          (if organStateWorstNonvitalHealth p.control.registry < healthSafeBelow then 2
          else if organStateWorstNonvitalHealth p.control.registry < healthDegradedBelow then 0
          else 3)) := by
  rw [controlTick]
  dsimp only
  rw [rank_resolve, evaluate_mode, evaluate_registry, aggregateHealth_init]
  congr 1
  · rw [reflexEngineRun, vitalChainAlive_init]
    grind [decisionRank]
  · congr 1
    rw [organAutonomyRun, autonomy_worst, worstNonvitalHealth_init]
    grind [decisionRank]

/-- The strategic engine asks for recovery in RECOVERY only, and never for more. -/
theorem rank_strategic (mode : HomeostasisMode) (health : UInt8) :
    2 ≤ decisionRank (strategicBrainRun mode health).lastDecision ∧
      (decisionRank (strategicBrainRun mode health).lastDecision ≤ 2 ↔ mode = .recovery) := by
  cases mode with
  | normal =>
    rw [strategicBrainRun]
    grind [decisionRank]
  | degraded => simp [strategicBrainRun, decisionRank]
  | safe => simp [strategicBrainRun, decisionRank]
  | recovery => simp [strategicBrainRun, decisionRank]

theorem rank_eq_zero_iff :
    decisionRank (controlTick p breathRate).decision = 0 ↔
      organStateVitalChainAlive p.control.registry = false ∨
      organStateAggregateHealth p.control.registry < healthSafeBelow ∨
      (healthSafeBelow ≤ organStateWorstNonvitalHealth p.control.registry ∧
        organStateWorstNonvitalHealth p.control.registry < healthDegradedBelow) := by
  have hstrat := rank_strategic (nextMode p.control.mode p.control.registry.vitals)
    (organStateAggregateHealth p.control.registry)
  rw [rank_tick]
  grind

theorem rank_le_one_iff :
    decisionRank (controlTick p breathRate).decision ≤ 1 ↔
      decisionRank (controlTick p breathRate).decision = 0 ∨
      organStateAggregateHealth p.control.registry < healthDegradedBelow := by
  have hstrat := rank_strategic (nextMode p.control.mode p.control.registry.vitals)
    (organStateAggregateHealth p.control.registry)
  rw [rank_tick]
  grind

theorem rank_le_two_iff :
    decisionRank (controlTick p breathRate).decision ≤ 2 ↔
      decisionRank (controlTick p breathRate).decision ≤ 1 ∨
      organStateWorstNonvitalHealth p.control.registry < healthSafeBelow ∨
      nextMode p.control.mode p.control.registry.vitals = .recovery := by
  have hstrat := rank_strategic (nextMode p.control.mode p.control.registry.vitals)
    (organStateAggregateHealth p.control.registry)
  rw [rank_tick]
  grind

/-- The reflex engine never asks for less than holding. -/
theorem rank_le_three : decisionRank (controlTick p breathRate).decision ≤ 3 := by
  rw [rank_tick]
  grind

end Ladder

/-! ## Two registries -/

/-- The worst organ of the first registry is below the SAFE threshold, which makes its autonomy engine
heal, that of the second is not, which makes it throttle, and the reflex engine of the first does not
throttle. -/
def SelfHeals (r₁ r₂ : Registry) : Prop :=
  organStateVitalChainAlive r₁ = true ∧ healthSafeBelow ≤ organStateAggregateHealth r₁ ∧
    organStateWorstNonvitalHealth r₁ < healthSafeBelow ∧
    healthSafeBelow ≤ organStateWorstNonvitalHealth r₂ ∧
    organStateWorstNonvitalHealth r₂ < healthDegradedBelow

/-- The mode is SAFE, and only the second registry reaches the recovery threshold; the first is above
every threshold of the reflex and autonomy engines. -/
def HoldsInSafe (mode : HomeostasisMode) (r₁ r₂ : Registry) : Prop :=
  mode = .safe ∧ organStateVitalChainAlive r₁ = true ∧
    healthDegradedBelow ≤ r₁.vitals.health ∧ r₁.vitals.health < healthRecoverAbove ∧
    healthRecoverAbove ≤ r₂.vitals.health

instance (r₁ r₂ : Registry) : Decidable (SelfHeals r₁ r₂) := inferInstanceAs (Decidable (_ ∧ _))

instance (mode : HomeostasisMode) (r₁ r₂ : Registry) : Decidable (HoldsInSafe mode r₁ r₂) :=
  inferInstanceAs (Decidable (_ ∧ _))

section Compare

variable {p₁ p₂ : PlanesState} (b₁ b₂ : UInt32)

theorem vitals_health_lt_iff {r : Registry} {h : UInt8} :
    r.vitals.health < h ↔
      organStateAggregateHealth r < h ∨ organStateWorstNonvitalHealth r < h := by
  rw [Registry.vitals]
  grind

/-- In the first position the second tick throttles and the first does not. -/
theorem SelfHeals.rank (h : SelfHeals p₁.control.registry p₂.control.registry) :
    decisionRank (controlTick p₂ b₂).decision < decisionRank (controlTick p₁ b₁).decision := by
  obtain ⟨halive, hagg, hworst, hlow, hhigh⟩ := h
  -- the second autonomy engine throttles, and nothing makes the first tick throttle
  have h₂ := (rank_eq_zero_iff p₂ b₂).2 (.inr (.inr ⟨hlow, hhigh⟩))
  have h₁ : decisionRank (controlTick p₁ b₁).decision ≠ 0 := by
    rw [Ne, rank_eq_zero_iff]
    grind
  omega

/-- In the second position the second tick recovers and the first holds. -/
theorem HoldsInSafe.rank (hs : p₁.control.registry.Sicker p₂.control.registry)
    (hm : p₁.control.mode = p₂.control.mode)
    (h : HoldsInSafe p₁.control.mode p₁.control.registry p₂.control.registry) :
    decisionRank (controlTick p₂ b₂).decision < decisionRank (controlTick p₁ b₁).decision := by
  obtain ⟨hsafe, halive, hlow, hwait, hready⟩ := h
  have halive₂ := vitalChainAlive_mono hs halive
  have hnext₂ : nextMode p₂.control.mode p₂.control.registry.vitals = .recovery :=
    nextMode_eq_recovery_iff.2 ⟨halive₂, .inl ⟨hm.symm.trans hsafe, hready⟩⟩
  have hnext₁ : nextMode p₁.control.mode p₁.control.registry.vitals ≠ .recovery := by
    rw [Ne, nextMode_eq_recovery_iff, hsafe]
    grind
  have h₂ := (rank_le_two_iff p₂ b₂).2 (.inr (.inr hnext₂))
  have h₁ : ¬ decisionRank (controlTick p₁ b₁).decision ≤ 2 := by
    rw [rank_le_two_iff, rank_le_one_iff, rank_eq_zero_iff]
    -- neither figure of the first registry is below the DEGRADED threshold
    have hagg := mt vitals_health_lt_iff.2 (UInt8.not_lt.2 hlow)
    grind
  omega

/-- Everywhere else, whatever rank the second tick resolves to is reached by the first. -/
theorem tick_protective_of (h : p₁.control.registry.Sicker p₂.control.registry)
    (hm : p₁.control.mode = p₂.control.mode)
    (hself : ¬ SelfHeals p₁.control.registry p₂.control.registry)
    (hhold : ¬ HoldsInSafe p₁.control.mode p₁.control.registry p₂.control.registry) :
    decisionRank (controlTick p₁ b₁).decision ≤ decisionRank (controlTick p₂ b₂).decision := by
  have halive := vitalChainAlive_mono h
  have hagg := aggregateHealth_mono h
  have hworst := worstNonvitalHealth_mono h
  have hthree := rank_le_three p₂ b₂
  have hcases : decisionRank (controlTick p₂ b₂).decision = 0 ∨
      decisionRank (controlTick p₂ b₂).decision = 1 ∨
      decisionRank (controlTick p₂ b₂).decision = 2 ∨
      decisionRank (controlTick p₂ b₂).decision = 3 := by omega
  rcases hcases with hr | hr | hr | hr <;> rw [hr]
  · -- throttling: the chain, the mean, or the worst organ
    apply Nat.le_of_eq
    rw [rank_eq_zero_iff] at hr ⊢
    rw [SelfHeals] at hself
    grind
  · -- isolating: the mean is below the DEGRADED threshold in both
    have hone := (rank_le_one_iff p₂ b₂).1 (Nat.le_of_eq hr)
    rw [rank_le_one_iff]
    exact .inr (by grind)
  · have htwo := (rank_le_two_iff p₂ b₂).1 (Nat.le_of_eq hr)
    have hone : ¬ decisionRank (controlTick p₂ b₂).decision ≤ 1 := by omega
    have hzero : ¬ decisionRank (controlTick p₂ b₂).decision = 0 := by omega
    rw [rank_le_one_iff] at hone
    rw [rank_eq_zero_iff] at hzero
    rw [rank_le_two_iff, rank_le_one_iff, rank_eq_zero_iff]
    rcases htwo with htwo | htwo | htwo
    · omega
    · exact .inr (.inl (by grind))
    · -- the second machine is in RECOVERY: so is the first, unless one of its engines asks for more
      obtain ⟨-, hmode⟩ := nextMode_eq_recovery_iff.1 htwo
      by_cases hlow : p₁.control.registry.vitals.health < healthDegradedBelow
      · rw [vitals_health_lt_iff] at hlow
        grind
      · rw [nextMode_eq_recovery_iff, hm]
        have hle := h.vitals.health
        have halive₁ : p₁.control.registry.vitals.chainAlive =
            organStateVitalChainAlive p₁.control.registry := rfl
        rw [HoldsInSafe] at hhold
        grind
  · exact rank_le_three p₁ b₁

/-- For two registries with the same organs, each at most as healthy in the first, and any current mode,
the tick on the first is at least as protective if and only if neither of the two positions is met. -/
theorem tick_protective_iff (h : p₁.control.registry.Sicker p₂.control.registry)
    (hm : p₁.control.mode = p₂.control.mode) :
    decisionRank (controlTick p₁ b₁).decision ≤ decisionRank (controlTick p₂ b₂).decision ↔
      ¬ SelfHeals p₁.control.registry p₂.control.registry ∧
        ¬ HoldsInSafe p₁.control.mode p₁.control.registry p₂.control.registry := by
  constructor
  · intro hle
    exact ⟨fun hself => absurd hle (Nat.not_le.2 (hself.rank b₁ b₂)),
      fun hhold => absurd hle (Nat.not_le.2 (hhold.rank b₁ b₂ h hm))⟩
  · rintro ⟨hself, hhold⟩
    exact tick_protective_of b₁ b₂ h hm hself hhold

end Compare

/-- The calls that publish a swarm at the given health and three organs at 100. -/
def publishSwarm (health : UInt8) : List ControlOp :=
  [.publish 11 health 0, .publish 1 100 0, .publish 3 100 0, .publish 16 100 0]

theorem publishSwarm_sicker {h₁ h₂ : UInt8} (h : h₁ ≤ h₂) :
    List.Forall₂ SickerOp (publishSwarm h₁) (publishSwarm h₂) :=
  .cons (.publish 11 0 0 h) (.cons (.publish 1 0 0 (UInt8.le_refl _))
    (.cons (.publish 3 0 0 (UInt8.le_refl _)) (.cons (.publish 16 0 0 (UInt8.le_refl _)) .nil)))

/-- The state after these calls. -/
def swarmAt (health : UInt8) : PlanesState where
  control := (publishSwarm health).foldl ControlOp.run (.start Bus.boot)
  reflex := .zero
  strategic := .zero
  autonomy := .zero
  ticks := 0

theorem swarmAt_sicker {h₁ h₂ : UInt8} (h : h₁ ≤ h₂) :
    (swarmAt h₁).control.registry.Sicker (swarmAt h₂).control.registry :=
  (Lockstep.runs (publishSwarm_sicker h) (start_lockstep Bus.boot Bus.boot)).registry

theorem swarmAt_mode (health : UInt8) : (swarmAt health).control.mode = .normal := rfl

/-- A swarm at 50 throttles, a swarm at 80 holds. -/
theorem tick_protective_swarm :
    decisionRank (controlTick (swarmAt 50) 0).decision ≤
      decisionRank (controlTick (swarmAt 80) 0).decision :=
  (tick_protective_iff 0 0 (swarmAt_sicker (by decide))
    ((swarmAt_mode 50).trans (swarmAt_mode 80).symm)).2 ⟨by decide +kernel, by decide +kernel⟩

/-- A swarm at 30 is healed, a swarm at 50 throttles. -/
theorem exists_sicker_less_protective :
    ∃ p₁ p₂ : PlanesState, p₁.control.registry.Sicker p₂.control.registry ∧
      p₁.control.mode = p₂.control.mode ∧
      ¬ decisionRank (controlTick p₁ 0).decision ≤ decisionRank (controlTick p₂ 0).decision :=
  ⟨swarmAt 30, swarmAt 50, swarmAt_sicker (by decide),
    (swarmAt_mode 30).trans (swarmAt_mode 50).symm, by decide +kernel⟩

end OperatingOrganism.ControlPlanes

import OperatingOrganism.ControlPlanes.Telemetry

/-!
# Which decision wins a tick

`control_tick` returns the decision of least rank among the three that the engines record. So survival wins
(`survival_arbitration`): a broken vital chain gives THROTTLE and SAFE, and the frame that is sent tells the
mode, the health and the count of the tick.

The reflex and the autonomy engine hold when nothing is wrong, and holding ranks before optimizing. So the
strategic engine's OPTIMIZE is recorded but never resolved, even where every organ is well
(`never_optimizes`).
-/

set_option autoImplicit false

namespace OperatingOrganism.ControlPlanes

open OperatingOrganism.UnitedBus

/-- The decisions in the statuses of the three planes. -/
def PlanesState.recorded (p : PlanesState) : List Decision :=
  [p.reflex.lastDecision, p.strategic.lastDecision, p.autonomy.lastDecision]

/-- What a tick from `p` gives out, when survival arbitrates. -/
structure Arbitrates (p : PlanesState) (r : TickResult) : Prop where
  recorded : r.decision ∈ r.state.recorded
  least : ∀ d ∈ r.state.recorded, decisionRank r.decision ≤ decisionRank d
  broken : organStateVitalChainAlive p.control.registry = false →
    r.decision = .throttle ∧ r.state.control.mode = .safe
  guarded : r.state.control.mode ≠ .normal → r.decision ≠ .optimize
  ticks : r.state.ticks = p.ticks + 1
  frame : ∃ pkt, Carries r.frame pkt ∧ pkt.mode = r.state.control.mode.code.toUInt8 ∧
    pkt.health = organStateAggregateHealth r.state.control.registry ∧ pkt.tick = r.state.ticks

section Resolve

variable (reflex strat auton : Decision)

/-- The resolved decision is one of the three. -/
theorem resolve_mem : resolve reflex strat auton ∈ [reflex, strat, auton] := by
  rw [resolve]
  by_cases hauton : decisionRank auton < decisionRank reflex
  · rw [if_pos hauton]
    split
    · simp
    · simp
  · rw [if_neg hauton]
    split
    · simp
    · simp

/-- Its rank is at most that of each. -/
theorem rank_resolve_le {d : Decision} (hd : d ∈ [reflex, strat, auton]) :
    decisionRank (resolve reflex strat auton) ≤ decisionRank d := by
  rw [rank_resolve]
  simp only [List.mem_cons, List.not_mem_nil, or_false] at hd
  rcases hd with rfl | rfl | rfl
  · apply Nat.min_le_left
  · apply Nat.le_trans (Nat.min_le_right _ _)
    apply Nat.min_le_left
  · apply Nat.le_trans (Nat.min_le_right _ _)
    apply Nat.min_le_right

end Resolve

/-- Only THROTTLE has the first rank. -/
theorem eq_throttle_of_rank {d : Decision} (h : decisionRank d = 0) : d = .throttle := by
  cases d with
  | throttle => rfl
  | none => cases h
  | hold => cases h
  | isolate => cases h
  | recover => cases h
  | optimize => cases h

section Tick

variable (p : PlanesState) (breathRate : UInt32)

@[simp] theorem controlTick_control :
    (controlTick p breathRate).state.control = homeostasisModeEvaluate p.control := rfl

/-- The reflex engine outranks OPTIMIZE in every tick. -/
theorem decision_ne_optimize : (controlTick p breathRate).decision ≠ .optimize := by
  intro hopt
  have hrank := rank_le_three p breathRate
  rw [hopt] at hrank
  exact absurd hrank (by decide)

/-- For every registry, mode and count of ticks, survival arbitrates the tick. -/
theorem survival_arbitration : Arbitrates p (controlTick p breathRate) where
  recorded := resolve_mem _ _ _
  least := by
    intro d hd
    exact rank_resolve_le _ _ _ hd
  broken := by
    intro hbroken
    constructor
    · apply eq_throttle_of_rank
      exact (rank_eq_zero_iff p breathRate).2 (.inl hbroken)
    · rw [controlTick_control, evaluate_mode]
      have hvitals : p.control.registry.vitals.chainAlive = false := hbroken
      exact if_pos hvitals
  guarded := by
    intro _
    exact decision_ne_optimize p breathRate
  ticks := rfl
  frame := ⟨_, carries_serialize _, rfl, rfl, rfl⟩

end Tick

/-! ## When every organ is well -/

/-- The vital chain is alive, and every present organ has the health from which on the mode is NORMAL. -/
structure Registry.Green (r : Registry) : Prop where
  alive : organStateVitalChainAlive r = true
  healthy : ∀ i, (r.snapshots i).present = true → healthNormalAbove ≤ (r.snapshots i).health

section Green

variable {r : Registry}

/-- The sum grows with each present organ by at least the threshold, and by less than 256. -/
theorem sums_green (h : r.Green) : 90 * r.sums.2 ≤ r.sums.1 ∧ r.sums.1 ≤ 255 * r.sums.2 := by
  rw [Registry.sums]
  refine List.foldlRecOn (motive := fun acc : Nat × Nat => 90 * acc.2 ≤ acc.1 ∧ acc.1 ≤ 255 * acc.2) _ _ ?_ ?_
  · exact ⟨Nat.le_refl _, Nat.le_refl _⟩
  · intro acc hacc i _
    have hlt := UInt8.toNat_lt (r.snapshots i).health
    rw [aggregateStep]
    split
    · next hpresent =>
      have hhealth : 90 ≤ (r.snapshots i).health.toNat := UInt8.le_iff_toNat_le.1 (h.healthy i hpresent)
      dsimp only
      omega
    · exact hacc

/-- The mean health is at the threshold. -/
theorem aggregateHealth_green (h : r.Green) : healthNormalAbove ≤ organStateAggregateHealth r := by
  have hinit : (organStateInit r).Green := by
    constructor
    · rw [vitalChainAlive_init]
      exact h.alive
    · rw [organStateInit_snapshots]
      exact h.healthy
  obtain ⟨hlow, hhigh⟩ := sums_green hinit
  rw [organStateAggregateHealth]
  split
  · decide
  · next hsome =>
    have hpos := Nat.pos_of_ne_zero hsome
    have hmean : (organStateInit r).sums.1 / (organStateInit r).sums.2 ≤ 255 :=
      Nat.div_le_of_le_mul (by rwa [Nat.mul_comm])
    rw [UInt8.le_iff_toNat_le, UInt8.toNat_ofNat', Nat.mod_eq_of_lt (Nat.lt_succ_of_le hmean)]
    exact (Nat.le_div_iff_mul_le hpos).2 hlow

/-- So is the worst health outside the vital chain. -/
theorem worstNonvitalHealth_green (h : r.Green) : healthNormalAbove ≤ organStateWorstNonvitalHealth r := by
  rw [organStateWorstNonvitalHealth]
  refine List.foldlRecOn (motive := fun worst : UInt8 => healthNormalAbove ≤ worst) _ _ (by decide) ?_
  intro worst hworst i _
  rw [worstStep, organStateInit_snapshots]
  split
  · exact hworst
  · split
    · next hlow => exact h.healthy i hlow.1
    · exact hworst

/-- With every organ well, NORMAL stays NORMAL. -/
theorem nextMode_green (h : r.Green) : nextMode .normal r.vitals = .normal := by
  have halive : ¬ r.vitals.chainAlive = false := by
    rw [Bool.not_eq_false]
    exact h.alive
  have hhealth : ∀ t : UInt8, t ≤ healthNormalAbove → ¬ r.vitals.health < t := by
    intro t ht hlow
    rw [vitals_health_lt_iff] at hlow
    rcases hlow with hlow | hlow
    · exact UInt8.not_lt.2 (UInt8.le_trans ht (aggregateHealth_green h)) hlow
    · exact UInt8.not_lt.2 (UInt8.le_trans ht (worstNonvitalHealth_green h)) hlow
  have hsafe := hhealth healthSafeBelow (by decide)
  have hdegraded := hhealth healthDegradedBelow (by decide)
  rw [nextMode, if_neg halive, if_neg hsafe, if_neg hdegraded]

end Green

section Never

variable {p : PlanesState}

/-- Then the strategic engine alone has a proposal. -/
theorem recorded_green (hgreen : p.control.registry.Green)
    (hmode : (homeostasisModeEvaluate p.control).mode = .normal) (breathRate : UInt32) :
    (controlTick p breathRate).state.recorded = [.hold, .optimize, .hold] := by
  have hagg : ∀ t : UInt8, t ≤ healthNormalAbove →
      ¬ organStateAggregateHealth (organStateInit p.control.registry) < t := by
    intro t ht
    rw [aggregateHealth_init]
    exact UInt8.not_lt.2 (UInt8.le_trans ht (aggregateHealth_green hgreen))
  have hworst : ∀ t : UInt8, t ≤ healthNormalAbove →
      ¬ organStateWorstNonvitalHealth (organStateInit p.control.registry) < t := by
    intro t ht
    rw [worstNonvitalHealth_init]
    exact UInt8.not_lt.2 (UInt8.le_trans ht (worstNonvitalHealth_green hgreen))
  have halive : ¬ organStateVitalChainAlive (organStateInit p.control.registry) = false := by
    rw [vitalChainAlive_init, Bool.not_eq_false]
    exact hgreen.alive
  have hreflex : (controlTick p breathRate).state.reflex = ⟨true, .hold, reflexOk, 0⟩ := by
    rw [controlTick]
    dsimp only
    rw [evaluate_registry, reflexEngineRun, if_neg halive, if_neg (hagg healthSafeBelow (by decide)),
      if_neg (hagg healthDegradedBelow (by decide))]
  have hstrategic : (controlTick p breathRate).state.strategic = ⟨true, .optimize, stratOptimize, 10⟩ := by
    rw [controlTick]
    dsimp only
    rw [hmode, evaluate_registry]
    exact if_pos (UInt8.not_lt.1 (hagg healthNormalAbove (UInt8.le_refl _)))
  have hautonomy : (controlTick p breathRate).state.autonomy = ⟨true, .hold, autonIdle, 0⟩ := by
    rw [controlTick]
    dsimp only
    rw [evaluate_registry, organAutonomyRun, autonomy_worst, if_neg (hworst healthSafeBelow (by decide)),
      if_neg (hworst healthDegradedBelow (by decide))]
  rw [PlanesState.recorded, hreflex, hstrategic, hautonomy]

/-- With the vital chain alive, every present organ well and the mode NORMAL, before the tick or after it, the
strategic engine proposes OPTIMIZE, and the tick resolves to HOLD and not to OPTIMIZE. -/
theorem never_optimizes (hgreen : p.control.registry.Green) (breathRate : UInt32)
    (hmode : p.control.mode = .normal ∨ (controlTick p breathRate).state.control.mode = .normal) :
    (controlTick p breathRate).state.strategic.lastDecision = .optimize ∧
      (controlTick p breathRate).decision ≠ .optimize ∧ (controlTick p breathRate).decision = .hold := by
  have hnext : (homeostasisModeEvaluate p.control).mode = .normal := by
    rcases hmode with hmode | hmode
    · rw [evaluate_mode, hmode]
      exact nextMode_green hgreen
    · exact hmode
  have hrecorded := recorded_green hgreen hnext breathRate
  have hmem : (controlTick p breathRate).decision ∈ (controlTick p breathRate).state.recorded :=
    resolve_mem _ _ _
  rw [hrecorded] at hmem
  have hne := decision_ne_optimize p breathRate
  refine ⟨?_, hne, ?_⟩
  · exact (List.cons.inj (List.cons.inj hrecorded).2).1
  · simpa [hne] using hmem

/-- Every organ publishes full health. -/
def fullHealth : List ControlOp := (List.range 17).map fun i => .publish i 100 0

/-- The state after these calls. -/
def wellState : PlanesState where
  control := fullHealth.foldl ControlOp.run (.start Bus.boot)
  reflex := .zero
  strategic := .zero
  autonomy := .zero
  ticks := 0

theorem wellState_green : wellState.control.registry.Green :=
  ⟨by decide +kernel, by decide +kernel⟩

theorem wellState_mode : wellState.control.mode = .normal := by decide +kernel

/-- The strategic engine's proposal is passed over. -/
theorem wellState_holds : (controlTick wellState 0).state.strategic.lastDecision = .optimize ∧
    (controlTick wellState 0).decision ≠ .optimize ∧ (controlTick wellState 0).decision = .hold :=
  never_optimizes wellState_green 0 (.inl wellState_mode)

/-- After every organ has published full health, the tick in NORMAL does not resolve to OPTIMIZE. -/
theorem exists_green_not_optimized :
    ∃ p : PlanesState, p.control = fullHealth.foldl ControlOp.run (.start Bus.boot) ∧
      p.control.registry.Green ∧ p.control.mode = .normal ∧ (controlTick p 0).decision ≠ .optimize :=
  ⟨wellState, rfl, wellState_green, wellState_mode, decision_ne_optimize wellState 0⟩

end Never

end OperatingOrganism.ControlPlanes

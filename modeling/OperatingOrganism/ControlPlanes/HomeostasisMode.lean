import OperatingOrganism.ControlPlanes.OrganState

/-!
# The homeostasis mode machine

`homeostasis_mode_evaluate` moves through four modes on two figures of the registry: whether the vital
chain is alive and the effective health. `nextMode` is the transition function, `modeTrace` the list of
evaluations of a run of publishes and evaluations.

Two properties of whole runs. A run whose organs are sicker at every step is at least as protective after
every step (`mode_protective_of_sicker`); the relation of the two machines is the order
NORMAL < DEGRADED < RECOVERY < SAFE. And SAFE is left through RECOVERY only, each edge with its own
threshold (`safe_exit_discipline`).
-/

set_option autoImplicit false

namespace OperatingOrganism.ControlPlanes

open OperatingOrganism.Execution OperatingOrganism.UnitedBus

/-- `oo_homeostasis_mode_t`. -/
inductive HomeostasisMode where
  | normal | degraded | safe | recovery
  deriving DecidableEq, Repr

/-- The values of the enumeration. -/
def HomeostasisMode.code : HomeostasisMode → UInt32
  | normal => 0
  | degraded => 1
  | safe => 2
  | recovery => 3

/-! ## The thresholds (`OO_HEALTH_*`) -/

abbrev healthDegradedBelow : UInt8 := 75
abbrev healthSafeBelow : UInt8 := 40
abbrev healthRecoverAbove : UInt8 := 85
abbrev healthNormalAbove : UInt8 := 90

/-- What an evaluation reads from the registry. -/
structure Vitals where
  chainAlive : Bool
  health : UInt8
  deriving DecidableEq, Repr

/-- The liveness of the vital chain and the effective health, `(worst < agg) ? worst : agg`. -/
def Registry.vitals (r : Registry) : Vitals where
  chainAlive := organStateVitalChainAlive r
  health :=
    let agg := organStateAggregateHealth r
    let worst := organStateWorstNonvitalHealth r
    if worst < agg then worst else agg

/-- The transition of `homeostasis_mode_evaluate`. -/
def nextMode (mode : HomeostasisMode) (v : Vitals) : HomeostasisMode :=
  if v.chainAlive = false then .safe
  else match mode with
    | .normal =>
      if v.health < healthSafeBelow then .safe
      else if v.health < healthDegradedBelow then .degraded
      else .normal
    | .degraded =>
      if v.health < healthSafeBelow then .safe
      else if v.health ≥ healthNormalAbove then .normal
      else .degraded
    -- SAFE is left through RECOVERY only, and only once healthy
    | .safe => if v.health ≥ healthRecoverAbove then .recovery else .safe
    | .recovery =>
      if v.health < healthSafeBelow then .safe
      else if v.health ≥ healthNormalAbove then .normal
      else .recovery

/-- An evaluation ends in RECOVERY from SAFE at the recovery threshold, and from RECOVERY between the
SAFE and the normal threshold. -/
theorem nextMode_eq_recovery_iff {mode : HomeostasisMode} {v : Vitals} :
    nextMode mode v = .recovery ↔
      v.chainAlive = true ∧
        ((mode = .safe ∧ healthRecoverAbove ≤ v.health) ∨
          (mode = .recovery ∧ healthSafeBelow ≤ v.health ∧ v.health < healthNormalAbove)) := by
  simp only [nextMode]
  cases mode <;> grind

/-- The static variables of the registry and of the mode machine, and the bus they broadcast on. -/
structure ControlState where
  registry : Registry
  mode : HomeostasisMode
  bus : Bus

/-- After `organ_state_init` and `homeostasis_mode_init`. -/
def ControlState.start (bus : Bus) : ControlState := ⟨organStateInit Registry.boot, .normal, bus⟩

/-- `homeostasis_mode_evaluate`. It returns the mode of the new state. -/
def homeostasisModeEvaluate (s : ControlState) : ControlState :=
  let next := nextMode s.mode s.registry.vitals
  if next ≠ s.mode then
    { registry := organStateInit s.registry
      mode := next
      bus := (unitedBusBroadcastYellow s.bus (UInt8.ofNat ooOrganVital)
        (0x4D000000 ||| next.code)).1 }
  else { s with registry := organStateInit s.registry }

@[simp] theorem evaluate_mode (s : ControlState) :
    (homeostasisModeEvaluate s).mode = nextMode s.mode s.registry.vitals := by
  unfold homeostasisModeEvaluate
  dsimp only
  split
  · rfl
  · next h => exact (not_not.1 h).symm

@[simp] theorem evaluate_registry (s : ControlState) :
    (homeostasisModeEvaluate s).registry = organStateInit s.registry := by
  unfold homeostasisModeEvaluate
  dsimp only
  split <;> rfl

/-- A call of the two control interfaces. -/
inductive ControlOp where
  | publish (organ : Int) (health mode : UInt8)
  | evaluate
  deriving DecidableEq, Repr

/-- The state after a call. -/
def ControlOp.run (s : ControlState) : ControlOp → ControlState
  | .publish organ health mode =>
    { s with
      registry := (organStatePublish s.registry s.bus organ health mode).1
      bus := (organStatePublish s.registry s.bus organ health mode).2 }
  | .evaluate => homeostasisModeEvaluate s

/-! ## Two runs in lockstep -/

/-- How protective a mode is. -/
def HomeostasisMode.protection : HomeostasisMode → Nat
  | normal => 0
  | degraded => 1
  | recovery => 2
  | safe => 3

/-- The figures of a sicker registry. -/
structure Vitals.Sicker (v₁ v₂ : Vitals) : Prop where
  chainAlive : v₁.chainAlive = true → v₂.chainAlive = true
  health : v₁.health ≤ v₂.health

theorem Registry.Sicker.vitals {r₁ r₂ : Registry} (h : r₁.Sicker r₂) :
    r₁.vitals.Sicker r₂.vitals := by
  constructor
  · exact vitalChainAlive_mono h
  · have hagg := aggregateHealth_mono h
    have hworst := worstNonvitalHealth_mono h
    simp only [Registry.vitals]
    grind

/-- One evaluation keeps the order of the modes: every threshold that the sicker machine passes
towards NORMAL is passed by the other one. -/
theorem nextMode_mono {m₁ m₂ : HomeostasisMode} {v₁ v₂ : Vitals} (hv : v₁.Sicker v₂)
    (hm : m₂.protection ≤ m₁.protection) :
    (nextMode m₂ v₂).protection ≤ (nextMode m₁ v₁).protection := by
  obtain ⟨alive₁, health₁⟩ := v₁
  obtain ⟨alive₂, health₂⟩ := v₂
  obtain ⟨halive, hhealth⟩ := hv
  cases alive₁ with
  | false =>
    -- SAFE is the most protective mode
    have htop : ∀ m : HomeostasisMode, m.protection ≤ 3 := by
      intro m
      cases m <;> decide
    exact htop _
  | true =>
    obtain rfl : alive₂ = true := halive rfl
    simp only [nextMode] at hhealth ⊢
    -- the ten ordered pairs of modes, each with the thresholds of both machines
    cases m₁ <;> cases m₂ <;> simp only [HomeostasisMode.protection] at hm <;>
      grind [HomeostasisMode.protection]

/-- The same call, with a health that is at most as large in the first run. -/
inductive SickerOp : ControlOp → ControlOp → Prop where
  | publish (organ : Int) {h₁ h₂ : UInt8} (m₁ m₂ : UInt8) (hle : h₁ ≤ h₂) :
      SickerOp (.publish organ h₁ m₁) (.publish organ h₂ m₂)
  | evaluate : SickerOp .evaluate .evaluate

/-- The relation of the two runs. -/
structure Lockstep (s₁ s₂ : ControlState) : Prop where
  registry : s₁.registry.Sicker s₂.registry
  mode : s₂.mode.protection ≤ s₁.mode.protection

/-- One call in each run keeps the relation. -/
theorem Lockstep.run {s₁ s₂ : ControlState} {a₁ a₂ : ControlOp} (h : Lockstep s₁ s₂)
    (ha : SickerOp a₁ a₂) : Lockstep (a₁.run s₁) (a₂.run s₂) := by
  cases ha with
  | publish organ m₁ m₂ hle => exact ⟨h.registry.publish _ _ organ hle m₁ m₂, h.mode⟩
  | evaluate =>
    constructor
    · simpa [ControlOp.run] using h.registry.init
    · simpa [ControlOp.run] using nextMode_mono h.registry.vitals h.mode

/-- A whole run in each keeps the relation. -/
theorem Lockstep.runs {as bs : List ControlOp} (h : List.Forall₂ SickerOp as bs)
    {s₁ s₂ : ControlState} (hl : Lockstep s₁ s₂) :
    Lockstep (as.foldl ControlOp.run s₁) (bs.foldl ControlOp.run s₂) :=
  foldl_lockstep Lockstep SickerOp (fun _ _ _ _ hl ha => hl.run ha) h hl

theorem start_lockstep (busA busB : Bus) : Lockstep (.start busA) (.start busB) :=
  ⟨.refl _, Nat.le_refl _⟩

/-- Two runs from the initial state with the same calls, in the first of which every published health
is at most as large: after every step the mode of the first run is at least as protective. -/
theorem mode_protective_of_sicker {as bs : List ControlOp} (h : List.Forall₂ SickerOp as bs)
    (busA busB : Bus) (n : Nat) :
    ((bs.take n).foldl ControlOp.run (.start busB)).mode.protection ≤
      ((as.take n).foldl ControlOp.run (.start busA)).mode.protection :=
  (Lockstep.runs (List.forall₂_take n h) (start_lockstep busA busB)).mode

/-- A swarm at 30 against a swarm at 80: SAFE against NORMAL. -/
theorem protective_of_sicker_swarm :
    (([ControlOp.publish 11 80 0, .evaluate].take 2).foldl ControlOp.run
        (.start Bus.boot)).mode.protection ≤
      (([ControlOp.publish 11 30 0, .evaluate].take 2).foldl ControlOp.run
        (.start Bus.boot)).mode.protection :=
  mode_protective_of_sicker (.cons (.publish 11 0 0 (by decide)) (.cons .evaluate .nil))
    Bus.boot Bus.boot 2

/-! ## Leaving SAFE -/

/-- The evaluations of a run: what each one read and the mode it returned. -/
def modeTrace : ControlState → List ControlOp → List (Vitals × HomeostasisMode)
  | _, [] => []
  | s, .evaluate :: ops =>
    (s.registry.vitals, (homeostasisModeEvaluate s).mode) ::
      modeTrace (ControlOp.evaluate.run s) ops
  | s, .publish organ health mode :: ops =>
    modeTrace ((ControlOp.publish organ health mode).run s) ops

/-- The mode machine. -/
def ModeStep (m : HomeostasisMode) (v : Vitals) (m' : HomeostasisMode) : Prop := m' = nextMode m v

/-- The evaluations of a run are an execution of the mode machine: publishes leave the mode alone. -/
theorem exec_modeTrace (s : ControlState) (ops : List ControlOp) :
    Exec ModeStep s.mode (modeTrace s ops) := by
  induction ops generalizing s with
  | nil => trivial
  | cons op ops ih =>
    cases op with
    | publish organ health mode => exact ih ((ControlOp.publish organ health mode).run s)
    | evaluate => exact ⟨evaluate_mode s, ih (homeostasisModeEvaluate s)⟩

/-- SAFE or RECOVERY. -/
def HomeostasisMode.guarded (m : HomeostasisMode) : Prop := m = .safe ∨ m = .recovery

section Edges

variable {m m' : HomeostasisMode} {v : Vitals}

theorem ModeStep.safe_of_broken (h : ModeStep m v m') (hv : v.chainAlive = false) : m' = .safe :=
  h.trans (if_pos hv)

/-- SAFE is left for RECOVERY only, with the chain alive and the recovery threshold reached. -/
theorem ModeStep.of_safe (h : ModeStep .safe v m') (hne : m' ≠ .safe) :
    m' = .recovery ∧ v.chainAlive = true ∧ healthRecoverAbove ≤ v.health := by
  unfold ModeStep nextMode at h
  grind

/-- RECOVERY is left for SAFE, or for NORMAL with the normal threshold reached. -/
theorem ModeStep.of_recovery (h : ModeStep .recovery v m') (hne : ¬ m'.guarded) :
    m' = .normal ∧ v.chainAlive = true ∧ healthNormalAbove ≤ v.health := by
  unfold ModeStep nextMode at h
  rw [HomeostasisMode.guarded] at hne
  grind

end Edges

/-- Between an evaluation that returned SAFE and a later one `e` that returned NORMAL or DEGRADED:
one returned RECOVERY on a live chain at the recovery threshold, and the first that returned neither
SAFE nor RECOVERY led from RECOVERY to NORMAL at the normal threshold. -/
structure LeavesSafe (mid : List (Vitals × HomeostasisMode)) (e : Vitals × HomeostasisMode) :
    Prop where
  recovered : ∃ r ∈ mid, r.2 = .recovery ∧ r.1.chainAlive = true ∧ healthRecoverAbove ≤ r.1.health
  left : ∃ stay v rest, mid ++ [e] = stay ++ (v, .normal) :: rest ∧ (∀ r ∈ stay, r.2.guarded) ∧
    final .safe stay = .recovery ∧ v.chainAlive = true ∧ healthNormalAbove ≤ v.health

/-- What one evaluation keeps to: RECOVERY becomes NORMAL at the normal threshold only, DEGRADED does
not follow SAFE or RECOVERY, and a broken chain gives SAFE. -/
structure KeepsEdges (m : HomeostasisMode) (v : Vitals) (m' : HomeostasisMode) : Prop where
  normal : m = .recovery → m' = .normal → healthNormalAbove ≤ v.health
  degraded : m.guarded → m' ≠ .degraded
  broken : v.chainAlive = false → m' = .safe

theorem ModeStep.keepsEdges {m m' : HomeostasisMode} {v : Vitals} (h : ModeStep m v m') :
    KeepsEdges m v m' := by
  refine ⟨?_, ?_, h.safe_of_broken⟩
  · rintro rfl rfl
    exact (h.of_recovery (by rintro (hm | hm) <;> cases hm)).2.2
  · rintro (rfl | rfl) rfl
    · cases (h.of_safe (by decide)).1
    · cases (h.of_recovery (by rintro (hm | hm) <;> cases hm)).1

/-- An execution of the mode machine from SAFE to an unguarded mode. -/
theorem Exec.leavesSafe {mid : List (Vitals × HomeostasisMode)} {e : Vitals × HomeostasisMode}
    (h : Exec ModeStep .safe (mid ++ [e])) (he : ¬ e.2.guarded) : LeavesSafe mid e := by
  have hend : ¬ (final HomeostasisMode.safe (mid ++ [e])).guarded := by
    rw [final_append]
    exact he
  obtain ⟨stay, v, m, rest, heq, hall, hstep, hm⟩ := h.exists_first_exit (.inl rfl) hend
  -- the last guarded mode is RECOVERY, since SAFE is left for RECOVERY only
  have hlast : final .safe stay = .recovery := by
    rcases hall.final with hsafe | hrec
    · rw [hsafe] at hstep
      have hne : m ≠ .safe := fun hsafe' => hm (.inl hsafe')
      exact absurd (.inr (hstep.of_safe hne).1) hm
    · exact hrec
  have hnormal := hstep
  rw [hlast] at hnormal
  obtain ⟨rfl, halive, hhealth⟩ := ModeStep.of_recovery hnormal hm
  refine ⟨?_, stay, v, rest, heq, hall.2, hlast, halive, hhealth⟩
  -- so SAFE was left before, inside the guarded part
  rw [heq] at h
  obtain ⟨stay₁, v₁, m₁, stay₂, rfl, hsafe, hstep₁, hm₁⟩ :=
    (h.split.1).exists_first_exit (P := fun m => m = .safe) rfl (by rw [hlast]; decide)
  rw [hsafe.final] at hstep₁
  refine ⟨(v₁, m₁), ?_, ModeStep.of_safe hstep₁ hm₁⟩
  have hmem : (v₁, m₁) ∈ mid ++ [e] := by
    rw [heq]
    simp
  rcases List.mem_append.1 hmem with hmem | hmem
  · exact hmem
  · rw [List.mem_singleton] at hmem
    subst hmem
    exact absurd (.inr (ModeStep.of_safe hstep₁ hm₁).1) he

/-- Over every run of publishes and evaluations: between an evaluation that returns SAFE and a later
one that returns NORMAL or DEGRADED the machine recovers first, and every evaluation keeps to the
edges. -/
theorem safe_exit_discipline (s : ControlState) (ops : List ControlOp) :
    (∀ pre v mid e post, modeTrace s ops = pre ++ (v, .safe) :: (mid ++ e :: post) →
      e.2 = .normal ∨ e.2 = .degraded → LeavesSafe mid e) ∧
    (∀ pre v m post, modeTrace s ops = pre ++ (v, m) :: post →
      KeepsEdges (final s.mode pre) v m) := by
  have h := exec_modeTrace s ops
  constructor
  · intro pre v mid e post heq hm
    rw [heq] at h
    have hrest := h.split.2.2
    rw [List.append_cons] at hrest
    refine Exec.leavesSafe hrest.split.1 ?_
    rintro (hsafe | hrec) <;> grind
  · intro pre v m post heq
    rw [heq] at h
    exact ModeStep.keepsEdges h.split.2.1

/-- A failed and repaired kernel organ. -/
def repairedKernel : List ControlOp :=
  [.publish 1 0 0, .evaluate, .publish 1 100 0, .evaluate, .evaluate]

theorem repairedKernel_leavesSafe :
    LeavesSafe [(⟨true, 100⟩, .recovery)] (⟨true, 100⟩, .normal) :=
  (safe_exit_discipline (.start Bus.boot) repairedKernel).1 [] ⟨false, 0⟩
    [(⟨true, 100⟩, .recovery)] (⟨true, 100⟩, .normal) [] (by decide +kernel) (.inl rfl)

/-! ## A failing vital organ -/

/-- The loop over the organs returns at most the health of each organ that it looks at. -/
theorem worstNonvitalHealth_le {r : Registry} {i : Organ} (hi : i ∉ vitalChain)
    (hp : (r.snapshots i).present = true) :
    organStateWorstNonvitalHealth r ≤ (r.snapshots i).health := by
  have hstep : ∀ (w : UInt8) (j : Organ), worstStep (organStateInit r) w j ≤ w := by
    intro w j
    rw [worstStep]
    grind
  have hmono : ∀ (l : List Organ) (w : UInt8),
      l.foldl (worstStep (organStateInit r)) w ≤ w := by
    intro l
    induction l with
    | nil =>
      intro w
      exact UInt8.le_refl w
    | cons j l ih =>
      intro w
      exact UInt8.le_trans (ih _) (hstep w j)
  rw [organStateWorstNonvitalHealth]
  obtain ⟨l₁, l₂, hl⟩ := List.append_of_mem (List.mem_finRange i)
  rw [hl, List.foldl_append, List.foldl_cons]
  -- right after its turn the accumulator is at most the health of the organ
  apply UInt8.le_trans (hmono l₂ _)
  simp only [worstStep, hi, organStateInit_snapshots, hp, true_and, if_false]
  grind

theorem vitalChain_broken_iff {r : Registry} :
    r.vitals.chainAlive = false ↔
      ∃ i ∈ vitalChain, (r.snapshots i).present = true ∧ (r.snapshots i).health = 0 := by
  simp [Registry.vitals, organStateVitalChainAlive]

/-- An organ outside the vital chain below the SAFE threshold makes every evaluation end in SAFE. -/
theorem evaluate_safe_of_nonvital {s : ControlState} {i : Organ} (hi : i ∉ vitalChain)
    (hp : (s.registry.snapshots i).present = true)
    (hh : (s.registry.snapshots i).health < healthSafeBelow) :
    (homeostasisModeEvaluate s).mode = .safe := by
  have hworst := worstNonvitalHealth_le hi hp
  have hlow : s.registry.vitals.health < healthSafeBelow := by
    rw [Registry.vitals]
    grind
  rw [evaluate_mode]
  simp only [nextMode]
  cases s.mode <;> grind

/-- An evaluation ends in SAFE if and only if a vital organ is at zero health or the effective health,
to which the vital organs contribute through the mean only, is below the threshold of the current
mode. -/
theorem evaluate_safe_iff (s : ControlState) :
    (homeostasisModeEvaluate s).mode = .safe ↔
      (∃ i ∈ vitalChain, (s.registry.snapshots i).present = true ∧
        (s.registry.snapshots i).health = 0) ∨
      (s.mode ≠ .safe ∧ s.registry.vitals.health < healthSafeBelow) ∨
      (s.mode = .safe ∧ s.registry.vitals.health < healthRecoverAbove) := by
  rw [evaluate_mode, ← vitalChain_broken_iff]
  simp only [nextMode]
  cases s.registry.vitals.chainAlive with
  | false => simp
  | true => cases s.mode <;> grind

/-- A kernel organ at 39 among three organs at 100. -/
def weakKernel : List ControlOp :=
  [.publish 1 39 0, .publish 3 100 0, .publish 11 100 0, .publish 16 100 0]

/-- The mode stays NORMAL. -/
theorem weakKernel_not_safe :
    let s := weakKernel.foldl ControlOp.run (.start Bus.boot)
    (s.registry.snapshots ooOrganKernel).present = true ∧
      (s.registry.snapshots ooOrganKernel).health < healthSafeBelow ∧
      (homeostasisModeEvaluate s).mode = .normal := by
  decide +kernel

end OperatingOrganism.ControlPlanes

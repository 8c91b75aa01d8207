import OperatingOrganism.Vital.Guardian

/-!
# Escalation

An anomalous pulse stores `STRESSED` or `CRITICAL` by the anomaly count of its core, whatever the state is. The
count goes down with every calm pulse, but the state is lowered at zero only. So a core that was critical and has
calmed down below a hundred meets the threshold of `STRESSED` with its next anomaly while the state is still
`CRITICAL`: the anomaly lowers it. In no other case does one (`never_deescalates_iff`).
-/

set_option autoImplicit false

namespace OperatingOrganism.Vital

open OperatingOrganism.Execution

/-- A call whose sample makes the profile of the core anomalous does not lower the state. -/
def NeverDeescalates (g : Guardian) (a : CorePulse) : Prop :=
  ∀ i, (g.enrol a.coreId).2 = some i →
    (((g.enrol a.coreId).1.coreProfiles i).note a.pulseCount a.jitter).IsAnomalous →
    (getGuardianState g).code ≤ (getGuardianState (vitalRustGuardian g a)).code

/-- A call that finds its core anomalous while the state is `CRITICAL` does not find its count between the two
thresholds. -/
def OutsideThresholds (g : Guardian) (a : CorePulse) : Prop :=
  ∀ i, (g.enrol a.coreId).2 = some i →
    let p := ((g.enrol a.coreId).1.coreProfiles i).note a.pulseCount a.jitter
    p.IsAnomalous → g.guardianState = .critical → p.anomalyCount < 10 ∨ 100 ≤ p.anomalyCount

section

variable {g : Guardian} {a : CorePulse} {p : CoreHealthProfile}

/-- An anomalous verdict lowers the state exactly if it is `CRITICAL` and the count lies between the thresholds. -/
theorem code_le_verdict_iff (h : p.IsAnomalous) (state : GuardianState) :
    state.code ≤ (p.verdict state).code ↔
      (state = .critical → p.anomalyCount < 10 ∨ 100 ≤ p.anomalyCount) := by
  rcases anomalous_cases h state with ⟨-, hcount, hv⟩ | ⟨hten, hhundred, hv⟩ | ⟨hhundred, hv⟩
  · rw [hv]
    refine iff_of_true (Nat.le_refl _) fun _ => ?_
    by_contra hboth
    rw [not_or, UInt64.not_lt, UInt64.not_le] at hboth
    exact hcount hboth
  · have hbetween : ¬ (p.anomalyCount < 10 ∨ 100 ≤ p.anomalyCount) := by
      rw [not_or, UInt64.not_lt, UInt64.not_le]
      exact ⟨hten, hhundred⟩
    rw [hv]
    cases state with
    | healthy => exact iff_of_true (Nat.zero_le _) nofun
    | stressed => exact iff_of_true (Nat.le_refl _) nofun
    | critical => exact iff_of_false (by decide) fun hall => hbetween (hall rfl)
  · rw [hv]
    refine iff_of_true ?_ fun _ => .inr (UInt64.not_lt.1 hhundred)
    cases state with
    | healthy => decide
    | stressed => decide
    | critical => decide

/-- One call. -/
theorem neverDeescalates_step_iff (hwf : g.Wf) (a : CorePulse) : NeverDeescalates g a ↔ OutsideThresholds g a := by
  obtain ⟨checksum, -, e⟩ := vitalRustGuardian_eq hwf a
  rw [NeverDeescalates, e]
  rcases watch_live_cases g a with ⟨g₁, i, henrol, h, ew⟩ | ⟨henrol, -⟩
  · rw [ew, OutsideThresholds, henrol]
    refine forall₂_congr fun j hj => ?_
    obtain rfl := Option.some.inj hj
    refine imp_congr_right fun hanomalous => ?_
    have hstate : (getGuardianState
        { g₁.live.observe i a.pulseCount a.jitter with bootCodeChecksum := checksum }) =
          ((g₁.coreProfiles i).note a.pulseCount a.jitter).verdict g.guardianState := by
      rw [← h.state]
      rfl
    rw [hstate]
    exact code_le_verdict_iff hanomalous g.guardianState
  · rw [OutsideThresholds, henrol]
    exact iff_of_true nofun nofun

end

/-- In every run of calls over any cores, no anomaly lowers the state if and only if no core is found anomalous, with
ten to ninety-nine anomalies before, while the state is `CRITICAL`. -/
theorem never_deescalates_iff {tr : List (CorePulse × Guardian)} (h : Exec GuardianStep .boot tr) :
    AllSteps NeverDeescalates .boot tr ↔ AllSteps OutsideThresholds .boot tr := by
  refine h.allSteps_congr (I := Guardian.Wf) boot_guardian_wf ?_ fun g a hwf => neverDeescalates_step_iff hwf a
  rintro g a _ hwf - rfl
  exact hwf.step a

instance (g : Guardian) (a : CorePulse) : Decidable (OutsideThresholds g a) := inferInstanceAs (Decidable (∀ _, _))

/-- A hundred and twelve anomalous pulses of one core: the state climbs, and stays. -/
def longSickness : List CorePulse :=
  (List.range 112).map fun k => ⟨1, if k % 16 = 0 ∧ k ≤ 96 then 10000000 else 0, 0⟩

theorem longSickness_never_deescalates : AllSteps NeverDeescalates .boot (watchRun longSickness) :=
  (never_deescalates_iff (exec_watchRun _)).2 (by decide +kernel)

/-! ### A core that calms down too slowly -/

/-- A hundred and twelve anomalous pulses of one core and thirteen calm ones. -/
def slowRecovery : List CorePulse :=
  (List.range 125).map fun k => ⟨1, if k % 16 = 0 ∧ k ≤ 96 then 10000000 else 0, 0⟩

theorem exists_run_deescalates : ∃ tr, Exec GuardianStep .boot tr ∧ ¬ AllSteps NeverDeescalates .boot tr := by
  refine ⟨watchRun (slowRecovery ++ [⟨1, 10000000, 0⟩]), exec_watchRun _, ?_⟩
  rw [watchRun, allSteps_driven_append]
  rintro ⟨-, hlast, -⟩
  have hfound : ((slowRecovery.foldl vitalRustGuardian .boot).enrol 0).2 = some firstCore := by decide +kernel
  have hanomalous : ((((slowRecovery.foldl vitalRustGuardian .boot).enrol 0).1.coreProfiles firstCore).note 1
      10000000).IsAnomalous := by decide +kernel
  have hlower : ¬ (getGuardianState (slowRecovery.foldl vitalRustGuardian .boot)).code ≤
      (getGuardianState (vitalRustGuardian (slowRecovery.foldl vitalRustGuardian .boot) ⟨1, 10000000, 0⟩)).code := by
    decide +kernel
  generalize slowRecovery.foldl vitalRustGuardian .boot = g at hlast hfound hanomalous hlower
  exact hlower (hlast firstCore hfound hanomalous)

end OperatingOrganism.Vital

import Mathlib.Logic.Function.Iterate
import OperatingOrganism.Bot.InstinctLayer

/-!
# Escalation

The header of the threat levels promises that the instinct always passes through the levels in between. But a
trigger asks once for the highest level that an applicable rule names, and the matrix allows one level at a time.
So a trigger that recommends a higher level raises the level, and repeating it reaches the recommended one, if and
only if no applicable rule names a level more than one above the current (`escalates_iff`). Otherwise the layer
stays where it is, however often the trigger is repeated.
-/

set_option autoImplicit false

namespace OperatingOrganism.Bot

open OperatingOrganism.Execution

/-- The layer after the same trigger `n` times. -/
def InstinctLayer.repeated (inst : InstinctLayer) (cause : TriggerType) (pid : UInt32) (addr : UInt64)
    (confidence : UInt32) (n : Nat) : InstinctLayer :=
  (fun inst => (instinctTrigger instinctRules inst cause pid addr confidence).1)^[n] inst

/-- A trigger for which some applicable rule names a level above the current one raises the level, and repeating
it reaches the level that it recommends. -/
def Escalates (inst : InstinctLayer) (op : InstinctOp) : Prop :=
  match op with
  | .trigger cause pid addr confidence =>
    let current := inst.threatState.currentLevel
    (∃ r ∈ instinctRules, r.Applies cause current confidence ∧ current < r.newThreatLevel) →
      current < (instinctTrigger instinctRules inst cause pid addr confidence).1.threatState.currentLevel ∧
      ∃ n, (inst.repeated cause pid addr confidence n).threatState.currentLevel =
        recommendedLevel instinctRules cause current confidence
  | _ => True

/-- No applicable rule names a level more than one above the current. -/
def ModestAdvice (inst : InstinctLayer) (op : InstinctOp) : Prop :=
  match op with
  | .trigger cause _ _ confidence =>
    let current := inst.threatState.currentLevel
    ∀ r ∈ instinctRules, r.Applies cause current confidence → r.newThreatLevel.toNat ≤ current.toNat + 1
  | _ => True

/-! ### The table and the matrix -/

/-- No rule asks for confinement. -/
theorem newThreatLevel_le_survival : ∀ r ∈ instinctRules, r.newThreatLevel ≤ threatSurvival := by
  decide

/-- Up to `SURVIVAL`, the matrix allows one level upwards at a time. -/
theorem isValid_upward_iff {current target : UInt8} (hlt : current < target) (hle : target ≤ threatSurvival) :
    threatTransitionIsValid current target ≠ 0 ↔ target.toNat ≤ current.toNat + 1 := by
  have htable : ∀ target ≤ 4, ∀ current < target,
      (threatTransitionIsValid (UInt8.ofNat current) (UInt8.ofNat target) ≠ 0 ↔ target ≤ current + 1) := by
    decide
  have hentry := htable target.toNat (UInt8.le_iff_toNat_le.1 hle) current.toNat (UInt8.lt_iff_toNat_lt.1 hlt)
  rw [UInt8.ofNat_toNat, UInt8.ofNat_toNat] at hentry
  exact hentry

section

variable {inst : InstinctLayer} {cause : TriggerType} {confidence : UInt32}

/-- The recommended level is that of a rule, or the current one. -/
theorem recommendedLevel_facts (cause : TriggerType) (current : UInt8) (confidence : UInt32) :
    (∀ r ∈ instinctRules, r.Applies cause current confidence →
        r.newThreatLevel ≤ recommendedLevel instinctRules cause current confidence) ∧
      (recommendedLevel instinctRules cause current confidence = current ∨
        ∃ r ∈ instinctRules, r.Applies cause current confidence ∧
          r.newThreatLevel = recommendedLevel instinctRules cause current confidence) :=
  (foldl_recommended instinctRules cause current confidence current).2

/-- A level above the current one is recommended exactly when an applicable rule names one. -/
theorem lt_recommendedLevel_iff {current : UInt8} :
    current < recommendedLevel instinctRules cause current confidence ↔
      ∃ r ∈ instinctRules, r.Applies cause current confidence ∧ current < r.newThreatLevel := by
  obtain ⟨hall, hfrom⟩ := recommendedLevel_facts cause current confidence
  constructor
  · intro hlt
    rcases hfrom with hsame | ⟨r, hr, happlies, heq⟩
    · rw [hsame] at hlt
      exact absurd hlt (UInt8.lt_irrefl current)
    · exact ⟨r, hr, happlies, heq ▸ hlt⟩
  · rintro ⟨r, hr, happlies, hlt⟩
    exact UInt8.lt_of_lt_of_le hlt (hall r hr happlies)

/-- The recommended level is at most one above the current exactly when no applicable rule names a higher one. -/
theorem recommendedLevel_le_succ_iff {current : UInt8} :
    (recommendedLevel instinctRules cause current confidence).toNat ≤ current.toNat + 1 ↔
      ∀ r ∈ instinctRules, r.Applies cause current confidence → r.newThreatLevel.toNat ≤ current.toNat + 1 := by
  obtain ⟨hall, hfrom⟩ := recommendedLevel_facts cause current confidence
  constructor
  · intro hle r hr happlies
    exact Nat.le_trans (UInt8.le_iff_toNat_le.1 (hall r hr happlies)) hle
  · intro hmodest
    rcases hfrom with hsame | ⟨r, hr, happlies, heq⟩
    · rw [hsame]
      exact Nat.le_succ _
    · rw [← heq]
      exact hmodest r hr happlies

/-- A trigger that recommends a higher level reaches it, or leaves the level as it is. -/
theorem currentLevel_trigger_cases (inst : InstinctLayer) (cause : TriggerType) (pid : UInt32) (addr : UInt64)
    (confidence : UInt32)
    (hlt : inst.threatState.currentLevel <
      recommendedLevel instinctRules cause inst.threatState.currentLevel confidence) :
    ((instinctTrigger instinctRules inst cause pid addr confidence).1.threatState.currentLevel =
        recommendedLevel instinctRules cause inst.threatState.currentLevel confidence ∧
      (recommendedLevel instinctRules cause inst.threatState.currentLevel confidence).toNat ≤
        inst.threatState.currentLevel.toNat + 1) ∨
    ((instinctTrigger instinctRules inst cause pid addr confidence).1.threatState.currentLevel =
        inst.threatState.currentLevel ∧
      ¬ (recommendedLevel instinctRules cause inst.threatState.currentLevel confidence).toNat ≤
        inst.threatState.currentLevel.toNat + 1) := by
  generalize hnew : recommendedLevel instinctRules cause inst.threatState.currentLevel confidence = newLevel at *
  have hsurvival : newLevel ≤ threatSurvival := by
    rcases (recommendedLevel_facts cause inst.threatState.currentLevel confidence).2 with hsame | ⟨r, hr, -, heq⟩
    · rw [hnew] at hsame
      exact absurd (hsame ▸ hlt) (UInt8.lt_irrefl _)
    · rw [← hnew, ← heq]
      exact newThreatLevel_le_survival r hr
  have hne : newLevel ≠ inst.threatState.currentLevel := (UInt8.ne_of_lt hlt).symm
  rw [← isValid_upward_iff hlt hsurvival]
  rw [instinctTrigger, hnew]
  dsimp only
  rw [if_pos hne, threatTransition]
  have hbig : ¬ newLevel > 5 := UInt8.not_lt.2 (UInt8.le_trans hsurvival (by decide))
  have hrecord : ∀ ev, (inst.record ev).threatState = inst.threatState := fun _ => rfl
  simp only [hrecord, if_neg hbig, if_neg hne]
  split
  · next hinvalid => exact .inr ⟨rfl, not_not.2 hinvalid⟩
  · next hvalid => exact .inl ⟨rfl, hvalid⟩

end

/-- A trigger escalates exactly when the advice of the table is modest. -/
theorem escalates_step_iff (inst : InstinctLayer) (op : InstinctOp) : Escalates inst op ↔ ModestAdvice inst op := by
  cases op with
  | trigger cause pid addr confidence =>
    simp only [Escalates, ModestAdvice]
    rw [← lt_recommendedLevel_iff, ← recommendedLevel_le_succ_iff]
    by_cases hlt : inst.threatState.currentLevel <
        recommendedLevel instinctRules cause inst.threatState.currentLevel confidence
    · rcases currentLevel_trigger_cases inst cause pid addr confidence hlt with ⟨hreached, hle⟩ | ⟨hstays, hle⟩
      · refine iff_of_true (fun _ => ⟨?_, 1, hreached⟩) hle
        rw [hreached]
        exact hlt
      · refine iff_of_false (fun hescalates => ?_) hle
        have hraised := (hescalates hlt).1
        rw [hstays] at hraised
        exact UInt8.lt_irrefl _ hraised
    · refine iff_of_true (fun h => absurd h hlt) ?_
      exact Nat.le_succ_of_le (UInt8.le_iff_toNat_le.1 (UInt8.not_lt.1 hlt))
  | _ => exact Iff.rfl

/-- In every run from `instinct_init`, every trigger that recommends a higher level makes progress towards it if
and only if the table never names a level more than one above the current. -/
theorem escalates_iff {tr : List (InstinctOp × InstinctLayer)} (h : Exec InstinctStep instinctInit tr) :
    AllSteps Escalates instinctInit tr ↔ AllSteps ModestAdvice instinctInit tr :=
  h.allSteps_congr (I := fun _ => True) trivial (fun _ _ _ _ _ _ => trivial)
    fun inst op _ => escalates_step_iff inst op

/-! ### One level and two -/

/-- A suspicious child and then a return-oriented chain: one level each. -/
theorem child_and_chain_escalate : AllSteps Escalates instinctInit
    (instinctRun [.trigger .procAbnormalChild 7 0 60, .trigger .memRopChain 7 0 70]) := by
  refine (escalates_iff (exec_instinctRun _)).2 ⟨?_, ?_, trivial⟩
  · simp only [ModestAdvice]
    decide
  · simp only [ModestAdvice]
    decide

/-- A hollowed process asks the sleeping layer for `ALERT`, and the layer sleeps on. -/
theorem exists_no_progress : ∃ tr, Exec InstinctStep instinctInit tr ∧
    ¬ AllSteps Escalates instinctInit tr := by
  refine ⟨instinctRun [.trigger .procHollow 7 0 75], exec_instinctRun _, ?_⟩
  rintro ⟨hescalates, -⟩
  have hmodest := (escalates_step_iff instinctInit (.trigger .procHollow 7 0 75)).1 hescalates
  exact absurd (hmodest ⟨.procHollow, 0, 75, .quarantineProc, threatAlert⟩ (by decide) (by decide)) (by decide)

end OperatingOrganism.Bot

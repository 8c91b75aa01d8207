import OperatingOrganism.Library.XorShift
import OperatingOrganism.Vital.EpigeneticCounters
import Mathlib.Data.FinEnum

/-!
# The dream simulator

`dream_simulator.c` draws a word from a generator and turns it, with the severity of a scenario and the
personality, into a survival rate. The dream teaches one lesson for each quarter of the rate, and each lesson
marks a success or a trauma.

The rate stays between 40 and 93 (`dreamSimulate_spec`): no word of the computation overflows, and neither the wrapped
sum nor the cap at 100 ever shows.

The generator leaves no state for good, and it never comes to zero (`simRand_recurs`). Messages to `oo_print` are
left out.
-/

set_option autoImplicit false

namespace OperatingOrganism.Vital

open OperatingOrganism.XorShift

/-- `oo_dream_scenario_t` -/
inductive DreamScenario where
  | threatInvasion | memoryFlood | cpuThermalRun | kernelCorruption | unknownSignal | rebirth
  deriving DecidableEq, Repr

/-- The value of the enumerator. -/
def DreamScenario.code : DreamScenario → Nat
  | .threatInvasion => 0
  | .memoryFlood => 1
  | .cpuThermalRun => 2
  | .kernelCorruption => 3
  | .unknownSignal => 4
  | .rebirth => 5

/-- `oo_dream_result_t` -/
structure DreamResult where
  scenario : DreamScenario
  durationCycles : BitVec 32
  survivalRate : BitVec 8
  lessonsLearned : BitVec 8
  deriving DecidableEq, Repr

/-- The initial value of `sim_rng_state`. -/
def simRngBoot : BitVec 64 := 0xDEADBEEFCAFEBABE

/-- `sim_rand`: the state after a call, which is what it returns. -/
def simRand (simRngState : BitVec 64) : BitVec 64 :=
  let simRngState := simRngState ^^^ simRngState <<< 13
  let simRngState := simRngState ^^^ simRngState >>> 7
  simRngState ^^^ simRngState <<< 17

/-- `scenario_severity` -/
def scenarioSeverity (scenario : DreamScenario) : BitVec 8 := [85, 70, 60, 95, 50, 100].getD scenario.code 0

/-- `base_survival` -/
def baseSurvival (personalBias severity : BitVec 8) : BitVec 8 :=
  if 128 < personalBias.toNat then 100 - severity / 2 else 100 - severity / 3

/-- `dream_simulate`, with the state of the generator after it. The sum is one of 64 bits, of which eight are kept. -/
def dreamSimulate (personalBias : BitVec 8) (simRngState : BitVec 64) (scenario : DreamScenario) :
    DreamResult × BitVec 64 :=
  let entropy := simRand simRngState
  let base := baseSurvival personalBias (scenarioSeverity scenario)
  let survivalRate : BitVec 8 := (base.setWidth 64 + entropy % 20 - 10).setWidth 8
  let survivalRate := if 100 < survivalRate.toNat then 100 else survivalRate
  ({ scenario := scenario
     durationCycles := (entropy % 10000).setWidth 32 + 1000
     survivalRate := survivalRate
     lessonsLearned := survivalRate / 25 },
    entropy)

/-- `dream_select_scenario` -/
def dreamSelectScenario (traumaLevel : BitVec 8) : DreamScenario :=
  if 200 < traumaLevel.toNat then .rebirth
  else if 150 < traumaLevel.toNat then .kernelCorruption
  else if 100 < traumaLevel.toNat then .threatInvasion
  else if 50 < traumaLevel.toNat then .memoryFlood
  else if 20 < traumaLevel.toNat then .cpuThermalRun
  else .unknownSignal

/-- What a lesson of this dream marks. -/
def DreamResult.impact (result : DreamResult) : BitVec 8 := if 70 < result.survivalRate.toNat then 1 else -1

/-- `dream_apply_lessons` -/
def dreamApplyLessons (pulse : BitVec 64) (result : DreamResult) (m : EpigeneticMemory) : EpigeneticMemory :=
  if result.lessonsLearned = 0 then m
  else (vitalMarkExperience pulse result.impact)^[result.lessonsLearned.toNat] m

/-! ## One dream -/

section Dream

variable (personalBias : BitVec 8) (simRngState : BitVec 64) (scenario : DreamScenario)

/-- The base of a scenario as a number. -/
def exactBase : Nat :=
  if 128 < personalBias.toNat then 100 - (scenarioSeverity scenario).toNat / 2
  else 100 - (scenarioSeverity scenario).toNat / 3

theorem toNat_baseSurvival :
    (baseSurvival personalBias (scenarioSeverity scenario)).toNat = exactBase personalBias scenario := by
  rw [baseSurvival, exactBase]
  split
  · cases scenario <;> decide
  · cases scenario <;> decide

theorem exactBase_bounds : 50 ≤ exactBase personalBias scenario ∧ exactBase personalBias scenario ≤ 84 := by
  rw [exactBase]
  split
  · cases scenario <;> decide
  · cases scenario <;> decide

/-- The truncated sum, for a base that is neither too small nor too large for it. -/
theorem toNat_survival {base : BitVec 8} (hlow : 10 ≤ base.toNat) (hhigh : base.toNat ≤ 84) (entropy : BitVec 64) :
    ((base.setWidth 64 + entropy % 20 - 10).setWidth 8 : BitVec 8).toNat =
      base.toNat + entropy.toNat % 20 - 10 := by
  have hmod : (entropy % 20).toNat = entropy.toNat % 20 := BitVec.toNat_umod
  have hlt : entropy.toNat % 20 < 20 := Nat.mod_lt _ (by decide)
  have hten : (10 : BitVec 64).toNat = 10 := rfl
  have hsum : (base.setWidth 64 + entropy % 20).toNat = base.toNat + entropy.toNat % 20 := by
    rw [BitVec.toNat_add_of_lt (by rw [BitVec.toNat_setWidth, hmod]; omega), BitVec.toNat_setWidth, hmod]
    omega
  -- so that the subtraction does not wrap around
  have hle : (10 : BitVec 64) ≤ base.setWidth 64 + entropy % 20 := by
    rw [BitVec.le_def, hsum, hten]
    omega
  rw [BitVec.toNat_setWidth, BitVec.toNat_sub_of_le hle, hsum, hten]
  omega

/-- The survival rate, without the cap and without wrapping. -/
theorem toNat_survivalRate : (dreamSimulate personalBias simRngState scenario).1.survivalRate.toNat =
    exactBase personalBias scenario + (simRand simRngState).toNat % 20 - 10 := by
  obtain ⟨hlow, hhigh⟩ := exactBase_bounds personalBias scenario
  have hbase := toNat_baseSurvival personalBias scenario
  have hrate := toNat_survival (hbase ▸ hlow.trans' (by decide)) (hbase ▸ hhigh) (simRand simRngState)
  have hlt : (simRand simRngState).toNat % 20 < 20 := Nat.mod_lt _ (by decide)
  rw [hbase] at hrate
  rw [dreamSimulate]
  dsimp only
  rw [if_neg (by rw [hrate]; omega), hrate]

/-- The duration, without wrapping. -/
theorem toNat_durationCycles : (dreamSimulate personalBias simRngState scenario).1.durationCycles.toNat =
    (simRand simRngState).toNat % 10000 + 1000 := by
  have hmod : (simRand simRngState % 10000).toNat = (simRand simRngState).toNat % 10000 := BitVec.toNat_umod
  have hthousand : (1000 : BitVec 32).toNat = 1000 := rfl
  change ((simRand simRngState % 10000).setWidth 32 + 1000 : BitVec 32).toNat = _
  rw [BitVec.toNat_add_of_lt (by rw [BitVec.toNat_setWidth, hmod, hthousand]; omega), BitVec.toNat_setWidth, hmod,
    hthousand]
  omega

/-- What holds of every dream. Its words are the numbers that the formulas give without a bound. -/
structure Dreamt (result : DreamResult) : Prop where
  rate : result.survivalRate.toNat = exactBase personalBias scenario + (simRand simRngState).toNat % 20 - 10
  duration : result.durationCycles.toNat = (simRand simRngState).toNat % 10000 + 1000
  ten_le : 10 ≤ exactBase personalBias scenario + (simRand simRngState).toNat % 20
  survives : 40 ≤ result.survivalRate.toNat
  cap_unused : result.survivalRate.toNat ≤ 93
  lessons : result.lessonsLearned.toNat = result.survivalRate.toNat / 25
  short : 1000 ≤ result.durationCycles.toNat ∧ result.durationCycles.toNat < 11000

/-- Whatever the personality, the generator and the scenario. -/
theorem dreamSimulate_spec :
    Dreamt personalBias simRngState scenario (dreamSimulate personalBias simRngState scenario).1 := by
  obtain ⟨hlow, hhigh⟩ := exactBase_bounds personalBias scenario
  have hrate := toNat_survivalRate personalBias simRngState scenario
  have hduration := toNat_durationCycles personalBias simRngState scenario
  have hlt : (simRand simRngState).toNat % 20 < 20 := Nat.mod_lt _ (by decide)
  exact ⟨hrate, hduration, by omega, by omega, by omega, BitVec.toNat_udiv, by omega⟩

end Dream

/-- The scenario that a personality selects in the life loop. -/
def dreamScenarioOf (personality : BitVec 8) : DreamScenario := dreamSelectScenario (255 - personality)

/-! ## The generator -/

theorem simRand_injective : Function.Injective simRand :=
  (shiftLeft_xor_injective (by decide)).comp
    ((ushiftRight_xor_injective (by decide)).comp (shiftLeft_xor_injective (by decide)))

/-- The words that the generator returns are never zero, and from the first one on they repeat themselves. -/
theorem simRand_recurs : (∀ n, simRand^[n] simRngBoot ≠ 0) ∧
    ∃ p, 0 < p ∧ ∀ n, simRand^[n + p] simRngBoot = simRand^[n] simRngBoot :=
  ⟨iterate_ne_of_fixed simRand_injective (by decide) (by decide), exists_period simRand_injective simRngBoot⟩

end OperatingOrganism.Vital

import OperatingOrganism.Library.InsertionDict
import OperatingOrganism.Library.Json
import OperatingOrganism.Library.PythonFloat

/-!
# The mimicry agent

The antibodies that were learned from attacks, and when one of them is ready for the genome of the swarm. The texts
and times of a pattern that the promotion does not read, and the forging of new patterns, are left out.
-/

set_option autoImplicit false

namespace OperatingOrganism.Adaptive

variable {F : Type} [PythonFloat F]

def minConfidenceToPromote : Int := 80

/-- `MAX_FALSE_POSITIVE_RATE` -/
def maxFalsePositiveRate (F : Type) [PythonFloat F] : F := PythonFloat.lit 5 2

/-- `BehaviorPattern` -/
structure BehaviorPattern where
  patternId : CodePoints
  name : CodePoints
  threatDomain : Nat
  severity : Int
  confidence : Int
  behaviors : List JsonValue
  hitCount : Nat
  falsePositiveCount : Nat
  isValidated : Bool
  isActive : Bool

/-- `false_positive_rate` -/
def BehaviorPattern.falsePositiveRate (F : Type) [PythonFloat F] (p : BehaviorPattern) : F :=
  let total := p.hitCount + p.falsePositiveCount
  if total = 0 then PythonFloat.lit 0 1 else PythonFloat.intDiv p.falsePositiveCount total

/-- `is_eligible_for_promotion` -/
def BehaviorPattern.isEligibleForPromotion (F : Type) [PythonFloat F] (p : BehaviorPattern) : Bool :=
  minConfidenceToPromote ≤ p.confidence && PythonFloat.le (p.falsePositiveRate F) (maxFalsePositiveRate F) &&
    3 ≤ p.hitCount && p.isActive && !p.isValidated

/-- `MimicryAgent`: the patterns under their ids. -/
structure MimicryAgent where
  patterns : InsertionDict CodePoints BehaviorPattern
  keyed : ∀ id p, patterns.get? id = some p → p.patternId = id

namespace MimicryAgent

/-- An agent that has learned nothing. -/
def empty : MimicryAgent := ⟨.empty, fun _ _ h => nomatch h⟩

/-- `get_patterns_ready_for_promotion` -/
def getPatternsReadyForPromotion (F : Type) [PythonFloat F] (agent : MimicryAgent) : List BehaviorPattern :=
  agent.patterns.values.filter (BehaviorPattern.isEligibleForPromotion F)

/-- The patterns after the flag of one is set. -/
def validate (agent : MimicryAgent) (patternId : CodePoints) : MimicryAgent where
  patterns := agent.patterns.adjust patternId fun p => { p with isValidated := true }
  keyed := by
    intro id p hp
    rw [InsertionDict.get?_adjust] at hp
    split at hp
    · obtain ⟨old, hold, rfl⟩ := Option.map_eq_some_iff.1 hp
      exact agent.keyed id old hold
    · exact agent.keyed id p hp

/-- `promote_pattern`; the second component says that `patterns.json` is written. -/
def promotePattern (agent : MimicryAgent) (patternId : CodePoints) : MimicryAgent × Bool :=
  if (agent.patterns.get? patternId).isNone then (agent, false) else (agent.validate patternId, true)

/-- A pattern that is ready is held under its id and not validated. -/
theorem get?_of_mem_ready {agent : MimicryAgent} {p : BehaviorPattern}
    (h : p ∈ agent.getPatternsReadyForPromotion F) :
    agent.patterns.get? p.patternId = some p ∧ p.isEligibleForPromotion F = true := by
  obtain ⟨hmem, heligible⟩ := List.mem_filter.1 h
  obtain ⟨id, hid⟩ := InsertionDict.mem_values_iff.1 hmem
  obtain rfl := agent.keyed id p hid
  exact ⟨hid, heligible⟩

end MimicryAgent

/-- A pattern that is ready for the genome. -/
def readyPattern : BehaviorPattern where
  patternId := [112]
  name := []
  threatDomain := 1
  severity := 5
  confidence := 100
  behaviors := []
  hitCount := 3
  falsePositiveCount := 0
  isValidated := false
  isActive := true

/-- An agent that has learned it. -/
def readyAgent : MimicryAgent where
  patterns := .set .empty [112] readyPattern
  keyed := by
    intro id p hp
    rw [InsertionDict.get?_set] at hp
    split at hp
    · next hid =>
      obtain rfl := Option.some.inj hp
      exact hid.symm
    · cases hp

end OperatingOrganism.Adaptive

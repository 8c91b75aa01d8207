import Mathlib.Data.Nat.Basic
import OperatingOrganism.Bot.InstinctLayer
import OperatingOrganism.Library.Selection

/-!
# Which rule reacts

`instinct_get_reaction` is to give priority to the applicable rule with the highest minimal threat level. Its loop
starts from 255 and keeps a rule whose level is not above that of the best so far, so it ends with the last of the
applicable rules with the lowest one (`instinctGetReaction_eq_lastLeast`).

So the reaction is that of a most specific rule if and only if a rule with the highest level reacts as the rule with
the lowest one does (`highestWins_iff`).
-/

set_option autoImplicit false

namespace OperatingOrganism.Bot

open OperatingOrganism.Selection

section

variable (rules : List InstinctRule) (trigger : TriggerType) (level : UInt8) (confidence : UInt32)

/-- Some rule applies. -/
def SomeApplies : Prop := ∃ r ∈ rules, r.Applies trigger level confidence

/-- An applicable rule with the highest minimal threat level among the applicable ones. -/
def IsMostSpecific (r : InstinctRule) : Prop :=
  r ∈ rules ∧ r.Applies trigger level confidence ∧
    ∀ r' ∈ rules, r'.Applies trigger level confidence → r'.minThreatLevel ≤ r.minThreatLevel

/-- The last of the applicable rules with the lowest minimal threat level. -/
def IsLastLowest (r : InstinctRule) : Prop :=
  IsLastLeast (fun r => r.minThreatLevel.toNat) (fun r => r.Applies trigger level confidence) rules r

/-- The reaction is that of a most specific rule if some rule applies, else the default. -/
def HighestWins : Prop :=
  (SomeApplies rules trigger level confidence → ∃ r, IsMostSpecific rules trigger level confidence r ∧
      instinctGetReaction rules trigger level confidence = r.reaction) ∧
    (¬ SomeApplies rules trigger level confidence →
      instinctGetReaction rules trigger level confidence = .intensifyWatch)

/-! ### The loop -/

/-- The pair that the loop keeps for the rule that is selected so far. -/
def keptPair (best : Option InstinctRule) : ReactionType × UInt8 :=
  best.elim (.intensifyWatch, 255) fun r => (r.reaction, r.minThreatLevel)

/-- The test of the loop is the one of the selection: no level is above the 255 that the loop starts with. -/
theorem le_keptPair_iff (r : InstinctRule) (best : Option InstinctRule) :
    r.minThreatLevel ≤ (keptPair best).2 ↔ ∀ b ∈ best, r.minThreatLevel.toNat ≤ b.minThreatLevel.toNat := by
  cases best with
  | none => exact iff_of_true (Nat.le_of_lt_succ r.minThreatLevel.toNat_lt) nofun
  | some b =>
    constructor
    · intro hle c hc
      exact Option.some.inj hc ▸ UInt8.le_iff_toNat_le.1 hle
    · exact fun hall => UInt8.le_iff_toNat_le.2 (hall b rfl)

/-- The loop keeps the pair of the last of the lowest applicable rules. -/
theorem foldl_eq_keptPair :
    rules.foldl
        (fun best r =>
          if r.Applies trigger level confidence ∧ r.minThreatLevel ≤ best.2 then (r.reaction, r.minThreatLevel)
          else best)
        (ReactionType.intensifyWatch, (255 : UInt8)) =
      keptPair (lastLeast (fun r => r.minThreatLevel.toNat) (fun r => r.Applies trigger level confidence) rules) := by
  induction rules using List.reverseRecOn with
  | nil => rfl
  | append_singleton rules r ih =>
    rw [List.foldl_append, ih, lastLeast_concat, List.foldl_cons, List.foldl_nil]
    simp only [le_keptPair_iff]
    split
    · rfl
    · rfl

/-- The reaction is that of the last of the lowest applicable rules. -/
theorem instinctGetReaction_eq_lastLeast :
    instinctGetReaction rules trigger level confidence =
      ((lastLeast (fun r => r.minThreatLevel.toNat) (fun r => r.Applies trigger level confidence) rules).elim
        .intensifyWatch InstinctRule.reaction) := by
  rw [instinctGetReaction, foldl_eq_keptPair, keptPair]
  cases lastLeast (fun r => r.minThreatLevel.toNat) (fun r => r.Applies trigger level confidence) rules with
  | none => rfl
  | some r => rfl

variable {rules trigger level confidence}

/-- Some rule applies if and only if one of them is the last of the lowest ones. -/
theorem someApplies_iff : SomeApplies rules trigger level confidence ↔
    ∃ r, IsLastLowest rules trigger level confidence r := by
  constructor
  · rintro ⟨r, hr, happlies⟩
    cases hlow : lastLeast (fun r => r.minThreatLevel.toNat) (fun r => r.Applies trigger level confidence) rules with
    | none => exact absurd happlies (lastLeast_eq_none_iff.1 hlow r hr)
    | some low => exact ⟨low, lastLeast_eq_some_iff.1 hlow⟩
  · rintro ⟨low, before, after, rfl, happlies, -, -⟩
    exact ⟨low, List.mem_append_right _ List.mem_cons_self, happlies⟩

/-- The reaction of the rule that is found. -/
theorem instinctGetReaction_of_isLastLowest {low : InstinctRule} (h : IsLastLowest rules trigger level confidence low) :
    instinctGetReaction rules trigger level confidence = low.reaction := by
  rw [instinctGetReaction_eq_lastLeast, lastLeast_eq_some_iff.2 h]
  rfl

/-- The reaction when no rule applies. -/
theorem instinctGetReaction_of_none (h : ¬ SomeApplies rules trigger level confidence) :
    instinctGetReaction rules trigger level confidence = .intensifyWatch := by
  rw [instinctGetReaction_eq_lastLeast, lastLeast_eq_none_iff.2 fun r hr happlies => h ⟨r, hr, happlies⟩]
  rfl

end

/-! ### The most specific rule -/

/-- A most specific rule decides the reaction, for the same table, trigger, level and confidence, if and only if one
of them reacts as the last of the least specific ones. -/
theorem highestWins_iff (rules : List InstinctRule) (trigger : TriggerType) (level : UInt8) (confidence : UInt32) :
    HighestWins rules trigger level confidence ↔
      ∀ low, IsLastLowest rules trigger level confidence low →
        ∃ top, IsMostSpecific rules trigger level confidence top ∧ top.reaction = low.reaction := by
  constructor
  · intro hwins low hlow
    obtain ⟨top, htop, heq⟩ := hwins.1 (someApplies_iff.2 ⟨low, hlow⟩)
    exact ⟨top, htop, by rw [← heq, instinctGetReaction_of_isLastLowest hlow]⟩
  · intro hsame
    refine ⟨fun happlies => ?_, instinctGetReaction_of_none⟩
    obtain ⟨low, hlow⟩ := someApplies_iff.1 happlies
    obtain ⟨top, htop, heq⟩ := hsame low hlow
    exact ⟨top, htop, by rw [heq, instinctGetReaction_of_isLastLowest hlow]⟩

/-- In the table as it is shipped, a hollowed process that is found at level 2 with confidence 85 is quarantined,
although the rule for level 2 says that everything is logged. -/
theorem exists_not_highestWins : ¬ HighestWins instinctRules .procHollow 2 85 := by
  intro hwins
  obtain ⟨top, ⟨hmem, happlies, hhighest⟩, heq⟩ :=
    hwins.1 ⟨⟨.procHollow, 0, 75, .quarantineProc, threatAlert⟩, by decide, by decide⟩
  have hreaction : instinctGetReaction instinctRules .procHollow 2 85 = .quarantineProc := by decide
  have hlogs : ∀ r ∈ instinctRules, r.Applies .procHollow 2 85 → r.reaction = .quarantineProc →
      r.minThreatLevel = 0 := by decide
  have hzero := hlogs top hmem happlies (heq.symm.trans hreaction)
  have htwo := hhighest ⟨.procHollow, 2, 85, .logFull, threatCombat⟩ (by decide) (by decide)
  rw [hzero] at htwo
  exact absurd htwo (by decide)

end OperatingOrganism.Bot

import OperatingOrganism.Library.CheckedSum
import OperatingOrganism.Library.SlidingWindow
import OperatingOrganism.Vital.Guardian
import Mathlib.Algebra.BigOperators.Group.List.Basic
import Mathlib.Algebra.GroupWithZero.Nat

/-!
# The statistics of the jitter

`update_jitter` keeps the last sixteen samples in a ring and computes their mean and variance with `u64` sums. A
sample is any `u64`. A large one overflows the sum, the square or the sum of the squares, and the variance of what
is left may be small. The statistics are exact if and only if the two exact sums fit (`jitter_exact_iff`).
-/

set_option autoImplicit false

namespace OperatingOrganism.Vital

open OperatingOrganism.CheckedSum OperatingOrganism.SlidingWindow

/-- The history after a sample. -/
def CoreHealthProfile.historyWith (p : CoreHealthProfile) (jitter : UInt64) : Fin jitterHistorySize → UInt64 :=
  fun i => if i.val = p.jitterIndex then jitter else p.jitterHistory i

/-- `update_jitter` in a build that checks for overflow; `none` where it would panic. The differences and the index
cannot overflow. -/
def CoreHealthProfile.updateJitterChecked (p : CoreHealthProfile) (jitter : UInt64) : Option CoreHealthProfile :=
  let history := p.historyWith jitter
  (checkedSum (fun i => some (history i)) (List.finRange jitterHistorySize)).bind fun sum =>
    let mean := sum / .ofNat jitterHistorySize
    let square := fun i => checkedMul (absDiff (history i) mean) (absDiff (history i) mean)
    (checkedSum square (List.finRange jitterHistorySize)).bind fun varSum =>
      some { p with
        jitterHistory := history
        jitterIndex := (p.jitterIndex + 1) % jitterHistorySize
        jitterMean := mean
        jitterVariance := varSum / .ofNat jitterHistorySize }

/-! ## What is asked of it -/

/-- The last sixteen samples, with zeros before the first one. -/
def lastSamples (samples : List UInt64) : List Nat := (window jitterHistorySize 0 samples).map UInt64.toNat

/-- The floor of the mean. -/
def floorMean (xs : List Nat) : Nat := xs.sum / jitterHistorySize

/-- The squared distances to the floor of the mean. -/
def squaredDistances (xs : List Nat) : List Nat := xs.map fun x : Nat => ((x : Int) - floorMean xs).natAbs ^ 2

/-- The floor of their mean. -/
def floorVariance (xs : List Nat) : Nat := (squaredDistances xs).sum / jitterHistorySize

/-- The profile has the statistics of the samples. -/
structure ExactStatistics (p : CoreHealthProfile) (samples : List UInt64) : Prop where
  mean : p.jitterMean.toNat = floorMean (lastSamples samples)
  variance : p.jitterVariance.toNat = floorVariance (lastSamples samples)
  anomalous : p.IsAnomalous ↔ 50000 ^ 2 < floorVariance (lastSamples samples)

/-- After some samples of a core, the update by one more overflows nothing and gives the exact statistics. -/
def JitterExact (samples : List UInt64) (jitter : UInt64) : Prop :=
  let p := samples.foldl CoreHealthProfile.updateJitter .new
  (p.updateJitterChecked jitter).isSome ∧ ExactStatistics (p.updateJitter jitter) (samples ++ [jitter])

/-- The last sixteen samples and their squared distances sum up to less than 2^64. -/
def SumsFit (samples : List UInt64) : Prop :=
  (lastSamples samples).sum < 2 ^ 64 ∧ (squaredDistances (lastSamples samples)).sum < 2 ^ 64

/-! ## The ring of samples -/

section Ring

variable {p : CoreHealthProfile} {samples : List UInt64}

/-- The slots of the history. -/
def historySlots (history : Fin jitterHistorySize → UInt64) : List UInt64 :=
  (List.finRange jitterHistorySize).map history

/-- The history holds the last samples. -/
def CoreHealthProfile.Holds (p : CoreHealthProfile) (samples : List UInt64) : Prop :=
  HoldsWindow jitterHistorySize 0 (historySlots p.jitterHistory) p.jitterIndex samples

theorem historySlots_with (p : CoreHealthProfile) (jitter : UInt64) :
    historySlots (p.historyWith jitter) = (historySlots p.jitterHistory).set p.jitterIndex jitter := by
  apply List.ext_getElem
  · rw [List.length_set, historySlots, historySlots, List.length_map, List.length_map]
  · intro i hi hi'
    simp only [historySlots, List.getElem_map, List.getElem_finRange, List.getElem_set, CoreHealthProfile.historyWith]
    by_cases h : i = p.jitterIndex
    · rw [if_pos h.symm]
      exact if_pos h
    · rw [if_neg (Ne.symm h)]
      exact if_neg h

theorem holds_new : CoreHealthProfile.new.Holds [] := holdsWindow_nil jitterHistorySize 0

theorem CoreHealthProfile.Holds.updateJitter (h : p.Holds samples) (jitter : UInt64) :
    (p.updateJitter jitter).Holds (samples ++ [jitter]) := by
  have hwrite := HoldsWindow.write h (by decide) jitter
  rw [← historySlots_with] at hwrite
  exact hwrite

/-- After any samples. -/
theorem holds_samples (samples : List UInt64) :
    (samples.foldl CoreHealthProfile.updateJitter .new).Holds samples := by
  induction samples using List.reverseRecOn with
  | nil => exact holds_new
  | append_singleton samples jitter ih =>
    rw [List.foldl_append]
    exact ih.updateJitter jitter

/-- The slots after a sample, as numbers in another order. -/
theorem CoreHealthProfile.Holds.perm (h : p.Holds samples) (jitter : UInt64) :
    ((List.finRange jitterHistorySize).map fun i => (p.historyWith jitter i).toNat).Perm
      (lastSamples (samples ++ [jitter])) := by
  have hperm := (HoldsWindow.perm (h.updateJitter jitter)).map UInt64.toNat
  rw [historySlots, List.map_map] at hperm
  exact hperm

end Ring

/-! ## The sums -/

section Sums

variable {p : CoreHealthProfile} {samples : List UInt64} {jitter : UInt64}

/-- The loops of a release build wrap. -/
theorem toNat_sumHistory (f : Fin jitterHistorySize → UInt64) :
    (sumHistory f).toNat = ((List.finRange jitterHistorySize).map fun i => (f i).toNat).sum % 2 ^ 64 := by
  have hloop : ∀ (l : List (Fin jitterHistorySize)) (start : UInt64),
      (l.foldl (fun sum i => sum + f i) start).toNat =
        (start.toNat + (l.map fun i => (f i).toNat).sum) % 2 ^ 64 := by
    intro l
    induction l with
    | nil => exact fun start => (Nat.mod_eq_of_lt start.toNat_lt).symm
    | cons i l ih =>
      intro start
      rw [List.foldl_cons, ih, UInt64.toNat_add, Nat.mod_add_mod, List.map_cons, List.sum_cons, Nat.add_assoc]
  rw [sumHistory, hloop, UInt64.toNat_zero, Nat.zero_add]

theorem toNat_div_size (sum : UInt64) :
    (sum / .ofNat jitterHistorySize).toNat = sum.toNat / jitterHistorySize := UInt64.toNat_div _ _

theorem toNat_absDiff (x mean : UInt64) : (absDiff x mean).toNat = ((x.toNat : Int) - mean.toNat).natAbs := by
  rw [absDiff]
  split
  · next h =>
    have hlt := UInt64.lt_iff_toNat_lt.1 h
    rw [UInt64.toNat_sub_of_le _ _ (UInt64.le_of_lt h)]
    omega
  · next h =>
    have hle := UInt64.le_iff_toNat_le.1 (UInt64.not_lt.1 h)
    rw [UInt64.toNat_sub_of_le _ _ (UInt64.not_lt.1 h)]
    omega

theorem toNat_mean (sum : UInt64) {xs : List Nat} (h : sum.toNat = xs.sum) :
    (sum / .ofNat jitterHistorySize).toNat = floorMean xs := by
  rw [toNat_div_size, h]
  rfl

/-- The squares that are summed up, for the mean of samples that the slots hold. -/
theorem CoreHealthProfile.Holds.squares (h : p.Holds samples) {mean : UInt64}
    (hmean : mean.toNat = floorMean (lastSamples (samples ++ [jitter]))) :
    ((List.finRange jitterHistorySize).map fun i => (absDiff (p.historyWith jitter i) mean).toNat ^ 2).sum =
      (squaredDistances (lastSamples (samples ++ [jitter]))).sum := by
  let square := fun x : Nat => ((x : Int) - floorMean (lastSamples (samples ++ [jitter]))).natAbs ^ 2
  have hsquares : ((List.finRange jitterHistorySize).map fun i =>
      (absDiff (p.historyWith jitter i) mean).toNat ^ 2) =
        ((List.finRange jitterHistorySize).map fun i => (p.historyWith jitter i).toNat).map square := by
    rw [List.map_map]
    refine List.map_congr_left fun i _ => ?_
    rw [toNat_absDiff, hmean]
    rfl
  rw [hsquares, squaredDistances]
  exact ((h.perm jitter).map square).sum_eq

/-- The checked sum of the squares. -/
theorem CoreHealthProfile.Holds.checkedSquares (h : p.Holds samples) {mean : UInt64}
    (hmean : mean.toNat = floorMean (lastSamples (samples ++ [jitter]))) :
    checkedSum (fun i => checkedMul (absDiff (p.historyWith jitter i) mean) (absDiff (p.historyWith jitter i) mean))
        (List.finRange jitterHistorySize) =
      checked (squaredDistances (lastSamples (samples ++ [jitter]))).sum := by
  rw [← h.squares hmean]
  exact checkedSum_eq fun i _ => congrArg checked (Nat.pow_two _).symm

/-- The checked build has a result exactly if both sums fit. -/
theorem CoreHealthProfile.Holds.isSome_updateJitterChecked_iff (h : p.Holds samples) (jitter : UInt64) :
    (p.updateJitterChecked jitter).isSome ↔ SumsFit (samples ++ [jitter]) := by
  have hsum : checkedSum (fun i => some (p.historyWith jitter i)) (List.finRange jitterHistorySize) =
      checked (lastSamples (samples ++ [jitter])).sum := by
    rw [← (h.perm jitter).sum_eq]
    exact checkedSum_eq fun i _ => (checked_toNat _).symm
  rw [CoreHealthProfile.updateJitterChecked, SumsFit]
  dsimp only
  rw [hsum, checked]
  split
  · next hfits =>
    rw [Option.bind_some, and_iff_right hfits, h.checkedSquares (toNat_mean _ (UInt64.toNat_ofNat_of_lt' hfits)),
      ← isSome_checked_iff]
    exact Bool.coe_iff_coe.2 ((congrArg Option.isSome Option.map_eq_bind.symm).trans Option.isSome_map)
  · next hover => exact iff_of_false Bool.false_ne_true fun hboth => hover hboth.1

/-- Sums that fit do not wrap. -/
theorem CoreHealthProfile.Holds.exact (h : p.Holds samples) (hfit : SumsFit (samples ++ [jitter])) :
    ExactStatistics (p.updateJitter jitter) (samples ++ [jitter]) := by
  obtain ⟨hsum, hsquares⟩ := hfit
  have hmean : (p.updateJitter jitter).jitterMean.toNat = floorMean (lastSamples (samples ++ [jitter])) := by
    apply toNat_mean
    rw [← (h.perm jitter).sum_eq] at hsum ⊢
    rw [toNat_sumHistory]
    exact Nat.mod_eq_of_lt hsum
  have hvariance : (p.updateJitter jitter).jitterVariance.toNat =
      floorVariance (lastSamples (samples ++ [jitter])) := by
    let diff := fun i => absDiff (p.historyWith jitter i) (p.updateJitter jitter).jitterMean
    have hwrapped : ((List.finRange jitterHistorySize).map fun i => (diff i * diff i).toNat) =
        ((List.finRange jitterHistorySize).map fun i => (diff i).toNat ^ 2).map (· % 2 ^ 64) := by
      rw [List.map_map]
      refine List.map_congr_left fun i _ => ?_
      rw [UInt64.toNat_mul, Function.comp_apply, Nat.pow_two]
    have hvarSum : (sumHistory fun i => diff i * diff i).toNat =
        (squaredDistances (lastSamples (samples ++ [jitter]))).sum := by
      rw [toNat_sumHistory, hwrapped, ← List.sum_nat_mod, h.squares hmean]
      exact Nat.mod_eq_of_lt hsquares
    rw [floorVariance, ← hvarSum]
    exact toNat_div_size _
  refine ⟨hmean, hvariance, ?_⟩
  have hthreshold : (anomalyThreshold * anomalyThreshold).toNat = 50000 ^ 2 := rfl
  rw [← hvariance, CoreHealthProfile.IsAnomalous, gt_iff_lt, UInt64.lt_iff_toNat_lt, hthreshold]

end Sums

/-- After every sequence of samples of a core, an update overflows nothing and gives the floor of the mean of the
last sixteen samples, the floor of their mean squared distance to it and the right verdict, if and only if the two
sums fit. -/
theorem jitter_exact_iff (samples : List UInt64) (jitter : UInt64) :
    JitterExact samples jitter ↔ SumsFit (samples ++ [jitter]) := by
  have hholds := holds_samples samples
  constructor
  · rintro ⟨hsome, -⟩
    exact (hholds.isSome_updateJitterChecked_iff jitter).1 hsome
  · intro hfit
    exact ⟨(hholds.isSome_updateJitterChecked_iff jitter).2 hfit, hholds.exact hfit⟩

/-- A first sample of 2^36: the mean is 2^32, all squared distances are multiples of 2^64, and the core looks calm. -/
theorem exists_jitter_not_exact : ∃ (samples : List UInt64) (jitter : UInt64), ¬ JitterExact samples jitter ∧
    ¬ (CoreHealthProfile.updateJitter .new jitter).IsAnomalous ∧
    50000 ^ 2 < floorVariance (lastSamples (samples ++ [jitter])) := by
  have hcalm : ¬ (CoreHealthProfile.updateJitter .new 0x1000000000).IsAnomalous := by decide +kernel
  have hsick : 50000 ^ 2 < floorVariance (lastSamples ([] ++ [0x1000000000])) := by decide +kernel
  exact ⟨[], 0x1000000000, fun h => hcalm (h.2.anomalous.2 hsick), hcalm, hsick⟩

end OperatingOrganism.Vital

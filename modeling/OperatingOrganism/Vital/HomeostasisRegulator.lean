import OperatingOrganism.UnitedBus.Bus
import OperatingOrganism.Vital.MetabolicForth

/-!
# The homeostasis regulator

`homeostasis_regulator.c` draws each vital parameter towards its target, at each tick by the correction rate at
most. The correction is a sign times a magnitude. The sign is an `int` and the magnitude a `uint32_t`, so the
product is computed without a sign, and only the conversion back to `int32_t` gives it one. As long as the bounds
stay below 2^31 this loses nothing: the distance to the target shrinks by the rate until it is zero
(`homeostatic_convergence`).
-/

set_option autoImplicit false

namespace OperatingOrganism.Vital

open OperatingOrganism.UnitedBus

/-- `oo_vital_param_t` -/
structure VitalParam where
  value : BitVec 32
  target : BitVec 32
  minViable : BitVec 32
  maxViable : BitVec 32
  correctionRate : BitVec 8
  deriving DecidableEq

/-- `oo_homeostasis_board_t` -/
structure HomeostasisBoard where
  cpuTemperature : VitalParam
  tensionYinYang : VitalParam
  immuneLoad : VitalParam
  cortexActivity : VitalParam
  pulseFrequency : VitalParam
  entropyLevel : VitalParam
  synapticWeight : VitalParam
  epigeneticBias : VitalParam
  deriving DecidableEq

/-- `homeostasis_init` -/
def homeostasisInit : HomeostasisBoard where
  cpuTemperature := ⟨55, 55, 0, 95, 3⟩
  tensionYinYang := ⟨128, 128, 10, 245, 2⟩
  immuneLoad := ⟨20, 20, 0, 80, 5⟩
  cortexActivity := ⟨50, 50, 0, 100, 1⟩
  pulseFrequency := ⟨60, 60, 1, 1000, 4⟩
  entropyLevel := ⟨70, 70, 5, 100, 3⟩
  synapticWeight := ⟨50, 50, 0, 255, 1⟩
  epigeneticBias := ⟨128, 128, 0, 255, 1⟩

/-! ## `regulate_param` -/

/-- `error`, an `int32_t`. -/
def VitalParam.error (p : VitalParam) : Int := p.target.toInt - p.value.toInt

/-- The absolute value of the error, converted to `uint32_t`. -/
def VitalParam.magnitude (p : VitalParam) : BitVec 32 := .ofInt 32 (if p.error < 0 then -p.error else p.error)

/-- `correction`. The sign is converted to `uint32_t` for the product, and the product to `int32_t`. -/
def VitalParam.correction (p : VitalParam) : Int :=
  let sign : Int := if p.error > 0 then 1 else -1
  let rate := p.correctionRate.setWidth 32
  (BitVec.ofInt 32 sign * (if rate < p.magnitude then rate else p.magnitude)).toInt

/-- The clamp to the biological bounds. -/
def VitalParam.clamp (p : VitalParam) : VitalParam :=
  let p := if p.value < p.minViable then { p with value := p.minViable } else p
  if p.value > p.maxViable then { p with value := p.maxViable } else p

/-- `regulate_param` -/
def regulateParam (p : VitalParam) : VitalParam :=
  if p.value = p.target then p
  else { p with value := .ofInt 32 (p.value.toInt + p.correction) : VitalParam }.clamp

/-- `homeostasis_inject` -/
def homeostasisInject (newValue : BitVec 32) (p : VitalParam) : VitalParam :=
  { p with value := newValue : VitalParam }.clamp

/-! ## The board -/

/-- `regulate_param` of every parameter. -/
def HomeostasisBoard.regulate (board : HomeostasisBoard) : HomeostasisBoard where
  cpuTemperature := regulateParam board.cpuTemperature
  tensionYinYang := regulateParam board.tensionYinYang
  immuneLoad := regulateParam board.immuneLoad
  cortexActivity := regulateParam board.cortexActivity
  pulseFrequency := regulateParam board.pulseFrequency
  entropyLevel := regulateParam board.entropyLevel
  synapticWeight := regulateParam board.synapticWeight
  epigeneticBias := regulateParam board.epigeneticBias

/-- What a tick of the regulator acts on. -/
structure Homeostasis where
  board : HomeostasisBoard
  spark : VitalSpark
  bus : Bus

/-- The alert of a critical immune load. Of the local variable only two fields are assigned. -/
def immuneAlert (stack : Globule) : Globule := { stack with type := .white, targetOrgan := 0xFF }

/-- `homeostasis_regulate` -/
def homeostasisRegulate (stack : Globule) (s : Homeostasis) : Homeostasis :=
  let board := s.board.regulate
  let force := if board.tensionYinYang.value > 128 then forceYin else forceYang
  { board := board
    spark := vitalShiftBalance force 1 s.spark
    bus :=
      if board.immuneLoad.value ≥ board.immuneLoad.maxViable then (unitedBusPump s.bus (immuneAlert stack)).1
      else s.bus }

/-- `homeostasis_is_viable` -/
def homeostasisIsViable (board : HomeostasisBoard) : Bool :=
  board.cpuTemperature.value < board.cpuTemperature.maxViable ∧
    board.immuneLoad.value < board.immuneLoad.maxViable ∧
    board.pulseFrequency.value > board.pulseFrequency.minViable ∧
    board.entropyLevel.value > board.entropyLevel.minViable

/-- The parameters of the board. -/
def HomeostasisBoard.params (board : HomeostasisBoard) : List VitalParam :=
  [board.cpuTemperature, board.tensionYinYang, board.immuneLoad, board.cortexActivity, board.pulseFrequency,
    board.entropyLevel, board.synapticWeight, board.epigeneticBias]

/-! ## What is asked of it -/

/-- The value fits in an `int32_t`. -/
def FitsInt32 (value : Int) : Prop := -2 ^ 31 ≤ value ∧ value < 2 ^ 31

/-- The value and the target lie within bounds that an `int32_t` can hold, and the parameter is drawn at all. -/
structure VitalParam.InZone (p : VitalParam) : Prop where
  value_ge : p.minViable.toNat ≤ p.value.toNat
  value_le : p.value.toNat ≤ p.maxViable.toNat
  target_ge : p.minViable.toNat ≤ p.target.toNat
  target_le : p.target.toNat ≤ p.maxViable.toNat
  max_lt : p.maxViable.toNat < 2 ^ 31
  rate_pos : 1 ≤ p.correctionRate.toNat

/-- How far the value is from the target. -/
def VitalParam.distance (p : VitalParam) : Nat := ((p.target.toNat : Int) - p.value.toNat).natAbs

/-- The parameters have the same target, bounds and rate. -/
def VitalParam.SameZone (p q : VitalParam) : Prop :=
  p.target = q.target ∧ p.minViable = q.minViable ∧ p.maxViable = q.maxViable ∧
    p.correctionRate = q.correctionRate

/-- A value lies between two others, whichever of these is larger. -/
def Between (a x b : Nat) : Prop := (a ≤ x ∧ x ≤ b) ∨ (b ≤ x ∧ x ≤ a)

/-- A step overflows nothing, stays within the bounds, does not overshoot the target and comes nearer to it by the
rate; so enough steps reach it, and it is kept. -/
structure Converges (p : VitalParam) : Prop where
  defined : FitsInt32 p.error ∧ FitsInt32 (p.value.toInt + p.correction)
  frame : (regulateParam p).SameZone p
  kept : (regulateParam p).InZone
  between : Between p.value.toNat (regulateParam p).value.toNat p.target.toNat
  nearer : (regulateParam p).distance + min p.correctionRate.toNat p.distance = p.distance
  arrives : ∀ n : Nat, (p.distance + (p.correctionRate.toNat - 1)) / p.correctionRate.toNat ≤ n →
    (regulateParam^[n] p).value = p.target

/-! ## The conversions -/

section Step

variable {p : VitalParam}

/-- A `uint32_t` below 2^31 as an `int32_t`. -/
theorem toInt_of_small {x : BitVec 32} (h : x.toNat < 2 ^ 31) : x.toInt = x.toNat := by
  rw [BitVec.toInt_eq_toNat_cond, if_pos (by omega)]

/-- An `int32_t` that is not negative as a `uint32_t`. -/
theorem toNat_ofInt_nat {n : Nat} (h : n < 2 ^ 31) : (BitVec.ofInt 32 (n : Int)).toNat = n := by
  rw [BitVec.ofInt_natCast, BitVec.toNat_ofNat]
  exact Nat.mod_eq_of_lt (by omega)

/-- The product with a negative sign, converted back. -/
theorem toInt_neg_one_mul {x : BitVec 32} (h : x.toNat < 2 ^ 31) :
    (BitVec.ofInt 32 (-1) * x).toInt = -(x.toNat : Int) := by
  have hneg : BitVec.ofInt 32 (-1) = -1#32 := rfl
  rw [hneg, BitVec.neg_mul, BitVec.one_mul, BitVec.toInt_neg, toInt_of_small h, Int.bmod_def]
  split
  · omega
  · omega

theorem toInt_one_mul {x : BitVec 32} (h : x.toNat < 2 ^ 31) :
    (BitVec.ofInt 32 1 * x).toInt = (x.toNat : Int) := by
  have hone : BitVec.ofInt 32 1 = 1#32 := rfl
  rw [hone, BitVec.one_mul, toInt_of_small h]

theorem VitalParam.InZone.error_eq (h : p.InZone) : p.error = (p.target.toNat : Int) - p.value.toNat := by
  obtain ⟨-, hvalue, -, htarget, hmax, -⟩ := h
  rw [VitalParam.error, toInt_of_small (by omega), toInt_of_small (by omega)]

/-- The magnitude is the distance. -/
theorem VitalParam.InZone.toNat_magnitude (h : p.InZone) : p.magnitude.toNat = p.distance := by
  have herror := h.error_eq
  obtain ⟨-, hvalue, -, htarget, hmax, -⟩ := h
  have habs : (if p.error < 0 then -p.error else p.error) = (p.distance : Int) := by
    rw [VitalParam.distance, herror]
    split
    · omega
    · omega
  rw [VitalParam.magnitude, habs]
  apply toNat_ofInt_nat
  rw [VitalParam.distance]
  omega

/-- The smaller of the rate and the magnitude. -/
theorem VitalParam.InZone.toNat_min (h : p.InZone) :
    (if p.correctionRate.setWidth 32 < p.magnitude then p.correctionRate.setWidth 32 else p.magnitude).toNat =
      min p.correctionRate.toNat p.distance := by
  have hrate : (p.correctionRate.setWidth 32).toNat = p.correctionRate.toNat := by
    have hlt := p.correctionRate.isLt
    rw [BitVec.toNat_setWidth]
    exact Nat.mod_eq_of_lt (by omega)
  rw [← h.toNat_magnitude]
  split
  · next hlt =>
    rw [BitVec.lt_def, hrate] at hlt
    rw [hrate]
    omega
  · next hge =>
    rw [BitVec.lt_def, hrate] at hge
    omega

/-- The correction towards a target that is above or below. -/
theorem VitalParam.InZone.correction_eq (h : p.InZone) :
    p.correction = (if p.error > 0 then 1 else -1) * (min p.correctionRate.toNat p.distance : Nat) := by
  have hmin := h.toNat_min
  have hsmall : min p.correctionRate.toNat p.distance < 2 ^ 31 := by
    have hlt := p.correctionRate.isLt
    omega
  rw [VitalParam.correction]
  split
  · rw [toInt_one_mul (hmin ▸ hsmall), hmin, Int.one_mul]
  · rw [toInt_neg_one_mul (hmin ▸ hsmall), hmin, Int.neg_one_mul]

/-- The value after the correction, before the clamp. -/
theorem VitalParam.InZone.corrected (h : p.InZone) :
    p.value.toInt + p.correction =
      if p.value.toNat < p.target.toNat then
        (p.value.toNat + min p.correctionRate.toNat p.distance : Nat)
      else (p.value.toNat - min p.correctionRate.toNat p.distance : Nat) := by
  have herror := h.error_eq
  have hvalue : p.value.toInt = p.value.toNat := toInt_of_small (by have := h.value_le; have := h.max_lt; omega)
  rw [h.correction_eq, hvalue]
  by_cases hup : p.value.toNat < p.target.toNat
  · rw [if_pos hup, if_pos (by omega)]
    omega
  · have hle : min p.correctionRate.toNat p.distance ≤ p.value.toNat := by
      rw [VitalParam.distance]
      omega
    rw [if_neg hup, if_neg (by omega)]
    omega

/-! ## One step -/

/-- A value within the bounds is kept. -/
theorem clamp_of_viable (hlow : p.minViable.toNat ≤ p.value.toNat) (hhigh : p.value.toNat ≤ p.maxViable.toNat) :
    p.clamp = p := by
  have habove : ¬ p.value < p.minViable := by
    rw [BitVec.lt_def]
    omega
  have hbelow : ¬ p.value > p.maxViable := by
    rw [gt_iff_lt, BitVec.lt_def]
    omega
  simp only [VitalParam.clamp, habove, hbelow, if_false]

/-- The clamp brings a value within the bounds and keeps the rest. -/
theorem clamp_spec (hbounds : p.minViable.toNat ≤ p.maxViable.toNat) :
    p.clamp.SameZone p ∧ p.minViable.toNat ≤ p.clamp.value.toNat ∧ p.clamp.value.toNat ≤ p.maxViable.toNat := by
  by_cases hlow : p.value < p.minViable
  · have hhigh : ¬ p.minViable > p.maxViable := by
      rw [gt_iff_lt, BitVec.lt_def]
      omega
    simp only [VitalParam.clamp, hlow, hhigh, if_true, if_false]
    exact ⟨⟨rfl, rfl, rfl, rfl⟩, Nat.le_refl _, hbounds⟩
  · by_cases hhigh : p.value > p.maxViable
    · simp only [VitalParam.clamp, hlow, hhigh, if_true, if_false]
      exact ⟨⟨rfl, rfl, rfl, rfl⟩, hbounds, Nat.le_refl _⟩
    · simp only [VitalParam.clamp, hlow, hhigh, if_false]
      rw [BitVec.lt_def] at hlow
      rw [gt_iff_lt, BitVec.lt_def] at hhigh
      exact ⟨⟨rfl, rfl, rfl, rfl⟩, Nat.le_of_not_lt hlow, Nat.le_of_not_lt hhigh⟩

/-- The value after a step. The clamp has nothing to do. -/
theorem VitalParam.InZone.toNat_regulate (h : p.InZone) :
    (regulateParam p).value.toNat =
        (if p.value.toNat < p.target.toNat then p.value.toNat + min p.correctionRate.toNat p.distance
        else p.value.toNat - min p.correctionRate.toNat p.distance) ∧
      (regulateParam p).SameZone p := by
  by_cases hat : p.value = p.target
  · have hzero : p.distance = 0 := by
      rw [VitalParam.distance, hat]
      omega
    rw [regulateParam, if_pos hat, if_neg (by rw [hat]; omega), hzero]
    exact ⟨by omega, rfl, rfl, rfl, rfl⟩
  · have hcorrected := h.corrected
    obtain ⟨hlow, hhigh, htlow, hthigh, hmax, -⟩ := h
    have hreach : min p.correctionRate.toNat p.distance ≤ p.distance := Nat.min_le_right _ _
    rw [VitalParam.distance] at hreach
    -- the new value lies between the old one and the target
    have hnew : (if p.value.toNat < p.target.toNat then p.value.toNat + min p.correctionRate.toNat p.distance
        else p.value.toNat - min p.correctionRate.toNat p.distance) < 2 ^ 31 := by
      rw [VitalParam.distance]
      split
      · omega
      · omega
    have hvalue := toNat_ofInt_nat hnew
    rw [← hcorrected] at hvalue
    rw [regulateParam, if_neg hat, clamp_of_viable]
    · exact ⟨hvalue, rfl, rfl, rfl, rfl⟩
    · change p.minViable.toNat ≤ (BitVec.ofInt 32 (p.value.toInt + p.correction)).toNat
      rw [hvalue, VitalParam.distance]
      split
      · omega
      · omega
    · change (BitVec.ofInt 32 (p.value.toInt + p.correction)).toNat ≤ p.maxViable.toNat
      rw [hvalue, VitalParam.distance]
      split
      · omega
      · omega

/-- What a step leaves of the zone and of the distance. -/
theorem VitalParam.InZone.step (h : p.InZone) :
    (regulateParam p).InZone ∧ (regulateParam p).distance = p.distance - p.correctionRate.toNat := by
  obtain ⟨hvalue, htarget, hmin, hmax, hrate⟩ := h.toNat_regulate
  have hdistance : p.distance = ((p.target.toNat : Int) - p.value.toNat).natAbs := rfl
  obtain ⟨hlow, hhigh, htlow, hthigh, hlt, hpos⟩ := h
  constructor
  · refine ⟨?_, ?_, ?_, ?_, ?_, ?_⟩
    · rw [hmin, hvalue]
      split
      · omega
      · omega
    · rw [hmax, hvalue]
      split
      · omega
      · omega
    · rwa [hmin, htarget]
    · rwa [hmax, htarget]
    · rwa [hmax]
    · rwa [hrate]
  · rw [VitalParam.distance, htarget, hvalue]
    split
    · omega
    · omega

/-- What `n` steps leave of the zone and of the distance. -/
theorem VitalParam.InZone.iterate (h : p.InZone) (n : Nat) :
    (regulateParam^[n] p).InZone ∧ (regulateParam^[n] p).SameZone p ∧
      (regulateParam^[n] p).distance = p.distance - n * p.correctionRate.toNat := by
  induction n with
  | zero => exact ⟨h, ⟨rfl, rfl, rfl, rfl⟩, by simp⟩
  | succ n ih =>
    obtain ⟨hzone, ⟨htarget, hmin, hmax, hrate⟩, hdistance⟩ := ih
    obtain ⟨hzone', hdistance'⟩ := hzone.step
    obtain ⟨-, htarget', hmin', hmax', hrate'⟩ := hzone.toNat_regulate
    rw [Function.iterate_succ_apply']
    refine ⟨hzone', ⟨htarget'.trans htarget, hmin'.trans hmin, hmax'.trans hmax, hrate'.trans hrate⟩, ?_⟩
    rw [hdistance', hdistance, hrate, Nat.sub_sub, Nat.succ_mul]

theorem value_eq_of_distance (h : p.distance = 0) : p.value = p.target := by
  rw [VitalParam.distance] at h
  apply BitVec.eq_of_toNat_eq
  omega

/-- The target is reached after as many steps as the distance has rates, and kept. -/
theorem VitalParam.InZone.arrives (h : p.InZone) {n : Nat}
    (hn : (p.distance + (p.correctionRate.toNat - 1)) / p.correctionRate.toNat ≤ n) :
    (regulateParam^[n] p).value = p.target := by
  obtain ⟨-, ⟨htarget, -⟩, hdistance⟩ := h.iterate n
  have hceil : p.distance + (p.correctionRate.toNat - 1) < (n + 1) * p.correctionRate.toNat :=
    (Nat.div_lt_iff_lt_mul h.rate_pos).1 (Nat.lt_succ_of_le hn)
  have hzero : (regulateParam^[n] p).distance = 0 := by
    rw [Nat.succ_mul] at hceil
    have hpos := h.rate_pos
    omega
  rw [value_eq_of_distance hzero, htarget]

/-- The signed operations of a step stay within their type. -/
theorem VitalParam.InZone.fits (h : p.InZone) : FitsInt32 p.error ∧ FitsInt32 (p.value.toInt + p.correction) := by
  have herror := h.error_eq
  have hcorrected := h.corrected
  obtain ⟨-, hhigh, -, hthigh, hmax, -⟩ := h
  have hdistance : p.distance = ((p.target.toNat : Int) - p.value.toNat).natAbs := rfl
  constructor
  · rw [FitsInt32, herror]
    omega
  · rw [FitsInt32, hcorrected]
    split
    · omega
    · omega

/-- A step does not overshoot the target. -/
theorem homeostatic_between (h : p.InZone) : Between p.value.toNat (regulateParam p).value.toNat p.target.toNat := by
  have hdistance : p.distance = ((p.target.toNat : Int) - p.value.toNat).natAbs := rfl
  rw [Between, h.toNat_regulate.1]
  split
  · exact .inl (by omega)
  · exact .inr (by omega)

/-- Every parameter in its zone is drawn to its target. -/
theorem homeostatic_convergence (p : VitalParam) (h : p.InZone) : Converges p where
  defined := h.fits
  frame := h.toNat_regulate.2
  kept := h.step.1
  between := homeostatic_between h
  nearer := by
    rw [h.step.2]
    omega
  arrives _ hn := h.arrives hn

/-- A heart that beats too fast. -/
theorem homeostatic_convergence_pulse : Converges ⟨997, 60, 1, 1000, 4⟩ :=
  homeostatic_convergence _ ⟨by decide, by decide, by decide, by decide, by decide, by decide⟩

end Step

/-! ## The board -/

/-- Every parameter is in its zone. -/
def HomeostasisBoard.InZone (board : HomeostasisBoard) : Prop := ∀ p ∈ board.params, p.InZone

section Board

variable {board : HomeostasisBoard} {p : VitalParam}

theorem inZone_init : homeostasisInit.InZone := by
  have hchecked : ∀ p ∈ homeostasisInit.params, p.minViable.toNat ≤ p.value.toNat ∧
      p.value.toNat ≤ p.maxViable.toNat ∧ p.minViable.toNat ≤ p.target.toNat ∧
      p.target.toNat ≤ p.maxViable.toNat ∧ p.maxViable.toNat < 2 ^ 31 ∧ 1 ≤ p.correctionRate.toNat := by decide
  intro p hp
  obtain ⟨hlow, hhigh, htlow, hthigh, hlt, hpos⟩ := hchecked p hp
  exact ⟨hlow, hhigh, htlow, hthigh, hlt, hpos⟩

/-- Whatever is injected, a parameter stays in its zone. -/
theorem VitalParam.InZone.inject (h : p.InZone) (newValue : BitVec 32) : (homeostasisInject newValue p).InZone := by
  obtain ⟨hlow, hhigh, htlow, hthigh, hlt, hpos⟩ := h
  obtain ⟨⟨htarget, hmin, hmax, hrate⟩, hclow, hchigh⟩ :=
    clamp_spec (p := { p with value := newValue }) (hlow.trans hhigh)
  rw [homeostasisInject]
  refine ⟨?_, ?_, ?_, ?_, ?_, ?_⟩
  · rwa [hmin]
  · rwa [hmax]
  · rwa [hmin, htarget]
  · rwa [hmax, htarget]
  · rwa [hmax]
  · rwa [hrate]

theorem params_regulate (board : HomeostasisBoard) : board.regulate.params = board.params.map regulateParam := rfl

/-- A tick keeps every parameter in its zone. -/
theorem HomeostasisBoard.InZone.regulate (h : board.InZone) : board.regulate.InZone := by
  intro q hq
  rw [params_regulate] at hq
  obtain ⟨p, hp, rfl⟩ := List.mem_map.1 hq
  exact (h p hp).step.1

/-- Between a value and a target below the upper bound lies nothing above it. -/
theorem VitalParam.InZone.lt_max (h : p.InZone) (hvalue : p.value < p.maxViable) (htarget : p.target < p.maxViable) :
    (regulateParam p).value < (regulateParam p).maxViable := by
  have hbetween := (homeostatic_between h).imp And.right And.right
  rw [BitVec.lt_def] at hvalue htarget ⊢
  rw [h.toNat_regulate.2.2.2.1]
  omega

theorem VitalParam.InZone.min_lt (h : p.InZone) (hvalue : p.minViable < p.value) (htarget : p.minViable < p.target) :
    (regulateParam p).minViable < (regulateParam p).value := by
  have hbetween := (homeostatic_between h).imp And.left And.left
  rw [BitVec.lt_def] at hvalue htarget ⊢
  rw [h.toNat_regulate.2.2.1]
  omega

/-- The targets are viable. -/
def HomeostasisBoard.TargetsViable (board : HomeostasisBoard) : Prop :=
  board.cpuTemperature.target < board.cpuTemperature.maxViable ∧
    board.immuneLoad.target < board.immuneLoad.maxViable ∧
    board.pulseFrequency.minViable < board.pulseFrequency.target ∧
    board.entropyLevel.minViable < board.entropyLevel.target

/-- A tick does not end a life whose targets are viable. -/
theorem HomeostasisBoard.InZone.viable (h : board.InZone) (htargets : board.TargetsViable)
    (hviable : homeostasisIsViable board = true) : homeostasisIsViable board.regulate = true := by
  obtain ⟨htcpu, htload, htpulse, htentropy⟩ := htargets
  obtain ⟨hcpu, hload, hpulse, hentropy⟩ := of_decide_eq_true hviable
  apply decide_eq_true
  refine ⟨?_, ?_, ?_, ?_⟩
  · exact (h board.cpuTemperature (by simp [HomeostasisBoard.params])).lt_max hcpu htcpu
  · exact (h board.immuneLoad (by simp [HomeostasisBoard.params])).lt_max hload htload
  · exact (h board.pulseFrequency (by simp [HomeostasisBoard.params])).min_lt hpulse htpulse
  · exact (h board.entropyLevel (by simp [HomeostasisBoard.params])).min_lt hentropy htentropy

/-- The parameters after some ticks. -/
theorem params_ticks (frames : List Globule) (s : Homeostasis) :
    (frames.foldl (fun s stack => homeostasisRegulate stack s) s).board.params =
      s.board.params.map regulateParam^[frames.length] := by
  induction frames generalizing s with
  | nil => exact (List.map_id _).symm
  | cons stack frames ih =>
    rw [List.foldl_cons, ih, List.length_cons, Function.iterate_succ]
    change (s.board.regulate.params).map _ = _
    rw [params_regulate, List.map_map]

/-- After enough ticks of the regulator, every parameter of the board is at its target. -/
theorem board_converges (frames : List Globule) (s : Homeostasis) (hzone : s.board.InZone)
    (hticks : ∀ p ∈ s.board.params,
      (p.distance + (p.correctionRate.toNat - 1)) / p.correctionRate.toNat ≤ frames.length) :
    ∀ p ∈ (frames.foldl (fun s stack => homeostasisRegulate stack s) s).board.params, p.value = p.target := by
  intro q hq
  rw [params_ticks] at hq
  obtain ⟨p, hp, rfl⟩ := List.mem_map.1 hq
  rw [(hzone p hp).arrives (hticks p hp), ((hzone p hp).iterate frames.length).2.1.1]

end Board

end OperatingOrganism.Vital

import OperatingOrganism.Library.WrappingArithmetic
import OperatingOrganism.Vital.Nociception

/-!
# The arithmetic of pain

Signals are accumulated in a word of 32 bits that nothing bounds, and a tick multiplies it by 254 before it divides.
Both wrap after enough signals without a tick between them (`pain_exact_iff`). The products of a signal fit, and the
sensitivity of a receptor stays between 30 and 251 in every run after an initialisation.
-/

set_option autoImplicit false

namespace OperatingOrganism.Vital

open OperatingOrganism.Execution OperatingOrganism.WrappingArithmetic

/-- `nociception_get_global_pain` -/
def nociceptionGetGlobalPain (s : Nociception) : UInt32 := s.globalPainAccumulator

/-- The global pain as a number. -/
def Nerves.pain (s : Nerves) : Nat := (nociceptionGetGlobalPain s.nociception).toNat

/-- The size of a signal in integers: it is weighed, then damped. -/
def signalSize (weight sensitivity endorphin : Nat) : Nat :=
  let raw := weight * sensitivity / 128
  raw - raw * endorphin / 255

/-- What is asked of a call: a signal does not lower the pain, and endorphins do not increase the signal; a tick
takes a 255th of the pain away. -/
def PainExact (s : Nerves) (a : Surroundings × NerveOp) : Prop :=
  let t := a.2.run a.1 s
  match a.2 with
  | .nociceptionFire _ level _ =>
    s.pain ≤ t.pain ∧
      ∀ receptor, s.nociception.effectivePain receptor level ≤
        { s.nociception with endorphinLevel := 0 }.effectivePain receptor level
  | .nociceptionTick => t.pain = 254 * s.pain / 255 ∧ (0 < s.pain → t.pain < s.pain)
  | _ => True

/-- A signal comes while its size fits on top of the pain, and a tick while 254 times the pain fits into 32 bits. -/
def PainFits (s : Nerves) (a : Surroundings × NerveOp) : Prop :=
  match a.2 with
  | .nociceptionFire source level _ =>
    ∀ h : source.toNat < maxNociceptors,
      s.pain + signalSize (painWeight level).toNat (s.nociception.nociceptors ⟨source.toNat, h⟩).sensitivity.toNat
        s.nociception.endorphinLevel.toNat < 2 ^ 32
  | .nociceptionTick => 254 * s.pain < 2 ^ 32
  | _ => True

/-- The sensitivity of every receptor is in its range. -/
def Nerves.Calibrated (s : Nerves) : Prop :=
  ∀ i, 30 ≤ (s.nociception.nociceptors i).sensitivity.toNat ∧ (s.nociception.nociceptors i).sensitivity.toNat ≤ 251

/-! ## The size of a signal -/

section Signal

variable (s : Nociception) (receptor : Nociceptor) (level : PainLevel)

theorem painWeight_le : (painWeight level).toNat ≤ 100 := by
  cases level <;> decide

theorem signalSize_le (weight sensitivity endorphin : Nat) :
    signalSize weight sensitivity endorphin ≤ signalSize weight sensitivity 0 := by
  rw [signalSize, signalSize, Nat.mul_zero, Nat.zero_div, Nat.sub_zero]
  exact Nat.sub_le _ _

/-- A product of small words, divided: it does not wrap. -/
theorem toNat_mul_div {a b c : UInt32} (h : a.toNat * b.toNat < 2 ^ 32) :
    (a * b / c).toNat = a.toNat * b.toNat / c.toNat := by
  rw [UInt32.toNat_div, UInt32.toNat_mul, Nat.mod_eq_of_lt h]

/-- No product of a signal wraps. -/
theorem toNat_effectivePain :
    (s.effectivePain receptor level).toNat =
      signalSize (painWeight level).toNat receptor.sensitivity.toNat s.endorphinLevel.toNat := by
  have hsensitivity := receptor.sensitivity.toNat_lt
  have hendorphin := s.endorphinLevel.toNat_lt
  have hproduct : (painWeight level).toNat * receptor.sensitivity.toNat ≤ 100 * 255 :=
    Nat.mul_le_mul (painWeight_le level) (by omega)
  have hraw : (painWeight level * receptor.sensitivity.toUInt32 / 128).toNat =
      (painWeight level).toNat * receptor.sensitivity.toNat / 128 :=
    toNat_mul_div (by rw [UInt8.toNat_toUInt32]; omega)
  rw [Nociception.effectivePain, signalSize]
  dsimp only
  generalize hdef : painWeight level * receptor.sensitivity.toUInt32 / 128 = raw at hraw
  rw [← hraw]
  have hsmall : raw.toNat ≤ 100 * 255 := by omega
  by_cases hcalm : s.endorphinLevel > 0
  · have hscaled : raw.toNat * s.endorphinLevel.toNat ≤ raw.toNat * 255 := Nat.mul_le_mul_left _ (by omega)
    have hdamping : (raw * s.endorphinLevel.toUInt32 / 255).toNat = raw.toNat * s.endorphinLevel.toNat / 255 :=
      toNat_mul_div (by rw [UInt8.toNat_toUInt32]; omega)
    rw [if_pos hcalm, ← hdamping]
    generalize raw * s.endorphinLevel.toUInt32 / 255 = damping
    by_cases hmore : raw > damping
    · rw [if_pos hmore, UInt32.toNat_sub_of_le _ _ (UInt32.le_of_lt hmore)]
    · rw [if_neg hmore]
      have hle := UInt32.le_iff_toNat_le.1 (UInt32.not_lt.1 hmore)
      exact (Nat.sub_eq_zero_of_le hle).symm
  · have hnone : s.endorphinLevel.toNat = 0 := by
      have hle := UInt8.le_iff_toNat_le.1 (UInt8.not_lt.1 hcalm)
      exact Nat.le_zero.1 hle
    rw [if_neg hcalm, hnone, Nat.mul_zero, Nat.zero_div, Nat.sub_zero]

theorem effectivePain_le :
    s.effectivePain receptor level ≤ { s with endorphinLevel := 0 }.effectivePain receptor level := by
  rw [UInt32.le_iff_toNat_le, toNat_effectivePain, toNat_effectivePain]
  exact signalSize_le _ _ _

end Signal

/-! ## What a call does to the pain and the receptors -/

section Calls

variable (env : Surroundings) (s : Nerves)

/-- A signal: the accumulation and the adaptation, with the relief of an agony between them. -/
theorem nociception_fire (source : UInt32) (h : source.toNat < maxNociceptors) (level : PainLevel)
    (errorCode : UInt32) :
    (nociceptionFire env s source level errorCode).nociception =
      (if PainLevel.agony.code ≤ level.code then
        nociceptionInjectEndorphin (s.nociception.accumulate ⟨source.toNat, h⟩ level errorCode) 200
      else s.nociception.accumulate ⟨source.toNat, h⟩ level errorCode).adapt ⟨source.toNat, h⟩ level := by
  rw [nociceptionFire, dif_pos h]
  cases level <;> rfl

theorem pain_fire (source : UInt32) (h : source.toNat < maxNociceptors) (level : PainLevel) (errorCode : UInt32) :
    (nociceptionFire env s source level errorCode).pain =
      (s.nociception.globalPainAccumulator +
        s.nociception.effectivePain (s.nociception.nociceptors ⟨source.toNat, h⟩) level).toNat := by
  rw [Nerves.pain, nociception_fire env s source h, nociceptionGetGlobalPain]
  split
  · rfl
  · rfl

theorem fire_of_ge {source : UInt32} (h : ¬ source.toNat < maxNociceptors) (level : PainLevel) (errorCode : UInt32) :
    nociceptionFire env s source level errorCode = s := dif_neg h

theorem pain_tick :
    (nociceptionTick env s).pain =
      (if s.nociception.globalPainAccumulator > 0 then s.nociception.globalPainAccumulator * 254 / 255
      else s.nociception.globalPainAccumulator).toNat := rfl

/-- A signal raises the pain or leaves it exactly if its size fits. -/
theorem pain_le_fire_iff (source : UInt32) (h : source.toNat < maxNociceptors) (level : PainLevel)
    (errorCode : UInt32) :
    s.pain ≤ (nociceptionFire env s source level errorCode).pain ↔
      s.pain + signalSize (painWeight level).toNat (s.nociception.nociceptors ⟨source.toNat, h⟩).sensitivity.toNat
        s.nociception.endorphinLevel.toNat < 2 ^ 32 := by
  rw [pain_fire env s source h, UInt32.toNat_add, toNat_effectivePain]
  refine le_add_mod_iff (UInt32.toNat_lt _) ?_
  rw [← toNat_effectivePain]
  exact UInt32.toNat_lt _

/-- A tick takes a 255th away exactly if the product fits. -/
theorem pain_tick_iff : (nociceptionTick env s).pain = 254 * s.pain / 255 ↔ 254 * s.pain < 2 ^ 32 := by
  have hpain : s.pain = s.nociception.globalPainAccumulator.toNat := rfl
  rw [pain_tick, hpain]
  by_cases hsome : s.nociception.globalPainAccumulator > 0
  · rw [if_pos hsome, UInt32.toNat_div, UInt32.toNat_mul, Nat.mul_comm 254]
    exact mod_div_eq_iff (by decide) (by decide)
  · have hnone : s.nociception.globalPainAccumulator.toNat = 0 := by
      have hle := UInt32.le_iff_toNat_le.1 (UInt32.not_lt.1 hsome)
      exact Nat.le_zero.1 hle
    rw [if_neg hsome, hnone]
    decide

/-- One call: what is asked of it holds exactly if its sums and products fit. -/
theorem painExact_iff (a : Surroundings × NerveOp) : PainExact s a ↔ PainFits s a := by
  obtain ⟨env, op⟩ := a
  cases op with
  | nociceptionFire source level errorCode =>
    have hdamped : ∀ receptor, s.nociception.effectivePain receptor level ≤
        { s.nociception with endorphinLevel := 0 }.effectivePain receptor level := fun receptor =>
      effectivePain_le s.nociception receptor level
    by_cases h : source.toNat < maxNociceptors
    · have hraise := pain_le_fire_iff env s source h level errorCode
      exact ⟨fun hexact _ => hraise.1 hexact.1, fun hfits => ⟨hraise.2 (hfits h), hdamped⟩⟩
    · refine iff_of_true ⟨?_, hdamped⟩ fun hlt => absurd hlt h
      change s.pain ≤ (nociceptionFire env s source level errorCode).pain
      rw [fire_of_ge env s h]
  | nociceptionTick =>
    have htick := pain_tick_iff env s
    constructor
    · intro hexact
      exact htick.1 hexact.1
    · intro hfits
      have hless := htick.2 hfits
      refine ⟨hless, fun hpos => ?_⟩
      change (nociceptionTick env s).pain < s.pain
      omega
  | _ => exact Iff.rfl

end Calls

/-! ## The sensitivity of the receptors -/

section Sensitivity

variable {env : Surroundings} {s : Nerves}

theorem calibrated_init (env : Surroundings) (s : Nerves) : (NerveOp.nociceptionInit.run env s).Calibrated := by
  intro i
  change 30 ≤ (128 : UInt8).toNat ∧ (128 : UInt8).toNat ≤ 251
  decide

/-- The adaptation keeps a receptor in its range. -/
theorem Nociception.sensitivity_adapt (n : Nociception) (i : Fin maxNociceptors) (level : PainLevel)
    (h : 30 ≤ (n.nociceptors i).sensitivity.toNat ∧ (n.nociceptors i).sensitivity.toNat ≤ 251) :
    30 ≤ ((n.adapt i level).nociceptors i).sensitivity.toNat ∧
      ((n.adapt i level).nociceptors i).sensitivity.toNat ≤ 251 := by
  rw [Nociception.adapt]
  dsimp only
  rw [Function.update_self]
  dsimp only
  generalize (n.nociceptors i).sensitivity = sensitivity at h
  split
  · -- habituation stops at 30
    split
    · next hmore =>
      have hlt := UInt8.lt_iff_toNat_lt.1 hmore
      change 30 < sensitivity.toNat at hlt
      rw [UInt8.toNat_sub_of_le _ _ (UInt8.le_iff_toNat_le.2 (by change 1 ≤ _; omega))]
      change 30 ≤ sensitivity.toNat - 1 ∧ sensitivity.toNat - 1 ≤ 251
      omega
    · exact h
  · split
    · -- sensitisation starts below 250
      split
      · next hless =>
        have hlt := UInt8.lt_iff_toNat_lt.1 hless
        change sensitivity.toNat < 250 at hlt
        rw [UInt8.toNat_add]
        change 30 ≤ (sensitivity.toNat + 2) % 2 ^ 8 ∧ (sensitivity.toNat + 2) % 2 ^ 8 ≤ 251
        omega
      · exact h
    · exact h

theorem Nociception.adapt_of_ne (n : Nociception) {i j : Fin maxNociceptors} (h : j ≠ i) (level : PainLevel) :
    (n.adapt i level).nociceptors j = n.nociceptors j := Function.update_of_ne h _ _

theorem Nociception.sensitivity_accumulate (n : Nociception) (i j : Fin maxNociceptors) (level : PainLevel)
    (errorCode : UInt32) :
    ((n.accumulate i level errorCode).nociceptors j).sensitivity = (n.nociceptors j).sensitivity := by
  rw [Nociception.accumulate]
  dsimp only
  by_cases h : j = i
  · subst h
    rw [Function.update_self]
  · rw [Function.update_of_ne h]

/-- A signal keeps every receptor in its range. -/
theorem Nerves.Calibrated.fire (h : s.Calibrated) (source : UInt32) (level : PainLevel) (errorCode : UInt32) :
    (nociceptionFire env s source level errorCode).Calibrated := by
  by_cases hsource : source.toNat < maxNociceptors
  · intro j
    rw [nociception_fire env s source hsource]
    have hbefore : ∀ j, (((if PainLevel.agony.code ≤ level.code then
          nociceptionInjectEndorphin (s.nociception.accumulate ⟨source.toNat, hsource⟩ level errorCode) 200
        else s.nociception.accumulate ⟨source.toNat, hsource⟩ level errorCode).nociceptors j).sensitivity) =
          (s.nociception.nociceptors j).sensitivity := by
      intro j
      rw [← s.nociception.sensitivity_accumulate ⟨source.toNat, hsource⟩ j level errorCode]
      split
      · rfl
      · rfl
    by_cases hj : j = ⟨source.toNat, hsource⟩
    · subst hj
      apply Nociception.sensitivity_adapt
      rw [hbefore]
      exact h _
    · rw [Nociception.adapt_of_ne _ hj, hbefore]
      exact h j
  · rw [fire_of_ge env s hsource]
    exact h

theorem NerveStep.calibrated {a : Surroundings × NerveOp} {t : Nerves} (h : NerveStep s a t) (hs : s.Calibrated) :
    t.Calibrated := by
  obtain ⟨env, op⟩ := a
  obtain rfl : op.run env s = t := h
  cases op with
  | nociceptionFire source level errorCode => exact hs.fire source level errorCode
  | nociceptionInit => exact calibrated_init env s
  | _ => exact hs

end Sensitivity

/-! ## Runs -/

section Runs

variable {env : Surroundings} {s : Nerves} {tr : List ((Surroundings × NerveOp) × Nerves)}

/-- In every run from an initialisation, the receptors stay in their range and all signals and ticks do to the pain
what is asked of them, if and only if each signal comes while its size fits on top of the pain, and each tick while
254 times the pain fits. -/
theorem pain_exact_iff (h : Exec NerveStep (NerveOp.nociceptionInit.run env s) tr) :
    AllStates Nerves.Calibrated (NerveOp.nociceptionInit.run env s) tr ∧
        AllSteps PainExact (NerveOp.nociceptionInit.run env s) tr ↔
      AllSteps PainFits (NerveOp.nociceptionInit.run env s) tr := by
  -- the receptors stay in their range in any case
  have hrange : AllStates Nerves.Calibrated (NerveOp.nociceptionInit.run env s) tr :=
    h.invariant (calibrated_init env s) fun s a t hs hst => hst.calibrated hs
  have hexact : AllSteps PainExact (NerveOp.nociceptionInit.run env s) tr ↔
      AllSteps PainFits (NerveOp.nociceptionInit.run env s) tr :=
    h.allSteps_congr (I := fun _ => True) trivial (fun _ _ _ _ _ _ => trivial) fun s a _ => painExact_iff s a
  rw [and_iff_right hrange]
  exact hexact

/-! ### A storm of signals -/

/-- A chronic pain of the processor. -/
def chronicPain : NerveOp := .nociceptionFire painSourceCpu .chronic 7

/-- A signal of it while there are no endorphins adds between 2 and 19. -/
theorem pain_chronic {t : Nerves} (hrange : t.Calibrated) (hcalm : t.nociception.endorphinLevel = 0)
    (hroom : t.pain + 19 < 2 ^ 32) :
    t.pain + 2 ≤ (chronicPain.run quietSurroundings t).pain ∧
      (chronicPain.run quietSurroundings t).pain ≤ t.pain + 19 := by
  have hsource : painSourceCpu.toNat < maxNociceptors := by decide
  obtain ⟨hlow, hhigh⟩ := hrange ⟨painSourceCpu.toNat, hsource⟩
  have hsize := toNat_effectivePain t.nociception (t.nociception.nociceptors ⟨painSourceCpu.toNat, hsource⟩) .chronic
  have hweight : (painWeight .chronic).toNat = 10 := by decide
  rw [hcalm, hweight, signalSize] at hsize
  generalize (t.nociception.nociceptors ⟨painSourceCpu.toNat, hsource⟩).sensitivity.toNat = sensitivity at *
  have hraw : (t.nociception.effectivePain
      (t.nociception.nociceptors ⟨painSourceCpu.toNat, hsource⟩) .chronic).toNat = 10 * sensitivity / 128 := by
    refine hsize.trans ?_
    change _ - _ * 0 / 255 = _
    rw [Nat.mul_zero, Nat.zero_div, Nat.sub_zero]
  have hpain : t.pain = t.nociception.globalPainAccumulator.toNat := rfl
  change t.pain + 2 ≤ (nociceptionFire quietSurroundings t painSourceCpu .chronic 7).pain ∧
    (nociceptionFire quietSurroundings t painSourceCpu .chronic 7).pain ≤ t.pain + 19
  rw [pain_fire quietSurroundings t painSourceCpu hsource, UInt32.toNat_add, hraw, ← hpain,
    Nat.mod_eq_of_lt (by omega)]
  omega

/-- A number of such signals after an initialisation, with no tick. -/
def painStorm (n : Nat) : List (Surroundings × NerveOp) := List.replicate n (quietSurroundings, chronicPain)

/-- The state after calls. -/
def nervesAfter (s : Nerves) (calls : List (Surroundings × NerveOp)) : Nerves :=
  calls.foldl (fun s a => a.2.run a.1 s) s

/-- What the signals add up to. -/
theorem pain_painStorm (n : Nat) (hn : n ≤ 10 ^ 8) :
    (nervesAfter (NerveOp.nociceptionInit.run quietSurroundings .boot) (painStorm n)).Calibrated ∧
      (nervesAfter (NerveOp.nociceptionInit.run quietSurroundings .boot) (painStorm n)).nociception.endorphinLevel =
        0 ∧
      2 * n ≤ (nervesAfter (NerveOp.nociceptionInit.run quietSurroundings .boot) (painStorm n)).pain ∧
      (nervesAfter (NerveOp.nociceptionInit.run quietSurroundings .boot) (painStorm n)).pain ≤ 19 * n := by
  induction n with
  | zero => exact ⟨calibrated_init quietSurroundings .boot, rfl, Nat.le_refl 0, Nat.le_refl 0⟩
  | succ n ih =>
    have hlast : ∀ s, nervesAfter s (painStorm (n + 1)) =
        chronicPain.run quietSurroundings (nervesAfter s (painStorm n)) := by
      intro s
      rw [nervesAfter, painStorm, List.replicate_succ', List.foldl_append]
      rfl
    rw [hlast]
    generalize nervesAfter (NerveOp.nociceptionInit.run quietSurroundings .boot) (painStorm n) = t at ih
    obtain ⟨hrange, hcalm, hleast, hmost⟩ := ih (by omega)
    obtain ⟨hmore, hnotmuch⟩ := pain_chronic hrange hcalm (by omega)
    refine ⟨hrange.fire painSourceCpu .chronic 7, ?_, by omega, by omega⟩
    have hsource : painSourceCpu.toNat < maxNociceptors := by decide
    change (nociceptionFire quietSurroundings t painSourceCpu .chronic 7).nociception.endorphinLevel = 0
    rw [nociception_fire quietSurroundings t painSourceCpu hsource]
    exact hcalm

/-- A signal, a dose and a tick. -/
theorem pain_exact_one_signal :
    let start := NerveOp.nociceptionInit.run quietSurroundings .boot
    let calls := [(quietSurroundings, chronicPain), (quietSurroundings, .nociceptionInjectEndorphin 9),
      (quietSurroundings, .nociceptionTick)]
    AllStates Nerves.Calibrated start (driven (fun s a => a.2.run a.1 s) start calls) ∧
      AllSteps PainExact start (driven (fun s a => a.2.run a.1 s) start calls) := by
  intro start calls
  refine (pain_exact_iff (exec_driven (fun _ _ => rfl) start calls)).2 ⟨?_, trivial, ?_, trivial⟩
  · intro _
    change 0 + signalSize 10 128 0 < 2 ^ 32
    decide
  · have hmost : (chronicPain.run quietSurroundings start).pain ≤ 0 + 19 :=
      (pain_chronic (calibrated_init quietSurroundings .boot) rfl (by decide)).2
    change 254 * (chronicPain.run quietSurroundings start).pain < 2 ^ 32
    omega

/-- After ten million signals of a chronic pain without a tick between them, the next tick does not take a 255th
away. -/
theorem exists_pain_not_exact : ∃ (env : Surroundings) (s : Nerves) (tr : List ((Surroundings × NerveOp) × Nerves)),
    Exec NerveStep (NerveOp.nociceptionInit.run env s) tr ∧
      ¬ AllSteps PainExact (NerveOp.nociceptionInit.run env s) tr := by
  let start := NerveOp.nociceptionInit.run quietSurroundings .boot
  let calls := painStorm (10 ^ 7) ++ [(quietSurroundings, .nociceptionTick)]
  refine ⟨quietSurroundings, .boot, driven (fun s a => a.2.run a.1 s) start calls,
    exec_driven (fun _ _ => rfl) start calls, ?_⟩
  intro hall
  have htick := ((allSteps_driven_append start (painStorm (10 ^ 7)) [(quietSurroundings, .nociceptionTick)]).1 hall).2
  have hfits := (painExact_iff _ _).1 htick.1
  have hleast : 2 * 10 ^ 7 ≤ (nervesAfter start (painStorm (10 ^ 7))).pain :=
    (pain_painStorm (10 ^ 7) (by decide)).2.2.1
  change 254 * (nervesAfter start (painStorm (10 ^ 7))).pain < 2 ^ 32 at hfits
  omega

end Runs

end OperatingOrganism.Vital

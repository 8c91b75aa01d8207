import OperatingOrganism.Vital.Nociception

/-!
# The quantum vault

Every 10000 beats `life_loop.c` signs a word, made of fresh hardware entropy and the pulse count, and at every
other beat it verifies another such word against the signature. `quantum_vault.rs` compares sixteen digits of
two bits each, and tolerates a distance below three.

The word that is verified is made of entropy that was drawn for this beat and has nothing to do with the signed
one. A run is without alarm if and only if all of these words happen to resemble the signed one
(`no_alarm_iff`).
-/

set_option autoImplicit false

namespace OperatingOrganism.Vital

open OperatingOrganism.Execution

/-- Coordinates of a lattice point. -/
def latticeSize : Nat := 16

/-- `LifeSignature`; a coordinate is between -1 and 2. -/
structure LifeSignature where
  latticePoint : Fin latticeSize → Int

/-- `LifeSignature::generate` -/
def LifeSignature.generate (entropy : UInt64) : LifeSignature where
  latticePoint i := ((entropy >>> .ofNat (i * 2)) &&& 0x03).toNat - 1

/-- The loop of `LifeSignature::verify`. -/
def LifeSignature.distance (sig current : LifeSignature) : Int :=
  (List.finRange latticeSize).foldl (fun distance i =>
    distance + |sig.latticePoint i - current.latticePoint i|) 0

/-- `LifeSignature::verify` -/
def LifeSignature.verify (sig : LifeSignature) (entropy : UInt64) : Bool :=
  sig.distance (generate entropy) < 3

/-- `LAST_LATTICE` -/
abbrev LastLattice := Fin latticeSize → Int

/-- `vital_quantum_sign` -/
def vitalQuantumSign (entropy : UInt64) : LastLattice := (LifeSignature.generate entropy).latticePoint

/-- `vital_quantum_verify` -/
def vitalQuantumVerify (lattice : LastLattice) (entropy : UInt64) : Nat :=
  if LifeSignature.verify ⟨lattice⟩ entropy then 1 else 0

/-! ## The heartbeat -/

/-- What the layer of the signature reads and writes, and the word that was signed last. -/
structure Heart where
  pulseCount : UInt64
  lastLattice : LastLattice
  nerves : Nerves
  lastSigned : UInt64

/-- A beat: the entropy that the hardware gives, and the nerves as the layers before leave them. -/
structure Beat where
  rawEntropy : UInt64
  nerves : Nerves
  env : Surroundings

/-- The period of the signature. -/
def signaturePeriod : UInt64 := 10000

/-- The beat at this pulse count signs. -/
def signs (pulseCount : UInt64) : Prop := pulseCount % signaturePeriod = 0

instance (pulseCount : UInt64) : Decidable (signs pulseCount) := inferInstanceAs (Decidable (_ = _))

/-- The branch of an integrity violation. -/
def feelViolation (env : Surroundings) (pulseCount : UInt64) (s : Nerves) : Nerves :=
  let s := nociceptionFire { env with pulseCount := pulseCount.toBitVec } s painSourceIntegrity .acute 0xBAD516
  { s with memory := vitalMarkExperience pulseCount.toBitVec (-10) s.memory }

/-- `vital_eternal_heartbeat`, from the steel tick to the layer of the signature. -/
def vitalEternalHeartbeat (h : Heart) (b : Beat) : Heart :=
  let h := { h with pulseCount := h.pulseCount + 1, nerves := b.nerves }
  let word := b.rawEntropy ^^^ h.pulseCount
  if signs h.pulseCount then { h with lastLattice := vitalQuantumSign word, lastSigned := word }
  else if vitalQuantumVerify h.lastLattice word = 0 then
    { h with nerves := feelViolation b.env h.pulseCount h.nerves }
  else h

/-- A beat as a step. -/
def HeartStep (h : Heart) (b : Beat) (h' : Heart) : Prop := vitalEternalHeartbeat h b = h'

/-- The beat does not take the branch of a violation. -/
def NoAlarm (h : Heart) (b : Beat) : Prop :=
  ¬ (¬ signs (h.pulseCount + 1) ∧
    vitalQuantumVerify h.lastLattice (b.rawEntropy ^^^ (h.pulseCount + 1)) = 0)

instance (h : Heart) (b : Beat) : Decidable (NoAlarm h b) := inferInstanceAs (Decidable (¬ _))

/-- The branch is the only way in which the layer acts on the nerves. -/
theorem heartbeat_nerves (h : Heart) (b : Beat) :
    (vitalEternalHeartbeat h b).nerves =
      if NoAlarm h b then b.nerves else feelViolation b.env (h.pulseCount + 1) b.nerves := by
  rw [vitalEternalHeartbeat]
  dsimp only
  by_cases hsigns : signs (h.pulseCount + 1)
  · have hquiet : NoAlarm h b := fun hv => hv.1 hsigns
    rw [if_pos hsigns, if_pos hquiet]
  · rw [if_neg hsigns]
    by_cases hverify : vitalQuantumVerify h.lastLattice (b.rawEntropy ^^^ (h.pulseCount + 1)) = 0
    · have halarm : ¬ NoAlarm h b := fun hquiet => hquiet ⟨hsigns, hverify⟩
      rw [if_pos hverify, if_neg halarm]
    · have hquiet : NoAlarm h b := fun hv => hverify hv.2
      rw [if_neg hverify, if_pos hquiet]

/-! ## Words that resemble each other -/

/-- The digit at place `i` of a word to the base four. -/
def digitAt (word : UInt64) (i : Fin latticeSize) : Nat := word.toNat / 4 ^ i.val % 4

/-- The sum of the distances of the sixteen lowest digits. -/
def digitDistance (u v : UInt64) : Nat :=
  ((List.finRange latticeSize).map fun i => ((digitAt u i : Int) - digitAt v i).natAbs).sum

/-- A coordinate is a digit, shifted by one. -/
theorem latticePoint_generate (word : UInt64) (i : Fin latticeSize) :
    (LifeSignature.generate word).latticePoint i = (digitAt word i : Int) - 1 := by
  have hi : i.val < 16 := i.isLt
  have hshift : (UInt64.ofNat (i.val * 2)).toNat = i.val * 2 := by
    refine UInt64.toNat_ofNat_of_lt' ?_
    change i.val * 2 < 18446744073709551616
    omega
  have hdigit : ((word >>> .ofNat (i.val * 2)) &&& 0x03).toNat = digitAt word i := by
    rw [UInt64.toNat_and, UInt64.toNat_shiftRight, hshift, Nat.mod_eq_of_lt (by omega), Nat.shiftRight_eq_div_pow,
      digitAt, Nat.mul_comm, Nat.pow_mul]
    exact Nat.and_two_pow_sub_one_eq_mod _ 2
  exact congrArg (fun d : Nat => (d : Int) - 1) hdigit

/-- The distance of two generated points is that of the digits. -/
theorem distance_generate (u v : UInt64) :
    (LifeSignature.generate u).distance (.generate v) = digitDistance u v := by
  have hterm : ∀ i : Fin latticeSize,
      |(LifeSignature.generate u).latticePoint i - (LifeSignature.generate v).latticePoint i| =
        (((digitAt u i : Int) - digitAt v i).natAbs : Int) := by
    intro i
    rw [latticePoint_generate, latticePoint_generate, Int.natCast_natAbs]
    congr 1
    omega
  rw [LifeSignature.distance, digitDistance]
  simp only [hterm]
  generalize List.finRange latticeSize = l
  have hfold : ∀ d : Int, l.foldl (fun d i => d + (((digitAt u i : Int) - digitAt v i).natAbs : Int)) d =
      d + ((l.map fun i => ((digitAt u i : Int) - digitAt v i).natAbs).sum : Nat) := by
    induction l with
    | nil => simp
    | cons i l ih =>
      intro d
      rw [List.foldl_cons, ih, List.map_cons, List.sum_cons, Int.natCast_add, add_assoc]
  rw [hfold, zero_add]

/-- A word is accepted against the signature of another one if and only if they are closer than three. -/
theorem vitalQuantumVerify_sign (signed word : UInt64) :
    vitalQuantumVerify (vitalQuantumSign signed) word ≠ 0 ↔ digitDistance signed word < 3 := by
  have hdist : LifeSignature.verify ⟨vitalQuantumSign signed⟩ word = true ↔ digitDistance signed word < 3 := by
    rw [LifeSignature.verify, decide_eq_true_eq]
    change (LifeSignature.generate signed).distance (.generate word) < 3 ↔ _
    rw [distance_generate]
    exact Int.ofNat_lt (m := 3)
  rw [vitalQuantumVerify, ← hdist]
  cases LifeSignature.verify ⟨vitalQuantumSign signed⟩ word <;> simp

/-! ## Runs -/

/-- The vault holds the signature of the last signed word. -/
def Heart.Sealed (h : Heart) : Prop := h.lastLattice = vitalQuantumSign h.lastSigned

/-- A beat that signs seals the vault. -/
theorem sealed_of_signs {h : Heart} (b : Beat) (hsigns : signs (h.pulseCount + 1)) :
    (vitalEternalHeartbeat h b).Sealed := by
  have e : vitalEternalHeartbeat h b = _ := if_pos hsigns
  rw [e]
  exact rfl

/-- The vault is written by signatures only. -/
theorem Heart.Sealed.step {h : Heart} (hs : h.Sealed) (b : Beat) : (vitalEternalHeartbeat h b).Sealed := by
  by_cases hsigns : signs (h.pulseCount + 1)
  · exact sealed_of_signs b hsigns
  · rw [vitalEternalHeartbeat]
    dsimp only
    rw [if_neg hsigns]
    split
    · exact hs
    · exact hs

/-- The beat signs, or the word of its entropy and pulse count is closer than three to the signed one. -/
def Resembles (h : Heart) (b : Beat) : Prop :=
  ¬ signs (h.pulseCount + 1) → digitDistance h.lastSigned (b.rawEntropy ^^^ (h.pulseCount + 1)) < 3

theorem noAlarm_iff {h : Heart} (hs : h.Sealed) (b : Beat) : NoAlarm h b ↔ Resembles h b := by
  rw [NoAlarm, Resembles, not_and, hs]
  exact imp_congr_right fun _ => vitalQuantumVerify_sign h.lastSigned _

/-- In every run of beats after one that signs, whatever the entropy and the pulse count, there is no alarm if
and only if every word that is verified resembles the last signed one. -/
theorem no_alarm_iff {h₀ : Heart} {b₀ : Beat} (hsigns : signs (h₀.pulseCount + 1)) {tr : List (Beat × Heart)}
    (h : Exec HeartStep (vitalEternalHeartbeat h₀ b₀) tr) :
    AllSteps NoAlarm (vitalEternalHeartbeat h₀ b₀) tr ↔ AllSteps Resembles (vitalEternalHeartbeat h₀ b₀) tr := by
  refine h.allSteps_congr (I := Heart.Sealed) (sealed_of_signs b₀ hsigns) ?_ fun _ b hs => noAlarm_iff hs b
  rintro s b _ hs - rfl
  exact hs.step b

/-! ### Two beats -/

/-- The heart before the first signature. -/
def unsignedHeart : Heart := ⟨9999, fun _ => 0, .boot, 0⟩

/-- A beat that draws this entropy. -/
def beatOf (rawEntropy : UInt64) : Beat := ⟨rawEntropy, .boot, quietSurroundings⟩

/-- Entropy that differs from that of the signature as the pulse counts do. -/
theorem no_alarm_same_word :
    AllSteps NoAlarm (vitalEternalHeartbeat unsignedHeart (beatOf 10000))
      (driven vitalEternalHeartbeat (vitalEternalHeartbeat unsignedHeart (beatOf 10000)) [beatOf 10001]) := by
  refine (no_alarm_iff (by decide) (exec_driven (fun _ _ => rfl) _ _)).2 ⟨fun _ => ?_, trivial⟩
  decide +kernel

/-- Entropy 0 at the beat that signs, and 32 ones at the next. -/
theorem exists_false_alarm : ∃ (h₀ : Heart) (b₀ : Beat) (tr : List (Beat × Heart)),
    signs (h₀.pulseCount + 1) ∧ Exec HeartStep (vitalEternalHeartbeat h₀ b₀) tr ∧
      ¬ AllSteps NoAlarm (vitalEternalHeartbeat h₀ b₀) tr := by
  refine ⟨unsignedHeart, beatOf 0, driven vitalEternalHeartbeat _ [beatOf 0xFFFFFFFF], by decide,
    exec_driven (fun _ _ => rfl) _ _, ?_⟩
  rintro ⟨hquiet, -⟩
  exact absurd hquiet (by decide +kernel)

end OperatingOrganism.Vital

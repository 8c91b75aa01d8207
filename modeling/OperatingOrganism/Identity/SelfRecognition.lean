import OperatingOrganism.Library.Execution
import OperatingOrganism.UnitedBus.Bus
import Mathlib.Data.Finset.Card

/-!
# The recognition of the self

`self_recognition.c` keeps up to 64 signatures that are trusted, and `evolution_apply_mutation` trusts the signature
of every mutation that is recognised, which is in the table already. `identity_trust_dna` does not look for the
signature before it appends it, so the table holds the first 64 signatures with all their repetitions
(`Trusting.genome`). A signature is trusted in vain if and only if it is new when the table is full
(`trusted_recognised_iff`).
-/

set_option autoImplicit false

namespace OperatingOrganism.Identity

open OperatingOrganism.Execution OperatingOrganism.UnitedBus

/-- `MAX_TRUSTED_DNA` -/
def maxTrustedDna : Nat := 64

/-- `oo_dna_signature_t` -/
abbrev DnaSignature := Vector (BitVec 8) 32

/-- The static variables of `self_recognition.c`, and the bus. The signatures behind `trusted_count` are never
read. -/
structure Thymus where
  trustedGenome : List DnaSignature
  trusted_le : trustedGenome.length ≤ maxTrustedDna
  bus : Bus

/-- `identity_hash_fnv1a` -/
def identityHashFnv1a (data : List (BitVec 8)) : DnaSignature :=
  let hash := data.foldl (fun (hash : BitVec 64) byte => (hash ^^^ byte.setWidth 64) * 0x100000001b3)
    0xcbf29ce484222325
  .ofFn fun k =>
    let i := k.val / 8 * 8
    let subHash := hash ^^^ (.ofNat 64 i * 0x9E3779B97F4A7C15)
    (subHash >>> (k.val % 8 * 8)).setWidth 8

/-- `identity_init` -/
def identityInit (s : Thymus) : Thymus := { s with trustedGenome := [], trusted_le := Nat.zero_le _ }

/-- `identity_calculate_dna` -/
def identityCalculateDna (memoryRegion : List (BitVec 8)) : DnaSignature := identityHashFnv1a memoryRegion

/-- The local variable of an alert, and where the signature is that it refers to. -/
structure AlertFrame where
  stack : Globule
  signature : UInt64

/-- The alert of a foreign signature. Of the local variable three fields are assigned. -/
def AlertFrame.alert (frame : AlertFrame) : Globule :=
  { frame.stack with type := .white, targetOrgan := 1, payloadAddr := frame.signature }

/-- The loop of `identity_is_self`. -/
def Thymus.recognises (s : Thymus) (signature : DnaSignature) : Bool := s.trustedGenome.any (· = signature)

/-- `identity_is_self` -/
def identityIsSelf (frame : AlertFrame) (signature : DnaSignature) (s : Thymus) : Thymus × Int :=
  if s.recognises signature then (s, 1) else ({ s with bus := (unitedBusPump s.bus frame.alert).1 }, 0)

/-- `identity_trust_dna` -/
def identityTrustDna (newSignature : DnaSignature) (s : Thymus) : Thymus :=
  if h : s.trustedGenome.length < maxTrustedDna then
    { s with
      trustedGenome := s.trustedGenome ++ [newSignature]
      trusted_le := by rw [List.length_append]; exact h }
  else s

/-- `evolution_apply_mutation`; `none` is the null pointer. -/
def evolutionApplyMutation (frame : AlertFrame) (loraWeights : Option (List (BitVec 8))) (s : Thymus) :
    Thymus × Int :=
  match loraWeights with
  | none => (s, -1)
  | some weights =>
    if weights.length = 0 then (s, -1)
    else
      let sig := identityCalculateDna weights
      let (s, isSelf) := identityIsSelf frame sig s
      if isSelf ≠ 0 then (identityTrustDna sig s, 0) else (s, -1)

/-! ## Runs -/

/-- The calls after `identity_init`. -/
inductive IdentityCall where
  | trustDna (signature : DnaSignature)
  | applyMutation (frame : AlertFrame) (loraWeights : Option (List (BitVec 8)))

/-- The signature that a mutation hands to `identity_trust_dna`. -/
def mutationTrusts (loraWeights : Option (List (BitVec 8))) (s : Thymus) : List DnaSignature :=
  match loraWeights with
  | none => []
  | some weights =>
    let sig := identityCalculateDna weights
    if weights.length ≠ 0 ∧ s.recognises sig then [sig] else []

/-- The signatures that a call passes to `identity_trust_dna`. -/
def IdentityCall.passes (s : Thymus) : IdentityCall → List DnaSignature
  | trustDna signature => [signature]
  | applyMutation _ loraWeights => mutationTrusts loraWeights s

/-- The effect of a call. -/
def IdentityCall.run (s : Thymus) : IdentityCall → Thymus
  | trustDna signature => identityTrustDna signature s
  | applyMutation frame loraWeights => (evolutionApplyMutation frame loraWeights s).1

/-- The thymus with the signatures passed to `identity_trust_dna` since it was initialised, the oldest first. -/
structure Trusting where
  thymus : Thymus
  passed : List DnaSignature

/-- A call, with its signatures noted. -/
def IdentityCall.noted (st : Trusting) (call : IdentityCall) : Trusting :=
  ⟨call.run st.thymus, st.passed ++ call.passes st.thymus⟩

def TrustStep (st : Trusting) (call : IdentityCall) (st' : Trusting) : Prop := st' = call.noted st

/-- After `identity_init`. -/
def Trusting.start (s : Thymus) : Trusting := ⟨identityInit s, []⟩

/-- Fewer than 64 distinct signatures are in the list. -/
def FewIdentities (passed : List DnaSignature) : Prop := passed.toFinset.card < maxTrustedDna

instance (passed : List DnaSignature) : Decidable (FewIdentities passed) := inferInstanceAs (Decidable (_ < _))

/-- `identity_is_self` says yes. -/
def Thymus.IsSelf (s : Thymus) (signature : DnaSignature) : Prop := ∀ frame, (identityIsSelf frame signature s).2 = 1

/-- As long as fewer than 64 distinct signatures were passed, every one of them is recognised. -/
def Trusting.Recognised (st : Trusting) : Prop :=
  FewIdentities st.passed → ∀ signature ∈ st.passed, st.thymus.IsSelf signature

/-- A signature that is trusted is one of the first 64 that were passed, repetitions counted, or fewer than 64 were
passed before. -/
def TrustedInTime (st : Trusting) (call : IdentityCall) : Prop :=
  match call with
  | .trustDna signature =>
    FewIdentities (st.passed ++ [signature]) →
      st.passed.length < maxTrustedDna ∨ signature ∈ st.passed.take maxTrustedDna
  | .applyMutation _ _ => True

section

variable {s : Thymus} {st : Trusting} {signature : DnaSignature} {frame : AlertFrame}

theorem recognises_iff : s.recognises signature = true ↔ signature ∈ s.trustedGenome := by
  rw [Thymus.recognises, List.any_eq_true]
  constructor
  · rintro ⟨x, hx, heq⟩
    exact of_decide_eq_true heq ▸ hx
  · intro h
    exact ⟨signature, h, decide_eq_true rfl⟩

theorem isSelf_iff : s.IsSelf signature ↔ signature ∈ s.trustedGenome := by
  rw [← recognises_iff, Thymus.IsSelf]
  by_cases h : s.recognises signature = true
  · refine iff_of_true (fun frame => ?_) h
    rw [identityIsSelf, if_pos h]
  · refine iff_of_false (fun hall => ?_) h
    have hone := hall ⟨⟨0, .unset, 0, 0, 0, 0⟩, 0⟩
    rw [identityIsSelf, if_neg h] at hone
    exact absurd hone Int.zero_ne_one

/-- Trusting appends, as far as there is room. -/
theorem genome_trustDna (signature : DnaSignature) (s : Thymus) :
    (identityTrustDna signature s).trustedGenome = (s.trustedGenome ++ [signature]).take maxTrustedDna := by
  have hle := s.trusted_le
  rw [identityTrustDna]
  split
  · next hroom =>
    rw [List.take_of_length_le]
    rw [List.length_append, List.length_singleton]
    exact hroom
  · next hfull =>
    rw [List.take_append_of_le_length (Nat.not_lt.1 hfull), List.take_of_length_le hle]

/-- A mutation trusts its signature again if it is recognised, and does nothing to the table otherwise. -/
theorem genome_applyMutation (frame : AlertFrame) (loraWeights : Option (List (BitVec 8))) (s : Thymus) :
    (evolutionApplyMutation frame loraWeights s).1.trustedGenome =
      (s.trustedGenome ++ mutationTrusts loraWeights s).take maxTrustedDna := by
  have hsame : (s.trustedGenome ++ []).take maxTrustedDna = s.trustedGenome := by
    rw [List.append_nil, List.take_of_length_le s.trusted_le]
  cases loraWeights with
  | none => exact hsame.symm
  | some weights =>
    by_cases hsize : weights.length = 0
    · have hrun : evolutionApplyMutation frame (some weights) s = (s, -1) := if_pos hsize
      have hpasses : mutationTrusts (some weights) s = [] := if_neg fun hboth => hboth.1 hsize
      rw [hrun, hpasses, hsame]
    · rw [evolutionApplyMutation]
      dsimp only
      rw [if_neg hsize]
      by_cases hknown : s.recognises (identityCalculateDna weights) = true
      · have hself : identityIsSelf frame (identityCalculateDna weights) s = (s, 1) := if_pos hknown
        have hpasses : mutationTrusts (some weights) s = [identityCalculateDna weights] := if_pos ⟨hsize, hknown⟩
        rw [hself, hpasses]
        exact genome_trustDna _ s
      · have hforeign : identityIsSelf frame (identityCalculateDna weights) s = (_, 0) := if_neg hknown
        have hpasses : mutationTrusts (some weights) s = [] := if_neg fun hboth => hknown hboth.2
        rw [hforeign, hpasses, hsame]
        rfl

/-- What a mutation trusts is trusted already. -/
theorem mem_genome_of_mem_mutationTrusts {loraWeights : Option (List (BitVec 8))}
    (h : signature ∈ mutationTrusts loraWeights s) : signature ∈ s.trustedGenome := by
  cases loraWeights with
  | none => cases h
  | some weights =>
    rw [mutationTrusts] at h
    split at h
    · next hboth => exact List.mem_singleton.1 h ▸ recognises_iff.1 hboth.2
    · cases h

/-- The genome is the first 64 signatures that were passed. -/
def Trusting.Genome (st : Trusting) : Prop := st.thymus.trustedGenome = st.passed.take maxTrustedDna

theorem genome_noted (h : st.Genome) (call : IdentityCall) : (call.noted st).Genome := by
  have htake : ∀ new : List DnaSignature,
      (st.thymus.trustedGenome ++ new).take maxTrustedDna = (st.passed ++ new).take maxTrustedDna := by
    intro new
    rw [h, List.take_append, List.take_append, List.take_take, Nat.min_self, List.length_take]
    congr 2
    omega
  cases call with
  | trustDna signature => exact (genome_trustDna signature st.thymus).trans (htake _)
  | applyMutation frame loraWeights => exact (genome_applyMutation frame loraWeights st.thymus).trans (htake _)

theorem genome_start (s : Thymus) : (Trusting.start s).Genome := rfl

/-- Fewer signatures are fewer identities. -/
theorem FewIdentities.of_append {passed new : List DnaSignature} (h : FewIdentities (passed ++ new)) :
    FewIdentities passed := by
  rw [FewIdentities, List.toFinset_append] at h
  exact Nat.lt_of_le_of_lt (Finset.card_le_card Finset.subset_union_left) h

/-- What is among the first stays among them. -/
theorem mem_take_append {α : Type} {n : Nat} {x : α} {l : List α} (h : x ∈ l.take n) (new : List α) :
    x ∈ (l ++ new).take n := by
  rw [List.take_append]
  exact List.mem_append_left _ h

/-- One call. -/
theorem recognised_step_iff (hgenome : st.Genome) (h : st.Recognised) (call : IdentityCall) :
    (call.noted st).Recognised ↔ TrustedInTime st call := by
  have hgenome' := genome_noted hgenome call
  rw [Trusting.Genome] at hgenome hgenome'
  simp only [Trusting.Recognised, isSelf_iff, hgenome] at h
  simp only [Trusting.Recognised, isSelf_iff, hgenome']
  cases call with
  | trustDna signature =>
    change (FewIdentities (st.passed ++ [signature]) → ∀ x ∈ st.passed ++ [signature],
      x ∈ (st.passed ++ [signature]).take maxTrustedDna) ↔ (FewIdentities (st.passed ++ [signature]) → _)
    refine imp_congr_right fun hfew => ⟨fun hall => ?_, fun hroom x hx => ?_⟩
    · have hin := hall signature (List.mem_append_right _ List.mem_cons_self)
      rcases Nat.lt_or_ge st.passed.length maxTrustedDna with hlt | hge
      · exact .inl hlt
      · rw [List.take_append_of_le_length hge] at hin
        exact .inr hin
    · have hkept := h hfew.of_append
      rcases List.mem_append.1 hx with hx | hx
      · exact mem_take_append (hkept x hx) _
      · obtain rfl := List.mem_singleton.1 hx
        rcases hroom with hlt | hin
        · rw [List.take_of_length_le (by rw [List.length_append]; exact hlt)]
          exact List.mem_append_right _ List.mem_cons_self
        · exact mem_take_append hin _
  | applyMutation frame loraWeights =>
    refine iff_of_true (fun hfew x hx => ?_) trivial
    rcases List.mem_append.1 hx with hx | hx
    · exact mem_take_append (h hfew.of_append x hx) _
    · have hin := mem_genome_of_mem_mutationTrusts hx
      rw [hgenome] at hin
      exact mem_take_append hin _

end

/-- In every run after `identity_init`, every signature that was trusted is recognised in every state in which fewer
than 64 distinct ones have been, if and only if every one that is trusted comes in time. -/
theorem trusted_recognised_iff (s : Thymus) {tr : List (IdentityCall × Trusting)}
    (h : Exec TrustStep (.start s) tr) :
    AllStates Trusting.Recognised (.start s) tr ↔ AllSteps TrustedInTime (.start s) tr := by
  refine h.allStates_iff_allSteps (genome_start s) nofun ?_ ?_
  · rintro st call _ hgenome rfl
    exact genome_noted hgenome call
  · rintro st call _ hgenome hrecognised rfl
    exact recognised_step_iff hgenome hrecognised call

/-! ### One trait, over and over -/

/-- The execution of a list of calls from the static initialisers. -/
def trustRun (calls : List IdentityCall) : List (IdentityCall × Trusting) :=
  driven IdentityCall.noted (.start ⟨[], Nat.zero_le _, .boot⟩) calls

theorem exec_trustRun (calls : List IdentityCall) :
    Exec TrustStep (.start ⟨[], Nat.zero_le _, .boot⟩) (trustRun calls) :=
  @exec_driven _ _ TrustStep IdentityCall.noted (fun _ _ => rfl) _ calls

instance (st : Trusting) (call : IdentityCall) : Decidable (TrustedInTime st call) :=
  match call with
  | .trustDna _ => inferInstanceAs (Decidable (_ → _))
  | .applyMutation _ _ => isTrue trivial

/-- A trait is trusted and applied 62 times, and another one is trusted in time. -/
def timelyTrait : List IdentityCall :=
  .trustDna (identityCalculateDna [1]) ::
    List.replicate 62 (.applyMutation ⟨⟨0, .unset, 0, 0, 0, 0⟩, 0⟩ (some [1])) ++ [.trustDna (.replicate 32 7)]

theorem trusted_recognised_timely :
    AllStates Trusting.Recognised (.start ⟨[], Nat.zero_le _, .boot⟩) (trustRun timelyTrait) :=
  (trusted_recognised_iff _ (exec_trustRun _)).2 (by decide +kernel)

/-- A trait is trusted and applied 63 times, and then another one is trusted. -/
def repeatedTrait : List IdentityCall :=
  .trustDna (identityCalculateDna [1]) ::
    List.replicate 63 (.applyMutation ⟨⟨0, .unset, 0, 0, 0, 0⟩, 0⟩ (some [1])) ++ [.trustDna (.replicate 32 7)]

theorem exists_trusted_not_recognised : ∃ (s : Thymus) (tr : List (IdentityCall × Trusting)),
    Exec TrustStep (.start s) tr ∧ ¬ AllStates Trusting.Recognised (.start s) tr := by
  refine ⟨_, trustRun repeatedTrait, exec_trustRun _, fun hall => ?_⟩
  have hend := hall.final
  rw [trustRun, final_driven] at hend
  have hfew : FewIdentities (repeatedTrait.foldl IdentityCall.noted
      (.start ⟨[], Nat.zero_le _, .boot⟩)).passed := by decide +kernel
  have hpassed : .replicate 32 7 ∈ (repeatedTrait.foldl IdentityCall.noted
      (.start ⟨[], Nat.zero_le _, .boot⟩)).passed := by decide +kernel
  have hforeign : .replicate 32 7 ∉ (repeatedTrait.foldl IdentityCall.noted
      (.start ⟨[], Nat.zero_le _, .boot⟩)).thymus.trustedGenome := by decide +kernel
  exact hforeign (isSelf_iff.1 (hend hfew _ hpassed))

end OperatingOrganism.Identity

import OperatingOrganism.Library.Execution
import Mathlib.Data.List.FinRange
import Mathlib.Logic.Function.Basic

/-!
# The guardian

`vital_guardian.rs` keeps a profile of each core: a history of its jitter and a count of anomalies, which an
anomalous pulse raises and a calm one lowers. The state of the guardian is one global flag, and every core
stores its own verdict there. So the flag says what the core thinks that stored last: it reflects the sickest
core if and only if no core stores `HEALTHY` while another one has more than ten anomalies, or `STRESSED` over a
`CRITICAL` that stands for a core with more than a hundred (`reflectsSickest_iff`).

Arithmetic is that of a release build, which wraps around.
-/

set_option autoImplicit false

namespace OperatingOrganism.Vital

open OperatingOrganism.Execution

/-- `MAX_CORES` -/
def maxCores : Nat := 64

/-- `JITTER_HISTORY_SIZE` -/
def jitterHistorySize : Nat := 16

/-- `ANOMALY_THRESHOLD` -/
def anomalyThreshold : UInt64 := 50000

/-- The values of `GUARDIAN_STATE`. -/
inductive GuardianState where
  | healthy | stressed | critical
  deriving DecidableEq, Repr

/-- The stored byte. -/
def GuardianState.code : GuardianState → Nat
  | .healthy => 0
  | .stressed => 1
  | .critical => 2

/-- `CoreHealthProfile` -/
structure CoreHealthProfile where
  coreId : UInt64
  pulseCount : UInt64
  jitterHistory : Fin jitterHistorySize → UInt64
  jitterIndex : Nat
  jitterMean : UInt64
  jitterVariance : UInt64
  anomalyCount : UInt64
  isAlive : Bool
  lastSeenPulse : UInt64

/-- `CoreHealthProfile::new` -/
def CoreHealthProfile.new : CoreHealthProfile := ⟨0xFFFF, 0, fun _ => 0, 0, 0, 0, 0, false, 0⟩

/-- `u64::abs_diff` as the code writes it. -/
def absDiff (x mean : UInt64) : UInt64 := if x > mean then x - mean else mean - x

/-- The sum of a loop over the history. -/
def sumHistory (f : Fin jitterHistorySize → UInt64) : UInt64 :=
  (List.finRange jitterHistorySize).foldl (fun sum i => sum + f i) 0

/-- `update_jitter`; the index is always below the size of the history. -/
def CoreHealthProfile.updateJitter (p : CoreHealthProfile) (jitter : UInt64) : CoreHealthProfile :=
  let history := fun i => if i.val = p.jitterIndex then jitter else p.jitterHistory i
  let mean := sumHistory history / .ofNat jitterHistorySize
  let varSum := sumHistory fun i => absDiff (history i) mean * absDiff (history i) mean
  { p with
    jitterHistory := history
    jitterIndex := (p.jitterIndex + 1) % jitterHistorySize
    jitterMean := mean
    jitterVariance := varSum / .ofNat jitterHistorySize }

/-- `is_anomalous` -/
def CoreHealthProfile.IsAnomalous (p : CoreHealthProfile) : Prop :=
  p.jitterVariance > anomalyThreshold * anomalyThreshold

instance (p : CoreHealthProfile) : Decidable p.IsAnomalous := inferInstanceAs (Decidable (_ > _))

/-- The profile after a pulse was noted in it. -/
def CoreHealthProfile.note (p : CoreHealthProfile) (pulseCount jitter : UInt64) : CoreHealthProfile :=
  { p with pulseCount := pulseCount, lastSeenPulse := pulseCount }.updateJitter jitter

/-- The static variables of `vital_guardian.rs`. -/
structure Guardian where
  coreProfiles : Fin maxCores → CoreHealthProfile
  registeredCores : Nat
  bootCodeChecksum : UInt32
  globalVitality : UInt64
  totalAnomalies : UInt64
  guardianState : GuardianState

/-- The static initialisers. -/
def Guardian.boot : Guardian := ⟨fun _ => .new, 0, 0, 100, 0, .healthy⟩

/-! ## `vital_rust_guardian` -/

/-- The profile of a core that is registered. -/
def Guardian.find (g : Guardian) (coreId : UInt64) : Option (Fin maxCores) :=
  (List.finRange maxCores).find? fun i =>
    i.val < g.registeredCores ∧ (g.coreProfiles i).coreId = coreId

/-- The profile of a core, after it was registered if it is new and there is room; `none` if there is none. -/
def Guardian.enrol (g : Guardian) (coreId : UInt64) : Guardian × Option (Fin maxCores) :=
  match g.find coreId with
  | some i => (g, some i)
  | none =>
    if h : g.registeredCores < maxCores then
      let slot : Fin maxCores := ⟨g.registeredCores, h⟩
      ({ g with
          coreProfiles := Function.update g.coreProfiles slot
            { g.coreProfiles slot with coreId := coreId, isAlive := true }
          registeredCores := g.registeredCores + 1 },
        some slot)
    else (g, none)

/-- The anomalies of a profile after a pulse was noted. -/
def CoreHealthProfile.nextCount (p : CoreHealthProfile) : UInt64 :=
  if p.IsAnomalous then p.anomalyCount + 1
  else if p.anomalyCount > 0 then p.anomalyCount - 1
  else p.anomalyCount

/-- The state that a pulse of this profile leaves. -/
def CoreHealthProfile.verdict (p : CoreHealthProfile) (state : GuardianState) : GuardianState :=
  if p.IsAnomalous then
    if p.nextCount > 100 then .critical else if p.nextCount > 10 then .stressed else state
  else if p.nextCount = 0 then .healthy else state

/-- What a pulse does to a profile and to the counters. -/
def Guardian.observe (g : Guardian) (i : Fin maxCores) (pulseCount jitter : UInt64) : Guardian :=
  let p := (g.coreProfiles i).note pulseCount jitter
  { g with
    coreProfiles := Function.update g.coreProfiles i { p with anomalyCount := p.nextCount }
    totalAnomalies := if p.IsAnomalous then g.totalAnomalies + 1 else g.totalAnomalies
    guardianState := p.verdict g.guardianState }

/-- `compute_simple_checksum` -/
def computeSimpleChecksum : UInt32 := 0xCAFEBABE

/-- `check_code_integrity` -/
def checkCodeIntegrity (g : Guardian) : Guardian :=
  if g.bootCodeChecksum = 0 then { g with bootCodeChecksum := computeSimpleChecksum }
  else if computeSimpleChecksum ≠ g.bootCodeChecksum then
    { g with totalAnomalies := g.totalAnomalies + 1000, guardianState := .critical }
  else g

/-- A call of `vital_rust_guardian`. -/
structure CorePulse where
  pulseCount : UInt64
  jitter : UInt64
  coreId : UInt64
  deriving DecidableEq, Repr

/-- The part of a call that is about the core. -/
def Guardian.watch (g : Guardian) (a : CorePulse) : Guardian :=
  match g.enrol a.coreId with
  | (g, some i) => g.observe i a.pulseCount a.jitter
  | (g, none) => g

/-- `GLOBAL_VITALITY.fetch_add(1, ..)` -/
def Guardian.live (g : Guardian) : Guardian := { g with globalVitality := g.globalVitality + 1 }

/-- `vital_rust_guardian` -/
def vitalRustGuardian (g : Guardian) (a : CorePulse) : Guardian :=
  let g := g.live.watch a
  if a.pulseCount % 10000000 = 0 then checkCodeIntegrity g else g

/-- `get_guardian_state` -/
def getGuardianState (g : Guardian) : GuardianState := g.guardianState

/-- A call as a step. -/
def GuardianStep (g : Guardian) (a : CorePulse) (g' : Guardian) : Prop := vitalRustGuardian g a = g'

/-! ## What the calls keep -/

/-- A registered core. -/
def Guardian.Registered (g : Guardian) (i : Fin maxCores) : Prop := i.val < g.registeredCores

/-- The registered cores have different identifiers, the other profiles are new, and the checksum is unset or
right. -/
structure Guardian.Wf (g : Guardian) : Prop where
  distinct : ∀ i j, g.Registered i → g.Registered j →
    (g.coreProfiles i).coreId = (g.coreProfiles j).coreId → i = j
  new : ∀ i, ¬ g.Registered i → g.coreProfiles i = .new
  checksum : g.bootCodeChecksum = 0 ∨ g.bootCodeChecksum = computeSimpleChecksum

theorem boot_guardian_wf : Guardian.boot.Wf where
  distinct _ _ hi _ _ := absurd hi (Nat.not_lt_zero _)
  new _ _ := rfl
  checksum := .inl rfl

section

variable {g : Guardian} {a : CorePulse}

theorem Guardian.find_eq_some {coreId : UInt64} {i : Fin maxCores} (h : g.find coreId = some i) :
    g.Registered i ∧ (g.coreProfiles i).coreId = coreId := by
  have := List.find?_some h
  simpa [Guardian.Registered] using this

theorem Guardian.find_eq_none {coreId : UInt64} (h : g.find coreId = none) (i : Fin maxCores)
    (hi : g.Registered i) : (g.coreProfiles i).coreId ≠ coreId := by
  have := List.find?_eq_none.1 h i (List.mem_finRange i)
  simp only [decide_eq_true_eq, not_and] at this
  exact this hi

/-- What enrolling does: the profile is that of the core, and the others are as before. -/
structure Enrolled (g : Guardian) (coreId : UInt64) (g' : Guardian) (i : Fin maxCores) : Prop where
  registered : g'.Registered i
  coreId_eq : (g'.coreProfiles i).coreId = coreId
  others : ∀ j, j ≠ i → g'.coreProfiles j = g.coreProfiles j
  others_registered : ∀ j, j ≠ i → (g'.Registered j ↔ g.Registered j)
  known : g.Registered i → g'.coreProfiles i = g.coreProfiles i
  anomalyCount : (g'.coreProfiles i).anomalyCount = (g.coreProfiles i).anomalyCount
  fresh : ¬ g.Registered i → ∀ j, g.Registered j → (g.coreProfiles j).coreId ≠ coreId
  state : g'.guardianState = g.guardianState
  checksum : g'.bootCodeChecksum = g.bootCodeChecksum

/-- The core has a profile afterwards, or the table is full. -/
theorem enrol_cases (g : Guardian) (coreId : UInt64) :
    (∃ g' i, g.enrol coreId = (g', some i) ∧ Enrolled g coreId g' i) ∨ g.enrol coreId = (g, none) := by
  rw [Guardian.enrol]
  cases hfind : g.find coreId with
  | some i =>
    obtain ⟨hreg, hid⟩ := Guardian.find_eq_some hfind
    refine .inl ⟨g, i, rfl, ?_⟩
    exact
      { registered := hreg
        coreId_eq := hid
        others := fun _ _ => rfl
        others_registered := fun _ _ => Iff.rfl
        known := fun _ => rfl
        anomalyCount := rfl
        fresh := fun h => absurd hreg h
        state := rfl
        checksum := rfl }
  | none =>
    dsimp only
    split
    · next hroom =>
      refine .inl ⟨_, ⟨g.registeredCores, hroom⟩, rfl, ?_⟩
      exact
        { registered := Nat.lt_succ_self _
          coreId_eq := by simp
          others := fun j hj => Function.update_of_ne hj ..
          others_registered := by
            intro j hj
            have hne : j.val ≠ g.registeredCores := fun h => hj (Fin.ext h)
            exact ⟨fun h => Nat.lt_of_le_of_ne (Nat.le_of_lt_succ h) hne, fun h => Nat.lt_succ_of_lt h⟩
          known := fun h => absurd h (Nat.lt_irrefl _)
          anomalyCount := by simp
          fresh := fun _ j hj => Guardian.find_eq_none hfind j hj
          state := rfl
          checksum := rfl }
    · exact .inr rfl

/-- The other registered cores have other identifiers. -/
theorem Enrolled.coreId_ne {coreId : UInt64} {g' : Guardian} {i : Fin maxCores} (h : Enrolled g coreId g' i)
    (hwf : g.Wf) {j : Fin maxCores} (hj : g.Registered j) (hne : j ≠ i) :
    (g.coreProfiles j).coreId ≠ coreId := by
  by_cases hi : g.Registered i
  · intro heq
    have hid : (g.coreProfiles i).coreId = coreId := h.known hi ▸ h.coreId_eq
    exact hne (hwf.distinct j i hj hi (heq.trans hid.symm))
  · exact h.fresh hi j hj

theorem enrol_live (g : Guardian) (coreId : UInt64) :
    g.live.enrol coreId = ((g.enrol coreId).1.live, (g.enrol coreId).2) := by
  rw [Guardian.enrol, Guardian.enrol]
  have hfind : g.live.find coreId = g.find coreId := rfl
  rw [hfind]
  cases g.find coreId with
  | some i => rfl
  | none =>
    by_cases hroom : g.registeredCores < maxCores
    · have hroom' : g.live.registeredCores < maxCores := hroom
      simp only [hroom, hroom', dif_pos]
      rfl
    · have hroom' : ¬ g.live.registeredCores < maxCores := hroom
      simp only [hroom, hroom', dif_neg, not_false_eq_true]

/-- The watch is an observation of the enrolled core, or nothing. -/
theorem watch_live_cases (g : Guardian) (a : CorePulse) :
    (∃ g₁ i, g.enrol a.coreId = (g₁, some i) ∧ Enrolled g a.coreId g₁ i ∧
        g.live.watch a = g₁.live.observe i a.pulseCount a.jitter) ∨
      g.enrol a.coreId = (g, none) ∧ g.live.watch a = g.live := by
  have hwatch : g.live.watch a = match g.live.enrol a.coreId with
      | (g, some i) => g.observe i a.pulseCount a.jitter
      | (g, none) => g := rfl
  rw [enrol_live] at hwatch
  rcases enrol_cases g a.coreId with ⟨g₁, i, henrol, h⟩ | henrol
  · rw [henrol] at hwatch
    exact .inl ⟨g₁, i, henrol, h, hwatch⟩
  · rw [henrol] at hwatch
    exact .inr ⟨henrol, hwatch⟩

/-- The check of the code finds nothing, because the checksum is a constant. -/
theorem checkCodeIntegrity_eq (h : g.bootCodeChecksum = 0 ∨ g.bootCodeChecksum = computeSimpleChecksum) :
    checkCodeIntegrity g = { g with bootCodeChecksum := computeSimpleChecksum } := by
  rw [checkCodeIntegrity]
  by_cases hzero : g.bootCodeChecksum = 0
  · rw [if_pos hzero]
  · have hsame := h.resolve_left hzero
    rw [if_neg hzero, if_neg fun hne => hne hsame.symm, ← hsame]

/-- A call is its watch, but for the checksum. -/
theorem vitalRustGuardian_eq (hwf : g.Wf) (a : CorePulse) :
    ∃ checksum, (checksum = 0 ∨ checksum = computeSimpleChecksum) ∧
      vitalRustGuardian g a = { g.live.watch a with bootCodeChecksum := checksum } := by
  have hchecksum : (g.live.watch a).bootCodeChecksum = 0 ∨
      (g.live.watch a).bootCodeChecksum = computeSimpleChecksum := by
    rcases watch_live_cases g a with ⟨g₁, i, -, h, e⟩ | ⟨-, e⟩
    · rw [e]
      exact h.checksum ▸ hwf.checksum
    · rw [e]
      exact hwf.checksum
  rw [vitalRustGuardian]
  dsimp only
  split
  · exact ⟨_, .inr rfl, checkCodeIntegrity_eq hchecksum⟩
  · exact ⟨_, hchecksum, rfl⟩

/-- The table keeps its form. -/
theorem Guardian.Wf.step (hwf : g.Wf) (a : CorePulse) : (vitalRustGuardian g a).Wf := by
  obtain ⟨checksum, hchecksum, e⟩ := vitalRustGuardian_eq hwf a
  rw [e]
  rcases watch_live_cases g a with ⟨g₁, i, -, h, ew⟩ | ⟨-, ew⟩
  · rw [ew]
    have hprofile : ∀ j, ((g₁.live.observe i a.pulseCount a.jitter).coreProfiles j).coreId =
        (g₁.coreProfiles j).coreId := by
      intro j
      by_cases hj : j = i
      · subst hj
        simp [Guardian.observe, CoreHealthProfile.note, CoreHealthProfile.updateJitter, Guardian.live]
      · simp [Guardian.observe, hj, Guardian.live]
    have hother : ∀ j, j ≠ i → g₁.Registered j → (g₁.coreProfiles j).coreId ≠ a.coreId := by
      intro j hj hreg
      rw [h.others j hj]
      exact h.coreId_ne hwf ((h.others_registered j hj).1 hreg) hj
    refine ⟨?_, ?_, hchecksum⟩
    · intro j k hj hk heq
      change ((g₁.live.observe i a.pulseCount a.jitter).coreProfiles j).coreId =
        ((g₁.live.observe i a.pulseCount a.jitter).coreProfiles k).coreId at heq
      rw [hprofile, hprofile] at heq
      by_cases hji : j = i
      · by_cases hki : k = i
        · rw [hji, hki]
        · subst hji
          exact absurd (heq.symm.trans h.coreId_eq) (hother k hki hk)
      · by_cases hki : k = i
        · subst hki
          exact absurd (heq.trans h.coreId_eq) (hother j hji hj)
        · rw [h.others j hji, h.others k hki] at heq
          exact hwf.distinct j k ((h.others_registered j hji).1 hj) ((h.others_registered k hki).1 hk) heq
    · intro j hj
      have hji : j ≠ i := by
        rintro rfl
        exact hj h.registered
      have hsame : (g₁.live.observe i a.pulseCount a.jitter).coreProfiles j = g₁.coreProfiles j :=
        Function.update_of_ne hji ..
      exact hsame.trans ((h.others j hji).trans (hwf.new j fun hreg => hj ((h.others_registered j hji).2 hreg)))
  · rw [ew]
    exact ⟨hwf.distinct, hwf.new, hchecksum⟩

end

/-! ## The flag and the sickest core -/

/-- When the guardian is healthy, no registered core has more than ten anomalies. -/
def Guardian.HealthyHolds (g : Guardian) : Prop :=
  getGuardianState g = .healthy → ∀ j, g.Registered j → (g.coreProfiles j).anomalyCount ≤ 10

/-- No other registered core has more than `n` anomalies. -/
def Guardian.OthersAtMost (g : Guardian) (coreId n : UInt64) : Prop :=
  ∀ j, g.Registered j → (g.coreProfiles j).coreId ≠ coreId → (g.coreProfiles j).anomalyCount ≤ n

/-- The call does not lower the state while another core has more than a hundred anomalies. -/
def NoFalseRelief (g : Guardian) (a : CorePulse) : Prop :=
  ¬ g.OthersAtMost a.coreId 100 →
    (getGuardianState g).code ≤ (getGuardianState (vitalRustGuardian g a)).code

/-- A call that finds its core calm with at most one anomaly left speaks for cores with at most ten; one that
finds it anomalous with ten to ninety-nine before, while the state is `CRITICAL`, for cores with at most a
hundred. -/
def SpeaksForAll (g : Guardian) (a : CorePulse) : Prop :=
  ∀ i, (g.enrol a.coreId).2 = some i →
    let p := ((g.enrol a.coreId).1.coreProfiles i).note a.pulseCount a.jitter
    (¬ p.IsAnomalous → p.anomalyCount ≤ 1 → g.OthersAtMost a.coreId 10) ∧
    (p.IsAnomalous → 10 ≤ p.anomalyCount → p.anomalyCount < 100 → g.guardianState = .critical →
      g.OthersAtMost a.coreId 100)

section

variable {p : CoreHealthProfile} {state : GuardianState}

/-- The verdict on a calm pulse. -/
theorem calm_cases (h : ¬ p.IsAnomalous) (state : GuardianState) :
    (p.anomalyCount ≤ 1 ∧ p.nextCount = 0 ∧ p.verdict state = .healthy) ∨
      (¬ p.anomalyCount ≤ 1 ∧ p.nextCount ≤ p.anomalyCount ∧ p.verdict state = state) := by
  rw [CoreHealthProfile.verdict, if_neg h, CoreHealthProfile.nextCount, if_neg h]
  have hone : (1 : UInt64).toNat = 1 := rfl
  by_cases hpos : p.anomalyCount > 0
  · rw [if_pos hpos]
    have hpos' : 0 < p.anomalyCount.toNat := UInt64.lt_iff_toNat_lt.1 hpos
    have hle : (1 : UInt64) ≤ p.anomalyCount := UInt64.le_iff_toNat_le.2 hpos'
    have hsub := UInt64.toNat_sub_of_le _ _ hle
    have hzero : p.anomalyCount - 1 = 0 ↔ p.anomalyCount ≤ 1 := by
      rw [← UInt64.toNat_inj, hsub, UInt64.le_iff_toNat_le, hone, UInt64.toNat_zero]
      exact Nat.sub_eq_zero_iff_le
    by_cases hlast : p.anomalyCount ≤ 1
    · rw [if_pos (hzero.2 hlast)]
      exact .inl ⟨hlast, hzero.2 hlast, rfl⟩
    · rw [if_neg fun hz => hlast (hzero.1 hz)]
      exact .inr ⟨hlast, UInt64.sub_le hle, rfl⟩
  · rw [if_neg hpos]
    have hzero : p.anomalyCount = 0 := UInt64.le_antisymm (UInt64.not_lt.1 hpos) UInt64.zero_le
    rw [if_pos hzero]
    exact .inl ⟨UInt64.le_trans (UInt64.not_lt.1 hpos) UInt64.zero_le, hzero, rfl⟩

/-- The verdict on an anomalous pulse. -/
theorem anomalous_cases (h : p.IsAnomalous) (state : GuardianState) :
    (p.nextCount ≤ 10 ∧ ¬ (10 ≤ p.anomalyCount ∧ p.anomalyCount < 100) ∧ p.verdict state = state) ∨
      (10 ≤ p.anomalyCount ∧ p.anomalyCount < 100 ∧ p.verdict state = .stressed) ∨
      (¬ p.anomalyCount < 100 ∧ p.verdict state = .critical) := by
  have hcount : p.nextCount = p.anomalyCount + 1 := if_pos h
  have hnat : p.nextCount.toNat = (p.anomalyCount.toNat + 1) % 2 ^ 64 := by
    rw [hcount, UInt64.toNat_add]
    rfl
  have hlt := p.anomalyCount.toNat_lt
  have hten : (10 : UInt64).toNat = 10 := rfl
  have hhundred : (100 : UInt64).toNat = 100 := rfl
  rw [CoreHealthProfile.verdict, if_pos h]
  by_cases hcritical : p.nextCount > 100
  · have hgt := UInt64.lt_iff_toNat_lt.1 hcritical
    rw [if_pos hcritical]
    simp only [UInt64.le_iff_toNat_le, UInt64.lt_iff_toNat_lt]
    exact .inr (.inr ⟨by omega, trivial⟩)
  · have hle := UInt64.le_iff_toNat_le.1 (UInt64.not_lt.1 hcritical)
    rw [if_neg hcritical]
    by_cases hstressed : p.nextCount > 10
    · have hgt := UInt64.lt_iff_toNat_lt.1 hstressed
      rw [if_pos hstressed]
      simp only [UInt64.le_iff_toNat_le, UInt64.lt_iff_toNat_lt]
      exact .inr (.inl ⟨by omega, by omega, trivial⟩)
    · have hle' := UInt64.le_iff_toNat_le.1 (UInt64.not_lt.1 hstressed)
      rw [if_neg hstressed]
      simp only [UInt64.le_iff_toNat_le, UInt64.lt_iff_toNat_lt]
      exact .inl ⟨by omega, by omega, trivial⟩

end

section

variable {g : Guardian} {a : CorePulse}

/-- What the watch of an enrolled core leaves, in terms of the others: the flag is right if and only if a
`HEALTHY` one stands for few anomalies of the core and of the others. -/
theorem healthyHolds_observe_iff (hwf : g.Wf) {g₁ : Guardian} {i : Fin maxCores}
    (h : Enrolled g a.coreId g₁ i) {p : CoreHealthProfile}
    (hp : (g₁.coreProfiles i).note a.pulseCount a.jitter = p) (checksum : UInt32) :
    Guardian.HealthyHolds
        { g₁.live.observe i a.pulseCount a.jitter with bootCodeChecksum := checksum } ↔
      (p.verdict g.guardianState = .healthy → p.nextCount ≤ 10 ∧ g.OthersAtMost a.coreId 10) := by
  subst hp
  rw [← h.state]
  refine imp_congr_right fun _ => ⟨fun hall => ⟨?_, ?_⟩, ?_⟩
  · have hi := hall i h.registered
    simpa [Guardian.observe, Guardian.live] using hi
  · intro j hj hid
    have hji : j ≠ i := by
      rintro rfl
      exact hid (h.known hj ▸ h.coreId_eq)
    have hle := hall j ((h.others_registered j hji).2 hj)
    simpa [Guardian.observe, Guardian.live, hji, h.others j hji] using hle
  · rintro ⟨hself, hothers⟩ j hj
    by_cases hji : j = i
    · subst hji
      simpa [Guardian.observe, Guardian.live] using hself
    · have hreg := (h.others_registered j hji).1 hj
      have hle := hothers j hreg (h.coreId_ne hwf hreg hji)
      simpa [Guardian.observe, Guardian.live, hji, h.others j hji] using hle

/-- The count of an enrolled core while the flag is `HEALTHY` and right. -/
theorem Enrolled.count_le {coreId : UInt64} {g₁ : Guardian} {i : Fin maxCores}
    (h : Enrolled g coreId g₁ i) (hwf : g.Wf) (hb : g.HealthyHolds) (hhealthy : g.guardianState = .healthy) :
    (g₁.coreProfiles i).anomalyCount ≤ 10 := by
  rw [h.anomalyCount]
  by_cases hi : g.Registered i
  · exact hb hhealthy i hi
  · rw [hwf.new i hi]
    decide

/-- When a verdict is fair to the others, of whom `few` says that they have at most ten anomalies, and `many`
that they have at most a hundred. -/
theorem verdict_iff {p : CoreHealthProfile} {state : GuardianState} {few many : Prop} (hfew : few → many)
    (hhealthy : state = .healthy → p.anomalyCount ≤ 10 ∧ few) :
    ((p.verdict state = .healthy → p.nextCount ≤ 10 ∧ few) ∧
        (¬ many → state.code ≤ (p.verdict state).code)) ↔
      ((¬ p.IsAnomalous → p.anomalyCount ≤ 1 → few) ∧
        (p.IsAnomalous → 10 ≤ p.anomalyCount → p.anomalyCount < 100 → state = .critical → many)) := by
  have hsame : p.nextCount ≤ 10 ∨ p.nextCount ≤ p.anomalyCount → p.verdict state = state →
      (p.verdict state = .healthy → p.nextCount ≤ 10 ∧ few) ∧
        (¬ many → state.code ≤ (p.verdict state).code) := by
    rintro hle hv
    rw [hv]
    refine ⟨fun hs => ⟨?_, (hhealthy hs).2⟩, fun _ => Nat.le_refl _⟩
    exact hle.elim id fun hle => UInt64.le_trans hle (hhealthy hs).1
  by_cases hanomalous : p.IsAnomalous
  · rcases anomalous_cases hanomalous state with ⟨hle, hcount, hv⟩ | ⟨h₁, h₂, hv⟩ | ⟨hcount, hv⟩
    · exact iff_of_true (hsame (.inl hle) hv)
        ⟨fun h => absurd hanomalous h, fun _ h₁ h₂ => absurd ⟨h₁, h₂⟩ hcount⟩
    · rw [hv]
      constructor
      · rintro ⟨-, hmany⟩
        refine ⟨fun h => absurd hanomalous h, ?_⟩
        rintro - - - rfl
        by_contra hno
        exact absurd (hmany hno) (by decide)
      · rintro ⟨-, hmany⟩
        refine ⟨fun h => (by cases h), fun hno => ?_⟩
        cases state with
        | healthy => exact Nat.zero_le _
        | stressed => exact Nat.le_refl _
        | critical => exact absurd (hmany hanomalous h₁ h₂ rfl) hno
    · rw [hv]
      refine iff_of_true ⟨fun h => (by cases h), fun _ => ?_⟩
        ⟨fun h => absurd hanomalous h, fun _ _ h => absurd h hcount⟩
      cases state <;> decide
  · rcases calm_cases hanomalous state with ⟨hlast, hzero, hv⟩ | ⟨hlast, hle, hv⟩
    · rw [hv, hzero]
      constructor
      · rintro ⟨h, -⟩
        exact ⟨fun _ _ => (h rfl).2, fun h => absurd h hanomalous⟩
      · rintro ⟨h, -⟩
        exact ⟨fun _ => ⟨by decide, h hanomalous hlast⟩, fun hno => absurd (hfew (h hanomalous hlast)) hno⟩
    · exact iff_of_true (hsame (.inr hle) hv)
        ⟨fun _ h => absurd h hlast, fun h => absurd h hanomalous⟩

/-- A call keeps the flag right and gives no false relief if and only if it speaks for all. -/
theorem speaksForAll_iff (hwf : g.Wf) (hb : g.HealthyHolds) :
    (vitalRustGuardian g a).HealthyHolds ∧ NoFalseRelief g a ↔ SpeaksForAll g a := by
  obtain ⟨checksum, -, e⟩ := vitalRustGuardian_eq hwf a
  rw [NoFalseRelief, e]
  rcases watch_live_cases g a with ⟨g₁, i, henrol, h, ew⟩ | ⟨henrol, ew⟩
  · obtain ⟨p, hp⟩ : ∃ p, (g₁.coreProfiles i).note a.pulseCount a.jitter = p := ⟨_, rfl⟩
    have hstate : (g₁.live.observe i a.pulseCount a.jitter).guardianState = p.verdict g.guardianState := by
      rw [← hp, ← h.state]
      rfl
    have hcond : SpeaksForAll g a ↔
        (¬ p.IsAnomalous → p.anomalyCount ≤ 1 → g.OthersAtMost a.coreId 10) ∧
          (p.IsAnomalous → 10 ≤ p.anomalyCount → p.anomalyCount < 100 → g.guardianState = .critical →
            g.OthersAtMost a.coreId 100) := by
      rw [SpeaksForAll, henrol, ← hp]
      exact ⟨fun hall => hall i rfl, fun hi j hj => by cases hj; exact hi⟩
    have hcount : p.anomalyCount = (g₁.coreProfiles i).anomalyCount := by
      rw [← hp]
      rfl
    rw [ew, healthyHolds_observe_iff hwf h hp, hcond]
    change (_ ∧ (_ → _ ≤ (g₁.live.observe i a.pulseCount a.jitter).guardianState.code)) ↔ _
    rw [hstate]
    refine verdict_iff (fun hfew j hj hid => UInt64.le_trans (hfew j hj hid) (by decide)) fun hs => ⟨?_, ?_⟩
    · rw [hcount]
      exact h.count_le hwf hb hs
    · exact fun j hj _ => hb hs j hj
  · rw [ew]
    refine iff_of_true ⟨hb, fun _ => Nat.le_refl _⟩ ?_
    intro i hi
    rw [henrol] at hi
    cases hi

end

/-- In every run of calls over any cores, the flag reflects the sickest core (a `HEALTHY` one stands for at most
ten anomalies of each registered core, and no call lowers it while another core has more than a hundred) if and
only if every call speaks for all. -/
theorem reflectsSickest_iff {tr : List (CorePulse × Guardian)} (h : Exec GuardianStep .boot tr) :
    AllStates Guardian.HealthyHolds .boot tr ∧ AllSteps NoFalseRelief .boot tr ↔
      AllSteps SpeaksForAll .boot tr := by
  refine h.allStates_and_allSteps_iff (I := Guardian.Wf) boot_guardian_wf ?_ ?_ ?_
  · intro _ j hj
    exact absurd hj (Nat.not_lt_zero _)
  · rintro g a _ hwf rfl
    exact hwf.step a
  · rintro g a _ hwf hb rfl
    exact speaksForAll_iff hwf hb

/-! ### Two cores -/

instance (g : Guardian) (i : Fin maxCores) : Decidable (g.Registered i) := inferInstanceAs (Decidable (_ < _))

/-- The execution of a list of calls. -/
def watchRun (calls : List CorePulse) : List (CorePulse × Guardian) := driven vitalRustGuardian .boot calls

theorem exec_watchRun (calls : List CorePulse) : Exec GuardianStep .boot (watchRun calls) :=
  exec_driven (fun _ _ => rfl) Guardian.boot calls

instance (g : Guardian) (coreId n : UInt64) : Decidable (g.OthersAtMost coreId n) :=
  inferInstanceAs (Decidable (∀ _, _))

instance (g : Guardian) (a : CorePulse) : Decidable (SpeaksForAll g a) := inferInstanceAs (Decidable (∀ _, _))

/-- Twelve anomalous pulses of one core and one of another, which nobody calls healthy. -/
def sickCores : List CorePulse := ⟨1, 10000000, 0⟩ :: (List.replicate 11 ⟨2, 0, 0⟩ ++ [⟨3, 10000000, 1⟩])

theorem sickCores_reflectsSickest :
    AllStates Guardian.HealthyHolds .boot (watchRun sickCores) ∧
      AllSteps NoFalseRelief .boot (watchRun sickCores) :=
  (reflectsSickest_iff (exec_watchRun _)).2 (by decide +kernel)

/-- The slot of the core that is registered first. -/
def firstCore : Fin maxCores := ⟨0, by decide⟩

/-- Eleven anomalous pulses of one core, and a calm one of another. -/
def twoCores : List CorePulse := ⟨1, 10000000, 0⟩ :: (List.replicate 10 ⟨2, 0, 0⟩ ++ [⟨3, 0, 1⟩])

/-- The calm core hides the other one. -/
theorem exists_run_not_reflectsSickest : ∃ tr, Exec GuardianStep .boot tr ∧
    ¬ (AllStates Guardian.HealthyHolds .boot tr ∧ AllSteps NoFalseRelief .boot tr) := by
  refine ⟨watchRun twoCores, exec_watchRun _, ?_⟩
  rintro ⟨hstates, -⟩
  have hend := hstates.final
  rw [watchRun, final_driven] at hend
  have hhealthy : (twoCores.foldl vitalRustGuardian .boot).guardianState = .healthy := by decide +kernel
  have hregistered : (twoCores.foldl vitalRustGuardian .boot).Registered firstCore := by decide +kernel
  have hsick : ¬ ((twoCores.foldl vitalRustGuardian .boot).coreProfiles firstCore).anomalyCount ≤ 10 := by
    decide +kernel
  exact hsick (hend hhealthy firstCore hregistered)

end OperatingOrganism.Vital

import OperatingOrganism.Library.WrappingArithmetic
import OperatingOrganism.Vital.AncestralMemory

/-!
# The counters of the epigenetic memory

`vital_mark_experience` keeps its counters in words of 8 and 32 bits. In a life of fewer than `2 ^ 32` experiences
none of them wraps, so that they follow an account in integers (`Follows`). The ratio of the successes multiplies
before it divides, and is right as long as the product fits into 32 bits (`counters_exact_iff`).
-/

set_option autoImplicit false

namespace OperatingOrganism.Vital

open OperatingOrganism.WrappingArithmetic

/-- `vital_get_success_ratio` -/
def vitalGetSuccessRatio (m : EpigeneticMemory) : BitVec 8 :=
  if m.totalExperiences = 0 then 50 else (m.successCount * 100 / m.totalExperiences).setWidth 8

/-! ## The account in integers -/

/-- The counters of a life, without the widths that the memory gives them. -/
structure Experienced where
  trauma : Nat
  success : Nat
  total : Nat
  bias : Int
  resilience : Int

/-- After a first birth. -/
def Experienced.birth : Experienced := ⟨0, 0, 0, 128, 50⟩

/-- What the impact of an experience does to the account. -/
def Experienced.feel (t : Experienced) (impact : Int) : Experienced :=
  if impact < 0 then
    let effective := if t.resilience / 25 < 5 then 5 - t.resilience / 25 else 1
    { t with
      trauma := t.trauma + 1
      bias := if effective < t.bias then t.bias - effective else t.bias
      resilience := if t.resilience < 250 then t.resilience + 1 else t.resilience }
  else if 0 < impact then
    { t with
      success := t.success + 1
      bias := if t.bias < 250 then t.bias + 3 else t.bias }
  else t

/-- One more experience. -/
def Experienced.mark (t : Experienced) (impact : Int) : Experienced := { t with total := t.total + 1 }.feel impact

/-- The account of a life. -/
def experienced (calls : List (BitVec 64 × BitVec 8)) : Experienced :=
  calls.foldl (fun t e => t.mark e.2.toInt) .birth

/-- The number of the successes among the calls. -/
def successes (calls : List (BitVec 64 × BitVec 8)) : Nat := calls.countP fun e => 0 < e.2.toInt

/-- What is asked of the counters: traumas and successes are among the experiences, the two bytes are what the
integers are, and the ratio is the percentage of the successes, once there is an experience. -/
structure CountersExact (m : EpigeneticMemory) (t : Experienced) : Prop where
  counted : m.traumaLevel.toNat + m.successCount.toNat ≤ m.totalExperiences.toNat
  bias : (m.personalityBias.toNat : Int) = t.bias
  resilience : (m.resilience.toNat : Int) = t.resilience
  ratio : 0 < m.totalExperiences.toNat →
    (vitalGetSuccessRatio m).toNat = 100 * m.successCount.toNat / m.totalExperiences.toNat
  ratio_le : (vitalGetSuccessRatio m).toNat ≤ 100

/-- The invariant: the memory holds the account, and the account keeps to the widths. -/
structure Follows (m : EpigeneticMemory) (t : Experienced) : Prop where
  trauma : m.traumaLevel.toNat = t.trauma
  success : m.successCount.toNat = t.success
  total : m.totalExperiences.toNat = t.total
  bias : (m.personalityBias.toNat : Int) = t.bias
  resilience : (m.resilience.toNat : Int) = t.resilience
  counted : t.trauma + t.success ≤ t.total
  bias_pos : 1 ≤ t.bias
  bias_le : t.bias ≤ 252
  resilience_ge : 50 ≤ t.resilience
  resilience_le : t.resilience ≤ 250

/-! ## One experience -/

section Step

variable {m : EpigeneticMemory} {t : Experienced} {impact : Int}

theorem follows_birth (h : ¬ m.Ancestral) : Follows (vitalEpigeneticInit m) .birth := by
  rw [vitalEpigeneticInit, if_neg h]
  refine ⟨rfl, rfl, rfl, rfl, rfl, ?_, ?_, ?_, ?_, ?_⟩ <;> decide

/-- `effective_impact` -/
def EpigeneticMemory.effectiveImpact (m : EpigeneticMemory) : BitVec 8 :=
  if m.resilience.toNat / 25 < 5 then 5 - m.resilience / 25 else 1

theorem feel_of_neg (h : impact < 0) :
    m.feel impact =
      { m with
        traumaLevel := m.traumaLevel + 1
        personalityBias :=
          if m.effectiveImpact < m.personalityBias then m.personalityBias - m.effectiveImpact else m.personalityBias
        resilience := if m.resilience.toNat < 250 then m.resilience + 1 else m.resilience } := by
  rw [EpigeneticMemory.feel, if_pos h, EpigeneticMemory.effectiveImpact]
  dsimp only
  generalize (if m.resilience.toNat / 25 < 5 then 5 - m.resilience / 25 else (1 : BitVec 8)) = effective
  by_cases hbias : effective < m.personalityBias
  · simp only [if_pos hbias]
    split
    · rfl
    · rfl
  · simp only [if_neg hbias]
    split
    · rfl
    · rfl

theorem feel_of_pos (h : 0 < impact) :
    m.feel impact =
      { m with
        successCount := m.successCount + 1
        personalityBias := if m.personalityBias.toNat < 250 then m.personalityBias + 3 else m.personalityBias } := by
  rw [EpigeneticMemory.feel, if_neg (by omega), if_pos h]
  dsimp only
  split
  · rfl
  · rfl

/-- The subtraction for the effective impact does not wrap. -/
theorem Follows.toNat_effectiveImpact (h : Follows m t) :
    (m.effectiveImpact.toNat : Int) = (if t.resilience / 25 < 5 then 5 - t.resilience / 25 else 1) ∧
      1 ≤ m.effectiveImpact.toNat := by
  rw [EpigeneticMemory.effectiveImpact, ← h.resilience]
  have hdiv : (m.resilience / 25).toNat = m.resilience.toNat / 25 := BitVec.toNat_udiv
  by_cases hweak : m.resilience.toNat / 25 < 5
  · have hsub : (5 - m.resilience / 25).toNat = 5 - m.resilience.toNat / 25 := by
      rw [BitVec.toNat_sub_of_le (by rw [BitVec.le_def, hdiv]; exact hweak.le), hdiv]
      rfl
    rw [if_pos hweak, if_pos (by omega), hsub]
    omega
  · rw [if_neg hweak, if_neg (by omega)]
    decide

/-- A guarded decrement of a byte does not wrap. -/
theorem toNat_ite_sub (b e : BitVec 8) :
    (if e < b then b - e else b).toNat = if e.toNat < b.toNat then b.toNat - e.toNat else b.toNat := by
  by_cases h : e < b
  · rw [if_pos h, if_pos (BitVec.lt_def.1 h), BitVec.toNat_sub_of_le (BitVec.le_of_lt h)]
  · rw [if_neg h, if_neg (BitVec.lt_def.not.1 h)]

/-- A guarded increment of a byte does not wrap, if the guard leaves room for it. -/
theorem toNat_ite_add {limit : Nat} (b e : BitVec 8) (hroom : limit + e.toNat ≤ 256) :
    (if b.toNat < limit then b + e else b).toNat = if b.toNat < limit then b.toNat + e.toNat else b.toNat := by
  by_cases h : b.toNat < limit
  · rw [if_pos h, if_pos h, BitVec.toNat_add_of_lt (by omega)]
  · rw [if_neg h, if_neg h]

/-- A counter of 32 bits that has room for one more. -/
theorem toNat_succ {c : BitVec 32} {n : Nat} (h : c.toNat = n) (hroom : n + 1 < 2 ^ 32) : (c + 1).toNat = n + 1 := by
  rw [BitVec.toNat_add_of_lt (by rw [h]; exact hroom), h]
  rfl

theorem Follows.bias_weakened (h : Follows m t) :
    ((if m.effectiveImpact < m.personalityBias then m.personalityBias - m.effectiveImpact
        else m.personalityBias).toNat : Int) =
      if (m.effectiveImpact.toNat : Int) < t.bias then t.bias - m.effectiveImpact.toNat else t.bias := by
  have hbias := h.bias
  rw [toNat_ite_sub]
  split <;> split <;> omega

theorem Follows.bias_strengthened (h : Follows m t) :
    ((if m.personalityBias.toNat < 250 then m.personalityBias + 3 else m.personalityBias).toNat : Int) =
      if t.bias < 250 then t.bias + 3 else t.bias := by
  have hbias := h.bias
  have hthree : (3 : BitVec 8).toNat = 3 := rfl
  rw [toNat_ite_add m.personalityBias 3 (by decide), hthree]
  split <;> split <;> omega

theorem Follows.resilience_hardened (h : Follows m t) :
    ((if m.resilience.toNat < 250 then m.resilience + 1 else m.resilience).toNat : Int) =
      if t.resilience < 250 then t.resilience + 1 else t.resilience := by
  have hresilience := h.resilience
  have hone : (1 : BitVec 8).toNat = 1 := rfl
  rw [toNat_ite_add m.resilience 1 (by decide), hone]
  split <;> split <;> omega

/-- The impact of an experience that is counted already. -/
theorem Follows.feel (h : Follows m t) (hroom : t.total < 2 ^ 32) (hfresh : t.trauma + t.success < t.total)
    (impact : Int) : Follows (m.feel impact) (t.feel impact) := by
  have hpos := h.bias_pos
  have hle := h.bias_le
  have hge := h.resilience_ge
  have hmost := h.resilience_le
  rcases Int.lt_trichotomy impact 0 with hneg | rfl | hpositive
  · -- a trauma weakens the bias where that leaves it positive, and hardens
    obtain ⟨heffective, hone⟩ := h.toNat_effectiveImpact
    rw [feel_of_neg hneg, Experienced.feel, if_pos hneg, ← heffective]
    refine ⟨toNat_succ h.trauma (by omega), h.success, h.total, h.bias_weakened, h.resilience_hardened, ?_, ?_, ?_,
      ?_, ?_⟩
    · dsimp only
      omega
    all_goals
      dsimp only
      split <;> omega
  · exact h
  · have hnot : ¬ impact < 0 := by omega
    rw [feel_of_pos hpositive, Experienced.feel, if_neg hnot, if_pos hpositive]
    refine ⟨h.trauma, toNat_succ h.success (by omega), h.total, h.bias_strengthened, h.resilience, ?_, ?_, ?_, hge,
      hmost⟩
    · dsimp only
      omega
    all_goals
      dsimp only
      split <;> omega

/-- An experience keeps the account. -/
theorem Follows.mark (h : Follows m t) (hroom : t.total + 1 < 2 ^ 32) (pulse : BitVec 64) (impact : BitVec 8) :
    Follows (vitalMarkExperience pulse impact m) (t.mark impact.toInt) := by
  have hcounted : Follows
      { m with
        events := m.events.setIfInBounds m.eventHead.toNat ⟨pulse, impact, 0⟩
        eventHead := .ofNat 16 ((m.eventHead.toNat + 1) % maxEpigeneticEvents)
        totalExperiences := m.totalExperiences + 1 } { t with total := t.total + 1 } :=
    ⟨h.trauma, h.success, toNat_succ h.total hroom, h.bias, h.resilience, Nat.le_succ_of_le h.counted, h.bias_pos,
      h.bias_le, h.resilience_ge, h.resilience_le⟩
  -- the checksum is not part of the account
  have hfelt := hcounted.feel hroom (Nat.lt_succ_of_le h.counted) impact.toInt
  exact ⟨hfelt.trauma, hfelt.success, hfelt.total, hfelt.bias, hfelt.resilience, hfelt.counted, hfelt.bias_pos,
    hfelt.bias_le, hfelt.resilience_ge, hfelt.resilience_le⟩

/-! ## The ratio -/

/-- The percentage of a part is right, also as a byte, exactly if the product does not wrap. -/
theorem wrapped_percentage_iff {part whole : Nat} (hpart : part ≤ whole) (hpos : 0 < whole) (hwhole : whole < 2 ^ 32) :
    part * 100 % 2 ^ 32 / whole % 2 ^ 8 = 100 * part / whole ↔ 100 * part < 2 ^ 32 := by
  have hpercent : 100 * part / whole ≤ 100 :=
    (Nat.div_le_div_right (Nat.mul_le_mul_left 100 hpart)).trans (Nat.le_of_eq (Nat.mul_div_cancel 100 hpos))
  have hquotient : 100 * part % 2 ^ 32 / whole ≤ 100 :=
    (Nat.div_le_div_right (Nat.mod_le _ _)).trans hpercent
  rw [Nat.mul_comm part 100, Nat.mod_eq_of_lt (hquotient.trans_lt (by decide))]
  exact mod_div_eq_iff hpos hwhole.le

theorem toNat_successRatio (hpos : 0 < m.totalExperiences.toNat) :
    (vitalGetSuccessRatio m).toNat =
      m.successCount.toNat * 100 % 2 ^ 32 / m.totalExperiences.toNat % 2 ^ 8 := by
  have hne : m.totalExperiences ≠ 0 := by
    rintro hzero
    rw [hzero] at hpos
    exact absurd hpos (by decide)
  rw [vitalGetSuccessRatio, if_neg hne, BitVec.toNat_setWidth, BitVec.toNat_udiv, BitVec.toNat_mul]
  rfl

/-- The counters are exact if and only if the product of the ratio fits. -/
theorem Follows.countersExact_iff (h : Follows m t) : CountersExact m t ↔ 100 * t.success < 2 ^ 32 := by
  have hpart : m.successCount.toNat ≤ m.totalExperiences.toNat := by
    have hcounted := h.counted
    rw [h.success, h.total]
    omega
  rw [← h.success]
  constructor
  · intro hexact
    rcases Nat.eq_zero_or_pos m.totalExperiences.toNat with hnone | hpos
    · omega
    · refine (wrapped_percentage_iff hpart hpos m.totalExperiences.isLt).1 ?_
      rw [← toNat_successRatio hpos]
      exact hexact.ratio hpos
  · intro hfits
    have hratio : 0 < m.totalExperiences.toNat →
        (vitalGetSuccessRatio m).toNat = 100 * m.successCount.toNat / m.totalExperiences.toNat := by
      intro hpos
      rw [toNat_successRatio hpos]
      exact (wrapped_percentage_iff hpart hpos m.totalExperiences.isLt).2 hfits
    refine ⟨?_, h.bias, h.resilience, hratio, ?_⟩
    · rw [h.trauma, h.success, h.total]
      exact h.counted
    · rcases Nat.eq_zero_or_pos m.totalExperiences.toNat with hnone | hpos
      · rw [vitalGetSuccessRatio, if_pos (BitVec.eq_of_toNat_eq hnone)]
        decide
      · rw [hratio hpos]
        refine (Nat.div_le_div_right (Nat.mul_le_mul_left 100 hpart)).trans ?_
        rw [Nat.mul_div_cancel 100 hpos]

end Step

/-! ## A life -/

section Life

variable {m : EpigeneticMemory} {calls : List (BitVec 64 × BitVec 8)}

theorem success_mark (t : Experienced) (impact : Int) :
    (t.mark impact).success = t.success + if 0 < impact then 1 else 0 := by
  rw [Experienced.mark, Experienced.feel]
  by_cases hneg : impact < 0
  · have hnot : ¬ 0 < impact := by omega
    rw [if_pos hneg, if_neg hnot]
    rfl
  · rw [if_neg hneg]
    by_cases hpos : 0 < impact
    · rw [if_pos hpos, if_pos hpos]
    · rw [if_neg hpos, if_neg hpos]
      rfl

theorem total_mark (t : Experienced) (impact : Int) : (t.mark impact).total = t.total + 1 := by
  rw [Experienced.mark, Experienced.feel]
  by_cases hneg : impact < 0
  · rw [if_pos hneg]
  · rw [if_neg hneg]
    by_cases hpos : 0 < impact
    · rw [if_pos hpos]
    · rw [if_neg hpos]

/-- The account counts the successes. -/
theorem success_experienced (calls : List (BitVec 64 × BitVec 8)) : (experienced calls).success = successes calls := by
  have hcount : ∀ t : Experienced,
      (calls.foldl (fun t e => t.mark e.2.toInt) t).success = t.success + successes calls := by
    -- induction on the calls, over any account
    induction calls with
    | nil => exact fun t => rfl
    | cons e calls ih =>
      intro t
      rw [List.foldl_cons, ih, success_mark, successes, successes, List.countP_cons, Nat.add_assoc,
        Nat.add_comm (List.countP _ calls)]
      simp only [decide_eq_true_eq]
  exact (hcount .birth).trans (Nat.zero_add _)

/-- In a life of fewer than `2 ^ 32` experiences the memory holds the account. -/
theorem follows_firstLife (hbirth : ¬ m.Ancestral) (hlife : calls.length < 2 ^ 32) :
    Follows (firstLife m calls) (experienced calls) := by
  have hrun : ∀ (m : EpigeneticMemory) (t : Experienced), Follows m t → t.total + calls.length < 2 ^ 32 →
      Follows (calls.foldl (fun m e => vitalMarkExperience e.1 e.2 m) m)
        (calls.foldl (fun t e => t.mark e.2.toInt) t) := by
    clear hlife
    induction calls with
    | nil => exact fun m t h _ => h
    | cons e calls ih =>
      intro m t h hroom
      rw [List.length_cons] at hroom
      rw [List.foldl_cons, List.foldl_cons]
      refine ih _ _ (h.mark (by omega) e.1 e.2) ?_
      rw [total_mark]
      omega
  refine hrun _ _ (follows_birth hbirth) ?_
  change 0 + calls.length < 2 ^ 32
  rw [Nat.zero_add]
  exact hlife

/-- In every life of fewer than `2 ^ 32` experiences from a first birth, the counters are exact after every call if
and only if a hundred times the number of its successes fits into 32 bits. -/
theorem counters_exact_iff (hbirth : ¬ m.Ancestral) (hlife : calls.length < 2 ^ 32) :
    (∀ past, past <+: calls → CountersExact (firstLife m past) (experienced past)) ↔
      100 * successes calls < 2 ^ 32 := by
  have hexact : ∀ past, past <+: calls →
      (CountersExact (firstLife m past) (experienced past) ↔ 100 * successes past < 2 ^ 32) := by
    intro past hpast
    rw [← success_experienced]
    exact (follows_firstLife hbirth (hpast.length_le.trans_lt hlife)).countersExact_iff
  constructor
  · intro hall
    exact (hexact calls (List.prefix_refl calls)).1 (hall calls (List.prefix_refl calls))
  · intro hfits past hpast
    refine (hexact past hpast).2 (lt_of_le_of_lt (Nat.mul_le_mul_left 100 ?_) hfits)
    exact hpast.sublist.countP_le

/-- After a trauma and two successes. -/
theorem counters_exact_short_life :
    let calls := [((7 : BitVec 64), (0xFB : BitVec 8)), (8, 1), (9, 3)]
    ∀ past, past <+: calls → CountersExact (firstLife .zero past) (experienced past) := by
  intro calls
  exact (counters_exact_iff (by decide) (by decide)).2 (by decide)

/-- A life of successes alone that is long enough for the product to wrap. -/
def triumphs : List (BitVec 64 × BitVec 8) := List.replicate 42949673 (0, 1)

/-- Its ratio is not the percentage. -/
theorem exists_counters_not_exact : ∃ (m : EpigeneticMemory) (calls : List (BitVec 64 × BitVec 8)),
    ¬ m.Ancestral ∧ calls.length < 2 ^ 32 ∧ ¬ CountersExact (firstLife m calls) (experienced calls) := by
  have hlife : triumphs.length < 2 ^ 32 := by
    rw [triumphs, List.length_replicate]
    decide
  have hsuccesses : successes triumphs = 42949673 := by
    rw [successes, triumphs, List.countP_replicate]
    rfl
  refine ⟨.zero, triumphs, by decide, hlife, ?_⟩
  rw [(follows_firstLife (by decide) hlife).countersExact_iff, success_experienced, hsuccesses]
  decide

end Life

end OperatingOrganism.Vital

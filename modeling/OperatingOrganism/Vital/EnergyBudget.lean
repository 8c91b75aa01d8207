import OperatingOrganism.Vital.Metabolism

/-!
# Budget discipline

No organ consumes more than it was allocated. A request is granted the least of what was asked for, of what is left
of the budget and of the pool, so that neither the budget nor the pool is ever overdrawn; a catabolic cycle halves
what was consumed and keeps to the budget (`budget_discipline`).
-/

set_option autoImplicit false

namespace OperatingOrganism.Vital

open OperatingOrganism.Execution

/-- Entry `i` of the table belongs to the organ. -/
def Metabolism.Serves (m : Metabolism) (organId : UInt8) (i : Fin maxMetabolicOrgans) : Prop :=
  i.val < m.registeredOrgans ∧ (m.organBudgets i).organId = organId

instance (m : Metabolism) (organId : UInt8) (i : Fin maxMetabolicOrgans) : Decidable (m.Serves organId i) :=
  inferInstanceAs (Decidable (_ ∧ _))

/-- No registered organ has consumed more than it was allocated. -/
def Metabolism.WithinBudgets (m : Metabolism) : Prop :=
  ∀ i, i.val < m.registeredOrgans →
    (m.organBudgets i).caloriesConsumed.toNat ≤ (m.organBudgets i).caloriesAllocated.toNat

/-- The invariant: no two entries of one organ, and each within its budget. -/
structure Metabolism.Budgeted (m : Metabolism) : Prop where
  distinct : ∀ organId i j, m.Serves organId i → m.Serves organId j → i = j
  within : m.WithinBudgets

/-- A request of an unknown or a fasting organ returns nothing, and any other one the least of the amount, the rest
of the budget and the pool. The rest of the budget is not negative, and the pool loses what is returned. -/
structure GrantsExactly (m : Metabolism) (organId : UInt8) (amount : UInt64) : Prop where
  unknown : (∀ i, ¬ m.Serves organId i) → (metabolismRequestEnergy m organId amount).2 = 0
  fasting : ∀ i, m.Serves organId i → (m.organBudgets i).isFasting →
    (metabolismRequestEnergy m organId amount).2 = 0
  granted : ∀ i, m.Serves organId i → ¬ (m.organBudgets i).isFasting →
    (metabolismRequestEnergy m organId amount).2.toNat =
      min amount.toNat (min
        ((m.organBudgets i).caloriesAllocated.toNat - (m.organBudgets i).caloriesConsumed.toNat)
        m.liver.totalEnergyPool.toNat)
  budget : ∀ i, m.Serves organId i →
    (m.organBudgets i).caloriesConsumed.toNat ≤ (m.organBudgets i).caloriesAllocated.toNat
  pool : (metabolismRequestEnergy m organId amount).1.liver.totalEnergyPool.toNat +
    (metabolismRequestEnergy m organId amount).2.toNat = m.liver.totalEnergyPool.toNat

/-- The basal rate is taken from a pool that holds it, and a smaller pool is emptied. -/
structure PaysExactly (l : Liver) : Prop where
  paid : l.Affords → l.payBasal.totalEnergyPool.toNat + l.basalMetabolicRate.toNat = l.totalEnergyPool.toNat
  famine : ¬ l.Affords → l.payBasal.totalEnergyPool = 0

/-- What the budgets ask of a call. -/
def Disciplined (e : Economy) (a : Surroundings × MetabolismOp) : Prop :=
  match a.2 with
  | .requestEnergy organId amount => GrantsExactly e.metabolism organId amount
  | .tick => PaysExactly e.liver
  | .init _ | .registerOrgan _ _ | .generateEnergy _ | .elsewhere _ => True

/-- A call registers an organ that is not registered yet, if it registers one. -/
def RegistersNew (e : Economy) (a : Surroundings × MetabolismOp) : Prop :=
  ∀ organId budget, a.2 = .registerOrgan organId budget → ∀ i, ¬ e.metabolism.Serves organId i

/-- A call, with nothing assumed of the totals. -/
def MetabolismStep (e : Economy) (a : Surroundings × MetabolismOp) (e' : Economy) : Prop := a.2.run a.1 e = e'

/-! ## Requests -/

section Requests

variable {m : Metabolism} {organId : UInt8} {amount : UInt64} {i : Fin maxMetabolicOrgans}

theorem find_of_unknown (h : ∀ i, ¬ m.Serves organId i) : m.find organId = none := by
  rw [Metabolism.find, List.find?_eq_none]
  intro i _ hi
  exact h i (of_decide_eq_true hi)

/-- The search finds the entry of the organ. -/
theorem Metabolism.Budgeted.find (h : m.Budgeted) (hi : m.Serves organId i) : m.find organId = some i := by
  cases hfind : m.find organId with
  | none =>
    rw [Metabolism.find, List.find?_eq_none] at hfind
    exact absurd (decide_eq_true hi) (hfind i (List.mem_finRange i))
  | some j =>
    have hfound := List.find?_some hfind
    have hj : m.Serves organId j := of_decide_eq_true hfound
    rw [h.distinct organId i j hi hj]

/-- The smaller of two numbers, as the source writes it. -/
theorem toNat_ite_le (a b : UInt64) : (if a ≤ b then a else b).toNat = min a.toNat b.toNat := by
  split
  · next hle => rw [Nat.min_eq_left (UInt64.le_iff_toNat_le.1 hle)]
  · next hlt => rw [Nat.min_eq_right (Nat.le_of_lt (UInt64.lt_iff_toNat_lt.1 (UInt64.not_le.1 hlt)))]

theorem toNat_ite_lt (a b : UInt64) : (if b < a then b else a).toNat = min a.toNat b.toNat := by
  split
  · next hlt => rw [Nat.min_eq_right (Nat.le_of_lt (UInt64.lt_iff_toNat_lt.1 hlt))]
  · next hle => rw [Nat.min_eq_left (UInt64.le_iff_toNat_le.1 (UInt64.not_lt.1 hle))]

/-- What is granted within a budget. -/
theorem toNat_granted {organ : OrganMetabolism}
    (h : organ.caloriesConsumed.toNat ≤ organ.caloriesAllocated.toNat) :
    (m.granted organ amount).toNat = min amount.toNat
      (min (organ.caloriesAllocated.toNat - organ.caloriesConsumed.toNat) m.liver.totalEnergyPool.toNat) := by
  have hrest : (organ.caloriesAllocated - organ.caloriesConsumed).toNat =
      organ.caloriesAllocated.toNat - organ.caloriesConsumed.toNat :=
    UInt64.toNat_sub_of_le _ _ (UInt64.le_iff_toNat_le.2 h)
  rw [Metabolism.granted, toNat_ite_lt, toNat_ite_le, hrest, Nat.min_assoc]

/-- A request of a registered organ that may eat. -/
theorem Metabolism.Budgeted.request (h : m.Budgeted) (hi : m.Serves organId i)
    (hfast : ¬ (m.organBudgets i).isFasting) :
    (metabolismRequestEnergy m organId amount).2 = m.granted (m.organBudgets i) amount := by
  rw [metabolismRequestEnergy, h.find hi]
  dsimp only
  rw [if_neg hfast]

theorem Metabolism.Budgeted.grantsExactly (h : m.Budgeted) (organId : UInt8) (amount : UInt64) :
    GrantsExactly m organId amount where
  unknown hunknown := by rw [metabolismRequestEnergy, find_of_unknown hunknown]
  fasting i hi hfast := by
    rw [metabolismRequestEnergy, h.find hi]
    dsimp only
    rw [if_pos hfast]
  granted i hi hfast := by
    rw [h.request hi hfast]
    exact toNat_granted (h.within i hi.1)
  budget i hi := h.within i hi.1
  pool := by
    obtain ⟨hle, hliver⟩ := requestEnergy_liver m organId amount
    rw [hliver]
    dsimp only
    rw [UInt64.toNat_sub_of_le _ _ hle]
    exact Nat.sub_add_cancel (UInt64.le_iff_toNat_le.1 hle)

theorem paysExactly (l : Liver) : PaysExactly l := by
  constructor
  · intro hafford
    have hle : l.basalMetabolicRate.toUInt64 ≤ l.totalEnergyPool := UInt64.le_of_lt hafford
    rw [Liver.payBasal, if_pos hafford]
    dsimp only
    rw [UInt64.toNat_sub_of_le _ _ hle, ← UInt32.toNat_toUInt64]
    exact Nat.sub_add_cancel (UInt64.le_iff_toNat_le.1 hle)
  · intro hafford
    rw [Liver.payBasal, if_neg hafford]

end Requests

/-! ## What the calls do to the budgets -/

section Budgets

variable {m m' : Metabolism} {organId : UInt8} {budget amount : UInt64}

/-- A call that rewrites no identifier keeps the entries of an organ. -/
theorem serves_congr (hcount : m'.registeredOrgans = m.registeredOrgans)
    (hids : ∀ i, (m'.organBudgets i).organId = (m.organBudgets i).organId) {i : Fin maxMetabolicOrgans} :
    m'.Serves organId i ↔ m.Serves organId i := by
  rw [Metabolism.Serves, Metabolism.Serves, hcount, hids]

/-- It keeps the budgets if it keeps each entry within its budget. -/
theorem Metabolism.Budgeted.rewrite (h : m.Budgeted) (hcount : m'.registeredOrgans = m.registeredOrgans)
    (hids : ∀ i, (m'.organBudgets i).organId = (m.organBudgets i).organId)
    (hwithin : ∀ i, i.val < m.registeredOrgans →
      (m'.organBudgets i).caloriesConsumed.toNat ≤ (m'.organBudgets i).caloriesAllocated.toNat) :
    m'.Budgeted where
  distinct organId i j hi hj :=
    h.distinct organId i j ((serves_congr hcount hids).1 hi) ((serves_congr hcount hids).1 hj)
  within i hi := hwithin i (hcount ▸ hi)

/-- Without organs there is nothing to keep. -/
theorem budgeted_of_none (h : m.registeredOrgans = 0) : m.Budgeted := by
  have hnone : ∀ i : Fin maxMetabolicOrgans, ¬ i.val < m.registeredOrgans := by
    rw [h]
    exact fun i => Nat.not_lt_zero i.val
  exact ⟨fun _ i _ hi _ => absurd hi.1 (hnone i), fun i hi => absurd hi (hnone i)⟩

/-- A new organ begins with its whole budget. -/
theorem Metabolism.Budgeted.register (h : m.Budgeted) (hnew : ∀ i, ¬ m.Serves organId i) :
    (metabolismRegisterOrgan m organId budget).Budgeted := by
  rw [metabolismRegisterOrgan]
  split
  · next hroom =>
    -- the entries before the new one are as they were
    have hother : ∀ i : Fin maxMetabolicOrgans, i ≠ ⟨m.registeredOrgans, hroom⟩ →
        i.val < m.registeredOrgans + 1 → i.val < m.registeredOrgans := by
      intro i hi hlt
      exact Nat.lt_of_le_of_ne (Nat.le_of_lt_succ hlt) fun heq => hi (Fin.ext heq)
    constructor
    · rintro id i j ⟨hi, hid⟩ ⟨hj, hid'⟩
      dsimp only at hi hid hj hid'
      by_cases hilast : i = ⟨m.registeredOrgans, hroom⟩
      · by_cases hjlast : j = ⟨m.registeredOrgans, hroom⟩
        · rw [hilast, hjlast]
        · rw [hilast, Function.update_self] at hid
          rw [Function.update_of_ne hjlast] at hid'
          exact absurd ⟨hother j hjlast hj, hid'.trans hid.symm⟩ (hnew j)
      · rw [Function.update_of_ne hilast] at hid
        by_cases hjlast : j = ⟨m.registeredOrgans, hroom⟩
        · rw [hjlast, Function.update_self] at hid'
          exact absurd ⟨hother i hilast hi, hid.trans hid'.symm⟩ (hnew i)
        · rw [Function.update_of_ne hjlast] at hid'
          exact h.distinct id i j ⟨hother i hilast hi, hid⟩ ⟨hother j hjlast hj, hid'⟩
    · intro i hi
      dsimp only at hi ⊢
      by_cases hlast : i = ⟨m.registeredOrgans, hroom⟩
      · rw [hlast, Function.update_self]
        exact Nat.zero_le _
      · rw [Function.update_of_ne hlast]
        exact h.within i (hother i hlast hi)
  · exact h

/-- A request adds to what was consumed no more than what was left. -/
theorem Metabolism.Budgeted.requestEnergy (h : m.Budgeted) (organId : UInt8) (amount : UInt64) :
    (metabolismRequestEnergy m organId amount).1.Budgeted := by
  rw [metabolismRequestEnergy]
  cases hfind : m.find organId with
  | none => exact h
  | some i =>
    have hfound := List.find?_some hfind
    have hi : m.Serves organId i := of_decide_eq_true hfound
    dsimp only
    split
    · exact h
    · have hgranted := @toNat_granted m amount _ (h.within i hi.1)
      refine h.rewrite rfl (fun j => ?_) fun j hj => ?_
      · dsimp only
        by_cases hji : j = i
        · rw [hji, Function.update_self]
        · rw [Function.update_of_ne hji]
      · dsimp only
        by_cases hji : j = i
        · have hwithin := h.within i hi.1
          have hallocated := (m.organBudgets i).caloriesAllocated.toNat_lt
          rw [hji, Function.update_self]
          dsimp only
          rw [UInt64.toNat_add]
          omega
        · rw [Function.update_of_ne hji]
          exact h.within j hj

/-- A catabolic cycle halves what was consumed. -/
theorem Metabolism.Budgeted.recycle (h : m.Budgeted) : m.recycle.Budgeted := by
  rw [Metabolism.recycle]
  dsimp only
  split
  · refine h.rewrite rfl (fun i => ?_) fun i hi => ?_
    · dsimp only
      split
      · rfl
      · rfl
    · have hwithin := h.within i hi
      dsimp only
      rw [if_pos hi, UInt64.toNat_div]
      exact (Nat.div_le_self _ _).trans hwithin
  · exact ⟨h.distinct, h.within⟩

/-- The liver is no part of the budgets. -/
theorem Metabolism.Budgeted.setLiver (h : m.Budgeted) (l : Liver) : { m with liver := l }.Budgeted :=
  ⟨h.distinct, h.within⟩

theorem Metabolism.Budgeted.tick (h : m.Budgeted) (env : Surroundings) (s : Nerves) :
    (metabolismTick env m s).1.Budgeted := by
  rw [metabolismTick]
  dsimp only
  refine Metabolism.Budgeted.setLiver (Metabolism.Budgeted.recycle ?_) _
  cases m.liver.payBasal.regeneration (feelFamine env m.liver s).state with
  | none => exact h.setLiver _
  | some amount => exact (h.setLiver m.liver.payBasal).setLiver _

theorem MetabolismStep.budgeted {e e' : Economy} {a : Surroundings × MetabolismOp} (h : MetabolismStep e a e')
    (hb : e.metabolism.Budgeted) (hnew : RegistersNew e a) : e'.metabolism.Budgeted := by
  obtain ⟨env, op⟩ := a
  obtain rfl : op.run env e = e' := h
  cases op with
  | init pool => exact budgeted_of_none rfl
  | registerOrgan organId budget => exact hb.register (hnew organId budget rfl)
  | requestEnergy organId amount => exact hb.requestEnergy organId amount
  | generateEnergy amount => exact hb.setLiver _
  | tick => exact hb.tick env e.nerves
  | elsewhere nerves => exact hb

theorem Metabolism.Budgeted.disciplined {e : Economy} (h : e.metabolism.Budgeted)
    (a : Surroundings × MetabolismOp) : Disciplined e a := by
  obtain ⟨env, op⟩ := a
  cases op with
  | requestEnergy organId amount => exact h.grantsExactly organId amount
  | tick => exact paysExactly e.liver
  | init pool => trivial
  | registerOrgan organId budget => trivial
  | generateEnergy amount => trivial
  | elsewhere nerves => trivial

/-- In every run in which no organ is registered twice, every organ stays within its budget, and every request and
every tick takes exactly what it should. -/
theorem budget_discipline {nerves : Nerves} {tr : List ((Surroundings × MetabolismOp) × Economy)}
    (h : Exec MetabolismStep ⟨.boot, nerves, 0⟩ tr) (hnew : AllSteps RegistersNew ⟨.boot, nerves, 0⟩ tr) :
    AllStates (fun e => e.metabolism.WithinBudgets) ⟨.boot, nerves, 0⟩ tr ∧
      AllSteps Disciplined ⟨.boot, nerves, 0⟩ tr := by
  have hall : AllStates (fun e => e.metabolism.Budgeted) ⟨.boot, nerves, 0⟩ tr :=
    h.allStates (budgeted_of_none rfl) hnew fun e a e' hb hn hst => hst.budgeted hb hn
  exact ⟨hall.imp fun e hb => hb.within, hall.allSteps fun e a hb => hb.disciplined a⟩

/-- Two organs eat until the budget of one is used up and the pool is empty. -/
theorem budget_discipline_two_organs :
    let life := lifeFrom ⟨.boot, .boot, 0⟩ [.init 600, .registerOrgan 0 300, .registerOrgan 1 900,
      .requestEnergy 0 500, .requestEnergy 1 500, .requestEnergy 0 1, .tick]
    AllStates (fun e => e.metabolism.WithinBudgets) ⟨.boot, .boot, 0⟩ life ∧
      AllSteps Disciplined ⟨.boot, .boot, 0⟩ life := by
  intro life
  have hexec : Exec MetabolismStep ⟨.boot, .boot, 0⟩ life := ⟨rfl, rfl, rfl, rfl, rfl, rfl, rfl, trivial⟩
  refine budget_discipline hexec ⟨nofun, ?_, ?_, nofun, nofun, nofun, nofun, trivial⟩
  · rintro organId budget ⟨⟩ i
    revert i
    decide
  · rintro organId budget ⟨⟩ i
    revert i
    decide

end Budgets

end OperatingOrganism.Vital

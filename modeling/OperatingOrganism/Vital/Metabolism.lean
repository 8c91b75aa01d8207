import OperatingOrganism.Vital.Nociception

/-!
# Metabolism

The liver of `energy_metabolism.c`: a pool of calories from which the organs are served, each within its
budget, and from which a basal rate is paid at every tick. The energy that was generated should be in the pool,
wasted or granted. A tick that finds less than the basal rate, or exactly that, empties the pool and books
nothing; the balance of a run is exact if and only if that never happens to a pool that holds something
(`energy_conserved_iff`).
-/

set_option autoImplicit false

namespace OperatingOrganism.Vital

open OperatingOrganism.Execution OperatingOrganism.UnitedBus

/-- `oo_organ_metabolism_t` -/
structure OrganMetabolism where
  organId : UInt8
  caloriesConsumed : UInt64
  caloriesAllocated : UInt64
  metabolicRate : UInt32
  isFasting : Bool
  deriving DecidableEq, Repr

/-- An entry of the zero-initialised table. -/
def OrganMetabolism.zero : OrganMetabolism := ⟨0, 0, 0, 0, false⟩

/-- `oo_liver_t` -/
structure Liver where
  totalEnergyPool : UInt64
  energyGenerated : UInt64
  energyWasted : UInt64
  basalMetabolicRate : UInt32
  deriving DecidableEq, Repr

/-- `MAX_METABOLIC_ORGANS` -/
def maxMetabolicOrgans : Nat := 16

/-- The static variables of `energy_metabolism.c`; `registeredOrgans` does not exceed 16. -/
structure Metabolism where
  organBudgets : Fin maxMetabolicOrgans → OrganMetabolism
  registeredOrgans : Nat
  liver : Liver
  /-- the local static variable `cycle_counter` -/
  cycleCounter : UInt32

/-- The static initialisers. -/
def Metabolism.boot : Metabolism := ⟨fun _ => .zero, 0, ⟨0, 0, 0, 0⟩, 0⟩

/-- `metabolism_init` -/
def metabolismInit (m : Metabolism) (initialEnergyPool : UInt64) : Metabolism :=
  { m with
    liver :=
      { totalEnergyPool := initialEnergyPool
        energyGenerated := initialEnergyPool
        energyWasted := 0
        basalMetabolicRate := 100 }
    registeredOrgans := 0 }

/-- `metabolism_register_organ` -/
def metabolismRegisterOrgan (m : Metabolism) (organId : UInt8) (budget : UInt64) : Metabolism :=
  if h : m.registeredOrgans < maxMetabolicOrgans then
    { m with
      organBudgets := Function.update m.organBudgets ⟨m.registeredOrgans, h⟩ ⟨organId, 0, budget, 10, false⟩
      registeredOrgans := m.registeredOrgans + 1 }
  else m

/-! ## Requests -/

/-- The first registered entry of an organ. -/
def Metabolism.find (m : Metabolism) (organId : UInt8) : Option (Fin maxMetabolicOrgans) :=
  (List.finRange maxMetabolicOrgans).find? fun i =>
    i.val < m.registeredOrgans ∧ (m.organBudgets i).organId = organId

/-- What an organ that may eat is granted: no more than the rest of its budget, and no more than the pool. -/
def Metabolism.granted (m : Metabolism) (organ : OrganMetabolism) (amount : UInt64) : UInt64 :=
  let remainingBudget := organ.caloriesAllocated - organ.caloriesConsumed
  let granted := if amount ≤ remainingBudget then amount else remainingBudget
  if granted > m.liver.totalEnergyPool then m.liver.totalEnergyPool else granted

/-- `metabolism_request_energy`, with the calories that it returns. -/
def metabolismRequestEnergy (m : Metabolism) (organId : UInt8) (amount : UInt64) : Metabolism × UInt64 :=
  match m.find organId with
  | none => (m, 0)
  | some i =>
    let organ := m.organBudgets i
    if organ.isFasting then (m, 0)
    else
      let granted := m.granted organ amount
      let consumed := organ.caloriesConsumed + granted
      ({ m with
          organBudgets := Function.update m.organBudgets i
            { organ with caloriesConsumed := consumed, isFasting := consumed ≥ organ.caloriesAllocated }
          liver := { m.liver with totalEnergyPool := m.liver.totalEnergyPool - granted } },
        granted)

/-- `metabolism_generate_energy` -/
def metabolismGenerateEnergy (m : Metabolism) (amount : UInt64) : Metabolism :=
  { m with
    liver :=
      { m.liver with
        totalEnergyPool := m.liver.totalEnergyPool + amount
        energyGenerated := m.liver.energyGenerated + amount } }

/-! ## `metabolism_tick` -/

/-- The pool holds more than the basal rate. -/
def Liver.Affords (l : Liver) : Prop := l.totalEnergyPool > l.basalMetabolicRate.toUInt64

instance (l : Liver) : Decidable l.Affords := inferInstanceAs (Decidable (_ > _))

/-- The basal rate is paid, or the pool is emptied. -/
def Liver.payBasal (l : Liver) : Liver :=
  if l.Affords then
    { l with
      totalEnergyPool := l.totalEnergyPool - l.basalMetabolicRate.toUInt64
      energyWasted := l.energyWasted + l.basalMetabolicRate.toUInt64 }
  else { l with totalEnergyPool := 0 }

/-- What is generated in a state: twice the basal rate in sleep. -/
def Liver.regeneration (l : Liver) (state : ConsciousnessState) : Option UInt64 :=
  if state = .dormant ∨ state = .dreaming then some (l.basalMetabolicRate * 2).toUInt64 else none

/-- A catabolic cycle, every 50000 ticks. -/
def Metabolism.recycle (m : Metabolism) : Metabolism :=
  let m := { m with cycleCounter := m.cycleCounter + 1 }
  if m.cycleCounter % 50000 = 0 then
    { m with
      organBudgets := fun i =>
        let organ := m.organBudgets i
        if i.val < m.registeredOrgans then
          { organ with caloriesConsumed := organ.caloriesConsumed / 2, isFasting := false }
        else organ }
  else m

/-- The basal rate follows the pool. -/
def Liver.adapt (l : Liver) : Liver :=
  { l with basalMetabolicRate := if l.totalEnergyPool < 10000 then 50 else 100 }

section

variable (env : Surroundings)

/-- The nerves after the basal rate was paid: a famine hurts. -/
def feelFamine (l : Liver) (s : Nerves) : Nerves :=
  if l.Affords then s else nociceptionFire env s painSourceCpu .searing 0xFADE0001

/-- `metabolism_tick` -/
def metabolismTick (m : Metabolism) (s : Nerves) : Metabolism × Nerves :=
  let s := feelFamine env m.liver s
  let m := { m with liver := m.liver.payBasal }
  let m :=
    match m.liver.regeneration s.state with
    | some amount => metabolismGenerateEnergy m amount
    | none => m
  let m := m.recycle
  ({ m with liver := m.liver.adapt }, s)

end

/-! ## Runs -/

/-- The metabolism with the nerves, and the sum of all amounts that requests have returned. -/
structure Economy where
  metabolism : Metabolism
  nerves : Nerves
  granted : Nat

abbrev Economy.liver (e : Economy) : Liver := e.metabolism.liver

/-- A call of `energy_metabolism.c`, or what else happens to the nerves. -/
inductive MetabolismOp where
  | init (initialEnergyPool : UInt64)
  | registerOrgan (organId : UInt8) (budget : UInt64)
  | requestEnergy (organId : UInt8) (amount : UInt64)
  | generateEnergy (amount : UInt64)
  | tick
  | elsewhere (nerves : Nerves)

/-- The state after a call. -/
def MetabolismOp.run (env : Surroundings) (e : Economy) : MetabolismOp → Economy
  | .init pool => { e with metabolism := metabolismInit e.metabolism pool }
  | .registerOrgan organId budget =>
    { e with metabolism := metabolismRegisterOrgan e.metabolism organId budget }
  | .requestEnergy organId amount =>
    let r := metabolismRequestEnergy e.metabolism organId amount
    { e with metabolism := r.1, granted := e.granted + r.2.toNat }
  | .generateEnergy amount => { e with metabolism := metabolismGenerateEnergy e.metabolism amount }
  | .tick =>
    let r := metabolismTick env e.metabolism e.nerves
    { e with metabolism := r.1, nerves := r.2 }
  | .elsewhere nerves => { e with nerves := nerves }

/-- The energy that a call generates. -/
def MetabolismOp.generates (env : Surroundings) (e : Economy) : MetabolismOp → Nat
  | .generateEnergy amount => amount.toNat
  | .tick => ((e.liver.payBasal.regeneration (feelFamine env e.liver e.nerves).state).getD 0).toNat
  | _ => 0

/-- A call after which the total of the generated energy is still below `2 ^ 64`. -/
def EconomyStep (e : Economy) (a : Surroundings × MetabolismOp) (e' : Economy) : Prop :=
  e.liver.energyGenerated.toNat + a.2.generates a.1 e < 2 ^ 64 ∧ a.2.run a.1 e = e'

/-! ## The balance -/

/-- What was generated is in the pool, wasted or granted. -/
def Liver.Balanced (l : Liver) (granted : Nat) : Prop :=
  l.energyGenerated.toNat = l.totalEnergyPool.toNat + l.energyWasted.toNat + granted

instance (l : Liver) (granted : Nat) : Decidable (l.Balanced granted) := inferInstanceAs (Decidable (_ = _))

def Economy.Balanced (e : Economy) : Prop := e.liver.Balanced e.granted

/-- A tick finds the pool above the basal rate or empty, and the metabolism is not born again after something
was granted. -/
def KeepsBalance (e : Economy) (a : Surroundings × MetabolismOp) : Prop :=
  match a.2 with
  | .tick => e.liver.Affords ∨ e.liver.totalEnergyPool = 0
  | .init _ => e.granted = 0
  | _ => True

section

variable {l : Liver} {granted : Nat}

/-- In a balanced liver nothing is larger than what was generated. -/
theorem Liver.Balanced.pool_le (h : l.Balanced granted) :
    l.totalEnergyPool.toNat ≤ l.energyGenerated.toNat := by
  rw [Balanced] at h
  omega

/-- Generated energy goes to the pool. -/
theorem generate_balanced_iff {m : Metabolism} {amount : UInt64}
    (hgenerated : m.liver.energyGenerated.toNat + amount.toNat < 2 ^ 64)
    (hpool : m.liver.totalEnergyPool.toNat ≤ m.liver.energyGenerated.toNat) :
    (metabolismGenerateEnergy m amount).liver.Balanced granted ↔ m.liver.Balanced granted := by
  have hfits : m.liver.totalEnergyPool.toNat + amount.toNat < 2 ^ 64 :=
    Nat.lt_of_le_of_lt (Nat.add_le_add_right hpool _) hgenerated
  simp only [metabolismGenerateEnergy, Liver.Balanced, UInt64.toNat_add, Nat.mod_eq_of_lt hgenerated,
    Nat.mod_eq_of_lt hfits]
  omega

/-- The payment is booked as waste. What a famine takes is not booked. -/
theorem Liver.Balanced.payBasal_iff (h : l.Balanced granted) :
    l.payBasal.Balanced granted ↔ l.Affords ∨ l.totalEnergyPool = 0 := by
  rw [payBasal]
  rw [Balanced] at h
  by_cases hafford : l.Affords
  · rw [if_pos hafford]
    refine iff_of_true ?_ (.inl hafford)
    have hle : l.basalMetabolicRate.toUInt64 ≤ l.totalEnergyPool := UInt64.le_of_lt hafford
    have hrate := UInt64.le_iff_toNat_le.1 hle
    have hgen := l.energyGenerated.toNat_lt
    have hwaste : l.energyWasted.toNat + l.basalMetabolicRate.toUInt64.toNat < 2 ^ 64 := by omega
    simp only [Balanced, UInt64.toNat_sub_of_le _ _ hle, UInt64.toNat_add, Nat.mod_eq_of_lt hwaste]
    omega
  · rw [if_neg hafford, or_iff_right hafford, ← UInt64.toNat_inj]
    simp only [Balanced, UInt64.toNat_zero]
    omega

end

/-- No organ is granted more than the pool holds. -/
theorem granted_le_pool (m : Metabolism) (organ : OrganMetabolism) (amount : UInt64) :
    m.granted organ amount ≤ m.liver.totalEnergyPool := by
  rw [Metabolism.granted]
  generalize (if amount ≤ organ.caloriesAllocated - organ.caloriesConsumed then amount
    else organ.caloriesAllocated - organ.caloriesConsumed) = wanted
  split
  · exact UInt64.le_refl _
  · next h => exact UInt64.not_lt.1 h

/-- A request takes from the pool what it returns. -/
theorem requestEnergy_liver (m : Metabolism) (organId : UInt8) (amount : UInt64) :
    (metabolismRequestEnergy m organId amount).2 ≤ m.liver.totalEnergyPool ∧
      (metabolismRequestEnergy m organId amount).1.liver =
        { m.liver with
          totalEnergyPool := m.liver.totalEnergyPool - (metabolismRequestEnergy m organId amount).2 } := by
  have hnothing : (0 : UInt64) ≤ m.liver.totalEnergyPool ∧
      m.liver = { m.liver with totalEnergyPool := m.liver.totalEnergyPool - 0 } := by simp
  rw [metabolismRequestEnergy]
  split
  · exact hnothing
  · next i _ =>
    dsimp only
    split
    · exact hnothing
    · exact ⟨granted_le_pool m _ amount, rfl⟩

/-- The liver after a tick: the payment, the regeneration, a new rate. -/
theorem tick_liver (env : Surroundings) (m : Metabolism) (s : Nerves) :
    (metabolismTick env m s).1.liver =
      (match m.liver.payBasal.regeneration (feelFamine env m.liver s).state with
        | some amount => (metabolismGenerateEnergy { m with liver := m.liver.payBasal } amount).liver
        | none => m.liver.payBasal).adapt := by
  have hrecycle : ∀ m' : Metabolism, m'.recycle.liver = m'.liver := by
    intro m'
    rw [Metabolism.recycle]
    dsimp only
    split <;> rfl
  rw [metabolismTick]
  dsimp only
  rw [hrecycle]
  cases m.liver.payBasal.regeneration (feelFamine env m.liver s).state <;> rfl

@[simp] theorem adapt_balanced_iff {l : Liver} {granted : Nat} :
    l.adapt.Balanced granted ↔ l.Balanced granted := Iff.rfl

theorem payBasal_energyGenerated (l : Liver) : l.payBasal.energyGenerated = l.energyGenerated := by
  rw [Liver.payBasal]
  split <;> rfl

/-- The payment does not fill the pool. -/
theorem payBasal_pool_le (l : Liver) : l.payBasal.totalEnergyPool ≤ l.totalEnergyPool := by
  rw [Liver.payBasal]
  split
  · next h => exact UInt64.sub_le (UInt64.le_of_lt h)
  · exact UInt64.zero_le

/-- After a tick the balance is as after the payment. -/
theorem tick_balanced_iff {env : Surroundings} {m : Metabolism} {s : Nerves} {granted : Nat}
    (hfit : m.liver.energyGenerated.toNat +
      ((m.liver.payBasal.regeneration (feelFamine env m.liver s).state).getD 0).toNat < 2 ^ 64)
    (hpool : m.liver.totalEnergyPool.toNat ≤ m.liver.energyGenerated.toNat) :
    (metabolismTick env m s).1.liver.Balanced granted ↔ m.liver.payBasal.Balanced granted := by
  rw [tick_liver, adapt_balanced_iff]
  cases hregen : m.liver.payBasal.regeneration (feelFamine env m.liver s).state with
  | none => exact Iff.rfl
  | some amount =>
    rw [hregen, Option.getD_some] at hfit
    have hpaid := UInt64.le_iff_toNat_le.1 (payBasal_pool_le m.liver)
    have hsame := payBasal_energyGenerated m.liver
    refine generate_balanced_iff (m := { m with liver := m.liver.payBasal }) ?_ ?_
    · rw [hsame]
      exact hfit
    · rw [hsame]
      exact Nat.le_trans hpaid hpool

/-- One call keeps the balance if and only if it is no unbooked famine and no second birth. -/
theorem EconomyStep.balanced_iff {e e' : Economy} {a : Surroundings × MetabolismOp} (hb : e.Balanced)
    (h : EconomyStep e a e') : e'.Balanced ↔ KeepsBalance e a := by
  obtain ⟨env, op⟩ := a
  obtain ⟨hfit, rfl⟩ := h
  rw [Economy.Balanced, Economy.liver] at hb
  have hpool := hb.pool_le
  cases op with
  | init pool =>
    change pool.toNat = pool.toNat + 0 + e.granted ↔ e.granted = 0
    omega
  | registerOrgan organId budget =>
    refine iff_of_true ?_ trivial
    have hliver : (metabolismRegisterOrgan e.metabolism organId budget).liver = e.metabolism.liver := by
      rw [metabolismRegisterOrgan]
      split <;> rfl
    rw [← hliver] at hb
    exact hb
  | requestEnergy organId amount =>
    refine iff_of_true ?_ trivial
    obtain ⟨hle, hliver⟩ := requestEnergy_liver e.metabolism organId amount
    have hle' := UInt64.le_iff_toNat_le.1 hle
    rw [Liver.Balanced] at hb
    simp only [MetabolismOp.run, Economy.Balanced, Economy.liver, hliver, Liver.Balanced,
      UInt64.toNat_sub_of_le _ _ hle]
    omega
  | generateEnergy amount => exact iff_of_true ((generate_balanced_iff hfit hpool).2 hb) trivial
  | tick => exact (tick_balanced_iff hfit hpool).trans hb.payBasal_iff
  | elsewhere nerves => exact iff_of_true hb trivial

/-- The organism is born with an initial pool, whatever the variables held before. -/
def Economy.born (m : Metabolism) (nerves : Nerves) (pool : UInt64) : Economy :=
  ⟨metabolismInit m pool, nerves, 0⟩

theorem born_balanced (m : Metabolism) (nerves : Nerves) (pool : UInt64) :
    (Economy.born m nerves pool).Balanced := rfl

/-- In every run from a birth that overflows no total, the generated energy is always that in the pool, the
wasted and the granted together if and only if no tick finds a pool that holds something without exceeding the
basal rate, and there is no second birth after something was granted. -/
theorem energy_conserved_iff {m : Metabolism} {nerves : Nerves} {pool : UInt64}
    {tr : List ((Surroundings × MetabolismOp) × Economy)}
    (h : Exec EconomyStep (Economy.born m nerves pool) tr) :
    AllStates Economy.Balanced (Economy.born m nerves pool) tr ↔
      AllSteps KeepsBalance (Economy.born m nerves pool) tr :=
  h.allStates_iff_allSteps (I := fun _ => True) trivial (born_balanced m nerves pool)
    (fun _ _ _ _ _ => trivial) fun _ _ _ _ hb hst => hst.balanced_iff hb

/-! ### Two lives -/

/-- The states of a life, each call in the same surroundings. -/
def lifeFrom (e : Economy) : List MetabolismOp → List ((Surroundings × MetabolismOp) × Economy)
  | [] => []
  | op :: ops =>
    let e' := op.run quietSurroundings e
    ((quietSurroundings, op), e') :: lifeFrom e' ops

/-- An organ is registered, gets no more than its budget, and the basal rate is paid. -/
def thriftyLife : List ((Surroundings × MetabolismOp) × Economy) :=
  lifeFrom (.born .boot .boot 1000) [.registerOrgan 0 300, .requestEnergy 0 500, .tick]

theorem exec_thriftyLife : Exec EconomyStep (.born .boot .boot 1000) thriftyLife :=
  ⟨⟨by decide, rfl⟩, ⟨by decide, rfl⟩, ⟨by decide, rfl⟩, trivial⟩

/-- The balance of that life. -/
theorem thriftyLife_balanced : AllStates Economy.Balanced (.born .boot .boot 1000) thriftyLife := by
  refine (energy_conserved_iff exec_thriftyLife).2 ⟨trivial, trivial, .inl ?_, trivial⟩
  decide

/-- The calories that a famine takes are in no account. -/
theorem exists_famine_unbalanced : ∃ (m : Metabolism) (nerves : Nerves) (pool : UInt64)
    (tr : List ((Surroundings × MetabolismOp) × Economy)),
    Exec EconomyStep (Economy.born m nerves pool) tr ∧
      ¬ AllStates Economy.Balanced (Economy.born m nerves pool) tr := by
  have hstep : EconomyStep (.born .boot .boot 50) (quietSurroundings, .tick)
      (MetabolismOp.tick.run quietSurroundings (.born .boot .boot 50)) := ⟨by decide, rfl⟩
  refine ⟨.boot, .boot, 50, lifeFrom (.born .boot .boot 50) [.tick], ⟨hstep, trivial⟩, ?_⟩
  rintro ⟨-, hall⟩
  have hfed := (hstep.balanced_iff (born_balanced _ _ _)).1 (hall _ List.mem_cons_self)
  rcases hfed with hafford | hempty
  · exact absurd hafford (by decide)
  · exact absurd hempty (by decide)

end OperatingOrganism.Vital

import OperatingOrganism.UnitedBus.Calls

/-!
# Are the indices inside the ring?

An absorb ends because its read head walks round a ring that contains the systole. `united_bus_pump`
computes the next systole with the old capacity and then lowers the capacity, so an index that
stands on the last slot is left outside the ring; when it is the systole, the absorb loop of every
other organ can run for ever.

`allStates_inRing_iff` says exactly which pumps do that: along an execution from boot the indices stay
inside the ring, and every absorb ends within `currentCapacity` iterations, if and only if no pump
contracts the ring over an index (`KeepsRing`).
-/

set_option autoImplicit false

namespace OperatingOrganism.UnitedBus

open OperatingOrganism.Execution OperatingOrganism.OrbitWalk

/-- Every index stands inside the ring. -/
structure Bus.InRing (s : Bus) : Prop where
  systole_lt : s.heartSystole < s.currentCapacity
  diastole_lt : s.heartDiastole < s.currentCapacity
  head_lt : ∀ i, s.organReadHeads i < s.currentCapacity

/-- Every absorb loop ends within `currentCapacity` iterations. -/
def Bus.AbsorbsEnd (s : Bus) : Prop :=
  ∀ (o : UInt8) (n : Int), (unitedBusAbsorb s.currentCapacity s o n).isSome

/-- The pump of `g` contracts the ring. -/
def Bus.contracts (s : Bus) (g : Globule) : Prop :=
  s.accepts g ∧ g.type ≠ .white ∧ baseCapacity < s.currentCapacity

/-- No index stands where a contraction leaves it outside: the systole is not two slots away from
the end of the ring, the diastole and the read heads are not on the last slot. A congested ring first
moves the diastole on and takes the read heads on the systole along. -/
def Bus.clearOfLastSlot (s : Bus) : Prop :=
  s.heartSystole + 2 ≠ s.currentCapacity ∧
  s.heartDiastole + 1 ≠ s.currentCapacity ∧
  (s.congested → s.heartDiastole + 2 ≠ s.currentCapacity) ∧
  ∀ i, s.organReadHeads i + 1 = s.currentCapacity →
    s.congested ∧ s.heartSystole + 1 = s.currentCapacity

/-- The call does not contract the ring over an index. -/
def KeepsRing (s : Bus) (a : BusOp × List Globule) : Prop :=
  ∀ g, a.1.pumped = some g → s.contracts g → s.clearOfLastSlot

/-- Inside the ring every absorb ends. -/
theorem Bus.InRing.absorbsEnd {s : Bus} (h : s.InRing) : s.AbsorbsEnd := by
  intro o n
  rw [unitedBusAbsorb]
  split
  · next ho =>
    -- the walk to a systole inside the ring is at most one turn long
    obtain ⟨slots, hw, hlen⟩ := exists_walk h.systole_lt (s.organReadHeads ⟨o.toNat, ho⟩)
    rw [Option.isSome_map]
    exact absorbLoop_isSome hw hlen
  · rfl

theorem pumpedCapacity_of_contracts {s : Bus} {g : Globule} (h : s.contracts g) :
    pumpedCapacity g.type s.currentCapacity = s.currentCapacity - 1 := by
  rw [pumpedCapacity, if_neg h.2.1, if_pos h.2.2]

theorem le_pumpedCapacity {s : Bus} {g : Globule} (hs : s.Bounded) (ha : s.accepts g)
    (h : ¬ s.contracts g) : s.currentCapacity ≤ pumpedCapacity g.type s.currentCapacity := by
  by_cases hw : g.type = .white
  · rw [pumpedCapacity, if_pos hw]
    exact hs.le_volume
  · have hcap : ¬ s.currentCapacity > baseCapacity := fun hgt => h ⟨ha, hw, hgt⟩
    rw [pumpedCapacity, if_neg hw, if_neg hcap]

section Pump

variable {s t : Bus} {g : Globule}

/-- A pump that does not contract the ring keeps the indices inside. -/
theorem PumpedState.inRing_of_not_contracts (h : PumpedState s g t) (hb : s.Bounded)
    (hs : s.InRing) (ha : s.accepts g) (hc : ¬ s.contracts g) : t.InRing := by
  have hle := le_pumpedCapacity hb ha hc
  rw [← h.capacity] at hle
  have hnext : ∀ x, next s.currentCapacity x < t.currentCapacity := fun x =>
    Nat.lt_of_lt_of_le (next_lt hb.capacity_pos x) hle
  refine ⟨?_, ?_, ?_⟩
  · rw [h.systole]
    exact hnext _
  · rw [h.diastole]
    split
    · exact hnext _
    · exact Nat.lt_of_lt_of_le hs.diastole_lt hle
  · intro i
    rw [h.head i]
    split
    · exact hnext _
    · exact Nat.lt_of_lt_of_le (hs.head_lt i) hle

/-- A contracting pump keeps the indices inside exactly when none is left on the slot that goes. -/
theorem PumpedState.inRing_iff_of_contracts (h : PumpedState s g t) (hs : s.InRing)
    (hc : s.contracts g) :
    t.InRing ↔ s.clearOfLastSlot := by
  have hbase : 1024 < s.currentCapacity := hc.2.2
  have hcap : t.currentCapacity = s.currentCapacity - 1 := by
    rw [h.capacity, pumpedCapacity_of_contracts hc]
  have hS := next_cases hs.systole_lt
  have hD := next_cases hs.diastole_lt
  have hcong : s.congested ↔ next s.currentCapacity s.heartSystole = s.heartDiastole := Iff.rfl
  constructor
  · rintro ⟨h₁, h₂, h₃⟩
    rw [h.systole, hcap] at h₁
    rw [h.diastole, hcap] at h₂
    have hsys : s.heartSystole + 2 ≠ s.currentCapacity := by omega
    -- a full ring has moved the diastole on, so the bound is about its successor
    by_cases hfull : s.congested
    · rw [if_pos hfull] at h₂
      rw [hcong] at hfull
      refine ⟨hsys, by omega, fun _ => by omega, ?_⟩
      intro i hi
      have h₃i := h₃ i
      rw [h.head i, hcap] at h₃i
      split at h₃i
      · next hcond => exact ⟨hfull, by omega⟩
      · omega
    · rw [if_neg hfull] at h₂
      refine ⟨hsys, by omega, fun hf => absurd hf hfull, ?_⟩
      intro i hi
      have h₃i := h₃ i
      rw [h.head i, hcap, if_neg fun hcond => hfull hcond.1] at h₃i
      omega
  · rintro ⟨h₁, h₂, h₃, h₄⟩
    refine ⟨?_, ?_, ?_⟩
    · rw [h.systole, hcap]
      omega
    · rw [h.diastole, hcap]
      have := hs.diastole_lt
      split
      · next hfull =>
        have := h₃ hfull
        omega
      · omega
    · intro i
      rw [h.head i, hcap]
      have := hs.head_lt i
      split
      · next hcond =>
        have := h₃ hcond.1
        omega
      · next hcond =>
        -- a head on the last slot would stand on the systole, which the branch moved
        have hlast : s.organReadHeads i + 1 ≠ s.currentCapacity := by
          intro hi
          obtain ⟨hfull, hsys⟩ := h₄ i hi
          exact hcond ⟨hfull, by omega⟩
        omega

end Pump

/-- One call keeps the indices inside the ring exactly when it meets `KeepsRing`. -/
theorem BusStep.inRing_iff {s t : Bus} {a : BusOp × List Globule} (hb : s.Bounded) (hs : s.InRing)
    (h : BusStep s a t) : t.InRing ↔ KeepsRing s a := by
  obtain ⟨op, out⟩ := a
  have hpos := hb.capacity_pos
  rcases busStep_cases h with ⟨rfl, -, rfl⟩ | ⟨g, hg, -, rfl⟩ | ⟨o, n, fuel, rfl, habs⟩ |
    ⟨rfl, -, rfl⟩
  · refine iff_of_true ⟨hpos, hpos, fun _ => hpos⟩ ?_
    intro g hg
    simp [BusOp.pumped] at hg
  · -- the condition speaks of the globule that is pumped
    have hiff : KeepsRing s (op, out) ↔ (s.contracts g → s.clearOfLastSlot) := by
      rw [KeepsRing]
      constructor
      · intro hk
        exact hk g hg
      · intro hk g' hg'
        obtain rfl : g = g' := by
          rw [hg] at hg'
          exact Option.some.inj hg'
        exact hk
    rw [hiff]
    by_cases ha : s.accepts g
    · have hp := (pump_of_accepts ha).2
      by_cases hc : s.contracts g
      · rw [hp.inRing_iff_of_contracts hs hc]
        exact ⟨fun hk _ => hk, fun hk => hk hc⟩
      · exact iff_of_true (hp.inRing_of_not_contracts hb hs ha hc) fun hc' => absurd hc' hc
    · rw [(pump_of_not_accepts ha).2]
      exact iff_of_true ⟨hs.1, hs.2, hs.3⟩ fun hc => absurd hc.1 ha
  · refine iff_of_true ?_ (fun g hg => by simp [BusOp.pumped] at hg)
    obtain ⟨heads, rfl, hheads⟩ := absorb_eq habs
    exact ⟨hs.systole_lt, hs.diastole_lt, hheads _ hpos (Nat.le_refl _) hs.head_lt⟩
  · refine iff_of_true ?_ (fun g hg => by simp [BusOp.pumped] at hg)
    obtain ⟨m, hm, e⟩ := gc_eq s
    rw [e]
    refine ⟨hs.systole_lt, ?_, hs.head_lt⟩
    rcases hm with rfl | ⟨i, rfl⟩
    · exact hs.systole_lt
    · exact hs.head_lt i

theorem boot_inRing : Bus.boot.InRing where
  systole_lt := show 0 < baseCapacity by decide
  diastole_lt := show 0 < baseCapacity by decide
  head_lt _ := show 0 < baseCapacity by decide

/-- A ring whose systole has gone around: seven globules from the slot 1020 on, the ones in even slots for the immune
system, and organs that have read different numbers of them. -/
def wrappedRing : Bus where
  bloodStream slot := ⟨slot, .red, organSensory, if slot % 2 = 0 then organImmune else organSoma, 0, 0⟩
  currentCapacity := baseCapacity
  heartSystole := 3
  heartDiastole := 1015
  health := ⟨0, 1027⟩
  organReadHeads i := if i = 2 then 1020 else if i = 4 then 1 else 3
  nextGlobuleId := 1028

theorem wrappedRing_inRing : wrappedRing.InRing := by
  refine ⟨by decide, by decide, ?_⟩
  exact (by decide : ∀ i, wrappedRing.organReadHeads i < 1024)

/-- Along every execution from boot, the indices are inside the ring and the absorbs end in every
state reached if and only if no call contracts the ring over an index. -/
theorem allStates_inRing_iff {tr : List ((BusOp × List Globule) × Bus)}
    (h : Exec BusStep Bus.boot tr) :
    AllStates (fun s => s.InRing ∧ s.AbsorbsEnd) Bus.boot tr ↔ AllSteps KeepsRing Bus.boot tr := by
  refine h.allStates_iff_allSteps boot_bounded ⟨boot_inRing, boot_inRing.absorbsEnd⟩
    (fun _ _ _ hb hst => hst.bounded hb) ?_
  intro s a t hb hs hst
  rw [← hst.inRing_iff hb hs.1]
  exact ⟨fun ht => ht.1, fun ht => ⟨ht, ht.absorbsEnd⟩⟩

/-- A data globule from the sensory organ to the immune system. -/
def sensoryGlobule : Globule := ⟨0, .red, organSensory, organImmune, 0, 0⟩

/-- An immune alert to everybody. -/
def whiteAlert : Globule := broadcastGlobule .white organImmune 0

/-- The execution of an alert and one contraction. -/
def alertTrace : List ((BusOp × List Globule) × Bus) :=
  [((.pump whiteAlert, []), pumpAll Bus.boot [whiteAlert]),
    ((.pump sensoryGlobule, []), pumpAll Bus.boot [whiteAlert, sensoryGlobule])]

theorem exec_alertTrace : Exec BusStep Bus.boot alertTrace := ⟨⟨0, rfl⟩, ⟨0, rfl⟩, trivial⟩

/-- After an alert and one contraction the indices are inside the ring. -/
theorem allStates_inRing_alert :
    AllStates (fun s => s.InRing ∧ s.AbsorbsEnd) Bus.boot alertTrace := by
  refine (allStates_inRing_iff exec_alertTrace).2 ⟨?_, ?_, trivial⟩
  · intro g hg hc
    obtain rfl : whiteAlert = g := Option.some.inj hg
    exact absurd rfl hc.2.1
  · intro g _ _
    refine ⟨by decide, by decide, fun _ => by decide, ?_⟩
    intro i hi
    exact absurd (show (1 : Nat) = 2048 from hi) (by decide)

/-! ## A contraction that meets the systole -/

/-- One data globule, an alert that expands the ring, and `n` data globules that contract it. -/
def contractingPumps (n : Nat) : List Globule :=
  [sensoryGlobule, whiteAlert] ++ List.replicate n sensoryGlobule

theorem pumpAll_contractingPumps {n : Nat} (hn : n ≤ 1023) :
    (pumpAll Bus.boot (contractingPumps n)).heartSystole = 2 + n ∧
      (pumpAll Bus.boot (contractingPumps n)).currentCapacity = 2048 - n ∧
      (pumpAll Bus.boot (contractingPumps n)).heartDiastole = 0 ∧
      (pumpAll Bus.boot (contractingPumps n)).organReadHeads = fun _ => 0 := by
  have hS : (pumpAll Bus.boot [sensoryGlobule, whiteAlert]).heartSystole = 2 := by decide
  have hC : (pumpAll Bus.boot [sensoryGlobule, whiteAlert]).currentCapacity = 2048 := by decide
  have hD : (pumpAll Bus.boot [sensoryGlobule, whiteAlert]).heartDiastole = 0 := by decide
  have hH : (pumpAll Bus.boot [sensoryGlobule, whiteAlert]).organReadHeads = fun _ => 0 := by
    funext i
    rfl
  have hbase : baseCapacity = 1024 := rfl
  obtain ⟨h₁, h₂, h₃, h₄, -⟩ := pumpAll_advance (g := sensoryGlobule) (by decide) (by decide) n
    (pumpAll Bus.boot [sensoryGlobule, whiteAlert]) hD (by omega) (fun k hk => by omega)
  have e : pumpAll Bus.boot (contractingPumps n) =
      pumpAll (pumpAll Bus.boot [sensoryGlobule, whiteAlert]) (List.replicate n sensoryGlobule) :=
    List.foldl_append
  rw [e, h₁, h₂, h₃, h₄, hS, hC, hH]
  exact ⟨rfl, by omega, rfl, rfl⟩

/-- After 1025 pumps the systole stands on the slot after the last one. -/
theorem exists_exec_not_inRing :
    ∃ tr, Exec BusStep Bus.boot tr ∧
      tr.map Prod.fst = (contractingPumps 1023).map (fun g => (BusOp.pump g, [])) ∧
      ¬ AllStates (fun s => s.InRing ∧ s.AbsorbsEnd) Bus.boot tr := by
  obtain ⟨tr, htr, hlab, hfin⟩ := exec_pumpAll Bus.boot (contractingPumps 1023)
  refine ⟨tr, htr, hlab, ?_⟩
  intro hall
  have hlt := hall.final.1.systole_lt
  obtain ⟨h₁, h₂, -⟩ := pumpAll_contractingPumps (Nat.le_refl 1023)
  rw [hfin, h₁, h₂] at hlt
  omega

/-- An organ that does not stand on such a systole, and that nothing in the array is addressed to,
never returns from an absorb. -/
theorem absorbLoop_never_ends {s : Bus} {o : UInt8} {n : Int} (hb : s.Bounded)
    (hS : s.heartSystole = s.currentCapacity) (hn : 0 < n)
    (haddr : ∀ j < bloodVolume, (s.bloodStream j).addressedTo o = false) :
    ∀ (fuel head : Nat), head ≠ s.heartSystole → head < bloodVolume →
      absorbLoop s o n fuel head [] = none := by
  intro fuel
  induction fuel with
  | zero =>
    intro head hne _
    rw [absorbLoop, if_pos ⟨hne, hn⟩]
  | succ fuel ih =>
    intro head hne hlt
    have hnext := next_lt hb.capacity_pos head
    rw [absorbLoop, if_pos ⟨hne, hn⟩]
    simp only [haddr head hlt]
    apply ih
    · omega
    · exact Nat.lt_of_lt_of_le hnext hb.le_volume

end OperatingOrganism.UnitedBus

import OperatingOrganism.UnitedBus.Bus

/-!
# What one bus call does

One specification for each call, in the terms the later modules use. A pump is refused without any
effect on the ring (`pump_of_not_accepts`) or accepted, and then every field of the new state is
given by `PumpedState` (`pump_of_accepts`). An absorb moves one read head along the walk to the
systole and hands out the addressed globules of the part walked (`absorbLoop_walk`). The static
bounds on the indices, which need no condition on the calls, are `Bus.Bounded`.
-/

set_option autoImplicit false

namespace OperatingOrganism.UnitedBus

open OperatingOrganism.Execution OperatingOrganism.OrbitWalk

/-! ## Pump -/

/-- The globules that the pump accepts. -/
def Bus.accepts (s : Bus) (g : Globule) : Prop := (s.congested → g.priority) ∧ ¬ g.barred

instance (s : Bus) (g : Globule) : Decidable (s.accepts g) :=
  inferInstanceAs (Decidable (_ ∧ _))

/-- The fields of the state after an accepted pump. -/
structure PumpedState (s : Bus) (g : Globule) (t : Bus) : Prop where
  capacity : t.currentCapacity = pumpedCapacity g.type s.currentCapacity
  systole : t.heartSystole = next s.currentCapacity s.heartSystole
  diastole : t.heartDiastole =
    if s.congested then next s.currentCapacity s.heartDiastole else s.heartDiastole
  head : ∀ i, t.organReadHeads i =
    if s.congested ∧ s.organReadHeads i = s.heartSystole then
      next s.currentCapacity s.heartDiastole
    else s.organReadHeads i
  stream : t.bloodStream =
    Function.update s.bloodStream s.heartSystole { g with globuleId := s.nextGlobuleId }
  counter : t.nextGlobuleId = u32 (s.nextGlobuleId + 1)

section Capacity

variable {s t : Bus} {g : Globule}

/-- An alert expands the ring to the whole array. -/
theorem PumpedState.capacity_of_white (h : PumpedState s g t) (hw : g.type = .white) :
    t.currentCapacity = bloodVolume := by
  rw [h.capacity, pumpedCapacity, if_pos hw]

/-- Everything else contracts an expanded ring by one slot. -/
theorem PumpedState.capacity_of_gt (h : PumpedState s g t) (hw : g.type ≠ .white)
    (hgt : baseCapacity < s.currentCapacity) : t.currentCapacity = s.currentCapacity - 1 := by
  rw [h.capacity, pumpedCapacity, if_neg hw, if_pos hgt]

theorem PumpedState.capacity_of_le (h : PumpedState s g t) (hw : g.type ≠ .white)
    (hle : ¬ baseCapacity < s.currentCapacity) : t.currentCapacity = s.currentCapacity := by
  rw [h.capacity, pumpedCapacity, if_neg hw, if_neg hle]

end Capacity

@[simp] theorem congested_countPump (s : Bus) : s.countPump.congested ↔ s.congested := Iff.rfl

@[simp] theorem nextSystole_countPump (s : Bus) : s.countPump.nextSystole = s.nextSystole := rfl

theorem priority_not_barred {g : Globule} (h : g.priority) : ¬ g.barred := by
  rintro ⟨-, hred, -⟩
  rcases h with h | h <;> simp [h] at hred

/-- An accepted pump returns 0; a full ring makes room first. -/
theorem pump_eq_of_accepts {s : Bus} {g : Globule} (h : s.accepts g) :
    unitedBusPump s g =
      ((if s.congested then s.countPump.evict else s.countPump).write s.nextSystole g, 0) := by
  obtain ⟨hprio, hbar⟩ := h
  by_cases hc : s.congested
  · simp [unitedBusPump, hc, hprio hc, hbar]
  · simp [unitedBusPump, hc, hbar]

/-- It writes the globule. -/
theorem pump_of_accepts {s : Bus} {g : Globule} (h : s.accepts g) :
    (unitedBusPump s g).2 = 0 ∧ PumpedState s g (unitedBusPump s g).1 := by
  rw [pump_eq_of_accepts h]
  by_cases hc : s.congested
  · rw [if_pos hc]
    refine ⟨rfl, rfl, rfl, ?_, ?_, rfl, rfl⟩
    · rw [if_pos hc]
      rfl
    · intro i
      by_cases hi : s.organReadHeads i = s.heartSystole
      · rw [if_pos ⟨hc, hi⟩]
        exact if_pos hi
      · rw [if_neg fun h => hi h.2]
        exact if_neg hi
  · rw [if_neg hc]
    refine ⟨rfl, rfl, rfl, ?_, ?_, rfl, rfl⟩
    · rw [if_neg hc]
      rfl
    · intro i
      rw [if_neg fun h => hc h.1]
      rfl

/-- A refused pump only counts itself and the drop. -/
theorem pump_of_not_accepts {s : Bus} {g : Globule} (h : ¬ s.accepts g) :
    (unitedBusPump s g).2 ≠ 0 ∧ (unitedBusPump s g).1 = s.countPump.countDrop := by
  by_cases hc : s.congested ∧ ¬ g.priority
  · have e : unitedBusPump s g = (s.countPump.countDrop, -1) := by
      simp [unitedBusPump, hc]
    rw [e]
    exact ⟨show (-1 : Int) ≠ 0 by decide, rfl⟩
  · have hprio : s.congested → g.priority := fun hcong => by
      by_contra hp
      exact hc ⟨hcong, hp⟩
    have hbar : g.barred := by
      by_contra hb
      exact h ⟨hprio, hb⟩
    -- a full ring accepts nothing that the filter bars, so there is free space
    have hcong : ¬ s.congested := fun hcong => priority_not_barred (hprio hcong) hbar
    have e : unitedBusPump s g = (s.countPump.countDrop, -2) := by
      simp [unitedBusPump, hcong, hbar]
    rw [e]
    exact ⟨show (-2 : Int) ≠ 0 by decide, rfl⟩

theorem pump_eq_zero_iff {s : Bus} {g : Globule} : (unitedBusPump s g).2 = 0 ↔ s.accepts g := by
  constructor
  · intro h
    by_contra hn
    exact (pump_of_not_accepts hn).1 h
  · intro h
    exact (pump_of_accepts h).1

/-- A state property that ignores the health counters and survives accepted pumps survives every
pump. -/
theorem pump_preserves {P : Bus → Prop} {s : Bus} (g : Globule)
    (hdrop : P s → P s.countPump.countDrop)
    (hacc : s.accepts g → PumpedState s g (unitedBusPump s g).1 → P (unitedBusPump s g).1)
    (h : P s) : P (unitedBusPump s g).1 := by
  by_cases ha : s.accepts g
  · exact hacc ha (pump_of_accepts ha).2
  · rw [(pump_of_not_accepts ha).2]
    exact hdrop h

/-! ## Absorb -/

section Absorb

variable {s : Bus} {o : UInt8} {n : Int}

/-- What an iteration keeps holds when the loop returns, and the condition of the loop fails there. -/
theorem absorbLoop_invariant {P : Nat → List Globule → Prop}
    (hstep : ∀ head out, head ≠ s.heartSystole → P head out → P (next s.currentCapacity head)
      (if (s.bloodStream head).addressedTo o then out ++ [s.bloodStream head] else out))
    {fuel head head' : Nat} {out out' : List Globule} (hP : P head out)
    (h : absorbLoop s o n fuel head out = some (head', out')) :
    P head' out' ∧ ¬ (head' ≠ s.heartSystole ∧ (out'.length : Int) < n) := by
  induction fuel generalizing head out with
  | zero =>
    rw [absorbLoop] at h
    split at h
    · cases h
    · next hcond =>
      cases h
      exact ⟨hP, hcond⟩
  | succ fuel ih =>
    rw [absorbLoop] at h
    split at h
    · next hcond => exact ih (hstep head out hcond.1 hP) h
    · next hcond =>
      cases h
      exact ⟨hP, hcond⟩

/-- Along a walk to the systole, the loop leaves a part `pre` of the walk behind, appends its
addressed globules to the buffer, and stands on the walk of the rest. -/
theorem absorbLoop_walk {fuel head head' : Nat} {out out' : List Globule} {slots : List Nat}
    (hw : Walk (next s.currentCapacity) head slots s.heartSystole)
    (h : absorbLoop s o n fuel head out = some (head', out')) :
    ∃ pre post, slots = pre ++ post ∧
      Walk (next s.currentCapacity) head' post s.heartSystole ∧
      out' = out ++ (pre.map s.bloodStream).filter (·.addressedTo o) := by
  refine (absorbLoop_invariant (P := fun head' out' => ∃ pre post, slots = pre ++ post ∧
    Walk (next s.currentCapacity) head' post s.heartSystole ∧
    out' = out ++ (pre.map s.bloodStream).filter (·.addressedTo o)) ?_ ⟨[], slots, rfl, hw, by simp⟩ h).1
  rintro x taken hx ⟨pre, post, rfl, hpost, rfl⟩
  -- the loop goes on, so the head is not the systole and is the first slot of the rest
  obtain ⟨post, rfl, hpost'⟩ := hpost.exists_cons hx
  refine ⟨pre ++ [x], post, by simp, hpost', ?_⟩
  by_cases haddr : (s.bloodStream x).addressedTo o <;> simp [haddr]

/-- A walk to the systole bounds the iterations of the loop. -/
theorem absorbLoop_isSome {fuel head : Nat} {out : List Globule} {slots : List Nat}
    (hw : Walk (next s.currentCapacity) head slots s.heartSystole) (hlen : slots.length ≤ fuel) :
    (absorbLoop s o n fuel head out).isSome := by
  induction fuel generalizing head out slots with
  | zero =>
    obtain rfl : slots = [] := List.eq_nil_of_length_eq_zero (Nat.le_zero.1 hlen)
    have hhead : head = s.heartSystole := Walk.nil_iff.1 hw
    simp [absorbLoop, hhead]
  | succ fuel ih =>
    rw [absorbLoop]
    split
    · next hcond =>
      obtain ⟨slots', rfl, hw'⟩ := hw.exists_cons hcond.1
      exact ih hw' (Nat.le_of_succ_le_succ hlen)
    · rfl

/-- An iteration to spare changes nothing. -/
theorem absorbLoop_succ {fuel head : Nat} {out : List Globule} {r : Nat × List Globule}
    (h : absorbLoop s o n fuel head out = some r) :
    absorbLoop s o n (fuel + 1) head out = some r := by
  induction fuel generalizing head out with
  | zero =>
    rw [absorbLoop] at h
    split at h
    · cases h
    · next hcond =>
      simp only [absorbLoop, if_neg hcond]
      exact h
  | succ fuel ih =>
    rw [absorbLoop] at h ⊢
    split at h
    · next hcond =>
      rw [if_pos hcond]
      exact ih h
    · next hcond =>
      rw [if_neg hcond]
      exact h

/-- More iterations than an absorb needs change nothing. -/
theorem absorb_isSome_mono {fuel fuel' : Nat} (hle : fuel ≤ fuel')
    (h : (unitedBusAbsorb fuel s o n).isSome) : (unitedBusAbsorb fuel' s o n).isSome := by
  induction hle with
  | refl => exact h
  | @step fuel' _ ih =>
    rw [unitedBusAbsorb] at ih ⊢
    split
    · next ho =>
      rw [dif_pos ho, Option.isSome_map] at ih
      obtain ⟨r, hr⟩ := Option.isSome_iff_exists.1 ih
      rw [absorbLoop_succ hr]
      rfl
    · rfl

/-- The loop stops at the systole or with a full buffer. -/
theorem absorbLoop_stop {fuel head head' : Nat} {out out' : List Globule}
    (h : absorbLoop s o n fuel head out = some (head', out')) :
    head' = s.heartSystole ∨ n ≤ (out'.length : Int) := by
  have hcond := (absorbLoop_invariant (P := fun _ _ => True) (fun _ _ _ _ => trivial) trivial h).2
  by_cases hend : head' = s.heartSystole
  · exact .inl hend
  · exact .inr (Int.not_lt.1 fun hlt => hcond ⟨hend, hlt⟩)

/-- The loop keeps every bound that the capacity respects. -/
theorem absorbLoop_head_lt {fuel head head' B : Nat} {out out' : List Globule}
    (hc : 0 < s.currentCapacity) (hB : s.currentCapacity ≤ B) (hhead : head < B)
    (h : absorbLoop s o n fuel head out = some (head', out')) : head' < B := by
  refine (absorbLoop_invariant (P := fun head _ => head < B) ?_ hhead h).1
  intro head _ _ _
  exact Nat.lt_of_lt_of_le (next_lt hc head) hB

/-- An absorb returns at once for an organ without a read head; for the others it moves that read
head only. -/
theorem absorb_cases {fuel : Nat} {t : Bus} {out : List Globule}
    (h : unitedBusAbsorb fuel s o n = some (t, out)) :
    (¬ o.toNat < maxOrgans ∧ t = s ∧ out = []) ∨
    ∃ (ho : o.toNat < maxOrgans) (head : Nat),
      absorbLoop s o n fuel (s.organReadHeads ⟨o.toNat, ho⟩) [] = some (head, out) ∧
      t = s.setHead ⟨o.toNat, ho⟩ head := by
  rw [unitedBusAbsorb] at h
  split at h
  · next ho =>
    obtain ⟨⟨head, out'⟩, hloop, heq⟩ := Option.map_eq_some_iff.1 h
    simp only [Prod.mk.injEq] at heq
    obtain ⟨rfl, rfl⟩ := heq
    exact .inr ⟨ho, head, hloop, rfl⟩
  · next ho =>
    simp only [Option.some.injEq, Prod.mk.injEq] at h
    exact .inl ⟨ho, h.1.symm, h.2.symm⟩

/-- What an absorb hands out comes from the slots and is addressed to the organ. -/
theorem mem_absorb {fuel : Nat} {t : Bus} {out : List Globule} (h : unitedBusAbsorb fuel s o n = some (t, out)) :
    ∀ g ∈ out, ∃ j, s.bloodStream j = g ∧ g.addressedTo o = true := by
  rcases absorb_cases h with ⟨-, -, rfl⟩ | ⟨ho, head, hloop, -⟩
  · intro g hg
    cases hg
  · refine (absorbLoop_invariant (P := fun _ out => ∀ g ∈ out, ∃ j, s.bloodStream j = g ∧ g.addressedTo o = true)
      ?_ ?_ hloop).1
    · intro head taken _ htaken
      -- the slot under the head is appended only if it is addressed to the organ
      split
      · next haddr =>
        intro g hg
        rcases List.mem_append.1 hg with hg | hg
        · exact htaken g hg
        · obtain rfl := List.mem_singleton.1 hg
          exact ⟨head, rfl, haddr⟩
      · exact htaken
    · intro g hg
      cases hg

/-- An absorb changes the read heads only, and keeps them under every bound that the capacity respects. -/
theorem absorb_eq {fuel : Nat} {t : Bus} {out : List Globule}
    (h : unitedBusAbsorb fuel s o n = some (t, out)) :
    ∃ heads, t = { s with organReadHeads := heads } ∧
      ∀ B, 0 < s.currentCapacity → s.currentCapacity ≤ B → (∀ i, s.organReadHeads i < B) → ∀ i, heads i < B := by
  rcases absorb_cases h with ⟨-, rfl, -⟩ | ⟨ho, head, hloop, rfl⟩
  · exact ⟨t.organReadHeads, rfl, fun _ _ _ hlt => hlt⟩
  · refine ⟨(s.setHead ⟨o.toNat, ho⟩ head).organReadHeads, rfl, ?_⟩
    intro B hpos hB hlt i
    by_cases hi : i = ⟨o.toNat, ho⟩
    · subst hi
      rw [setHead_self]
      exact absorbLoop_head_lt hpos hB (hlt _) hloop
    · rw [setHead_of_ne s head hi]
      exact hlt i

/-- An absorb of one globule by an organ whose next slot is addressed to it. -/
theorem busStep_absorb_one {i : Fin maxOrgans} (hi : o.toNat = i)
    (hne : s.organReadHeads i ≠ s.heartSystole)
    (haddr : (s.bloodStream (s.organReadHeads i)).addressedTo o = true) :
    BusStep s (.absorb o 1, [s.bloodStream (s.organReadHeads i)])
      (s.setHead i (next s.currentCapacity (s.organReadHeads i))) := by
  refine ⟨1, ?_⟩
  simp [BusOp.run, unitedBusAbsorb, absorbLoop, hi, hne, haddr]

/-- An absorb with room for the whole window takes what is addressed to the organ, and the organ has
caught up. -/
theorem busStep_absorb_all {i : Fin maxOrgans} {slots : List Nat} (hi : o.toNat = i)
    (hw : Walk (next s.currentCapacity) (s.organReadHeads i) slots s.heartSystole)
    (hn : (slots.length : Int) ≤ n) :
    BusStep s (.absorb o n, (slots.map s.bloodStream).filter (·.addressedTo o))
      (s.setHead i s.heartSystole) := by
  have hlt : o.toNat < maxOrgans := hi ▸ i.isLt
  obtain rfl : i = ⟨o.toNat, hlt⟩ := Fin.ext hi.symm
  have hreturns : (absorbLoop s o n slots.length (s.organReadHeads ⟨o.toNat, hlt⟩) []).isSome :=
    absorbLoop_isSome hw (Nat.le_refl _)
  obtain ⟨⟨head, out⟩, hloop⟩ := Option.isSome_iff_exists.1 hreturns
  obtain ⟨pre, post, rfl, hpost, hout⟩ := absorbLoop_walk hw hloop
  rw [List.nil_append] at hout
  -- a full buffer means that every slot was taken, so the loop ends at the systole in any case
  have hend : head = s.heartSystole := by
    rcases absorbLoop_stop hloop with hend | hfull
    · exact hend
    · have hle : out.length ≤ pre.length := by
        rw [hout, ← List.length_map s.bloodStream]
        exact List.length_filter_le ..
      rw [List.length_append] at hn
      have hnil : post = [] := List.eq_nil_of_length_eq_zero (by omega)
      rw [hnil] at hpost
      exact Walk.nil_iff.1 hpost
  subst hend
  obtain rfl : post = [] := hpost.unique (.here _)
  refine ⟨(pre ++ []).length, ?_⟩
  rw [BusOp.run, unitedBusAbsorb, dif_pos hlt, hloop, List.append_nil, ← hout]
  rfl

end Absorb

/-! ## Garbage collection -/

/-- The new diastole is the systole or a read head. -/
theorem minHead_cases (s : Bus) :
    s.minHead = s.heartSystole ∨ ∃ i, s.minHead = s.organReadHeads i := by
  -- the loop starts at the systole and only ever stores a read head
  rw [Bus.minHead]
  generalize List.finRange maxOrgans = l
  have key : ∀ m : Nat, (m = s.heartSystole ∨ ∃ i, m = s.organReadHeads i) →
      ∀ r, l.foldl (fun minHead i =>
          if s.distance (s.organReadHeads i) > s.distance minHead then s.organReadHeads i
          else minHead) m = r →
        r = s.heartSystole ∨ ∃ i, r = s.organReadHeads i := by
    induction l with
    | nil =>
      rintro m hm r rfl
      exact hm
    | cons i l ih =>
      intro m hm
      apply ih
      dsimp only
      split
      · exact .inr ⟨i, rfl⟩
      · exact hm
  exact key _ (.inl rfl) _ rfl

/-- A collection moves the diastole and nothing else. -/
theorem gc_eq (s : Bus) : ∃ m, (m = s.heartSystole ∨ ∃ i, m = s.organReadHeads i) ∧
    unitedBusGc s = { s with heartDiastole := m } :=
  ⟨s.minHead, minHead_cases s, rfl⟩

/-! ## Bounds that hold whatever is called -/

/-- The capacity stays between its two constants, and every index stays inside the slot array. The
systole may stand one past the last slot of the ring, but never further. -/
structure Bus.Bounded (s : Bus) : Prop where
  base_le : baseCapacity ≤ s.currentCapacity
  le_volume : s.currentCapacity ≤ bloodVolume
  systole_le : s.heartSystole ≤ s.currentCapacity
  systole_lt : s.heartSystole < bloodVolume
  diastole_lt : s.heartDiastole < bloodVolume
  head_lt : ∀ i, s.organReadHeads i < bloodVolume

theorem pumpedCapacity_bounds {c : Nat} (ty : GlobuleType) (h₁ : baseCapacity ≤ c)
    (h₂ : c ≤ bloodVolume) :
    baseCapacity ≤ pumpedCapacity ty c ∧ pumpedCapacity ty c ≤ bloodVolume ∧
      c - 1 ≤ pumpedCapacity ty c := by
  rw [pumpedCapacity]
  unfold baseCapacity bloodVolume at *
  split
  · omega
  · split <;> omega

theorem Bus.Bounded.capacity_pos {s : Bus} (h : s.Bounded) : 0 < s.currentCapacity :=
  Nat.lt_of_lt_of_le (show 0 < baseCapacity by decide) h.base_le

theorem bloodVolume_pos : 0 < bloodVolume := by decide

theorem boot_bounded : Bus.boot.Bounded where
  base_le := Nat.le_refl _
  le_volume := show baseCapacity ≤ bloodVolume by decide
  systole_le := Nat.zero_le _
  systole_lt := bloodVolume_pos
  diastole_lt := bloodVolume_pos
  head_lt _ := bloodVolume_pos

theorem PumpedState.bounded {s t : Bus} {g : Globule} (h : PumpedState s g t) (hs : s.Bounded) :
    t.Bounded := by
  obtain ⟨h₁, h₂, h₃⟩ := pumpedCapacity_bounds g.type hs.base_le hs.le_volume
  have hpos := hs.capacity_pos
  have hnext : ∀ x, next s.currentCapacity x < bloodVolume := fun x =>
    Nat.lt_of_lt_of_le (next_lt hpos x) hs.le_volume
  refine ⟨h.capacity ▸ h₁, h.capacity ▸ h₂, ?_, h.systole ▸ hnext _, ?_, ?_⟩
  · have := next_lt hpos s.heartSystole
    rw [h.capacity, h.systole]
    omega
  · rw [h.diastole]
    split
    · exact hnext _
    · exact hs.diastole_lt
  · intro i
    rw [h.head i]
    split
    · exact hnext _
    · exact hs.head_lt i

/-- Every call keeps the bounds. -/
theorem BusStep.bounded {s t : Bus} {a : BusOp × List Globule} (hs : s.Bounded)
    (h : BusStep s a t) : t.Bounded := by
  obtain ⟨op, out⟩ := a
  have hpos := hs.capacity_pos
  rcases busStep_cases h with ⟨-, -, rfl⟩ | ⟨g, -, -, rfl⟩ | ⟨o, n, fuel, -, habs⟩ | ⟨-, -, rfl⟩
  · exact ⟨hs.base_le, hs.le_volume, Nat.zero_le _, bloodVolume_pos, bloodVolume_pos,
      fun _ => bloodVolume_pos⟩
  · refine pump_preserves (P := Bus.Bounded) g ?_ (fun _ hp => hp.bounded hs) hs
    exact fun h => ⟨h.1, h.2, h.3, h.4, h.5, h.6⟩
  · obtain ⟨heads, rfl, hheads⟩ := absorb_eq habs
    exact ⟨hs.base_le, hs.le_volume, hs.systole_le, hs.systole_lt, hs.diastole_lt,
      hheads _ hpos hs.le_volume hs.head_lt⟩
  · obtain ⟨m, hm, e⟩ := gc_eq s
    rw [e]
    refine ⟨hs.base_le, hs.le_volume, hs.systole_le, hs.systole_lt, ?_, hs.head_lt⟩
    rcases hm with rfl | ⟨i, rfl⟩
    · exact hs.systole_lt
    · exact hs.head_lt i

/-- Every reachable bus is bounded. -/
theorem reachable_bounded {s : Bus} (h : Reachable BusStep Bus.boot s) : s.Bounded :=
  Reachable.invariant h boot_bounded fun _ _ _ hs hst => hst.bounded hs

/-! ## Runs of pumps -/

/-- The state after pumping a list of globules. -/
def pumpAll (s : Bus) (gs : List Globule) : Bus :=
  gs.foldl (fun s g => (unitedBusPump s g).1) s

/-- Pumping a list of globules is an execution. -/
theorem exec_pumpAll (s : Bus) (gs : List Globule) :
    ∃ tr, Exec BusStep s tr ∧ tr.map Prod.fst = gs.map (fun g => (BusOp.pump g, [])) ∧
      final s tr = pumpAll s gs := by
  induction gs generalizing s with
  | nil => exact ⟨[], trivial, rfl, rfl⟩
  | cons g gs ih =>
    obtain ⟨tr, htr, hlab, hfin⟩ := ih (unitedBusPump s g).1
    refine ⟨((.pump g, []), (unitedBusPump s g).1) :: tr, ⟨⟨0, rfl⟩, htr⟩, ?_, hfin⟩
    rw [List.map_cons, List.map_cons, hlab]

/-- While the systole does not meet the end of the ring, every accepted globule other than a WHITE one
moves it by one slot, contracts an expanded ring by one, and leaves the slots below it alone. -/
theorem pumpAll_advance {g : Globule} (hw : g.type ≠ .white) (hb : ¬ g.barred) :
    ∀ (n : Nat) (s : Bus), s.heartDiastole = 0 → baseCapacity ≤ s.currentCapacity →
      (∀ k < n, s.heartSystole + k + 1 < max baseCapacity (s.currentCapacity - k)) →
      (pumpAll s (List.replicate n g)).heartSystole = s.heartSystole + n ∧
        (pumpAll s (List.replicate n g)).currentCapacity =
          max baseCapacity (s.currentCapacity - n) ∧
        (pumpAll s (List.replicate n g)).heartDiastole = 0 ∧
        (pumpAll s (List.replicate n g)).organReadHeads = s.organReadHeads ∧
        ∀ j < s.heartSystole,
          (pumpAll s (List.replicate n g)).bloodStream j = s.bloodStream j := by
  intro n
  induction n with
  | zero =>
    intro s hD hC _
    exact ⟨rfl, (max_eq_right hC).symm, hD, rfl, fun _ _ => rfl⟩
  | succ n ih =>
    intro s hD hC hroom
    -- the induction is on the pumps still to come: the room for them is the room after the first
    have h₀ : s.heartSystole + 1 < s.currentCapacity := by
      have := hroom 0 (Nat.zero_lt_succ n)
      omega
    have hnext : next s.currentCapacity s.heartSystole = s.heartSystole + 1 := next_of_lt h₀
    have hfull : ¬ s.congested := by
      unfold Bus.congested Bus.nextSystole
      omega
    have hp := (pump_of_accepts (s := s) (g := g) ⟨fun hf => absurd hf hfull, hb⟩).2
    have hcap : (unitedBusPump s g).1.currentCapacity =
        max baseCapacity (s.currentCapacity - 1) := by
      rw [hp.capacity, pumpedCapacity, if_neg hw]
      split <;> omega
    have hsys : (unitedBusPump s g).1.heartSystole = s.heartSystole + 1 := hp.systole.trans hnext
    have hdia : (unitedBusPump s g).1.heartDiastole = 0 := by
      rw [hp.diastole, if_neg hfull, hD]
    have hheads : (unitedBusPump s g).1.organReadHeads = s.organReadHeads := by
      funext i
      rw [hp.head i, if_neg fun hcond => hfull hcond.1]
    have hroom' : ∀ k < n, (unitedBusPump s g).1.heartSystole + k + 1 <
        max baseCapacity ((unitedBusPump s g).1.currentCapacity - k) := by
      intro k hk
      have := hroom (k + 1) (Nat.succ_lt_succ hk)
      omega
    obtain ⟨h₁, h₂, h₃, h₄, h₅⟩ := ih (unitedBusPump s g).1 hdia (by omega) hroom'
    rw [List.replicate_succ]
    refine ⟨h₁.trans (by omega), h₂.trans (by omega), h₃, h₄.trans hheads, ?_⟩
    intro j hj
    have hj' : (unitedBusPump s g).1.bloodStream j = s.bloodStream j := by
      rw [hp.stream]
      exact Function.update_of_ne (by omega) ..
    exact (h₅ j (by omega)).trans hj'

end OperatingOrganism.UnitedBus

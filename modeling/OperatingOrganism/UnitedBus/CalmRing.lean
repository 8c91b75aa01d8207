import OperatingOrganism.UnitedBus.RingBounds
import OperatingOrganism.UnitedBus.Window

/-!
# A ring that is never full

A ring of base capacity that data globules alone enter keeps its capacity. As long as a pump never finds it
full, an organ that lags behind the systole no further than the diastole does loses nothing: each globule
lengthens its window by one slot, an absorb shortens it from the front, and a collection puts the diastole on the
read head that lags behind most (`distance_le_minHead`).
-/

set_option autoImplicit false

namespace OperatingOrganism.UnitedBus

open OperatingOrganism.OrbitWalk

/-! ## Distances -/

section Distance

variable {s : Bus} {i : Fin maxOrgans}

/-- The number of slots from `h` to the systole, inside the ring. -/
theorem distance_inside (hb : s.Bounded) {h : Nat} (hS : s.heartSystole < s.currentCapacity)
    (hh : h < s.currentCapacity) :
    (h ≤ s.heartSystole ∧ s.distance h = s.heartSystole - h) ∨
      (s.heartSystole < h ∧ s.distance h = s.currentCapacity - h + s.heartSystole) := by
  have hvol : s.currentCapacity ≤ 2048 := hb.le_volume
  rw [Bus.distance, u32, u32]
  rcases Nat.lt_or_ge s.heartSystole h with hlt | hle
  · refine .inr ⟨hlt, ?_⟩
    rw [Nat.mod_eq_of_lt (a := s.heartSystole + 4294967296 - h) (by omega)]
    rw [show s.heartSystole + 4294967296 - h + s.currentCapacity =
      s.currentCapacity - h + s.heartSystole + 4294967296 by omega, Nat.add_mod_right,
      Nat.mod_eq_of_lt (a := s.currentCapacity - h + s.heartSystole) (by omega)]
    exact Nat.mod_eq_of_lt (by omega)
  · refine .inl ⟨hle, ?_⟩
    rw [show s.heartSystole + 4294967296 - h = s.heartSystole - h + 4294967296 by omega, Nat.add_mod_right,
      Nat.mod_eq_of_lt (a := s.heartSystole - h) (by omega),
      Nat.mod_eq_of_lt (a := s.heartSystole - h + s.currentCapacity) (by omega), Nat.add_mod_right]
    exact Nat.mod_eq_of_lt (by omega)

/-- Distances do not depend on the diastole. -/
theorem distance_setDiastole (s : Bus) (m h : Nat) :
    ({ s with heartDiastole := m } : Bus).distance h = s.distance h := rfl

/-- The window of an organ inside the ring has as many slots as the organ lags behind. -/
theorem Bus.Unread.length_eq (hb : s.Bounded) (hin : s.InRing) {slots : List Nat} (hw : s.Unread i slots) :
    slots.length = s.distance (s.organReadHeads i) := by
  have hdist := distance_inside hb hin.systole_lt (hin.head_lt i)
  have hlen := walk_length_inside hw (hin.head_lt i) hin.systole_lt
  omega

/-- No organ lags behind the systole further than the diastole of a collection. -/
theorem distance_le_minHead (s : Bus) (i : Fin maxOrgans) :
    s.distance (s.organReadHeads i) ≤ s.distance s.minHead := by
  rw [Bus.minHead]
  -- the loop only ever moves to a read head that is farther behind, and it visits `i`
  have key : ∀ (l : List (Fin maxOrgans)) (m : Nat),
      s.distance m ≤ s.distance (l.foldl (fun minHead i =>
        if s.distance (s.organReadHeads i) > s.distance minHead then s.organReadHeads i else minHead) m) ∧
      (i ∈ l → s.distance (s.organReadHeads i) ≤ s.distance (l.foldl (fun minHead i =>
        if s.distance (s.organReadHeads i) > s.distance minHead then s.organReadHeads i else minHead) m)) := by
    intro l
    induction l with
    | nil =>
      intro m
      refine ⟨Nat.le_refl _, ?_⟩
      intro hi
      cases hi
    | cons j l ih =>
      intro m
      rw [List.foldl_cons]
      obtain ⟨hle, hmem⟩ := ih
        (if s.distance (s.organReadHeads j) > s.distance m then s.organReadHeads j else m)
      have hj : s.distance m ≤ s.distance
            (if s.distance (s.organReadHeads j) > s.distance m then s.organReadHeads j else m) ∧
          s.distance (s.organReadHeads j) ≤ s.distance
            (if s.distance (s.organReadHeads j) > s.distance m then s.organReadHeads j else m) := by
        by_cases hgt : s.distance (s.organReadHeads j) > s.distance m
        · rw [if_pos hgt]
          exact ⟨Nat.le_of_lt hgt, Nat.le_refl _⟩
        · rw [if_neg hgt]
          exact ⟨Nat.le_refl _, Nat.le_of_not_lt hgt⟩
      refine ⟨Nat.le_trans hj.1 hle, ?_⟩
      intro hi
      rcases List.mem_cons.1 hi with rfl | hi
      · exact Nat.le_trans hj.2 hle
      · exact hmem hi
  exact (key _ _).2 (List.mem_finRange i)

end Distance

/-! ## The invariant -/

/-- A ring of base capacity with its indices inside, on which organ `i` lags behind the systole no further than
the diastole. -/
structure Bus.Calm (s : Bus) (i : Fin maxOrgans) : Prop where
  bounded : s.Bounded
  inRing : s.InRing
  capacity : s.currentCapacity = baseCapacity
  behind : s.distance (s.organReadHeads i) ≤ s.distance s.heartDiastole

theorem boot_calm (i : Fin maxOrgans) : Bus.boot.Calm i := ⟨boot_bounded, boot_inRing, rfl, Nat.le_refl _⟩

/-- A ring of base capacity does not contract, so its indices stay inside. -/
theorem Bus.Calm.inRing_step {s t : Bus} {i : Fin maxOrgans} (h : s.Calm i) {a : BusOp × List Globule}
    (hst : BusStep s a t) : t.InRing := by
  refine (hst.inRing_iff h.bounded h.inRing).2 fun g _ hc => ?_
  exact absurd h.capacity (Nat.ne_of_gt hc.2.2)

section Pump

variable {s t : Bus} {g : Globule} {i : Fin maxOrgans}

/-- In a ring that is not full, the next systole does not arrive at the read head of the organ. -/
theorem Bus.Calm.distance_lt (h : s.Calm i) (hfree : ¬ s.congested) :
    s.distance (s.organReadHeads i) + 1 < baseCapacity := by
  have hhead := distance_inside h.bounded h.inRing.systole_lt (h.inRing.head_lt i)
  have hdiastole := distance_inside h.bounded h.inRing.systole_lt h.inRing.diastole_lt
  have hbehind := h.behind
  have hcap := h.capacity
  have hS := h.inRing.systole_lt
  have hD := h.inRing.diastole_lt
  by_contra hge
  -- the diastole would be the successor of the systole
  apply hfree
  have hnext := next_cases hS
  rw [Bus.congested, Bus.nextSystole]
  omega

/-- A data globule in a ring that is not full takes the slot under the systole and is the last unread one. -/
theorem Bus.Calm.unread_pump (h : s.Calm i) (hfree : ¬ s.congested) (hp : PumpedState s g t)
    (hdata : g.type ≠ .white) {slots : List Nat} (hw : s.Unread i slots) :
    t.Unread i (slots ++ [s.heartSystole]) := by
  have hcap : ¬ baseCapacity < s.currentCapacity := Nat.not_lt.2 (Nat.le_of_eq h.capacity)
  have hhead : t.organReadHeads i = s.organReadHeads i := hp.head_of_ne fun hc => absurd hc hfree
  refine (hp.unread_iff hhead (hp.capacity_of_le hdata hcap)).2 ?_
  have hlen := hw.length_eq h.bounded h.inRing
  have hlt := h.distance_lt hfree
  have hbase : s.currentCapacity = 1024 := h.capacity
  refine hw.extend (next_ne_self (by omega) _) ?_
  have hS := h.inRing.systole_lt
  have hcapacity := h.capacity
  intro hmem
  have hnext := next_cases hS
  rcases walk_shape hw (h.inRing.head_lt i) hS with ⟨hle, rfl⟩ | ⟨hgt, rfl⟩
  · rw [List.length_range'] at hlen
    have := List.mem_range'_1.1 hmem
    omega
  · rw [List.length_append, List.length_range', List.length_range'] at hlen
    rcases List.mem_append.1 hmem with hmem | hmem
    · have := List.mem_range'_1.1 hmem
      omega
    · have := List.mem_range'_1.1 hmem
      omega

theorem Bus.Calm.pump (h : s.Calm i) (hfree : ¬ s.congested) (ha : s.accepts g) (hdata : g.type ≠ .white) :
    (unitedBusPump s g).1.Calm i := by
  have hst : BusStep s (.pump g, []) (unitedBusPump s g).1 := ⟨0, rfl⟩
  have hp := (pump_of_accepts ha).2
  have hin := h.inRing_step hst
  have hb := hst.bounded h.bounded
  have hcap : (unitedBusPump s g).1.currentCapacity = s.currentCapacity :=
    hp.capacity_of_le hdata (Nat.not_lt.2 (Nat.le_of_eq h.capacity))
  refine ⟨hb, hin, hcap.trans h.capacity, ?_⟩
  have hdiastole : (unitedBusPump s g).1.heartDiastole = s.heartDiastole := by
    rw [hp.diastole, if_neg hfree]
  have hhead : (unitedBusPump s g).1.organReadHeads i = s.organReadHeads i :=
    hp.head_of_ne fun hc => absurd hc hfree
  rw [hdiastole, hhead]
  -- both distances grow by one, and none of them starts again at 0
  have h₁ := distance_inside h.bounded h.inRing.systole_lt (h.inRing.head_lt i)
  have h₂ := distance_inside h.bounded h.inRing.systole_lt h.inRing.diastole_lt
  have h₃ := distance_inside hb hin.systole_lt (hin.head_lt i)
  have h₄ := distance_inside hb hin.systole_lt hin.diastole_lt
  have hlt := h.distance_lt hfree
  have hbehind := h.behind
  have hcapacity := h.capacity
  have hD := h.inRing.diastole_lt
  have hi := h.inRing.head_lt i
  have hnext := next_cases h.inRing.systole_lt
  have hne : next s.currentCapacity s.heartSystole ≠ s.heartDiastole := hfree
  rw [hhead, hp.systole, hcap] at h₃
  rw [hdiastole, hp.systole, hcap] at h₄
  omega

end Pump

section Calls

variable {s t : Bus} {i : Fin maxOrgans} {out : List Globule}

/-- An absorb of the organ brings it nearer to the systole. -/
theorem Bus.Calm.absorb (h : s.Calm i) {o : UInt8} {n : Int} (hst : BusStep s (.absorb o n, out) t) :
    t.Calm i := by
  have hin := h.inRing_step hst
  have hb := hst.bounded h.bounded
  obtain ⟨fuel, habs⟩ := hst
  rcases absorb_cases habs with ⟨-, rfl, -⟩ | ⟨ho, head, hloop, rfl⟩
  · exact h
  · refine ⟨hb, hin, h.capacity, ?_⟩
    by_cases hi : i = ⟨o.toNat, ho⟩
    · subst hi
      obtain ⟨slots, hw, -⟩ := exists_walk h.inRing.systole_lt (s.organReadHeads ⟨o.toNat, ho⟩)
      obtain ⟨pre, post, rfl, hpost, -⟩ := absorbLoop_walk hw hloop
      have hbefore := Bus.Unread.length_eq h.bounded h.inRing hw
      have hafter : post.length = _ := Bus.Unread.length_eq (i := ⟨o.toNat, ho⟩) hb hin
        (by rw [Bus.Unread, setHead_self]; exact hpost)
      rw [List.length_append] at hbefore
      refine Nat.le_trans ?_ h.behind
      rw [← hbefore, ← hafter]
      exact Nat.le_add_left _ _
    · rw [setHead_of_ne s head hi]
      exact h.behind

/-- A collection moves the diastole to the read head that lags behind most. -/
theorem Bus.Calm.gc (h : s.Calm i) : (unitedBusGc s).Calm i := by
  have hst : BusStep s (.gc, []) (unitedBusGc s) := ⟨0, rfl⟩
  obtain ⟨m, hbehind, e⟩ : ∃ m, s.distance (s.organReadHeads i) ≤ s.distance m ∧
      unitedBusGc s = { s with heartDiastole := m } := ⟨s.minHead, distance_le_minHead s i, rfl⟩
  rw [e] at hst ⊢
  refine ⟨hst.bounded h.bounded, h.inRing_step hst, h.capacity, ?_⟩
  rw [distance_setDiastole, distance_setDiastole]
  exact hbehind

/-- The loop stops at once when it stands on the systole or its buffer is full. -/
theorem absorbLoop_stopped {n : Int} {head : Nat} {taken : List Globule} {slots : List Nat}
    (hw : Walk (next s.currentCapacity) head slots s.heartSystole)
    (hstop : ¬ (head ≠ s.heartSystole ∧ (taken.length : Int) < n)) :
    taken = taken ++ (slots.take (n - taken.length).toNat).map s.bloodStream ∧
      Walk (next s.currentCapacity) head (slots.drop (n - taken.length).toNat) s.heartSystole := by
  by_cases hend : head = s.heartSystole
  · subst hend
    rw [hw.unique (.here _), List.take_nil, List.drop_nil, List.map_nil, List.append_nil]
    exact ⟨rfl, .here _⟩
  · have hfull : (n - taken.length).toNat = 0 := by
      have hge : ¬ (taken.length : Int) < n := fun hlt => hstop ⟨hend, hlt⟩
      omega
    rw [hfull, List.take_zero, List.drop_zero, List.map_nil, List.append_nil]
    exact ⟨rfl, hw⟩

/-- When every globule on the walk is addressed to the organ, the loop takes the first ones, as many as it has
room for. -/
theorem absorbLoop_take {o : UInt8} {n : Int} {fuel head head' : Nat} {taken : List Globule} {slots : List Nat}
    (hw : Walk (next s.currentCapacity) head slots s.heartSystole)
    (hall : ∀ x ∈ slots, (s.bloodStream x).addressedTo o = true)
    (h : absorbLoop s o n fuel head taken = some (head', out)) :
    out = taken ++ (slots.take (n - taken.length).toNat).map s.bloodStream ∧
      Walk (next s.currentCapacity) head' (slots.drop (n - taken.length).toNat) s.heartSystole := by
  induction fuel generalizing head taken slots with
  | zero =>
    rw [absorbLoop] at h
    split at h
    · cases h
    · next hstop =>
      cases h
      exact absorbLoop_stopped hw hstop
  | succ fuel ih =>
    rw [absorbLoop] at h
    split at h
    · next hgo =>
      obtain ⟨rest, rfl, hrest⟩ := hw.exists_cons hgo.1
      have hroom : (n - taken.length).toNat = (n - (taken ++ [s.bloodStream head]).length).toNat + 1 := by
        rw [List.length_append, List.length_singleton]
        omega
      dsimp only at h
      rw [if_pos (hall head List.mem_cons_self)] at h
      obtain ⟨hout, hleft⟩ := ih hrest (fun x hx => hall x (List.mem_cons_of_mem head hx)) h
      rw [hroom, List.take_succ_cons, List.drop_succ_cons, List.map_cons, hout, List.append_assoc]
      exact ⟨rfl, hleft⟩
    · next hstop =>
      cases h
      exact absorbLoop_stopped hw hstop

/-- When every unread globule is addressed to the organ, an absorb hands out the oldest ones. -/
theorem absorb_take {o : UInt8} (ho : o.toNat < maxOrgans) {n : Int} {slots : List Nat}
    (hw : s.Unread ⟨o.toNat, ho⟩ slots) (hall : ∀ x ∈ slots, (s.bloodStream x).addressedTo o = true)
    (hst : BusStep s (.absorb o n, out) t) :
    out = (slots.take n.toNat).map s.bloodStream ∧ t.bloodStream = s.bloodStream ∧
      t.Unread ⟨o.toNat, ho⟩ (slots.drop n.toNat) := by
  obtain ⟨fuel, habs⟩ := hst
  rcases absorb_cases habs with ⟨hno, -⟩ | ⟨ho', head, hloop, rfl⟩
  · exact absurd ho hno
  · obtain ⟨hout, hleft⟩ := absorbLoop_take hw hall hloop
    rw [List.length_nil, Int.ofNat_zero, Int.sub_zero] at hout hleft
    refine ⟨hout, rfl, ?_⟩
    rw [Bus.Unread, setHead_self]
    exact hleft

end Calls

end OperatingOrganism.UnitedBus

import OperatingOrganism.UnitedBus.RingBounds
import OperatingOrganism.UnitedBus.Window

/-!
# A pump that changes the capacity

Pending globules are not moved when the capacity changes: the slots an organ has not read are those on
the walk to the systole under the new modulus. `AppendsOnly` says what that change should do to an
organ: nothing but append the new globule.

It does so when neither the window nor the new systole wraps. A contraction over the end of the window
loses globules, an expansion of a wrapped window inserts the slots between the old and the new end.
`appendsOnly_pump_iff` gives the exact positions. They include one coincidence: a read head left behind
in the upper half of the array when the ring contracted to its base capacity skips to the slots
`baseCapacity` below under the old modulus and goes on in the upper half under the new one, and the two
walks have the same number of slots (`Bus.mirrored`).
-/

set_option autoImplicit false

namespace OperatingOrganism.UnitedBus

open OperatingOrganism.Execution OperatingOrganism.OrbitWalk

/-- The unread globules of organ `i` stay as they are and the new one follows them. -/
def AppendsOnly (s t : Bus) (g : Globule) (i : Fin maxOrgans) : Prop :=
  ∃ gs, s.UnreadGlobules i gs ∧ t.UnreadGlobules i (gs ++ [s.stamped g])

/-- The read head of organ `i` stands in the upper half of the array while the ring is at its base
capacity, and the slots from there to the end of the array repeat the slots `baseCapacity` below. -/
def Bus.mirrored (s : Bus) (g : Globule) (i : Fin maxOrgans) : Prop :=
  s.currentCapacity = baseCapacity ∧ baseCapacity ≤ s.organReadHeads i ∧
  ((s.heartSystole + 1 < baseCapacity ∧ s.heartSystole + baseCapacity ≤ s.organReadHeads i) ∨
    (s.heartSystole + 1 = baseCapacity ∧ s.organReadHeads i + 1 < bloodVolume)) ∧
  ∀ j, s.organReadHeads i < j → j < bloodVolume →
    Function.update s.bloodStream s.heartSystole (s.stamped g) j =
      Function.update s.bloodStream s.heartSystole (s.stamped g) (j - baseCapacity)

/-- The positions in which the capacity change of the pump of `g` leaves the window of organ `i`
alone. -/
def Bus.windowSurvives (s : Bus) (g : Globule) (i : Fin maxOrgans) : Prop :=
  if g.type = .white then
    (s.heartSystole + 1 < s.currentCapacity ∧ s.organReadHeads i ≤ s.heartSystole) ∨
      s.mirrored g i
  else s.heartSystole + 2 < s.currentCapacity ∧ s.organReadHeads i ≤ s.heartSystole

section Lengths

variable {c h S : Nat} {l l' : List Nat}

/-- A systole one past the last slot is only met by a reader that stands there. -/
theorem eq_systole_of_walk (hc : 0 < c) (hw : Walk (next c) h l c) : h = c ∧ l = [] := by
  by_cases hhead : h = c
  · subst hhead
    exact ⟨rfl, hw.unique (.here _)⟩
  · exact absurd hw (not_walk_outside hc (Nat.le_refl c) hhead l)

/-- When the capacity drops by one, the walk to the next systole is one slot longer than the walk to
the systole only for a window that does not wrap. -/
theorem straight_of_contraction (hc : 1024 < c) (hv : c ≤ 2048) (hh : h < 2048) (hS : S ≤ c)
    (hw : Walk (next c) h l S) (hw' : Walk (next (c - 1)) h l' (next c S))
    (hlen : l'.length = l.length + 1) : S + 2 < c ∧ h ≤ S := by
  -- a systole past the end is the exception: only a head on it has a window, and an empty one
  rcases Nat.lt_or_eq_of_le hS with hin | rfl
  · have hN := next_cases hin
    rcases Nat.lt_or_ge (next c S) (c - 1) with hlt | hge
    · rcases Nat.lt_or_ge h (c - 1) with h₁ | h₁
      · rcases walk_length_inside hw (by omega) hin with ⟨_, hl⟩ | ⟨_, hl⟩ <;>
          rcases walk_length_inside hw' h₁ hlt with ⟨_, hl'⟩ | ⟨_, hl'⟩ <;> omega
      · -- one step leads the head inside the smaller ring
        have hl' := walk_length_outside hw' h₁ hlt
        rcases Nat.lt_or_ge h c with h₂ | h₂
        · have hout' : next (c - 1) h = 1 := by
            rw [next_outside (by omega) (by omega)]
            omega
          rcases walk_length_inside hw h₂ hin with ⟨_, hl⟩ | ⟨_, hl⟩ <;> omega
        · have hout : next c h = h + 1 - c := next_outside (by omega) (by omega)
          have hl := walk_length_outside hw h₂ hin
          rcases next_outside_cases h₁ (by omega) with ⟨_, hout'⟩ | ⟨_, hout'⟩
          · rcases hl with ⟨_, hl⟩ | ⟨_, hl⟩ <;> rcases hl' with ⟨_, hl'⟩ | ⟨_, hl'⟩ <;> omega
          · omega
    · -- the new systole stands on the slot that went
      have heq : next c S = c - 1 := by omega
      rw [heq] at hw'
      obtain ⟨-, rfl⟩ := eq_systole_of_walk (by omega) hw'
      simp at hlen
  · obtain ⟨rfl, rfl⟩ := eq_systole_of_walk (by omega) hw
    have hN : next h h = 1 := by
      rw [next_outside (by omega) (by omega)]
      omega
    have hN' : next (h - 1) h = 2 := by
      rw [next_outside (by omega) (by omega)]
      omega
    have hl' := walk_length_outside hw' (Nat.sub_le h 1) (by omega)
    simp only [List.length_nil] at hlen
    omega

/-- When the capacity rises to the whole array, the walk to the next systole is one slot longer for a
window that does not wrap, and for a read head in the upper half of the array. -/
theorem straight_or_upper_of_expansion (hc : 1024 ≤ c) (hv : c < 2048) (hh : h < 2048) (hS : S ≤ c)
    (hw : Walk (next c) h l S) (hw' : Walk (next 2048) h l' (next c S))
    (hlen : l'.length = l.length + 1) :
    (S + 1 < c ∧ h ≤ S) ∨ (c = 1024 ∧ 1024 ≤ h ∧
      ((S + 1 < 1024 ∧ S + 1024 ≤ h) ∨ (S + 1 = 1024 ∧ h + 1 < 2048))) := by
  have hl' := walk_length_inside hw' hh (Nat.lt_trans (next_lt (by omega) S) hv)
  -- inside the old ring only straight windows have the right lengths; a head outside it comes back in
  -- after one step
  rcases Nat.lt_or_eq_of_le hS with hin | rfl
  · rcases Nat.lt_or_ge h c with h₁ | h₁
    · rcases next_cases hin with ⟨_, hN⟩ | ⟨_, hN⟩ <;>
        rcases walk_length_inside hw h₁ hin with ⟨_, hl⟩ | ⟨_, hl⟩ <;> omega
    · have hl := walk_length_outside hw h₁ hin
      rcases next_cases hin with ⟨_, hN⟩ | ⟨_, hN⟩ <;>
        rcases next_outside_cases h₁ (by omega) with ⟨_, hout⟩ | ⟨_, hout⟩ <;>
        rcases hl with ⟨_, hl⟩ | ⟨_, hl⟩ <;> omega
  · obtain ⟨rfl, rfl⟩ := eq_systole_of_walk (by omega) hw
    have hN : next h h = 1 := by
      rw [next_outside (by omega) (by omega)]
      omega
    simp only [List.length_nil] at hlen
    omega

/-- The two walks from a read head in the upper half of the array: the old one, with the systole
appended, and the new one agree but for the slots after the head. -/
theorem upper_walks (h₁ : 1024 ≤ h) (h₂ : h < 2048)
    (hpos : (S + 1 < 1024 ∧ S + 1024 ≤ h) ∨ (S + 1 = 1024 ∧ h + 1 < 2048)) :
    ∃ l rest, Walk (next 1024) h l S ∧
      l ++ [S] = h :: (List.range' (h - 1023) (2047 - h) ++ rest) ∧
      Walk (next 2048) h (h :: (List.range' (h + 1) (2047 - h) ++ rest)) (next 1024 S) := by
  have hout := next_outside_cases h₁ (by omega)
  have hfirst : List.range' h (2048 - h) = h :: List.range' (h + 1) (2047 - h) := by
    rw [show 2048 - h = (2047 - h) + 1 by omega, List.range'_succ]
  rcases hpos with ⟨hS, hle⟩ | ⟨hS, hlt⟩
  · have hup : Walk (next 2048) h (List.range' h (2048 - h) ++ List.range' 0 (S + 1)) (S + 1) :=
      walk_wrapped (by omega) h₂
    rw [hfirst, List.cons_append] at hup
    rw [next_of_lt hS]
    -- the old modulus leads the head 1024 slots back, or to slot 0 from the end of the array
    rcases hout with ⟨hlt, hN⟩ | ⟨heq, hN⟩
    · have hk : Walk (next 1024) (next 1024 h)
          (List.range' (h - 1023) (2047 - h) ++ List.range' 0 S) S := by
        rw [hN, show h + 1 - 1024 = h - 1023 by omega, show 2047 - h = 1024 - (h - 1023) by omega]
        exact walk_wrapped (by omega) (by omega)
      refine ⟨_, List.range' 0 (S + 1), walk_outside h₁ (by omega) hk, ?_, hup⟩
      rw [List.range'_concat]
      simp
    · have hk : Walk (next 1024) (next 1024 h) (List.range' 0 S) S := by
        rw [hN]
        exact walk_straight (Nat.zero_le S) (by omega)
      refine ⟨_, List.range' 0 (S + 1), walk_outside h₁ (by omega) hk, ?_, hup⟩
      rw [show 2047 - h = 0 by omega, List.range'_concat]
      simp
  · have hup : Walk (next 2048) h (List.range' h (2048 - h) ++ List.range' 0 0) 0 :=
      walk_wrapped (by omega) h₂
    rw [hfirst, List.cons_append] at hup
    rw [next_last hS]
    have hk : Walk (next 1024) (next 1024 h)
        (List.range' (h - 1023) (S - (h - 1023))) S := by
      rw [show next 1024 h = h - 1023 by omega]
      exact walk_straight (by omega) (by omega)
    refine ⟨_, [], walk_outside h₁ (by omega) hk, ?_, hup⟩
    rw [show 2047 - h = (S - (h - 1023)) + 1 by omega, List.range'_concat, Nat.one_mul,
      show h - 1023 + (S - (h - 1023)) = S by omega]
    simp

/-- Reading two stretches of slots gives the same globules exactly when they agree slot by slot. -/
theorem map_range'_eq_iff {β : Type} (f : Nat → β) (a d n : Nat) :
    (List.range' a n).map f = (List.range' (a + d) n).map f ↔
      ∀ j, a + d ≤ j → j < a + d + n → f j = f (j - d) := by
  induction n generalizing a with
  | zero =>
    refine iff_of_true rfl ?_
    intro j h₁ h₂
    omega
  | succ n ih =>
    rw [List.range'_succ, List.range'_succ, List.map_cons, List.map_cons, List.cons.injEq,
      show a + d + 1 = a + 1 + d by omega, ih]
    constructor
    · rintro ⟨h₀, h⟩ j h₁ h₂
      rcases Nat.lt_or_ge (a + d) j with hlt | hge
      · exact h j (by omega) (by omega)
      · obtain rfl : j = a + d := by omega
        rw [Nat.add_sub_cancel]
        exact h₀.symm
    · intro h
      refine ⟨?_, fun j h₁ h₂ => h j (by omega) (by omega)⟩
      have := h (a + d) (by omega) (by omega)
      rw [Nat.add_sub_cancel] at this
      exact this.symm

end Lengths

section Pumped

variable {s t : Bus} {g : Globule} {i : Fin maxOrgans}

/-- A window that wraps under neither modulus is extended by the old systole. -/
theorem PumpedState.unread_of_straight (h : PumpedState s g t)
    (hhead : t.organReadHeads i = s.organReadHeads i)
    (hS : s.heartSystole + 1 < s.currentCapacity) (hS' : s.heartSystole + 1 < t.currentCapacity)
    (hle : s.organReadHeads i ≤ s.heartSystole) :
    ∃ slots, s.Unread i slots ∧ t.Unread i (slots ++ [s.heartSystole]) := by
  refine ⟨_, walk_straight hle (by omega), (h.unread_iff hhead rfl).2 ?_⟩
  rw [Bus.nextSystole, next_of_lt hS]
  have hw := walk_straight (c := t.currentCapacity) (b := s.heartSystole + 1)
    (Nat.le_succ_of_le hle) hS'
  rwa [show s.heartSystole + 1 - s.organReadHeads i =
    (s.heartSystole - s.organReadHeads i) + 1 by omega, List.range'_concat, Nat.one_mul,
    show s.organReadHeads i + (s.heartSystole - s.organReadHeads i) = s.heartSystole by omega] at hw

/-- A window that is extended by the old systole grows by the new globule. -/
theorem PumpedState.appendsOnly_of_unread (h : PumpedState s g t) {slots : List Nat}
    (hw : s.Unread i slots) (hw' : t.Unread i (slots ++ [s.heartSystole])) :
    AppendsOnly s t g i :=
  ⟨_, ⟨slots, hw, rfl⟩, _, hw', (h.map_stream hw).symm⟩

/-- The law, read off two walks. -/
theorem PumpedState.appendsOnly_iff_of_walks (h : PumpedState s g t) {l l' : List Nat}
    (hw : s.Unread i l) (hw' : t.Unread i l') :
    AppendsOnly s t g i ↔ (l ++ [s.heartSystole]).map t.bloodStream = l'.map t.bloodStream := by
  rw [h.map_stream hw]
  constructor
  · rintro ⟨gs, hgs, hgs'⟩
    rw [← hgs.of_unread hw]
    exact hgs'.of_unread hw'
  · intro heq
    exact ⟨_, ⟨l, hw, rfl⟩, l', hw', heq⟩

/-- The two walks behind the law, with their lengths. -/
theorem AppendsOnly.walks (hlaw : AppendsOnly s t g i) :
    ∃ l l', s.Unread i l ∧ t.Unread i l' ∧ l'.length = l.length + 1 := by
  obtain ⟨-, ⟨l, hw, rfl⟩, l', hw', heq⟩ := hlaw
  refine ⟨l, l', hw, hw', ?_⟩
  have hlen := congrArg List.length heq
  rw [List.length_append, List.length_map, List.length_map, List.length_singleton] at hlen
  exact hlen.symm

/-- For a read head in the upper half of the array the law is the coincidence of the contents. -/
theorem PumpedState.appendsOnly_iff_of_upper (h : PumpedState s g t) (hb : s.Bounded)
    (hfull : ¬ s.congested) (hc : s.currentCapacity = 1024) (ht : t.currentCapacity = 2048)
    (h₁ : 1024 ≤ s.organReadHeads i)
    (hpos : (s.heartSystole + 1 < 1024 ∧ s.heartSystole + 1024 ≤ s.organReadHeads i) ∨
      (s.heartSystole + 1 = 1024 ∧ s.organReadHeads i + 1 < 2048)) :
    AppendsOnly s t g i ↔
      ∀ j, s.organReadHeads i < j → j < 2048 → t.bloodStream j = t.bloodStream (j - 1024) := by
  have hlt : s.organReadHeads i < 2048 := hb.head_lt i
  obtain ⟨l, rest, hw, hl, hw'⟩ := upper_walks h₁ hlt hpos
  have hu : s.Unread i l := by
    rw [Bus.Unread, hc]
    exact hw
  have hu' : t.Unread i (s.organReadHeads i ::
      (List.range' (s.organReadHeads i + 1) (2047 - s.organReadHeads i) ++ rest)) := by
    rw [h.unread_iff (h.head_of_ne fun hcong => absurd hcong hfull) ht, Bus.nextSystole, hc]
    exact hw'
  rw [h.appendsOnly_iff_of_walks hu hu', hl]
  simp only [List.map_cons, List.map_append, List.cons.injEq, true_and, List.append_left_inj]
  -- slot j of the new window stands where slot j - 1024 stood in the old one
  have key := map_range'_eq_iff t.bloodStream (s.organReadHeads i - 1023) 1024
    (2047 - s.organReadHeads i)
  rw [show s.organReadHeads i - 1023 + 1024 = s.organReadHeads i + 1 by omega] at key
  rw [key]
  constructor
  · intro hj j h₂ h₃
    exact hj j h₂ (by omega)
  · intro hj j h₂ h₃
    exact hj j h₂ (by omega)

end Pumped

/-- The window law of a pump that changes the capacity of a ring with free space, for every state
whose indices are bounded. -/
theorem appendsOnly_of_bounded_iff {s : Bus} {g : Globule} {i : Fin maxOrgans} (hb : s.Bounded)
    (hfull : ¬ s.congested) (ha : s.accepts g)
    (hcap : (unitedBusPump s g).1.currentCapacity ≠ s.currentCapacity) :
    AppendsOnly s (unitedBusPump s g).1 g i ↔ s.windowSurvives g i := by
  have hp := (pump_of_accepts ha).2
  have hbase : 1024 ≤ s.currentCapacity := hb.base_le
  have hvol : s.currentCapacity ≤ 2048 := hb.le_volume
  have hhead : (unitedBusPump s g).1.organReadHeads i = s.organReadHeads i :=
    hp.head_of_ne fun hc => absurd hc hfull
  rw [Bus.windowSurvives]
  by_cases hw : g.type = .white
  · rw [if_pos hw]
    have ht : (unitedBusPump s g).1.currentCapacity = 2048 := hp.capacity_of_white hw
    have hlt : s.currentCapacity < 2048 := by omega
    constructor
    · intro hlaw
      obtain ⟨l, l', hu, hu', hlen⟩ := hlaw.walks
      rw [hp.unread_iff hhead ht] at hu'
      rcases straight_or_upper_of_expansion hbase hlt (hb.head_lt i) hb.systole_le hu hu' hlen with
        hstraight | ⟨hc, h₁, hpos⟩
      · exact .inl hstraight
      · refine .inr ⟨hc, h₁, hpos, ?_⟩
        have hmirror := (hp.appendsOnly_iff_of_upper hb hfull hc ht h₁ hpos).1 hlaw
        rw [hp.stream] at hmirror
        exact hmirror
    · rintro (⟨hS, hle⟩ | ⟨hc, h₁, hpos, hmirror⟩)
      · obtain ⟨slots, hu, hu'⟩ := hp.unread_of_straight hhead hS (by omega) hle
        exact hp.appendsOnly_of_unread hu hu'
      · apply (hp.appendsOnly_iff_of_upper hb hfull hc ht h₁ hpos).2
        rw [hp.stream]
        exact hmirror
  · rw [if_neg hw]
    have hgt : baseCapacity < s.currentCapacity := by
      by_contra hle
      exact hcap (hp.capacity_of_le hw hle)
    have ht := hp.capacity_of_gt hw hgt
    constructor
    · intro hlaw
      obtain ⟨l, l', hu, hu', hlen⟩ := hlaw.walks
      rw [hp.unread_iff hhead ht] at hu'
      exact straight_of_contraction hgt hvol (hb.head_lt i) hb.systole_le hu hu' hlen
    · rintro ⟨hS, hle⟩
      obtain ⟨slots, hu, hu'⟩ := hp.unread_of_straight hhead (by omega) (by omega) hle
      exact hp.appendsOnly_of_unread hu hu'

/-- In every reachable state with free space, an accepted pump that changes the capacity appends the
new globule to the window of organ `i`, and does nothing else to it, if and only if the positions
survive the change of the modulus. -/
theorem appendsOnly_pump_iff {s : Bus} {g : Globule} (hs : Reachable BusStep Bus.boot s)
    (hfull : s.nextSystole ≠ s.heartDiastole) (hacc : (unitedBusPump s g).2 = 0)
    (hcap : (unitedBusPump s g).1.currentCapacity ≠ s.currentCapacity) (i : Fin maxOrgans) :
    AppendsOnly s (unitedBusPump s g).1 g i ↔ s.windowSurvives g i :=
  appendsOnly_of_bounded_iff (reachable_bounded hs) hfull (pump_eq_zero_iff.1 hacc) hcap

/-- A contraction behind two globules that nobody has read appends its own to every window. -/
theorem appendsOnly_contraction :
    AppendsOnly (pumpAll Bus.boot [whiteAlert, sensoryGlobule])
      (unitedBusPump (pumpAll Bus.boot [whiteAlert, sensoryGlobule]) sensoryGlobule).1 sensoryGlobule 0 := by
  obtain ⟨tr, htr, -, hfin⟩ := exec_pumpAll Bus.boot [whiteAlert, sensoryGlobule]
  have hreach := htr.reachable Relation.ReflTransGen.refl
  rw [hfin] at hreach
  refine (appendsOnly_pump_iff hreach (by decide) (by decide) (by decide) 0).2 ?_
  rw [Bus.windowSurvives, if_neg (show sensoryGlobule.type ≠ .white by decide)]
  exact ⟨by decide, by decide⟩

/-- A contraction that meets the systole cuts the readers off from their windows. -/
theorem exists_not_appendsOnly :
    ∃ s g, Reachable BusStep Bus.boot s ∧ s.nextSystole ≠ s.heartDiastole ∧
      (unitedBusPump s g).2 = 0 ∧ (unitedBusPump s g).1.currentCapacity ≠ s.currentCapacity ∧
      ¬ ∀ i, AppendsOnly s (unitedBusPump s g).1 g i := by
  obtain ⟨tr, htr, -, hfin⟩ := exec_pumpAll Bus.boot (contractingPumps 1022)
  obtain ⟨hS, hC, hD, -⟩ := pumpAll_contractingPumps (n := 1022) (by omega)
  have hreach := htr.reachable Relation.ReflTransGen.refl
  rw [hfin] at hreach
  generalize pumpAll Bus.boot (contractingPumps 1022) = s at hS hC hD hreach
  have hN : s.nextSystole = 1025 := by
    rw [Bus.nextSystole, hS, hC]
    rfl
  have hfull : ¬ s.congested := by
    intro hcong
    have hcong : s.nextSystole = s.heartDiastole := hcong
    omega
  have ha : s.accepts sensoryGlobule := ⟨fun hcong => absurd hcong hfull, by decide⟩
  have hcap : (unitedBusPump s sensoryGlobule).1.currentCapacity ≠ s.currentCapacity := by
    rw [(pump_of_accepts ha).2.capacity, hC]
    decide
  refine ⟨s, sensoryGlobule, hreach, hfull, (pump_of_accepts ha).1, hcap, ?_⟩
  intro hall
  have hpos := (appendsOnly_of_bounded_iff (reachable_bounded hreach) hfull ha hcap).1 (hall 0)
  rw [Bus.windowSurvives, if_neg (by decide)] at hpos
  omega

end OperatingOrganism.UnitedBus

import OperatingOrganism.UnitedBus.Calls

/-!
# The unread globules of an organ, and a pump into a full ring

The slots an organ has not read are those on the walk from its read head to the systole. A full ring
makes room for a WHITE or YELLOW globule by giving up its oldest slot, the one under the diastole.
What that should mean for an organ is `EvictsOldestOnly`: it loses that globule if it had not read
it, and gains the new one.

The congestion branch compares the read heads with the systole before it moves. An organ that has read
everything stands there and is thrown back to the oldest slot; an organ that has read nothing stands on
the evicted slot, where the systole arrives, and loses its whole window. For every other organ the
law holds (`evictsOldestOnly_iff`).
-/

set_option autoImplicit false

namespace OperatingOrganism.UnitedBus

open OperatingOrganism.Execution OperatingOrganism.OrbitWalk

/-- The slots from the read head of organ `i` up to the systole. -/
def Bus.Unread (s : Bus) (i : Fin maxOrgans) (slots : List Nat) : Prop :=
  Walk (next s.currentCapacity) (s.organReadHeads i) slots s.heartSystole

/-- The globules in the unread slots of organ `i`. -/
def Bus.UnreadGlobules (s : Bus) (i : Fin maxOrgans) (gs : List Globule) : Prop :=
  ∃ slots, s.Unread i slots ∧ gs = slots.map s.bloodStream

/-- The globule as the pump stores it. -/
def Bus.stamped (s : Bus) (g : Globule) : Globule := { g with globuleId := s.nextGlobuleId }

theorem Bus.UnreadGlobules.of_unread {s : Bus} {i : Fin maxOrgans} {slots : List Nat}
    {gs : List Globule} (h : s.UnreadGlobules i gs) (hu : s.Unread i slots) :
    gs = slots.map s.bloodStream := by
  obtain ⟨slots', hu', rfl⟩ := h
  rw [hu.unique hu']

/-- An organ on the systole has read everything. -/
theorem Bus.Unread.of_caught_up {s : Bus} {i : Fin maxOrgans} {slots : List Nat}
    (hw : s.Unread i slots) (heq : s.organReadHeads i = s.heartSystole) : slots = [] := by
  rw [Bus.Unread, heq] at hw
  exact hw.unique (.here _)

/-- An absorb of another organ leaves the window as it is. -/
theorem Bus.Unread.absorb_other {s t : Bus} {i : Fin maxOrgans} {slots : List Nat} (hw : s.Unread i slots)
    {o : UInt8} (hne : o.toNat ≠ i) {fuel : Nat} {n : Int} {out : List Globule}
    (h : unitedBusAbsorb fuel s o n = some (t, out)) : t.Unread i slots := by
  rcases absorb_cases h with ⟨-, rfl, -⟩ | ⟨ho, head, -, rfl⟩
  · exact hw
  · have hi : i ≠ ⟨o.toNat, ho⟩ := fun h => hne (congrArg Fin.val h).symm
    rw [Bus.Unread, setHead_of_ne s head hi]
    exact hw

/-- The systole is inside the ring unless the organ stands on it. -/
theorem Bus.Unread.systole_lt {s : Bus} {i : Fin maxOrgans} {slots : List Nat}
    (hw : s.Unread i slots) (hpos : 0 < s.currentCapacity)
    (hne : s.organReadHeads i ≠ s.heartSystole) : s.heartSystole < s.currentCapacity := by
  by_contra hge
  exact not_walk_outside hpos (Nat.le_of_not_lt hge) hne slots hw

section Pumped

variable {s t : Bus} {g : Globule} {i : Fin maxOrgans}

/-- The write leaves the unread slots alone and puts the new globule under the old systole. -/
theorem PumpedState.map_stream (h : PumpedState s g t) {slots : List Nat}
    (hw : s.Unread i slots) :
    (slots ++ [s.heartSystole]).map t.bloodStream = slots.map s.bloodStream ++ [s.stamped g] := by
  have hnot := hw.target_not_mem
  rw [List.map_append, h.stream]
  congr 1
  · apply List.map_congr_left
    intro x hx
    apply Function.update_of_ne
    rintro rfl
    exact hnot hx
  · simp [Bus.stamped]

/-- The read head of an organ that the congestion branch does not throw back. -/
theorem PumpedState.head_of_ne (h : PumpedState s g t)
    (hne : s.congested → s.organReadHeads i ≠ s.heartSystole) :
    t.organReadHeads i = s.organReadHeads i := by
  rw [h.head i, if_neg]
  rintro ⟨hc, heq⟩
  exact hne hc heq

/-- The unread slots after a pump that leaves the read head alone. -/
theorem PumpedState.unread_iff (h : PumpedState s g t)
    (hhead : t.organReadHeads i = s.organReadHeads i) {c : Nat} (hc : t.currentCapacity = c)
    {slots : List Nat} :
    t.Unread i slots ↔ Walk (next c) (s.organReadHeads i) slots s.nextSystole := by
  rw [Bus.Unread, hhead, hc, h.systole]
  rfl

end Pumped

/-! ## Is the new globule read? -/

/-- A pump of `g` that is not an alert into a ring with free space writes a slot that organ `i` goes by: the next
systole stays inside the ring, and the organ stands on the old one or comes by it on its way. It does not come by
when the next systole arrives at its read head, nor when it comes back from outside the ring at the next
systole. -/
def Bus.comesBy (s : Bus) (g : Globule) (i : Fin maxOrgans) : Prop :=
  let c := pumpedCapacity g.type s.currentCapacity
  s.nextSystole < c ∧
    (s.organReadHeads i = s.heartSystole ∨
      (s.heartSystole < c ∧ s.organReadHeads i ≠ s.nextSystole ∧
        (s.organReadHeads i < c ∨ next c (s.organReadHeads i) ≠ s.nextSystole)))

instance (s : Bus) (g : Globule) (i : Fin maxOrgans) : Decidable (s.comesBy g i) :=
  inferInstanceAs (Decidable (_ ∧ _))

section Written

variable {s t : Bus} {g : Globule} {i : Fin maxOrgans}

/-- While the next systole and the old one are inside the ring that the pump leaves, the one is the successor of
the other there too. -/
theorem next_pumpedCapacity (hb : s.Bounded) (hdata : g.type ≠ .white)
    (hN : s.nextSystole < pumpedCapacity g.type s.currentCapacity)
    (hS : s.heartSystole < pumpedCapacity g.type s.currentCapacity) :
    next (pumpedCapacity g.type s.currentCapacity) s.heartSystole = s.nextSystole := by
  have hbase : 1024 ≤ s.currentCapacity := hb.base_le
  rw [pumpedCapacity, if_neg hdata] at hN hS ⊢
  split at hN
  · next hgt =>
    rw [if_pos hgt] at hS ⊢
    rw [Bus.nextSystole] at hN ⊢
    have hold := next_cases (c := s.currentCapacity) (a := s.heartSystole) (by omega)
    have hnew := next_cases hS
    omega
  · next hle =>
    rw [if_neg hle]
    rfl

/-- The slot that an accepted pump writes into a ring with free space is in the window of organ `i` if and only if
the organ comes by it. -/
theorem PumpedState.written_unread_iff (h : PumpedState s g t) (hb : s.Bounded) (hfree : ¬ s.congested)
    (hdata : g.type ≠ .white) :
    (∃ slots, t.Unread i slots ∧ s.heartSystole ∈ slots) ↔ s.comesBy g i := by
  have hhead : t.organReadHeads i = s.organReadHeads i := h.head_of_ne fun hc => absurd hc hfree
  simp only [h.unread_iff hhead h.capacity]
  have hpos : 0 < pumpedCapacity g.type s.currentCapacity :=
    Nat.lt_of_lt_of_le (show 0 < baseCapacity by decide) (pumpedCapacity_bounds g.type hb.base_le hb.le_volume).1
  have hbase : 1024 ≤ s.currentCapacity := hb.base_le
  constructor
  · rintro ⟨slots, hw, hmem⟩
    have hne : s.organReadHeads i ≠ s.nextSystole := by
      intro heq
      obtain rfl : slots = [] := by
        rw [heq] at hw
        exact hw.unique (.here _)
      cases hmem
    have hN : s.nextSystole < pumpedCapacity g.type s.currentCapacity := by
      by_contra hge
      exact not_walk_outside hpos (Nat.le_of_not_lt hge) hne slots hw
    refine ⟨hN, ?_⟩
    by_cases hself : s.organReadHeads i = s.heartSystole
    · exact .inl hself
    · -- the old systole is not the first slot of the walk, so it is inside the ring
      have hS : s.heartSystole < pumpedCapacity g.type s.currentCapacity := by
        rcases hw.mem_ring hpos _ hmem with heq | hlt
        · exact absurd heq.symm hself
        · exact hlt
      refine .inr ⟨hS, hne, ?_⟩
      by_contra hboth
      rw [not_or, not_not] at hboth
      obtain ⟨rest, rfl, hrest⟩ := hw.exists_cons hne
      rw [hboth.2] at hrest
      rw [hrest.unique (.here _), List.mem_singleton] at hmem
      exact hself hmem.symm
  · rintro ⟨hN, hcome⟩
    obtain ⟨slots, hw, -⟩ := exists_walk hN (s.organReadHeads i)
    refine ⟨slots, hw, ?_⟩
    rcases hcome with hself | ⟨hS, hne, hin⟩
    · obtain ⟨rest, rfl, -⟩ := hw.exists_cons (by
        rw [hself]
        exact (next_ne_self (by omega) _).symm)
      rw [hself]
      exact List.mem_cons_self
    · -- the walk arrives from a slot of the ring, and the next systole has one predecessor there
      obtain ⟨l, x, rfl, hx⟩ := hw.exists_snoc hne
      have hxin : x < pumpedCapacity g.type s.currentCapacity := by
        rcases hw.mem_ring hpos x (List.mem_append_right _ (List.mem_singleton_self x)) with heq | hlt
        · rcases hin with hlt | hother
          · exact heq ▸ hlt
          · exact absurd (heq ▸ hx) hother
        · exact hlt
      have heq : x = s.heartSystole :=
        next_inj hxin hS (hx.trans (next_pumpedCapacity hb hdata hN hS).symm)
      rw [← heq]
      exact List.mem_append_right _ (List.mem_singleton_self x)

end Written

/-! ## Pumping into a full ring -/

/-- Organ `i` loses the globule in the evicted slot, if it had not read it, and gains the new one. -/
def EvictsOldestOnly (s t : Bus) (g : Globule) (i : Fin maxOrgans) : Prop :=
  ∃ slots, s.Unread i slots ∧
    t.UnreadGlobules i
      ((slots.filter (· ≠ s.heartDiastole)).map s.bloodStream ++ [s.stamped g])

section Full

variable {s t : Bus} {g : Globule} {i : Fin maxOrgans}

/-- In a full ring the law needs the systole inside the ring and a read head that stands neither on
the evicted slot nor on a slot whose successor it is. -/
theorem evictsOldestOnly_of (h : PumpedState s g t) (hpos : 0 < s.currentCapacity)
    (hfull : s.congested) (hcap : t.currentCapacity = s.currentCapacity)
    (hS : s.heartSystole < s.currentCapacity) (hD : s.organReadHeads i ≠ s.heartDiastole)
    (hN : next s.currentCapacity (s.organReadHeads i) ≠ s.heartDiastole) :
    EvictsOldestOnly s t g i := by
  obtain ⟨slots, hw, -⟩ := exists_walk hS (s.organReadHeads i)
  -- the successor of the systole is the diastole, so the head is not on the systole
  have hne : s.organReadHeads i ≠ s.heartSystole := by
    intro heq
    exact hN (by rw [heq]; exact hfull)
  -- the evicted slot is not on the walk: its only predecessor inside the ring is the systole
  have hnot : s.heartDiastole ∉ slots := by
    intro hmem
    rcases hw.mem_pred _ hmem with heq | ⟨x, hx, hxD⟩
    · exact hD heq.symm
    · rcases hw.mem_ring hpos x hx with rfl | hlt
      · exact hN hxD
      · have hxS : x = s.heartSystole := by
          have h₁ := next_cases hlt
          have h₂ := next_cases hS
          have h₃ : next s.currentCapacity s.heartSystole = s.heartDiastole := hfull
          omega
        exact hw.target_not_mem (hxS ▸ hx)
  have hDS : next s.currentCapacity s.heartSystole ≠ s.heartSystole := by
    intro heq
    obtain ⟨l', rfl, -⟩ := hw.exists_cons hne
    have h₁ := next_cases hS
    have h₂ : s.currentCapacity = 1 := by omega
    have h₃ := next_lt hpos (s.organReadHeads i)
    have h₄ : next s.currentCapacity s.heartSystole = s.heartDiastole := hfull
    omega
  refine ⟨slots, hw, slots ++ [s.heartSystole], ?_, ?_⟩
  · apply (h.unread_iff (h.head_of_ne fun _ => hne) hcap).2
    refine hw.extend hDS ?_
    rw [show next s.currentCapacity s.heartSystole = s.heartDiastole from hfull]
    exact hnot
  · rw [h.map_stream hw, List.filter_eq_self.2]
    intro x hx
    rw [decide_eq_true_eq]
    rintro rfl
    exact hnot hx

/-- Outside these positions the law fails. -/
theorem not_evictsOldestOnly (h : PumpedState s g t) (hpos : 2 < s.currentCapacity)
    (hfull : s.congested) (hcap : t.currentCapacity = s.currentCapacity)
    (hpos' : ¬ (s.heartSystole < s.currentCapacity ∧ s.organReadHeads i ≠ s.heartDiastole ∧
      next s.currentCapacity (s.organReadHeads i) ≠ s.heartDiastole)) :
    ¬ EvictsOldestOnly s t g i := by
  rintro ⟨slots, hw, slots', hw', heq⟩
  have hlen := congrArg List.length heq
  rw [List.length_append, List.length_map, List.length_map, List.length_singleton] at hlen
  have hfull' : next s.currentCapacity s.heartSystole = s.heartDiastole := hfull
  have hN₀ : s.nextSystole = s.heartDiastole := hfull
  have hDlt : s.heartDiastole < s.currentCapacity := by
    rw [← hfull']
    exact next_lt (by omega) _
  -- the lengths differ in each of the three positions
  by_cases hhead : s.organReadHeads i = s.heartSystole
  · -- a reader that had caught up is thrown back by a whole turn
    obtain rfl : slots = [] := hw.of_caught_up hhead
    rw [Bus.Unread, hcap, h.systole, hfull', h.head i, if_pos ⟨hfull, hhead⟩] at hw'
    have h₁ := next_cases hDlt
    have h₂ := walk_length_inside hw' (next_lt (by omega) _) hDlt
    simp only [List.filter_nil, List.length_nil] at hlen
    omega
  · rw [h.unread_iff (h.head_of_ne fun _ => hhead) hcap, hN₀] at hw'
    have hS : s.heartSystole < s.currentCapacity := hw.systole_lt (by omega) hhead
    by_cases hD : s.organReadHeads i = s.heartDiastole
    · -- the systole arrives at a reader that had read nothing
      rw [hD] at hw'
      obtain rfl : slots' = [] := hw'.unique (.here _)
      simp at hlen
    · -- a reader right before the evicted slot, outside the ring, is left with its first slot
      have hN : next s.currentCapacity (s.organReadHeads i) = s.heartDiastole := by
        by_contra hN
        exact hpos' ⟨hS, hD, hN⟩
      obtain rfl : slots' = [s.organReadHeads i] := by
        refine hw'.unique (.step hD ?_)
        rw [hN]
        exact .here _
      obtain ⟨l, rfl, -⟩ := hw.exists_cons hhead
      rw [List.filter_cons_of_pos (by simpa using hD)] at hlen
      simp at hlen

end Full

/-- The window law of a pump into a full ring, for every state whose indices are bounded. -/
theorem evictsOldestOnly_pump_iff {s : Bus} {g : Globule} {i : Fin maxOrgans} (hb : s.Bounded)
    (hfull : s.congested) (hg : g.priority)
    (hcap : (unitedBusPump s g).1.currentCapacity = s.currentCapacity) :
    EvictsOldestOnly s (unitedBusPump s g).1 g i ↔
      s.heartSystole < s.currentCapacity ∧ s.organReadHeads i ≠ s.heartDiastole ∧
        next s.currentCapacity (s.organReadHeads i) ≠ s.heartDiastole := by
  have ha : s.accepts g := ⟨fun _ => hg, priority_not_barred hg⟩
  have hp := (pump_of_accepts ha).2
  have hpos : 2 < s.currentCapacity := Nat.lt_of_lt_of_le (show 2 < baseCapacity by decide) hb.base_le
  constructor
  · intro hlaw
    by_contra hn
    exact not_evictsOldestOnly hp hpos hfull hcap hn hlaw
  · rintro ⟨hS, hD, hN⟩
    exact evictsOldestOnly_of hp hb.capacity_pos hfull hcap hS hD hN

/-- In every reachable state with a full ring, a WHITE or YELLOW globule that leaves the capacity
unchanged evicts only the oldest slot from the window of organ `i` if and only if the systole is
inside the ring and the read head of `i` stands neither on the evicted slot nor right before it. -/
theorem evictsOldestOnly_iff {s : Bus} {g : Globule} (hs : Reachable BusStep Bus.boot s)
    (hfull : s.nextSystole = s.heartDiastole) (hg : g.type = .white ∨ g.type = .yellow)
    (hcap : (unitedBusPump s g).1.currentCapacity = s.currentCapacity) (i : Fin maxOrgans) :
    EvictsOldestOnly s (unitedBusPump s g).1 g i ↔
      s.heartSystole < s.currentCapacity ∧ s.organReadHeads i ≠ s.heartDiastole ∧
        next s.currentCapacity (s.organReadHeads i) ≠ s.heartDiastole :=
  evictsOldestOnly_pump_iff (reachable_bounded hs) hfull hg hcap

/-! ### A full ring -/

/-- An energy signal to everybody. -/
def yellowSignal : Globule := broadcastGlobule .yellow organSensory 0

/-- The bus after 1023 signals that nobody has read: full at the base capacity, with every read head
on the oldest slot. -/
structure FullUnread (s : Bus) : Prop where
  systole : s.heartSystole = 1023
  capacity : s.currentCapacity = 1024
  diastole : s.heartDiastole = 0
  heads : s.organReadHeads = fun _ => 0
  first : s.bloodStream 0 = { yellowSignal with globuleId := 1 }
  second : s.bloodStream 1 = { yellowSignal with globuleId := 2 }

theorem pumpAll_fullUnread : FullUnread (pumpAll Bus.boot (List.replicate 1023 yellowSignal)) := by
  have e : pumpAll Bus.boot (List.replicate 1023 yellowSignal) =
      pumpAll (pumpAll Bus.boot [yellowSignal, yellowSignal])
        (List.replicate 1021 yellowSignal) := List.foldl_append (l := [yellowSignal, yellowSignal])
  have hS : (pumpAll Bus.boot [yellowSignal, yellowSignal]).heartSystole = 2 := by decide
  have hC : (pumpAll Bus.boot [yellowSignal, yellowSignal]).currentCapacity = 1024 := by decide
  have hH : (pumpAll Bus.boot [yellowSignal, yellowSignal]).organReadHeads = fun _ => 0 := by
    funext i
    rfl
  have h₀ : (pumpAll Bus.boot [yellowSignal, yellowSignal]).bloodStream 0 =
      { yellowSignal with globuleId := 1 } := by decide
  have h₁ : (pumpAll Bus.boot [yellowSignal, yellowSignal]).bloodStream 1 =
      { yellowSignal with globuleId := 2 } := by decide
  have hbase : baseCapacity = 1024 := rfl
  obtain ⟨r₁, r₂, r₃, r₄, r₅⟩ := pumpAll_advance (g := yellowSignal) (by decide) (by decide) 1021
    (pumpAll Bus.boot [yellowSignal, yellowSignal]) (by decide) (by omega) (fun k hk => by omega)
  rw [e]
  refine ⟨?_, ?_, r₃, ?_, ?_, ?_⟩
  · rw [r₁, hS]
  · rw [r₂, hC, hbase]
    exact max_eq_left (Nat.sub_le ..)
  · rw [r₄, hH]
  · rw [r₅ 0 (by omega), h₀]
  · rw [r₅ 1 (by omega), h₁]

/-- The execution of these pumps. -/
theorem exec_fullUnread : ∃ tr, Exec BusStep Bus.boot tr ∧
    tr.map Prod.fst = (List.replicate 1023 yellowSignal).map (fun g => (BusOp.pump g, [])) ∧
    FullUnread (final Bus.boot tr) := by
  obtain ⟨tr, htr, hlab, hfin⟩ := exec_pumpAll Bus.boot (List.replicate 1023 yellowSignal)
  refine ⟨tr, htr, hlab, ?_⟩
  rw [hfin]
  exact pumpAll_fullUnread

section FullUnread

variable {s : Bus}

theorem FullUnread.congested (h : FullUnread s) : s.nextSystole = s.heartDiastole := by
  rw [Bus.nextSystole, h.systole, h.capacity, h.diastole]
  rfl

/-- A yellow signal leaves the base capacity as it is. -/
theorem yellow_keeps_capacity (hC : s.currentCapacity = 1024) :
    (unitedBusPump s yellowSignal).1.currentCapacity = s.currentCapacity := by
  have ha : s.accepts yellowSignal := ⟨fun _ => .inr rfl, by decide⟩
  rw [(pump_of_accepts ha).2.capacity, hC]
  rfl

/-- Organ 0 reads one globule of the full ring. -/
theorem FullUnread.absorb_one (h : FullUnread s) :
    BusStep s (.absorb 0 1, [{ yellowSignal with globuleId := 1 }]) (s.setHead 0 1) := by
  have hhead : s.organReadHeads 0 = 0 := by rw [h.heads]
  have hstep := busStep_absorb_one (s := s) (o := 0) (i := 0) rfl
    (by rw [hhead, h.systole]; decide) (by rw [hhead, h.first]; rfl)
  rw [hhead, h.capacity, h.first] at hstep
  exact hstep

end FullUnread

/-- In a full ring of which organ 0 has read one globule, the next signal takes the oldest slot from
organ 0 and nothing else. -/
theorem evictsOldestOnly_partly_read :
    ∃ s, Reachable BusStep Bus.boot s ∧ s.nextSystole = s.heartDiastole ∧
      EvictsOldestOnly s (unitedBusPump s yellowSignal).1 yellowSignal 0 := by
  obtain ⟨tr, htr, -, h⟩ := exec_fullUnread
  have hs := (htr.reachable Relation.ReflTransGen.refl).tail ⟨_, h.absorb_one⟩
  refine ⟨_, hs, h.congested, (evictsOldestOnly_iff hs h.congested (.inr rfl)
    (yellow_keeps_capacity h.capacity) 0).2 ⟨?_, ?_, ?_⟩⟩
  · exact lt_of_eq_of_lt h.systole (lt_of_lt_of_eq (Nat.lt_succ_self 1023) h.capacity.symm)
  · rw [setHead_self]
    exact fun heq => absurd (heq.trans h.diastole) (by decide)
  · rw [setHead_self]
    intro heq
    have hnext : next 1024 1 = 0 := by
      rw [← h.diastole, ← h.capacity]
      exact heq
    exact absurd hnext (by decide)

/-- An organ that has not read at all loses its whole window. -/
theorem exists_full_not_evictsOldestOnly :
    ∃ s g, Reachable BusStep Bus.boot s ∧ s.nextSystole = s.heartDiastole ∧ g.type = .yellow ∧
      (unitedBusPump s g).1.currentCapacity = s.currentCapacity ∧
      ¬ ∀ i, EvictsOldestOnly s (unitedBusPump s g).1 g i := by
  obtain ⟨tr, htr, -, h⟩ := exec_fullUnread
  have hs := htr.reachable Relation.ReflTransGen.refl
  refine ⟨final Bus.boot tr, yellowSignal, hs, h.congested, rfl, yellow_keeps_capacity h.capacity, ?_⟩
  intro hall
  have hpos := (evictsOldestOnly_pump_iff (reachable_bounded hs) h.congested (.inr rfl)
    (yellow_keeps_capacity h.capacity)).1 (hall 0)
  apply hpos.2.1
  rw [h.heads, h.diastole]

end OperatingOrganism.UnitedBus

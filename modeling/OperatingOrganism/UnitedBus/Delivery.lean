import OperatingOrganism.UnitedBus.CapacityChange
import OperatingOrganism.UnitedBus.Window
import OperatingOrganism.Library.OrderedMailbox

/-!
# In what order an organ receives globules

For one organ the bus is meant to be a mailbox that loses globules under pressure but never repeats or
reorders them. `KeepsOrder` lists the calls that break this: a pump into a full ring whose congestion
branch throws the read head of a caught-up organ back to the oldest slot, and a change of the capacity
that opens slots in the window which were read before or never written.

Executions made of the other calls are simulated by an `OrderedMailbox` (`view_step`), whose deliveries
have strictly increasing keys; so the identifiers an organ receives over the whole execution are
strictly increasing (`delivered_ids_increasing`).
-/

set_option autoImplicit false

namespace OperatingOrganism.UnitedBus

open OperatingOrganism.Execution OperatingOrganism.OrbitWalk OperatingOrganism.OrderedMailbox

/-! ## Windows that only lose slots -/

section Windows

variable {c h S : Nat} {l : List Nat}

theorem range'_tail_sublist (a n m : Nat) (h : m ≤ n) :
    (List.range' (a + 1) m).Sublist (List.range' a (n + 1)) := by
  rw [List.range'_succ]
  apply List.Sublist.cons
  exact List.range'_sublist_right.2 h

theorem range'_snoc {a n m : Nat} (h : m = a + n) :
    List.range' a n ++ [m] = List.range' a (n + 1) := by
  rw [List.range'_concat, Nat.one_mul, h]

/-- A contraction with the next systole inside the smaller ring, and the reader inside the old one:
the window keeps its shape, and loses at most the slot that goes. -/
theorem sublist_of_contraction_inside (hS : S + 2 < c) (hh : h < c)
    (hw : Walk (next c) h l S) :
    ∃ l', Walk (next (c - 1)) h l' (S + 1) ∧ l'.Sublist (l ++ [S]) := by
  rcases walk_shape hw hh (by omega) with ⟨hle, rfl⟩ | ⟨hlt, rfl⟩
  · refine ⟨_, walk_straight (Nat.le_succ_of_le hle) (by omega), ?_⟩
    rw [range'_snoc (by omega), show S + 1 - h = (S - h) + 1 by omega]
  · rw [List.append_assoc, range'_snoc (Nat.zero_add S).symm]
    rcases Nat.lt_or_ge (S + 1) h with hlt' | hge
    · rcases Nat.lt_or_ge h (c - 1) with hin | hout
      · refine ⟨_, walk_wrapped hlt' hin, ?_⟩
        apply List.Sublist.append _ (List.Sublist.refl _)
        exact List.range'_sublist_right.2 (by omega)
      · -- the read head stands on the slot that goes: it jumps over slot 0
        obtain rfl : h = c - 1 := by omega
        have hN : next (c - 1) (c - 1) = 1 := by
          rw [next_outside (by omega) (by omega)]
          omega
        refine ⟨(c - 1) :: List.range' 1 S, walk_outside (Nat.le_refl _) (by omega) ?_, ?_⟩
        · rw [hN]
          have hrest := walk_straight (c := c - 1) (a := 1) (b := S + 1) (by omega) (by omega)
          rwa [Nat.add_sub_cancel] at hrest
        · rw [show c - (c - 1) = 0 + 1 by omega, List.range'_succ]
          apply List.Sublist.cons_cons
          exact range'_tail_sublist 0 S S (Nat.le_refl S)
    · -- the next systole arrives at the read head
      obtain rfl : h = S + 1 := by omega
      exact ⟨[], .here _, List.nil_sublist _⟩

/-- The same with the reader outside the old ring: it comes back in one slot later than before, or at
the start of the ring. -/
theorem sublist_of_contraction_outside (hc : 1024 < c) (hS : S + 2 < c) (hh : c ≤ h)
    (hv : h < 2048) (hw : Walk (next c) h l S) :
    ∃ l', Walk (next (c - 1)) h l' (S + 1) ∧ l'.Sublist (l ++ [S]) := by
  obtain ⟨l₁, rfl, hw₁⟩ := hw.exists_cons (by omega)
  have hk : next c h = h + 1 - c := next_outside (by omega) (by omega)
  have hk' := next_outside_cases (c := c - 1) (a := h) (by omega) (by omega)
  suffices hrest : ∃ l', Walk (next (c - 1)) (next (c - 1) h) l' (S + 1) ∧
      l'.Sublist (l₁ ++ [S]) by
    obtain ⟨l', hw', hs⟩ := hrest
    exact ⟨h :: l', walk_outside (by omega) (by omega) hw', hs.cons_cons h⟩
  rcases walk_shape hw₁ (by omega) (by omega) with ⟨hle, rfl⟩ | ⟨hlt, rfl⟩
  · refine ⟨_, walk_straight (by omega) (by omega), ?_⟩
    rw [range'_snoc (by omega), show next (c - 1) h = next c h + 1 by omega]
    exact range'_tail_sublist _ _ _ (by omega)
  · rw [List.append_assoc, range'_snoc (Nat.zero_add S).symm]
    rcases hk' with ⟨hlt', hN⟩ | ⟨heq, hN⟩
    · refine ⟨_, walk_wrapped (show S + 1 < next (c - 1) h by omega) (by omega), ?_⟩
      apply List.Sublist.append _ (List.Sublist.refl _)
      rw [show next (c - 1) h = next c h + 1 by omega,
        show c - next c h = (c - next c h - 1) + 1 by omega]
      exact range'_tail_sublist _ _ _ (by omega)
    · refine ⟨List.range' 0 (S + 1), ?_, List.sublist_append_right _ _⟩
      rw [hN]
      exact walk_straight (a := 0) (b := S + 1) (Nat.zero_le _) (by omega)

/-- A contraction with the systole on the last slot: the next one is slot 0 in both rings, and the
window loses the slot just written. -/
theorem sublist_of_contraction_last (hc : 1024 < c) (hS : S + 1 = c) (hv : h < 2048) (hne : h ≠ S)
    (hw : Walk (next c) h l S) :
    ∃ l', Walk (next (c - 1)) h l' 0 ∧ l'.Sublist (l ++ [S]) := by
  rcases Nat.lt_or_ge h c with hin | hout
  · rcases walk_shape hw hin (by omega) with ⟨hle, rfl⟩ | ⟨hlt, -⟩
    · rcases Nat.eq_zero_or_pos h with rfl | hpos
      · exact ⟨[], .here _, List.nil_sublist _⟩
      · refine ⟨_, walk_wrapped hpos (by omega), ?_⟩
        rw [show c - 1 - h = S - h by omega]
        exact (List.Sublist.refl _).append (List.nil_sublist _)
    · omega
  · obtain ⟨l₁, rfl, hw₁⟩ := hw.exists_cons hne
    have hk : next c h = h + 1 - c := next_outside (by omega) (by omega)
    rcases walk_shape hw₁ (by omega) (by omega) with ⟨hle, rfl⟩ | ⟨hlt, -⟩
    · rcases next_outside_cases (c := c - 1) (a := h) (by omega) (by omega) with ⟨hlt', hN⟩ |
        ⟨heq, hN⟩
      · refine ⟨h :: (List.range' (next (c - 1) h) (c - 1 - next (c - 1) h) ++ List.range' 0 0),
          walk_outside (by omega) (by omega) (walk_wrapped (by omega) (by omega)), ?_⟩
        apply List.Sublist.cons_cons
        refine List.Sublist.append ?_ (List.nil_sublist _)
        rw [show next (c - 1) h = next c h + 1 by omega]
        rcases Nat.eq_zero_or_pos (S - next c h) with hz | hp
        · rw [show c - 1 - (next c h + 1) = 0 by omega]
          exact List.nil_sublist _
        · rw [show S - next c h = (S - next c h - 1) + 1 by omega]
          exact range'_tail_sublist _ _ _ (by omega)
      · refine ⟨[h], walk_outside (by omega) (by omega) ?_, ?_⟩
        · rw [hN]
          exact .here 0
        · exact (List.nil_sublist _).cons_cons h
    · omega

/-- A contraction that leaves the systole and a caught-up reader inside the ring only removes slots
from a window. -/
theorem exists_sublist_walk_of_contraction (hc : 1024 < c) (hh : h < 2048)
    (hw : Walk (next c) h l S)
    (hpos : S + 2 < c ∨ (S + 1 = c ∧ h ≠ S) ∨ h = next c S) :
    ∃ l', Walk (next (c - 1)) h l' (next c S) ∧ l'.Sublist (l ++ [S]) := by
  rcases hpos with hroom | ⟨hlast, hne⟩ | hhead
  · rw [next_of_lt (by omega)]
    rcases Nat.lt_or_ge h c with hin | hout
    · exact sublist_of_contraction_inside hroom hin hw
    · exact sublist_of_contraction_outside hc hroom hout hh hw
  · rw [next_last hlast]
    exact sublist_of_contraction_last hc hlast hh hne hw
  · rw [← hhead]
    exact ⟨[], .here h, List.nil_sublist _⟩

/-- An expansion does not open slots in the window of a reader on the last slot of the array when the
old modulus leads it back over the slots before the systole. -/
theorem exists_sublist_walk_of_expansion (hc : 1024 ≤ c) (hv : c < 2048) (hh : h + 1 = 2048)
    (hS : S < c) (hw : Walk (next c) h l S) (hpos : S + c < 2048 ∨ S + 1 = c) :
    ∃ l', Walk (next 2048) h l' (next c S) ∧ l'.Sublist (l ++ [S]) := by
  obtain ⟨l₁, rfl, hw₁⟩ := hw.exists_cons (by omega)
  have hN' : next 2048 h = 0 := next_last hh
  rcases next_cases hS with ⟨hroom, hN⟩ | ⟨hlast, hN⟩
  · rw [hN]
    refine ⟨h :: List.range' 0 (S + 1), .step (by omega) ?_, ?_⟩
    · rw [hN']
      exact walk_straight (a := 0) (b := S + 1) (Nat.zero_le _) (by omega)
    · have hconcat : List.range' 0 S ++ [S] = List.range' 0 (S + 1) :=
        range'_snoc (Nat.zero_add S).symm
      rw [List.cons_append]
      apply List.Sublist.cons_cons
      rcases walk_shape hw₁ (next_lt (by omega) h) hS with ⟨hle, rfl⟩ | ⟨-, rfl⟩
      · -- only the base capacity leads from the last slot to slot 0
        have hzero : next c h = 0 := by
          rcases next_outside_cases (c := c) (a := h) (by omega) (by omega) with ⟨h₁, h₂⟩ | ⟨-, h₂⟩
          · omega
          · exact h₂
        rw [hzero, Nat.sub_zero, hconcat]
      · rw [List.append_assoc, hconcat]
        exact List.sublist_append_right _ _
  · rw [hN]
    refine ⟨[h], .step (by omega) ?_, (List.nil_sublist _).cons_cons h⟩
    rw [hN']
    exact .here 0

/-- A reader that does not stand on the target leaves a second slot behind when its successor is not
the target either. -/
theorem two_le_length_of_walk {f : Nat → Nat} {b : Nat} (hw : Walk f h l b) (h₁ : h ≠ b)
    (h₂ : f h ≠ b) : 2 ≤ l.length := by
  obtain ⟨l₁, rfl, hw₁⟩ := hw.exists_cons h₁
  obtain ⟨l₂, rfl, -⟩ := hw₁.exists_cons h₂
  exact Nat.le_add_left 2 l₂.length

end Windows

/-! ## The condition on the calls -/

/-- The call does not put slots into the window of organ `i` that it had left behind or that were never
written: a pump into a full ring does not find the organ caught up; an expansion finds neither its
window nor the next systole wrapped; a contraction leaves the systole inside the ring and, when the
systole stands on the last slot, does not find the organ caught up. A read head on which the next
systole arrives loses its window whatever happens, and a read head on the last slot of the array goes
on at slot 0 after an expansion. -/
def KeepsOrder (i : Fin maxOrgans) (s : Bus) (a : BusOp × List Globule) : Prop :=
  ∀ g, a.1.pumped = some g → s.accepts g →
    (s.congested → s.organReadHeads i ≠ s.heartSystole) ∧
    (g.type = .white → s.currentCapacity < bloodVolume →
      (s.heartSystole + 1 < s.currentCapacity ∧ s.organReadHeads i ≤ s.heartSystole) ∨
        s.organReadHeads i = s.nextSystole ∨
        (s.organReadHeads i + 1 = bloodVolume ∧
          (s.heartSystole + s.currentCapacity < bloodVolume ∨
            s.heartSystole + 1 = s.currentCapacity))) ∧
    (g.type ≠ .white → baseCapacity < s.currentCapacity →
      s.heartSystole + 2 < s.currentCapacity ∨
        (s.heartSystole + 1 = s.currentCapacity ∧ s.organReadHeads i ≠ s.heartSystole) ∨
        s.organReadHeads i = s.nextSystole)

section Exact

variable {s t : Bus} {g : Globule} {i : Fin maxOrgans} {slots : List Nat}

/-- The unread slots after an expansion that the condition allows. -/
theorem PumpedState.exists_unread_of_expansion (h : PumpedState s g t) (hb : s.Bounded)
    (hhead : t.organReadHeads i = s.organReadHeads i) (hwhite : g.type = .white)
    (hlt : s.currentCapacity < bloodVolume) (hw : s.Unread i slots)
    (hk : (s.heartSystole + 1 < s.currentCapacity ∧ s.organReadHeads i ≤ s.heartSystole) ∨
      s.organReadHeads i = s.nextSystole ∨
      (s.organReadHeads i + 1 = bloodVolume ∧
        (s.heartSystole + s.currentCapacity < bloodVolume ∨
          s.heartSystole + 1 = s.currentCapacity))) :
    ∃ slots', t.Unread i slots' ∧ slots'.Sublist (slots ++ [s.heartSystole]) := by
  have hbase : 1024 ≤ s.currentCapacity := hb.base_le
  have hvol : bloodVolume = 2048 := rfl
  have ht := h.capacity_of_white hwhite
  simp only [h.unread_iff hhead ht]
  rcases hk with ⟨hS, hle⟩ | harrive | ⟨hlast, hpos⟩
  · obtain ⟨slots', hu, hu'⟩ := h.unread_of_straight hhead hS (by omega) hle
    rw [hu.unique hw] at hu'
    exact ⟨_, (h.unread_iff hhead ht).1 hu', List.Sublist.refl _⟩
  · exact ⟨[], Walk.nil_iff.2 harrive, List.nil_sublist _⟩
  · -- the head stands outside the old ring, so the systole does not
    have hS : s.heartSystole < s.currentCapacity := by
      apply hw.systole_lt hb.capacity_pos
      have := hb.systole_le
      omega
    exact exists_sublist_walk_of_expansion hbase hlt hlast hS hw hpos

/-- Under the condition the unread slots after a pump are among those before it, followed by the slot
written. -/
theorem PumpedState.exists_unread (h : PumpedState s g t) (hb : s.Bounded) (ha : s.accepts g)
    {a : BusOp × List Globule} (hga : a.1.pumped = some g) (hk : KeepsOrder i s a)
    (hw : s.Unread i slots) :
    ∃ slots', t.Unread i slots' ∧ slots'.Sublist (slots ++ [s.heartSystole]) := by
  obtain ⟨hk₁, hk₂, hk₃⟩ := hk g hga ha
  have hhead : t.organReadHeads i = s.organReadHeads i := h.head_of_ne hk₁
  -- while the capacity does not change, only the target of the walk moves
  have hsame : t.currentCapacity = s.currentCapacity →
      ∃ slots', t.Unread i slots' ∧ slots'.Sublist (slots ++ [s.heartSystole]) := fun ht =>
    ⟨_, (h.unread_iff hhead ht).2 hw.retarget, List.takeWhile_sublist _⟩
  by_cases hwhite : g.type = .white
  · rcases Nat.lt_or_eq_of_le hb.le_volume with hlt | heq
    · exact h.exists_unread_of_expansion hb hhead hwhite hlt hw (hk₂ hwhite hlt)
    · exact hsame ((h.capacity_of_white hwhite).trans heq.symm)
  · by_cases hgt : baseCapacity < s.currentCapacity
    · obtain ⟨slots', hw', hsub⟩ :=
        exists_sublist_walk_of_contraction hgt (hb.head_lt i) hw (hk₃ hwhite hgt)
      exact ⟨slots', (h.unread_iff hhead (h.capacity_of_gt hwhite hgt)).2 hw', hsub⟩
    · exact hsame (h.capacity_of_le hwhite hgt)

/-- A pump into a full ring that finds the organ caught up puts slots back. -/
theorem PumpedState.not_caught_up (h : PumpedState s g t) (hb : s.Bounded) (hw : s.Unread i slots)
    {slots' : List Nat} (hw' : t.Unread i slots')
    (hsub : slots'.Sublist (slots ++ [s.heartSystole])) (hfull : s.congested) :
    s.organReadHeads i ≠ s.heartSystole := by
  intro heq
  have hbase : 1024 ≤ s.currentCapacity := hb.base_le
  have hD : next s.currentCapacity s.heartSystole = s.heartDiastole := hfull
  obtain rfl : slots = [] := hw.of_caught_up heq
  rw [Bus.Unread, h.head i, if_pos ⟨hfull, heq⟩, h.systole, hD] at hw'
  -- the head is two slots past the systole, and only the slot just written may be unread
  obtain ⟨l, rfl, -⟩ := hw'.exists_cons (next_ne_self (by omega) _)
  have hmem := hsub.subset List.mem_cons_self
  rw [List.nil_append, List.mem_singleton] at hmem
  have hDlt : s.heartDiastole < s.currentCapacity := by
    rw [← hD]
    exact next_lt hb.capacity_pos _
  have hSlt : s.heartSystole < s.currentCapacity := by
    rw [← hmem]
    exact next_lt hb.capacity_pos _
  have h₁ := next_cases hDlt
  have h₂ := next_cases hSlt
  omega

/-- A caught-up organ gets at most the slot just written; any other window after the pump has two
slots. -/
theorem Bus.Unread.successor_of_caught_up (hw : s.Unread i slots) {f : Nat → Nat} {N : Nat}
    {slots' : List Nat} (hself : s.organReadHeads i = s.heartSystole)
    (hwalk : Walk f (s.organReadHeads i) slots' N)
    (hsub : slots'.Sublist (slots ++ [s.heartSystole])) (hne : s.organReadHeads i ≠ N) :
    f (s.organReadHeads i) = N := by
  by_contra hN
  have hlen := hsub.length_le
  rw [hw.of_caught_up hself, List.nil_append, List.length_singleton] at hlen
  exact absurd (two_le_length_of_walk hwalk hne hN) (Nat.not_le.2 (Nat.lt_succ_of_le hlen))

/-- An expansion that finds the systole after the last slot leaves slots behind a caught-up organ. -/
theorem Bus.Unread.not_expansion_outside (hw : s.Unread i slots) (hb : s.Bounded)
    {slots' : List Nat} (hwalk : Walk (next 2048) (s.organReadHeads i) slots' s.nextSystole)
    (hsub : slots'.Sublist (slots ++ [s.heartSystole]))
    (harrive : s.organReadHeads i ≠ s.nextSystole) : s.heartSystole ≠ s.currentCapacity := by
  intro hout
  have hbase : 1024 ≤ s.currentCapacity := hb.base_le
  have hh : s.organReadHeads i < 2048 := hb.head_lt i
  have hself : s.organReadHeads i = s.heartSystole := by
    by_contra hne
    exact absurd hout (Nat.ne_of_lt (hw.systole_lt hb.capacity_pos hne))
  have hN : s.nextSystole = 1 := by
    rw [Bus.nextSystole, next_outside (by omega) (by omega)]
    omega
  have hnext := hw.successor_of_caught_up hself hwalk hsub harrive
  have h₁ := next_cases hh
  omega

/-- An expansion that finds the organ on the last slot of the array, with room for the next systole:
slot 0 is read after the expansion, so it was unread before. -/
theorem Bus.Unread.expansion_last (hw : s.Unread i slots) (hb : s.Bounded) {slots' : List Nat}
    (hsub : slots'.Sublist (slots ++ [s.heartSystole])) (hzero : 0 ∈ slots')
    (hlast : s.organReadHeads i + 1 = 2048) (hout : s.currentCapacity ≤ s.organReadHeads i)
    (hroom : s.heartSystole + 1 < s.currentCapacity) :
    s.heartSystole + s.currentCapacity < 2048 := by
  have hbase : 1024 ≤ s.currentCapacity := hb.base_le
  obtain ⟨l₁, rfl, hw₁⟩ := Walk.exists_cons hw (by omega)
  rcases next_outside_cases hout (by omega) with ⟨_, hk⟩ | ⟨_, hk⟩
  · rcases walk_shape hw₁ (next_lt hb.capacity_pos _) (by omega) with ⟨hle, rfl⟩ | ⟨hgt, -⟩
    · -- a window that does not wrap starts after slot 0
      have hmem := hsub.subset hzero
      simp only [List.cons_append, List.mem_cons, List.mem_append, List.mem_range'_1,
        List.not_mem_nil, or_false] at hmem
      omega
    · omega
  · omega

/-- Every other expansion puts slots into the window. -/
theorem PumpedState.expansion_exact (h : PumpedState s g t) (hb : s.Bounded)
    (hw : s.Unread i slots) {slots' : List Nat} (hw' : t.Unread i slots')
    (hsub : slots'.Sublist (slots ++ [s.heartSystole]))
    (hhead : t.organReadHeads i = s.organReadHeads i) (hwhite : g.type = .white)
    (hlt : s.currentCapacity < bloodVolume) :
    (s.heartSystole + 1 < s.currentCapacity ∧ s.organReadHeads i ≤ s.heartSystole) ∨
      s.organReadHeads i = s.nextSystole ∨
      (s.organReadHeads i + 1 = bloodVolume ∧
        (s.heartSystole + s.currentCapacity < bloodVolume ∨
          s.heartSystole + 1 = s.currentCapacity)) := by
  have hvol : bloodVolume = 2048 := rfl
  have hh : s.organReadHeads i < 2048 := hb.head_lt i
  by_cases harrive : s.organReadHeads i = s.nextSystole
  · exact .inr (.inl harrive)
  have hwalk : Walk (next 2048) (s.organReadHeads i) slots' s.nextSystole :=
    (h.unread_iff hhead (h.capacity_of_white hwhite)).1 hw'
  have hin : s.heartSystole < s.currentCapacity := Nat.lt_of_le_of_ne hb.systole_le
    (hw.not_expansion_outside hb hwalk hsub harrive)
  -- the slots of the old window are inside the old ring, but for its first one
  have hold : ∀ x ∈ slots', x = s.organReadHeads i ∨ x < s.currentCapacity := by
    intro x hx
    rcases List.mem_append.1 (hsub.subset hx) with hx | hx
    · exact hw.mem_ring hb.capacity_pos x hx
    · rw [List.mem_singleton] at hx
      exact .inr (hx ▸ hin)
  have hN : s.nextSystole < s.currentCapacity := next_lt hb.capacity_pos _
  have hNc : (s.heartSystole + 1 < s.currentCapacity ∧ s.nextSystole = s.heartSystole + 1) ∨
      (s.heartSystole + 1 = s.currentCapacity ∧ s.nextSystole = 0) := next_cases hin
  -- a straight window comes from a straight one; a wrapped one must not show new slots
  rcases walk_shape hwalk hh (by omega) with ⟨hle, -⟩ | ⟨hgt, hshape⟩
  · exact .inl (by omega)
  · -- the new window goes up to the end of the array and starts again at slot 0
    have hup : ∀ x, s.organReadHeads i ≤ x → x < 2048 → x ∈ slots' := by
      intro x h₁ h₂
      rw [hshape]
      exact List.mem_append_left _ (List.mem_range'_1.2 (by omega))
    rcases Nat.lt_or_ge (s.organReadHeads i) s.currentCapacity with h₁ | h₁
    · have := hold s.currentCapacity (hup _ (by omega) (by omega))
      omega
    · have hlast : s.organReadHeads i + 1 = 2048 := by
        by_contra hne
        have := hold (s.organReadHeads i + 1) (hup _ (by omega) (by omega))
        omega
      refine .inr (.inr ⟨hlast, ?_⟩)
      rcases hNc with ⟨hroom, hNS⟩ | ⟨hend, -⟩
      · have hzero : 0 ∈ slots' := by
          rw [hshape]
          exact List.mem_append_right _ (List.mem_range'_1.2 (by omega))
        exact .inl (hw.expansion_last hb hsub hzero hlast h₁ hroom)
      · exact .inr hend

/-- A contraction that leaves a caught-up organ outside the ring makes it read a whole turn. -/
theorem Bus.Unread.contraction_caught_up (hw : s.Unread i slots) (hb : s.Bounded)
    {slots' : List Nat}
    (hwalk : Walk (next (s.currentCapacity - 1)) (s.organReadHeads i) slots' s.nextSystole)
    (hsub : slots'.Sublist (slots ++ [s.heartSystole])) (hgt : baseCapacity < s.currentCapacity)
    (harrive : s.organReadHeads i ≠ s.nextSystole)
    (hself : s.organReadHeads i = s.heartSystole) : s.heartSystole + 2 < s.currentCapacity := by
  have hbase : 1024 < s.currentCapacity := hgt
  have hnext := hw.successor_of_caught_up hself hwalk hsub harrive
  by_contra hge
  rw [hself, Bus.nextSystole] at hnext
  rcases Nat.lt_or_eq_of_le hb.systole_le with hlt | heq
  · have h₁ := next_cases hlt
    rw [next_outside (c := s.currentCapacity - 1) (by omega) (by omega)] at hnext
    rw [Bus.nextSystole] at hwalk
    -- the systole is on the last slot or the one before; the next one lies outside the smaller ring
    have hin : next s.currentCapacity s.heartSystole < s.currentCapacity - 1 := by
      by_contra hout
      exact not_walk_outside (by omega) (Nat.le_of_not_lt hout) harrive slots' hwalk
    omega
  · rw [heq, next_outside (c := s.currentCapacity - 1) (by omega) (by omega),
      next_outside (by omega) (by omega)] at hnext
    omega

/-- Every other contraction puts slots into the window or cuts the organ off from the systole. -/
theorem PumpedState.contraction_exact (h : PumpedState s g t) (hb : s.Bounded)
    (hw : s.Unread i slots) {slots' : List Nat} (hw' : t.Unread i slots')
    (hsub : slots'.Sublist (slots ++ [s.heartSystole]))
    (hhead : t.organReadHeads i = s.organReadHeads i) (hwhite : g.type ≠ .white)
    (hgt : baseCapacity < s.currentCapacity) :
    s.heartSystole + 2 < s.currentCapacity ∨
      (s.heartSystole + 1 = s.currentCapacity ∧ s.organReadHeads i ≠ s.heartSystole) ∨
      s.organReadHeads i = s.nextSystole := by
  have hbase : 1024 < s.currentCapacity := hgt
  by_cases harrive : s.organReadHeads i = s.nextSystole
  · exact .inr (.inr harrive)
  have hwalk : Walk (next (s.currentCapacity - 1)) (s.organReadHeads i) slots' s.nextSystole :=
    (h.unread_iff hhead (h.capacity_of_gt hwhite hgt)).1 hw'
  -- outside the smaller ring the next systole would never be met
  have hin : s.nextSystole < s.currentCapacity - 1 := by
    by_contra hge
    exact not_walk_outside (by omega) (Nat.le_of_not_lt hge) harrive slots' hwalk
  by_cases hself : s.organReadHeads i = s.heartSystole
  · exact .inl (hw.contraction_caught_up hb hwalk hsub hgt harrive hself)
  · have hlt := hw.systole_lt hb.capacity_pos hself
    have hN : (s.heartSystole + 1 < s.currentCapacity ∧ s.nextSystole = s.heartSystole + 1) ∨
        (s.heartSystole + 1 = s.currentCapacity ∧ s.nextSystole = 0) := next_cases hlt
    rcases hN with ⟨_, hN⟩ | ⟨hend, -⟩
    · exact .inl (by omega)
    · exact .inr (.inl ⟨hend, hself⟩)

/-- The condition is exact for one pump: it holds if and only if the unread slots after the pump are
among those before it, followed by the slot written. -/
theorem keepsOrder_iff (hb : s.Bounded) (ha : s.accepts g) {a : BusOp × List Globule}
    (hga : a.1.pumped = some g) (hw : s.Unread i slots) :
    KeepsOrder i s a ↔
      ∃ slots', (unitedBusPump s g).1.Unread i slots' ∧
        slots'.Sublist (slots ++ [s.heartSystole]) := by
  have hp := (pump_of_accepts ha).2
  constructor
  · intro hk
    exact hp.exists_unread hb ha hga hk hw
  · rintro ⟨slots', hw', hsub⟩ g' hg' -
    obtain rfl : g = g' := Option.some.inj (hga.symm.trans hg')
    have hfull := hp.not_caught_up hb hw hw' hsub
    have hhead := hp.head_of_ne hfull
    exact ⟨hfull, hp.expansion_exact hb hw hw' hsub hhead,
      hp.contraction_exact hb hw hw' hsub hhead⟩

end Exact

/-! ## Simulation by an ordered mailbox -/

/-- The globules that a call hands to organ `o`. -/
def deliveredTo (o : UInt8) (a : BusOp × List Globule) : List Globule :=
  match a.1 with
  | .absorb o' _ => if o' = o then a.2 else []
  | _ => []

/-- The globules that organ `o` receives over an execution. -/
def deliveries (o : UInt8) (tr : List ((BusOp × List Globule) × Bus)) : List Globule :=
  (tr.map fun e => deliveredTo o e.1).flatten

/-- The pumps of an execution. -/
def pumpCount (tr : List ((BusOp × List Globule) × Bus)) : Nat :=
  tr.countP fun e => e.1.1.pumped.isSome

/-- A mailbox that shows what organ `i` still has to read. Its key counts on where the 32-bit counter
of the bus wraps. -/
structure View (i : Fin maxOrgans) (s : Bus) (m : Mailbox Globule Nat) : Prop where
  bounded : s.Bounded
  pending : s.UnreadGlobules i m.pending
  counter : s.nextGlobuleId = u32 m.nextKey
  key_le : m.nextKey ≤ 4294967296

/-- A pump finds the counter of the bus before its wrap. -/
def CounterLive (s : Bus) (a : BusOp × List Globule) : Prop :=
  a.1.pumped.isSome → s.nextGlobuleId ≠ 0

theorem deliveredTo_of_pumped {op : BusOp} {out : List Globule} {g : Globule} (o : UInt8)
    (h : op.pumped = some g) : deliveredTo o (op, out) = [] := by
  cases op with
  | absorb o' n => cases h
  | _ => rfl

/-- Each call that meets the condition is a step of the mailbox. -/
theorem view_step {o : UInt8} (ho : o.toNat < maxOrgans) {s t : Bus} {a : BusOp × List Globule}
    {m : Mailbox Globule Nat} (hv : View ⟨o.toNat, ho⟩ s m)
    (hk : KeepsOrder ⟨o.toNat, ho⟩ s a ∧ CounterLive s a) (hst : BusStep s a t) :
    ∃ m', MailStep Globule.globuleId m (deliveredTo o a) m' ∧ View ⟨o.toNat, ho⟩ t m' := by
  obtain ⟨op, out⟩ := a
  obtain ⟨pending, key⟩ := m
  have hbt := hst.bounded hv.bounded
  obtain ⟨slots, hw, hpend⟩ := hv.pending
  have hcount := hv.counter
  have hkey := hv.key_le
  simp only at hpend hcount hkey
  subst hpend
  rcases busStep_cases hst with ⟨rfl, -, rfl⟩ | ⟨g, hg, -, rfl⟩ | ⟨o', n, fuel, rfl, habs⟩ |
    ⟨rfl, -, rfl⟩
  · exact ⟨⟨[], key⟩, .lose key (List.nil_sublist _), hbt, ⟨[], .here _, rfl⟩, hcount, hkey⟩
  · rw [deliveredTo_of_pumped o hg]
    by_cases ha : s.accepts g
    · have hp := (pump_of_accepts ha).2
      obtain ⟨slots', hw', hsub⟩ := hp.exists_unread hv.bounded ha hg hk.1 hw
      -- before its wrap the counter of the bus is the key itself
      have hlt : key < 4294967296 := by
        have hlive : s.nextGlobuleId ≠ 0 := hk.2 (by rw [hg]; rfl)
        rcases Nat.lt_or_ge key 4294967296 with hlt | hge
        · exact hlt
        · obtain rfl : key = 4294967296 := by omega
          exact absurd hcount hlive
      have hid : s.nextGlobuleId = key := hcount.trans (Nat.mod_eq_of_lt hlt)
      refine ⟨⟨slots'.map (unitedBusPump s g).1.bloodStream, key + 1⟩,
        .publish (s.stamped g) hid (Nat.lt_succ_self key) ?_, hbt, ⟨slots', hw', rfl⟩, ?_, hlt⟩
      · rw [← hp.map_stream hw]
        exact hsub.map _
      · rw [hp.counter, hid]
    · rw [(pump_of_not_accepts ha).2]
      exact ⟨_, .idle _ _, ⟨hv.1.1, hv.1.2, hv.1.3, hv.1.4, hv.1.5, hv.1.6⟩, ⟨slots, hw, rfl⟩,
        hcount, hkey⟩
  · rcases absorb_cases habs with ⟨hno, rfl, rfl⟩ | ⟨ho', head, hloop, rfl⟩
    · have hd : deliveredTo o (.absorb o' n, []) = [] := by
        simp [deliveredTo]
      rw [hd]
      exact ⟨_, .idle _ _, hv.1, ⟨slots, hw, rfl⟩, hcount, hkey⟩
    · by_cases heq : o' = o
      · subst heq
        obtain ⟨pre, post, rfl, hpost, hout⟩ := absorbLoop_walk hw hloop
        have hd : deliveredTo o' (.absorb o' n, out) =
            (pre.map s.bloodStream).filter (·.addressedTo o') := by
          rw [← List.nil_append (List.filter _ _), ← hout]
          exact if_pos rfl
        rw [hd, List.map_append]
        refine ⟨_, .deliver _ _ key _, hbt, ⟨post, ?_, rfl⟩, hcount, hkey⟩
        rw [Bus.Unread, setHead_self]
        exact hpost
      · have hd : deliveredTo o (.absorb o' n, out) = [] := if_neg heq
        rw [hd]
        exact ⟨_, .idle _ _, hbt, ⟨slots, hw.absorb_other (fun h => heq (UInt8.toNat_inj.1 h)) habs, rfl⟩, hcount, hkey⟩
  · obtain ⟨d, -, e⟩ := gc_eq s
    rw [e] at hbt ⊢
    exact ⟨_, .idle _ _, hbt, ⟨slots, hw, rfl⟩, hcount, hkey⟩

/-- With fewer than 2^32 pumps the counter does not wrap before the last of them. -/
theorem allSteps_counterLive {tr : List ((BusOp × List Globule) × Bus)} {s : Bus}
    (h : Exec BusStep s tr)
    (hcount : pumpCount tr = 0 ∨
      (s.nextGlobuleId ≠ 0 ∧ s.nextGlobuleId + pumpCount tr ≤ 4294967296)) :
    AllSteps CounterLive s tr := by
  induction tr generalizing s with
  | nil => trivial
  | cons e tr ih =>
    obtain ⟨⟨op, out⟩, t⟩ := e
    obtain ⟨hst, htr⟩ := h
    by_cases hp : op.pumped.isSome
    · have hcons : pumpCount (((op, out), t) :: tr) = pumpCount tr + 1 :=
        List.countP_cons_of_pos hp
      rw [hcons] at hcount
      -- a pump is still to come, so the counter has not wrapped
      have hlive : s.nextGlobuleId ≠ 0 := by omega
      refine ⟨fun _ => hlive, ih htr ?_⟩
      have hnext : t.nextGlobuleId = s.nextGlobuleId ∨
          t.nextGlobuleId = u32 (s.nextGlobuleId + 1) := by
        rcases busStep_cases hst with ⟨rfl, -, -⟩ | ⟨g, -, -, rfl⟩ | ⟨o, n, fuel, rfl, -⟩ |
          ⟨rfl, -, -⟩
        · cases hp
        · by_cases ha : s.accepts g
          · exact .inr (pump_of_accepts ha).2.counter
          · rw [(pump_of_not_accepts ha).2]
            exact .inl rfl
        · cases hp
        · cases hp
      rw [u32] at hnext
      omega
    · have hcons : pumpCount (((op, out), t) :: tr) = pumpCount tr :=
        List.countP_cons_of_neg hp
      rw [hcons] at hcount
      refine ⟨fun hp' => absurd hp' hp, ih htr ?_⟩
      have hnext : t.nextGlobuleId = s.nextGlobuleId := by
        rcases busStep_cases hst with ⟨-, -, rfl⟩ | ⟨g, hg, -, -⟩ | ⟨o, n, fuel, -, habs⟩ |
          ⟨-, -, rfl⟩
        · rfl
        · rw [hg] at hp
          exact absurd rfl hp
        · obtain ⟨heads, rfl, -⟩ := absorb_eq habs
          rfl
        · obtain ⟨d, -, e⟩ := gc_eq s
          rw [e]
      rw [hnext]
      exact hcount

theorem boot_view (i : Fin maxOrgans) : View i Bus.boot ⟨[], 1⟩ where
  bounded := boot_bounded
  pending := ⟨[], .here _, rfl⟩
  counter := rfl
  key_le := by decide

/-- Over every execution from boot with fewer than 2^32 pumps whose calls all keep the window of organ
`o` in order, the identifiers that `o` receives are strictly increasing. -/
theorem delivered_ids_increasing {tr : List ((BusOp × List Globule) × Bus)}
    (h : Exec BusStep Bus.boot tr) (hcount : pumpCount tr < 4294967296) {o : UInt8}
    (ho : o.toNat < maxOrgans) (hk : AllSteps (KeepsOrder ⟨o.toNat, ho⟩) Bus.boot tr) :
    ((deliveries o tr).map Globule.globuleId).Pairwise (· < ·) := by
  have hfirst : Bus.boot.nextGlobuleId = 1 := rfl
  have hlive : AllSteps CounterLive Bus.boot tr :=
    allSteps_counterLive h (.inr (by omega))
  obtain ⟨tr', htr', hlab, -⟩ := h.simulate (View ⟨o.toNat, ho⟩) (deliveredTo o)
    (fun s a t m hv hC hst => view_step ho hv hC hst) (hk.and hlive) (boot_view _)
  have hord := delivered_pairwise htr'
  rw [hlab] at hord
  exact List.pairwise_map.2 hord

/-! ### An execution in order, and one that repeats a globule -/

/-- An alert and a signal, read by the cortex. -/
def orderedTrace : List ((BusOp × List Globule) × Bus) :=
  [((.init, []), Bus.boot),
    ((.pump whiteAlert, []), pumpAll Bus.boot [whiteAlert]),
    ((.pump yellowSignal, []), pumpAll Bus.boot [whiteAlert, yellowSignal]),
    ((.absorb organCortex 2,
        [{ whiteAlert with globuleId := 1 }, { yellowSignal with globuleId := 2 }]),
      (pumpAll Bus.boot [whiteAlert, yellowSignal]).setHead 0 2)]

theorem exec_orderedTrace : Exec BusStep Bus.boot orderedTrace :=
  ⟨⟨0, rfl⟩, ⟨0, rfl⟩, ⟨0, rfl⟩, ⟨2, rfl⟩, trivial⟩

theorem orderedTrace_increasing :
    ((deliveries organCortex orderedTrace).map Globule.globuleId).Pairwise (· < ·) := by
  refine delivered_ids_increasing exec_orderedTrace (by decide) (by decide) ⟨?_, ?_, ?_, ?_, trivial⟩
  · intro g hg
    cases hg
  · intro g hg _
    obtain rfl : whiteAlert = g := Option.some.inj hg
    exact ⟨by decide, fun _ _ => .inl ⟨by decide, by decide⟩, fun hne => absurd rfl hne⟩
  · intro g hg _
    obtain rfl : yellowSignal = g := Option.some.inj hg
    exact ⟨by decide, fun hwhite => absurd hwhite (by decide), fun _ _ => .inl (by decide)⟩
  · intro g hg
    cases hg

theorem deliveries_cons (o : UInt8) (e : (BusOp × List Globule) × Bus)
    (tr : List ((BusOp × List Globule) × Bus)) :
    deliveries o (e :: tr) = deliveredTo o e.1 ++ deliveries o tr := rfl

theorem deliveries_append (o : UInt8) (tr tr' : List ((BusOp × List Globule) × Bus)) :
    deliveries o (tr ++ tr') = deliveries o tr ++ deliveries o tr' := by
  rw [deliveries, List.map_append, List.flatten_append]
  rfl

/-- The cortex reads the full ring up to the systole. -/
theorem FullUnread.absorb_all {s : Bus} (h : FullUnread s) :
    ∃ out, BusStep s (.absorb organCortex 1024, out) (s.setHead 0 1023) ∧
      { yellowSignal with globuleId := 2 } ∈ out := by
  have hw : Walk (next s.currentCapacity) (s.organReadHeads 0) (List.range' 0 1023)
      s.heartSystole := by
    rw [h.heads, h.capacity, h.systole]
    exact walk_straight (c := 1024) (a := 0) (b := 1023) (by omega) (by omega)
  have hstep := busStep_absorb_all (o := organCortex) (n := 1024) (i := 0) rfl hw
    (by rw [List.length_range']; decide)
  rw [h.systole] at hstep
  refine ⟨_, hstep, List.mem_filter.2 ⟨List.mem_map.2 ⟨1, ?_, h.second⟩, rfl⟩⟩
  exact List.mem_range'_1.2 (by omega)

/-- The signal after that throws the cortex back to slot 1, which it reads again. -/
theorem FullUnread.absorb_again {s : Bus} (h : FullUnread s) :
    ∃ t, BusStep (unitedBusPump (s.setHead 0 1023) yellowSignal).1
      (.absorb organCortex 1, [{ yellowSignal with globuleId := 2 }]) t := by
  have ha : (s.setHead 0 1023).accepts yellowSignal := ⟨fun _ => .inr rfl, by decide⟩
  have hp := (pump_of_accepts ha).2
  have hfull : (s.setHead 0 1023).congested := h.congested
  have hhead : (unitedBusPump (s.setHead 0 1023) yellowSignal).1.organReadHeads 0 = 1 := by
    have hcaught : (s.setHead 0 1023).organReadHeads 0 = (s.setHead 0 1023).heartSystole := by
      rw [setHead_self]
      exact h.systole.symm
    rw [hp.head 0, if_pos ⟨hfull, hcaught⟩]
    exact (congrArg₂ next h.capacity h.diastole).trans rfl
  have hsys : (unitedBusPump (s.setHead 0 1023) yellowSignal).1.heartSystole = 0 :=
    hp.systole.trans ((congrArg₂ next h.capacity h.systole).trans rfl)
  have hslot : (unitedBusPump (s.setHead 0 1023) yellowSignal).1.bloodStream 1 =
      { yellowSignal with globuleId := 2 } := by
    rw [hp.stream]
    refine (Function.update_of_ne ?_ ..).trans h.second
    intro heq
    exact absurd (heq.trans h.systole) (by decide)
  have hstep := busStep_absorb_one (s := (unitedBusPump (s.setHead 0 1023) yellowSignal).1)
    (o := organCortex) (i := 0) rfl (by rw [hhead, hsys]; decide) (by rw [hhead, hslot]; rfl)
  rw [hhead, hslot] at hstep
  exact ⟨_, hstep⟩

/-- 1024 pumps and two absorbs hand the globule 2 to the cortex twice. -/
theorem exists_delivered_twice :
    ∃ tr, Exec BusStep Bus.boot tr ∧ (tr.map fun e => e.1.1).head? = some .init ∧
      pumpCount tr < 4294967296 ∧
      ¬ ((deliveries organCortex tr).map Globule.globuleId).Pairwise (· < ·) := by
  obtain ⟨tr, htr, hlab, h⟩ := exec_fullUnread
  obtain ⟨out, hall, hmem⟩ := h.absorb_all
  obtain ⟨t, hagain⟩ := h.absorb_again
  refine ⟨((.init, []), Bus.boot) :: (tr ++
    [((.absorb organCortex 1024, out), (final Bus.boot tr).setHead 0 1023),
      ((.pump yellowSignal, []), (unitedBusPump ((final Bus.boot tr).setHead 0 1023)
        yellowSignal).1),
      ((.absorb organCortex 1, [{ yellowSignal with globuleId := 2 }]), t)]), ?_, rfl, ?_, ?_⟩
  · exact ⟨⟨0, rfl⟩, htr.append ⟨hall, ⟨0, rfl⟩, hagain, trivial⟩⟩
  · have hlen := congrArg List.length hlab
    rw [List.length_map, List.length_map, List.length_replicate] at hlen
    refine Nat.lt_of_le_of_lt (List.countP_le_length ..) ?_
    simp only [List.length_cons, List.length_append, List.length_nil, hlen]
    decide
  · intro hinc
    rw [deliveries_cons, deliveries_append, List.map_append, List.map_append] at hinc
    -- the last two absorbs hand out the globule once each
    have hpair := (List.pairwise_append.1 (List.pairwise_append.1 hinc).2.1).2.1
    have htail : deliveries organCortex
        [((.absorb organCortex 1024, out), (final Bus.boot tr).setHead 0 1023),
          ((.pump yellowSignal, []), (unitedBusPump ((final Bus.boot tr).setHead 0 1023)
            yellowSignal).1),
          ((.absorb organCortex 1, [{ yellowSignal with globuleId := 2 }]), t)] =
        out ++ [{ yellowSignal with globuleId := 2 }] := rfl
    rw [htail, List.map_append] at hpair
    have hlt := (List.pairwise_append.1 hpair).2.2 2 (List.mem_map.2 ⟨_, hmem, rfl⟩) 2
      List.mem_cons_self
    exact absurd hlt (by decide)

end OperatingOrganism.UnitedBus

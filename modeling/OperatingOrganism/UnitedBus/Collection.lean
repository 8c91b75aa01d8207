import OperatingOrganism.UnitedBus.RingBounds
import OperatingOrganism.UnitedBus.Window
import Mathlib.Data.List.MinMax

/-!
# What a garbage collection frees

`united_bus_gc` looks for the read head with the most unread slots by comparing distances to the systole,
computed in `uint32_t` arithmetic. Inside a ring of at most 2147483648 slots the sum of two indices does not
wrap, and the distance is the number of unread slots (`distance_eq`). The loop keeps the first index at the
greatest distance (`minHead_mem_argmax`), so the windows of all organs end the one that is kept
(`gc_collects`).
-/

set_option autoImplicit false

namespace OperatingOrganism.UnitedBus

open OperatingOrganism.OrbitWalk

/-- A collection in `s`, after which the bus is `t`: the organ `i` has the most unread slots, `kept` are the
slots from the new diastole to the systole, `before` the slots from the old one. -/
structure Collected (s t : Bus) (unread : Fin maxOrgans → List Nat) (i : Fin maxOrgans)
    (before kept : List Nat) : Prop where
  windows : ∀ j, s.Unread j (unread j)
  most : ∀ j, (unread j).length ≤ (unread i).length
  diastole : t.heartDiastole = s.organReadHeads i
  oldWindow : Walk (next s.currentCapacity) s.heartDiastole before s.heartSystole
  newWindow : Walk (next t.currentCapacity) t.heartDiastole kept t.heartSystole
  keeps : ∀ j, unread j <:+ kept
  frees : ∀ x ∈ before, x ∉ kept → ∀ j, x ∉ unread j
  pending : (unitedBusGetHealth t).pendingGlobules = (unread i).length
  frame : t = { s with heartDiastole := t.heartDiastole }

/-! ## The distance -/

section Distance

variable {s : Bus}

/-- The distance of an index inside the ring is the number of slots on its way to the systole. -/
theorem distance_eq (hS : s.heartSystole < s.currentCapacity) (hcap : s.currentCapacity ≤ 2147483648)
    {h : Nat} (hh : h < s.currentCapacity) {slots : List Nat}
    (hw : Walk (next s.currentCapacity) h slots s.heartSystole) : s.distance h = slots.length := by
  rw [Bus.distance, u32, u32]
  rcases walk_length_inside hw hh hS with ⟨hle, hlen⟩ | ⟨hlt, hlen⟩
  · have hsub : (s.heartSystole + 4294967296 - h) % 4294967296 = s.heartSystole - h := by omega
    have hsum : (s.heartSystole - h + s.currentCapacity) % 4294967296 =
        s.heartSystole - h + s.currentCapacity := by omega
    rw [hsub, hsum, hlen, Nat.add_mod_right, Nat.mod_eq_of_lt (by omega)]
  · -- the difference wraps, and the sum with the capacity wraps back
    have hsub : (s.heartSystole + 4294967296 - h) % 4294967296 = s.heartSystole + 4294967296 - h := by omega
    have hsum : (s.heartSystole + 4294967296 - h + s.currentCapacity) % 4294967296 =
        s.currentCapacity - h + s.heartSystole := by omega
    rw [hsub, hsum, hlen, Nat.mod_eq_of_lt (by omega)]

/-- The loop keeps the first of the systole and the read heads that is farthest from the systole. -/
theorem minHead_mem_argmax (s : Bus) :
    s.minHead ∈ List.argmax s.distance
      (s.heartSystole :: (List.finRange maxOrgans).map s.organReadHeads) := by
  rw [Bus.minHead, List.argmax, List.foldl_cons, List.argAux]
  dsimp only
  generalize List.finRange maxOrgans = l
  generalize s.heartSystole = m
  induction l generalizing m with
  | nil => exact Option.mem_some_self m
  | cons i l ih =>
    rw [List.map_cons, List.foldl_cons, List.foldl_cons, List.argAux]
    dsimp only
    split
    · exact ih _
    · exact ih _

end Distance

/-! ## The collection -/

section Collection

variable {s : Bus} {unread : Fin maxOrgans → List Nat}

/-- The loop ends with the read head of an organ that has the most unread slots. -/
theorem minHead_spec (hin : s.InRing) (hcap : s.currentCapacity ≤ 2147483648)
    (hunread : ∀ j, s.Unread j (unread j)) :
    ∃ i, s.minHead = s.organReadHeads i ∧ ∀ j, (unread j).length ≤ (unread i).length := by
  have hdist : ∀ j, s.distance (s.organReadHeads j) = (unread j).length := fun j =>
    distance_eq hin.systole_lt hcap (hin.head_lt j) (hunread j)
  have hmax : ∀ j, (unread j).length ≤ s.distance s.minHead := by
    intro j
    rw [← hdist j]
    apply List.le_of_mem_argmax _ (minHead_mem_argmax s)
    exact List.mem_cons_of_mem _ (List.mem_map_of_mem (List.mem_finRange j))
  rcases minHead_cases s with hmin | ⟨i, hmin⟩
  · -- no organ has anything unread, so all heads stand on the systole
    have hzero : s.distance s.heartSystole = 0 :=
      distance_eq hin.systole_lt hcap hin.systole_lt (.here _)
    rw [hmin, hzero] at hmax
    have hnil : unread 0 = [] := List.length_eq_zero_iff.1 (Nat.le_zero.1 (hmax 0))
    refine ⟨0, ?_, ?_⟩
    · have hw := hunread 0
      rw [hnil, Bus.Unread, Walk.nil_iff] at hw
      rw [hmin, hw]
    · intro j
      exact Nat.le_trans (hmax j) (Nat.zero_le _)
  · refine ⟨i, hmin, ?_⟩
    intro j
    rw [← hdist i, ← hmin]
    exact hmax j

/-- Inside the ring a shorter window of unread slots is the end of a longer one. -/
theorem Bus.InRing.suffix_of_length_le (hin : s.InRing) (hunread : ∀ j, s.Unread j (unread j))
    {i j : Fin maxOrgans} (hlen : (unread j).length ≤ (unread i).length) : unread j <:+ unread i := by
  have hpos : 0 < s.currentCapacity := Nat.zero_lt_of_lt hin.systole_lt
  have hring : ∀ j, ∀ x ∈ unread j, x < s.currentCapacity := by
    intro j x hx
    rcases (hunread j).mem_ring hpos x hx with rfl | hlt
    · exact hin.head_lt j
    · exact hlt
  apply (hunread j).suffix_of_length_le _ (hunread i) (hring j) (hring i) hlen
  intro x y
  exact next_inj

/-- A diastole moved to `h` leaves the slots on the way from `h` pending. -/
theorem pending_setDiastole (s : Bus) (h : Nat) :
    (unitedBusGetHealth { s with heartDiastole := h }).pendingGlobules = s.distance h := by
  rw [Bus.distance]
  rfl

/-- With all indices inside the ring, a collection moves the diastole to the read head of an organ with the
most unread slots, keeps what some organ has not read, and reports that many pending globules. -/
theorem gc_collects (hin : s.InRing) (hcap : s.currentCapacity ≤ 2147483648) :
    ∃ unread i before kept, Collected s (unitedBusGc s) unread i before kept := by
  have hwindow : ∀ j, ∃ slots, s.Unread j slots := by
    intro j
    obtain ⟨slots, hw, -⟩ := exists_walk hin.systole_lt (s.organReadHeads j)
    exact ⟨slots, hw⟩
  choose unread hunread using hwindow
  obtain ⟨i, hmin, hmost⟩ := minHead_spec hin hcap hunread
  obtain ⟨before, hbefore, -⟩ := exists_walk hin.systole_lt s.heartDiastole
  -- the window of the organ with the most unread slots is the one that is kept
  have hkeeps : ∀ j, unread j <:+ unread i := fun j => hin.suffix_of_length_le hunread (hmost j)
  refine ⟨unread, i, before, unread i, ?_⟩
  rw [unitedBusGc, hmin]
  refine ⟨hunread, hmost, rfl, hbefore, hunread i, hkeeps, ?_, ?_, rfl⟩
  · intro x _ hx j hmem
    exact hx ((hkeeps j).subset hmem)
  · rw [pending_setDiastole]
    exact distance_eq hin.systole_lt hcap (hin.head_lt i) (hunread i)

/-- In the ring that has gone around, the five slots are freed that every organ has read, and seven stay. -/
theorem wrappedRing_collects :
    (unitedBusGc wrappedRing).heartDiastole = 1020 ∧
      (unitedBusGetHealth (unitedBusGc wrappedRing)).pendingGlobules = 7 ∧
      ∃ unread i before kept, Collected wrappedRing (unitedBusGc wrappedRing) unread i before kept :=
  ⟨by decide +kernel, by decide +kernel, gc_collects wrappedRing_inRing (show (1024 : Nat) ≤ 2147483648 by decide)⟩

end Collection

end OperatingOrganism.UnitedBus

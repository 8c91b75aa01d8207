import Mathlib.Data.Vector.Defs
import Mathlib.Data.Nat.Init

/-!
# The last items of a log in a fixed number of slots

Item `k` of a log goes to slot `k % size`, over the item that was there. So the slots keep the last `size` items
(`KeepsLast`), and the last `n` of them are read, oldest first, from the place `n` slots before the one that is
written next (`KeepsLast.read`), or newest first, one slot back each time (`KeepsLast.read_newest`).
-/

set_option autoImplicit false

namespace OperatingOrganism.RecentSlots

universe u

variable {α : Type u} {size : Nat}

/-- The last `size` items of the log are in their slots. -/
def KeepsLast (slots : Vector α size) (log : List α) : Prop :=
  ∀ k x, log[k]? = some x → log.length ≤ k + size → slots[k % size]? = some x

variable {slots : Vector α size} {log : List α} {x : α} {n : Nat}

theorem keepsLast_nil (slots : Vector α size) : KeepsLast slots [] := fun _ _ hx => absurd hx nofun

/-- A new item takes the place of the oldest one. -/
theorem KeepsLast.record (h : KeepsLast slots log) (hpos : 0 < size) (x : α) :
    KeepsLast (slots.setIfInBounds (log.length % size) x) (log ++ [x]) := by
  intro k y hy hk
  rw [List.length_append, List.length_singleton] at hk
  rcases Nat.lt_or_ge k log.length with hlt | hge
  · -- an older item that is kept is in another slot
    have hne : log.length % size ≠ k % size := by
      intro heq
      have hdvd : size ∣ log.length - k := Nat.dvd_of_mod_eq_zero (Nat.sub_mod_eq_zero_of_mod_eq heq)
      have hle := Nat.le_of_dvd (by omega) hdvd
      omega
    rw [List.getElem?_append_left hlt] at hy
    rw [Vector.getElem?_setIfInBounds_ne hne]
    exact h k y hy (by omega)
  · obtain rfl : k = log.length := by
      have hbound := (List.getElem?_eq_some_iff.1 hy).1
      rw [List.length_append, List.length_singleton] at hbound
      omega
    rw [List.getElem?_concat_length] at hy
    rw [Vector.getElem?_setIfInBounds_self_of_lt (Nat.mod_lt _ hpos)]
    exact hy

/-- The slot that is `n` places before the next one, and `i` places on. -/
theorem index_back {length i : Nat} (hn : n ≤ length) (hsize : n ≤ size) :
    (length % size + size - n + i) % size = (length - n + i) % size := by
  have hsum : length % size + size - n + i = length % size + (size - n + i) := by omega
  have hround : length + (size - n + i) = length - n + i + size := by omega
  rw [hsum, Nat.mod_add_mod, hround, Nat.add_mod_right]

/-- The last `n` items, read from the slots. -/
theorem KeepsLast.read (h : KeepsLast slots log) (hn : n ≤ log.length) (hsize : n ≤ size) :
    (List.range n).map (fun i => slots[(log.length % size + size - n + i) % size]?) =
      (log.drop (log.length - n)).map some := by
  apply List.ext_getElem
  · rw [List.length_map, List.length_range, List.length_map, List.length_drop]
    omega
  · intro i hi hi'
    rw [List.length_map, List.length_range] at hi
    simp only [List.getElem_map, List.getElem_range, List.getElem_drop]
    rw [index_back hn hsize]
    exact h _ _ (List.getElem?_eq_getElem (by omega)) (by omega)

/-- The last `n` items, read from the slots, newest first. -/
theorem KeepsLast.read_newest (h : KeepsLast slots log) (hn : n ≤ log.length) (hsize : n ≤ size) :
    (List.range n).map (fun i => slots[(log.length - 1 - i) % size]?) = (log.reverse.take n).map some := by
  apply List.ext_getElem
  · rw [List.length_map, List.length_range, List.length_map, List.length_take, List.length_reverse]
    omega
  · intro i hi hi'
    rw [List.length_map, List.length_range] at hi
    simp only [List.getElem_map, List.getElem_range, List.getElem_take, List.getElem_reverse]
    exact h _ _ (List.getElem?_eq_getElem (by omega)) (by omega)

end OperatingOrganism.RecentSlots

import Mathlib.Data.List.Rotate

/-!
# Sliding windows

The last `size` items of a log that is padded with a blank (`window`). A ring of slots holds the window if it reads
as the window from the place that is written next, which is the place of the oldest item (`HoldsWindow`). Writing
an item there and moving on by one place slides the window (`HoldsWindow.write`), so that any sum over the ring is
one over the window (`HoldsWindow.perm`).
-/

set_option autoImplicit false

namespace OperatingOrganism.SlidingWindow

universe u

variable {α : Type u}

/-- The last `size` items, oldest first, with blanks before the first item. -/
def window (size : Nat) (blank : α) (log : List α) : List α := (List.replicate size blank ++ log).drop log.length

/-- The ring reads as the window of the log, from the next place on. -/
structure HoldsWindow (size : Nat) (blank : α) (slots : List α) (place : Nat) (log : List α) : Prop where
  length : slots.length = size
  place_eq : place = log.length % size
  reads : slots.rotate place = window size blank log

variable {size place : Nat} {blank : α} {slots log : List α}

/-- A new item comes in at the end, and the oldest one goes. -/
theorem window_concat (size : Nat) (blank : α) (log : List α) (x : α) :
    window size blank (log ++ [x]) = (window size blank log ++ [x]).tail := by
  have hle : log.length ≤ (List.replicate size blank ++ log).length := by
    rw [List.length_append]
    exact Nat.le_add_left _ _
  rw [window, window, ← List.drop_append_of_le_length hle, List.append_assoc, List.tail_drop, List.length_append,
    List.length_singleton]

/-- The ring after a write, read from the next place. -/
theorem rotate_set (h : place < slots.length) (x : α) :
    (slots.set place x).rotate (place + 1) = (slots.rotate place ++ [x]).tail := by
  have hwritten : slots.set place x = (slots.take place ++ [x]) ++ slots.drop (place + 1) := by
    rw [List.set_eq_take_append_cons_drop, if_pos h, List.append_assoc]
    rfl
  have hlength : place + 1 = (slots.take place ++ [x]).length := by
    rw [List.length_append, List.length_take_of_le (Nat.le_of_lt h)]
    rfl
  have holdest : slots.drop place = slots[place] :: slots.drop (place + 1) := List.drop_eq_getElem_cons h
  rw [List.rotate_eq_drop_append_take (Nat.le_of_lt h), holdest, hwritten, hlength, List.rotate_append_length_eq,
    List.append_assoc, List.cons_append, List.tail_cons]

/-- Blanks everywhere. -/
theorem holdsWindow_nil (size : Nat) (blank : α) : HoldsWindow size blank (List.replicate size blank) 0 [] := by
  refine ⟨List.length_replicate, (Nat.zero_mod _).symm, ?_⟩
  rw [List.rotate_zero, window, List.append_nil]
  rfl

/-- The next item is written over the oldest one. -/
theorem HoldsWindow.write (h : HoldsWindow size blank slots place log) (hpos : 0 < size) (x : α) :
    HoldsWindow size blank (slots.set place x) ((place + 1) % size) (log ++ [x]) := by
  have hlt : place < slots.length := by
    rw [h.length, h.place_eq]
    exact Nat.mod_lt _ hpos
  refine ⟨List.length_set.trans h.length, ?_, ?_⟩
  · rw [h.place_eq, List.length_append, List.length_singleton, Nat.mod_add_mod]
  · have hsize : size = (slots.set place x).length := (List.length_set.trans h.length).symm
    rw [window_concat, ← h.reads, ← rotate_set hlt x, hsize, List.rotate_mod]

/-- The slots are the window in another order. -/
theorem HoldsWindow.perm (h : HoldsWindow size blank slots place log) : slots.Perm (window size blank log) :=
  h.reads ▸ (List.rotate_perm slots place).symm

end OperatingOrganism.SlidingWindow

import Mathlib.Data.Set.Finite.Lattice
import Mathlib.Logic.Hydra

/-!
# Flooding a network

Two facts about messages that are passed on.

A node that takes a message in sends finitely many others. If each of these is smaller than the one taken
in, for a well-founded relation, then only finitely many messages are ever taken in
(`finite_setOf_replaces`), whatever happens in between.

If every node that was reached passes on what it got, except for those that are blocked, then every walk
from the origin leads to nodes that were reached, up to the first one that is blocked (`walk_reached`).
-/

set_option autoImplicit false

namespace OperatingOrganism.Flooding

universe u v

/-! ## Items that are replaced -/

section Replace

variable {α : Type u} {r : α → α → Prop} {l new : List α} {n : ℕ} {x y : α}

/-- The item at an index makes room for others. -/
def replaceAt (l : List α) (n : ℕ) (new : List α) : List α := l.eraseIdx n ++ new

/-- What is there afterwards was there before or is new. -/
theorem mem_of_mem_replaceAt (h : y ∈ replaceAt l n new) : y ∈ l ∨ y ∈ new :=
  (List.mem_append.1 h).imp_left List.mem_of_mem_eraseIdx

theorem mem_replaceAt_of_mem_new (h : y ∈ new) : y ∈ replaceAt l n new :=
  List.mem_append.2 (.inr h)

/-- To replace an item that is new itself. -/
theorem replaceAt_append (l rest : List α) :
    replaceAt (l ++ x :: rest) l.length new = l ++ (rest ++ new) := by
  rw [replaceAt, List.eraseIdx_append_of_length_le (Nat.le_refl _), Nat.sub_self, List.eraseIdx_cons_zero,
    List.append_assoc]

/-- The list is the item and the others. -/
theorem perm_of_getElem? (h : l[n]? = some x) : (x :: l.eraseIdx n).Perm l := by
  obtain ⟨hn, rfl⟩ := List.getElem?_eq_some_iff.1 h
  exact List.getElem_cons_eraseIdx_perm hn

/-- Only the item at the index goes. -/
theorem mem_replaceAt_of_mem (new : List α) (hx : l[n]? = some x) (h : y ∈ l) : y = x ∨ y ∈ replaceAt l n new := by
  have hmem := (perm_of_getElem? hx).mem_iff.2 h
  exact (List.mem_cons.1 hmem).imp_right fun hy => List.mem_append.2 (.inl hy)

/-- An item is replaced by smaller ones. -/
def Replaces (r : α → α → Prop) (l l' : List α) : Prop :=
  ∃ n x new, l[n]? = some x ∧ l' = replaceAt l n new ∧ ∀ y ∈ new, r y x

/-- This is a step down. -/
theorem Replaces.cutExpand {l' : List α} (h : Replaces r l l') : Relation.CutExpand r l' l := by
  obtain ⟨n, x, new, hx, rfl, hnew⟩ := h
  refine ⟨new, x, hnew, ?_⟩
  have hl : (l : Multiset α) = {x} + (l.eraseIdx n : Multiset α) :=
    (Multiset.coe_eq_coe.2 (perm_of_getElem? hx)).symm
  rw [replaceAt, ← Multiset.coe_add, hl, add_comm, ← add_assoc]

end Replace

/-! ## Infinite runs -/

section Descent

variable {β : Type v} {lt : β → β → Prop}

/-- A sequence that goes down or stays goes down finitely often. -/
theorem finite_setOf_descends (hwf : WellFounded lt) (s : ℕ → β)
    (hs : ∀ n, s (n + 1) = s n ∨ lt (s (n + 1)) (s n)) : {n | lt (s (n + 1)) (s n)}.Finite := by
  induction hb : s 0 using hwf.induction generalizing s with
  | _ b ih =>
    by_cases hnone : ∃ n, lt (s (n + 1)) (s n)
    · classical
      -- up to the first step down the sequence stays at its start
      have hstart : ∀ n ≤ Nat.find hnone, s n = b := by
        intro n hn
        induction n with
        | zero => exact hb
        | succ n ihn =>
          rw [← ihn (Nat.le_of_succ_le hn)]
          exact (hs n).resolve_right (Nat.find_min hnone hn)
      have hfirst : lt (s (Nat.find hnone + 1)) b := by
        rw [← hstart _ (Nat.le_refl _)]
        exact Nat.find_spec hnone
      have hrest := ih _ hfirst (fun n => s (n + (Nat.find hnone + 1)))
        (fun n => by
          have hstep := hs (n + (Nat.find hnone + 1))
          rwa [Nat.add_right_comm] at hstep)
        (by rw [Nat.zero_add])
      have hcover := (Set.finite_singleton (Nat.find hnone)).union
        (hrest.image fun n => n + (Nat.find hnone + 1))
      refine hcover.subset ?_
      intro n hn
      rcases (Nat.find_min' hnone hn).eq_or_lt with heq | hlt
      · exact .inl heq.symm
      · obtain ⟨k, rfl⟩ := Nat.exists_eq_add_of_le' (Nat.succ_le_of_lt hlt)
        refine .inr ⟨k, ?_, rfl⟩
        show lt (s (k + 1 + (Nat.find hnone + 1))) (s (k + (Nat.find hnone + 1)))
        rw [Nat.add_right_comm]
        exact hn
    · convert Set.finite_empty
      rw [Set.eq_empty_iff_forall_notMem]
      exact fun n hn => hnone ⟨n, hn⟩

variable {α : Type u} {r : α → α → Prop}

/-- In an infinite run whose steps leave the items alone or replace one of them by smaller ones, only
finitely many are replaced. -/
theorem finite_setOf_replaces (hwf : WellFounded r) (items : ℕ → List α)
    (h : ∀ n, items (n + 1) = items n ∨ Replaces r (items n) (items (n + 1))) :
    {n | Replaces r (items n) (items (n + 1))}.Finite := by
  have hfinite := finite_setOf_descends hwf.cutExpand (fun n => (items n : Multiset α))
    fun n => (h n).imp (congrArg _) Replaces.cutExpand
  exact hfinite.subset fun n => Replaces.cutExpand

end Descent

/-! ## Walks -/

section Walk

variable {V : Type v} {edge : V → V → Prop} (reached blocked : V → Prop) {origin : V}

/-- Every walk from the origin leads to a node that was reached, or through one that was reached and is
blocked. -/
theorem walk_reached (hfirst : ∀ w, edge origin w → w ≠ origin → reached w)
    (hnext : ∀ v w, reached v → ¬ blocked v → edge v w → w ≠ origin → reached w)
    (p : ℕ → V) (hstart : p 0 = origin) {d : ℕ} (hwalk : ∀ i < d, edge (p i) (p (i + 1)))
    (hend : p d ≠ origin) :
    reached (p d) ∨ ∃ i, 0 < i ∧ i < d ∧ reached (p i) ∧ blocked (p i) := by
  induction d with
  | zero => exact absurd hstart hend
  | succ d ih =>
    have hlast := hwalk d (Nat.lt_succ_self d)
    by_cases horigin : p d = origin
    · left
      apply hfirst
      · rw [← horigin]
        exact hlast
      · exact hend
    · rcases ih (fun i hi => hwalk i (Nat.lt_succ_of_lt hi)) horigin with hreached | ⟨i, h0, hi, hblocked⟩
      · by_cases hb : blocked (p d)
        · have hpos : 0 < d := by
            rw [Nat.pos_iff_ne_zero]
            rintro rfl
            exact horigin hstart
          exact .inr ⟨d, hpos, Nat.lt_succ_self d, hreached, hb⟩
        · exact .inl (hnext _ _ hreached hb hlast hend)
      · exact .inr ⟨i, h0, Nat.lt_succ_of_lt hi, hblocked⟩

end Walk

end OperatingOrganism.Flooding

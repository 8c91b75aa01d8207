import Mathlib.Data.List.Induction
import Mathlib.Data.List.Nodup
import Mathlib.Data.List.Perm.Subperm

/-!
# Sweeps

One pass over a list that chooses items, where a choice may depend on the items chosen before (`sweep`). The pass
chooses what a predicate says of each item alone if and only if, at every item, the chosen items before it make no
difference (`sweep_iff`); it does so in every order of the list if and only if no choice of other items makes a
difference (`undisturbed_perm_iff`).
-/

set_option autoImplicit false

namespace OperatingOrganism.Sweep

universe u

variable {α : Type u}

/-- The items that are chosen, in their order. -/
def sweep (decides : List α → α → Prop) [∀ chosen x, Decidable (decides chosen x)] (items : List α) : List α :=
  items.foldl (fun chosen x => if decides chosen x then chosen ++ [x] else chosen) []

variable {decides : List α → α → Prop} {items : List α} {x y : α}

section Chosen

variable [∀ chosen x, Decidable (decides chosen x)]

theorem sweep_concat (items : List α) (x : α) :
    sweep decides (items ++ [x]) =
      if decides (sweep decides items) x then sweep decides items ++ [x] else sweep decides items := by
  rw [sweep, List.foldl_append]
  rfl

/-- Only items are chosen. -/
theorem mem_of_mem_sweep (h : x ∈ sweep decides items) : x ∈ items := by
  induction items using List.reverseRecOn with
  | nil => exact h
  | append_singleton items y ih =>
    rw [sweep_concat] at h
    rw [List.mem_append]
    split at h
    · exact (List.mem_append.1 h).imp ih id
    · exact .inl (ih h)

/-- An item that comes later does not change what was chosen before. -/
theorem mem_sweep_concat_of_ne (hne : x ≠ y) : x ∈ sweep decides (items ++ [y]) ↔ x ∈ sweep decides items := by
  rw [sweep_concat]
  split
  · rw [List.mem_append, List.mem_singleton, or_iff_left hne]
  · exact Iff.rfl

/-- The last item is chosen by what was chosen before. -/
theorem mem_sweep_concat_self (hx : x ∉ items) :
    x ∈ sweep decides (items ++ [x]) ↔ decides (sweep decides items) x := by
  rw [sweep_concat]
  split
  · next h => exact iff_of_true (List.mem_append_right _ List.mem_cons_self) h
  · next h => exact iff_of_false (fun hmem => hx (mem_of_mem_sweep hmem)) h

end Chosen

section Predicate

variable (p : α → Prop) [DecidablePred p]

/-- The chosen items make no difference to the items after them. -/
def Undisturbed (decides : List α → α → Prop) (items : List α) : Prop :=
  ∀ before x after, items = before ++ x :: after → (decides (before.filter p) x ↔ p x)

/-- The places of an item in a list that has one more item. -/
theorem undisturbed_concat :
    Undisturbed p decides (items ++ [x]) ↔
      Undisturbed p decides items ∧ (decides (items.filter p) x ↔ p x) := by
  constructor
  · intro h
    refine ⟨fun before y after heq => h before y (after ++ [x]) ?_, h items x [] rfl⟩
    rw [heq, List.append_assoc]
    rfl
  · rintro ⟨hitems, hx⟩ before y after heq
    rcases List.eq_nil_or_concat after with rfl | ⟨rest, z, rfl⟩
    · obtain ⟨rfl, hxy⟩ := List.append_inj' heq rfl
      obtain rfl := List.singleton_inj.1 hxy
      exact hx
    · have hassoc : before ++ y :: (rest ++ [z]) = before ++ y :: rest ++ [z] :=
        (List.append_assoc before (y :: rest) [z]).symm
      rw [List.concat_eq_append, hassoc] at heq
      obtain ⟨rfl, -⟩ := List.append_inj' heq rfl
      exact hitems before y rest rfl

/-- No choice of other items makes a difference to an item. -/
def NeverDisturbed (decides : List α → α → Prop) (items : List α) : Prop :=
  ∀ x ∈ items, ∀ chosen : List α, chosen.Nodup → (∀ y ∈ chosen, y ∈ items ∧ y ≠ x ∧ p y) → (decides chosen x ↔ p x)

/-- In every order of the items, no item is disturbed, if and only if no choice of other items disturbs one. -/
theorem undisturbed_perm_iff (hnodup : items.Nodup) :
    (∀ items' : List α, items'.Perm items → Undisturbed p decides items') ↔ NeverDisturbed p decides items := by
  constructor
  · intro h x hx chosen hchosen hother
    -- the items in an order that begins with the chosen ones, and then the item
    have hxchosen : x ∉ chosen := fun hmem => (hother x hmem).2.1 rfl
    have hsub : (chosen ++ [x]).Subperm items := by
      refine List.subperm_of_subset (List.nodup_append.2 ⟨hchosen, List.nodup_singleton x, ?_⟩) fun y hy => ?_
      · rintro y hy z hz rfl
        exact hxchosen (List.mem_singleton.1 hz ▸ hy)
      · rcases List.mem_append.1 hy with hy | hy
        · exact (hother y hy).1
        · exact List.mem_singleton.1 hy ▸ hx
    obtain ⟨first, hfirst, hsublist⟩ := hsub
    obtain ⟨rest, hrest⟩ := hsublist.exists_perm_append
    have hperm : (chosen ++ [x] ++ rest).Perm items := ((hfirst.symm.append_right rest).trans hrest.symm)
    rw [List.append_assoc] at hperm
    have horder := h (chosen ++ x :: rest) hperm chosen x rest rfl
    rwa [List.filter_eq_self.2 fun y hy => decide_eq_true (hother y hy).2.2] at horder
  · rintro h items' hperm before x after rfl
    have hnodup' := hperm.nodup_iff.2 hnodup
    obtain ⟨hbefore, -, hdisjoint⟩ := List.nodup_append.1 hnodup'
    refine h x (hperm.mem_iff.1 (List.mem_append_right _ List.mem_cons_self)) _ (hbefore.filter _) fun y hy => ?_
    obtain ⟨hy, hp⟩ := List.mem_filter.1 hy
    exact ⟨hperm.mem_iff.1 (List.mem_append_left _ hy), hdisjoint y hy x List.mem_cons_self, of_decide_eq_true hp⟩

variable [∀ chosen x, Decidable (decides chosen x)]

/-- A sweep that chooses by the predicate chooses what a filter does. -/
theorem sweep_eq_filter (hnodup : items.Nodup) (h : ∀ x ∈ items, (x ∈ sweep decides items ↔ p x)) :
    sweep decides items = items.filter p ∧ Undisturbed p decides items := by
  induction items using List.reverseRecOn with
  | nil => exact ⟨rfl, fun before x after heq => absurd heq (by simp)⟩
  | append_singleton items y ih =>
    obtain ⟨hitems, -, hdisjoint⟩ := List.nodup_append.1 hnodup
    have hy : y ∉ items := fun hmem => hdisjoint y hmem y List.mem_cons_self rfl
    obtain ⟨heq, hundisturbed⟩ := ih hitems fun x hx => by
      have hxy : x ≠ y := fun heq => hy (heq ▸ hx)
      rw [← mem_sweep_concat_of_ne hxy]
      exact h x (List.mem_append_left _ hx)
    have hlast := h y (List.mem_append_right _ List.mem_cons_self)
    rw [mem_sweep_concat_self hy] at hlast
    refine ⟨?_, (undisturbed_concat p).2 ⟨hundisturbed, heq ▸ hlast⟩⟩
    rw [sweep_concat, List.filter_append, List.filter_singleton, heq]
    rw [heq] at hlast
    by_cases hp : p y
    · rw [if_pos (hlast.2 hp), decide_eq_true hp]
      rfl
    · rw [if_neg (mt hlast.1 hp), decide_eq_false hp]
      exact (List.append_nil _).symm

/-- If the chosen items make no difference, the predicate chooses. -/
theorem mem_sweep_of_undisturbed (hnodup : items.Nodup) (h : Undisturbed p decides items) :
    ∀ x ∈ items, (x ∈ sweep decides items ↔ p x) := by
  induction items using List.reverseRecOn with
  | nil => exact nofun
  | append_singleton items y ih =>
    obtain ⟨hitems, -, hdisjoint⟩ := List.nodup_append.1 hnodup
    obtain ⟨hbefore, hlast⟩ := (undisturbed_concat p).1 h
    have hy : y ∉ items := fun hmem => hdisjoint y hmem y List.mem_cons_self rfl
    have hchosen := ih hitems hbefore
    rw [← (sweep_eq_filter p hitems hchosen).1] at hlast
    intro x hx
    rcases List.mem_append.1 hx with hx | hx
    · have hxy : x ≠ y := fun heq => hy (heq ▸ hx)
      rw [mem_sweep_concat_of_ne hxy]
      exact hchosen x hx
    · obtain rfl := List.mem_singleton.1 hx
      rw [mem_sweep_concat_self hy]
      exact hlast

/-- A sweep chooses by the predicate if and only if no chosen item makes a difference to a later one. -/
theorem sweep_iff (hnodup : items.Nodup) :
    (∀ x ∈ items, (x ∈ sweep decides items ↔ p x)) ↔ Undisturbed p decides items :=
  ⟨fun h => (sweep_eq_filter p hnodup h).2, mem_sweep_of_undisturbed p hnodup⟩

end Predicate

end OperatingOrganism.Sweep

import Mathlib.Data.List.Induction
import Mathlib.Order.CompletePartialOrder

/-!
# Selection in one pass

A pass over a list that keeps the last of the least items among those with a property (`lastLeast`). The item that
it ends with is characterised by its place in the list (`lastLeast_eq_some_iff`).
-/

set_option autoImplicit false

namespace OperatingOrganism.Selection

universe u v

variable {α : Type u} {κ : Type v} [LinearOrder κ] (key : α → κ) (p : α → Prop) [DecidablePred p]

/-- An item replaces the best one so far if its key is not larger. -/
def lastLeast (l : List α) : Option α :=
  l.foldl (fun best x => if p x ∧ ∀ b ∈ best, key x ≤ key b then some x else best) none

/-- The item has the property; the earlier ones with it are not smaller, and the later ones are larger. -/
def IsLastLeast (l : List α) (x : α) : Prop :=
  ∃ before after, l = before ++ x :: after ∧ p x ∧ (∀ y ∈ before, p y → key x ≤ key y) ∧
    ∀ y ∈ after, p y → key x < key y

variable {key p} {l : List α} {x y : α}

theorem lastLeast_concat (l : List α) (x : α) :
    lastLeast key p (l ++ [x]) =
      if p x ∧ ∀ b ∈ lastLeast key p l, key x ≤ key b then some x else lastLeast key p l := by
  rw [lastLeast, List.foldl_append]
  rfl

/-- Nothing is selected if and only if nothing has the property. -/
theorem lastLeast_eq_none_iff : lastLeast key p l = none ↔ ∀ x ∈ l, ¬ p x := by
  induction l using List.reverseRecOn with
  | nil => exact iff_of_true rfl nofun
  | append_singleton l y ih =>
    rw [lastLeast_concat]
    split
    · next hbest => exact iff_of_false nofun fun hnone => hnone y (List.mem_append_right _ List.mem_cons_self) hbest.1
    · next hworse =>
      rw [ih]
      constructor
      · intro hnone x hx
        rcases List.mem_append.1 hx with hx | hx
        · exact hnone x hx
        · obtain rfl := List.mem_singleton.1 hx
          rw [ih.2 hnone] at hworse
          exact fun hpx => hworse ⟨hpx, nofun⟩
      · exact fun hnone x hx => hnone x (List.mem_append_left _ hx)

/-- No item with the property is smaller than the selected one. -/
theorem key_le_of_lastLeast (h : lastLeast key p l = some x) : ∀ y ∈ l, p y → key x ≤ key y := by
  induction l using List.reverseRecOn generalizing x with
  | nil => exact nofun
  | append_singleton l z ih =>
    rw [lastLeast_concat] at h
    intro y hy hpy
    split at h
    · next hbest =>
      obtain rfl := Option.some.inj h
      rcases List.mem_append.1 hy with hy | hy
      · cases hl : lastLeast key p l with
        | none => exact absurd hpy (lastLeast_eq_none_iff.1 hl y hy)
        | some b => exact le_trans (hbest.2 b hl) (ih hl y hy hpy)
      · exact List.mem_singleton.1 hy ▸ le_refl _
    · next hworse =>
      rcases List.mem_append.1 hy with hy | hy
      · exact ih h y hy hpy
      · obtain rfl := List.mem_singleton.1 hy
        by_contra hlt
        exact hworse ⟨hpy, fun b hb => Option.some.inj (h.symm.trans hb) ▸ le_of_lt (not_le.1 hlt)⟩

/-- The selected item stands in the list as it should. -/
theorem isLastLeast_of_lastLeast (h : lastLeast key p l = some x) : IsLastLeast key p l x := by
  induction l using List.reverseRecOn generalizing x with
  | nil => cases h
  | append_singleton l y ih =>
    have hleast := key_le_of_lastLeast h
    rw [lastLeast_concat] at h
    split at h
    · next hbest =>
      obtain rfl := Option.some.inj h
      exact ⟨l, [], rfl, hbest.1, fun z hz => hleast z (List.mem_append_left _ hz), nofun⟩
    · next hworse =>
      obtain ⟨before, after, rfl, hx, hbefore, hafter⟩ := ih h
      refine ⟨before, after ++ [y], by rw [List.append_assoc]; rfl, hx, hbefore, fun z hz hpz => ?_⟩
      rcases List.mem_append.1 hz with hz | hz
      · exact hafter z hz hpz
      · obtain rfl := List.mem_singleton.1 hz
        by_contra hle
        exact hworse ⟨hpz, fun b hb => Option.some.inj (h.symm.trans hb) ▸ not_lt.1 hle⟩

/-- An item in such a place is selected, and still is after the larger items behind it. -/
theorem lastLeast_of_place {before after : List α} (hx : p x) (hbefore : ∀ y ∈ before, p y → key x ≤ key y)
    (hafter : ∀ y ∈ after, p y → key x < key y) : lastLeast key p (before ++ x :: after) = some x := by
  induction after using List.reverseRecOn with
  | nil =>
    rw [lastLeast_concat]
    refine if_pos ⟨hx, fun b hb => ?_⟩
    obtain ⟨front, back, rfl, hb, -, -⟩ := isLastLeast_of_lastLeast hb
    exact hbefore b (List.mem_append_right _ List.mem_cons_self) hb
  | append_singleton after y ih =>
    have hkept := ih fun z hz => hafter z (List.mem_append_left _ hz)
    rw [← List.cons_append, ← List.append_assoc, lastLeast_concat, hkept]
    refine if_neg fun hbest => ?_
    have hlt := hafter y (List.mem_append_right _ List.mem_cons_self) hbest.1
    exact absurd (hbest.2 x rfl) (not_le.2 hlt)

theorem lastLeast_eq_some_iff : lastLeast key p l = some x ↔ IsLastLeast key p l x := by
  refine ⟨isLastLeast_of_lastLeast, ?_⟩
  rintro ⟨before, after, rfl, hx, hbefore, hafter⟩
  exact lastLeast_of_place hx hbefore hafter

end OperatingOrganism.Selection

import OperatingOrganism.Library.InsertionDict

/-!
# Indexes

A dictionary of lists, filled with `setdefault(key, []).append(item)`. The list of a key has the items that were
appended under it, in their order (`list_append`).
-/

set_option autoImplicit false

namespace OperatingOrganism

universe u v

abbrev Buckets (κ : Type u) (ι : Type v) := InsertionDict κ (List ι)

namespace Buckets

variable {κ : Type u} {ι : Type v} [DecidableEq κ]

/-- `get(key, [])` -/
def list (b : Buckets κ ι) (k : κ) : List ι := (b.get? k).getD []

/-- `setdefault(key, []).append(item)` -/
def append (b : Buckets κ ι) (k : κ) (i : ι) : Buckets κ ι := b.set k (b.list k ++ [i])

theorem list_append (b : Buckets κ ι) (k k' : κ) (i : ι) :
    (b.append k i).list k' = if k' = k then b.list k' ++ [i] else b.list k' := by
  rw [list, append, InsertionDict.get?_set]
  split
  · next hk => rw [hk, Option.getD_some]
  · rfl

/-- An item is appended under those of several distinct keys that have a property. -/
theorem list_foldl_append {α : Type u} (b : Buckets κ ι) (key : α → κ) (p : α → Bool) (i : ι) {as : List α} {a : α}
    (hnodup : (as.map key).Nodup) (ha : a ∈ as) :
    (as.foldl (fun b a => if p a then b.append (key a) i else b) b).list (key a) =
      b.list (key a) ++ if p a then [i] else [] := by
  -- the keys after that of `a` are others
  have hother : ∀ (as : List α) (b : Buckets κ ι), (∀ a' ∈ as, key a ≠ key a') →
      (as.foldl (fun b a => if p a then b.append (key a) i else b) b).list (key a) = b.list (key a) := by
    intro as
    induction as with
    | nil => exact fun _ _ => rfl
    | cons a' as ih =>
      intro b hne
      rw [List.foldl_cons, ih _ fun a'' ha'' => hne a'' (List.mem_cons_of_mem a' ha'')]
      split
      · rw [list_append, if_neg (hne a' List.mem_cons_self)]
      · rfl
  induction as generalizing b with
  | nil => cases ha
  | cons a' as ih =>
    rw [List.map_cons, List.nodup_cons] at hnodup
    rw [List.foldl_cons]
    rcases List.mem_cons.1 ha with rfl | hrest
    · rw [hother as _ fun a'' ha'' heq => hnodup.1 (heq ▸ List.mem_map_of_mem ha'')]
      split
      · rw [list_append, if_pos rfl]
      · rw [List.append_nil]
    · have hne : key a ≠ key a' := fun heq => hnodup.1 (heq ▸ List.mem_map_of_mem hrest)
      rw [ih _ hnodup.2 hrest]
      split
      · rw [list_append, if_neg hne]
      · rfl

end Buckets

end OperatingOrganism

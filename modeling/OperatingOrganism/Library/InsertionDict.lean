import Mathlib.Algebra.BigOperators.Group.List.Basic
import Mathlib.Data.List.Nodup

/-!
# Dictionaries in insertion order

A dictionary that is iterated in the order in which its keys were first inserted: a value for a new key goes to the
end, a value for a known key takes the place of the old one. What is found under a key is described for each
operation (`get?_set`, `get?_mapValues`).
-/

set_option autoImplicit false

namespace OperatingOrganism

universe u v w

structure InsertionDict (κ : Type u) (α : Type v) where
  items : List (κ × α)
  nodup : (items.map Prod.fst).Nodup

namespace InsertionDict

variable {κ : Type u} {α : Type v} [DecidableEq κ]

def empty : InsertionDict κ α := ⟨[], List.nodup_nil⟩

def get? (d : InsertionDict κ α) (k : κ) : Option α := (d.items.find? fun kv => kv.1 = k).map Prod.snd

def values (d : InsertionDict κ α) : List α := d.items.map Prod.snd

/-- Every value is rewritten in its place. -/
def mapValues (f : κ → α → α) (d : InsertionDict κ α) : InsertionDict κ α where
  items := d.items.map fun kv => (kv.1, f kv.1 kv.2)
  nodup := by simpa [List.map_map, Function.comp_def] using d.nodup

/-- The value of one key is rewritten. -/
def adjust (d : InsertionDict κ α) (k : κ) (f : α → α) : InsertionDict κ α :=
  d.mapValues fun k' a => if k' = k then f a else a

theorem get?_eq_none_iff {d : InsertionDict κ α} {k : κ} : d.get? k = none ↔ k ∉ d.items.map Prod.fst := by
  rw [get?, Option.map_eq_none_iff, List.find?_eq_none]
  simp only [decide_eq_true_eq, List.mem_map, not_exists, not_and]

/-- A value for a key. -/
def set (d : InsertionDict κ α) (k : κ) (a : α) : InsertionDict κ α :=
  if h : d.get? k = none then
    ⟨d.items ++ [(k, a)], by
      rw [List.map_append, List.nodup_append]
      refine ⟨d.nodup, List.nodup_singleton _, ?_⟩
      intro x hx y hy hxy
      rw [List.map_singleton, List.mem_singleton] at hy
      have hk : x = k := hxy.trans hy
      exact get?_eq_none_iff.1 h (hk ▸ hx)⟩
  else d.adjust k fun _ => a

theorem get?_mapValues (f : κ → α → α) (d : InsertionDict κ α) (k : κ) :
    (d.mapValues f).get? k = (d.get? k).map (f k) := by
  rw [get?, get?, mapValues, List.find?_map, Option.map_map, Option.map_map]
  cases hfind : d.items.find? fun kv => kv.1 = k with
  | none =>
    have hnone : d.items.find? ((fun kv => decide (kv.1 = k)) ∘ fun kv => (kv.1, f kv.1 kv.2)) = none := hfind
    rw [hnone]
    rfl
  | some kv =>
    have hsome : d.items.find? ((fun kv => decide (kv.1 = k)) ∘ fun kv => (kv.1, f kv.1 kv.2)) = some kv := hfind
    have hkey : kv.1 = k := by simpa using List.find?_some hfind
    rw [hsome, ← hkey]
    rfl

theorem get?_adjust (d : InsertionDict κ α) (k k' : κ) (f : α → α) :
    (d.adjust k f).get? k' = if k' = k then (d.get? k').map f else d.get? k' := by
  rw [adjust, get?_mapValues]
  split
  · rfl
  · exact Option.map_id'

theorem get?_adjust_eq_none_iff {d : InsertionDict κ α} {k k' : κ} {f : α → α} :
    (d.adjust k f).get? k' = none ↔ d.get? k' = none := by
  rw [adjust, get?_mapValues, Option.map_eq_none_iff]

theorem get?_set (d : InsertionDict κ α) (k k' : κ) (a : α) :
    (d.set k a).get? k' = if k' = k then some a else d.get? k' := by
  rw [set]
  split
  · next hnone =>
    rw [get?, List.find?_append, get?]
    by_cases hk : k' = k
    · subst hk
      rw [get?, Option.map_eq_none_iff] at hnone
      simp [hnone]
    · have hother : ¬ decide ((k, a).1 = k') = true := fun h => hk (of_decide_eq_true h).symm
      rw [List.find?_cons_of_neg (p := fun kv : κ × α => kv.1 = k') hother, if_neg hk, List.find?_nil, Option.or_none]
  · next hsome =>
    rw [get?_adjust]
    by_cases hk : k' = k
    · subst hk
      obtain ⟨b, hb⟩ := Option.ne_none_iff_exists'.1 hsome
      rw [if_pos rfl, if_pos rfl, hb]
      rfl
    · rw [if_neg hk, if_neg hk]

theorem mem_items_iff {d : InsertionDict κ α} {k : κ} {a : α} : (k, a) ∈ d.items ↔ d.get? k = some a := by
  rw [get?, Option.map_eq_some_iff]
  constructor
  · intro hmem
    cases hfind : d.items.find? fun kv => kv.1 = k with
    | none =>
      rw [List.find?_eq_none] at hfind
      exact absurd (decide_eq_true rfl) (hfind _ hmem)
    | some kv =>
      have hkey : kv.1 = k := by simpa using List.find?_some hfind
      have hsame : kv = (k, a) := List.inj_on_of_nodup_map d.nodup (List.mem_of_find?_eq_some hfind) hmem hkey
      exact ⟨kv, rfl, congrArg Prod.snd hsame⟩
  · rintro ⟨kv, hfind, rfl⟩
    have hkey : kv.1 = k := by simpa using List.find?_some hfind
    exact hkey ▸ List.mem_of_find?_eq_some hfind

/-- The values are those that are found. -/
theorem mem_values_iff {d : InsertionDict κ α} {a : α} : a ∈ d.values ↔ ∃ k, d.get? k = some a := by
  rw [values, List.mem_map]
  constructor
  · rintro ⟨⟨k, a⟩, hmem, rfl⟩
    exact ⟨k, mem_items_iff.1 hmem⟩
  · rintro ⟨k, hk⟩
    exact ⟨(k, a), mem_items_iff.2 hk, rfl⟩

theorem items_set_of_none {d : InsertionDict κ α} {k : κ} (h : d.get? k = none) (a : α) :
    (d.set k a).items = d.items ++ [(k, a)] := by
  rw [set, dif_pos h]

theorem items_set_of_some {d : InsertionDict κ α} {k : κ} {b : α} (h : d.get? k = some b) (a : α) :
    (d.set k a).items = d.items.map fun kv => (kv.1, if kv.1 = k then a else kv.2) := by
  rw [set, dif_neg (by simp [h]), adjust, mapValues]

/-- A sum over the values trades the old one for the new one. -/
theorem sum_values_set {M : Type w} [AddCommMonoid M] (f : α → M) (d : InsertionDict κ α) (k : κ) (a : α) :
    ((d.set k a).values.map f).sum + ((d.get? k).map f).getD 0 = (d.values.map f).sum + f a := by
  cases hold : d.get? k with
  | none => simp [values, items_set_of_none hold]
  | some b =>
    obtain ⟨front, back, hitems⟩ := List.append_of_mem (mem_items_iff.2 hold)
    have hothers : ∀ kv ∈ front ++ back, kv.1 ≠ k := by
      have hnodup := d.nodup
      rw [hitems, List.map_append, List.map_cons, List.nodup_middle, List.nodup_cons, ← List.map_append] at hnodup
      intro kv hkv hkey
      have hmem : kv.1 ∈ (front ++ back).map Prod.fst := List.mem_map_of_mem hkv
      exact hnodup.1 (hkey ▸ hmem)
    have hkept : ∀ l : List (κ × α), (∀ kv ∈ l, kv.1 ≠ k) →
        (l.map fun kv => f (if kv.1 = k then a else kv.2)) = l.map fun kv => f kv.2 := by
      intro l hl
      apply List.map_congr_left
      intro kv hkv
      rw [if_neg (hl kv hkv)]
    have hfront := hkept front fun kv hkv => hothers kv (List.mem_append_left _ hkv)
    have hback := hkept back fun kv hkv => hothers kv (List.mem_append_right _ hkv)
    simp only [values, items_set_of_some hold, hitems, List.map_append, List.map_cons, List.map_map,
      Function.comp_def, List.sum_append, List.sum_cons, Option.map_some, Option.getD_some, if_true]
    rw [hfront, hback]
    ac_rfl

/-- The entries that pass a test. -/
def filter (p : κ → α → Bool) (d : InsertionDict κ α) : InsertionDict κ α where
  items := d.items.filter fun kv => p kv.1 kv.2
  nodup := d.nodup.sublist (List.filter_sublist.map Prod.fst)

theorem get?_filter (p : κ → α → Bool) (d : InsertionDict κ α) (k : κ) :
    (d.filter p).get? k = (d.get? k).filter (p k) := by
  apply Option.ext
  intro a
  rw [Option.filter_eq_some_iff, ← mem_items_iff, ← mem_items_iff, filter, List.mem_filter]

/-- Some of the keys lead back to their values. -/
theorem filterMap_get?_map_fst (d : InsertionDict κ α) {l : List (κ × α)} (hl : ∀ kv ∈ l, kv ∈ d.items) :
    (l.map Prod.fst).filterMap d.get? = l.map Prod.snd := by
  induction l with
  | nil => rfl
  | cons kv rest ih =>
    have hfound : d.get? kv.1 = some kv.2 := mem_items_iff.1 (hl kv List.mem_cons_self)
    rw [List.map_cons, List.filterMap_cons_some hfound, List.map_cons,
      ih fun kv' hkv' => hl kv' (List.mem_cons_of_mem kv hkv')]

end InsertionDict

end OperatingOrganism

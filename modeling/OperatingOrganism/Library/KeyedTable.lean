import Mathlib.Data.List.Nodup
import Mathlib.Data.List.Perm.Basic
import Mathlib.Logic.Function.Basic

/-!
# Keyed tables

A table is a list of entries in no particular order, searched by a key. It lists a content, a partial function of the
key, when no key occurs twice and the entries are those of the content (`Lists`). Appending an entry with a fresh
key, rewriting an entry in place and removing one in any order are updates of the content, and a search by key finds
what the content says.
-/

set_option autoImplicit false

namespace OperatingOrganism.KeyedTable

universe u v

variable {κ : Type u} {β : Type v}

/-- No key occurs twice in the table, and its entries are those of the content. -/
structure Lists (key : β → κ) (table : List β) (content : κ → Option β) : Prop where
  nodup : (table.map key).Nodup
  eq_some_iff : ∀ k x, content k = some x ↔ x ∈ table ∧ key x = k

namespace Lists

variable {key : β → κ} {table rest : List β} {content : κ → Option β} {k : κ} {x y : β} {i : Nat}

theorem nil : Lists key [] fun _ => none := ⟨List.nodup_nil, fun _ _ => iff_of_false nofun nofun⟩

theorem content_of_mem (h : Lists key table content) (hx : x ∈ table) : content (key x) = some x :=
  (h.eq_some_iff _ x).2 ⟨hx, rfl⟩

theorem eq_none_iff (h : Lists key table content) : content k = none ↔ ∀ x ∈ table, key x ≠ k := by
  constructor
  · rintro hnone x hx rfl
    rw [h.content_of_mem hx] at hnone
    cases hnone
  · intro hfresh
    rw [Option.eq_none_iff_forall_ne_some]
    intro x hx
    obtain ⟨hmem, hkey⟩ := (h.eq_some_iff k x).1 hx
    exact hfresh x hmem hkey

/-- The order of the entries does not matter. -/
theorem perm {table' : List β} (h : Lists key table content) (hperm : table.Perm table') :
    Lists key table' content where
  nodup := (hperm.map key).nodup_iff.1 h.nodup
  eq_some_iff k x := by rw [h.eq_some_iff, hperm.mem_iff]

section Updates

variable [DecidableEq κ]

/-- Removing an entry. -/
theorem tail (h : Lists key (x :: rest) content) : Lists key rest (Function.update content (key x) none) := by
  obtain ⟨hfresh, hnodup⟩ := List.nodup_cons.1 h.nodup
  refine ⟨hnodup, ?_⟩
  intro k y
  by_cases hk : k = key x
  · rw [hk, Function.update_self]
    refine iff_of_false nofun ?_
    rintro ⟨hy, hkey⟩
    exact hfresh (hkey ▸ List.mem_map_of_mem hy)
  · rw [Function.update_of_ne hk, h.eq_some_iff, List.mem_cons]
    constructor
    · rintro ⟨rfl | hy, hkey⟩
      · exact absurd hkey.symm hk
      · exact ⟨hy, hkey⟩
    · rintro ⟨hy, hkey⟩
      exact ⟨.inr hy, hkey⟩

/-- Adding an entry with a fresh key. -/
theorem cons (h : Lists key table content) (hfresh : content (key x) = none) :
    Lists key (x :: table) (Function.update content (key x) (some x)) := by
  rw [h.eq_none_iff] at hfresh
  refine ⟨List.nodup_cons.2 ⟨?_, h.nodup⟩, ?_⟩
  · intro hmem
    obtain ⟨y, hy, hkey⟩ := List.mem_map.1 hmem
    exact hfresh y hy hkey
  · intro k y
    by_cases hk : k = key x
    · rw [hk, Function.update_self, Option.some.injEq, List.mem_cons]
      constructor
      · rintro rfl
        exact ⟨.inl rfl, rfl⟩
      · rintro ⟨rfl | hy, hkey⟩
        · rfl
        · exact absurd hkey (hfresh y hy)
    · rw [Function.update_of_ne hk, h.eq_some_iff, List.mem_cons]
      constructor
      · rintro ⟨hy, hkey⟩
        exact ⟨.inr hy, hkey⟩
      · rintro ⟨rfl | hy, hkey⟩
        · exact absurd hkey.symm hk
        · exact ⟨hy, hkey⟩

theorem append (h : Lists key table content) (hfresh : content (key x) = none) :
    Lists key (table ++ [x]) (Function.update content (key x) (some x)) :=
  (h.cons hfresh).perm (List.perm_append_singleton x table).symm

/-- Rewriting an entry that keeps its key. -/
theorem set (h : Lists key table content) (hi : table[i]? = some x) (hkey : key y = key x) :
    Lists key (table.set i y) (Function.update content (key x) (some y)) := by
  obtain ⟨hlt, rfl⟩ := List.getElem?_eq_some_iff.1 hi
  have hremoved := (h.perm (List.getElem_cons_eraseIdx_perm hlt).symm).tail
  have hadded := hremoved.cons (x := y) (by rw [hkey, Function.update_self])
  rw [hkey, Function.update_idem] at hadded
  exact hadded.perm (List.set_perm_cons_eraseIdx hlt y).symm

/-- What is left without a key. -/
theorem perm_filter (h : Lists key (x :: rest) content) :
    rest.Perm ((x :: rest).filter fun y => key y ≠ key x) := by
  have hfresh := (List.nodup_cons.1 h.nodup).1
  rw [List.filter_cons_of_neg (by simp), List.filter_eq_self.2]
  intro y hy
  rw [decide_eq_true_iff]
  rintro hkey
  exact hfresh (hkey ▸ List.mem_map_of_mem hy)

/-- A table in which no key occurs twice has a content. -/
theorem exists_lists (h : (table.map key).Nodup) : ∃ content, Lists key table content := by
  induction table with
  | nil => exact ⟨_, nil⟩
  | cons x table ih =>
    obtain ⟨hfresh, hnodup⟩ := List.nodup_cons.1 h
    obtain ⟨content, hlists⟩ := ih hnodup
    exact ⟨_, hlists.cons (hlists.eq_none_iff.2 fun y hy heq => hfresh (heq ▸ List.mem_map_of_mem hy))⟩

/-- The search for a key finds the entry of the content. -/
theorem getElem?_findIdx? (h : Lists key table content) (k : κ) :
    ((table.findIdx? fun x => key x = k).bind fun i => table[i]?) = content k := by
  cases hfind : table.findIdx? fun x => key x = k with
  | none =>
    rw [List.findIdx?_eq_none_iff] at hfind
    refine (h.eq_none_iff.2 fun x hx => ?_).symm
    exact of_decide_eq_false (hfind x hx)
  | some i =>
    obtain ⟨hi, hkey, -⟩ := List.findIdx?_eq_some_iff_getElem.1 hfind
    rw [Option.bind_some, List.getElem?_eq_getElem hi, ← of_decide_eq_true hkey,
      h.content_of_mem (List.getElem_mem hi)]

/-- The search for a key and a property finds the entry of the content, if it has the property. -/
theorem find?_and (h : Lists key table content) (k : κ) (p : β → Bool) :
    table.find? (fun x => key x = k && p x) = (content k).filter p := by
  cases hfind : table.find? (fun x => key x = k && p x) with
  | some x =>
    have hx := List.find?_some hfind
    simp only [Bool.and_eq_true, decide_eq_true_eq] at hx
    rw [← hx.1, h.content_of_mem (List.mem_of_find?_eq_some hfind), Option.filter_some, if_pos hx.2]
  | none =>
    cases hcontent : content k with
    | none => rfl
    | some x =>
      obtain ⟨hx, hkey⟩ := (h.eq_some_iff k x).1 hcontent
      have hfails := List.find?_eq_none.1 hfind x hx
      simp only [hkey, decide_true, Bool.true_and] at hfails
      rw [Option.filter_some, if_neg hfails]

end Updates

/-- Rewriting every entry under its key. -/
theorem map {f : β → β} (h : Lists key table content) (hf : ∀ x, key (f x) = key x) :
    Lists key (table.map f) fun k => (content k).map f where
  nodup := by
    rw [List.map_map]
    have hkeys : key ∘ f = key := funext hf
    rw [hkeys]
    exact h.nodup
  eq_some_iff k y := by
    simp only [Option.map_eq_some_iff, List.mem_map]
    constructor
    · rintro ⟨x, hx, rfl⟩
      obtain ⟨hmem, hkey⟩ := (h.eq_some_iff k x).1 hx
      exact ⟨⟨x, hmem, rfl⟩, (hf x).trans hkey⟩
    · rintro ⟨⟨x, hx, rfl⟩, hkey⟩
      exact ⟨x, (h.eq_some_iff k x).2 ⟨hx, (hf x).symm.trans hkey⟩, rfl⟩

end Lists

end OperatingOrganism.KeyedTable

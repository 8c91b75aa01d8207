import Mathlib.Logic.Function.Iterate

/-!
# Changing the first item with a key

Items of a list are changed one at a time, the first with a given key each time (`modifyFirst`), by a function that
keeps the keys. A list of such keys changes the first item with each key as often as the key comes, and the others
not at all (`getElem?_foldl_modifyFirst`).
-/

set_option autoImplicit false

namespace OperatingOrganism.FirstMatch

universe u v w

variable {α : Type u} {κ : Type v} (key : α → κ) (f : α → α)

/-- No item before place `i` has the key of the one there. -/
def IsFirst (l : List α) (i : Nat) : Prop := ∀ j, j < i → (l.map key)[j]? ≠ (l.map key)[i]?

instance [DecidableEq κ] (l : List α) (i : Nat) : Decidable (IsFirst key l i) :=
  inferInstanceAs (Decidable (∀ j, j < i → _))

/-- The first item with the key is changed, if there is one. -/
def modifyFirst [DecidableEq κ] (l : List α) (k : κ) : List α :=
  match l.findIdx? fun x => key x = k with
  | some i => l.modify i f
  | none => l

variable {key f} {l : List α} {i j : Nat} {x y : α} {k : κ}

/-- Two first items with the same key are one. -/
theorem IsFirst.unique (hi : IsFirst key l i) (hj : IsFirst key l j) (hx : l[i]? = some x) (hy : l[j]? = some y)
    (hkey : key x = key y) : i = j := by
  have hsame : (l.map key)[i]? = (l.map key)[j]? := by
    rw [List.getElem?_map, List.getElem?_map, hx, hy, Option.map_some, Option.map_some, hkey]
  rcases Nat.lt_trichotomy i j with hlt | heq | hgt
  · exact absurd hsame (hj i hlt)
  · exact heq
  · exact absurd hsame.symm (hi j hgt)

variable [DecidableEq κ]

/-- The search finds the place of an item if and only if it is the first with the key. -/
theorem findIdx?_eq_some_iff_isFirst (hx : l[i]? = some x) :
    l.findIdx? (fun x => key x = k) = some i ↔ IsFirst key l i ∧ key x = k := by
  obtain ⟨hi, rfl⟩ := List.getElem?_eq_some_iff.1 hx
  rw [List.findIdx?_eq_some_iff_getElem]
  simp only [decide_eq_true_eq, IsFirst]
  constructor
  · rintro ⟨_, hkey, hbefore⟩
    refine ⟨fun j hj heq => hbefore j hj ?_, hkey⟩
    rw [List.getElem?_map, List.getElem?_map, List.getElem?_eq_getElem hi,
      List.getElem?_eq_getElem (Nat.lt_trans hj hi)] at heq
    exact (Option.some.inj heq).trans hkey
  · rintro ⟨hfirst, hkey⟩
    refine ⟨hi, hkey, fun j hj heq => hfirst j hj ?_⟩
    rw [List.getElem?_map, List.getElem?_map, List.getElem?_eq_getElem hi,
      List.getElem?_eq_getElem (Nat.lt_trans hj hi), Option.map_some, Option.map_some, hkey, heq]

/-- One change, at every place. -/
theorem getElem?_modifyFirst (l : List α) (k : κ) (i : Nat) :
    (modifyFirst key f l k)[i]? = l[i]?.map fun x => if IsFirst key l i ∧ key x = k then f x else x := by
  cases hx : l[i]? with
  | none =>
    rw [Option.map_none, List.getElem?_eq_none_iff, modifyFirst]
    split
    · rw [List.length_modify]
      exact List.getElem?_eq_none_iff.1 hx
    · exact List.getElem?_eq_none_iff.1 hx
  | some x =>
    rw [Option.map_some, modifyFirst]
    have hplace : l.findIdx? (fun x => key x = k) = some i ↔ IsFirst key l i ∧ key x = k :=
      findIdx?_eq_some_iff_isFirst hx
    cases hfind : l.findIdx? fun x => key x = k with
    | some m =>
      rw [hfind, Option.some.injEq] at hplace
      dsimp only
      rw [List.getElem?_modify, hx]
      simp only [hplace]
      rfl
    | none =>
      rw [hfind] at hplace
      dsimp only
      rw [if_neg fun h => absurd (hplace.2 h) nofun]
      exact hx

/-- A change that keeps the keys leaves them where they are. -/
theorem map_modifyFirst (hf : ∀ x, key (f x) = key x) (l : List α) (k : κ) :
    (modifyFirst key f l k).map key = l.map key := by
  refine List.ext_getElem? fun i => ?_
  rw [List.getElem?_map, List.getElem?_map, getElem?_modifyFirst, Option.map_map]
  congr 1
  funext x
  rw [Function.comp_apply]
  split
  · exact hf x
  · rfl

theorem isFirst_modifyFirst_iff (hf : ∀ x, key (f x) = key x) :
    IsFirst key (modifyFirst key f l k) i ↔ IsFirst key l i := by
  rw [IsFirst, map_modifyFirst hf]
  exact Iff.rfl

/-- What every change keeps stays where it is. -/
theorem map_modifyFirst_of_keeps {β : Type w} {g : α → β} (hg : ∀ x, g (f x) = g x) (l : List α) (k : κ) :
    (modifyFirst key f l k).map g = l.map g := by
  apply List.ext_getElem?
  intro i
  simp only [List.getElem?_map, getElem?_modifyFirst, Option.map_map]
  congr 1
  funext x
  rw [Function.comp_apply]
  split
  · exact hg x
  · rfl

/-- The search finds the first item with the key. -/
theorem find?_eq_some_iff_isFirst :
    l.find? (fun x => key x = k) = some x ↔ ∃ i, l[i]? = some x ∧ IsFirst key l i ∧ key x = k := by
  constructor
  · intro hfind
    obtain ⟨hkey, i, hi, hx, hbefore⟩ := List.find?_eq_some_iff_getElem.1 hfind
    have hplace : l[i]? = some x := by rw [List.getElem?_eq_getElem hi, hx]
    refine ⟨i, hplace, (findIdx?_eq_some_iff_isFirst hplace).1 ?_⟩
    apply List.findIdx?_eq_some_iff_getElem.2
    exact ⟨hi, hx ▸ hkey, fun j hj => by simpa using hbefore j hj⟩
  · rintro ⟨i, hplace, hfirst⟩
    obtain ⟨hi, hkey, hbefore⟩ :=
      List.findIdx?_eq_some_iff_getElem.1 ((findIdx?_eq_some_iff_isFirst hplace).2 hfirst)
    apply List.find?_eq_some_iff_getElem.2
    refine ⟨by simpa using hfirst.2, i, hi, ?_, fun j hj => by simpa using hbefore j hj⟩
    exact (List.getElem?_eq_some_iff.1 hplace).2

omit [DecidableEq κ] in
/-- Further items change nothing for those before. -/
theorem isFirst_append_iff {l' : List α} (hi : i < l.length) : IsFirst key (l ++ l') i ↔ IsFirst key l i := by
  apply forall_congr'
  intro j
  apply imp_congr_right
  intro hj
  simp only [List.getElem?_map, List.getElem?_append_left hi, List.getElem?_append_left (Nat.lt_trans hj hi)]

omit [DecidableEq κ] in
/-- An item at the end is the first one if none before has its key. -/
theorem isFirst_length_iff : IsFirst key (l ++ [x]) l.length ↔ ∀ y ∈ l, key y ≠ key x := by
  have hlast : (l ++ [x])[l.length]? = some x := by simp
  constructor
  · intro hfirst y hy hkey
    obtain ⟨j, hj, rfl⟩ := List.mem_iff_getElem.1 hy
    apply hfirst j hj
    simp only [List.getElem?_map, hlast, List.getElem?_append_left hj, List.getElem?_eq_getElem hj, Option.map_some,
      hkey]
  · intro hnone j hj heq
    simp only [List.getElem?_map, hlast, List.getElem?_append_left hj, List.getElem?_eq_getElem hj, Option.map_some,
      Option.some.injEq] at heq
    exact hnone l[j] (List.getElem_mem hj) heq

/-- A list of keys changes the first item with each key as often as it comes. -/
theorem getElem?_foldl_modifyFirst (hf : ∀ x, key (f x) = key x) (ks : List κ) (l : List α) (i : Nat) :
    (ks.foldl (modifyFirst key f) l)[i]? =
      l[i]?.map fun x => if IsFirst key l i then f^[ks.count (key x)] x else x := by
  induction ks generalizing l with
  | nil =>
    rw [List.foldl_nil]
    simp only [List.count_nil, Function.iterate_zero, id_eq, ite_self, Option.map_id']
  | cons k ks ih =>
    rw [List.foldl_cons, ih, getElem?_modifyFirst, Option.map_map]
    congr 1
    funext x
    rw [Function.comp_apply]
    simp only [isFirst_modifyFirst_iff hf]
    by_cases hfirst : IsFirst key l i
    · by_cases hkey : key x = k
      · rw [if_pos hfirst, if_pos hfirst, if_pos ⟨hfirst, hkey⟩, hf, ← hkey, List.count_cons_self,
          Function.iterate_succ_apply]
      · rw [if_pos hfirst, if_pos hfirst, if_neg fun h => hkey h.2, List.count_cons_of_ne (Ne.symm hkey)]
    · rw [if_neg hfirst, if_neg hfirst, if_neg fun h => hfirst h.1]

end OperatingOrganism.FirstMatch

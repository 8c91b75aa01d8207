import Mathlib.Data.Nat.Notation
import Mathlib.Data.List.Basic

/-!
# Pools

A table with a fixed number of places and no deletion: entries are added behind the last one until the places are
used up, and found by a search from the front. Where the entries have keys and keep them, the entry of a key is the
first one that was added for it (`lookup_push?`, `lookup_modify`, `lookup_map`), and keys that are searched before an
entry is added stay distinct (`DistinctKeys`).
-/

set_option autoImplicit false

namespace OperatingOrganism

universe u v

structure Pool (α : Type u) (capacity : Nat) where
  entries : List α
  fits : entries.length ≤ capacity

namespace Pool

variable {α : Type u} {capacity : Nat}

def empty : Pool α capacity := ⟨[], Nat.zero_le _⟩

/-- The place of the first entry with `p`. -/
def find? (pool : Pool α capacity) (p : α → Bool) : Option Nat := pool.entries.findIdx? p

/-- The entry at a place is rewritten. -/
def modify (pool : Pool α capacity) (i : Nat) (f : α → α) : Pool α capacity :=
  ⟨pool.entries.modify i f, by simpa using pool.fits⟩

/-- Every entry is rewritten. -/
def map (pool : Pool α capacity) (f : α → α) : Pool α capacity :=
  ⟨pool.entries.map f, by simpa using pool.fits⟩

/-- An entry behind the last one, if there is a place for it. -/
def push? (pool : Pool α capacity) (a : α) : Option (Pool α capacity) :=
  if h : pool.entries.length < capacity then some ⟨pool.entries ++ [a], by simpa using Nat.succ_le_of_lt h⟩ else none

theorem find?_eq_none_iff {pool : Pool α capacity} {p : α → Bool} :
    pool.find? p = none ↔ ∀ a ∈ pool.entries, p a = false := List.findIdx?_eq_none_iff

/-- With a place left, an entry is added. -/
theorem push?_of_lt {pool : Pool α capacity} (a : α) (hroom : pool.entries.length < capacity) :
    ∃ pool', pool.push? a = some pool' ∧ pool'.entries = pool.entries ++ [a] := ⟨_, dif_pos hroom, rfl⟩

/-- With all places used up, none is. -/
theorem push?_of_not_lt {pool : Pool α capacity} (a : α) (hfull : ¬ pool.entries.length < capacity) :
    pool.push? a = none := dif_neg hfull

theorem entries_push? {pool pool' : Pool α capacity} {a : α} (h : pool.push? a = some pool') :
    pool'.entries = pool.entries ++ [a] := by
  unfold push? at h
  split at h
  · obtain rfl := Option.some.inj h
    rfl
  · cases h

section Keyed

variable {κ : Type v} [DecidableEq κ] {key : α → κ} {pool pool' : Pool α capacity} {k : κ} {i : Nat} {f : α → α}

/-- The first entry with a key. -/
def lookup (key : α → κ) (pool : Pool α capacity) (k : κ) : Option α := pool.entries.find? fun a => key a = k

theorem lookup_eq_none_iff : pool.lookup key k = none ↔ pool.find? (fun a => key a = k) = none := by
  rw [lookup, List.find?_eq_none, find?_eq_none_iff]
  simp

/-- The search finds the first entry of the key: those before it have other keys. -/
theorem split_of_findIdx? {l : List α} (h : l.findIdx? (fun a => key a = k) = some i) :
    ∃ before a after, l = before ++ a :: after ∧ before.length = i ∧ key a = k ∧ ∀ b ∈ before, key b ≠ k := by
  induction l generalizing i with
  | nil => cases h
  | cons a l ih =>
    rw [List.findIdx?_cons] at h
    split at h
    · next hkey =>
      obtain rfl := Option.some.inj h
      exact ⟨[], a, l, rfl, rfl, of_decide_eq_true hkey, by simp⟩
    · next hkey =>
      obtain ⟨j, hj, rfl⟩ := Option.map_eq_some_iff.1 h
      obtain ⟨before, b, after, rfl, rfl, hb, hbefore⟩ := ih hj
      refine ⟨a :: before, b, after, rfl, rfl, hb, ?_⟩
      rintro c (_ | ⟨_, hc⟩)
      · exact fun heq => hkey (decide_eq_true heq)
      · exact hbefore c hc

/-- The first entry of the key in a list that is split there. -/
theorem find?_split {before after : List α} {a : α} (ha : key a = k) (hbefore : ∀ b ∈ before, key b ≠ k) :
    (before ++ a :: after).find? (fun a => key a = k) = some a := by
  have hnone : before.find? (fun a => key a = k) = none := by
    rw [List.find?_eq_none]
    exact fun b hb hkey => hbefore b hb (of_decide_eq_true hkey)
  rw [List.find?_append, hnone, List.find?_cons_of_pos (p := fun a => key a = k) (decide_eq_true ha)]
  rfl

/-- The place that the search finds holds the entry of the key. -/
theorem lookup_of_find? (key : α → κ) (h : pool.find? (fun a => key a = k) = some i) :
    ∃ a, pool.lookup key k = some a ∧ pool.entries[i]? = some a := by
  obtain ⟨before, a, after, hsplit, rfl, ha, hbefore⟩ := split_of_findIdx? h
  refine ⟨a, ?_, ?_⟩
  · rw [lookup, hsplit, find?_split ha hbefore]
  · rw [hsplit, List.getElem?_append_right (Nat.le_refl _), Nat.sub_self]
    rfl

/-- An entry is rewritten in its place. -/
theorem getElem?_modify {a : α} (h : pool.entries[i]? = some a) : (pool.modify i f).entries[i]? = some (f a) := by
  rw [modify, List.getElem?_modify_eq, h]
  rfl

/-- A new entry is found under its key, unless the key has one already. -/
theorem lookup_push? (key : α → κ) (k : κ) {a : α} (h : pool.push? a = some pool') :
    pool'.lookup key k = (pool.lookup key k).or (if key a = k then some a else none) := by
  rw [lookup, entries_push? h, List.find?_append, lookup]
  by_cases hkey : key a = k <;> simp [hkey]

/-- Rewriting the entry of a key changes what is found under this key and no other. -/
theorem lookup_modify (k' : κ) (h : pool.find? (fun a => key a = k) = some i) (hf : ∀ a, key (f a) = key a) :
    (pool.modify i f).lookup key k' = if k' = k then (pool.lookup key k).map f else pool.lookup key k' := by
  obtain ⟨before, a, after, hsplit, rfl, ha, hbefore⟩ := split_of_findIdx? h
  have hmodify : (pool.modify before.length f).entries = before ++ f a :: after := by
    change pool.entries.modify before.length f = _
    rw [hsplit]
    exact List.modifyTailIdx_add (List.modifyHead f) 0 before (a :: after)
  rw [lookup, hmodify]
  split
  · next hk =>
    rw [hk, find?_split ((hf a).trans ha) hbefore, lookup, hsplit, find?_split ha hbefore]
    rfl
  · next hk =>
    have hother : ¬ decide (key a = k') = true := by simpa [ha] using fun heq => hk heq.symm
    have hother' : ¬ decide (key (f a) = k') = true := by rwa [hf]
    rw [lookup, hsplit, List.find?_append, List.find?_append,
      List.find?_cons_of_neg (p := fun a => key a = k') hother,
      List.find?_cons_of_neg (p := fun a => key a = k') hother']

/-- Rewriting every entry rewrites what is found. -/
theorem lookup_map (pool : Pool α capacity) (k : κ) (hf : ∀ a, key (f a) = key a) :
    (pool.map f).lookup key k = (pool.lookup key k).map f := by
  rw [lookup, map, List.find?_map]
  simp only [Function.comp_def, hf]
  rfl

/-- No two entries have the same key. -/
def DistinctKeys (key : α → κ) (pool : Pool α capacity) : Prop := (pool.entries.map key).Nodup

omit [DecidableEq κ] in
/-- Where the keys stay as they are, they stay distinct. -/
theorem DistinctKeys.of_map_eq (h : pool.DistinctKeys key)
    (hsame : pool'.entries.map key = pool.entries.map key) : pool'.DistinctKeys key := by
  rw [DistinctKeys, hsame]
  exact h

omit [DecidableEq κ] in
/-- An entry is rewritten under its key. -/
theorem DistinctKeys.modify (h : pool.DistinctKeys key) (i : Nat) (hf : ∀ a, key (f a) = key a) :
    (pool.modify i f).DistinctKeys key := by
  refine h.of_map_eq ?_
  change (pool.entries.modify i f).map key = _
  apply List.ext_getElem?
  intro j
  rw [List.getElem?_map, List.getElem?_map, List.getElem?_modify]
  cases pool.entries[j]? with
  | none => split <;> rfl
  | some a =>
    split
    · exact congrArg some (hf a)
    · rfl

omit [DecidableEq κ] in
/-- All entries are rewritten under their keys. -/
theorem DistinctKeys.map (h : pool.DistinctKeys key) (hf : ∀ a, key (f a) = key a) :
    (pool.map f).DistinctKeys key := by
  refine h.of_map_eq ?_
  change (pool.entries.map f).map key = _
  rw [List.map_map]
  exact List.map_congr_left fun a _ => hf a

omit [DecidableEq κ] in
/-- An entry with a key of its own is added. -/
theorem DistinctKeys.push? {a : α} (h : pool.DistinctKeys key) (hpush : pool.push? a = some pool')
    (hnew : ∀ b ∈ pool.entries, key b ≠ key a) : pool'.DistinctKeys key := by
  rw [DistinctKeys, entries_push? hpush, List.map_append, List.nodup_append]
  refine ⟨h, List.pairwise_singleton _ _, ?_⟩
  intro k hk k' hk'
  obtain ⟨b, hb, rfl⟩ := List.mem_map.1 hk
  obtain rfl := List.mem_singleton.1 hk'
  exact hnew b hb

end Keyed

/-- An entry of a pool in which one place was rewritten is an entry of the pool, or the rewritten one. -/
theorem mem_modify {pool : Pool α capacity} {i : Nat} {f : α → α} {a : α} (ha : a ∈ (pool.modify i f).entries) :
    a ∈ pool.entries ∨ ∃ b, pool.entries[i]? = some b ∧ a = f b := by
  obtain ⟨j, hj⟩ := List.mem_iff_getElem?.1 ha
  change (pool.entries.modify i f)[j]? = some a at hj
  rw [List.getElem?_modify] at hj
  obtain ⟨b, hb, heq⟩ := Option.map_eq_some_iff.1 hj
  split at heq
  · next hij => exact .inr ⟨b, hij ▸ hb, heq.symm⟩
  · exact .inl (heq ▸ List.mem_iff_getElem?.2 ⟨j, hb⟩)

end Pool

end OperatingOrganism

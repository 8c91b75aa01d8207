import Mathlib.Data.List.Infix

/-!
# Comparing two tables entry by entry

`changedPlaces` goes through a table and looks every place up in a reference. It is silent where one of the two has
no entry, so it finds nothing if and only if one table is a prefix of the other (`changedPlaces_eq_nil_iff`). The
first place that it finds is the first one at which the tables differ (`firstDifferent_of_changedPlaces`).
-/

set_option autoImplicit false

namespace OperatingOrganism.TableDiff

universe u

variable {α : Type u} {reference current : List α}

/-- The first place at which two tables differ: one has another entry there, or none. -/
structure FirstDifferent (reference current : List α) (i : Nat) : Prop where
  differs : reference[i]? ≠ current[i]?
  agree : ∀ j < i, reference[j]? = current[j]?

theorem FirstDifferent.unique {i j : Nat} (hi : FirstDifferent reference current i)
    (hj : FirstDifferent reference current j) : i = j := by
  rcases Nat.lt_trichotomy i j with hlt | heq | hlt
  · exact absurd (hj.agree i hlt) hi.differs
  · exact heq
  · exact absurd (hi.agree j hlt) hj.differs

/-- One table is the other and at least one more entry. -/
def ProperPrefix (l l' : List α) : Prop := l <+: l' ∧ l ≠ l'

variable [DecidableEq α]

/-- The places of the current entries that differ from the entry of the reference, where it has one. -/
def changedPlaces (reference current : List α) : List Nat :=
  (current.zipIdx.filter fun e =>
    match reference[e.2]? with
    | some old => old ≠ e.1
    | none => false).map Prod.snd

theorem mem_changedPlaces {i : Nat} :
    i ∈ changedPlaces reference current ↔
      ∃ new old, current[i]? = some new ∧ reference[i]? = some old ∧ old ≠ new := by
  simp only [changedPlaces, List.mem_map, List.mem_filter, List.mem_zipIdx_iff_getElem?]
  constructor
  · rintro ⟨⟨new, i⟩, ⟨hnew, hchanged⟩, rfl⟩
    cases hold : reference[i]? with
    | none => simp [hold] at hchanged
    | some old =>
      simp only [hold, decide_eq_true_eq] at hchanged
      exact ⟨new, old, hnew, rfl, hchanged⟩
  · rintro ⟨new, old, hnew, hold, hne⟩
    refine ⟨(new, i), ⟨hnew, ?_⟩, rfl⟩
    simpa only [hold, decide_eq_true_eq] using hne

/-- They are found from the front. -/
theorem pairwise_changedPlaces (reference current : List α) : (changedPlaces reference current).Pairwise (· < ·) := by
  have hplaces : (current.zipIdx.map Prod.snd).Pairwise (· < ·) := by
    rw [List.zipIdx_map_snd]
    exact List.pairwise_lt_range'
  exact hplaces.sublist (List.filter_sublist.map Prod.snd)

/-- Nothing is found if and only if one table is a prefix of the other. -/
theorem changedPlaces_eq_nil_iff :
    changedPlaces reference current = [] ↔ current <+: reference ∨ reference <+: current := by
  rw [List.eq_nil_iff_forall_not_mem]
  constructor
  · intro hnone
    have hsame : ∀ (i : Nat) (new old : α), current[i]? = some new → reference[i]? = some old → old = new := by
      intro i new old hnew hold
      by_contra hne
      exact hnone i (mem_changedPlaces.2 ⟨new, old, hnew, hold, hne⟩)
    rcases Nat.le_total current.length reference.length with hle | hle
    · refine .inl (List.prefix_iff_getElem.2 ⟨hle, fun i hi => ?_⟩)
      have hi' := Nat.lt_of_lt_of_le hi hle
      exact (hsame i _ _ (List.getElem?_eq_getElem hi) (List.getElem?_eq_getElem hi')).symm
    · refine .inr (List.prefix_iff_getElem.2 ⟨hle, fun i hi => ?_⟩)
      have hi' := Nat.lt_of_lt_of_le hi hle
      exact hsame i _ _ (List.getElem?_eq_getElem hi') (List.getElem?_eq_getElem hi)
  · rintro hfront i hi
    obtain ⟨new, old, hnew, hold, hne⟩ := mem_changedPlaces.1 hi
    rcases hfront with hfront | hfront
    · have hagree := List.prefix_iff_getElem?.1 hfront i (List.getElem?_eq_some_iff.1 hnew).1
      rw [hold] at hagree
      obtain ⟨hlt, hget⟩ := List.getElem?_eq_some_iff.1 hnew
      exact hne (Option.some.inj (hagree.trans (congrArg some hget)))
    · have hagree := List.prefix_iff_getElem?.1 hfront i (List.getElem?_eq_some_iff.1 hold).1
      rw [hnew] at hagree
      obtain ⟨hlt, hget⟩ := List.getElem?_eq_some_iff.1 hold
      exact hne (Option.some.inj (hagree.trans (congrArg some hget))).symm

/-- With an entry at every place before, the first place found is the first different one. -/
theorem firstDifferent_of_changedPlaces {i : Nat} {rest : List Nat}
    (h : changedPlaces reference current = i :: rest) : FirstDifferent reference current i := by
  have hi : i ∈ changedPlaces reference current := by simp [h]
  obtain ⟨new, old, hnew, hold, hne⟩ := mem_changedPlaces.1 hi
  refine ⟨?_, fun j hj => ?_⟩
  · rw [hnew, hold]
    exact fun heq => hne (Option.some.inj heq)
  · have hjnew := List.getElem?_eq_getElem (Nat.lt_trans hj (List.getElem?_eq_some_iff.1 hnew).1)
    have hjold := List.getElem?_eq_getElem (Nat.lt_trans hj (List.getElem?_eq_some_iff.1 hold).1)
    by_contra hdiffers
    have hmem : j ∈ changedPlaces reference current := by
      refine mem_changedPlaces.2 ⟨_, _, hjnew, hjold, fun heq => hdiffers ?_⟩
      rw [hjnew, hjold, heq]
    rw [h] at hmem
    have hsorted := pairwise_changedPlaces reference current
    rw [h, List.pairwise_cons] at hsorted
    rcases List.mem_cons.1 hmem with rfl | hlater
    · exact Nat.lt_irrefl j hj
    · exact Nat.lt_asymm hj (hsorted.1 j hlater)

end OperatingOrganism.TableDiff

import Mathlib.Data.List.Count
import Mathlib.Data.List.MinMax

/-!
# Majority votes

Ballots are counted in a table of the candidates with their votes, and a pass over the table takes the last
candidate that no other one surpasses. Whatever the order of the table, it wins (`elect_wins`); and each
winner is taken in some order (`elect_concat`), so that the outcome does not depend on the order if and only
if there is one winner only.
-/

set_option autoImplicit false

namespace OperatingOrganism.MajorityVote

universe u

variable {α : Type u} [DecidableEq α]

/-- The candidate has most of the votes, perhaps together with others. -/
def Wins (ballots : List α) (x : α) : Prop := x ∈ ballots ∧ ∀ y, ballots.count y ≤ ballots.count x

/-- There is no tie for the most votes. -/
def Decided (ballots : List α) : Prop := ∀ x y, Wins ballots x → Wins ballots y → x = y

/-- The table lists the candidates, each with its votes. -/
def Tallies (ballots : List α) (table : List (Σ _ : α, Nat)) : Prop :=
  ∀ x n, ⟨x, n⟩ ∈ table ↔ x ∈ ballots ∧ n = ballots.count x

/-- The last entry of the table with the most votes. -/
def elect (table : List (Σ _ : α, Nat)) : Option (Σ _ : α, Nat) := table.reverse.argmax Sigma.snd

variable {ballots : List α} {table table' : List (Σ _ : α, Nat)} {e : Σ _ : α, Nat} {x : α} {n : Nat}

theorem Tallies.perm (h : Tallies ballots table) (hperm : table'.Perm table) : Tallies ballots table' :=
  fun x n => hperm.mem_iff.trans (h x n)

/-- The candidate that is taken wins. -/
theorem elect_wins (h : Tallies ballots table) (he : elect table = some e) : Wins ballots e.1 := by
  have hmem : ∀ {e' : Σ _ : α, Nat}, e' ∈ table.reverse ↔ e'.1 ∈ ballots ∧ e'.2 = ballots.count e'.1 :=
    List.mem_reverse.trans (h _ _)
  obtain ⟨hin, hvotes⟩ := hmem.1 (List.argmax_mem he)
  refine ⟨hin, fun y => ?_⟩
  by_cases hy : y ∈ ballots
  · have hle := List.le_of_mem_argmax (hmem.2 ⟨hy, rfl⟩ : ⟨y, ballots.count y⟩ ∈ table.reverse) he
    rwa [hvotes] at hle
  · simp [List.count_eq_zero_of_not_mem hy]

/-- A candidate is taken when there are ballots. -/
theorem exists_elect (h : Tallies ballots table) (hne : ballots ≠ []) : ∃ e, elect table = some e := by
  obtain ⟨x, hx⟩ := List.exists_mem_of_ne_nil ballots hne
  have hmem : ⟨x, ballots.count x⟩ ∈ table := (h x _).2 ⟨hx, rfl⟩
  rw [← Option.isSome_iff_exists, ← Option.ne_none_iff_isSome, elect, ne_eq, List.argmax_eq_none]
  exact List.ne_nil_of_mem (List.mem_reverse.2 hmem)

/-- A winner that comes last is taken. -/
theorem elect_concat (h : Tallies ballots (table ++ [⟨x, n⟩])) (hx : Wins ballots x) :
    elect (table ++ [⟨x, n⟩]) = some ⟨x, n⟩ := by
  have hn : n = ballots.count x := ((h x n).1 (by simp)).2
  rw [elect, List.reverse_append, List.reverse_singleton, List.singleton_append, List.argmax_cons]
  cases hrest : table.reverse.argmax Sigma.snd with
  | none => rfl
  | some best =>
    have hbest := List.argmax_mem hrest
    have hle : best.2 ≤ n := by
      rw [hn, ((h best.1 best.2).1 (List.mem_append_left _ (List.mem_reverse.1 hbest))).2]
      exact hx.2 best.1
    -- a tie is decided for the later entry
    exact if_neg (Nat.not_lt.2 hle)

/-- The table with a candidate moved to its end. -/
def moveLast (x : α) (table : List (Σ _ : α, Nat)) : List (Σ _ : α, Nat) :=
  table.filter (fun e => e.1 ≠ x) ++ table.filter fun e => ¬ e.1 ≠ x

theorem moveLast_perm (x : α) (table : List (Σ _ : α, Nat)) : (moveLast x table).Perm table := by
  simpa [moveLast] using List.filter_append_perm (fun e : Σ _ : α, Nat => decide (e.1 ≠ x)) table

/-- In that order it is taken, if it wins. -/
theorem elect_moveLast (h : Tallies ballots table) (hx : Wins ballots x) :
    elect (moveLast x table) = some ⟨x, ballots.count x⟩ := by
  have hmoved := h.perm (moveLast_perm x table)
  have hmem : ⟨x, ballots.count x⟩ ∈ table.filter fun e => ¬ e.1 ≠ x := by
    simpa using (h x _).2 ⟨hx.1, rfl⟩
  obtain hnil | ⟨rest, e, hlast⟩ := List.eq_nil_or_concat (table.filter fun e => ¬ e.1 ≠ x)
  · rw [hnil] at hmem
    cases hmem
  · have he : e ∈ table.filter fun e => ¬ e.1 ≠ x := by
      rw [hlast]
      simp
    -- the entries that were moved are those of the candidate
    obtain ⟨y, n⟩ := e
    obtain rfl : y = x := by simpa using (List.mem_filter.1 he).2
    rw [moveLast, hlast, List.concat_eq_append, ← List.append_assoc] at hmoved ⊢
    rw [elect_concat hmoved hx, ((hmoved y n).1 (by simp)).2]

end OperatingOrganism.MajorityVote

import Mathlib.Data.List.Infix

/-!
# Looking for a word piece by piece

A word of length `n` occurs in a list if it is one of its windows of length `n` (`mem_windows_iff`). Where a list
comes in pieces, and each piece is looked through together with the last `k` items of what comes before, every word of
up to `k + 1` items is found (`exists_overlapped_iff`); a longer one can be cut into two pieces so that it is not
(`not_infix_overlapped_cut`).
-/

set_option autoImplicit false

namespace OperatingOrganism.Windows

universe u

variable {α : Type u} {l w a b front : List α} {pieces : List (List α)} {n k : Nat}

/-- All runs of `n` items. -/
def windows (n : Nat) (l : List α) : List (List α) :=
  (List.range (l.length + 1 - n)).map fun i => (l.drop i).take n

theorem mem_windows_iff : w ∈ windows n l ↔ w <:+: l ∧ w.length = n := by
  simp only [windows, List.mem_map, List.mem_range]
  constructor
  · rintro ⟨i, hi, rfl⟩
    refine ⟨(List.take_prefix n _).isInfix.trans (List.drop_suffix i l).isInfix, ?_⟩
    simp only [List.length_take, List.length_drop]
    omega
  · rintro ⟨⟨front, back, rfl⟩, rfl⟩
    refine ⟨front.length, ?_, ?_⟩
    · simp only [List.length_append]
      omega
    · simp [List.append_assoc]

/-- The last `k` items. -/
def tail (k : Nat) (l : List α) : List α := l.drop (l.length - k)

/-- The pieces behind `front`, each with the last `k` items of what comes before. -/
def overlapped (k : Nat) : List α → List (List α) → List (List α)
  | _, [] => []
  | front, piece :: pieces => (tail k front ++ piece) :: overlapped k (front ++ piece) pieces

/-- A word across a seam is found in the second part with the end of the first. -/
theorem infix_append_iff_tail (hk : w.length ≤ k + 1) : w <:+: a ++ b ↔ w <:+: a ∨ w <:+: tail k a ++ b := by
  constructor
  · intro h
    rcases List.infix_append_iff_ne_nil.1 h with ha | hb | ⟨l₁, l₂, -, hne, rfl, hleft, hright⟩
    · exact .inl ha
    · exact .inr (List.infix_append_of_infix_right hb)
    · -- the part on the left is no longer than the items that are taken twice
      right
      have hpos := List.length_pos_iff.2 hne
      obtain ⟨front, rfl⟩ := hleft
      obtain ⟨back, rfl⟩ := hright
      rw [List.length_append] at hk
      have hfront : (front ++ l₁).length - k ≤ front.length := by
        rw [List.length_append]
        omega
      rw [tail, List.drop_append_of_le_length hfront]
      exact ⟨front.drop ((front ++ l₁).length - k), back, by simp [List.append_assoc]⟩
  · rintro (ha | hseam)
    · exact List.infix_append_of_infix_left ha
    · apply hseam.trans
      apply List.IsSuffix.isInfix
      exact List.suffix_append_self_iff.2 (List.drop_suffix _ a)

/-- A word is found in the pieces or in front of them, if it is there. -/
theorem infix_append_flatten_iff (hk : w.length ≤ k + 1) :
    w <:+: front ++ pieces.flatten ↔ w <:+: front ∨ ∃ r ∈ overlapped k front pieces, w <:+: r := by
  induction pieces generalizing front with
  | nil => simp [overlapped]
  | cons piece pieces ih =>
    rw [List.flatten_cons, ← List.append_assoc, ih, infix_append_iff_tail hk, overlapped, List.exists_mem_cons_iff,
      or_assoc]

theorem exists_overlapped_iff (hne : w ≠ []) (hk : w.length ≤ k + 1) :
    (∃ r ∈ overlapped k [] pieces, w <:+: r) ↔ w <:+: pieces.flatten := by
  have hsplit := @infix_append_flatten_iff _ w [] pieces k hk
  rw [List.nil_append, List.infix_nil] at hsplit
  rw [hsplit]
  exact ⟨.inr, fun h => h.resolve_left hne⟩

/-- A longer word is cut before its last item. -/
theorem not_infix_overlapped_cut (hne : w ≠ []) (hk : k + 1 < w.length) :
    ∀ r ∈ overlapped k [] [w.dropLast, [w.getLast hne]], ¬ w <:+: r := by
  intro r hr hpiece
  have hlength := hpiece.length_le
  simp only [overlapped, tail, List.mem_cons, List.not_mem_nil, or_false] at hr
  rcases hr with rfl | rfl
  · simp only [List.drop_nil, List.nil_append, List.length_dropLast] at hlength
    omega
  · simp only [List.nil_append, List.length_append, List.length_drop, List.length_dropLast,
      List.length_singleton] at hlength
    omega

end OperatingOrganism.Windows

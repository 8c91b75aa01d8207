import Mathlib.Data.List.Range
import Mathlib.Data.List.Basic

/-!
# Walks along the orbit of a successor function

A reader that follows a successor function `f` from `a` until it first stands on `b` visits a list
of points: `Walk f a l b`. The list is unique (`Walk.unique`), and moving the target one step on
extends it by the old target, unless the walk runs into the new target earlier (`Walk.retarget`). Of two
walks to one target the shorter is the end of the longer, where `f` is injective
(`Walk.suffix_of_length_le`).

The second half is about the successor of a ring of `c` slots, `next c x = (x + 1) % c`. A point
outside the ring is allowed: it is left for good after one step. The walk to a target inside the ring
always exists and its shape depends only on the relative position of the ends (`walk_straight`,
`walk_wrapped`, `walk_outside`); the walk to another point outside the ring never ends
(`not_walk_outside`).
-/

set_option autoImplicit false

namespace OperatingOrganism.OrbitWalk

universe u

/-- `l` lists the points that a reader starting at `a` leaves behind until it first stands on `b`,
moving by `f`. -/
inductive Walk {α : Type u} (f : α → α) : α → List α → α → Prop
  | here (a : α) : Walk f a [] a
  | step {a b : α} {l : List α} : a ≠ b → Walk f (f a) l b → Walk f a (a :: l) b

section General

variable {α : Type u} {f : α → α} {a b : α} {l : List α}

theorem Walk.nil_iff : Walk f a [] b ↔ a = b := by
  constructor
  · intro h
    cases h
    rfl
  · rintro rfl
    exact .here a

/-- A walk to another point starts at its first point. -/
theorem Walk.exists_cons (h : Walk f a l b) (hab : a ≠ b) :
    ∃ l', l = a :: l' ∧ Walk f (f a) l' b := by
  cases h with
  | here => exact absurd rfl hab
  | step _ h => exact ⟨_, rfl, h⟩

theorem Walk.unique {l' : List α} (h : Walk f a l b) (h' : Walk f a l' b) : l = l' := by
  induction h generalizing l' with
  | here a =>
    cases h' with
    | here => rfl
    | step hab _ => exact absurd rfl hab
  | step hab _ ih =>
    obtain ⟨l'', rfl, h''⟩ := h'.exists_cons hab
    rw [ih h'']

/-- The target is not among the points left behind. -/
theorem Walk.target_not_mem (h : Walk f a l b) : b ∉ l := by
  induction h with
  | here => simp
  | step hab _ ih => exact List.not_mem_cons_of_ne_of_not_mem (Ne.symm hab) ih

/-- Every visited point is the start or the successor of a visited point. -/
theorem Walk.mem_pred (h : Walk f a l b) : ∀ y ∈ l, y = a ∨ ∃ x ∈ l, f x = y := by
  induction h with
  | here => simp
  | @step a b l _ _ ih =>
    intro y hy
    rcases List.mem_cons.1 hy with rfl | hy
    · exact .inl rfl
    · rcases ih y hy with rfl | ⟨x, hx, rfl⟩
      · exact .inr ⟨a, List.mem_cons_self, rfl⟩
      · exact .inr ⟨x, List.mem_cons_of_mem a hx, rfl⟩

/-- A property that `f` keeps and the start has holds at the target. -/
theorem Walk.invariant {P : α → Prop} (h : Walk f a l b) (ha : P a) (hf : ∀ x, P x → P (f x)) :
    P b := by
  induction h with
  | here => exact ha
  | step _ _ ih => exact ih (hf _ ha)

/-- Walks compose when the first one does not meet the end of the second. -/
theorem Walk.append {c : α} {l' : List α} (h : Walk f a l b) (h' : Walk f b l' c)
    (hc : c ∉ l) : Walk f a (l ++ l') c := by
  induction h with
  | here => exact h'
  | step _ _ ih =>
    rw [List.mem_cons, not_or] at hc
    exact .step (Ne.symm hc.1) (ih h' hc.2)

/-- The new target is not met on the way: the walk grows by the old target. -/
theorem Walk.extend (h : Walk f a l b) (hb : f b ≠ b) (hl : f b ∉ l) :
    Walk f a (l ++ [b]) (f b) :=
  h.append (.step (Ne.symm hb) (.here _)) hl

/-- A walk to another point arrives from the last point that it visits. -/
theorem Walk.exists_snoc (h : Walk f a l b) (hab : a ≠ b) : ∃ l' x, l = l' ++ [x] ∧ f x = b := by
  induction h with
  | here => exact absurd rfl hab
  | @step a b l _ hrest ih =>
    by_cases hnext : f a = b
    · subst hnext
      rw [hrest.unique (.here _)]
      exact ⟨[], a, rfl, rfl⟩
    · obtain ⟨l', x, rfl, hx⟩ := ih hnext
      exact ⟨a :: l', x, rfl, hx⟩

/-- A list of points and the target give the start. -/
theorem Walk.source_unique {a' : α} (h : Walk f a l b) (h' : Walk f a' l b) : a = a' := by
  cases h with
  | here =>
    cases h' with
    | here => rfl
  | step _ _ =>
    cases h' with
    | step _ _ => rfl

/-- Where `f` is injective, the walks to one target differ in their beginnings only. -/
theorem Walk.suffix_of_length_le {P : α → Prop} (hinj : ∀ x y, P x → P y → f x = f y → x = y)
    {a' : α} {l' : List α} (h : Walk f a l b) (h' : Walk f a' l' b) (hl : ∀ x ∈ l, P x)
    (hl' : ∀ x ∈ l', P x) (hlen : l.length ≤ l'.length) : l <:+ l' := by
  induction h' generalizing a l with
  | here =>
    rw [List.length_nil, Nat.le_zero, List.length_eq_zero_iff] at hlen
    subst hlen
    exact List.suffix_rfl
  | @step a' b l' _ hrest ih =>
    rw [List.forall_mem_cons] at hl'
    rcases Nat.lt_or_ge l'.length l.length with hlt | hle
    · -- walks of one length: the rests are equal, and so are the points before them
      cases h with
      | here => cases hlt
      | @step _ _ l _ hrest' =>
        rw [List.forall_mem_cons] at hl
        have hsuffix : l <:+ l' := ih hrest' hl.2 hl'.2 (Nat.le_of_succ_le_succ hlen)
        obtain rfl : l = l' := hsuffix.eq_of_length_le (Nat.le_of_lt_succ hlt)
        have heq := hinj _ _ hl.1 hl'.1 (hrest'.source_unique hrest)
        subst heq
        exact List.suffix_rfl
    · exact (ih h hl hl'.2 hle).trans (List.suffix_cons a' l')

variable [DecidableEq α]

/-- Moving the target on to its successor: the reader visits the old target last, unless it meets
the new target on the way. -/
theorem Walk.retarget (h : Walk f a l b) :
    Walk f a ((l ++ [b]).takeWhile (· ≠ f b)) (f b) := by
  induction h with
  | here a =>
    by_cases ha : a = f a
    · simpa [← ha] using Walk.here (f := f) a
    · simpa [ha] using Walk.step ha (Walk.here (f := f) (f a))
  | @step a b l _ _ ih =>
    by_cases ha : a = f b
    · simpa [← ha] using Walk.here (f := f) a
    · simpa [ha] using Walk.step ha ih

end General

/-! ## The successor of a ring -/

/-- The successor in a ring of `c` slots. -/
def next (c x : Nat) : Nat := (x + 1) % c

section Ring

variable {c a b : Nat}

theorem next_of_lt (h : a + 1 < c) : next c a = a + 1 := Nat.mod_eq_of_lt h

theorem next_last (h : a + 1 = c) : next c a = 0 := by
  rw [next, h, Nat.mod_self]

theorem next_lt (hc : 0 < c) (a : Nat) : next c a < c := Nat.mod_lt _ hc

/-- The two ways to move on inside the ring. -/
theorem next_cases (ha : a < c) :
    (a + 1 < c ∧ next c a = a + 1) ∨ (a + 1 = c ∧ next c a = 0) := by
  rcases Nat.lt_or_ge (a + 1) c with h | h
  · exact .inl ⟨h, next_of_lt h⟩
  · have heq : a + 1 = c := by omega
    exact .inr ⟨heq, next_last heq⟩

/-- The successor of a point that lies less than one turn outside the ring. -/
theorem next_outside (h₁ : c ≤ a + 1) (h₂ : a + 1 < 2 * c) : next c a = a + 1 - c := by
  rw [next, Nat.mod_eq_sub_mod h₁]
  exact Nat.mod_eq_of_lt (by omega)

/-- The two ways to move on from a point that lies less than one turn outside the ring. -/
theorem next_outside_cases (h₁ : c ≤ a) (h₂ : a < 2 * c) :
    (a + 1 < 2 * c ∧ next c a = a + 1 - c) ∨ (a + 1 = 2 * c ∧ next c a = 0) := by
  rcases Nat.lt_or_ge (a + 1) (2 * c) with h | h
  · exact .inl ⟨h, next_outside (by omega) h⟩
  · have heq : a + 1 = 2 * c := by omega
    refine .inr ⟨heq, ?_⟩
    rw [next, heq, Nat.mul_mod_left]

theorem next_inj (ha : a < c) (hb : b < c) (h : next c a = next c b) : a = b := by
  have h₁ := next_cases ha
  have h₂ := next_cases hb
  omega

theorem next_ne_self (hc : 1 < c) (a : Nat) : next c a ≠ a := by
  intro h
  have hlt : a < c := by
    rw [← h]
    exact next_lt (by omega) a
  rcases Nat.lt_or_ge (a + 1) c with h' | h'
  · rw [next_of_lt h'] at h
    omega
  · rw [next_last (by omega)] at h
    omega

/-- A walk that does not wrap. -/
theorem walk_straight (hab : a ≤ b) (hb : b < c) :
    Walk (next c) a (List.range' a (b - a)) b := by
  obtain ⟨n, rfl⟩ := Nat.exists_eq_add_of_le hab
  rw [Nat.add_sub_cancel_left]
  clear hab
  induction n generalizing a with
  | zero => exact .here a
  | succ n ih =>
    rw [List.range'_succ]
    refine .step (by omega) ?_
    rw [next_of_lt (by omega)]
    have h := ih (a := a + 1) (by omega)
    rwa [show a + 1 + n = a + (n + 1) by omega] at h

/-- A walk that wraps once. -/
theorem walk_wrapped (hba : b < a) (ha : a < c) :
    Walk (next c) a (List.range' a (c - a) ++ List.range' 0 b) b := by
  have hlast : Walk (next c) (c - 1) [c - 1] 0 := by
    refine .step (by omega) ?_
    rw [next_last (by omega)]
    exact .here 0
  have hup : Walk (next c) a (List.range' a (c - a)) 0 := by
    have h := (walk_straight (c := c) (a := a) (b := c - 1) (by omega) (by omega)).append hlast
      (by simp only [List.mem_range'_1]; omega)
    rwa [show c - a = (c - 1 - a) + 1 by omega, List.range'_concat, Nat.one_mul,
      show a + (c - 1 - a) = c - 1 by omega]
  refine hup.append ?_ (by simp only [List.mem_range'_1]; omega)
  exact walk_straight (Nat.zero_le b) (by omega)

/-- A walk from a point outside the ring is one step longer than the walk from its successor. -/
theorem walk_outside {l : List Nat} (hca : c ≤ a) (hbc : b < c) (h : Walk (next c) (next c a) l b) :
    Walk (next c) a (a :: l) b :=
  .step (by omega) h

/-- The shape of a walk inside the ring. -/
theorem walk_shape {l : List Nat} (h : Walk (next c) a l b) (ha : a < c) (hb : b < c) :
    (a ≤ b ∧ l = List.range' a (b - a)) ∨
      (b < a ∧ l = List.range' a (c - a) ++ List.range' 0 b) := by
  rcases Nat.lt_or_ge b a with hba | hab
  · exact .inr ⟨hba, h.unique (walk_wrapped hba ha)⟩
  · exact .inl ⟨hab, h.unique (walk_straight hab hb)⟩

/-- The length of a walk inside the ring. -/
theorem walk_length_inside {l : List Nat} (h : Walk (next c) a l b) (ha : a < c) (hb : b < c) :
    (a ≤ b ∧ l.length = b - a) ∨ (b < a ∧ l.length = c - a + b) := by
  rcases walk_shape h ha hb with ⟨hle, rfl⟩ | ⟨hlt, rfl⟩
  · exact .inl ⟨hle, List.length_range'⟩
  · refine .inr ⟨hlt, ?_⟩
    rw [List.length_append, List.length_range', List.length_range']

/-- The length of a walk that enters the ring with its first step. -/
theorem walk_length_outside {l : List Nat} (h : Walk (next c) a l b) (ha : c ≤ a) (hb : b < c) :
    (next c a ≤ b ∧ l.length = b - next c a + 1) ∨
      (b < next c a ∧ l.length = c - next c a + b + 1) := by
  obtain ⟨l', rfl, h'⟩ := h.exists_cons (by omega)
  rw [List.length_cons]
  rcases walk_length_inside h' (next_lt (by omega) a) hb with ⟨hle, hl⟩ | ⟨hlt, hl⟩
  · exact .inl ⟨hle, by rw [hl]⟩
  · exact .inr ⟨hlt, by rw [hl]⟩

/-- Every walk to a target inside the ring ends. -/
theorem exists_walk (hb : b < c) (a : Nat) : ∃ l, Walk (next c) a l b ∧ l.length ≤ c := by
  have inside : ∀ x, x < c → ∃ l, Walk (next c) x l b ∧ l.length < c := by
    intro x hx
    rcases Nat.lt_or_ge b x with hlt | hle
    · refine ⟨_, walk_wrapped hlt hx, ?_⟩
      rw [List.length_append, List.length_range', List.length_range']
      omega
    · refine ⟨_, walk_straight hle hb, ?_⟩
      rw [List.length_range']
      omega
  rcases Nat.lt_or_ge a c with ha | ha
  · obtain ⟨l, hl, hlen⟩ := inside a ha
    exact ⟨l, hl, Nat.le_of_lt hlen⟩
  · obtain ⟨l, hl, hlen⟩ := inside (next c a) (next_lt (by omega) a)
    exact ⟨a :: l, walk_outside ha hb hl, hlen⟩

/-- A target outside the ring is never reached from another point. -/
theorem not_walk_outside (hc : 0 < c) (hb : c ≤ b) (hab : a ≠ b) (l : List Nat) :
    ¬ Walk (next c) a l b := by
  intro h
  obtain ⟨l', rfl, h'⟩ := h.exists_cons hab
  have hlt : b < c := h'.invariant (P := (· < c)) (next_lt hc a) fun x _ => next_lt hc x
  omega

/-- Every point visited after the first one lies inside the ring. -/
theorem Walk.mem_ring {l : List Nat} (h : Walk (next c) a l b) (hc : 0 < c) :
    ∀ x ∈ l, x = a ∨ x < c := by
  induction h with
  | here => simp
  | @step a b l _ _ ih =>
    intro x hx
    rcases List.mem_cons.1 hx with rfl | hx
    · exact .inl rfl
    · rcases ih x hx with rfl | hlt
      · exact .inr (next_lt hc a)
      · exact .inr hlt

end Ring

end OperatingOrganism.OrbitWalk

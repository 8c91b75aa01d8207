import Mathlib.Algebra.BigOperators.Group.List.Basic
import Mathlib.Algebra.GroupWithZero.Nat
import Mathlib.Data.List.Nodup
import Mathlib.Logic.Relation

/-!
# Walking a forest with a stack

The nodes of a forest have children, and a rank that is larger than the ranks of the children together. So the
nodes below one can be listed (`Forest.below`); where each node has one parent at most, none is listed twice
(`Forest.nodup_below`). A walk takes a node from a stack and puts its children there: what is still to be visited,
with the node, is what was to be visited before (`Forest.expand_perm`), and the ranks on the stack become fewer
(`Forest.sum_rank_expand`).
-/

set_option autoImplicit false

namespace OperatingOrganism

universe u

structure Forest (ν : Type u) where
  children : ν → List ν
  rank : ν → Nat
  sum_rank_lt : ∀ x, ((children x).map rank).sum < rank x

namespace Forest

variable {ν : Type u} (F : Forest ν)

/-- An edge from a node to one of its children. -/
def Child (x y : ν) : Prop := y ∈ F.children x

theorem le_sum_of_mem {l : List Nat} {n : Nat} (h : n ∈ l) : n ≤ l.sum := by
  induction l with
  | nil => cases h
  | cons m l ih =>
    rw [List.sum_cons]
    rcases List.mem_cons.1 h with rfl | h
    · omega
    · have := ih h
      omega

theorem rank_lt_of_child {x y : ν} (h : F.Child x y) : F.rank y < F.rank x :=
  Nat.lt_of_le_of_lt (le_sum_of_mem (List.mem_map_of_mem h)) (F.sum_rank_lt x)

/-- The node and those below it. -/
def below (x : ν) : List ν := x :: (F.children x).attach.flatMap fun y => below y.1
  termination_by F.rank x
  decreasing_by exact F.rank_lt_of_child y.2

theorem below_eq (x : ν) : F.below x = x :: (F.children x).flatMap F.below := by
  rw [below, ← List.flatMap_map Subtype.val F.below, List.attach_map_subtype_val]

/-- An induction over the nodes from the children up. -/
theorem rank_induction {P : ν → Prop} (h : ∀ x, (∀ y, F.Child x y → P y) → P x) (x : ν) : P x := by
  generalize hrank : F.rank x = n
  induction n using Nat.strongRecOn generalizing x with
  | ind n ih =>
    subst hrank
    exact h x fun y hy => ih _ (F.rank_lt_of_child hy) y rfl

/-- What is listed is what can be reached. -/
theorem mem_below_iff {x y : ν} : y ∈ F.below x ↔ Relation.ReflTransGen F.Child x y := by
  constructor
  · revert y
    induction x using F.rank_induction with
    | h x ih =>
      intro y hy
      rw [below_eq] at hy
      rcases List.mem_cons.1 hy with rfl | hy
      · exact .refl
      · obtain ⟨c, hc, hy⟩ := List.mem_flatMap.1 hy
        exact .head hc (ih c hc hy)
  · intro h
    induction h using Relation.ReflTransGen.head_induction_on with
    | refl =>
      rw [below_eq]
      exact List.mem_cons_self
    | head hchild _ ih =>
      rw [below_eq]
      exact List.mem_cons_of_mem _ (List.mem_flatMap.2 ⟨_, hchild, ih⟩)

/-- Ranks do not grow on the way down. -/
theorem rank_le_of_reaches {x y : ν} (h : Relation.ReflTransGen F.Child x y) : F.rank y ≤ F.rank x := by
  induction h with
  | refl => exact Nat.le_refl _
  | tail _ hchild ih => exact Nat.le_trans (Nat.le_of_lt (F.rank_lt_of_child hchild)) ih

section Tree

variable (hparent : ∀ x x' y, F.Child x y → F.Child x' y → x = x')

include hparent

/-- Two nodes above the same one are above each other. -/
theorem reaches_or_reaches {x x' y : ν} (h : Relation.ReflTransGen F.Child x y)
    (h' : Relation.ReflTransGen F.Child x' y) :
    Relation.ReflTransGen F.Child x x' ∨ Relation.ReflTransGen F.Child x' x := by
  induction h with
  | refl => exact .inr h'
  | @tail b c hxb hbc ih =>
    rcases Relation.ReflTransGen.cases_tail h' with rfl | ⟨b', hb', hchild⟩
    · exact .inl (hxb.tail hbc)
    · obtain rfl := hparent _ _ _ hchild hbc
      exact ih hb'

/-- Nothing is below two children of a node. -/
theorem eq_of_reaches {x c c' y : ν} (hc : F.Child x c) (hc' : F.Child x c')
    (h : Relation.ReflTransGen F.Child c y) (h' : Relation.ReflTransGen F.Child c' y) : c = c' := by
  -- of two different children, one would be above the parent of both
  have hup : ∀ {c c'}, F.Child x c → F.Child x c' → Relation.ReflTransGen F.Child c c' → c = c' := by
    intro c c' hc hc' hreach
    rcases Relation.ReflTransGen.cases_tail hreach with heq | ⟨b, hb, hchild⟩
    · exact heq.symm
    · obtain rfl := hparent _ _ _ hchild hc'
      have hle := F.rank_le_of_reaches hb
      have hlt := F.rank_lt_of_child hc
      omega
  rcases F.reaches_or_reaches hparent h h' with hreach | hreach
  · exact hup hc hc' hreach
  · exact (hup hc' hc hreach).symm

/-- No node is listed twice. -/
theorem nodup_below (hnodup : ∀ x, (F.children x).Nodup) (x : ν) : (F.below x).Nodup := by
  induction x using F.rank_induction with
  | h x ih =>
    rw [below_eq, List.nodup_cons, List.nodup_flatMap]
    refine ⟨?_, ih, ?_⟩
    · intro hmem
      obtain ⟨c, hc, hx⟩ := List.mem_flatMap.1 hmem
      have hle := F.rank_le_of_reaches (F.mem_below_iff.1 hx)
      have hlt := F.rank_lt_of_child hc
      omega
    · refine (hnodup x).imp_of_mem fun {c c'} hc hc' hne => ?_
      intro y hy hy'
      exact hne (F.eq_of_reaches hparent hc hc' (F.mem_below_iff.1 hy) (F.mem_below_iff.1 hy'))

end Tree

/-! ## The stack -/

/-- The node that is taken from the end of the stack, and what is to be visited then. -/
theorem expand_perm (stack : List ν) (x : ν) :
    (x :: (stack ++ F.children x).flatMap F.below).Perm ((stack ++ [x]).flatMap F.below) := by
  rw [List.flatMap_append, List.flatMap_append, List.flatMap_singleton, F.below_eq x]
  exact List.perm_middle.symm

theorem sum_rank_expand (stack : List ν) (x : ν) :
    ((stack ++ F.children x).map F.rank).sum < ((stack ++ [x]).map F.rank).sum := by
  have hlt := F.sum_rank_lt x
  rw [List.map_append, List.map_append, List.sum_append, List.sum_append, List.map_singleton, List.sum_singleton]
  omega

end Forest

end OperatingOrganism

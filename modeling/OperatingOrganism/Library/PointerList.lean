import Mathlib.Logic.Function.Basic
import Mathlib.Data.List.Nodup
import Mathlib.Data.Fintype.Card

/-!
# Linked lists in an array of cells

`Cells link mem p l`: following the links of the cells in `mem` from the pointer `p` visits the
addresses `l` and ends with the null pointer. The list is determined by the memory
(`Cells.unique`), no address occurs in it twice (`Cells.nodup`), and a fresh cell can be put in front
of it (`Cells.push`).

`forEach` and `collect` are the two loops of a program over such a list, one that rewrites the cells
and one that reads them, with a bound on their iterations. On `Cells` they end and do the work of
`List.flatMap` and of an update of every listed cell (`forEach_eq`, `collect_eq`).
-/

set_option autoImplicit false

namespace OperatingOrganism.PointerList

universe u v w

variable {α : Type u} {β : Type v} {link : β → Option α}

/-- The addresses from the pointer to the null pointer. -/
inductive Cells (link : β → Option α) (mem : α → β) : Option α → List α → Prop
  | nil : Cells link mem none []
  | cons {a : α} {l : List α} : Cells link mem (link (mem a)) l → Cells link mem (some a) (a :: l)

section Basic

variable {mem : α → β} {p : Option α} {l : List α}

theorem Cells.unique {l' : List α} (h : Cells link mem p l) (h' : Cells link mem p l') : l = l' := by
  induction h generalizing l' with
  | nil =>
    cases h' with
    | nil => rfl
  | cons _ ih =>
    cases h' with
    | cons h' => rw [ih h']

/-- The list from a listed address is a tail of the list. -/
theorem Cells.exists_tail (h : Cells link mem p l) {a : α} (ha : a ∈ l) :
    ∃ l₁ l₂, l = l₁ ++ a :: l₂ ∧ Cells link mem (some a) (a :: l₂) := by
  induction h with
  | nil => cases ha
  | @cons b l h ih =>
    cases ha with
    | head => exact ⟨[], l, rfl, .cons h⟩
    | tail _ ha =>
      obtain ⟨l₁, l₂, rfl, htail⟩ := ih ha
      exact ⟨b :: l₁, l₂, rfl, htail⟩

/-- A list that ends visits no address twice: from its second visit on it would repeat itself. -/
theorem Cells.nodup (h : Cells link mem p l) : l.Nodup := by
  induction h with
  | nil => exact List.nodup_nil
  | @cons a l h ih =>
    refine List.nodup_cons.2 ⟨?_, ih⟩
    intro ha
    obtain ⟨l₁, l₂, hl, htail⟩ := h.exists_tail ha
    have hlen := congrArg List.length (htail.unique (.cons h))
    rw [hl] at hlen
    simp only [List.length_cons, List.length_append] at hlen
    omega

theorem Cells.length_le [Fintype α] (h : Cells link mem p l) : l.length ≤ Fintype.card α :=
  h.nodup.length_le_card

/-- Writes that keep the links of the listed cells keep the list. -/
theorem Cells.congr {mem' : α → β} (h : Cells link mem p l)
    (heq : ∀ a ∈ l, link (mem' a) = link (mem a)) : Cells link mem' p l := by
  induction h with
  | nil => exact .nil
  | @cons a l h ih =>
    refine .cons ?_
    rw [heq a List.mem_cons_self]
    exact ih fun b hb => heq b (List.mem_cons_of_mem a hb)

/-- A write to a cell that is not listed keeps the list. -/
theorem Cells.update_of_not_mem [DecidableEq α] (h : Cells link mem p l) {a : α} (ha : a ∉ l)
    {b : β} : Cells link (Function.update mem a b) p l := by
  apply h.congr
  intro x hx
  rw [Function.update_of_ne]
  rintro rfl
  exact ha hx

/-- A fresh cell that links to the list is put in front of it. -/
theorem Cells.push [DecidableEq α] (h : Cells link mem p l) {a : α} (ha : a ∉ l) {b : β}
    (hb : link b = p) : Cells link (Function.update mem a b) (some a) (a :: l) := by
  refine .cons ?_
  rw [Function.update_self, hb]
  exact h.update_of_not_mem ha

end Basic

section Loops

variable {γ : Type w}

/-- `while (p) { *p = f(*p); p = p->next; }` with at most the given number of iterations. -/
def forEach [DecidableEq α] (link : β → Option α) (f : β → β) : Nat → Option α → (α → β) → Option (α → β)
  | _, none, mem => some mem
  | 0, some _, _ => none
  | fuel + 1, some a, mem =>
    forEach link f fuel (link (Function.update mem a (f (mem a)) a))
      (Function.update mem a (f (mem a)))

/-- `while (p) { out(p, *p); p = p->next; }` with at most the given number of iterations. -/
def collect (link : β → Option α) (out : α → β → List γ) :
    Nat → Option α → (α → β) → Option (List γ)
  | _, none, _ => some []
  | 0, some _, _ => none
  | fuel + 1, some a, mem =>
    (collect link out fuel (link (mem a)) mem).map (out a (mem a) ++ ·)

variable {mem : α → β} {p : Option α} {l : List α} {fuel : Nat}

/-- A loop body that keeps the links is applied to every listed cell once. -/
theorem forEach_eq [DecidableEq α] {f : β → β} (hf : ∀ b, link (f b) = link b) (h : Cells link mem p l)
    (hfuel : l.length ≤ fuel) :
    forEach link f fuel p mem = some fun a => if a ∈ l then f (mem a) else mem a := by
  induction l generalizing fuel p mem with
  | nil =>
    cases h
    cases fuel <;> simp [forEach]
  | cons a l ih =>
    have hnodup := h.nodup
    cases h with
    | cons h =>
      cases fuel with
      | zero => cases hfuel
      | succ fuel =>
        have ha : a ∉ l := (List.nodup_cons.1 hnodup).1
        -- the cell just written keeps its link, so the rest of the list is where it was
        have hrest : Cells link (Function.update mem a (f (mem a)))
            (link (Function.update mem a (f (mem a)) a)) l := by
          rw [Function.update_self, hf]
          exact h.update_of_not_mem ha
        rw [forEach, ih hrest (Nat.le_of_succ_le_succ hfuel)]
        congr 1
        funext b
        by_cases hb : b = a
        · subst hb
          simp [ha]
        · simp [hb]

/-- A loop that returns had an iteration for every listed cell. -/
theorem length_le_of_forEach [DecidableEq α] {f : β → β} (hf : ∀ b, link (f b) = link b)
    {mem' : α → β} (h : Cells link mem p l) (hsome : forEach link f fuel p mem = some mem') :
    l.length ≤ fuel := by
  induction l generalizing fuel p mem with
  | nil => exact Nat.zero_le fuel
  | cons a l ih =>
    have ha : a ∉ l := (List.nodup_cons.1 h.nodup).1
    cases h with
    | cons h =>
      cases fuel with
      | zero => cases hsome
      | succ fuel =>
        have hrest : Cells link (Function.update mem a (f (mem a)))
            (link (Function.update mem a (f (mem a)) a)) l := by
          rw [Function.update_self, hf]
          exact h.update_of_not_mem ha
        exact Nat.succ_le_succ (ih hrest hsome)

/-- The reading loop visits the listed cells in order. -/
theorem collect_eq {out : α → β → List γ} (h : Cells link mem p l) (hfuel : l.length ≤ fuel) :
    collect link out fuel p mem = some (l.flatMap fun a => out a (mem a)) := by
  induction l generalizing fuel p with
  | nil =>
    cases h
    cases fuel <;> rfl
  | cons a l ih =>
    cases h with
    | cons h =>
      cases fuel with
      | zero => cases hfuel
      | succ fuel =>
        rw [collect, ih h (Nat.le_of_succ_le_succ hfuel)]
        rfl

end Loops

end OperatingOrganism.PointerList

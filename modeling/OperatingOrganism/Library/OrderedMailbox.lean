import OperatingOrganism.Library.Execution
import Mathlib.Order.Basic
import Mathlib.Data.List.Basic

/-!
# Mailboxes that deliver in order

What one reader of a publish/subscribe medium is entitled to. Published items carry keys; the medium
gives each new item the next free key. Between a publication and its delivery the medium may lose
items, but it never reorders, repeats or invents one: the items pending after a publication are a
sublist of the items pending before it followed by the new one. The reader takes a prefix of the
pending items and keeps those it selects.

Whatever is lost, the keys of the items delivered over a whole execution are strictly increasing
(`delivered_pairwise`): nothing is delivered twice or out of order.
-/

set_option autoImplicit false

namespace OperatingOrganism.OrderedMailbox

open OperatingOrganism.Execution

universe u v

/-- The items waiting for one reader and the key of the next publication. -/
structure Mailbox (α : Type u) (κ : Type v) where
  pending : List α
  nextKey : κ

variable {α : Type u} {κ : Type v} [Preorder κ]

/-- One step of a mailbox, labelled with the items it delivers. -/
inductive MailStep (key : α → κ) : Mailbox α κ → List α → Mailbox α κ → Prop
  | deliver (pre post : List α) (k : κ) (sel : α → Bool) :
      MailStep key ⟨pre ++ post, k⟩ (pre.filter sel) ⟨post, k⟩
  | publish {pending pending' : List α} {k k' : κ} (x : α) :
      key x = k → k < k' → pending'.Sublist (pending ++ [x]) →
        MailStep key ⟨pending, k⟩ [] ⟨pending', k'⟩
  | lose {pending pending' : List α} (k : κ) :
      pending'.Sublist pending → MailStep key ⟨pending, k⟩ [] ⟨pending', k⟩

/-- A step that changes nothing. -/
theorem MailStep.idle (key : α → κ) (m : Mailbox α κ) : MailStep key m [] m :=
  .lose m.nextKey (List.Sublist.refl _)

/-- The items delivered so far and the items pending form one sequence with strictly increasing
keys, all below the next key. -/
structure InOrder (key : α → κ) (delivered : List α) (m : Mailbox α κ) : Prop where
  increasing : (delivered ++ m.pending).Pairwise (fun x y => key x < key y)
  below : ∀ x ∈ delivered ++ m.pending, key x < m.nextKey

theorem inOrder_empty (key : α → κ) (k : κ) : InOrder key [] ⟨[], k⟩ where
  increasing := .nil
  below := by simp

section Step

variable {key : α → κ} {delivered : List α}

theorem InOrder.of_sublist {m : Mailbox α κ} {d : List α} {p : List α} {k : κ}
    (h : InOrder key delivered m) (hs : (d ++ p).Sublist (delivered ++ m.pending))
    (hk : m.nextKey ≤ k) : InOrder key d ⟨p, k⟩ where
  increasing := h.increasing.sublist hs
  below x hx := lt_of_lt_of_le (h.below x (hs.subset hx)) hk

/-- A publication under the next key keeps the order. -/
theorem InOrder.publish {pending : List α} {k k' : κ} {x : α}
    (h : InOrder key delivered ⟨pending, k⟩) (hx : key x = k) (hk : k < k') :
    InOrder key delivered ⟨pending ++ [x], k'⟩ where
  increasing := by
    rw [← List.append_assoc, List.pairwise_append]
    refine ⟨h.increasing, by simp, ?_⟩
    intro y hy z hz
    rw [List.mem_singleton] at hz
    subst hz
    rw [hx]
    exact h.below y hy
  below y hy := by
    rw [← List.append_assoc, List.mem_append, List.mem_singleton] at hy
    rcases hy with hy | rfl
    · exact lt_trans (h.below y hy) hk
    · rw [hx]
      exact hk

/-- Every step keeps the order. -/
theorem MailStep.inOrder {m m' : Mailbox α κ} {out : List α} (h : MailStep key m out m')
    (hm : InOrder key delivered m) : InOrder key (delivered ++ out) m' := by
  cases h with
  | deliver pre post k sel =>
    refine hm.of_sublist ?_ le_rfl
    rw [List.append_assoc]
    exact ((List.filter_sublist).append (List.Sublist.refl post)).append_left delivered
  | publish x hx hk hs =>
    refine (hm.publish hx hk).of_sublist ?_ le_rfl
    rw [List.append_nil]
    exact hs.append_left delivered
  | lose k hs =>
    refine hm.of_sublist ?_ le_rfl
    rw [List.append_nil]
    exact hs.append_left delivered

end Step

/-- An execution extends the sequence of delivered items and keeps it in order. -/
theorem inOrder_final {key : α → κ} {delivered : List α} {m : Mailbox α κ}
    {tr : List (List α × Mailbox α κ)} (h : Exec (MailStep key) m tr)
    (hm : InOrder key delivered m) :
    InOrder key (delivered ++ (tr.map Prod.fst).flatten) (final m tr) := by
  induction tr generalizing delivered m with
  | nil => simpa using hm
  | cons e tr ih =>
    have h' := ih h.2 (h.1.inOrder hm)
    rwa [List.append_assoc] at h'

/-- The items delivered over a whole execution from an empty mailbox have strictly increasing
keys. -/
theorem delivered_pairwise {key : α → κ} {k : κ} {tr : List (List α × Mailbox α κ)}
    (h : Exec (MailStep key) ⟨[], k⟩ tr) :
    (tr.map Prod.fst).flatten.Pairwise (fun x y => key x < key y) := by
  have hfin := inOrder_final h (inOrder_empty key k)
  rw [List.nil_append] at hfin
  exact (List.pairwise_append.1 hfin.increasing).1

end OperatingOrganism.OrderedMailbox

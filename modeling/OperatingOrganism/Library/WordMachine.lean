import Mathlib.Logic.Relation
import Mathlib.Data.Fintype.Card

/-!
# Words that call words

A language has words: some have a body, which is a list of words to be run one after another, and the others
act on the state. A word is run by recursion into the bodies, with a bound on the depth of the recursion.

Whether a run comes to an end does not depend on the state (`terminates_iff_acc`). Where there are finitely many
words, it ends if and only if no word that it reaches calls itself, directly or through others
(`terminates_iff_no_cycle`). Two languages run a word alike if they agree on what it reaches (`AgreesBelow`), and a
word that ends has the effect of a list of words without bodies (`exists_leaves`).
-/

set_option autoImplicit false

namespace OperatingOrganism.WordMachine

universe u v

variable {α : Type u} {σ : Type v}

/-- The bodies of the words that have one, and what the others do. -/
structure Language (α : Type u) (σ : Type v) where
  body : α → Option (List α)
  effect : α → σ → σ

variable (L : Language α σ)

/-- A word run with at most `fuel` nested calls; `none` if they do not suffice. -/
def run : Nat → σ → α → Option σ
  | 0, _, _ => none
  | fuel + 1, s, a =>
    match L.body a with
    | some body => body.foldlM (run fuel) s
    | none => some (L.effect a s)

/-- The word comes to an end. -/
def Terminates (s : σ) (a : α) : Prop := ∃ fuel, (run L fuel s a).isSome

/-- `b` is in the body of `a`. -/
def Calls (b a : α) : Prop := ∃ body, L.body a = some body ∧ b ∈ body

variable {L}

section Fold

variable {f g : σ → α → Option σ}

/-- A list that is run to its end runs each of its members to its end. -/
theorem exists_isSome_of_mem {l : List α} {s : σ} (h : (l.foldlM f s).isSome) :
    ∀ b ∈ l, ∃ t, (f t b).isSome := by
  induction l generalizing s with
  | nil => intro b hb; cases hb
  | cons a l ih =>
    rw [List.foldlM_cons] at h
    obtain ⟨t, ht⟩ : ∃ t, f s a = some t := by
      cases hfa : f s a with
      | none => rw [hfa] at h; cases h
      | some t => exact ⟨t, rfl⟩
    rw [ht] at h
    intro b hb
    rcases List.mem_cons.1 hb with rfl | hb
    · exact ⟨s, by rw [ht]; rfl⟩
    · exact ih h b hb

/-- A list whose members end in every state is run to its end. -/
theorem foldlM_isSome {l : List α} (h : ∀ b ∈ l, ∀ t, (f t b).isSome) (s : σ) : (l.foldlM f s).isSome := by
  induction l generalizing s with
  | nil => rfl
  | cons a l ih =>
    obtain ⟨t, ht⟩ := Option.isSome_iff_exists.1 (h a List.mem_cons_self s)
    rw [List.foldlM_cons, ht]
    exact ih (fun b hb => h b (List.mem_cons_of_mem a hb)) t

/-- What is run to its end is run to the same end by everything that ends at least as often. -/
theorem foldlM_mono {l : List α} (h : ∀ b ∈ l, ∀ s t, f s b = some t → g s b = some t) {s t : σ}
    (hf : l.foldlM f s = some t) : l.foldlM g s = some t := by
  induction l generalizing s with
  | nil => exact hf
  | cons a l ih =>
    rw [List.foldlM_cons] at hf ⊢
    cases hfa : f s a with
    | none => rw [hfa] at hf; cases hf
    | some r =>
      rw [hfa] at hf
      rw [h a List.mem_cons_self s r hfa]
      exact ih (fun b hb => h b (List.mem_cons_of_mem a hb)) hf

/-- What agrees on the members of a list runs it alike. -/
theorem foldlM_congr_mem {l : List α} (h : ∀ b ∈ l, ∀ s, f s b = g s b) (s : σ) : l.foldlM f s = l.foldlM g s := by
  induction l generalizing s with
  | nil => rfl
  | cons a l ih =>
    rw [List.foldlM_cons, List.foldlM_cons, h a List.mem_cons_self s]
    cases g s a with
    | none => rfl
    | some t => exact ih (fun b hb => h b (List.mem_cons_of_mem a hb)) t

end Fold

/-- More calls than a word needs change nothing. -/
theorem run_succ {fuel : Nat} {s t : σ} {a : α} (h : run L fuel s a = some t) :
    run L (fuel + 1) s a = some t := by
  induction fuel generalizing s t a with
  | zero => cases h
  | succ fuel ih =>
    rw [run] at h ⊢
    cases hbody : L.body a with
    | none => rw [hbody] at h; exact h
    | some body =>
      rw [hbody] at h
      exact foldlM_mono (fun b _ s t hb => ih hb) h

theorem run_mono {fuel fuel' : Nat} (hle : fuel ≤ fuel') {s t : σ} {a : α} (h : run L fuel s a = some t) :
    run L fuel' s a = some t := by
  induction hle with
  | refl => exact h
  | step _ ih => exact run_succ ih

/-- A word that ends reaches no infinite descent of calls. -/
theorem acc_of_isSome {fuel : Nat} {s : σ} {a : α} (h : (run L fuel s a).isSome) : Acc (Calls L) a := by
  induction fuel generalizing s a with
  | zero => cases h
  | succ fuel ih =>
    refine Acc.intro a ?_
    rintro b ⟨body, hbody, hb⟩
    rw [run, hbody] at h
    obtain ⟨t, ht⟩ := exists_isSome_of_mem h b hb
    exact ih ht

/-- A word without an infinite descent of calls ends, with a depth that suffices in every state. -/
theorem exists_fuel_of_acc {a : α} (h : Acc (Calls L) a) : ∃ fuel, ∀ s : σ, (run L fuel s a).isSome := by
  induction h with
  | intro a _ ih =>
    cases hbody : L.body a with
    | none =>
      refine ⟨1, fun s => ?_⟩
      rw [run, hbody]
      rfl
    | some body =>
      -- one depth for the whole body: the members are finitely many
      have hdepth : ∀ l : List α, (∀ b ∈ l, b ∈ body) →
          ∃ fuel, ∀ b ∈ l, ∀ s : σ, (run L fuel s b).isSome := by
        intro l
        induction l with
        | nil => exact fun _ => ⟨0, fun b hb => by cases hb⟩
        | cons c l ihl =>
          intro hl
          obtain ⟨n, hn⟩ := ihl fun b hb => hl b (List.mem_cons_of_mem c hb)
          obtain ⟨m, hm⟩ := ih c ⟨body, hbody, hl c List.mem_cons_self⟩
          refine ⟨max n m, fun b hb s => ?_⟩
          rcases List.mem_cons.1 hb with rfl | hb
          · obtain ⟨t, ht⟩ := Option.isSome_iff_exists.1 (hm s)
            rw [run_mono (Nat.le_max_right n m) ht]
            rfl
          · obtain ⟨t, ht⟩ := Option.isSome_iff_exists.1 (hn b hb s)
            rw [run_mono (Nat.le_max_left n m) ht]
            rfl
      obtain ⟨fuel, hfuel⟩ := hdepth body fun _ hb => hb
      refine ⟨fuel + 1, fun s => ?_⟩
      rw [run, hbody]
      exact foldlM_isSome hfuel s

/-- A word ends if and only if it reaches no infinite descent of calls, whatever the state. -/
theorem terminates_iff_acc {s : σ} {a : α} : Terminates L s a ↔ Acc (Calls L) a := by
  constructor
  · rintro ⟨fuel, h⟩
    exact acc_of_isSome h
  · intro h
    obtain ⟨fuel, hfuel⟩ := exists_fuel_of_acc h
    exact ⟨fuel, hfuel s⟩

/-! ## Cycles -/

section Cycle

variable {R : α → α → Prop}

/-- Nothing on a cycle is accessible. -/
theorem not_transGen_self_of_acc {a : α} (h : Acc R a) : ¬ Relation.TransGen R a a := by
  have h' : Acc (Relation.TransGen R) a := h.transGen
  induction h' with
  | intro a _ ih =>
    intro hcycle
    exact ih a hcycle h hcycle

/-- In a finite type an element is accessible if and only if no cycle lies below it. -/
theorem acc_iff_no_cycle [Finite α] {a : α} :
    Acc R a ↔ ∀ b, Relation.ReflTransGen R b a → ¬ Relation.TransGen R b b := by
  constructor
  · intro h b hb
    refine not_transGen_self_of_acc ?_
    induction hb using Relation.ReflTransGen.head_induction_on with
    | refl => exact h
    | head hbc _ ih => exact ih.inv hbc
  · intro h
    -- the part below `a`, where descent is a strict order on finitely many elements
    let below : α → α → Prop := fun b c => Relation.TransGen R b c ∧ Relation.ReflTransGen R c a
    have htrans : IsTrans α below := ⟨fun _ _ _ hbc hcd => ⟨hbc.1.trans hcd.1, hcd.2⟩⟩
    have hirrefl : Std.Irrefl below := ⟨fun b hb => h b hb.2 hb.1⟩
    have hwf : WellFounded below := Finite.wellFounded_of_trans_of_irrefl below
    have hacc : ∀ b, Relation.ReflTransGen R b a → Acc R b := by
      intro b
      induction b using hwf.induction with
      | _ b ih =>
        intro hb
        exact Acc.intro b fun c hc => ih c ⟨.single hc, hb⟩ (hb.head hc)
    exact hacc a .refl

/-- Among finitely many words, one ends if and only if no word that it reaches calls itself again. -/
theorem terminates_iff_no_cycle [Finite α] {s : σ} {a : α} :
    Terminates L s a ↔
      ∀ b, Relation.ReflTransGen (Calls L) b a → ¬ Relation.TransGen (Calls L) b b :=
  terminates_iff_acc.trans acc_iff_no_cycle

end Cycle

/-! ## Results -/

section Results

variable {s t : σ} {a b : α}

/-- The result does not depend on the bound. -/
theorem run_unique {fuel fuel' : Nat} {t' : σ} (h : run L fuel s a = some t) (h' : run L fuel' s a = some t') :
    t = t' := by
  rcases Nat.le_total fuel fuel' with hle | hle
  · exact Option.some.inj ((run_mono hle h).symm.trans h')
  · exact Option.some.inj (h.symm.trans (run_mono hle h'))

/-- More calls than a list needs change nothing. -/
theorem foldlM_run_mono {fuel fuel' : Nat} (hle : fuel ≤ fuel') {l : List α} (h : l.foldlM (run L fuel) s = some t) :
    l.foldlM (run L fuel') s = some t :=
  foldlM_mono (fun _ _ _ _ hb => run_mono hle hb) h

end Results

/-! ## What a run keeps -/

section Kept

universe w

variable {β : Type w} {f : σ → β} {s t : σ} {a : α}

theorem foldlM_keeps {g : σ → α → Option σ} (hg : ∀ s t a, g s a = some t → f t = f s) {l : List α}
    (h : l.foldlM g s = some t) : f t = f s := by
  induction l generalizing s with
  | nil => exact congrArg f (Option.some.inj h).symm
  | cons a l ih =>
    rw [List.foldlM_cons] at h
    cases hga : g s a with
    | none => rw [hga] at h; cases h
    | some r =>
      rw [hga] at h
      exact (ih h).trans (hg s r a hga)

/-- What no effect changes, no run changes. -/
theorem run_keeps (heffect : ∀ a s, f (L.effect a s) = f s) {fuel : Nat} (h : run L fuel s a = some t) : f t = f s := by
  induction fuel generalizing s t a with
  | zero => cases h
  | succ fuel ih =>
    rw [run] at h
    cases hbody : L.body a with
    | none =>
      rw [hbody] at h
      rw [← Option.some.inj h]
      exact heffect a s
    | some body =>
      rw [hbody] at h
      exact foldlM_keeps (fun _ _ _ hb => ih hb) h

end Kept

/-! ## Agreement -/

/-- The languages agree on a word and on all that it reaches in the first one. -/
def AgreesBelow (L L' : Language α σ) (a : α) : Prop :=
  ∀ b, Relation.ReflTransGen (Calls L) b a → L'.body b = L.body b ∧ L'.effect b = L.effect b

namespace AgreesBelow

variable {L' : Language α σ} {a b : α}

theorem below (h : AgreesBelow L L' a) (hb : Relation.ReflTransGen (Calls L) b a) : AgreesBelow L L' b :=
  fun c hc => h c (hc.trans hb)

/-- They reach the same words. -/
theorem reaches_iff (h : AgreesBelow L L' a) :
    Relation.ReflTransGen (Calls L') b a ↔ Relation.ReflTransGen (Calls L) b a := by
  constructor
  · intro hb
    induction hb using Relation.ReflTransGen.head_induction_on with
    | refl => exact .refl
    | head hcall _ ih =>
      obtain ⟨body, hbody, hmem⟩ := hcall
      exact ih.head ⟨body, (h _ ih).1 ▸ hbody, hmem⟩
  · intro hb
    induction hb using Relation.ReflTransGen.head_induction_on with
    | refl => exact .refl
    | head hcall hrest ih =>
      obtain ⟨body, hbody, hmem⟩ := hcall
      exact ih.head ⟨body, ((h _ hrest).1).trans hbody, hmem⟩

theorem symm (h : AgreesBelow L L' a) : AgreesBelow L' L a := by
  intro b hb
  obtain ⟨hbody, heffect⟩ := h b (h.reaches_iff.1 hb)
  exact ⟨hbody.symm, heffect.symm⟩

/-- An infinite descent of calls starts in both or in none. -/
theorem acc (h : AgreesBelow L L' a) (hacc : Acc (Calls L') a) : Acc (Calls L) a := by
  induction hacc with
  | intro a _ ih =>
    refine Acc.intro a fun b hcall => ih b ?_ (h.below (.single hcall))
    obtain ⟨body, hbody, hmem⟩ := hcall
    exact ⟨body, (h a .refl).1.trans hbody, hmem⟩

/-- They run the word alike. -/
theorem run_eq (h : AgreesBelow L L' a) (fuel : Nat) (s : σ) : run L' fuel s a = run L fuel s a := by
  induction fuel generalizing a s with
  | zero => rfl
  | succ fuel ih =>
    obtain ⟨hbody, heffect⟩ := h a .refl
    rw [run, run, hbody, heffect]
    cases hcases : L.body a with
    | none => rfl
    | some body =>
      exact foldlM_congr_mem (fun b hb s => ih (h.below (.single ⟨body, hcases, hb⟩)) s) s

end AgreesBelow

/-! ## Leaves -/

section Leaves

variable {a : α}

/-- The effects of a list of words without bodies, one after another. -/
def effects (L : Language α σ) (leaves : List α) (s : σ) : σ := leaves.foldl (fun s b => L.effect b s) s

theorem effects_cons (b : α) (leaves : List α) (s : σ) :
    effects L (b :: leaves) s = effects L leaves (L.effect b s) := rfl

theorem effects_append (leaves leaves' : List α) (s : σ) :
    effects L (leaves ++ leaves') s = effects L leaves' (effects L leaves s) := List.foldl_append

/-- A word that starts no infinite descent of calls has the effect of a list of words: of those without bodies that
it reaches. -/
theorem exists_leaves (h : Acc (Calls L) a) :
    ∃ leaves : List α, (∀ b, b ∈ leaves ↔ Relation.ReflTransGen (Calls L) b a ∧ L.body b = none) ∧
      ∃ fuel, ∀ s, run L fuel s a = some (effects L leaves s) := by
  induction h with
  | intro a _ ih =>
    cases hbody : L.body a with
    | none =>
      refine ⟨[a], fun b => ?_, 1, fun s => ?_⟩
      · rw [List.mem_singleton]
        constructor
        · rintro rfl
          exact ⟨.refl, hbody⟩
        · rintro ⟨hb, -⟩
          rcases Relation.ReflTransGen.cases_tail hb with heq | ⟨c, -, body, hc, -⟩
          · exact heq.symm
          · rw [hbody] at hc
            cases hc
      · rw [run, hbody]
        rfl
    | some body =>
      -- the leaves of a part of the body
      have hpart : ∀ l : List α, (∀ b ∈ l, b ∈ body) →
          ∃ leaves : List α, (∀ b, b ∈ leaves ↔ ∃ c ∈ l, Relation.ReflTransGen (Calls L) b c ∧ L.body b = none) ∧
            ∃ fuel, ∀ s, l.foldlM (run L fuel) s = some (effects L leaves s) := by
        intro l
        induction l with
        | nil => exact fun _ => ⟨[], fun b => iff_of_false List.not_mem_nil nofun, 0, fun s => rfl⟩
        | cons c l ihl =>
          intro hl
          obtain ⟨rest, hrest, m, hm⟩ := ihl fun b hb => hl b (List.mem_cons_of_mem c hb)
          obtain ⟨first, hfirst, n, hn⟩ := ih c ⟨body, hbody, hl c List.mem_cons_self⟩
          refine ⟨first ++ rest, fun b => ?_, max n m, fun s => ?_⟩
          · rw [List.mem_append, hfirst, hrest, List.exists_mem_cons_iff]
          · rw [List.foldlM_cons, run_mono (Nat.le_max_left n m) (hn s), effects_append]
            exact foldlM_run_mono (Nat.le_max_right n m) (hm _)
      obtain ⟨leaves, hleaves, fuel, hfuel⟩ := hpart body fun _ hb => hb
      refine ⟨leaves, fun b => ?_, fuel + 1, fun s => ?_⟩
      · rw [hleaves]
        constructor
        · rintro ⟨c, hc, hb, hnone⟩
          exact ⟨hb.tail ⟨body, hbody, hc⟩, hnone⟩
        · rintro ⟨hb, hnone⟩
          rcases Relation.ReflTransGen.cases_tail hb with heq | ⟨c, hbc, body', hbody', hc⟩
          · rw [← heq, hbody] at hnone
            cases hnone
          · rw [hbody, Option.some.injEq] at hbody'
            exact ⟨c, hbody' ▸ hc, hbc, hnone⟩
      · rw [run, hbody]
        exact hfuel s

/-- Where no effect but that of idle words loses nothing, a list of words that changes no state has only idle
ones. -/
theorem effect_eq_id_of_effects {leaves : List α}
    (hidle : ∀ b ∈ leaves, Function.Injective (L.effect b) → L.effect b = id)
    (h : ∀ s, effects L leaves s = s) : ∀ b ∈ leaves, L.effect b = id := by
  induction leaves with
  | nil => exact nofun
  | cons b leaves ih =>
    have hfirst : L.effect b = id := by
      refine hidle b List.mem_cons_self fun s t heq => ?_
      rw [← h s, ← h t, effects_cons, effects_cons, heq]
    have hrest : ∀ s, effects L leaves s = s := by
      intro s
      have hall := h s
      rw [effects_cons, hfirst] at hall
      exact hall
    intro c hc
    rcases List.mem_cons.1 hc with rfl | hc
    · exact hfirst
    · exact ih (fun c hc => hidle c (List.mem_cons_of_mem b hc)) hrest c hc

/-- A list of idle words changes no state. -/
theorem effects_eq_self {leaves : List α} (h : ∀ b ∈ leaves, L.effect b = id) (s : σ) : effects L leaves s = s := by
  induction leaves with
  | nil => rfl
  | cons b leaves ih =>
    rw [effects_cons, h b List.mem_cons_self]
    exact ih fun c hc => h c (List.mem_cons_of_mem b hc)

end Leaves

end OperatingOrganism.WordMachine

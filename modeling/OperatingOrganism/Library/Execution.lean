import Mathlib.Logic.Relation
import Mathlib.Data.List.Forall2

/-!
# Executions of labelled transition systems

An execution is stored as the list of its labelled steps, each with the state it leads to. A state
property that every step preserves, possibly only under a condition `C` on the state and the label
of the step, holds in every state of an execution whose steps all meet `C`
(`Exec.allStates`); where `C` is exact for one step, it is exact for a whole execution
(`Exec.allStates_iff_allSteps`); a relation to the number of marked steps carries over to the whole count
(`Exec.counted`). A forward simulation maps executions to executions
(`Exec.simulate`), and two deterministic machines driven by related inputs stay related
(`foldl_lockstep`); a deterministic machine has an execution on every list of inputs (`exec_driven`).
-/

set_option autoImplicit false

namespace OperatingOrganism.Execution

universe u v w x

variable {σ : Type u} {α : Type v}

/-- The labelled steps of `tr` form an execution from `s`. -/
def Exec (step : σ → α → σ → Prop) : σ → List (α × σ) → Prop
  | _, [] => True
  | s, (a, t) :: tr => step s a t ∧ Exec step t tr

/-- `P` holds at the start and after every step. -/
def AllStates (P : σ → Prop) (s : σ) (tr : List (α × σ)) : Prop :=
  P s ∧ ∀ e ∈ tr, P e.2

/-- `C` relates every label to the state its step starts from. -/
def AllSteps (C : σ → α → Prop) : σ → List (α × σ) → Prop
  | _, [] => True
  | s, (a, t) :: tr => C s a ∧ AllSteps C t tr

instance AllSteps.decidable {C : σ → α → Prop} [∀ s a, Decidable (C s a)] :
    (s : σ) → (tr : List (α × σ)) → Decidable (AllSteps C s tr)
  | _, [] => isTrue trivial
  | _, (_, t) :: tr => @instDecidableAnd _ _ _ (AllSteps.decidable t tr)

/-- `Q` relates the states before and after every step. -/
def AllMoves (Q : σ → σ → Prop) : σ → List (α × σ) → Prop
  | _, [] => True
  | s, (_, t) :: tr => Q s t ∧ AllMoves Q t tr

/-- The number of steps that `c` marks, by their labels and the states they start from. -/
def countSteps (c : σ → α → Bool) : σ → List (α × σ) → Nat
  | _, [] => 0
  | s, (a, t) :: tr => (c s a).toNat + countSteps c t tr

/-- The state after the last step. -/
def final : σ → List (α × σ) → σ
  | s, [] => s
  | _, (_, t) :: tr => final t tr

/-- States that some execution from `s` ends in. -/
abbrev Reachable (step : σ → α → σ → Prop) (s : σ) : σ → Prop :=
  Relation.ReflTransGen (fun x y => ∃ a, step x a y) s

section Basic

variable {step : σ → α → σ → Prop} {P : σ → Prop} {C : σ → α → Prop}

@[simp] theorem allSteps_cons (s : σ) (a : α) (t : σ) (tr : List (α × σ)) :
    AllSteps C s ((a, t) :: tr) ↔ C s a ∧ AllSteps C t tr := Iff.rfl

@[simp] theorem final_nil (s : σ) : final s ([] : List (α × σ)) = s := rfl

@[simp] theorem final_cons (s : σ) (a : α) (t : σ) (tr : List (α × σ)) :
    final s ((a, t) :: tr) = final t tr := rfl

@[simp] theorem allStates_nil (s : σ) : AllStates P s ([] : List (α × σ)) ↔ P s := by
  simp [AllStates]

@[simp] theorem allStates_cons (s : σ) (a : α) (t : σ) (tr : List (α × σ)) :
    AllStates P s ((a, t) :: tr) ↔ P s ∧ AllStates P t tr := by
  simp [AllStates]

theorem AllStates.final {s : σ} {tr : List (α × σ)} (h : AllStates P s tr) : P (final s tr) := by
  induction tr generalizing s with
  | nil => exact h.1
  | cons e tr ih =>
    obtain ⟨a, t⟩ := e
    exact ih ((allStates_cons s a t tr).1 h).2

theorem AllStates.imp {Q : σ → Prop} {s : σ} {tr : List (α × σ)} (h : AllStates P s tr)
    (hPQ : ∀ s, P s → Q s) : AllStates Q s tr :=
  ⟨hPQ s h.1, fun e he => hPQ e.2 (h.2 e he)⟩

theorem AllSteps.and {D : σ → α → Prop} {s : σ} {tr : List (α × σ)} (hC : AllSteps C s tr)
    (hD : AllSteps D s tr) : AllSteps (fun s a => C s a ∧ D s a) s tr := by
  induction tr generalizing s with
  | nil => trivial
  | cons e tr ih => exact ⟨⟨hC.1, hD.1⟩, ih hC.2 hD.2⟩

/-- Executions concatenate. -/
theorem Exec.append {s : σ} {tr tr' : List (α × σ)} (h : Exec step s tr)
    (h' : Exec step (Execution.final s tr) tr') : Exec step s (tr ++ tr') := by
  induction tr generalizing s with
  | nil => exact h'
  | cons e tr ih => exact ⟨h.1, ih h.2 h'⟩

/-- An execution of a concatenation splits at the state between. -/
theorem Exec.split {s : σ} {tr tr' : List (α × σ)} (h : Exec step s (tr ++ tr')) :
    Exec step s tr ∧ Exec step (Execution.final s tr) tr' := by
  induction tr generalizing s with
  | nil => exact ⟨trivial, h⟩
  | cons e tr ih =>
    obtain ⟨h₁, h₂⟩ := ih h.2
    exact ⟨⟨h.1, h₁⟩, h₂⟩

@[simp] theorem final_append (s : σ) (tr tr' : List (α × σ)) :
    final s (tr ++ tr') = final (final s tr) tr' := by
  induction tr generalizing s with
  | nil => rfl
  | cons e tr ih => exact ih e.2

/-- An execution ends in a reachable state. -/
theorem Exec.reachable {s₀ s : σ} {tr : List (α × σ)} (h : Exec step s tr)
    (hs : Reachable step s₀ s) : Reachable step s₀ (Execution.final s tr) := by
  induction tr generalizing s with
  | nil => exact hs
  | cons e tr ih => exact ih h.2 (hs.tail ⟨e.1, h.1⟩)

/-- A property kept by every step holds in every reachable state. -/
theorem Reachable.invariant {s t : σ} (h : Reachable step s t) (h₀ : P s)
    (hstep : ∀ s a t, P s → step s a t → P t) : P t := by
  induction h with
  | refl => exact h₀
  | tail _ hbc ih =>
    obtain ⟨a, ha⟩ := hbc
    exact hstep _ a _ ih ha

end Basic

section Invariants

variable {step : σ → α → σ → Prop} {P : σ → Prop} {C : σ → α → Prop}

/-- A property that the steps meeting `C` preserve holds along every execution made of such
steps. -/
theorem Exec.allStates {s : σ} {tr : List (α × σ)} (h : Exec step s tr) (h₀ : P s)
    (hC : AllSteps C s tr) (hstep : ∀ s a t, P s → C s a → step s a t → P t) :
    AllStates P s tr := by
  induction tr generalizing s with
  | nil => exact (allStates_nil s).2 h₀
  | cons e tr ih =>
    obtain ⟨a, t⟩ := e
    exact (allStates_cons s a t tr).2 ⟨h₀, ih h.2 (hstep s a t h₀ hC.1 h.1) hC.2⟩

/-- The same without a condition. -/
theorem Exec.invariant {s : σ} {tr : List (α × σ)} (h : Exec step s tr) (h₀ : P s)
    (hstep : ∀ s a t, P s → step s a t → P t) : AllStates P s tr := by
  induction tr generalizing s with
  | nil => exact (allStates_nil s).2 h₀
  | cons e tr ih =>
    obtain ⟨a, t⟩ := e
    exact (allStates_cons s a t tr).2 ⟨h₀, ih h.2 (hstep s a t h₀ h.1)⟩

/-- A relation between the state and the number of marked steps that every step keeps holds of the whole
count. -/
theorem Exec.counted {I : σ → Nat → Prop} {c : σ → α → Bool} {s : σ} {n : Nat} {tr : List (α × σ)}
    (h : Exec step s tr) (h₀ : I s n)
    (hstep : ∀ s a t n, I s n → step s a t → I t (n + (c s a).toNat)) :
    I (final s tr) (n + countSteps c s tr) := by
  induction tr generalizing s n with
  | nil => exact h₀
  | cons e tr ih =>
    obtain ⟨a, t⟩ := e
    rw [final_cons, countSteps, ← Nat.add_assoc]
    exact ih h.2 (hstep s a t n h₀ h.1)

/-- A condition that is exact for one step is exact for a whole execution: `Q` holds in every state
reached if and only if every step meets the condition. `P` is what the steps that meet it preserve, a
strengthening of `Q`. -/
theorem Exec.allStates_iff_of_strengthening {Q : σ → Prop} {s : σ} {tr : List (α × σ)}
    (h : Exec step s tr) (h₀ : P s) (hPQ : ∀ s, P s → Q s)
    (hstep : ∀ s a t, P s → step s a t → C s a → P t)
    (hexact : ∀ s a t, P s → step s a t → Q t → C s a) :
    AllStates Q s tr ↔ AllSteps C s tr := by
  induction tr generalizing s with
  | nil => exact ⟨fun _ => trivial, fun _ => (allStates_nil s).2 (hPQ s h₀)⟩
  | cons e tr ih =>
    obtain ⟨a, t⟩ := e
    rw [allStates_cons, allSteps_cons]
    constructor
    · rintro ⟨-, hrest⟩
      have hC : C s a := hexact s a t h₀ h.1 hrest.1
      exact ⟨hC, (ih h.2 (hstep s a t h₀ h.1 hC)).1 hrest⟩
    · rintro ⟨hC, hrest⟩
      exact ⟨hPQ s h₀, (ih h.2 (hstep s a t h₀ h.1 hC)).2 hrest⟩

/-- The same with an invariant `I` that needs no condition. -/
theorem Exec.allStates_iff_allSteps {I : σ → Prop} {s : σ} {tr : List (α × σ)}
    (h : Exec step s tr) (hI : I s) (h₀ : P s)
    (hIstep : ∀ s a t, I s → step s a t → I t)
    (hstep : ∀ s a t, I s → P s → step s a t → (P t ↔ C s a)) :
    AllStates P s tr ↔ AllSteps C s tr := by
  refine h.allStates_iff_of_strengthening (P := fun s => I s ∧ P s) ⟨hI, h₀⟩ (fun _ hs => hs.2) ?_ ?_
  · intro s a t hs hst hC
    exact ⟨hIstep s a t hs.1 hst, (hstep s a t hs.1 hs.2 hst).2 hC⟩
  · intro s a t hs hst ht
    exact (hstep s a t hs.1 hs.2 hst).1 ht

/-- A condition that is exact for a property of the states and one of the steps together is exact for both
along a whole execution. -/
theorem Exec.allStates_and_allSteps_iff {I : σ → Prop} {B : σ → α → Prop} {s : σ} {tr : List (α × σ)}
    (h : Exec step s tr) (hI : I s) (h₀ : P s) (hIstep : ∀ s a t, I s → step s a t → I t)
    (hstep : ∀ s a t, I s → P s → step s a t → (P t ∧ B s a ↔ C s a)) :
    AllStates P s tr ∧ AllSteps B s tr ↔ AllSteps C s tr := by
  induction tr generalizing s with
  | nil => exact ⟨fun _ => trivial, fun _ => ⟨(allStates_nil s).2 h₀, trivial⟩⟩
  | cons e tr ih =>
    obtain ⟨a, t⟩ := e
    have hexact := hstep s a t hI h₀ h.1
    rw [allStates_cons, allSteps_cons, allSteps_cons]
    constructor
    · rintro ⟨⟨-, hrest⟩, hB, hrestB⟩
      exact ⟨hexact.1 ⟨hrest.1, hB⟩, (ih h.2 (hIstep s a t hI h.1) hrest.1).1 ⟨hrest, hrestB⟩⟩
    · rintro ⟨hC, hrest⟩
      obtain ⟨ht, hB⟩ := hexact.2 hC
      obtain ⟨hstates, hsteps⟩ := (ih h.2 (hIstep s a t hI h.1) ht).2 hrest
      exact ⟨⟨h₀, hstates⟩, hB, hsteps⟩

/-- Conditions that agree on steps from states with an invariant agree on executions. The invariant is kept
as long as they hold. -/
theorem Exec.allSteps_congr {I : σ → Prop} {D : σ → α → Prop} {s : σ} {tr : List (α × σ)}
    (h : Exec step s tr) (hI : I s) (hIstep : ∀ s a t, I s → D s a → step s a t → I t)
    (hCD : ∀ s a, I s → (C s a ↔ D s a)) : AllSteps C s tr ↔ AllSteps D s tr := by
  induction tr generalizing s with
  | nil => exact Iff.rfl
  | cons e tr ih =>
    obtain ⟨a, t⟩ := e
    rw [allSteps_cons, allSteps_cons, hCD s a hI]
    exact and_congr_right fun hD => ih h.2 (hIstep s a t hI hD h.1)

/-- What an invariant implies for every label holds at every step. -/
theorem Exec.allSteps_of_invariant {I : σ → Prop} {s : σ} {tr : List (α × σ)} (h : Exec step s tr) (hI : I s)
    (hIstep : ∀ s a t, I s → step s a t → I t) (hIC : ∀ s a, I s → C s a) : AllSteps C s tr := by
  induction tr generalizing s with
  | nil => trivial
  | cons e tr ih =>
    obtain ⟨a, t⟩ := e
    exact ⟨hIC s a hI, ih h.2 (hIstep s a t hI h.1)⟩

/-- What a property of the states implies for every label holds at every step between such states. -/
theorem AllStates.allSteps {s : σ} {tr : List (α × σ)} (h : AllStates P s tr) (hPC : ∀ s a, P s → C s a) :
    AllSteps C s tr := by
  induction tr generalizing s with
  | nil => trivial
  | cons e tr ih =>
    obtain ⟨a, t⟩ := e
    rw [allStates_cons] at h
    exact ⟨hPC s a h.1, ih h.2⟩

/-- What a step shows on its label, when it starts in a state with `P`, holds of every label of an
execution whose states all have `P`. -/
theorem Exec.forall_labels {Q : α → Prop} {s : σ} {tr : List (α × σ)} (h : Exec step s tr)
    (hP : AllStates P s tr) (hstep : ∀ s a t, P s → step s a t → Q a) : ∀ e ∈ tr, Q e.1 := by
  induction tr generalizing s with
  | nil => simp
  | cons e tr ih =>
    obtain ⟨a, t⟩ := e
    rw [allStates_cons] at hP
    intro e he
    rcases List.mem_cons.1 he with rfl | he
    · exact hstep s a t hP.1 h.1
    · exact ih h.2 hP.2 e he

/-- An execution that starts with `P` and ends without has a first step that loses `P`. -/
theorem Exec.exists_first_exit {s : σ} {tr : List (α × σ)} (h : Exec step s tr) (hs : P s)
    (hend : ¬ P (final s tr)) :
    ∃ tr₁ a t tr₂, tr = tr₁ ++ (a, t) :: tr₂ ∧ AllStates P s tr₁ ∧
      step (final s tr₁) a t ∧ ¬ P t := by
  induction tr generalizing s with
  | nil => exact absurd hs hend
  | cons e tr ih =>
    obtain ⟨a, t⟩ := e
    by_cases ht : P t
    · obtain ⟨tr₁, a', t', tr₂, rfl, hall, hstep, hexit⟩ := ih h.2 ht hend
      exact ⟨(a, t) :: tr₁, a', t', tr₂, rfl, (allStates_cons s a t tr₁).2 ⟨hs, hall⟩, hstep,
        hexit⟩
    · exact ⟨[], a, t, tr, rfl, (allStates_nil s).2 hs, h.1, ht⟩

end Invariants

section Simulation

variable {τ : Type w} {β : Type x}

/-- Forward simulation: when every step of the first system that meets `C` from related states is
matched by a step of the second system with label `φ a`, an execution of the first whose steps all
meet `C` is matched by an execution of the second with the labels mapped by `φ`. -/
theorem Exec.simulate {step : σ → α → σ → Prop} {step' : τ → β → τ → Prop}
    {C : σ → α → Prop} (R : σ → τ → Prop) (φ : α → β)
    (hsim : ∀ s a t m, R s m → C s a → step s a t → ∃ m', step' m (φ a) m' ∧ R t m')
    {s : σ} {m : τ} {tr : List (α × σ)} (h : Exec step s tr) (hC : AllSteps C s tr)
    (hR : R s m) :
    ∃ tr', Exec step' m tr' ∧ tr'.map Prod.fst = tr.map (fun e => φ e.1) ∧
      R (final s tr) (final m tr') := by
  induction tr generalizing s m with
  | nil => exact ⟨[], trivial, rfl, hR⟩
  | cons e tr ih =>
    obtain ⟨a, t⟩ := e
    obtain ⟨m', hm', hR'⟩ := hsim s a t m hR hC.1 h.1
    obtain ⟨tr', htr', hmap, hfin⟩ := ih h.2 hC.2 hR'
    exact ⟨(φ a, m') :: tr', ⟨hm', htr'⟩, by simp [hmap], hfin⟩

/-- Two deterministic machines on related inputs stay related. -/
theorem foldl_lockstep {f : σ → α → σ} {g : τ → β → τ} (R : σ → τ → Prop) (L : α → β → Prop)
    (hstep : ∀ s t a b, R s t → L a b → R (f s a) (g t b)) {as : List α} {bs : List β}
    (hL : List.Forall₂ L as bs) {s : σ} {t : τ} (hR : R s t) :
    R (as.foldl f s) (bs.foldl g t) := by
  induction hL generalizing s t with
  | nil => exact hR
  | cons hab _ ih => exact ih (hstep s t _ _ hR hab)

end Simulation

section Deterministic

variable {step : σ → α → σ → Prop} {f : σ → α → σ}

/-- The labelled steps of a deterministic machine on a list of inputs. -/
def driven (f : σ → α → σ) : σ → List α → List (α × σ)
  | _, [] => []
  | s, a :: as => (a, f s a) :: driven f (f s a) as

/-- They form an execution. -/
theorem exec_driven (h : ∀ s a, step s a (f s a)) (s : σ) (as : List α) :
    Exec step s (driven f s as) := by
  induction as generalizing s with
  | nil => trivial
  | cons a as ih => exact ⟨h s a, ih (f s a)⟩

@[simp] theorem final_driven (s : σ) (as : List α) : final s (driven f s as) = as.foldl f s := by
  induction as generalizing s with
  | nil => rfl
  | cons a as ih => exact ih (f s a)

/-- A condition on the inputs alone. -/
theorem allSteps_driven {D : α → Prop} (s : σ) {as : List α} (h : ∀ a ∈ as, D a) :
    AllSteps (fun _ a => D a) s (driven f s as) := by
  induction as generalizing s with
  | nil => trivial
  | cons a as ih => exact ⟨h a List.mem_cons_self, ih (f s a) fun b hb => h b (List.mem_cons_of_mem a hb)⟩

/-- A condition on the steps of a machine driven by two lists of inputs in turn. -/
theorem allSteps_driven_append {C : σ → α → Prop} (s : σ) (as bs : List α) :
    AllSteps C s (driven f s (as ++ bs)) ↔
      AllSteps C s (driven f s as) ∧ AllSteps C (as.foldl f s) (driven f (as.foldl f s) bs) := by
  induction as generalizing s with
  | nil => exact iff_and_self.2 fun _ => trivial
  | cons a as ih =>
    rw [List.cons_append, driven, driven, allSteps_cons, allSteps_cons, ih (f s a), and_assoc]
    rfl

end Deterministic

section Fallible

variable {step : σ → α → σ → Prop} {f : σ → α → Option σ}

/-- Inputs on which a machine that may fail does not. -/
theorem exists_exec_of_foldlM (h : ∀ s a t, f s a = some t → step s a t) {s t : σ} {as : List α}
    (hrun : as.foldlM f s = some t) : ∃ tr, tr.map Prod.fst = as ∧ Exec step s tr ∧ final s tr = t := by
  induction as generalizing s with
  | nil => exact ⟨[], rfl, trivial, Option.some.inj hrun⟩
  | cons a as ih =>
    rw [List.foldlM_cons, Option.bind_eq_bind, Option.bind_eq_some_iff] at hrun
    obtain ⟨next, hnext, hrest⟩ := hrun
    obtain ⟨tr, has, hexec, hfinal⟩ := ih hrest
    exact ⟨(a, next) :: tr, by rw [List.map_cons, has], ⟨h s a next hnext, hexec⟩, hfinal⟩

/-- A condition on the labels alone. -/
theorem allSteps_of_labels {D : α → Prop} {s : σ} {tr : List (α × σ)} (h : ∀ a ∈ tr.map Prod.fst, D a) :
    AllSteps (fun _ a => D a) s tr := by
  induction tr generalizing s with
  | nil => trivial
  | cons e tr ih =>
    obtain ⟨ha, htr⟩ := List.forall_mem_cons.1 h
    exact ⟨ha, ih htr⟩

end Fallible

end OperatingOrganism.Execution

import Mathlib.Data.List.Chain
import Mathlib.Data.List.Infix
import Mathlib.Order.Basic

/-!
# Entries that expire

A store may drop an expired entry as soon as it expires, or at any later time before it comes to be used. No reader
can tell the difference (`AgreeFrom`), since what has expired once stays so.

An entry that is renewed before it expires goes on, and one that is renewed later starts again. So what is left of a
list of events is what the longest chain at its end makes of nothing, where each event finds what the one before left
(`latest_eq_renewed`).
-/

set_option autoImplicit false

namespace OperatingOrganism.LazyExpiry

universe u v

/-! ## The chain at the end of a list -/

section Chain

variable {α : Type u} {R : α → α → Prop} {events chain : List α} {e : α}

/-- The longest chain at the end of a list of events. -/
structure LastChain (R : α → α → Prop) (events chain : List α) : Prop where
  nonempty : chain ≠ []
  suffix : chain <:+ events
  linked : chain.IsChain R
  maximal : ∀ longer, longer <:+ events → longer.IsChain R → longer.length ≤ chain.length

theorem LastChain.unique {chain' : List α} (h : LastChain R events chain) (h' : LastChain R events chain') :
    chain = chain' := by
  have hle := h'.maximal chain h.suffix h.linked
  have hge := h.maximal chain' h'.suffix h'.linked
  have hsuffix : chain <:+ chain' := List.suffix_of_suffix_length_le h.suffix h'.suffix hle
  exact hsuffix.eq_of_length (Nat.le_antisymm hle hge)

theorem LastChain.getLast?_eq (h : LastChain R events chain) : events.getLast? = chain.getLast? := by
  obtain ⟨before, rfl⟩ := h.suffix
  exact List.getLast?_append_of_ne_nil before h.nonempty

/-- An event that is linked to the last one continues the chain. -/
theorem LastChain.link (h : LastChain R events chain) (hR : ∀ x ∈ events.getLast?, R x e) :
    LastChain R (events ++ [e]) (chain ++ [e]) where
  nonempty := List.append_ne_nil_of_right_ne_nil chain (List.cons_ne_nil e [])
  suffix := List.suffix_append_self_iff.2 h.suffix
  linked := by
    rw [h.getLast?_eq] at hR
    refine h.linked.append (List.isChain_singleton e) ?_
    rintro x hx y ⟨⟩
    exact hR x hx
  maximal longer hlonger hchain := by
    rcases List.suffix_concat_iff.1 hlonger with rfl | ⟨init, rfl, hinit⟩
    · exact Nat.zero_le _
    · have hle := h.maximal init hinit (List.isChain_append.1 hchain).1
      simpa using hle

/-- One that is not linked to the last one starts a chain. -/
theorem LastChain.restart (hR : ∀ x ∈ events.getLast?, ¬ R x e) : LastChain R (events ++ [e]) [e] where
  nonempty := List.cons_ne_nil e []
  suffix := List.suffix_append events [e]
  linked := List.isChain_singleton e
  maximal longer hlonger hchain := by
    rcases List.suffix_concat_iff.1 hlonger with rfl | ⟨init, rfl, hinit⟩
    · exact Nat.zero_le _
    · rcases List.eq_nil_or_concat' init with rfl | ⟨init, x, rfl⟩
      · exact Nat.le_refl 1
      · -- the event before would be linked to it
        obtain ⟨before, rfl⟩ := hinit
        have hlast : x ∈ (before ++ (init ++ [x])).getLast? := by simp
        exact absurd ((List.isChain_append.1 hchain).2.2 x (by simp) e rfl) (hR x hlast)

theorem exists_lastChain (R : α → α → Prop) {events : List α} (h : events ≠ []) :
    ∃ chain, LastChain R events chain := by
  induction events using List.reverseRecOn with
  | nil => exact absurd rfl h
  | append_singleton events e ih =>
    by_cases hR : ∃ x ∈ events.getLast?, R x e
    · obtain ⟨x, hx, hlink⟩ := hR
      obtain ⟨chain, hchain⟩ := ih (List.ne_nil_of_mem (List.mem_of_mem_getLast? hx))
      refine ⟨chain ++ [e], hchain.link fun y hy => ?_⟩
      rwa [Option.mem_unique hy hx]
    · exact ⟨[e], LastChain.restart fun x hx hlink => hR ⟨x, hx, hlink⟩⟩

/-- The last event continues the chain before it, or starts one. -/
theorem LastChain.concat_cases (h : LastChain R (events ++ [e]) chain) :
    (∃ chain' x, LastChain R events chain' ∧ x ∈ events.getLast? ∧ R x e ∧ chain = chain' ++ [e]) ∨
      (∀ x ∈ events.getLast?, ¬ R x e) ∧ chain = [e] := by
  by_cases hR : ∃ x ∈ events.getLast?, R x e
  · obtain ⟨x, hx, hlink⟩ := hR
    obtain ⟨chain', hchain'⟩ := exists_lastChain R (List.ne_nil_of_mem (List.mem_of_mem_getLast? hx))
    have hcontinued : LastChain R (events ++ [e]) (chain' ++ [e]) :=
      hchain'.link fun y hy => by rwa [Option.mem_unique hy hx]
    exact .inl ⟨chain', x, hchain', hx, hlink, h.unique hcontinued⟩
  · have hnone : ∀ x ∈ events.getLast?, ¬ R x e := fun x hx hlink => hR ⟨x, hx, hlink⟩
    exact .inr ⟨hnone, h.unique (LastChain.restart hnone)⟩

end Chain

/-! ## What a list of events leaves -/

section Fold

variable {α : Type u} {V : Type v} (renew : α → Option V → V) (finds : α → V → Bool)

/-- Each event renews what it still finds. -/
def latest (events : List α) : Option V := events.foldl (fun v e => some (renew e (v.filter (finds e)))) none

/-- Each event renews what there is. -/
def renewed (chain : List α) : Option V := chain.foldl (fun v e => some (renew e v)) none

variable {renew finds}

theorem latest_concat (events : List α) (e : α) :
    latest renew finds (events ++ [e]) = some (renew e ((latest renew finds events).filter (finds e))) := by
  rw [latest, List.foldl_append]
  rfl

theorem renewed_concat (chain : List α) (e : α) :
    renewed renew (chain ++ [e]) = some (renew e (renewed renew chain)) := by
  rw [renewed, List.foldl_append]
  rfl

/-- What is left was written by the last event. -/
theorem exists_latest (renew : α → Option V → V) (finds : α → V → Bool) {events : List α} {e : α}
    (h : e ∈ events.getLast?) : ∃ v, latest renew finds events = some (renew e v) := by
  rcases List.eq_nil_or_concat' events with rfl | ⟨events, e', rfl⟩
  · cases h
  · rw [List.getLast?_concat] at h
    obtain rfl := Option.some.inj h
    exact ⟨_, latest_concat events e'⟩

/-- Only the longest chain at the end counts, if an event finds what one that it is linked to wrote, and nothing that
another wrote. -/
theorem latest_eq_renewed {R : α → α → Prop} (hfinds : ∀ a v b, finds b (renew a v) = true ↔ R a b)
    {events chain : List α} (h : LastChain R events chain) :
    latest renew finds events = renewed renew chain := by
  induction events using List.reverseRecOn generalizing chain with
  | nil => exact absurd (List.suffix_nil.1 h.suffix) h.nonempty
  | append_singleton events e ih =>
    rw [latest_concat]
    rcases h.concat_cases with ⟨chain, x, hchain, hx, hlink, rfl⟩ | ⟨hnone, rfl⟩
    · -- what the event before wrote is found
      obtain ⟨v, hv⟩ := exists_latest renew finds hx
      rw [renewed_concat, ← ih hchain, hv, Option.filter_some_pos ((hfinds x v e).2 hlink)]
    · -- there is no event before, or what it wrote is not found
      have hdropped : (latest renew finds events).filter (finds e) = none := by
        cases hlast : events.getLast? with
        | none =>
          obtain rfl := List.getLast?_eq_none_iff.1 hlast
          rfl
        | some x =>
          obtain ⟨v, hv⟩ := exists_latest renew finds hlast
          rw [hv, Option.filter_some_eq_none]
          exact fun hfound => hnone x hlast ((hfinds x v e).1 hfound)
      rw [hdropped]
      rfl

end Fold

/-! ## Dropping an entry early or late -/

section Agreement

variable {T : Type u} {V : Type v} [Preorder T] {keep : T → V → Bool} {now now' : T} {x y z : Option V}

/-- No reader from the time `now` on can tell the entries apart. -/
def AgreeFrom (keep : T → V → Bool) (now : T) (x y : Option V) : Prop :=
  ∀ t, now ≤ t → x.filter (keep t) = y.filter (keep t)

theorem AgreeFrom.trans (h : AgreeFrom keep now x y) (h' : AgreeFrom keep now y z) : AgreeFrom keep now x z :=
  fun t ht => (h t ht).trans (h' t ht)

theorem AgreeFrom.later (h : AgreeFrom keep now x y) (hle : now ≤ now') : AgreeFrom keep now' x y :=
  fun t ht => h t (hle.trans ht)

/-- An entry that has expired can be dropped at once. -/
theorem agreeFrom_filter (hkeep : ∀ s t v, s ≤ t → keep t v = true → keep s v = true) (x : Option V) :
    AgreeFrom keep now (x.filter (keep now)) x := by
  intro t ht
  cases x with
  | none => rfl
  | some v =>
    by_cases hnow : keep now v
    · rw [Option.filter_some_pos hnow]
    · have hthen : ¬ keep t v := fun h => hnow (hkeep now t v ht h)
      rw [Option.filter_some_eq_none.2 hnow, Option.filter_some_eq_none.2 hthen]
      rfl

end Agreement

end OperatingOrganism.LazyExpiry

import OperatingOrganism.Library.RecentSlots
import OperatingOrganism.Vital.ConsciousnessRuns
import Mathlib.Data.List.Chain

/-!
# The journal of the consciousness

`consciousness_get_history` reads the journal of the last 64 transitions backwards from its head. Accepted
transition `k` goes to slot `k % 64`, so that after every run the call returns the last transitions that were
accepted, oldest first (`history_exact`); each of them begins in the state that the one before it led to.
-/

set_option autoImplicit false

namespace OperatingOrganism.Vital

open OperatingOrganism.Execution OperatingOrganism.RecentSlots OperatingOrganism.UnitedBus

/-- The slot of entry `i` of the last `count`. -/
def Consciousness.historyIndex (s : Consciousness) (count : BitVec 32) (i : Nat) : Fin consciousnessHistorySize :=
  ⟨(s.historyHead + 64 - .ofBitVec count + .ofNat i).toNat % consciousnessHistorySize, Nat.mod_lt _ (by decide)⟩

/-- `consciousness_get_history`: its return value and what it writes to the buffer. `max` is an `int`. -/
def consciousnessGetHistory (s : Consciousness) (max : BitVec 32) : Int × List TransitionEvent :=
  let count : BitVec 32 := if s.historyCount.toBitVec < max then s.historyCount.toBitVec else max
  (count.toInt, (List.range count.toInt.toNat).map fun i => s.history.get (s.historyIndex count i))

/-- The journal keeps the last accepted transitions, and its head and count follow their number. -/
structure Consciousness.Journals (s : Consciousness) (accepted : List TransitionEvent) : Prop where
  kept : KeepsLast s.history accepted
  head : s.historyHead.toNat = accepted.length % consciousnessHistorySize
  count : s.historyCount.toNat = min accepted.length consciousnessHistorySize

/-- Consecutive transitions: the second begins where the first one led. -/
def TransitionEvent.Leads (e e' : TransitionEvent) : Prop := e.target = e'.previous

/-- The invariant: the journal keeps the last accepted transitions, its head and count follow their number, and
they form a legal path to the current state. -/
structure Consciousness.Remembers (s : Consciousness) (accepted : List TransitionEvent) : Prop where
  kept : KeepsLast s.history accepted
  head : s.historyHead.toNat = accepted.length % consciousnessHistorySize
  count : s.historyCount.toNat = min accepted.length consciousnessHistorySize
  chained : accepted.IsChain TransitionEvent.Leads
  legal : ∀ e ∈ accepted, e.previous.Allows e.target
  last : ∀ e, accepted.getLast? = some e → e.target = s.currentState

/-- What `consciousness_get_history` must return and write: the last transitions that were accepted. A negative
`max` counts as the large number that it is as a `uint32_t`. -/
structure HistoryExact (m : Mind) (max : BitVec 32) : Prop where
  returned : (consciousnessGetHistory m.consciousness max).1 =
    (min max.toNat (min 64 m.accepted.length) : Nat)
  written : (consciousnessGetHistory m.consciousness max).2 =
    m.accepted.drop (m.accepted.length - min max.toNat (min 64 m.accepted.length))
  chained : (consciousnessGetHistory m.consciousness max).2.IsChain TransitionEvent.Leads
  legal : ∀ e ∈ (consciousnessGetHistory m.consciousness max).2, e.previous.Allows e.target
  last : ∀ e, (consciousnessGetHistory m.consciousness max).2.getLast? = some e →
    e.target = m.consciousness.currentState

/-- The call does not initialise anew. -/
def NoInit (_m : Mind) (a : Surroundings × ConsciousnessOp) : Prop := a.2 ≠ .init

/-! ## What the calls do to the journal -/

section Journal

variable {s : Consciousness} {accepted : List TransitionEvent} {env : Surroundings} {m m' : Mind}
  {a : Surroundings × ConsciousnessOp}

theorem Consciousness.Remembers.journals (h : s.Remembers accepted) : s.Journals accepted :=
  ⟨h.kept, h.head, h.count⟩

theorem Consciousness.journals_boot : Consciousness.boot.Journals [] := ⟨keepsLast_nil _, rfl, rfl⟩

/-- A granted request is written behind the others. -/
theorem Consciousness.Journals.enter (h : s.Journals accepted) (r : TransitionRequest) :
    (s.enter env r.target r.triggerOrgan r.reason).Journals (accepted ++ [r.event env s]) where
  kept := by
    have hrecord := h.kept.record (by decide) (r.event env s)
    rw [← h.head] at hrecord
    exact hrecord
  head := by
    have hhead := h.head
    rw [Consciousness.enter, List.length_append, List.length_singleton]
    dsimp only
    rw [UInt32.toNat_ofNat', UInt32.toNat_add, hhead, consciousnessHistorySize]
    change ((accepted.length % 64 + 1) % 2 ^ 32 % 64) % 2 ^ 32 = _
    omega
  count := by
    have hcount : s.historyCount.toNat = min accepted.length 64 := h.count
    rw [Consciousness.enter, List.length_append, List.length_singleton]
    change (if s.historyCount.toNat < 64 then s.historyCount + 1 else s.historyCount).toNat = min _ 64
    split
    · rw [UInt32.toNat_add]
      change (s.historyCount.toNat + 1) % 2 ^ 32 = _
      omega
    · omega

/-- What precedes a request writes nothing to the journal. -/
theorem Consciousness.Journals.before (h : s.Journals accepted) (op : ConsciousnessOp) :
    (op.before s).Journals accepted := by
  cases op with
  | init | tick | transition _ _ _ | elsewhere _ => exact ⟨h.kept, h.head, h.count⟩

/-- Every call keeps the journal, an initialisation too. -/
theorem MindStep.journals (h : MindStep m a m') (hm : m.consciousness.Journals m.accepted) :
    m'.consciousness.Journals m'.accepted := by
  obtain ⟨env, op⟩ := a
  obtain rfl : op.step env m = m' := h
  have hbefore := hm.before op
  rcases op.step_cases env m with ⟨r, -, -, hs, haccepted, -⟩ | ⟨-, hs, haccepted, -⟩
  · rw [hs, haccepted]
    exact hbefore.enter r
  · rw [hs, haccepted]
    exact hbefore

/-- A granted request continues the path of the accepted ones. -/
theorem Consciousness.Remembers.enter (h : s.Remembers accepted) {r : TransitionRequest}
    (hallow : s.currentState.Allows r.target) :
    (s.enter env r.target r.triggerOrgan r.reason).Remembers (accepted ++ [r.event env s]) where
  kept := (h.journals.enter r).kept
  head := (h.journals.enter r).head
  count := (h.journals.enter r).count
  chained := by
    refine List.isChain_append.2 ⟨h.chained, List.isChain_singleton _, fun e he e' he' => ?_⟩
    obtain rfl := Option.some.inj he'
    exact h.last e he
  legal := by
    intro e he
    rcases List.mem_append.1 he with he | he
    · exact h.legal e he
    · obtain rfl := List.mem_singleton.1 he
      exact hallow
  last := by
    intro e he
    rw [List.getLast?_concat] at he
    obtain rfl := Option.some.inj he
    rfl

/-- Nothing is forgotten before a request, unless it is that of an initialisation. -/
theorem Consciousness.Remembers.before (h : s.Remembers accepted) {op : ConsciousnessOp} (hop : op ≠ .init) :
    (op.before s).Remembers accepted := by
  cases op with
  | init => exact absurd rfl hop
  | tick => exact ⟨h.kept, h.head, h.count, h.chained, h.legal, h.last⟩
  | transition _ _ _ | elsewhere _ => exact h

theorem MindStep.remembers (h : MindStep m a m') (hm : m.consciousness.Remembers m.accepted)
    (hinit : NoInit m a) : m'.consciousness.Remembers m'.accepted := by
  obtain ⟨env, op⟩ := a
  obtain rfl : op.step env m = m' := h
  have hbefore := hm.before hinit
  rcases op.step_cases env m with ⟨r, -, hallow, hs, haccepted, -⟩ | ⟨-, hs, haccepted, -⟩
  · rw [hs, haccepted]
    exact hbefore.enter hallow
  · rw [hs, haccepted]
    exact hbefore

/-- The first initialisation writes the first entry. -/
theorem MindStep.remembers_of_boot {bus : Bus} (h : MindStep (.boot bus) (env, .init) m) :
    m.consciousness.Remembers m.accepted := by
  obtain rfl : ConsciousnessOp.init.step env (.boot bus) = m := h
  have hempty : (ConsciousnessOp.init.before .boot).Remembers [] :=
    ⟨keepsLast_nil _, rfl, rfl, List.isChain_nil, nofun, nofun⟩
  have hborn : ConsciousnessState.embryonic.Allows .aware := by decide
  rcases ConsciousnessOp.init.step_cases env (.boot bus) with ⟨r, -, hallow, hs, haccepted, -⟩ | ⟨hrefused, -, -, -⟩
  · rw [hs, haccepted]
    exact hempty.enter hallow
  · exact absurd hborn (hrefused _ rfl)

end Journal

/-! ## Reading the journal -/

section Reading

variable {s : Consciousness} {accepted : List TransitionEvent} {m : Mind}

/-- How many entries are read. -/
theorem Consciousness.Journals.count_read (h : s.Journals accepted) (max : BitVec 32) :
    (if s.historyCount.toBitVec < max then s.historyCount.toBitVec else max).toNat =
      min max.toNat (min 64 accepted.length) := by
  have hcount : s.historyCount.toBitVec.toNat = min accepted.length 64 := h.count
  split
  · next hlt =>
    have := BitVec.lt_def.1 hlt
    omega
  · next hle =>
    have := BitVec.lt_def.not.1 hle
    omega

/-- No step of the computation of an index wraps. -/
theorem Consciousness.Journals.val_historyIndex (h : s.Journals accepted) {count : BitVec 32} {i : Nat}
    (hcount : count.toNat ≤ 64) (hi : i < count.toNat) :
    (s.historyIndex count i).val = (accepted.length % 64 + 64 - count.toNat + i) % 64 := by
  have hhead : s.historyHead.toNat = accepted.length % 64 := h.head
  have hlt : accepted.length % 64 < 64 := Nat.mod_lt _ (by decide)
  have hi' : (UInt32.ofNat i).toNat = i := by rw [UInt32.toNat_ofNat', Nat.mod_eq_of_lt (by omega)]
  have hround : (s.historyHead + 64).toNat = accepted.length % 64 + 64 := by
    rw [UInt32.toNat_add, hhead]
    change (accepted.length % 64 + 64) % 2 ^ 32 = _
    exact Nat.mod_eq_of_lt (by omega)
  have hback : (s.historyHead + 64 - .ofBitVec count).toNat = accepted.length % 64 + 64 - count.toNat := by
    rw [UInt32.toNat_sub_of_le, hround]
    · rfl
    · rw [UInt32.le_iff_toNat_le, hround]
      exact hcount.trans (Nat.le_add_left _ _)
  change (s.historyHead + 64 - .ofBitVec count + .ofNat i).toNat % 64 = _
  have hwrap : accepted.length % 64 + 64 - count.toNat + i < 2 ^ 32 := by omega
  rw [UInt32.toNat_add, hback, hi', Nat.mod_eq_of_lt hwrap]

/-- The entries that are read are the last ones. -/
theorem Consciousness.Journals.entries_read (h : s.Journals accepted) {count : BitVec 32}
    (hcount : count.toNat ≤ min 64 accepted.length) :
    (List.range count.toNat).map (fun i => s.history.get (s.historyIndex count i)) =
      accepted.drop (accepted.length - count.toNat) := by
  apply List.map_injective_iff.2 (Option.some_injective _)
  have hread := h.kept.read (hcount.trans (Nat.min_le_right _ _)) (hcount.trans (Nat.min_le_left _ _))
  rw [← hread, List.map_map]
  apply List.map_congr_left
  intro i hi
  have hindex := h.val_historyIndex (hcount.trans (Nat.min_le_left _ _)) (List.mem_range.1 hi)
  rw [Function.comp_apply]
  change some (s.history[(s.historyIndex count i).val]) = _
  rw [← Vector.getElem?_eq_getElem, hindex]
  rfl

/-- What the call returns and writes. -/
theorem Consciousness.Journals.getHistory_eq (h : s.Journals accepted) (max : BitVec 32) :
    consciousnessGetHistory s max =
      (((min max.toNat (min 64 accepted.length) : Nat) : Int),
        accepted.drop (accepted.length - min max.toNat (min 64 accepted.length))) := by
  have hcount := h.count_read max
  obtain ⟨count, hdef⟩ : ∃ count, count = if s.historyCount.toBitVec < max then s.historyCount.toBitVec else max :=
    ⟨_, rfl⟩
  rw [← hdef] at hcount
  have hint : count.toInt = count.toNat := by
    rw [BitVec.toInt_eq_toNat_cond, if_pos (by omega)]
  rw [consciousnessGetHistory, ← hdef, ← hcount]
  rw [hint, Int.toNat_natCast, h.entries_read (hcount.le.trans (Nat.min_le_right _ _))]

theorem Consciousness.Remembers.historyExact (h : m.consciousness.Remembers m.accepted) (max : BitVec 32) :
    HistoryExact m max := by
  have hread := h.journals.getHistory_eq max
  have hwritten := congrArg Prod.snd hread
  dsimp only at hwritten
  refine ⟨congrArg Prod.fst hread, hwritten, ?_, ?_, ?_⟩
  · rw [hwritten]
    exact h.chained.drop _
  · rw [hwritten]
    exact fun e he => h.legal e (List.mem_of_mem_drop he)
  · rw [hwritten]
    intro e he
    refine h.last e ?_
    rw [List.getLast?_drop] at he
    split at he
    · exact nomatch he
    · exact he

/-- In every run of ticks and requests after an initialisation, and for every size of the buffer,
`consciousness_get_history` returns the last transitions that were accepted, as many as fit. -/
theorem history_exact {bus : Bus} {env : Surroundings} {m₀ : Mind}
    {tr : List ((Surroundings × ConsciousnessOp) × Mind)}
    (h : Exec MindStep (.boot bus) (((env, .init), m₀) :: tr)) (hinit : AllSteps NoInit m₀ tr) :
    AllStates (fun m => ∀ max, HistoryExact m max) m₀ tr := by
  have hall : AllStates (fun m => m.consciousness.Remembers m.accepted) m₀ tr :=
    h.2.allStates h.1.remembers_of_boot hinit fun m a m' hm ha hst => hst.remembers hm ha
  exact hall.imp fun m hm => hm.historyExact

/-- Of three requests after the initialisation, the matrix refuses the second. -/
theorem history_exact_refused_request :
    let m₀ := ConsciousnessOp.init.step quietSurroundings (.boot .boot)
    let life := mindsFrom m₀ [.transition .focused 0 [], .transition .dormant 1 [], .tick, .transition .alert 2 []]
    (final m₀ life).accepted.length = 3 ∧ AllStates (fun m => ∀ max, HistoryExact m max) m₀ life := by
  intro m₀ life
  refine ⟨by decide, @history_exact .boot quietSurroundings m₀ life ⟨rfl, exec_mindsFrom _ _⟩ ?_⟩
  exact ⟨nofun, nofun, nofun, nofun, trivial⟩

end Reading

end OperatingOrganism.Vital

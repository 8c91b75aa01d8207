import OperatingOrganism.Vital.ConsciousnessHistory

/-!
# The reason of a transition

`consciousness_transition` copies the text that it is given into a local record, at most 63 characters of it, and
writes a NUL at place 63 only. A shorter text is not ended where it ends: what the record held there before is read
on (`reason_readBack_iff`).
-/

set_option autoImplicit false

namespace OperatingOrganism.Vital

open OperatingOrganism.Execution OperatingOrganism.RecentSlots OperatingOrganism.UnitedBus

/-- The text that a reader finds in an array of characters: what stands before its first NUL. -/
def textOf (bytes : List UInt8) : List UInt8 := bytes.takeWhile (· ≠ 0)

/-- What the journal says of the reason of the transition that was accepted `later` transitions before the last
one. -/
def Mind.reasonRead (m : Mind) (max : BitVec 32) (later : Nat) : Option (List UInt8) :=
  (consciousnessGetHistory m.consciousness max).2.reverse[later]?.map fun e => textOf e.reason.toList

/-! ## The record of one transition -/

section Record

variable (buffer : Vector UInt8 reasonSize) (reason : List UInt8)

theorem ne_zero_of_mem_textOf {bytes : List UInt8} {c : UInt8} (h : c ∈ textOf bytes) : c ≠ 0 := by
  have hall : bytes.takeWhile (· ≠ 0) |>.all (· ≠ 0) := List.all_takeWhile
  simpa using List.all_eq_true.1 hall c h

theorem reasonCopied_eq : reasonCopied reason = (textOf reason).take 63 := by
  rw [reasonCopied, textOf]
  generalize 63 = n
  induction reason generalizing n with
  | nil => rw [List.take_nil, List.takeWhile_nil, List.take_nil]
  | cons c reason ih =>
    cases n with
    | zero => rfl
    | succ n =>
      rw [List.take_succ_cons, List.takeWhile_cons, List.takeWhile_cons]
      split
      · rw [List.take_succ_cons, ih n]
      · rfl

theorem getElem_fillReason {i : Nat} (h : i < reasonSize) :
    (fillReason buffer reason)[i] = if i = 63 then 0 else (reasonCopied reason)[i]?.getD buffer[i] :=
  Vector.getElem_ofFn _

/-- The copy, what the record held behind it, and the NUL. -/
theorem toList_fillReason :
    (fillReason buffer reason).toList =
      reasonCopied reason ++ ((buffer.toList.take 63).drop (reasonCopied reason).length ++ [0]) := by
  have hcopied : (reasonCopied reason).length ≤ 63 := by
    rw [reasonCopied_eq]
    exact List.length_take_le 63 _
  have hbuffer : (buffer.toList.take 63).length = 63 := by
    rw [List.length_take, Vector.length_toList]
    rfl
  apply List.ext_getElem
  · rw [Vector.length_toList, List.length_append, List.length_append, List.length_drop, hbuffer]
    change 64 = _ + (63 - _ + 1)
    omega
  · intro i hi hi'
    rw [Vector.getElem_toList, getElem_fillReason]
    rcases Nat.lt_or_ge i (reasonCopied reason).length with hcopy | hcopy
    · rw [if_neg (by omega), List.getElem?_eq_getElem hcopy, Option.getD_some, List.getElem_append_left hcopy]
    · rw [List.getElem_append_right hcopy]
      split
      · next hlast =>
        rw [List.getElem_append_right (by rw [List.length_drop, hbuffer]; omega), List.getElem_singleton]
      · next hlast =>
        have hlt : i < 63 := by
          rw [Vector.length_toList] at hi
          change i < 64 at hi
          omega
        rw [List.getElem?_eq_none hcopy, Option.getD_none,
          List.getElem_append_left (by rw [List.length_drop, hbuffer]; omega), List.getElem_drop, List.getElem_take,
          Vector.getElem_toList]
        congr 1
        omega

/-- The text is read as it was copied if and only if it fills the field, or the record held a NUL where it ends. -/
theorem textOf_fillReason_iff :
    textOf (fillReason buffer reason).toList = (textOf reason).take 63 ↔
      63 ≤ (textOf reason).length ∨ buffer[(textOf reason).length]? = some 0 := by
  have hcopied : ∀ c ∈ (textOf reason).take 63, decide (c ≠ 0) = true := fun c hc =>
    decide_eq_true (ne_zero_of_mem_textOf (List.mem_of_mem_take hc))
  rw [toList_fillReason, reasonCopied_eq, textOf, List.takeWhile_append_of_pos hcopied, List.append_right_eq_self,
    List.length_take]
  rcases Nat.lt_or_ge (textOf reason).length 63 with hshort | hlong
  · -- the byte behind the copy decides
    rw [Nat.min_eq_right hshort.le]
    obtain ⟨c, hc⟩ : ∃ c, buffer[(textOf reason).length]? = some c :=
      ⟨_, Vector.getElem?_eq_getElem (hshort.trans (by decide))⟩
    have hbehind : (buffer.toList.take 63)[(textOf reason).length]? = some c := by
      rw [List.getElem?_take_of_lt hshort, Vector.getElem?_toList, hc]
    obtain ⟨hin, hget⟩ := List.getElem?_eq_some_iff.1 hbehind
    rw [List.drop_eq_getElem_cons hin, hget, hc, List.cons_append, List.takeWhile_cons]
    by_cases hzero : c = 0
    · simp [hzero]
    · simp [hzero, Nat.not_le.2 hshort]
  · have hbuffer : (buffer.toList.take 63).length ≤ 63 := List.length_take_le 63 _
    rw [Nat.min_eq_left hlong, List.drop_eq_nil_of_le hbuffer]
    exact iff_of_true rfl (.inl hlong)

end Record

/-! ## Reading the journal after a run -/

section Runs

variable {bus : Bus} {env : Surroundings} {m m' : Mind} {op : ConsciousnessOp} {r : TransitionRequest}
  {tr tr' : List ((Surroundings × ConsciousnessOp) × Mind)}

/-- The invariant of the journal over a run. -/
theorem journals_final (h : Exec MindStep m tr) (hm : m.consciousness.Journals m.accepted) :
    (final m tr).consciousness.Journals (final m tr).accepted := by
  have hall : AllStates (fun m => m.consciousness.Journals m.accepted) m tr :=
    h.invariant hm fun m a m' hm hst => hst.journals hm
  exact hall.final

/-- Accepted transitions stay accepted. -/
theorem accepted_final (h : Exec MindStep m tr) : ∃ later, (final m tr).accepted = m.accepted ++ later := by
  induction tr generalizing m with
  | nil => exact ⟨[], (List.append_nil _).symm⟩
  | cons e tr ih =>
    obtain ⟨⟨env, op⟩, m'⟩ := e
    obtain ⟨later, hlater⟩ := ih h.2
    obtain rfl : op.step env m = m' := h.1
    refine ⟨(op.accepted env m.consciousness m.bus).toList ++ later, ?_⟩
    rw [final_cons, hlater, ← List.append_assoc]
    rfl

/-- The `later`-th last entry of the journal, where the call still shows it. -/
theorem Consciousness.Journals.reverse_getHistory (h : m.consciousness.Journals m.accepted) {max : BitVec 32}
    {later : Nat} (hshown : later < (consciousnessGetHistory m.consciousness max).2.length) :
    (consciousnessGetHistory m.consciousness max).2.reverse[later]? = m.accepted.reverse[later]? := by
  rw [h.getHistory_eq max] at hshown ⊢
  dsimp only at hshown ⊢
  rw [List.length_drop] at hshown
  rw [List.getElem?_reverse (by rw [List.length_drop]; omega), List.getElem?_reverse (by omega), List.getElem?_drop,
    List.length_drop]
  congr 1
  omega

/-- What is read of an accepted transition, any number of calls after it. -/
theorem reasonRead_eq (h : Exec MindStep (.boot bus) (tr ++ ((env, op), m') :: tr'))
    (hreq : op.request (final (.boot bus) tr).consciousness = some r)
    (haccept : (r.submit env (op.before (final (.boot bus) tr).consciousness) (final (.boot bus) tr).bus).2.2 = true)
    {max : BitVec 32}
    (hshown : (final m' tr').accepted.length - m'.accepted.length <
      (consciousnessGetHistory (final m' tr').consciousness max).2.length) :
    (final m' tr').reasonRead max ((final m' tr').accepted.length - m'.accepted.length) =
      some (textOf (fillReason (env.evtReason r.target) r.reason).toList) := by
  obtain ⟨htr, hstep, htr'⟩ := h.split
  have hjournals := journals_final htr Consciousness.journals_boot
  generalize hm : final (.boot bus) tr = m at hreq haccept hstep hjournals
  have hlast : (final m' tr').consciousness.Journals (final m' tr').accepted :=
    journals_final htr' (hstep.journals hjournals)
  obtain ⟨later, hlater⟩ := accepted_final htr'
  -- the transition is the last one that was accepted before the later calls
  have haccepted : m'.accepted = m.accepted ++ [r.event env (op.before m.consciousness)] := by
    obtain rfl : op.step env m = m' := hstep
    have hevent : op.accepted env m.consciousness m.bus = some (r.event env (op.before m.consciousness)) := by
      rw [ConsciousnessOp.accepted, hreq]
      exact if_pos haccept
    change m.accepted ++ (op.accepted env m.consciousness m.bus).toList = _
    rw [hevent]
    rfl
  have hentry : (final m' tr').accepted.reverse[(final m' tr').accepted.length - m'.accepted.length]? =
      some (r.event env (op.before m.consciousness)) := by
    rw [hlater, haccepted, List.length_append, Nat.add_sub_cancel_left, List.reverse_append, List.reverse_append]
    rw [List.getElem?_append_right (by rw [List.length_reverse]), List.length_reverse, Nat.sub_self]
    rfl
  rw [Mind.reasonRead, hlast.reverse_getHistory hshown, hentry]
  rfl

/-- In every run, and however many calls after an accepted transition the journal is read: as long as it shows the
transition, the reason that it gives is the first 63 characters of the text that was passed if and only if the text
has as many, or the record held a NUL at the place where the text ends. -/
theorem reason_readBack_iff (h : Exec MindStep (.boot bus) (tr ++ ((env, op), m') :: tr'))
    (hreq : op.request (final (.boot bus) tr).consciousness = some r)
    (haccept : (r.submit env (op.before (final (.boot bus) tr).consciousness) (final (.boot bus) tr).bus).2.2 = true)
    {max : BitVec 32}
    (hshown : (final m' tr').accepted.length - m'.accepted.length <
      (consciousnessGetHistory (final m' tr').consciousness max).2.length) :
    (final m' tr').reasonRead max ((final m' tr').accepted.length - m'.accepted.length) =
        some ((textOf r.reason).take 63) ↔
      63 ≤ (textOf r.reason).length ∨ (env.evtReason r.target)[(textOf r.reason).length]? = some 0 := by
  rw [reasonRead_eq h hreq haccept hshown, Option.some_inj]
  exact textOf_fillReason_iff _ _

/-- One initialisation. -/
theorem exec_init (bus : Bus) (env : Surroundings) :
    Exec MindStep (.boot bus) ([] ++ ((env, .init), ConsciousnessOp.init.step env (.boot bus)) :: []) :=
  ⟨rfl, trivial⟩

/-- After an initialisation over a clean stack, the journal gives the reason as it was passed. -/
theorem reason_readBack_clean_stack :
    (ConsciousnessOp.init.step quietSurroundings (.boot .boot)).reasonRead 1 0 =
      some ((textOf (reasonText "Init sequence complete")).take 63) := by
  refine (reason_readBack_iff (exec_init .boot quietSurroundings) rfl rfl (by decide)).2 (.inr ?_)
  decide

/-- A stack that holds a letter everywhere. -/
def dirtySurroundings : Surroundings := { quietSurroundings with evtReason := fun _ => .replicate _ 65 }

/-- Over another stack, the reason of an initialisation is read with what the record held behind it. -/
theorem exists_reason_not_readBack : ∃ (bus : Bus) (env : Surroundings) (op : ConsciousnessOp)
    (r : TransitionRequest) (max : BitVec 32),
    op.request (Mind.boot bus).consciousness = some r ∧
      (r.submit env (op.before (Mind.boot bus).consciousness) bus).2.2 = true ∧
      0 < (consciousnessGetHistory (op.step env (.boot bus)).consciousness max).2.length ∧
      (op.step env (.boot bus)).reasonRead max 0 ≠ some ((textOf r.reason).take 63) := by
  have hshown : 0 < (consciousnessGetHistory
      (ConsciousnessOp.init.step dirtySurroundings (.boot .boot)).consciousness 1).2.length := by decide
  refine ⟨.boot, dirtySurroundings, .init, _, 1, rfl, rfl, hshown, ?_⟩
  intro hsame
  have hread := reasonRead_eq (exec_init .boot dirtySurroundings) rfl rfl hshown
  have hcondition := (textOf_fillReason_iff _ _).1 (Option.some.inj (hread.symm.trans hsame))
  revert hcondition
  decide

end Runs

end OperatingOrganism.Vital

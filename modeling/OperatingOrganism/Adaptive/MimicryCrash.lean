import OperatingOrganism.Adaptive.MimicryMemory
import OperatingOrganism.Library.JsonTorn

/-!
# A mimicry agent that is stopped

`_save_patterns` opens `patterns.json` for writing, which empties it, and then writes the new text. A process that is
stopped inside of a call that saves leaves the first bytes of the file behind. A start finds what the last call that
returned has left, and never something in between; but once a write was cut off, it raises, for good
(`crash_consistent`).
-/

set_option autoImplicit false

namespace OperatingOrganism.Adaptive.Mimicry

open OperatingOrganism.Execution OperatingOrganism.JsonText

variable {F : Type} [PythonFloat F]

/-- The call gets to `_save_patterns`. -/
def MimicryOp.Writes (agent : MimicryAgent F) : MimicryOp F → Prop
  | .observeAttack _ _ => True
  | .confirmDetection _ patternId | .reportFalsePositive patternId | .promotePattern patternId =>
    (agent.patterns.get? patternId).isSome
  | .cleanupStalePatterns now => agent.patterns.items.any (fun kv => kv.2.isStale now) = true
  | .restart => False

instance (agent : MimicryAgent F) (op : MimicryOp F) : Decidable (op.Writes agent) := by
  cases op <;> unfold MimicryOp.Writes <;> infer_instance

/-- The agent as the last call that returned has left it, with the file as it is, and whether a write was cut off. -/
structure MimicryProcess (F : Type) where
  agent : MimicryAgent F
  running : Bool
  torn : Bool

/-- A call that returns, a stop between calls, a stop inside of a call after so many bytes of the file, or a start. -/
inductive ProcessOp (F : Type) where
  | call (op : MimicryOp F)
  | stop
  | stopInside (op : MimicryOp F) (written : Nat)
  | start

variable [JsonFloat F]

/-- The process after an operation; `none` is one that is not possible, or an exception. -/
def ProcessOp.run (host : Host) (st : MimicryProcess F) : ProcessOp F → Option (MimicryProcess F)
  | .call op => if st.running then (op.run host st.agent).map ({ st with agent := · }) else none
  | .stop => if st.running then some { st with running := false } else none
  | .stopInside op written =>
    if st.running ∧ op.Writes st.agent then do
      let agent ← op.run host st.agent
      let bytes ← agent.file
      if written < bytes.length then
        return { agent := { st.agent with file := some (bytes.take written) }, running := false, torn := true }
      else none
    else none
  | .start =>
    if st.running then none
    else st.agent.restart.map fun agent => { st with agent := agent, running := true }

def ProcessStep (host : Host) (st : MimicryProcess F) (op : ProcessOp F) (st' : MimicryProcess F) : Prop :=
  op.run host st = some st'

/-- Nothing runs, and there is no file yet. -/
def MimicryProcess.initial : MimicryProcess F := ⟨.fresh, false, false⟩

/-- Texts without surrogates. -/
def ProcessOp.Encodable : ProcessOp F → Prop
  | .call op | .stopInside op _ => op.Encodable
  | _ => True

variable {host : Host} {agent agent' : MimicryAgent F} {st st' : MimicryProcess F}

/-- What a call saves that gets there. -/
theorem exists_saved {op : MimicryOp F} (hwrites : op.Writes agent) (h : op.run host agent = some agent') :
    ∃ patterns, MimicryAgent.save host patterns = some agent' := by
  have hchange : ∀ {id f}, (agent.patterns.get? id).isSome → agent.change host id f = some agent' →
      ∃ patterns, MimicryAgent.save host patterns = some agent' := by
    intro id f hsome hsaved
    rw [MimicryAgent.change, if_neg (by simpa [Option.isSome_iff_ne_none] using hsome)] at hsaved
    exact ⟨_, hsaved⟩
  cases op with
  | observeAttack now attack =>
    simp only [MimicryOp.run, MimicryAgent.observeAttack, Option.bind_eq_bind, Option.bind_eq_some_iff] at h
    obtain ⟨patternId, -, hsaved⟩ := h
    split at hsaved <;> exact ⟨_, hsaved⟩
  | confirmDetection now patternId => exact hchange hwrites h
  | reportFalsePositive patternId => exact hchange hwrites h
  | promotePattern patternId => exact hchange hwrites h
  | cleanupStalePatterns now =>
    have hstale : (agent.patterns.items.any fun kv => kv.2.isStale now) = true := hwrites
    simp only [MimicryOp.run, MimicryAgent.cleanupStalePatterns] at h
    rw [if_pos hstale] at h
    exact ⟨_, h⟩
  | restart => exact hwrites.elim

/-- A start finds what the last call has left, or the file is cut off and nothing runs any more. -/
structure Consistent (st : MimicryProcess F) : Prop where
  encodable : ∀ id p, st.agent.patterns.get? id = some p → p.patternId = id ∧ p.Encodable
  load : MimicryAgent.load st.agent.file = if st.torn then none else some st.agent.patterns
  stopped : st.torn = true → st.running = false

omit [PythonFloat F] in
theorem Consistent.remembered (h : Consistent st) (htorn : st.torn = false) : Remembered st.agent := by
  refine ⟨h.encodable, ?_⟩
  rw [h.load, htorn]
  rfl

omit [PythonFloat F] in
theorem Consistent.torn_eq_false (h : Consistent st) (hrunning : st.running = true) : st.torn = false := by
  by_contra htorn
  rw [h.stopped (by simpa using htorn)] at hrunning
  cases hrunning

/-- What a stop inside of a call leaves behind is not read. -/
theorem load_take {op : MimicryOp F} {bytes : List Nat} {written : Nat} (h : Remembered agent) (hop : op.Encodable)
    (hwrites : op.Writes agent) (hstep : op.run host agent = some agent') (hbytes : agent'.file = some bytes)
    (hwritten : written < bytes.length) : MimicryAgent.load (F := F) (some (bytes.take written)) = none := by
  obtain ⟨hnext, -⟩ := step_spec h hop hstep
  obtain ⟨patterns, hsaved⟩ := exists_saved hwrites hstep
  obtain ⟨saved, htext, rfl⟩ := Option.map_eq_some_iff.1 hsaved
  obtain rfl := Option.some.inj hbytes
  exact RecordFormat.readTable_take (storable_of_encodable hnext.encodable) htext hwritten

theorem Consistent.run {op : ProcessOp F} (h : Consistent st) (hop : op.Encodable) (hrun : op.run host st = some st') :
    Consistent st' := by
  cases op with
  | call op =>
    simp only [ProcessOp.run, Option.ite_none_right_eq_some, Option.map_eq_some_iff] at hrun
    obtain ⟨hrunning, agent, hstep, rfl⟩ := hrun
    -- a process that runs has a whole file
    have hwhole := h.torn_eq_false hrunning
    obtain ⟨hnext, -⟩ := step_spec (h.remembered hwhole) hop hstep
    refine ⟨hnext.encodable, ?_, h.stopped⟩
    simp only [hwhole]
    exact hnext.load
  | stop =>
    simp only [ProcessOp.run, Option.ite_none_right_eq_some, Option.some.injEq] at hrun
    obtain ⟨-, rfl⟩ := hrun
    exact ⟨h.encodable, h.load, fun _ => rfl⟩
  | stopInside op written =>
    simp only [ProcessOp.run, Option.ite_none_right_eq_some, Option.bind_eq_bind, Option.bind_eq_some_iff,
      Option.pure_def, Option.some.injEq] at hrun
    obtain ⟨⟨hrunning, hwrites⟩, agent, hstep, bytes, hbytes, hwritten, rfl⟩ := hrun
    -- a table that was cut off does not load
    have hremembered := h.remembered (h.torn_eq_false hrunning)
    exact ⟨h.encodable, load_take hremembered hop hwrites hstep hbytes hwritten, fun _ => rfl⟩
  | start =>
    simp only [ProcessOp.run, Option.ite_none_left_eq_some, Option.map_eq_some_iff, MimicryAgent.restart] at hrun
    obtain ⟨-, -, ⟨patterns, hload, rfl⟩, rfl⟩ := hrun
    have hsame := h.load
    rw [hload] at hsame
    cases htorn : st.torn with
    | true => simp [htorn] at hsame
    | false =>
      -- what is loaded is what there was
      rw [htorn, if_neg Bool.false_ne_true, Option.some.injEq] at hsame
      obtain rfl := hsame
      exact ⟨h.encodable, by simpa using hload, nofun⟩

/-- Nothing can be done any more once a write was cut off. -/
theorem Consistent.stuck (h : Consistent st) (htorn : st.torn = true) (op : ProcessOp F) : op.run host st = none := by
  have hstopped := h.stopped htorn
  have hload := h.load
  rw [htorn, if_pos rfl] at hload
  cases op with
  | call op => simp [ProcessOp.run, hstopped]
  | stop => simp [ProcessOp.run, hstopped]
  | stopInside op written => simp [ProcessOp.run, hstopped]
  | start => simp [ProcessOp.run, MimicryAgent.restart, hload]

omit [PythonFloat F] in
theorem consistent_initial : Consistent (MimicryProcess.initial (F := F)) :=
  ⟨remembered_fresh.encodable, remembered_fresh.load, fun _ => rfl⟩

variable {tr : List (ProcessOp F × MimicryProcess F)}

/-- In every run of calls that return, stops between and inside of calls, and starts, the file holds what the last call
that returned has left; once a write was cut off, it is not read at all, and no start returns any more. -/
theorem crash_consistent (hrun : Exec (ProcessStep host) (MimicryProcess.initial (F := F)) tr)
    (hops : AllSteps (fun _ op => op.Encodable) .initial tr) :
    AllStates (fun st =>
      MimicryAgent.load st.agent.file = (if st.torn then none else some st.agent.patterns) ∧
        (st.torn = true → ∀ op, ProcessOp.run host st op = none)) .initial tr := by
  have hconsistent := hrun.allStates consistent_initial hops fun _ _ _ h hop hstep => h.run hop hstep
  exact hconsistent.imp fun st h => ⟨h.load, fun htorn op => h.stuck htorn op⟩

/-- The six hits, a stop and a start between them, and a stop in the middle of a seventh. -/
def crash : List (ProcessOp Rat) :=
  .start :: sixHits.map .call ++
    [.stop, .start, .stopInside (.confirmDetection 1700000120 (codePoints "0fdfc0b70ee4e605")) 300]

theorem crash_consistent_torn : ∃ tr : List (ProcessOp Rat × MimicryProcess Rat), tr.map Prod.fst = crash ∧
    (final .initial tr).torn = true ∧
      AllStates (fun st =>
        MimicryAgent.load st.agent.file = (if st.torn then none else some st.agent.patterns) ∧
          (st.torn = true → ∀ op, ProcessOp.run macroHost st op = none)) .initial tr := by
  have htorn : (crash.foldlM (fun st op => ProcessOp.run macroHost st op) .initial).any (·.torn) = true := by
    decide +kernel
  obtain ⟨st, hst, htorn⟩ := (Option.any_eq_true _ _).1 htorn
  obtain ⟨tr, hops, hrun, hfinal⟩ := exists_exec_of_foldlM (fun _ _ _ h => (h : ProcessStep macroHost _ _ _)) hst
  refine ⟨tr, hops, by rw [hfinal, htorn], crash_consistent hrun (allSteps_of_labels fun op hop => ?_)⟩
  rw [hops, crash] at hop
  rcases List.mem_cons.1 hop with rfl | hop
  · trivial
  · rcases List.mem_append.1 hop with hop | hop
    · obtain ⟨call, hcall, rfl⟩ := List.mem_map.1 hop
      exact encodable_sixHits call hcall
    · simp only [List.mem_cons, List.not_mem_nil, or_false] at hop
      rcases hop with rfl | rfl | rfl <;> trivial

end OperatingOrganism.Adaptive.Mimicry

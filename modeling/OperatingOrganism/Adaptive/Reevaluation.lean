import OperatingOrganism.Adaptive.MutationEngine
import OperatingOrganism.Library.Execution

/-!
# Evaluation between mutations

A mutation resets the score of an entry for its next evaluation, but not the time of the last one. So an entry that
has not been evaluated since still counts as evaluated, with the score zero: it is mutated again, and after three
mutations eliminated. Verdicts rest on an evaluation since the last mutation if and only if the entries that were
mutated have been evaluated before the next round of mutation or elimination (`freshVerdicts_iff`).
-/

set_option autoImplicit false

namespace OperatingOrganism.Adaptive

open OperatingOrganism.Execution

variable {F : Type} [PythonFloat F]

/-- The operations of the engine. The mimicry agent changes between the absorptions as it likes. -/
inductive EngineOp (F : Type) where
  | absorbReadyPatterns (mimicry : MimicryAgent) (addedAt : CodePoints → F)
  | evaluate (patternId : CodePoints) (detectionRate falsePosRate speedScore now : F)
  | mutateWeakPatterns (strategy : CodePoints → MutationStrategy)
  | fusePatterns (idA idB newName : CodePoints) (now : F)
  | eliminateDefective

def EngineOp.run (digest : CodePoints → CodePoints) (genome : Genome F) : EngineOp F → Genome F
  | .absorbReadyPatterns mimicry addedAt => (Engine.absorbReadyPatterns addedAt ⟨mimicry, genome⟩).1.genome
  | .evaluate patternId detectionRate falsePosRate speedScore now =>
    Adaptive.evaluate genome patternId detectionRate falsePosRate speedScore now
  | .mutateWeakPatterns strategy => Adaptive.mutateWeakPatterns genome strategy
  | .fusePatterns idA idB newName now => Adaptive.fusePatterns digest genome idA idB newName now
  | .eliminateDefective => Adaptive.eliminateDefective genome

/-! ### The history of an entry -/

/-- What happens to an entry. -/
inductive EntryEvent (F : Type) where
  | evaluated (fitness : F)
  | mutated
  deriving DecidableEq

/-- The events of every entry since it was made, the latest first. -/
abbrev EventLog (F : Type) := CodePoints → List (EntryEvent F)

/-- The events that an operation adds: an evaluation of an entry of the genome, and a mutation where the count of
the mutations grows. A hybrid begins anew. -/
def EngineOp.note (digest : CodePoints → CodePoints) (genome : Genome F) (log : EventLog F) (op : EngineOp F) :
    EventLog F :=
  match op with
  | .evaluate patternId detectionRate falsePosRate speedScore _ => fun id =>
    if id = patternId ∧ (genome.get? id).isSome then
      .evaluated (computeFitness detectionRate falsePosRate speedScore) :: log id
    else log id
  | .mutateWeakPatterns strategy => fun id =>
    match genome.get? id, (Adaptive.mutateWeakPatterns genome strategy).get? id with
    | some before, some after => if before.mutationCount < after.mutationCount then .mutated :: log id else log id
    | _, _ => log id
  | .fusePatterns idA idB _ _ => fun id =>
    if id = fusedId digest idA idB ∧ (genome.get? idA).isSome ∧ (genome.get? idB).isSome then [] else log id
  | _ => log

/-- The genome with the history of its entries. -/
abbrev GenomeRecord (F : Type) := Genome F × EventLog F

def EngineOp.recorded (digest : CodePoints → CodePoints) (st : GenomeRecord F) (op : EngineOp F) : GenomeRecord F :=
  (op.run digest st.1, op.note digest st.1 st.2)

def EngineStep (digest : CodePoints → CodePoints) (st : GenomeRecord F) (op : EngineOp F) (st' : GenomeRecord F) :
    Prop := st' = op.recorded digest st

/-- An empty genome. -/
def emptyRecord : GenomeRecord F := (.empty, fun _ => [])

/-- An entry that is eliminated was evaluated after its last mutation, below the floor; and an entry that is mutated
was evaluated after its last mutation. -/
def FreshVerdicts (digest : CodePoints → CodePoints) (st : GenomeRecord F) (op : EngineOp F) : Prop :=
  ∀ id before after, st.1.get? id = some before → (op.run digest st.1).get? id = some after →
    match op with
    | .eliminateDefective => before.isActive = true → after.isActive = false →
      ∃ fitness, (st.2 id).head? = some (.evaluated fitness) ∧ PythonFloat.lt fitness (fitnessFloor F) = true
    | .mutateWeakPatterns _ => before.mutationCount < after.mutationCount →
      ∃ fitness, (st.2 id).head? = some (.evaluated fitness)
    | _ => True

/-- The last event of the entry is a mutation. -/
def AwaitsEvaluation (log : EventLog F) (id : CodePoints) : Prop := (log id).head? = some .mutated

/-- No active entry awaits its evaluation when entries are mutated; nor does an active one with three mutations when
entries are eliminated. -/
def EvaluatedInTime (st : GenomeRecord F) (op : EngineOp F) : Prop :=
  match op with
  | .mutateWeakPatterns _ => ∀ id e, st.1.get? id = some e → e.isActive = true → ¬ AwaitsEvaluation st.2 id
  | .eliminateDefective => ∀ id e, st.1.get? id = some e → e.isActive = true → 3 ≤ e.mutationCount →
    ¬ AwaitsEvaluation st.2 id
  | _ => True

/-! ### What the history says about an entry -/

/-- An entry without events has not been evaluated; after an evaluation it has its score; after a mutation it counts
as evaluated, with the score zero. -/
def Tracked (e : GenomeEntry F) : Option (EntryEvent F) → Prop
  | none => PythonFloat.lt (PythonFloat.lit 0 1) e.lastEvaluated = false
  | some (.evaluated fitness) => e.fitnessScore = fitness
  | some .mutated =>
    e.fitnessScore = PythonFloat.lit 0 1 ∧ PythonFloat.lt (PythonFloat.lit 0 1) e.lastEvaluated = true

/-- The entries are tracked, and ids that are not in the genome have no events. -/
structure LogKept (st : GenomeRecord F) : Prop where
  tracked : ∀ id e, st.1.get? id = some e → Tracked e (st.2 id).head?
  fresh : ∀ id, st.1.get? id = none → st.2 id = []

/-- Only the score and the time of the evaluation matter. -/
theorem Tracked.congr {e e' : GenomeEntry F} {event : Option (EntryEvent F)} (h : Tracked e event)
    (hfitness : e'.fitnessScore = e.fitnessScore) (hevaluated : e'.lastEvaluated = e.lastEvaluated) :
    Tracked e' event := by
  rcases event with _ | _ | _
  · exact (congrArg _ hevaluated).trans h
  · exact hfitness.trans h
  · exact ⟨hfitness.trans h.1, (congrArg _ hevaluated).trans h.2⟩

section

variable {genome : Genome F} {log : EventLog F}

/-- An absorption keeps the entries and adds some that have not been evaluated. -/
theorem get?_absorbAll (addedAt : CodePoints → F) (ps : List BehaviorPattern) (engine : Engine F) (id : CodePoints) :
    (engine.absorbAll addedAt ps).1.genome.get? id = engine.genome.get? id ∨
      engine.genome.get? id = none ∧ ∃ e, (engine.absorbAll addedAt ps).1.genome.get? id = some e ∧
        Tracked e none := by
  induction ps generalizing engine with
  | nil => exact .inl rfl
  | cons p ps ih =>
    have hone : (engine.absorb addedAt p).1.genome.get? id = engine.genome.get? id ∨
        engine.genome.get? id = none ∧ ∃ e, (engine.absorb addedAt p).1.genome.get? id = some e ∧
          Tracked e none := by
      unfold Engine.absorb
      split
      · next hnew =>
        dsimp only
        rw [InsertionDict.get?_set]
        split
        · next hid => exact .inr ⟨hid ▸ Option.isNone_iff_eq_none.1 hnew, _, rfl, PythonFloat.lt_zero_zero⟩
        · exact .inl rfl
      · exact .inl rfl
    rw [Engine.absorbAll]
    rcases ih (engine.absorb addedAt p).1 with hsame | ⟨hnone, hadded⟩
    · dsimp only
      rw [hsame]
      exact hone
    · rcases hone with hsame | ⟨-, e, he, -⟩
      · exact .inr ⟨hsame ▸ hnone, hadded⟩
      · rw [he] at hnone
        cases hnone

theorem LogKept.absorbReadyPatterns (h : LogKept (genome, log)) (mimicry : MimicryAgent) (addedAt : CodePoints → F) :
    LogKept ((Engine.absorbReadyPatterns addedAt ⟨mimicry, genome⟩).1.genome, log) := by
  have hget := get?_absorbAll addedAt (mimicry.getPatternsReadyForPromotion F) ⟨mimicry, genome⟩
  constructor
  · intro id e he
    rcases hget id with hsame | ⟨hnone, e', he', htracked⟩
    · exact h.tracked id e (hsame ▸ he)
    · obtain rfl := Option.some.inj (he'.symm.trans he)
      rw [h.fresh id hnone]
      exact htracked
  · intro id hid
    rcases hget id with hsame | ⟨-, e, he, -⟩
    · exact h.fresh id (hsame ▸ hid)
    · cases he.symm.trans hid

theorem LogKept.evaluate (h : LogKept (genome, log)) (digest : CodePoints → CodePoints) (patternId : CodePoints)
    (detectionRate falsePosRate speedScore now : F) :
    LogKept (EngineOp.recorded digest (genome, log)
      (.evaluate patternId detectionRate falsePosRate speedScore now)) := by
  unfold EngineOp.recorded EngineOp.run EngineOp.note Adaptive.evaluate
  dsimp only
  by_cases hknown : (genome.get? patternId).isSome
  · rw [if_pos hknown]
    constructor
    · intro id e he
      dsimp only at he ⊢
      rw [InsertionDict.get?_adjust] at he
      split at he
      · next hid =>
        subst hid
        obtain ⟨old, hold, rfl⟩ := Option.map_eq_some_iff.1 he
        rw [if_pos ⟨rfl, hknown⟩]
        rfl
      · next hid =>
        rw [if_neg fun h => hid h.1]
        exact h.tracked id e he
    · intro id hid
      dsimp only at hid ⊢
      rw [InsertionDict.get?_adjust] at hid
      split at hid
      · next hsame =>
        subst hsame
        rw [Option.map_eq_none_iff.1 hid] at hknown
        cases hknown
      · next hother =>
        rw [if_neg fun h => hother h.1]
        exact h.fresh id hid
  · rw [if_neg hknown]
    constructor
    · intro id e he
      dsimp only at he ⊢
      rw [if_neg]
      · exact h.tracked id e he
      · rintro ⟨rfl, hsome⟩
        exact hknown hsome
    · intro id hid
      dsimp only at hid ⊢
      rw [if_neg]
      · exact h.fresh id hid
      · rintro ⟨rfl, hsome⟩
        exact hknown hsome

omit [PythonFloat F] in
/-- Entries that are switched off keep their scores. -/
theorem get?_deactivate {idA idB id : CodePoints} {e : GenomeEntry F}
    (he : ((genome.adjust idA fun e => { e with isActive := false }).adjust idB fun e =>
      { e with isActive := false }).get? id = some e) :
    ∃ old, genome.get? id = some old ∧ e.fitnessScore = old.fitnessScore ∧ e.lastEvaluated = old.lastEvaluated := by
  rw [InsertionDict.get?_adjust, InsertionDict.get?_adjust] at he
  cases hold : genome.get? id with
  | none => simp [hold] at he
  | some old =>
    rw [hold] at he
    refine ⟨old, rfl, ?_⟩
    split at he <;> split at he
    all_goals
      obtain rfl := Option.some.inj he
      exact ⟨rfl, rfl⟩

/-- The count of the mutations grows exactly for the weak entries. -/
theorem mutationCount_lt_iff {e : GenomeEntry F} {strategy : MutationStrategy} :
    e.mutationCount < (if e.isWeak (fitnessThreshold F) then e.mutate strategy else e).mutationCount ↔
      e.isWeak (fitnessThreshold F) = true := by
  by_cases hweak : e.isWeak (fitnessThreshold F) = true
  · rw [if_pos hweak]
    exact iff_of_true (Nat.lt_succ_self _) hweak
  · rw [if_neg hweak]
    exact iff_of_false (Nat.lt_irrefl _) hweak

theorem LogKept.mutateWeakPatterns (h : LogKept (genome, log)) (digest : CodePoints → CodePoints)
    (strategy : CodePoints → MutationStrategy) :
    LogKept (EngineOp.recorded digest (genome, log) (.mutateWeakPatterns strategy)) := by
  unfold EngineOp.recorded EngineOp.run EngineOp.note Adaptive.mutateWeakPatterns
  dsimp only
  constructor
  · intro id e he
    dsimp only at he ⊢
    rw [InsertionDict.get?_mapValues] at he ⊢
    obtain ⟨old, hold, rfl⟩ := Option.map_eq_some_iff.1 he
    rw [hold]
    dsimp only [Option.map_some]
    simp only [mutationCount_lt_iff]
    split
    · next hweak =>
      have hevaluated : PythonFloat.lt (PythonFloat.lit 0 1) old.lastEvaluated = true := by
        simp only [GenomeEntry.isWeak, Bool.and_eq_true] at hweak
        exact hweak.2
      exact ⟨rfl, hevaluated⟩
    · exact h.tracked id old hold
  · intro id hid
    dsimp only at hid ⊢
    rw [InsertionDict.get?_mapValues, Option.map_eq_none_iff] at hid
    rw [hid]
    exact h.fresh id hid

theorem LogKept.eliminateDefective (h : LogKept (genome, log)) : LogKept (Adaptive.eliminateDefective genome, log) := by
  unfold Adaptive.eliminateDefective
  constructor
  · intro id e he
    dsimp only at he ⊢
    rw [InsertionDict.get?_mapValues] at he
    obtain ⟨old, hold, rfl⟩ := Option.map_eq_some_iff.1 he
    refine (h.tracked id old hold).congr ?_ ?_
    · split <;> rfl
    · split <;> rfl
  · intro id hid
    dsimp only at hid
    rw [InsertionDict.get?_mapValues, Option.map_eq_none_iff] at hid
    exact h.fresh id hid

theorem LogKept.fusePatterns (h : LogKept (genome, log)) (digest : CodePoints → CodePoints)
    (idA idB newName : CodePoints) (now : F) :
    LogKept (EngineOp.recorded digest (genome, log) (.fusePatterns idA idB newName now)) := by
  unfold EngineOp.recorded EngineOp.run EngineOp.note Adaptive.fusePatterns
  dsimp only
  cases hA : genome.get? idA with
  | none => simpa [hA] using h
  | some a =>
    cases hB : genome.get? idB with
    | none => simpa [hA, hB] using h
    | some b =>
      dsimp only [Option.isSome_some]
      constructor
      · intro id e he
        dsimp only at he ⊢
        rw [InsertionDict.get?_set] at he
        split at he
        · next hid =>
          -- the hybrid has not been evaluated
          obtain rfl := Option.some.inj he
          rw [if_pos ⟨hid, rfl, rfl⟩]
          exact PythonFloat.lt_zero_zero
        · next hid =>
          rw [if_neg fun h => hid h.1]
          obtain ⟨old, hold, hfitness, hevaluated⟩ := get?_deactivate he
          exact (h.tracked id old hold).congr hfitness hevaluated
      · intro id hid
        dsimp only at hid ⊢
        rw [InsertionDict.get?_set] at hid
        split at hid
        · cases hid
        · next hother =>
          rw [if_neg fun h => hother h.1]
          refine h.fresh id ?_
          rw [InsertionDict.get?_adjust_eq_none_iff, InsertionDict.get?_adjust_eq_none_iff] at hid
          exact hid

end

/-- Every operation keeps the history true. -/
theorem logKept_recorded (digest : CodePoints → CodePoints) {st : GenomeRecord F} (h : LogKept st) (op : EngineOp F) :
    LogKept (op.recorded digest st) := by
  obtain ⟨genome, log⟩ := st
  cases op with
  | absorbReadyPatterns mimicry addedAt => exact h.absorbReadyPatterns mimicry addedAt
  | evaluate patternId detectionRate falsePosRate speedScore now =>
    exact h.evaluate digest patternId detectionRate falsePosRate speedScore now
  | mutateWeakPatterns strategy => exact h.mutateWeakPatterns digest strategy
  | fusePatterns idA idB newName now => exact h.fusePatterns digest idA idB newName now
  | eliminateDefective => exact h.eliminateDefective

theorem logKept_emptyRecord : LogKept (emptyRecord (F := F)) := ⟨fun _ _ he => (nomatch he), fun _ _ => rfl⟩

/-! ### Verdicts -/

section

variable {genome : Genome F} {log : EventLog F} {id : CodePoints} {e : GenomeEntry F}

/-- An entry that awaits its evaluation and is active is below every positive threshold. -/
theorem LogKept.isWeak_of_awaits (h : LogKept (genome, log)) (he : genome.get? id = some e)
    (hactive : e.isActive = true) (hawaits : AwaitsEvaluation log id) {threshold : F}
    (hpos : PythonFloat.lt (PythonFloat.lit 0 1) threshold = true) : e.isWeak threshold = true := by
  have htracked := h.tracked id e he
  dsimp only at htracked
  rw [hawaits] at htracked
  rw [GenomeEntry.isWeak, hactive, htracked.1, hpos, htracked.2]
  rfl

/-- A weak entry that does not await its evaluation was evaluated last, with the score that it has. -/
theorem LogKept.evaluated_of_isWeak (h : LogKept (genome, log)) (he : genome.get? id = some e) {threshold : F}
    (hweak : e.isWeak threshold = true) (hawaits : ¬ AwaitsEvaluation log id) :
    ∃ fitness, (log id).head? = some (.evaluated fitness) ∧ PythonFloat.lt fitness threshold = true := by
  simp only [GenomeEntry.isWeak, Bool.and_eq_true] at hweak
  have htracked := h.tracked id e he
  dsimp only at htracked
  rcases hhead : (log id).head? with _ | fitness | _
  · rw [hhead] at htracked
    have hnever : PythonFloat.lt (PythonFloat.lit 0 1) e.lastEvaluated = false := htracked
    rw [hweak.2] at hnever
    cases hnever
  · rw [hhead] at htracked
    exact ⟨fitness, rfl, htracked ▸ hweak.1.2⟩
  · exact absurd hhead hawaits

/-- Weak entries have fresh verdicts exactly when none awaits its evaluation. -/
theorem LogKept.freshVerdicts_step_iff (h : LogKept (genome, log)) (digest : CodePoints → CodePoints)
    (op : EngineOp F) : FreshVerdicts digest (genome, log) op ↔ EvaluatedInTime (genome, log) op := by
  cases op with
  | mutateWeakPatterns strategy =>
    simp only [FreshVerdicts, EvaluatedInTime, EngineOp.run, Adaptive.mutateWeakPatterns]
    constructor
    · intro hfresh id e he hactive hawaits
      have hweak := h.isWeak_of_awaits he hactive hawaits PythonFloat.lt_zero_fourTenths
      have hafter := InsertionDict.get?_mapValues (fun id (e : GenomeEntry F) =>
        if e.isWeak (fitnessThreshold F) then e.mutate (strategy id) else e) genome id
      rw [he] at hafter
      obtain ⟨fitness, hhead⟩ := hfresh id e _ he hafter (mutationCount_lt_iff.2 hweak)
      cases hhead.symm.trans hawaits
    · intro htime id before after hbefore hafter hgrows
      rw [InsertionDict.get?_mapValues, hbefore] at hafter
      obtain rfl := Option.some.inj hafter
      have hweak := mutationCount_lt_iff.1 hgrows
      have hactive : before.isActive = true := by
        simp only [GenomeEntry.isWeak, Bool.and_eq_true] at hweak
        exact hweak.1.1
      obtain ⟨fitness, hhead, -⟩ := h.evaluated_of_isWeak hbefore hweak (htime id before hbefore hactive)
      exact ⟨fitness, hhead⟩
  | eliminateDefective =>
    simp only [FreshVerdicts, EvaluatedInTime, EngineOp.run, Adaptive.eliminateDefective]
    constructor
    · intro hfresh id e he hactive hcount hawaits
      have hweak := h.isWeak_of_awaits he hactive hawaits PythonFloat.lt_zero_tenth
      have hdefective : e.isDefective (fitnessFloor F) = true := by
        rw [GenomeEntry.isDefective, fitnessFloor, hweak, decide_eq_true hcount]
        rfl
      have hafter := InsertionDict.get?_mapValues (fun _ (e : GenomeEntry F) =>
        if e.isDefective (fitnessFloor F) then { e with isActive := false } else e) genome id
      rw [he, Option.map_some, if_pos hdefective] at hafter
      obtain ⟨fitness, hhead, -⟩ := hfresh id e _ he hafter hactive rfl
      cases hhead.symm.trans hawaits
    · intro htime id before after hbefore hafter hactive hinactive
      rw [InsertionDict.get?_mapValues, hbefore] at hafter
      obtain rfl := Option.some.inj hafter
      have hdefective : before.isDefective (fitnessFloor F) = true := by
        by_contra hnot
        dsimp only at hinactive
        rw [if_neg hnot] at hinactive
        cases hactive.symm.trans hinactive
      simp only [GenomeEntry.isDefective, Bool.and_eq_true, decide_eq_true_eq] at hdefective
      exact h.evaluated_of_isWeak hbefore hdefective.1 (htime id before hbefore hactive hdefective.2)
  | _ => exact iff_of_true (fun _ _ _ _ _ => trivial) trivial

end

/-- In every run of the engine from an empty genome, eliminations and mutations rest on an evaluation since the last
mutation if and only if the entries that await one get it before the next round. -/
theorem freshVerdicts_iff {digest : CodePoints → CodePoints} {tr : List (EngineOp F × GenomeRecord F)}
    (h : Exec (EngineStep digest) emptyRecord tr) :
    AllSteps (FreshVerdicts digest) emptyRecord tr ↔ AllSteps EvaluatedInTime emptyRecord tr := by
  refine h.allSteps_congr logKept_emptyRecord ?_ fun st op hst => hst.freshVerdicts_step_iff digest op
  rintro st op _ hst - rfl
  exact logKept_recorded digest hst op

/-! ### One pattern -/

/-- The run of a list of operations. -/
def engineRun (digest : CodePoints → CodePoints) (ops : List (EngineOp F)) : List (EngineOp F × GenomeRecord F) :=
  driven (EngineOp.recorded digest) emptyRecord ops

theorem exec_engineRun (digest : CodePoints → CodePoints) (ops : List (EngineOp F)) :
    Exec (EngineStep digest) emptyRecord (engineRun digest ops) :=
  @exec_driven _ _ (EngineStep digest) (EngineOp.recorded digest) (fun _ _ => rfl) _ ops

/-- A ready pattern is absorbed, evaluated as useless, and mutated. -/
theorem evaluated_then_mutated : AllSteps (FreshVerdicts (F := Rat) id) emptyRecord
    (engineRun id [.absorbReadyPatterns readyAgent fun _ => 1, .evaluate [112] 0 0 0 1,
      .mutateWeakPatterns fun _ => .broadenScope]) := by
  refine (freshVerdicts_iff (exec_engineRun _ _)).2 ⟨trivial, trivial, ?_, trivial⟩
  intro id e _ _ hawaits
  have hlast : ∀ known : Prop, [Decidable known] →
      (if known then [EntryEvent.evaluated (computeFitness (0 : Rat) 0 0)] else []).head? ≠ some .mutated := by
    intro known _
    split <;> simp
  exact hlast _ hawaits

/-- It is mutated twice after one evaluation. -/
theorem exists_stale_mutation : ∃ tr, Exec (EngineStep (F := Rat) id) emptyRecord tr ∧
    ¬ AllSteps (FreshVerdicts id) emptyRecord tr := by
  refine ⟨engineRun id [.absorbReadyPatterns readyAgent fun _ => 1, .evaluate [112] 0 0 0 1,
    .mutateWeakPatterns fun _ => .broadenScope, .mutateWeakPatterns fun _ => .broadenScope], exec_engineRun _ _, ?_⟩
  rintro ⟨-, -, -, hfresh, -⟩
  have hkept := logKept_recorded id (logKept_recorded id (logKept_recorded id (logKept_emptyRecord (F := Rat))
    (.absorbReadyPatterns readyAgent fun _ => 1)) (.evaluate [112] 0 0 0 1))
    (.mutateWeakPatterns fun _ => .broadenScope)
  obtain ⟨st, hst, hintime⟩ : ∃ st, st = EngineOp.recorded id (EngineOp.recorded id (EngineOp.recorded id
      (emptyRecord (F := Rat)) (.absorbReadyPatterns readyAgent fun _ => 1)) (.evaluate [112] 0 0 0 1))
      (.mutateWeakPatterns fun _ => .broadenScope) ∧ EvaluatedInTime st (.mutateWeakPatterns fun _ => .broadenScope) :=
    ⟨_, rfl, (hkept.freshVerdicts_step_iff id (.mutateWeakPatterns fun _ => .broadenScope)).1 hfresh⟩
  have hactive : (st.1.get? [112]).any GenomeEntry.isActive = true := by
    rw [hst]
    decide +kernel
  have hawaits : (st.2 [112]).head? = some .mutated := by
    rw [hst]
    decide +kernel
  rcases hget : st.1.get? [112] with _ | e
  · rw [hget] at hactive
    cases hactive
  · rw [hget] at hactive
    exact hintime [112] e hget hactive hawaits

end OperatingOrganism.Adaptive

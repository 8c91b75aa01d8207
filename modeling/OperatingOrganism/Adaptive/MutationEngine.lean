import OperatingOrganism.Adaptive.MimicryAgent

/-!
# The mutation engine

The genome of the swarm: the patterns that were absorbed from the mimicry agent, scored, mutated, fused and
eliminated. `digest` stands for the sixteen characters of a hash that name a fused pattern; the clock and the random
choices are arguments. Of the two files that the operations save, the writes of an absorption are listed in their
order.
-/

set_option autoImplicit false

namespace OperatingOrganism.Adaptive

variable {F : Type} [PythonFloat F]

/-- `GenomeEntry` -/
structure GenomeEntry (F : Type) where
  patternId : CodePoints
  patternName : CodePoints
  threatDomain : Nat
  severity : Int
  behaviors : List JsonValue
  generation : Nat
  fitnessScore : F
  mutationCount : Nat
  addedAt : F
  lastEvaluated : F
  isActive : Bool

/-- `from_pattern` -/
def GenomeEntry.fromPattern (addedAt : F) (p : BehaviorPattern) : GenomeEntry F where
  patternId := p.patternId
  patternName := p.name
  threatDomain := p.threatDomain
  severity := p.severity
  behaviors := p.behaviors
  generation := 1
  fitnessScore := PythonFloat.lit 0 1
  mutationCount := 0
  addedAt := addedAt
  lastEvaluated := PythonFloat.lit 0 1
  isActive := true

/-- The entries under their ids. -/
abbrev Genome (F : Type) := InsertionDict CodePoints (GenomeEntry F)

/-! ### Absorption -/

/-- The agent and the genome that the engine holds. -/
structure Engine (F : Type) where
  mimicry : MimicryAgent
  genome : Genome F

/-- A file that is written: `patterns.json` or `genome.json`. -/
inductive Save (F : Type) where
  | patterns (agent : MimicryAgent)
  | genome (genome : Genome F)

/-- One round of the loop of `absorb_ready_patterns`. -/
def Engine.absorb (addedAt : CodePoints → F) (engine : Engine F) (p : BehaviorPattern) : Engine F × List (Save F) :=
  if (engine.genome.get? p.patternId).isNone then
    let promoted := engine.mimicry.promotePattern p.patternId
    (⟨promoted.1, engine.genome.set p.patternId (.fromPattern (addedAt p.patternId) p)⟩,
      if promoted.2 then [.patterns promoted.1] else [])
  else (engine, [])

/-- The loop, with the files that it writes and the number of patterns that it absorbs. -/
def Engine.absorbAll (addedAt : CodePoints → F) :
    Engine F → List BehaviorPattern → Engine F × List (Save F) × Nat
  | engine, [] => (engine, [], 0)
  | engine, p :: ps =>
    let count := if (engine.genome.get? p.patternId).isNone then 1 else 0
    let absorbed := engine.absorb addedAt p
    let rest := absorbed.1.absorbAll addedAt ps
    (rest.1, absorbed.2 ++ rest.2.1, count + rest.2.2)

/-- `absorb_ready_patterns` -/
def Engine.absorbReadyPatterns (addedAt : CodePoints → F) (engine : Engine F) : Engine F × List (Save F) × Nat :=
  let absorbed := engine.absorbAll addedAt (engine.mimicry.getPatternsReadyForPromotion F)
  (absorbed.1, absorbed.2.1 ++ (if absorbed.2.2 ≠ 0 then [.genome absorbed.1.genome] else []), absorbed.2.2)

/-! ### Evaluation and mutation -/

/-- `compute_fitness` -/
def computeFitness (detection falsePos speed : F) : F :=
  let score := PythonFloat.add
    (PythonFloat.sub (PythonFloat.mul detection (PythonFloat.lit 6 1)) (PythonFloat.mul falsePos (PythonFloat.lit 3 1)))
    (PythonFloat.mul speed (PythonFloat.lit 1 1))
  if PythonFloat.lt (PythonFloat.lit 0 1) score then score else PythonFloat.lit 0 1

/-- `evaluate`, at the time `now` -/
def evaluate (genome : Genome F) (patternId : CodePoints) (detectionRate falsePosRate speedScore now : F) : Genome F :=
  if (genome.get? patternId).isSome then
    genome.adjust patternId fun e =>
      { e with fitnessScore := computeFitness detectionRate falsePosRate speedScore, lastEvaluated := now }
  else genome

inductive MutationStrategy where
  | broadenScope | increaseSensitivity | addTemporalContext | combineTriggers
  deriving DecidableEq, Repr

def MutationStrategy.text : MutationStrategy → CodePoints
  | broadenScope => codePoints "broaden_scope"
  | increaseSensitivity => codePoints "increase_sensitivity"
  | addTemporalContext => codePoints "add_temporal_context"
  | combineTriggers => codePoints "combine_triggers"

/-- The behavior that a mutation adds. -/
def newBehavior (generation : Nat) (strategy : MutationStrategy) : JsonValue :=
  .object
    [(codePoints "type", .string (codePoints "mutation_relaxed")),
      (codePoints "generation", .int (generation + 1)),
      (codePoints "strategy", .string strategy.text)]

/-- An active entry below the threshold that has been evaluated. -/
def GenomeEntry.isWeak (e : GenomeEntry F) (threshold : F) : Bool :=
  e.isActive && PythonFloat.lt e.fitnessScore threshold && PythonFloat.lt (PythonFloat.lit 0 1) e.lastEvaluated

/-- A mutation; the score is reset for the next evaluation. -/
def GenomeEntry.mutate (e : GenomeEntry F) (strategy : MutationStrategy) : GenomeEntry F :=
  { e with
    behaviors := e.behaviors ++ [newBehavior e.generation strategy]
    generation := e.generation + 1
    mutationCount := e.mutationCount + 1
    fitnessScore := PythonFloat.lit 0 1 }

/-- The default of `fitness_threshold` -/
def fitnessThreshold (F : Type) [PythonFloat F] : F := PythonFloat.lit 4 1

/-- `mutate_weak_patterns`, with the strategy that is drawn for each entry -/
def mutateWeakPatterns (genome : Genome F) (strategy : CodePoints → MutationStrategy) : Genome F :=
  genome.mapValues fun id e => if e.isWeak (fitnessThreshold F) then e.mutate (strategy id) else e

/-- The hybrid of two entries. -/
def fused (fusedId newName : CodePoints) (a b : GenomeEntry F) (now : F) : GenomeEntry F where
  patternId := fusedId
  patternName := newName
  threatDomain := a.threatDomain ||| b.threatDomain
  severity := max a.severity b.severity
  behaviors := a.behaviors ++ b.behaviors
  generation := max a.generation b.generation + 1
  fitnessScore := PythonFloat.div (PythonFloat.add a.fitnessScore b.fitnessScore) (PythonFloat.lit 2 0)
  mutationCount := 0
  addedAt := now
  lastEvaluated := PythonFloat.lit 0 1
  isActive := true

/-- The id of a hybrid. -/
def fusedId (digest : CodePoints → CodePoints) (idA idB : CodePoints) : CodePoints :=
  digest (idA ++ codePoints "+" ++ idB)

/-- `fuse_patterns` -/
def fusePatterns (digest : CodePoints → CodePoints) (genome : Genome F) (idA idB newName : CodePoints) (now : F) :
    Genome F :=
  match genome.get? idA, genome.get? idB with
  | some a, some b =>
    ((genome.adjust idA fun e => { e with isActive := false }).adjust idB fun e => { e with isActive := false }).set
      (fusedId digest idA idB) (fused (fusedId digest idA idB) newName a b now)
  | _, _ => genome

/-- The default of `fitness_floor` -/
def fitnessFloor (F : Type) [PythonFloat F] : F := PythonFloat.lit 1 1

/-- A weak entry that three mutations have not helped. -/
def GenomeEntry.isDefective (e : GenomeEntry F) (floor : F) : Bool := e.isWeak floor && 3 ≤ e.mutationCount

/-- `eliminate_defective` -/
def eliminateDefective (genome : Genome F) : Genome F :=
  genome.mapValues fun _ e => if e.isDefective (fitnessFloor F) then { e with isActive := false } else e

end OperatingOrganism.Adaptive

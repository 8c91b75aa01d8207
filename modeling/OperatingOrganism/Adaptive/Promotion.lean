import OperatingOrganism.Adaptive.MutationEngine

/-!
# Crashes during a promotion

An absorption moves patterns from one store to the other: the mimicry agent saves each promotion at once, the engine
saves the genome at the end. After a crash in between, a pattern is validated in the one file and missing in the
other, and as it is validated it is never eligible again. An absorption survives a crash at every point if and only
if it has nothing to absorb and nothing was lost before (`survives_iff`).
-/

set_option autoImplicit false

namespace OperatingOrganism.Adaptive

variable {F : Type} [PythonFloat F]

/-! ### The files -/

/-- A file of JSON. A write that is cut short leaves a text that is no JSON. -/
inductive StoredFile (α : Type) where
  | absent
  | torn
  | whole (a : α)

/-- What a constructor reads, or `none` where it raises. -/
def StoredFile.load {α : Type} (initial : α) : StoredFile α → Option α
  | absent => some initial
  | torn => none
  | whole a => some a

/-- `patterns.json` and `genome.json` -/
structure Disk (F : Type) where
  patterns : StoredFile MimicryAgent
  genome : StoredFile (Genome F)

namespace Disk

/-- `_load_patterns` -/
def loadPatterns (disk : Disk F) : Option MimicryAgent := disk.patterns.load .empty

/-- `_load_genome` -/
def loadGenome (disk : Disk F) : Option (Genome F) := disk.genome.load .empty

/-- A file is written. -/
def write (disk : Disk F) : Save F → Disk F
  | .patterns agent => { disk with patterns := .whole agent }
  | .genome genome => { disk with genome := .whole genome }

/-- A write is cut short. -/
def tear (disk : Disk F) : Save F → Disk F
  | .patterns _ => { disk with patterns := .torn }
  | .genome _ => { disk with genome := .torn }

/-- What a crash can leave: the disk between two writes, or in the middle of one. -/
def crashes (disk : Disk F) : List (Save F) → List (Disk F)
  | [] => [disk]
  | save :: saves => disk :: disk.tear save :: (disk.write save).crashes saves

end Disk

/-- Every validated pattern is in the genome. -/
def NoneLost (agent : MimicryAgent) (genome : Genome F) : Prop :=
  ∀ id p, agent.patterns.get? id = some p → p.isValidated = true → (genome.get? id).isSome = true

/-- Both stores are reloaded, and every validated pattern is in the genome. -/
def Recovers (disk : Disk F) : Prop :=
  ∃ agent genome, disk.loadPatterns = some agent ∧ disk.loadGenome = some genome ∧ NoneLost agent genome

/-- An engine whose stores are as they were saved. -/
structure SavedEngine (F : Type) where
  engine : Engine F
  disk : Disk F
  patterns_saved : disk.loadPatterns = some engine.mimicry
  genome_saved : disk.loadGenome = some engine.genome

/-- Whatever the point of a crash during `absorb_ready_patterns`, the reloaded stores have lost nothing. -/
def Survives (addedAt : CodePoints → F) (saved : SavedEngine F) : Prop :=
  ∀ disk ∈ saved.disk.crashes (saved.engine.absorbReadyPatterns addedAt).2.1, Recovers disk

/-! ### The first promotion -/

section

variable {addedAt : CodePoints → F} {engine : Engine F} {ps : List BehaviorPattern}

/-- Patterns that are in the genome are passed over. -/
theorem absorbAll_of_known (h : ∀ p ∈ ps, (engine.genome.get? p.patternId).isSome = true) :
    engine.absorbAll addedAt ps = (engine, [], 0) := by
  induction ps with
  | nil => rfl
  | cons p ps ih =>
    have hknown : ¬ (engine.genome.get? p.patternId).isNone = true := by
      rw [Option.isNone_eq_false_iff.2 (h p List.mem_cons_self)]
      exact Bool.noConfusion
    have hrest := ih fun q hq => h q (List.mem_cons_of_mem p hq)
    simp only [Engine.absorbAll, Engine.absorb, if_neg hknown, hrest]
    rfl

/-- Where some pattern is not in the genome, the first file that is written holds the promotion of one that is not in
it. -/
theorem exists_first_save (addedAt : CodePoints → F)
    (hheld : ∀ p ∈ ps, (engine.mimicry.patterns.get? p.patternId).isSome = true)
    (hnew : ∃ p ∈ ps, ¬ (engine.genome.get? p.patternId).isSome = true) :
    ∃ p ∈ ps, ¬ (engine.genome.get? p.patternId).isSome = true ∧
      ∃ saves, (engine.absorbAll addedAt ps).2.1 = .patterns (engine.mimicry.validate p.patternId) :: saves := by
  induction ps with
  | nil =>
    obtain ⟨p, hp, -⟩ := hnew
    cases hp
  | cons p ps ih =>
    by_cases hknown : (engine.genome.get? p.patternId).isSome = true
    · -- the first pattern is passed over
      have hrest : ∃ q ∈ ps, ¬ (engine.genome.get? q.patternId).isSome = true := by
        obtain ⟨q, hq, hqnew⟩ := hnew
        rcases List.mem_cons.1 hq with rfl | hq
        · exact absurd hknown hqnew
        · exact ⟨q, hq, hqnew⟩
      obtain ⟨q, hq, hqnew, saves, hsaves⟩ := ih (fun q hq => hheld q (List.mem_cons_of_mem p hq)) hrest
      have hpassed : engine.absorb addedAt p = (engine, []) := by
        rw [Engine.absorb, Option.isNone_eq_false_iff.2 hknown]
        rfl
      refine ⟨q, List.mem_cons_of_mem p hq, hqnew, saves, ?_⟩
      simp only [Engine.absorbAll, hpassed, List.nil_append]
      exact hsaves
    · have hheldp : ¬ (engine.mimicry.patterns.get? p.patternId).isNone = true := by
        rw [Option.isNone_eq_false_iff.2 (hheld p List.mem_cons_self)]
        exact Bool.noConfusion
      have habsent : (engine.genome.get? p.patternId).isNone = true := by
        rw [Option.isNone_iff_eq_none]
        exact Option.not_isSome_iff_eq_none.1 hknown
      refine ⟨p, List.mem_cons_self, hknown, ?_⟩
      simp only [Engine.absorbAll, Engine.absorb, if_pos habsent, MimicryAgent.promotePattern, if_neg hheldp]
      exact ⟨_, rfl⟩

end

section

omit [PythonFloat F]

/-- A crash may come before the first write. -/
theorem mem_crashes_self (disk : Disk F) (saves : List (Save F)) : disk ∈ disk.crashes saves := by
  cases saves with
  | nil => exact List.mem_singleton_self disk
  | cons save saves => exact List.mem_cons_self

/-- Or after it. -/
theorem write_mem_crashes (disk : Disk F) (save : Save F) (saves : List (Save F)) :
    disk.write save ∈ disk.crashes (save :: saves) :=
  List.mem_cons_of_mem _ (List.mem_cons_of_mem _ (mem_crashes_self _ saves))

end

/-- An absorption that survives a crash before its first write had lost nothing. -/
theorem noneLost_of_survives {addedAt : CodePoints → F} {saved : SavedEngine F} (h : Survives addedAt saved) :
    NoneLost saved.engine.mimicry saved.engine.genome := by
  obtain ⟨agent, genome, hagent, hgenome, hnone⟩ := h saved.disk (mem_crashes_self _ _)
  obtain rfl := Option.some.inj (saved.patterns_saved.symm.trans hagent)
  obtain rfl := Option.some.inj (saved.genome_saved.symm.trans hgenome)
  exact hnone

/-- An absorption that survives a crash after its first write has nothing to absorb. -/
theorem known_of_survives {addedAt : CodePoints → F} {saved : SavedEngine F} (h : Survives addedAt saved) :
    ∀ p ∈ saved.engine.mimicry.getPatternsReadyForPromotion F,
      (saved.engine.genome.get? p.patternId).isSome = true := by
  by_contra hnew
  push Not at hnew
  have hheld : ∀ p ∈ saved.engine.mimicry.getPatternsReadyForPromotion F,
      (saved.engine.mimicry.patterns.get? p.patternId).isSome = true := by
    intro p hp
    rw [(MimicryAgent.get?_of_mem_ready hp).1]
    rfl
  obtain ⟨p, hp, hpnew, saves, hsaves⟩ := exists_first_save addedAt hheld hnew
  have hcrash : saved.disk.write (.patterns (saved.engine.mimicry.validate p.patternId)) ∈
      saved.disk.crashes (saved.engine.absorbReadyPatterns addedAt).2.1 := by
    rw [Engine.absorbReadyPatterns]
    dsimp only
    rw [hsaves]
    exact write_mem_crashes _ _ _
  -- the flag is saved, the genome is not
  obtain ⟨agent, genome, hagent, hgenome, hnone⟩ := h _ hcrash
  obtain rfl := Option.some.inj hagent
  obtain rfl := Option.some.inj (saved.genome_saved.symm.trans hgenome)
  refine hpnew (hnone p.patternId { p with isValidated := true } ?_ rfl)
  rw [MimicryAgent.validate, InsertionDict.get?_adjust, if_pos rfl, (MimicryAgent.get?_of_mem_ready hp).1]
  rfl

/-- An absorption survives every crash exactly when nothing was lost before and all eligible patterns are in the
genome already. -/
theorem survives_iff (addedAt : CodePoints → F) (saved : SavedEngine F) :
    Survives addedAt saved ↔
      NoneLost saved.engine.mimicry saved.engine.genome ∧
        ∀ p ∈ saved.engine.mimicry.getPatternsReadyForPromotion F,
          (saved.engine.genome.get? p.patternId).isSome = true := by
  constructor
  · intro hsurvives
    exact ⟨noneLost_of_survives hsurvives, known_of_survives hsurvives⟩
  · rintro ⟨hbefore, hknown⟩ disk hdisk
    have hnothing : (saved.engine.absorbReadyPatterns addedAt).2.1 = [] := by
      rw [Engine.absorbReadyPatterns, absorbAll_of_known hknown]
      rfl
    rw [hnothing] at hdisk
    obtain rfl := List.mem_singleton.1 hdisk
    exact ⟨_, _, saved.patterns_saved, saved.genome_saved, hbefore⟩

/-- A crash in the absorption of one pattern loses it. -/
theorem exists_lost_pattern : ∃ saved : SavedEngine Rat, ¬ Survives (fun _ => 1) saved := by
  refine ⟨⟨⟨readyAgent, .empty⟩, ⟨.whole readyAgent, .absent⟩, rfl, rfl⟩, fun hsurvives => ?_⟩
  have hready : readyPattern ∈ readyAgent.getPatternsReadyForPromotion Rat := by
    refine List.mem_filter.2 ⟨InsertionDict.mem_values_iff.2 ⟨[112], rfl⟩, ?_⟩
    decide +kernel
  have hknown := known_of_survives hsurvives readyPattern hready
  cases hknown

/-! ### Without a crash -/

section

/-- The loop leaves the promotions saved, and the genome file as it was. -/
theorem writes_absorbAll (addedAt : CodePoints → F) (ps : List BehaviorPattern) (engine : Engine F) {disk : Disk F}
    (hsaved : disk.loadPatterns = some engine.mimicry) :
    let absorbed := engine.absorbAll addedAt ps
    (absorbed.2.1.foldl Disk.write disk).loadPatterns = some absorbed.1.mimicry ∧
      (absorbed.2.1.foldl Disk.write disk).genome = disk.genome ∧
      (absorbed.2.2 = 0 → absorbed.1.genome = engine.genome) := by
  induction ps generalizing engine disk with
  | nil => exact ⟨hsaved, rfl, fun _ => rfl⟩
  | cons p ps ih =>
    have hone : ((engine.absorb addedAt p).2.foldl Disk.write disk).loadPatterns =
        some (engine.absorb addedAt p).1.mimicry ∧
        ((engine.absorb addedAt p).2.foldl Disk.write disk).genome = disk.genome := by
      unfold Engine.absorb MimicryAgent.promotePattern
      split
      · dsimp only
        split
        · exact ⟨hsaved, rfl⟩
        · exact ⟨rfl, rfl⟩
      · exact ⟨hsaved, rfl⟩
    obtain ⟨hpatterns, hgenome, hcount⟩ := ih (engine.absorb addedAt p).1 hone.1
    simp only [Engine.absorbAll, List.foldl_append]
    refine ⟨hpatterns, hgenome.trans hone.2, fun hzero => ?_⟩
    have hpassed : ¬ (engine.genome.get? p.patternId).isNone = true := by
      intro hnone
      rw [if_pos hnone] at hzero
      exact absurd hzero (Nat.ne_of_gt (Nat.lt_of_lt_of_le Nat.one_pos (Nat.le_add_right 1 _)))
    rw [hcount (Nat.eq_zero_of_add_eq_zero_left hzero), Engine.absorb, if_neg hpassed]

/-- The writes of an absorption leave both stores saved. -/
theorem writes_absorbReadyPatterns (addedAt : CodePoints → F) (saved : SavedEngine F) :
    let absorbed := saved.engine.absorbReadyPatterns addedAt
    (absorbed.2.1.foldl Disk.write saved.disk).loadPatterns = some absorbed.1.mimicry ∧
      (absorbed.2.1.foldl Disk.write saved.disk).loadGenome = some absorbed.1.genome := by
  obtain ⟨hpatterns, hgenome, hcount⟩ := writes_absorbAll addedAt
    (saved.engine.mimicry.getPatternsReadyForPromotion F) saved.engine saved.patterns_saved
  simp only [Engine.absorbReadyPatterns, List.foldl_append]
  split
  · -- the genome is written last
    exact ⟨hpatterns, rfl⟩
  · next hzero =>
    refine ⟨hpatterns, ?_⟩
    rw [List.foldl_nil, Disk.loadGenome, hgenome, hcount (not_not.1 hzero)]
    exact saved.genome_saved

/-- An absorption that is not interrupted. -/
def SavedEngine.absorbReadyPatterns (addedAt : CodePoints → F) (saved : SavedEngine F) : SavedEngine F where
  engine := (saved.engine.absorbReadyPatterns addedAt).1
  disk := (saved.engine.absorbReadyPatterns addedAt).2.1.foldl Disk.write saved.disk
  patterns_saved := (writes_absorbReadyPatterns addedAt saved).1
  genome_saved := (writes_absorbReadyPatterns addedAt saved).2

variable {addedAt : CodePoints → F}

/-- One round loses nothing. -/
theorem noneLost_absorb {engine : Engine F} (h : NoneLost engine.mimicry engine.genome) (p : BehaviorPattern) :
    NoneLost (engine.absorb addedAt p).1.mimicry (engine.absorb addedAt p).1.genome := by
  unfold Engine.absorb MimicryAgent.promotePattern
  split
  · intro id q hq hvalidated
    dsimp only at hq ⊢
    rw [InsertionDict.get?_set]
    by_cases hid : id = p.patternId
    · rw [if_pos hid]
      rfl
    · rw [if_neg hid]
      split at hq
      · exact h id q hq hvalidated
      · rw [MimicryAgent.validate, InsertionDict.get?_adjust, if_neg hid] at hq
        exact h id q hq hvalidated
  · exact h

/-- An absorption that is not interrupted loses nothing. -/
theorem noneLost_absorbReadyPatterns {saved : SavedEngine F}
    (h : NoneLost saved.engine.mimicry saved.engine.genome) :
    NoneLost (saved.absorbReadyPatterns addedAt).engine.mimicry (saved.absorbReadyPatterns addedAt).engine.genome := by
  change NoneLost (saved.engine.absorbAll addedAt _).1.mimicry (saved.engine.absorbAll addedAt _).1.genome
  generalize saved.engine.mimicry.getPatternsReadyForPromotion F = ps
  generalize saved.engine = engine at h ⊢
  induction ps generalizing engine with
  | nil => exact h
  | cons p ps ih => exact ih _ (noneLost_absorb h p)

end

end OperatingOrganism.Adaptive

import OperatingOrganism.Library.Execution
import OperatingOrganism.Library.InsertionDict
import OperatingOrganism.Library.Json

/-!
# Feedback of the agents

The agents append lines to a file, and `process_agent_feedback` reads it, applies every line to the pattern that it
names, saving the store each time, and empties the file at the end if something was processed. A line is applied
exactly once if and only if the call that has read it runs to its end, and none is appended between the reading and
the emptying (`exactlyOnce_iff`). A call that raises leaves the lines that it has applied in the file, or stops
before the others; a call that empties the file loses what came in meanwhile.
-/

set_option autoImplicit false

namespace OperatingOrganism.Adaptive

open OperatingOrganism.Execution

/-! ### The store -/

/-- `StoreEntry`, without the fields that feedback leaves alone -/
structure StoreEntry where
  patternId : CodePoints
  confidence : Int
  hitCount : Nat
  falsePosCount : Nat

/-- The entries of `PatternStore`; its indexes are rebuilt from them. -/
abbrev PatternStore := InsertionDict CodePoints StoreEntry

inductive FeedbackKind where
  | hit | falsePositive
  deriving DecidableEq, Repr

/-- The keyword arguments of `update` for each kind. -/
def FeedbackKind.update (entry : StoreEntry) : FeedbackKind → StoreEntry
  | hit => { entry with hitCount := entry.hitCount + 1, confidence := min 100 (entry.confidence + 2) }
  | falsePositive =>
    { entry with falsePosCount := entry.falsePosCount + 1, confidence := max 0 (entry.confidence - 5) }

/-! ### Lines -/

/-- What `json.loads` makes of a line: a value, an error that the loop catches (or nothing, where the line is
blank), or one that it does not catch. -/
inductive Loaded where
  | value (v : JsonValue)
  | malformed
  | refused

/-- What the loop learns from a line before it looks the pattern up. -/
inductive Reading where
  | raises
  | skipped
  | about (patternId : CodePoints) (kind : Option FeedbackKind)
  deriving DecidableEq

/-- The kinds that the loop knows. -/
def feedbackKind : JsonValue → Option FeedbackKind
  | .string s =>
    if s = codePoints "hit" then some .hit
    else if s = codePoints "false_positive" then some .falsePositive
    else none
  | _ => none

/-- `fb.get("pattern_id", "")` and `fb.get("kind", "")`. Only an object has `get`, only a hashable id can be looked
up, and only a string can be found. -/
def Loaded.reading : Loaded → Reading
  | .malformed => .skipped
  | .refused => .raises
  | .value (.object fields) =>
    let fb := JsonValue.object fields
    let kind := feedbackKind ((fb.field? (codePoints "kind")).getD (.string []))
    match (fb.field? (codePoints "pattern_id")).getD (.string []) with
    | .string patternId => .about patternId kind
    | .array _ => .raises
    | .object _ => .raises
    | _ => .skipped
  | .value _ => .raises

/-- The line names a stored pattern. -/
def Loaded.counts (store : PatternStore) (line : Loaded) : Bool :=
  match line.reading with
  | .about patternId _ => (store.get? patternId).isSome
  | _ => false

/-- The line is a hit or a false positive of a stored pattern. -/
def Loaded.applies (store : PatternStore) (line : Loaded) : Bool :=
  match line.reading with
  | .about patternId (some _) => (store.get? patternId).isSome
  | _ => false

/-- What a line does to the pattern that it names. -/
def Loaded.update (store : PatternStore) (line : Loaded) : PatternStore :=
  match line.reading with
  | .about patternId (some kind) => store.adjust patternId kind.update
  | _ => store

/-! ### The loop -/

/-- A line with its number among all lines that were ever appended. -/
abbrev NumberedLine := Loaded × Nat

/-- How far the loop has come. -/
structure Progress where
  store : PatternStore
  processed : Nat
  /-- how often the store was saved -/
  saves : Nat
  /-- the numbers of the lines whose update was made -/
  applied : List Nat

/-- The loop of `process_agent_feedback`, and whether it raises. A save that fails comes after the update. -/
def feedAll (saveFails : Nat → Bool) : Progress → List NumberedLine → Progress × Bool
  | progress, [] => (progress, false)
  | progress, (line, n) :: lines =>
    match line.reading with
    | .raises => (progress, true)
    | .skipped => feedAll saveFails progress lines
    | .about patternId kind =>
      match progress.store.get? patternId with
      | none => feedAll saveFails progress lines
      | some _ =>
        match kind with
        | none => feedAll saveFails { progress with processed := progress.processed + 1 } lines
        | some kind =>
          let updated : Progress :=
            { store := progress.store.adjust patternId kind.update
              processed := progress.processed
              saves := progress.saves + 1
              applied := progress.applied ++ [n] }
          if saveFails progress.saves then (updated, true)
          else feedAll saveFails { updated with processed := updated.processed + 1 } lines

/-! ### Calls -/

/-- What the surroundings do to a call: whether the file cannot be read, which saves of the store fail, whether the
file cannot be emptied, and the lines that come in between. -/
structure Call where
  readFails : Bool
  saveFails : Nat → Bool
  emptyFails : Bool
  during : List Loaded

/-- The store and the file, with all lines that were ever appended and the numbers of those that were applied. -/
structure Feedback where
  store : PatternStore
  lines : List NumberedLine
  file : List NumberedLine
  applied : List Nat

namespace Feedback

/-- Lines are appended to the file. -/
def append (st : Feedback) (lines : List Loaded) : Feedback :=
  { st with
    lines := st.lines ++ lines.zipIdx st.lines.length
    file := st.file ++ lines.zipIdx st.lines.length }

/-- `process_agent_feedback` -/
def process (st : Feedback) (call : Call) : Feedback :=
  let st' := st.append call.during
  if call.readFails then st'
  else
    let fed := feedAll call.saveFails ⟨st.store, 0, 0, st.applied⟩ st.file
    let st' := { st' with store := fed.1.store, applied := fed.1.applied }
    -- the exception leaves the file as it is, with the lines that were applied
    if fed.2 then st'
    -- `write_text("")` also removes what came in since the reading
    else if fed.1.processed ≠ 0 ∧ call.emptyFails = false then { st' with file := [] }
    else st'

end Feedback

/-- The calls: `write_agent_feedback`, or another writer, and `process_agent_feedback`. -/
inductive FeedbackOp where
  | append (line : Loaded)
  | process (call : Call)

def FeedbackOp.run (st : Feedback) : FeedbackOp → Feedback
  | .append line => st.append [line]
  | .process call => st.process call

def FeedbackStep (st : Feedback) (op : FeedbackOp) (st' : Feedback) : Prop := st' = op.run st

/-- A store and a file without lines. -/
def Feedback.start (store : PatternStore) : Feedback := ⟨store, [], [], []⟩

/-! ### Exactly once -/

/-- Every hit or false positive of a stored pattern waits in the file and has not been applied, or has left it and
has been applied once. -/
def ExactlyOnce (st : Feedback) : Prop :=
  ∀ e ∈ st.lines, e.1.applies st.store = true →
    (e ∈ st.file ∧ st.applied.count e.2 = 0) ∨ (e ∉ st.file ∧ st.applied.count e.2 = 1)

/-- What a call has read of this kind has left the file. -/
def TakesWhatItReads (st : Feedback) (op : FeedbackOp) : Prop :=
  match op with
  | .append _ => True
  | .process call =>
    call.readFails = false → ∀ e ∈ st.file, e.1.applies st.store = true → e ∉ (st.process call).file

/-- The call runs to its end: no line of the file makes it raise, no save fails and the file can be emptied. -/
structure Undisturbed (st : Feedback) (call : Call) : Prop where
  quiet : ∀ e ∈ st.file, e.1.reading ≠ .raises
  saves : ∀ k < st.file.countP (fun e => e.1.applies st.store), call.saveFails k = false
  empties : call.emptyFails = false

/-- A call that reads a hit or a false positive of a stored pattern is undisturbed; and when an undisturbed call
reads a line that names a stored pattern, no such line comes in meanwhile. -/
def Careful (st : Feedback) (op : FeedbackOp) : Prop :=
  match op with
  | .append _ => True
  | .process call =>
    call.readFails = false →
      ((∃ e ∈ st.file, e.1.applies st.store = true) → Undisturbed st call) ∧
      ((∃ e ∈ st.file, e.1.counts st.store = true) → Undisturbed st call →
        ∀ line ∈ call.during, line.applies st.store = false)

/-! ### One line of the loop -/

/-- The same patterns are stored. -/
def SameKeys (store store' : PatternStore) : Prop := ∀ id, (store'.get? id).isSome = (store.get? id).isSome

theorem SameKeys.trans {a b c : PatternStore} (h : SameKeys a b) (h' : SameKeys b c) : SameKeys a c :=
  fun id => (h' id).trans (h id)

theorem SameKeys.applies {store store' : PatternStore} (h : SameKeys store store') (line : Loaded) :
    line.applies store' = line.applies store := by
  unfold Loaded.applies
  split
  · exact h _
  · rfl

theorem SameKeys.counts {store store' : PatternStore} (h : SameKeys store store') (line : Loaded) :
    line.counts store' = line.counts store := by
  unfold Loaded.counts
  split
  · exact h _
  · rfl

theorem sameKeys_adjust (store : PatternStore) (id : CodePoints) (f : StoreEntry → StoreEntry) :
    SameKeys store (store.adjust id f) := by
  intro id'
  rw [InsertionDict.get?_adjust]
  split
  · exact Option.isSome_map
  · rfl

theorem sameKeys_update (store : PatternStore) (line : Loaded) : SameKeys store (line.update store) := by
  unfold Loaded.update
  split
  · exact sameKeys_adjust _ _ _
  · exact fun _ => rfl

/-- What is applied also counts. -/
theorem Loaded.counts_of_applies {store : PatternStore} {line : Loaded} (h : line.applies store = true) :
    line.counts store = true := by
  unfold Loaded.applies at h
  split at h
  · next heq =>
    rw [Loaded.counts, heq]
    exact h
  · cases h

/-- The four things that can happen to a line: it raises, it is passed over, it is counted, or it is applied. -/
theorem feedAll_cons (saveFails : Nat → Bool) (progress : Progress) (line : Loaded) (n : Nat)
    (lines : List NumberedLine) :
    (line.reading = .raises ∧ feedAll saveFails progress ((line, n) :: lines) = (progress, true)) ∨
    (line.reading ≠ .raises ∧ line.counts progress.store = false ∧ line.applies progress.store = false ∧
      feedAll saveFails progress ((line, n) :: lines) = feedAll saveFails progress lines) ∨
    (line.reading ≠ .raises ∧ line.counts progress.store = true ∧ line.applies progress.store = false ∧
      feedAll saveFails progress ((line, n) :: lines) =
        feedAll saveFails { progress with processed := progress.processed + 1 } lines) ∨
    (line.reading ≠ .raises ∧ line.applies progress.store = true ∧
      feedAll saveFails progress ((line, n) :: lines) =
        if saveFails progress.saves then
          (⟨line.update progress.store, progress.processed, progress.saves + 1, progress.applied ++ [n]⟩, true)
        else
          feedAll saveFails
            ⟨line.update progress.store, progress.processed + 1, progress.saves + 1, progress.applied ++ [n]⟩
            lines) := by
  rcases hreading : line.reading with _ | _ | ⟨id, kind⟩
  · exact .inl ⟨rfl, by simp only [feedAll, hreading]⟩
  · refine .inr (.inl ⟨Reading.noConfusion, ?_, ?_, by simp only [feedAll, hreading]⟩)
    · simp only [Loaded.counts, hreading]
    · simp only [Loaded.applies, hreading]
  · rcases hget : progress.store.get? id with _ | entry
    · refine .inr (.inl ⟨Reading.noConfusion, ?_, ?_, by simp only [feedAll, hreading, hget]⟩)
      · simp only [Loaded.counts, hreading, hget, Option.isSome_none]
      · cases kind <;> simp only [Loaded.applies, hreading, hget, Option.isSome_none]
    · cases kind with
      | none =>
        refine .inr (.inr (.inl ⟨Reading.noConfusion, ?_, ?_, by simp only [feedAll, hreading, hget]⟩))
        · simp only [Loaded.counts, hreading, hget, Option.isSome_some]
        · simp only [Loaded.applies, hreading]
      | some kind =>
        refine .inr (.inr (.inr ⟨Reading.noConfusion, ?_, ?_⟩))
        · simp only [Loaded.applies, hreading, hget, Option.isSome_some]
        · simp only [feedAll, hreading, hget, Loaded.update]

/-! ### The whole loop -/

/-- What the loop does with its lines: it stores the same patterns, makes the updates of the lines that it comes to
and no others, comes to the end if and only if nothing raises, and then has counted them all. -/
structure Fed (saveFails : Nat → Bool) (progress : Progress) (lines : List NumberedLine) (fed : Progress × Bool) :
    Prop where
  keys : SameKeys progress.store fed.1.store
  applied : ∃ done, done <+: lines ∧ (fed.2 = false → done = lines) ∧
    fed.1.applied = progress.applied ++ (done.filter fun e => e.1.applies progress.store).map Prod.snd ∧
    fed.1.store =
      (done.filter fun e => e.1.applies progress.store).foldl (fun store e => e.1.update store) progress.store
  ends_iff : fed.2 = false ↔ (∀ e ∈ lines, e.1.reading ≠ .raises) ∧
    ∀ k < lines.countP (fun e => e.1.applies progress.store), saveFails (progress.saves + k) = false
  processed : fed.2 = false → fed.1.processed = progress.processed + lines.countP fun e => e.1.counts progress.store

section

variable {saveFails : Nat → Bool} {progress progress' : Progress} {line : Loaded} {n : Nat}
  {lines : List NumberedLine} {fed : Progress × Bool}

theorem filter_cons_applied {store : PatternStore} (h : line.applies store = true) (n : Nat)
    (lines : List NumberedLine) :
    ((line, n) :: lines).filter (fun e => e.1.applies store) = (line, n) :: lines.filter fun e => e.1.applies store :=
  List.filter_cons_of_pos h

theorem filter_cons_passed {store : PatternStore} (h : line.applies store = false) (n : Nat)
    (lines : List NumberedLine) :
    ((line, n) :: lines).filter (fun e => e.1.applies store) = lines.filter fun e => e.1.applies store :=
  List.filter_cons_of_neg (ne_true_of_eq_false h)

theorem countP_cons_applied {store : PatternStore} (h : line.applies store = true) (n : Nat)
    (lines : List NumberedLine) :
    ((line, n) :: lines).countP (fun e => e.1.applies store) = lines.countP (fun e => e.1.applies store) + 1 :=
  List.countP_cons_of_pos h

theorem countP_cons_passed {store : PatternStore} (h : line.applies store = false) (n : Nat)
    (lines : List NumberedLine) :
    ((line, n) :: lines).countP (fun e => e.1.applies store) = lines.countP fun e => e.1.applies store :=
  List.countP_cons_of_neg (ne_true_of_eq_false h)

/-- A line that is passed over or only counted. -/
theorem Fed.cons_passed (h : Fed saveFails progress' lines fed) (hstore : progress'.store = progress.store)
    (hsaves : progress'.saves = progress.saves) (happlied : progress'.applied = progress.applied)
    (hprocessed : progress'.processed = progress.processed + (if line.counts progress.store then 1 else 0))
    (hquiet : line.reading ≠ .raises) (hnot : line.applies progress.store = false) :
    Fed saveFails progress ((line, n) :: lines) fed := by
  obtain ⟨hkeys, ⟨done, hdone, hend, hall, hupdates⟩, hiff, hcount⟩ := h
  rw [hstore] at hkeys hall hupdates hiff hcount
  refine ⟨hkeys,
    ⟨(line, n) :: done, List.cons_prefix_cons.2 ⟨rfl, hdone⟩, fun hfed => by rw [hend hfed], ?_, ?_⟩, ?_, ?_⟩
  · rw [hall, happlied, filter_cons_passed hnot]
  · rw [hupdates, filter_cons_passed hnot]
  · rw [hiff, hsaves, countP_cons_passed hnot, List.forall_mem_cons]
    exact and_congr_left fun _ => (and_iff_right hquiet).symm
  · intro hfed
    rw [hcount hfed, hprocessed, List.countP_cons, Nat.add_assoc, Nat.add_comm (List.countP _ lines)]

/-- A line that is applied and saved. -/
theorem Fed.cons_applied (h : Fed saveFails progress' lines fed) (hstore : progress'.store = line.update progress.store)
    (hsaves : progress'.saves = progress.saves + 1) (happlied : progress'.applied = progress.applied ++ [n])
    (hprocessed : progress'.processed = progress.processed + 1) (hquiet : line.reading ≠ .raises)
    (happlies : line.applies progress.store = true) (hsaved : saveFails progress.saves = false) :
    Fed saveFails progress ((line, n) :: lines) fed := by
  obtain ⟨hkeys', ⟨done, hdone, hend, hall, hupdates⟩, hiff, hcount⟩ := h
  have hkeys : SameKeys progress.store progress'.store := hstore ▸ sameKeys_update progress.store line
  simp only [hkeys.applies, hkeys.counts] at hall hupdates hiff hcount
  refine ⟨hkeys.trans hkeys',
    ⟨(line, n) :: done, List.cons_prefix_cons.2 ⟨rfl, hdone⟩, fun hfed => by rw [hend hfed], ?_, ?_⟩, ?_, ?_⟩
  · rw [hall, happlied, filter_cons_applied happlies,
      List.map_cons, List.append_assoc]
    rfl
  · rw [hupdates, hstore,
      filter_cons_applied happlies, List.foldl_cons]
  · rw [hiff, hsaves, countP_cons_applied happlies, List.forall_mem_cons, Nat.forall_lt_succ_left, Nat.add_zero]
    simp only [and_iff_right hquiet, Nat.add_assoc, Nat.add_comm 1]
    exact and_congr_right fun _ => (and_iff_right hsaved).symm
  · intro hfed
    have hcounts : line.counts progress.store = true := Loaded.counts_of_applies happlies
    have hcountP : ((line, n) :: lines).countP (fun e => e.1.counts progress.store) =
        lines.countP (fun e => e.1.counts progress.store) + 1 := List.countP_cons_of_pos hcounts
    rw [hcount hfed, hprocessed, hcountP, Nat.add_assoc, Nat.add_comm 1]

end

theorem feedAll_fed (saveFails : Nat → Bool) (progress : Progress) (lines : List NumberedLine) :
    Fed saveFails progress lines (feedAll saveFails progress lines) := by
  induction lines generalizing progress with
  | nil =>
    refine ⟨fun _ => rfl, ⟨[], List.prefix_rfl, fun _ => rfl, ?_, rfl⟩, ?_, fun _ => rfl⟩
    · exact (List.append_nil _).symm
    · exact iff_of_true rfl ⟨fun e he => (nomatch he), fun k hk => absurd hk (Nat.not_lt_zero k)⟩
  | cons e lines ih =>
    obtain ⟨line, n⟩ := e
    rcases feedAll_cons saveFails progress line n lines with
      ⟨hraises, heq⟩ | ⟨hquiet, hcounts, happlies, heq⟩ | ⟨hquiet, hcounts, happlies, heq⟩ |
        ⟨hquiet, happlies, heq⟩
    · rw [heq]
      refine ⟨fun _ => rfl, ⟨[], List.nil_prefix, Bool.noConfusion, (List.append_nil _).symm, rfl⟩, ?_,
        Bool.noConfusion⟩
      exact iff_of_false Bool.noConfusion fun h => h.1 _ List.mem_cons_self hraises
    · rw [heq]
      exact (ih progress).cons_passed rfl rfl rfl (by rw [hcounts]; rfl) hquiet happlies
    · rw [heq]
      exact (ih _).cons_passed rfl rfl rfl (by rw [hcounts]; rfl) hquiet happlies
    · rw [heq]
      split
      · next hfails =>
        -- the update is made, and the save fails
        refine ⟨sameKeys_update _ _, ⟨[(line, n)], ?_, Bool.noConfusion, ?_, ?_⟩, ?_, Bool.noConfusion⟩
        · exact List.cons_prefix_cons.2 ⟨rfl, List.nil_prefix⟩
        · rw [filter_cons_applied happlies]
          rfl
        · rw [filter_cons_applied happlies]
          rfl
        · refine iff_of_false Bool.noConfusion fun h => ?_
          have hzero := h.2 0 ((countP_cons_applied happlies n lines).symm ▸ Nat.succ_pos _)
          rw [Nat.add_zero, hfails] at hzero
          cases hzero
      · next hsaved =>
        exact (ih _).cons_applied rfl rfl rfl rfl hquiet happlies (Bool.eq_false_iff.2 hsaved)

/-! ### The numbers of the lines -/

/-- Every line has its own number, below that of the next; the file holds some of the lines, each once. -/
structure Numbered (st : Feedback) : Prop where
  nodup : (st.lines.map Prod.snd).Nodup
  below : ∀ e ∈ st.lines, e.2 < st.lines.length
  file_subset : st.file ⊆ st.lines
  file_nodup : (st.file.map Prod.snd).Nodup
  applied_below : ∀ n ∈ st.applied, n < st.lines.length

/-- New lines have new numbers. -/
theorem le_of_mem_zipIdx {lines : List Loaded} {start : Nat} {e : NumberedLine} (he : e ∈ lines.zipIdx start) :
    start ≤ e.2 := List.le_snd_of_mem_zipIdx he

/-- Old numbers and those of new lines are all different. -/
theorem nodup_append_zipIdx {old : List NumberedLine} {start : Nat} (hold : (old.map Prod.snd).Nodup)
    (hbelow : ∀ e ∈ old, e.2 < start) (lines : List Loaded) :
    ((old ++ lines.zipIdx start).map Prod.snd).Nodup := by
  rw [List.map_append, List.nodup_append]
  refine ⟨hold, ?_, ?_⟩
  · rw [List.zipIdx_map_snd]
    exact List.nodup_range'
  · intro n hn m hm
    obtain ⟨e, he, rfl⟩ := List.mem_map.1 hn
    obtain ⟨e', he', rfl⟩ := List.mem_map.1 hm
    exact Nat.ne_of_lt (Nat.lt_of_lt_of_le (hbelow e he) (le_of_mem_zipIdx he'))

theorem Numbered.append {st : Feedback} (h : Numbered st) (lines : List Loaded) : Numbered (st.append lines) := by
  have hlength : (st.append lines).lines.length = st.lines.length + lines.length := by
    simp [Feedback.append]
  refine ⟨nodup_append_zipIdx h.nodup h.below lines, ?_, ?_,
    nodup_append_zipIdx h.file_nodup (fun e he => h.below e (h.file_subset he)) lines, ?_⟩
  · intro e he
    rw [hlength]
    rcases List.mem_append.1 he with he | he
    · exact Nat.lt_add_right _ (h.below e he)
    · exact List.snd_lt_add_of_mem_zipIdx he
  · intro e he
    rcases List.mem_append.1 he with he | he
    · exact List.mem_append_left _ (h.file_subset he)
    · exact List.mem_append_right _ he
  · intro n hn
    rw [hlength]
    exact Nat.lt_add_right _ (h.applied_below n hn)

section

variable {st : Feedback} {e : NumberedLine}

/-- A line is known by its number. -/
theorem Numbered.number_mem_iff (h : Numbered st) {lines : List NumberedLine} (hsubset : lines ⊆ st.lines)
    (he : e ∈ st.lines) : e.2 ∈ lines.map Prod.snd ↔ e ∈ lines := by
  constructor
  · intro hmem
    obtain ⟨e', he', hsame⟩ := List.mem_map.1 hmem
    have heq : e' = e := List.inj_on_of_nodup_map h.nodup (hsubset he') he hsame
    exact heq ▸ he'
  · exact fun hmem => List.mem_map_of_mem hmem

/-- A line of the file that applies is among those that are applied, once. -/
theorem Numbered.count_file (h : Numbered st) (happlies : e.1.applies st.store = true) (hfile : e ∈ st.file) :
    ((st.file.filter fun e => e.1.applies st.store).map Prod.snd).count e.2 = 1 := by
  refine List.count_eq_one_of_mem ?_ (List.mem_map_of_mem (List.mem_filter.2 ⟨hfile, happlies⟩))
  exact h.file_nodup.sublist (List.filter_sublist.map _)

/-- A line that is not in the file is not among them. -/
theorem Numbered.count_not_file (h : Numbered st) (he : e ∈ st.lines) (hfile : e ∉ st.file) :
    ((st.file.filter fun e => e.1.applies st.store).map Prod.snd).count e.2 = 0 := by
  have hsubset : st.file.filter (fun e => e.1.applies st.store) ⊆ st.lines := fun _ hmem =>
    h.file_subset (List.mem_filter.1 hmem).1
  rw [List.count_eq_zero, h.number_mem_iff hsubset he]
  exact fun hmem => hfile (List.mem_filter.1 hmem).1

/-- The numbers of new lines have not been applied. -/
theorem Numbered.count_new (h : Numbered st) {n : Nat} (hn : st.lines.length ≤ n) : st.applied.count n = 0 := by
  rw [List.count_eq_zero]
  exact fun hmem => Nat.not_lt.2 hn (h.applied_below n hmem)

theorem Numbered.count_file_new (h : Numbered st) {n : Nat} (hn : st.lines.length ≤ n) (p : NumberedLine → Bool) :
    ((st.file.filter p).map Prod.snd).count n = 0 := by
  rw [List.count_eq_zero]
  intro hmem
  obtain ⟨e, he, rfl⟩ := List.mem_map.1 hmem
  exact Nat.not_lt.2 hn (h.below e (h.file_subset (List.mem_filter.1 he).1))

/-! ### One call -/

theorem undisturbed_iff {call : Call} :
    Undisturbed st call ↔
      (feedAll call.saveFails ⟨st.store, 0, 0, st.applied⟩ st.file).2 = false ∧ call.emptyFails = false := by
  rw [(feedAll_fed call.saveFails ⟨st.store, 0, 0, st.applied⟩ st.file).ends_iff]
  simp only [Nat.zero_add]
  exact ⟨fun h => ⟨⟨h.quiet, h.saves⟩, h.empties⟩, fun h => ⟨h.1.1, h.1.2, h.2⟩⟩

/-- What a call that reads the file does: it keeps the lines, or, undisturbed, applies them and empties the file. -/
theorem process_cases {call : Call} (hread : call.readFails = false) :
    (¬ (Undisturbed st call ∧ ∃ e ∈ st.file, e.1.counts st.store = true) ∧
      ∃ store done, SameKeys st.store store ∧ done <+: st.file ∧
        st.process call = { st.append call.during with
          store := store
          applied := st.applied ++ (done.filter fun e => e.1.applies st.store).map Prod.snd }) ∨
    ((Undisturbed st call ∧ ∃ e ∈ st.file, e.1.counts st.store = true) ∧
      ∃ store, SameKeys st.store store ∧
        st.process call = { st.append call.during with
          store := store
          file := []
          applied := st.applied ++ (st.file.filter fun e => e.1.applies st.store).map Prod.snd }) := by
  have hfed := feedAll_fed call.saveFails ⟨st.store, 0, 0, st.applied⟩ st.file
  obtain ⟨done, hdone, hend, happlied, -⟩ := hfed.applied
  rw [undisturbed_iff]
  unfold Feedback.process
  rw [hread]
  generalize feedAll call.saveFails ⟨st.store, 0, 0, st.applied⟩ st.file = fed at hfed hend happlied ⊢
  obtain ⟨progress, raised⟩ := fed
  dsimp only at hend happlied ⊢
  have hkeys := hfed.keys
  cases raised with
  | true => exact .inl ⟨fun h => Bool.noConfusion h.1.1, _, done, hkeys, hdone, by rw [happlied]; rfl⟩
  | false =>
    obtain rfl := hend rfl
    have hprocessed : progress.processed ≠ 0 ↔ ∃ e ∈ st.file, e.1.counts st.store = true := by
      rw [hfed.processed rfl, Nat.zero_add, ← Nat.pos_iff_ne_zero, List.countP_pos_iff]
    simp only [Bool.false_eq_true, if_false, hprocessed]
    by_cases hempties : (∃ e ∈ st.file, e.1.counts st.store = true) ∧ call.emptyFails = false
    · exact .inr ⟨⟨⟨trivial, hempties.2⟩, hempties.1⟩, _, hkeys, by rw [if_pos hempties, happlied]⟩
    · refine .inl ⟨fun h => hempties ⟨h.2, h.1.2⟩, _, st.file, hkeys, hdone, ?_⟩
      rw [if_neg hempties, happlied]

/-- A call keeps the numbers. -/
theorem Numbered.process (h : Numbered st) (call : Call) : Numbered (st.process call) := by
  have happend := h.append call.during
  cases hread : call.readFails with
  | true =>
    rw [Feedback.process, hread]
    exact happend
  | false =>
    have hbelow : ∀ done, done <+: st.file → ∀ n ∈ st.applied ++
        (done.filter fun e => e.1.applies st.store).map Prod.snd, n < (st.append call.during).lines.length := by
      intro done hdone n hn
      rcases List.mem_append.1 hn with hn | hn
      · exact happend.applied_below n hn
      · obtain ⟨e, he, rfl⟩ := List.mem_map.1 hn
        have hfile : e ∈ st.file := hdone.subset (List.mem_filter.1 he).1
        exact happend.below e (List.mem_append_left _ (h.file_subset hfile))
    rcases process_cases hread with ⟨-, store, done, -, hdone, heq⟩ | ⟨-, store, -, heq⟩
    · rw [heq]
      exact ⟨happend.nodup, happend.below, happend.file_subset, happend.file_nodup, hbelow done hdone⟩
    · rw [heq]
      exact ⟨happend.nodup, happend.below, List.nil_subset _, List.nodup_nil, hbelow st.file List.prefix_rfl⟩

/-- Lines that are appended wait. -/
theorem ExactlyOnce.append (hnumbered : Numbered st) (h : ExactlyOnce st) (lines : List Loaded) :
    ExactlyOnce (st.append lines) := by
  intro e he happlies
  rcases List.mem_append.1 he with hold | hnew
  · rcases h e hold happlies with ⟨hfile, hcount⟩ | ⟨hfile, hcount⟩
    · exact .inl ⟨List.mem_append_left _ hfile, hcount⟩
    · refine .inr ⟨fun hmem => ?_, hcount⟩
      rcases List.mem_append.1 hmem with hmem | hmem
      · exact hfile hmem
      · exact Nat.not_lt.2 (le_of_mem_zipIdx hmem) (hnumbered.below e hold)
  · exact .inl ⟨List.mem_append_right _ hnew, hnumbered.count_new (le_of_mem_zipIdx hnew)⟩

/-- Another store with the same patterns makes no difference. -/
theorem ExactlyOnce.congr_store {store : PatternStore} (h : ExactlyOnce st) (hkeys : SameKeys st.store store) :
    ExactlyOnce { st with store := store } := by
  intro e he happlies
  exact h e he (hkeys.applies e.1 ▸ happlies)

/-- A call that keeps the lines is right exactly when it has read none that applies. -/
theorem exactlyOnce_kept_iff (hnumbered : Numbered st) (h : ExactlyOnce st) {call : Call}
    (hread : call.readFails = false)
    (hkept : ¬ (Undisturbed st call ∧ ∃ e ∈ st.file, e.1.counts st.store = true)) {store : PatternStore}
    {done : List NumberedLine} (hkeys : SameKeys st.store store) (hdone : done <+: st.file)
    (heq : st.process call = { st.append call.during with
      store := store
      applied := st.applied ++ (done.filter fun e => e.1.applies st.store).map Prod.snd }) :
    ExactlyOnce (st.process call) ∧ TakesWhatItReads st (.process call) ↔ Careful st (.process call) := by
  constructor
  · rintro ⟨-, htakes⟩ -
    refine ⟨?_, fun hcounts hundisturbed => absurd ⟨hundisturbed, hcounts⟩ hkept⟩
    rintro ⟨e, he, happlies⟩
    refine absurd ?_ (htakes hread e he happlies)
    rw [heq]
    exact List.mem_append_left _ he
  · intro hcareful
    have hnone : ∀ e ∈ st.file, ¬ e.1.applies st.store = true := by
      intro e he happlies
      have hundisturbed := (hcareful hread).1 ⟨e, he, happlies⟩
      exact hkept ⟨hundisturbed, e, he, Loaded.counts_of_applies happlies⟩
    have hfilter : done.filter (fun e => e.1.applies st.store) = [] :=
      List.filter_eq_nil_iff.2 fun e he => hnone e (hdone.subset he)
    refine ⟨?_, fun _ e he happlies => absurd happlies (hnone e he)⟩
    rw [heq, hfilter, List.map_nil, List.append_nil]
    exact (h.append hnumbered call.during).congr_store hkeys

/-- A call that empties the file is right exactly when no line that applies came in meanwhile. -/
theorem exactlyOnce_emptied_iff (hnumbered : Numbered st) (h : ExactlyOnce st) {call : Call}
    (hread : call.readFails = false)
    (hemptied : Undisturbed st call ∧ ∃ e ∈ st.file, e.1.counts st.store = true) {store : PatternStore}
    (hkeys : SameKeys st.store store)
    (heq : st.process call = { st.append call.during with
      store := store
      file := []
      applied := st.applied ++ (st.file.filter fun e => e.1.applies st.store).map Prod.snd }) :
    ExactlyOnce (st.process call) ∧ TakesWhatItReads st (.process call) ↔ Careful st (.process call) := by
  have htakes : TakesWhatItReads st (.process call) := by
    intro _ e _ _
    rw [heq]
    exact List.not_mem_nil
  rw [and_iff_left htakes, heq]
  constructor
  · intro honce _
    refine ⟨fun _ => hemptied.1, fun _ _ line hline => ?_⟩
    by_contra happlies
    rw [Bool.not_eq_false] at happlies
    -- a line that came in meanwhile is gone and not applied
    obtain ⟨n, hn⟩ : ∃ n, (line, n) ∈ call.during.zipIdx st.lines.length := by
      obtain ⟨i, hi, rfl⟩ := List.mem_iff_getElem.1 hline
      exact ⟨_, List.mem_iff_getElem.2 ⟨i, by simpa using hi, List.getElem_zipIdx _⟩⟩
    rcases honce (line, n) (List.mem_append_right _ hn) ((hkeys.applies line).trans happlies) with
      ⟨hfile, -⟩ | ⟨-, hcount⟩
    · exact List.not_mem_nil hfile
    · have hle : st.lines.length ≤ n := le_of_mem_zipIdx hn
      rw [List.count_append, hnumbered.count_new hle, hnumbered.count_file_new hle] at hcount
      cases hcount
  · intro hcareful e he happlies
    rw [hkeys.applies] at happlies
    refine .inr ⟨List.not_mem_nil, ?_⟩
    rcases List.mem_append.1 he with hold | hnew
    · rw [List.count_append]
      rcases h e hold happlies with ⟨hfile, hcount⟩ | ⟨hfile, hcount⟩
      · rw [hcount, hnumbered.count_file happlies hfile]
      · rw [hcount, hnumbered.count_not_file hold hfile]
    · have hmem : e.1 ∈ call.during := List.fst_mem_of_mem_zipIdx hnew
      rw [(hcareful hread).2 hemptied.2 hemptied.1 e.1 hmem] at happlies
      cases happlies

end

/-- A call keeps the lines applied exactly once, and takes what it reads, exactly when it is careful. -/
theorem exactlyOnce_step_iff {st : Feedback} (hnumbered : Numbered st) (h : ExactlyOnce st) (op : FeedbackOp) :
    ExactlyOnce (op.run st) ∧ TakesWhatItReads st op ↔ Careful st op := by
  cases op with
  | append line => exact iff_of_true ⟨h.append hnumbered [line], trivial⟩ trivial
  | process call =>
    cases hread : call.readFails with
    | true =>
      refine iff_of_true ⟨?_, fun hnot => ?_⟩ fun hnot => ?_
      · rw [FeedbackOp.run, Feedback.process, hread]
        exact h.append hnumbered call.during
      · cases hread.symm.trans hnot
      · cases hread.symm.trans hnot
    | false =>
      rcases process_cases hread with ⟨hkept, store, done, hkeys, hdone, heq⟩ | ⟨hemptied, store, hkeys, heq⟩
      · exact exactlyOnce_kept_iff hnumbered h hread hkept hkeys hdone heq
      · exact exactlyOnce_emptied_iff hnumbered h hread hemptied hkeys heq

/-- In every run from an empty file, every hit and false positive of a stored pattern waits or is applied exactly
once, and those that a call has read have left the file, if and only if all calls are careful. -/
theorem exactlyOnce_iff {store : PatternStore} {tr : List (FeedbackOp × Feedback)}
    (h : Exec FeedbackStep (Feedback.start store) tr) :
    AllStates ExactlyOnce (Feedback.start store) tr ∧ AllSteps TakesWhatItReads (Feedback.start store) tr ↔
      AllSteps Careful (Feedback.start store) tr := by
  have hnumbered : Numbered (Feedback.start store) :=
    ⟨List.nodup_nil, fun e he => (nomatch he), List.nil_subset _, List.nodup_nil, fun n hn => (nomatch hn)⟩
  apply h.allStates_and_allSteps_iff hnumbered (fun e he => (nomatch he))
  · rintro st op _ hst rfl
    cases op with
    | append line => exact hst.append [line]
    | process call => exact hst.process call
  · rintro st op _ hst honce rfl
    exact exactlyOnce_step_iff hst honce op

/-! ### A calm call, and one that raises -/

/-- The run of a list of calls. -/
def feedbackRun (store : PatternStore) (ops : List FeedbackOp) : List (FeedbackOp × Feedback) :=
  driven FeedbackOp.run (Feedback.start store) ops

theorem exec_feedbackRun (store : PatternStore) (ops : List FeedbackOp) :
    Exec FeedbackStep (Feedback.start store) (feedbackRun store ops) :=
  @exec_driven _ _ FeedbackStep FeedbackOp.run (fun _ _ => rfl) _ ops

/-- A store with the pattern `p`. -/
def storeOfP : PatternStore := .set .empty (codePoints "p") ⟨codePoints "p", 50, 0, 0⟩

/-- A hit of `p`. -/
def hitOfP : Loaded :=
  .value (.object
    [(codePoints "pattern_id", .string (codePoints "p")), (codePoints "kind", .string (codePoints "hit"))])

/-- A call in which nothing fails and nothing comes in. -/
def calmCall : Call := ⟨false, fun _ => false, false, []⟩

/-- A hit that is applied by a calm call. -/
theorem hit_applied_once :
    AllStates ExactlyOnce (Feedback.start storeOfP) (feedbackRun storeOfP [.append hitOfP, .process calmCall]) ∧
      AllSteps TakesWhatItReads (Feedback.start storeOfP)
        (feedbackRun storeOfP [.append hitOfP, .process calmCall]) := by
  refine (exactlyOnce_iff (exec_feedbackRun _ _)).2 ⟨trivial, fun _ => ⟨fun _ => ?_, ?_⟩, trivial⟩
  · refine ⟨fun e he => ?_, fun _ _ => rfl, rfl⟩
    obtain rfl : e = (hitOfP, 0) := List.mem_singleton.1 he
    decide
  · exact fun _ _ line hline => (nomatch hline)

/-- A hit before a line that is an array: it is applied, and stays in the file. -/
theorem exists_reapplied_hit : ∃ tr, Exec FeedbackStep (Feedback.start storeOfP) tr ∧
    ¬ (AllStates ExactlyOnce (Feedback.start storeOfP) tr ∧
      AllSteps TakesWhatItReads (Feedback.start storeOfP) tr) := by
  refine ⟨feedbackRun storeOfP [.append hitOfP, .append (.value (.array [])), .process calmCall],
    exec_feedbackRun _ _, ?_⟩
  rintro ⟨-, -, -, htakes, -⟩
  refine htakes rfl (hitOfP, 0) List.mem_cons_self (by decide) ?_
  exact List.mem_cons_self

end OperatingOrganism.Adaptive

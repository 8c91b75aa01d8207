import OperatingOrganism.ColonyServer.SeenGossip
import OperatingOrganism.ColonyServer.ThreatRegistry
import OperatingOrganism.Library.Execution

/-!
# The bound of the deduplication cache

A node starts with the cache that `load_seen_gossip` makes from the log of the gossip, and then marks. A mark makes
room for an identifier that it enters, but one that finds its identifier in the cache returns early and leaves the
cache as large as it is. The loader has no bound. So the first mark of a node can leave more than 10,000 entries, and
no later one can (`dedup_exact_iff`).
-/

set_option autoImplicit false

namespace OperatingOrganism.ColonyServer

open OperatingOrganism.Execution

/-! ## Loading the cache -/

/-- `GOSSIP_FILE`, a log like the one of the threats. -/
abbrev GossipLog := ThreatLog

section

variable (parse : String → Option Json) (parseFromRfc3339 : String → Option DateTime)

/-- The body of the loop over the lines: a line that is no record, or an old one, is skipped. -/
def SeenCache.addLine (now dedupWindowS : Int) (seen : SeenCache) (line : String) : SeenCache :=
  match parse line with
  | none => seen
  | some record =>
    match record.getStr "gossip_id", record.getStr "received_at" with
    | some id, some receivedAt =>
      match parseFromRfc3339 receivedAt with
      | some dt => if now - dt.timestamp ≤ dedupWindowS then seen.insert id dt.timestamp else seen
      | none => seen
    | _, _ => seen

/-- The loop over the lines; it ends at one that cannot be read. -/
def readSeenGossip (now dedupWindowS : Int) : List (Option String) → SeenCache → Except StorageError SeenCache
  | [], seen => .ok seen
  -- `let line = line?`
  | none :: _, _ => .error .io
  | some line :: lines, seen =>
    readSeenGossip now dedupWindowS lines (seen.addLine parse parseFromRfc3339 now dedupWindowS line)

/-- `load_seen_gossip`, at the time `now`. -/
def loadSeenGossip (now dedupWindowS : Int) (log : GossipLog) : Except StorageError SeenCache :=
  match log with
  | .absent => .ok ∅
  | .closed => .error .io
  | .text lines => readSeenGossip parse parseFromRfc3339 now dedupWindowS lines ∅

/-- The cache that `main` starts with: `load_seen_gossip(..).unwrap_or_default()`. -/
def startingCache (now dedupWindowS : Int) (log : GossipLog) : SeenCache :=
  match loadSeenGossip parse parseFromRfc3339 now dedupWindowS log with
  | .ok seen => seen
  | .error _ => ∅

end

/-! ## Marking -/

/-- A call of `mark_gossip_seen`, with the time at which it reads the clock. -/
structure Mark where
  gossipId : String
  now : Int

/-- The cache after a call. -/
def SeenCache.after (dedupWindowS : Int) (seen : SeenCache) (call : Mark) : SeenCache :=
  (markGossipSeen seen call.gossipId dedupWindowS call.now).2

/-- What is asked of a call: it leaves 10,000 entries at most, returns `false` exactly if the identifier is there and
not older than the window, enters it with the current time if it returns `true`, and leaves every other entry as it
was, or drops it. -/
structure MarkExact (dedupWindowS : Int) (seen : SeenCache) (call : Mark) : Prop where
  bounded : (seen.after dedupWindowS call).entries.length ≤ maxSeen
  seen_iff : (markGossipSeen seen call.gossipId dedupWindowS call.now).1 = false ↔
    ∃ seenAt, seen.lookup call.gossipId = some seenAt ∧ call.now - seenAt ≤ dedupWindowS
  entered : (markGossipSeen seen call.gossipId dedupWindowS call.now).1 = true →
    (seen.after dedupWindowS call).lookup call.gossipId = some call.now
  unchanged : ∀ id seenAt, (seen.after dedupWindowS call).lookup id = some seenAt →
    seen.lookup id = some seenAt ∨
      id = call.gossipId ∧ seenAt = call.now ∧
        (markGossipSeen seen call.gossipId dedupWindowS call.now).1 = true

/-- The call finds its identifier among more than 10,000 entries within the window. -/
def HitsOverfull (dedupWindowS : Int) (seen : SeenCache) (call : Mark) : Prop :=
  call.gossipId ∈ seen.recent call.now dedupWindowS ∧
    maxSeen < (seen.recent call.now dedupWindowS).entries.length

section

variable {dedupWindowS now : Int} {seen : SeenCache} {call : Mark}

theorem length_recent_le (seen : SeenCache) (now age : Int) :
    (seen.recent now age).entries.length ≤ seen.entries.length :=
  List.length_filter_le _ _

/-- An entry more, or a new value of one that is there. -/
theorem length_insert_le (seen : SeenCache) (id : String) (seenAt : Int) :
    (seen.insert id seenAt).entries.length ≤ seen.entries.length + 1 := by
  rw [AList.entries_insert, List.length_cons]
  exact Nat.succ_le_succ (List.kerase_sublist id seen.entries).length_le

/-- The bound leaves room for an entry. -/
theorem length_bound_lt (seen : SeenCache) (now dedupWindowS : Int) :
    (seen.bound now dedupWindowS).entries.length < maxSeen := by
  rw [SeenCache.bound]
  split
  · dsimp only
    split
    · exact Nat.zero_lt_succ _
    · next hrecent => exact Nat.lt_of_not_le hrecent
  · next hfull => exact Nat.lt_of_not_le hfull

/-- A call leaves too much exactly if it returns early from too much. -/
theorem length_after_le_iff :
    (seen.after dedupWindowS call).entries.length ≤ maxSeen ↔ ¬ HitsOverfull dedupWindowS seen call := by
  rw [SeenCache.after, markGossipSeen, HitsOverfull]
  split
  · next hmem => simp [hmem]
  · next hmem =>
    -- an identifier that is entered, after room was made for it
    refine iff_of_true ?_ fun hhit => hmem hhit.1
    have hinsert := length_insert_le ((seen.recent call.now dedupWindowS).bound call.now dedupWindowS)
      call.gossipId call.now
    have hbound := length_bound_lt (seen.recent call.now dedupWindowS) call.now dedupWindowS
    exact Nat.le_trans hinsert hbound

/-- The size apart, a call always does what is asked of it. -/
theorem markExact_iff : MarkExact dedupWindowS seen call ↔ ¬ HitsOverfull dedupWindowS seen call := by
  refine ⟨fun h => length_after_le_iff.1 h.bounded, fun h => ⟨length_after_le_iff.2 h, ?_, ?_, ?_⟩⟩
  · rw [← mem_recent_iff, ← Bool.not_eq_true, markGossipSeen_fst, not_not]
  · exact lookup_markGossipSeen_self
  · intro id seenAt hentry
    by_cases hother : id ≠ call.gossipId ∨
        (markGossipSeen seen call.gossipId dedupWindowS call.now).1 = false
    · exact .inl ((lookup_markGossipSeen hother).1 hentry).1
    · -- the entry of the identifier that was entered
      rw [not_or, not_not, Bool.not_eq_false] at hother
      obtain ⟨rfl, hnew⟩ := hother
      have hself := lookup_markGossipSeen_self hnew
      exact .inr ⟨rfl, Option.some.inj (hentry.symm.trans hself), hnew⟩

/-- A cache that fits is not overfull within the window. -/
theorem not_hitsOverfull_of_length_le (h : seen.entries.length ≤ maxSeen) : ¬ HitsOverfull dedupWindowS seen call :=
  fun hhit => Nat.not_lt.2 h (Nat.lt_of_lt_of_le hhit.2 (length_recent_le seen _ _))

/-- From a cache that fits, every call does what is asked of it. -/
theorem markExact_of_length_le (calls : List Mark) (h : seen.entries.length ≤ maxSeen) :
    AllSteps (MarkExact dedupWindowS) seen (driven (SeenCache.after dedupWindowS) seen calls) := by
  refine (@exec_driven _ _ (fun s call t => s.after dedupWindowS call = t) _ (fun _ _ => rfl) seen calls
    ).allSteps_of_invariant (I := fun s => s.entries.length ≤ maxSeen) h ?_ ?_
  · rintro s call _ hs rfl
    exact length_after_le_iff.2 (not_hitsOverfull_of_length_le hs)
  · exact fun s call hs => markExact_iff.2 (not_hitsOverfull_of_length_le hs)

end

/-- A cache does what is asked of it in every run of calls, unless the first of them finds its identifier among more
than 10,000 entries within the window. -/
theorem dedup_exact_iff (dedupWindowS : Int) (seen : SeenCache) (calls : List Mark) :
    AllSteps (MarkExact dedupWindowS) seen (driven (SeenCache.after dedupWindowS) seen calls) ↔
      ∀ first ∈ calls.head?, ¬ HitsOverfull dedupWindowS seen first := by
  cases calls with
  | nil => simp [driven, AllSteps]
  | cons call calls =>
    rw [driven, allSteps_cons, markExact_iff, List.head?_cons]
    simp only [Option.mem_some_iff, forall_eq']
    -- after a first call that is right the cache fits
    refine and_iff_left_of_imp fun hfirst => ?_
    exact markExact_of_length_le calls (length_after_le_iff.2 hfirst)

/-! ## The cache that a node starts with -/

section

variable (parse : String → Option Json) (parseFromRfc3339 : String → Option DateTime) (now dedupWindowS : Int)

/-- A line adds an entry, or nothing. -/
theorem length_addLine_le (seen : SeenCache) (line : String) :
    (seen.addLine parse parseFromRfc3339 now dedupWindowS line).entries.length ≤ seen.entries.length + 1 := by
  rw [SeenCache.addLine]
  split
  · exact Nat.le_succ _
  · split
    · split
      · split
        · exact length_insert_le _ _ _
        · exact Nat.le_succ _
      · exact Nat.le_succ _
    · exact Nat.le_succ _

theorem length_readSeenGossip_le {lines : List (Option String)} {seen seen' : SeenCache}
    (h : readSeenGossip parse parseFromRfc3339 now dedupWindowS lines seen = .ok seen') :
    seen'.entries.length ≤ seen.entries.length + lines.length := by
  induction lines generalizing seen with
  | nil =>
    cases h
    exact Nat.le_refl _
  | cons line lines ih =>
    cases line with
    | none => cases h
    | some line =>
      have hrest := ih h
      have hline := length_addLine_le parse parseFromRfc3339 now dedupWindowS seen line
      rw [List.length_cons]
      omega

/-- A line more. -/
theorem readSeenGossip_concat {lines : List (Option String)} {seen seen' : SeenCache}
    (h : readSeenGossip parse parseFromRfc3339 now dedupWindowS lines seen = .ok seen') (line : String) :
    readSeenGossip parse parseFromRfc3339 now dedupWindowS (lines ++ [some line]) seen =
      .ok (seen'.addLine parse parseFromRfc3339 now dedupWindowS line) := by
  induction lines generalizing seen with
  | nil =>
    cases h
    rfl
  | cons first lines ih =>
    cases first with
    | none => cases h
    | some first => exact ih h

/-- The cache has an entry for each line of the log at most. -/
theorem length_startingCache_le (lines : List (Option String)) :
    (startingCache parse parseFromRfc3339 now dedupWindowS (.text lines)).entries.length ≤ lines.length := by
  rw [startingCache]
  split
  · next seen hload =>
    have hlength := length_readSeenGossip_le parse parseFromRfc3339 now dedupWindowS hload
    exact Nat.le_trans hlength (Nat.le_of_eq (Nat.zero_add _))
  · exact Nat.zero_le _

/-- After a log that is not longer than the bound, every run does what is asked of it. -/
theorem markExact_of_short_log {lines : List (Option String)} (h : lines.length ≤ maxSeen) (calls : List Mark) :
    AllSteps (MarkExact dedupWindowS) (startingCache parse parseFromRfc3339 now dedupWindowS (.text lines))
      (driven (SeenCache.after dedupWindowS) (startingCache parse parseFromRfc3339 now dedupWindowS (.text lines))
        calls) :=
  markExact_of_length_le calls
    (Nat.le_trans (length_startingCache_le parse parseFromRfc3339 now dedupWindowS lines) h)

end

/-! ## A log that is too long -/

/-- Identifiers of different lengths. -/
def seenId (n : Nat) : String := String.ofList (List.replicate (n + 1) 'a')

/-- A line of the log, from the first second of the epoch. -/
def seenLine (n : Nat) : String :=
  "\x7b\"gossip_id\":\"" ++ seenId n ++ "\",\"received_at\":\"1970-01-01T00:00:00Z\"\x7d"

/-- What the parser makes of such a line. -/
def parseSeen (line : String) : Option Json :=
  let n := line.length - (seenLine 0).length
  if line = seenLine n then
    some (.object [("gossip_id", .string (seenId n)), ("received_at", .string "1970-01-01T00:00:00Z")])
  else none

def parseSeenTime (s : String) : Option DateTime :=
  if s = "1970-01-01T00:00:00Z" then some (.ofSeconds 0) else none

/-- 10,001 lines. -/
def seenLog : GossipLog := .text ((List.range 10001).map fun n => some (seenLine n))

theorem length_seenLine (n : Nat) : (seenLine n).length = (seenLine 0).length + n := by
  simp only [seenLine, seenId, String.length_append, String.length_ofList, List.length_replicate]
  omega

theorem parseSeen_seenLine (n : Nat) : parseSeen (seenLine n) =
    some (.object [("gossip_id", .string (seenId n)), ("received_at", .string "1970-01-01T00:00:00Z")]) := by
  have hlength : (seenLine n).length - (seenLine 0).length = n := by
    rw [length_seenLine n, Nat.add_sub_cancel_left]
  rw [parseSeen, hlength]
  exact if_pos rfl

theorem seenId_inj {m n : Nat} (h : seenId m = seenId n) : m = n := by
  have hlength := congrArg String.length h
  simp only [seenId, String.length_ofList, List.length_replicate] at hlength
  omega

theorem addLine_seenLine (seen : SeenCache) (n : Nat) :
    seen.addLine parseSeen parseSeenTime 0 300 (seenLine n) = seen.insert (seenId n) 0 := by
  rw [SeenCache.addLine, parseSeen_seenLine]
  rfl

/-- Each line adds an entry of its own. -/
theorem readSeenGossip_seenLines (n : Nat) :
    ∃ seen, readSeenGossip parseSeen parseSeenTime 0 300 ((List.range n).map fun n => some (seenLine n)) ∅ = .ok seen ∧
      seen.entries.length = n ∧ (∀ k, seenId k ∈ seen ↔ k < n) ∧ ∀ e ∈ seen.entries, e.2 = 0 := by
  induction n with
  | zero => exact ⟨∅, rfl, rfl, by simp, by simp⟩
  | succ n ih =>
    obtain ⟨seen, hread, hlength, hmem, hzero⟩ := ih
    have hnew : seenId n ∉ seen := by
      rw [hmem]
      exact Nat.lt_irrefl n
    refine ⟨seen.insert (seenId n) 0, ?_, ?_, ?_, ?_⟩
    · rw [List.range_succ, List.map_append]
      exact (readSeenGossip_concat parseSeen parseSeenTime 0 300 hread (seenLine n)).trans
        (congrArg Except.ok (addLine_seenLine seen n))
    · rw [AList.entries_insert_of_notMem hnew, List.length_cons, hlength]
    · intro k
      rw [AList.mem_insert, hmem]
      constructor
      · rintro (heq | hlt)
        · exact Nat.lt_succ_of_le (Nat.le_of_eq (seenId_inj heq))
        · exact Nat.lt_succ_of_lt hlt
      · intro hlt
        rcases Nat.lt_succ_iff_lt_or_eq.1 hlt with hlt | rfl
        · exact .inr hlt
        · exact .inl rfl
    · intro e he
      rw [AList.entries_insert_of_notMem hnew] at he
      rcases List.mem_cons.1 he with rfl | he
      · rfl
      · exact hzero e he

/-- A node that starts with this log, and is handed the first gossip again in the same second, has 10,001 entries
after the call. -/
theorem exists_dedup_overfull :
    ((startingCache parseSeen parseSeenTime 0 300 seenLog).after 300 ⟨"a", 0⟩).entries.length = 10001 ∧
      ¬ AllSteps (MarkExact 300) (startingCache parseSeen parseSeenTime 0 300 seenLog)
        (driven (SeenCache.after 300) (startingCache parseSeen parseSeenTime 0 300 seenLog) [⟨"a", 0⟩]) := by
  obtain ⟨seen, hread, hlength, hmem, hzero⟩ := readSeenGossip_seenLines 10001
  have hstart : startingCache parseSeen parseSeenTime 0 300 seenLog = seen := by
    have hload : loadSeenGossip parseSeen parseSeenTime 0 300 seenLog = .ok seen := hread
    rw [startingCache, hload]
  have hrecent : seen.recent 0 300 = seen := by
    refine AList.ext (List.filter_eq_self.2 ?_)
    intro e he
    rw [hzero e he]
    rfl
  have hafter : seen.after 300 ⟨"a", 0⟩ = seen := by
    have ha : "a" ∈ seen := (hmem 0).2 (Nat.zero_lt_succ 10000)
    rw [SeenCache.after, markGossipSeen, hrecent, if_pos ha]
  rw [hstart]
  refine ⟨by rw [hafter, hlength], ?_⟩
  rintro ⟨hexact, -⟩
  have hbounded := hexact.bounded
  rw [hafter, hlength] at hbounded
  exact absurd hbounded (Nat.not_succ_le_self 10000)

end OperatingOrganism.ColonyServer

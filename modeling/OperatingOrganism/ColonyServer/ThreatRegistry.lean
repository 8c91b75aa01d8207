import OperatingOrganism.ColonyServer.Storage
import OperatingOrganism.Library.MajorityVote

/-!
# The threat registry

`get_threat_registry` reads the log of threats line by line. A record counts as a vote for its severity, and
the severity of a threat is one with the most votes: the last one of them in the order in which the map of
the votes is iterated, which is random. So two calls that read the same log agree on the severities if and
only if no threat has a tie for the most votes (`severities_agree_iff`). Each record that was written is one
vote (`ballotsFor_records`), and the status page lists the threats whose severity is critical
(`mem_criticalThreats`).

What parses JSON and time stamps is a parameter.
-/

set_option autoImplicit false

namespace OperatingOrganism.ColonyServer

open OperatingOrganism.MajorityVote

/-! ## JSON -/

/-- `serde_json::Value`. A floating point number is kept as its bits. -/
inductive Json where
  | null
  | bool (b : Bool)
  | posInt (n : UInt64)
  | negInt (n : Int)
  | float (bits : UInt64)
  | string (s : String)
  | array (items : List Json)
  | object (fields : List (String × Json))

/-- `Value::get` of a key. -/
def Json.get (key : String) : Json → Option Json
  | .object fields => fields.lookup key
  | _ => none

/-- `Value::as_str` -/
def Json.asStr : Json → Option String
  | .string s => some s
  | _ => none

/-- `Value::as_u64` -/
def Json.asU64 : Json → Option UInt64
  | .posInt n => some n
  | _ => none

/-- `record.get(key).and_then(|v| v.as_str())` -/
def Json.getStr (record : Json) (key : String) : Option String := (record.get key).bind Json.asStr

/-- `record.get("count").and_then(|v| v.as_u64()).unwrap_or(1)` -/
def Json.count (record : Json) : UInt64 := ((record.get "count").bind Json.asU64).getD 1

/-! ## The registry -/

/-- `AggregatedThreat`; a `usize` has 64 bits, and sums wrap around. -/
structure AggregatedThreat where
  threatId : String
  severity : String
  discoveredBy : String
  firstSeen : DateTime
  lastSeen : DateTime
  observerCount : UInt64
  totalIncidents : UInt64
  deriving DecidableEq

/-- The `threats` of a `ThreatRegistry`. -/
abbrev ThreatMap := AList fun _ : String => AggregatedThreat

/-- Severities, with their votes. -/
abbrev VoteMap := AList fun _ : String => Nat

/-- `THREATS_FILE`. A line that cannot be read is `none`. -/
inductive ThreatLog where
  | absent
  /-- The file is there, and cannot be opened. -/
  | closed
  | text (lines : List (Option String))

/-- The orders in which the maps of one call are iterated. -/
structure IterationOrder where
  threats : (AList fun _ : String => VoteMap) → List (Σ _ : String, VoteMap)
  votes : String → VoteMap → List (Σ _ : String, Nat)
  threats_perm : ∀ m, (threats m).Perm m.entries
  votes_perm : ∀ threatId m, (votes threatId m).Perm m.entries

/-- What the loop over the lines has gathered: the registry, the votes, and how often the clock was read. -/
structure ThreatTally where
  threats : ThreatMap
  severityVotes : AList fun _ : String => VoteMap
  readings : Nat

section

variable (parse : String → Option Json) (parseFromRfc3339 : String → Option DateTime)

/-- A time stamp of a record. -/
def Json.getTime (record : Json) (key : String) : Option DateTime :=
  (record.getStr key).bind parseFromRfc3339

/-- `*votes.entry(severity).or_default() += 1` -/
def vote (severity : String) (votes : VoteMap) : VoteMap :=
  votes.insert severity ((votes.lookup severity).getD 0 + 1)

/-- A record of a threat that the registry has. -/
def AggregatedThreat.again (record : Json) (t : AggregatedThreat) : AggregatedThreat :=
  { t with
    totalIncidents := t.totalIncidents + record.count
    observerCount := t.observerCount + 1
    lastSeen := (record.getTime parseFromRfc3339 "timestamp").getD t.lastSeen }

/-- The first record of a threat, and how often the clock was read then. -/
def AggregatedThreat.first (clock : Nat → DateTime) (threatId severity : String) (record : Json)
    (readings : Nat) : AggregatedThreat × Nat :=
  let (firstSeen, readings) :=
    match record.getTime parseFromRfc3339 "first_seen" with
    | some t => (t, readings)
    | none => (clock readings, readings + 1)
  ({ threatId := threatId
     severity := severity
     discoveredBy := (record.getStr "discovered_by").getD "unknown"
     firstSeen := firstSeen
     lastSeen := clock readings
     observerCount := 1
     totalIncidents := record.count }, readings + 1)

/-- The body of the loop, for a record with a threat and a severity. -/
def ThreatTally.add (clock : Nat → DateTime) (threatId severity : String) (record : Json)
    (tally : ThreatTally) : ThreatTally :=
  let severityVotes := tally.severityVotes.insert threatId
    (vote severity ((tally.severityVotes.lookup threatId).getD ∅))
  match tally.threats.lookup threatId with
  | some t =>
    { tally with
      threats := tally.threats.insert threatId (t.again parseFromRfc3339 record)
      severityVotes := severityVotes }
  | none =>
    let (t, readings) := AggregatedThreat.first parseFromRfc3339 clock threatId severity record tally.readings
    ⟨tally.threats.insert threatId t, severityVotes, readings⟩

/-- The body of the loop: a line that is no record is skipped. -/
def ThreatTally.addLine (clock : Nat → DateTime) (tally : ThreatTally) (line : String) : ThreatTally :=
  match parse line with
  | none => tally
  | some record =>
    match record.getStr "threat_id", record.getStr "severity" with
    | some threatId, some severity => tally.add parseFromRfc3339 clock threatId severity record
    | _, _ => tally

/-- The loop over the lines; it ends at one that cannot be read. -/
def readThreats (clock : Nat → DateTime) : List (Option String) → ThreatTally → Except StorageError ThreatTally
  | [], tally => .ok tally
  -- `let line = line?`
  | none :: _, _ => .error .io
  | some line :: lines, tally => readThreats clock lines (tally.addLine parse parseFromRfc3339 clock line)

/-- The body of the loop over the votes. -/
def resolveSeverity (order : IterationOrder) (threats : ThreatMap) (e : Σ _ : String, VoteMap) : ThreatMap :=
  match threats.lookup e.1 with
  | none => threats
  | some t =>
    match elect (order.votes e.1 e.2) with
    | none => threats
    | some best => threats.insert e.1 { t with severity := best.1 }

/-- `get_threat_registry` -/
def getThreatRegistry (order : IterationOrder) (clock : Nat → DateTime) (log : ThreatLog) :
    Except StorageError ThreatMap :=
  match log with
  | .absent => .ok ∅
  | .closed => .error .io
  | .text lines => do
    let tally ← readThreats parse parseFromRfc3339 clock lines ⟨∅, ∅, 0⟩
    .ok ((order.threats tally.severityVotes).foldl (resolveSeverity order) tally.threats)

/-- `critical_threats` of `get_colony_status`, from the threats in the order of the iteration. -/
def criticalThreats (values : List AggregatedThreat) : List String :=
  (values.filter fun t => t.severity = "critical").map AggregatedThreat.threatId

/-! ## The votes of a log -/

/-- The threat and the severity that a line is a vote for. -/
def ballot (line : String) : Option (String × String) :=
  (parse line).bind fun record =>
    (record.getStr "threat_id").bind fun threatId =>
      (record.getStr "severity").map fun severity => (threatId, severity)

/-- The votes for the severity of a threat, in the lines that can be read. -/
def ballotsFor (threatId : String) (lines : List (Option String)) : List String :=
  (lines.filterMap fun line => line.bind (ballot parse)).filterMap fun b =>
    if b.1 = threatId then some b.2 else none

/-- The lines that are read: all of them, if there is a file that can be opened. -/
def ThreatLog.read : ThreatLog → Option (List (Option String))
  | .absent => some []
  | .closed => none
  | .text lines => if none ∈ lines then none else some lines

variable {parse parseFromRfc3339} {clock : Nat → DateTime} {order : IterationOrder} {log : ThreatLog}
  {tally tally' : ThreatTally} {threats : ThreatMap} {id threatId severity line : String} {record : Json}
  {lines : List (Option String)} {votes : VoteMap}

/-- The table has the votes for each severity. -/
def Counts (ballots : List String) (votes : VoteMap) : Prop := Tallies ballots votes.entries

theorem counts_iff {ballots : List String} :
    Counts ballots votes ↔ ∀ x n, n ∈ votes.lookup x ↔ x ∈ ballots ∧ n = ballots.count x :=
  forall₂_congr fun _ _ => iff_congr AList.mem_lookup_iff.symm Iff.rfl

theorem counts_empty : Counts [] ∅ := by simp [Counts, Tallies]

/-- One more vote. -/
theorem Counts.vote {ballots : List String} (h : Counts ballots votes) (severity : String) :
    Counts (ballots ++ [severity]) (vote severity votes) := by
  rw [counts_iff] at h ⊢
  intro x n
  rw [ColonyServer.vote]
  -- the votes for the severity so far; none is 0
  by_cases hx : x = severity
  · have hold : (votes.lookup severity).getD 0 = ballots.count severity := by
      by_cases hmem : severity ∈ ballots
      · rw [(h severity _).2 ⟨hmem, rfl⟩, Option.getD_some]
      · have hnone : votes.lookup severity = none := by
          rw [Option.eq_none_iff_forall_not_mem]
          exact fun n hn => hmem ((h severity n).1 hn).1
        rw [hnone, Option.getD_none, List.count_eq_zero_of_not_mem hmem]
    subst hx
    simp [hold, eq_comm]
  · rw [AList.lookup_insert_ne hx, h x n]
    simp [List.count_append, hx, Ne.symm hx]

/-- What the loop has gathered from lines with these votes. -/
structure Gathered (ballots : String → List String) (tally : ThreatTally) : Prop where
  votes : ∀ id, Counts (ballots id) ((tally.severityVotes.lookup id).getD ∅)
  voted : ∀ id, id ∈ tally.severityVotes ↔ ballots id ≠ []
  known : ∀ id, id ∈ tally.threats ↔ ballots id ≠ []
  named : ∀ id, ∀ t ∈ tally.threats.lookup id, t.threatId = id

theorem gathered_nil : Gathered (fun _ => []) ⟨∅, ∅, 0⟩ :=
  ⟨fun _ => by simpa using counts_empty, fun _ => by simp, fun _ => by simp, fun _ => by simp⟩

theorem severityVotes_add : (tally.add parseFromRfc3339 clock threatId severity record).severityVotes =
    tally.severityVotes.insert threatId (vote severity ((tally.severityVotes.lookup threatId).getD ∅)) := by
  rw [ThreatTally.add]
  split
  · rfl
  · rfl

theorem mem_threats_add : id ∈ (tally.add parseFromRfc3339 clock threatId severity record).threats ↔
    id = threatId ∨ id ∈ tally.threats := by
  rw [ThreatTally.add]
  split
  · simp
  · simp

theorem Gathered.add {ballots : String → List String} (h : Gathered ballots tally) :
    Gathered (fun id => if threatId = id then ballots id ++ [severity] else ballots id)
      (tally.add parseFromRfc3339 clock threatId severity record) := by
  refine ⟨fun id => ?_, fun id => ?_, fun id => ?_, fun id => ?_⟩
  · rw [severityVotes_add]
    by_cases hid : threatId = id
    · subst hid
      simpa using (h.votes threatId).vote severity
    · simpa [hid, AList.lookup_insert_ne (Ne.symm hid)] using h.votes id
  · rw [severityVotes_add, AList.mem_insert, h.voted]
    by_cases hid : threatId = id
    · simp [hid]
    · simp [hid, Ne.symm hid]
  · rw [mem_threats_add, h.known]
    by_cases hid : threatId = id
    · simp [hid]
    · simp [hid, Ne.symm hid]
  · intro t ht
    rw [ThreatTally.add] at ht
    by_cases hid : threatId = id
    · subst hid
      -- the first record of a threat makes its entry, and a later one keeps its name
      cases hthreat : tally.threats.lookup threatId with
      | none =>
        obtain rfl : _ = t := by simpa [hthreat] using ht
        rfl
      | some first =>
        obtain rfl : _ = t := by simpa [hthreat] using ht
        exact h.named threatId first hthreat
    · have hold : t ∈ tally.threats.lookup id := by
        cases hthreat : tally.threats.lookup threatId with
        | none => simpa [hthreat, AList.lookup_insert_ne (Ne.symm hid)] using ht
        | some first => simpa [hthreat, AList.lookup_insert_ne (Ne.symm hid)] using ht
      exact h.named id t hold

/-- A line is no record, and changes nothing, or it is a record of a threat with a severity. -/
theorem addLine_cases (parse : String → Option Json) (parseFromRfc3339 : String → Option DateTime)
    (clock : Nat → DateTime) (tally : ThreatTally) (line : String) :
    ((∀ record, parse line = some record →
        record.getStr "threat_id" = none ∨ record.getStr "severity" = none) ∧
      tally.addLine parse parseFromRfc3339 clock line = tally) ∨
      ∃ record threatId severity, parse line = some record ∧ record.getStr "threat_id" = some threatId ∧
        record.getStr "severity" = some severity ∧
          tally.addLine parse parseFromRfc3339 clock line =
            tally.add parseFromRfc3339 clock threatId severity record := by
  rw [ThreatTally.addLine]
  cases hparse : parse line with
  | none => exact .inl ⟨nofun, rfl⟩
  | some record =>
    cases hid : record.getStr "threat_id" with
    | none => exact .inl ⟨fun _ hrecord => .inl (Option.some.inj hrecord ▸ hid), by simp [hid]⟩
    | some threatId =>
      cases hseverity : record.getStr "severity" with
      | none => exact .inl ⟨fun _ hrecord => .inr (Option.some.inj hrecord ▸ hseverity), by simp [hseverity]⟩
      | some severity => exact .inr ⟨record, threatId, severity, rfl, hid, hseverity, by simp [hid, hseverity]⟩

/-- A line is a vote, or none. -/
theorem Gathered.addLine {ballots : String → List String} (h : Gathered ballots tally) (line : String) :
    Gathered (fun id => ballots id ++ ballotsFor parse id [some line])
      (tally.addLine parse parseFromRfc3339 clock line) := by
  rcases addLine_cases parse parseFromRfc3339 clock tally line with
    ⟨hnone, hadd⟩ | ⟨record, threatId, severity, hparse, hid, hseverity, hadd⟩
  · have hballot : ballot parse line = none := by
      cases hparse : parse line with
      | none => simp [ballot, hparse]
      | some record =>
        rcases hnone record hparse with hid | hseverity
        · simp [ballot, hparse, hid]
        · simp [ballot, hparse, hseverity]
    rw [hadd]
    simpa [ballotsFor, hballot] using h
  · have hballot : ballot parse line = some (threatId, severity) := by simp [ballot, hparse, hid, hseverity]
    have hvote : (fun id => ballots id ++ ballotsFor parse id [some line]) =
        fun id => if threatId = id then ballots id ++ [severity] else ballots id := by
      funext id
      by_cases heq : threatId = id
      · simp [ballotsFor, hballot, heq]
      · simp [ballotsFor, hballot, heq]
    rw [hvote, hadd]
    exact h.add

/-- A loop that comes to its end has read every line, and keeps what each line keeps. -/
theorem readThreats_invariant {P : List (Option String) → ThreatTally → Prop}
    (hstep : ∀ before tally line, P before tally →
      P (before ++ [some line]) (tally.addLine parse parseFromRfc3339 clock line))
    (before : List (Option String)) (h : P before tally)
    (hread : readThreats parse parseFromRfc3339 clock lines tally = .ok tally') :
    none ∉ lines ∧ P (before ++ lines) tally' := by
  induction lines generalizing tally before with
  | nil =>
    cases hread
    simpa using h
  | cons line lines ih =>
    cases line with
    | none => cases hread
    | some line =>
      obtain ⟨hlines, hend⟩ := ih (before ++ [some line]) (hstep before tally line h) hread
      refine ⟨by simpa using hlines, ?_⟩
      rwa [List.append_assoc] at hend

theorem ballotsFor_append (id : String) (lines lines' : List (Option String)) :
    ballotsFor parse id (lines ++ lines') = ballotsFor parse id lines ++ ballotsFor parse id lines' := by
  rw [ballotsFor, List.filterMap_append, List.filterMap_append]
  rfl

/-- What the loop gathers from a log: its votes. -/
theorem readThreats_gathered
    (hread : readThreats parse parseFromRfc3339 clock lines ⟨∅, ∅, 0⟩ = .ok tally') :
    none ∉ lines ∧ Gathered (fun id => ballotsFor parse id lines) tally' := by
  refine readThreats_invariant (P := fun lines tally => Gathered (fun id => ballotsFor parse id lines) tally) ?_
    [] gathered_nil hread
  intro before tally line hgathered
  simp only [ballotsFor_append]
  exact hgathered.addLine line

/-- Every log whose lines can be read is read to its end. -/
theorem exists_readThreats (hlines : none ∉ lines) :
    ∃ tally', readThreats parse parseFromRfc3339 clock lines tally = .ok tally' := by
  induction lines generalizing tally with
  | nil => exact ⟨tally, rfl⟩
  | cons line lines ih =>
    cases line with
    | none => simp at hlines
    | some line => exact ih (by simpa using hlines)

/-! ## The severities -/

theorem lookup_resolveSeverity_of_ne {e : Σ _ : String, VoteMap} (h : e.1 ≠ id) :
    (resolveSeverity order threats e).lookup id = threats.lookup id := by
  rw [resolveSeverity]
  split
  · rfl
  · split
    · rfl
    · rw [AList.lookup_insert_ne h.symm]

/-- The loop over the votes sets the severity of each threat that was voted on. -/
theorem lookup_resolveSeverity {table : List (Σ _ : String, VoteMap)} (hnodup : table.NodupKeys)
    (threats : ThreatMap) (id : String) :
    (table.foldl (resolveSeverity order) threats).lookup id = (threats.lookup id).map fun t =>
      match (table.dlookup id).bind fun votes => elect (order.votes id votes) with
      | some best => { t with severity := best.1 }
      | none => t := by
  -- induction on the votes; a threat comes up once, since the keys of the table differ
  induction table generalizing threats with
  | nil => simp
  | cons e table ih =>
    obtain ⟨id', votes⟩ := e
    obtain ⟨hnotin, hnodup⟩ := List.nodupKeys_cons.1 hnodup
    rw [List.foldl_cons, ih hnodup]
    by_cases hid : id' = id
    · subst hid
      -- the rest of the loop leaves this threat alone
      have hlater : table.dlookup id' = none := List.dlookup_eq_none.2 hnotin
      rw [resolveSeverity]
      cases hthreat : threats.lookup id' with
      | none => simp [hthreat]
      | some t =>
        cases helect : elect (order.votes id' votes) with
        | none => simp [hlater, hthreat, helect]
        | some best => simp [hlater, helect]
    · have hskip : (⟨id', votes⟩ :: table).dlookup id = table.dlookup id :=
        List.dlookup_cons_ne _ _ (Ne.symm hid)
      rw [hskip, lookup_resolveSeverity_of_ne hid]

/-- So it does in every order of the iteration. -/
theorem lookup_foldl_threats (order : IterationOrder) (severityVotes : AList fun _ : String => VoteMap)
    (threats : ThreatMap) (id : String) :
    ((order.threats severityVotes).foldl (resolveSeverity order) threats).lookup id =
      (threats.lookup id).map fun t =>
        match (severityVotes.lookup id).bind fun votes => elect (order.votes id votes) with
        | some best => { t with severity := best.1 }
        | none => t := by
  have hperm := order.threats_perm severityVotes
  have hnodup := (List.perm_nodupKeys hperm).2 severityVotes.nodupKeys
  have hlookup : (order.threats severityVotes).dlookup id = severityVotes.lookup id :=
    List.perm_dlookup id hnodup hperm
  rw [lookup_resolveSeverity hnodup, hlookup]

/-- A log whose lines can be read gives a registry; what the loop gathered does not depend on the order. -/
theorem getThreatRegistry_text (parse : String → Option Json) (parseFromRfc3339 : String → Option DateTime)
    (clock : Nat → DateTime) (hlines : none ∉ lines) :
    ∃ tally, Gathered (fun id => ballotsFor parse id lines) tally ∧ ∀ order,
      getThreatRegistry parse parseFromRfc3339 order clock (.text lines) =
        .ok ((order.threats tally.severityVotes).foldl (resolveSeverity order) tally.threats) := by
  obtain ⟨tally, hread⟩ :
      ∃ tally, readThreats parse parseFromRfc3339 clock lines ⟨∅, ∅, 0⟩ = .ok tally :=
    exists_readThreats hlines
  refine ⟨tally, (readThreats_gathered hread).2, fun order => ?_⟩
  rw [getThreatRegistry, hread]
  rfl

/-- A call that returns a registry has read the log. -/
theorem read_of_getThreatRegistry (h : getThreatRegistry parse parseFromRfc3339 order clock log = .ok threats) :
    ∃ lines, log.read = some lines := by
  cases log with
  | absent => exact ⟨[], rfl⟩
  | closed => cases h
  | text lines =>
    rw [getThreatRegistry] at h
    cases hread : readThreats parse parseFromRfc3339 clock lines ⟨∅, ∅, 0⟩ with
    | error e =>
      rw [hread] at h
      cases h
    | ok tally => exact ⟨lines, if_neg (readThreats_gathered hread).1⟩

/-- A threat that was voted on is in the registry, with the severity that is taken from its votes. -/
theorem getThreatRegistry_spec (hlog : log.read = some lines) (parseFromRfc3339 : String → Option DateTime)
    (clock : Nat → DateTime) (id : String) :
    ∃ votes, Counts (ballotsFor parse id lines) votes ∧ ∀ order, ∃ threats,
      getThreatRegistry parse parseFromRfc3339 order clock log = .ok threats ∧
        (threats.lookup id).map AggregatedThreat.severity =
          (elect (order.votes id votes)).map Sigma.fst := by
  cases log with
  | closed => cases hlog
  | absent =>
    cases hlog
    refine ⟨∅, counts_empty, fun order => ⟨∅, rfl, ?_⟩⟩
    have hnil : order.votes id ∅ = [] := List.perm_nil.1 (order.votes_perm id ∅)
    simp [hnil, elect]
  | text lines' =>
    have hlines : none ∉ lines' ∧ lines' = lines := by simpa [ThreatLog.read] using hlog
    obtain ⟨hnone, rfl⟩ := hlines
    obtain ⟨tally, hgathered, hresult⟩ := getThreatRegistry_text parse parseFromRfc3339 clock hnone
    refine ⟨(tally.severityVotes.lookup id).getD ∅, hgathered.votes id, fun order => ⟨_, hresult order, ?_⟩⟩
    rw [lookup_foldl_threats]
    by_cases hvoted : ballotsFor parse id lines' = []
    · -- nobody voted on it
      have hvotes : tally.severityVotes.lookup id = none :=
        AList.lookup_eq_none.2 fun hmem => (hgathered.voted id).1 hmem hvoted
      have hthreat : tally.threats.lookup id = none :=
        AList.lookup_eq_none.2 fun hmem => (hgathered.known id).1 hmem hvoted
      have hnil : order.votes id ∅ = [] := List.perm_nil.1 (order.votes_perm id ∅)
      simp [hvotes, hthreat, hnil, elect]
    · -- somebody did, so there are votes and an entry
      obtain ⟨votes, hvotes⟩ := Option.isSome_iff_exists.1
        (AList.lookup_isSome.2 ((hgathered.voted id).2 hvoted))
      obtain ⟨t, hthreat⟩ := Option.isSome_iff_exists.1
        (AList.lookup_isSome.2 ((hgathered.known id).2 hvoted))
      have hcounts : Counts (ballotsFor parse id lines') votes := by simpa [hvotes] using hgathered.votes id
      obtain ⟨best, hbest⟩ := exists_elect (hcounts.perm (order.votes_perm id votes)) hvoted
      simp [hvotes, hthreat, hbest]

/-- The severity that is taken from the votes has most of them. -/
theorem elect_votes {ballots : List String} (h : Counts ballots votes) (order : IterationOrder) (id : String) :
    (ballots = [] ∧ (elect (order.votes id votes)).map Sigma.fst = none) ∨
      ∃ s, Wins ballots s ∧ (elect (order.votes id votes)).map Sigma.fst = some s := by
  have htable := h.perm (order.votes_perm id votes)
  by_cases hballots : ballots = []
  · left
    refine ⟨hballots, ?_⟩
    cases helect : elect (order.votes id votes) with
    | none => rfl
    | some best =>
      have hmem := (elect_wins htable helect).1
      simp [hballots] at hmem
  · right
    obtain ⟨best, hbest⟩ := exists_elect htable hballots
    exact ⟨best.1, elect_wins htable hbest, by rw [hbest, Option.map_some]⟩

/-! ## Two calls -/

/-- Whatever the orders and the times of two calls, each threat has the same severity, and one with the most
votes. -/
def SeveritiesAgree (parse : String → Option Json) (parseFromRfc3339 : String → Option DateTime)
    (log : ThreatLog) : Prop :=
  ∀ order₁ order₂ clock₁ clock₂ threats₁ threats₂,
    getThreatRegistry parse parseFromRfc3339 order₁ clock₁ log = .ok threats₁ →
    getThreatRegistry parse parseFromRfc3339 order₂ clock₂ log = .ok threats₂ →
    ∀ id, (threats₁.lookup id).map AggregatedThreat.severity = (threats₂.lookup id).map AggregatedThreat.severity ∧
      ∀ t ∈ threats₁.lookup id, ∀ lines, log.read = some lines → Wins (ballotsFor parse id lines) t.severity

/-- The iteration in which a severity comes last. -/
def IterationOrder.last (severity : String) : IterationOrder where
  threats m := m.entries
  votes _ m := moveLast severity m.entries
  threats_perm _ := .refl _
  votes_perm _ m := moveLast_perm severity m.entries

/-- Each severity with the most votes comes last in some order, and so there is only one. -/
theorem SeveritiesAgree.decided (h : SeveritiesAgree parse parseFromRfc3339 log) (hlog : log.read = some lines)
    (id : String) : Decided (ballotsFor parse id lines) := by
  intro x y hx hy
  let clock : Nat → DateTime := fun _ => .ofSeconds 0
  -- one call takes the votes for `x` last, the other those for `y`
  obtain ⟨votes, hcounts, hcalls⟩ := getThreatRegistry_spec hlog parseFromRfc3339 clock id
  obtain ⟨threats₁, hcall₁, hseverity₁⟩ := hcalls (.last x)
  obtain ⟨threats₂, hcall₂, hseverity₂⟩ := hcalls (.last y)
  have hsame := (h _ _ _ _ _ _ hcall₁ hcall₂ id).1
  rw [hseverity₁, hseverity₂, IterationOrder.last, IterationOrder.last, elect_moveLast hcounts hx,
    elect_moveLast hcounts hy] at hsame
  simpa using hsame

/-- Two calls agree on the severities if and only if the log cannot be read or no threat has a tie. -/
theorem severities_agree_iff (parse : String → Option Json) (parseFromRfc3339 : String → Option DateTime)
    (log : ThreatLog) :
    SeveritiesAgree parse parseFromRfc3339 log ↔
      ∀ lines, log.read = some lines → ∀ id, Decided (ballotsFor parse id lines) := by
  constructor
  · exact fun hagree lines hlog id => hagree.decided hlog id
  · intro hdecided order₁ order₂ clock₁ clock₂ threats₁ threats₂ hcall₁ hcall₂ id
    obtain ⟨lines, hlog⟩ := read_of_getThreatRegistry hcall₁
    obtain ⟨votes₁, hcounts₁, hcalls₁⟩ := getThreatRegistry_spec hlog parseFromRfc3339 clock₁ id
    obtain ⟨votes₂, hcounts₂, hcalls₂⟩ := getThreatRegistry_spec hlog parseFromRfc3339 clock₂ id
    obtain ⟨threats₁', hcall₁', hseverity₁⟩ := hcalls₁ order₁
    obtain ⟨threats₂', hcall₂', hseverity₂⟩ := hcalls₂ order₂
    obtain rfl : threats₁' = threats₁ := Except.ok.inj (hcall₁'.symm.trans hcall₁)
    obtain rfl : threats₂' = threats₂ := Except.ok.inj (hcall₂'.symm.trans hcall₂)
    -- the two tables may differ, but they count the same votes
    rw [hseverity₁, hseverity₂]
    rcases elect_votes hcounts₁ order₁ id with ⟨hnil, hnone₁⟩ | ⟨x, hx, hsome₁⟩
    · rcases elect_votes hcounts₂ order₂ id with ⟨-, hnone₂⟩ | ⟨y, hy, -⟩
      · -- nobody voted: neither call has the threat
        refine ⟨hnone₁.trans hnone₂.symm, fun t ht => ?_⟩
        rw [hnone₁, Option.map_eq_none_iff] at hseverity₁
        rw [hseverity₁] at ht
        cases ht
      · exact absurd hy.1 (by simp [hnil])
    · rcases elect_votes hcounts₂ order₂ id with ⟨hnil, -⟩ | ⟨y, hy, hsome₂⟩
      · exact absurd hx.1 (by simp [hnil])
      · refine ⟨?_, fun t ht lines' hlog' => ?_⟩
        · rw [hsome₁, hsome₂, hdecided lines hlog id x y hx hy]
        · obtain rfl : lines' = lines := Option.some.inj (hlog'.symm.trans hlog)
          rw [hsome₁, ht, Option.map_some] at hseverity₁
          rwa [Option.some.inj hseverity₁]

/-! ## Critical threats -/

/-- The threats keep their names. -/
theorem threatId_of_getThreatRegistry
    (h : getThreatRegistry parse parseFromRfc3339 order clock log = .ok threats) {t : AggregatedThreat}
    (ht : t ∈ threats.lookup id) : t.threatId = id := by
  obtain ⟨lines, hlog⟩ := read_of_getThreatRegistry h
  cases log with
  | closed => cases hlog
  | absent =>
    cases h
    simp at ht
  | text lines' =>
    have hlines : none ∉ lines' ∧ lines' = lines := by simpa [ThreatLog.read] using hlog
    obtain ⟨tally, hgathered, hresult⟩ := getThreatRegistry_text parse parseFromRfc3339 clock hlines.1
    obtain rfl : _ = threats := Except.ok.inj ((hresult order).symm.trans h)
    rw [lookup_foldl_threats, Option.mem_map] at ht
    obtain ⟨first, hfirst, rfl⟩ := ht
    have hname := hgathered.named id first hfirst
    split
    · exact hname
    · exact hname

/-- The critical threats of the status page are those whose severity is critical. -/
theorem mem_criticalThreats (h : getThreatRegistry parse parseFromRfc3339 order clock log = .ok threats)
    {values : List AggregatedThreat} (hvalues : values.Perm (threats.entries.map Sigma.snd)) :
    id ∈ criticalThreats values ↔ (threats.lookup id).map AggregatedThreat.severity = some "critical" := by
  have hmem : ∀ t, t ∈ values ↔ ∃ id, t ∈ threats.lookup id := by
    intro t
    simp only [hvalues.mem_iff, List.mem_map, Sigma.exists, AList.mem_lookup_iff]
    simp
  simp only [criticalThreats, List.mem_map, List.mem_filter, hmem, decide_eq_true_eq, Option.map_eq_some_iff]
  constructor
  · rintro ⟨t, ⟨⟨id', ht⟩, hcritical⟩, rfl⟩
    have hname := threatId_of_getThreatRegistry h ht
    exact ⟨t, hname ▸ ht, hcritical⟩
  · rintro ⟨t, ht, hcritical⟩
    exact ⟨t, ⟨⟨id, ht⟩, hcritical⟩, threatId_of_getThreatRegistry h ht⟩

/-! ## The records of `process_threats` -/

/-- The record that `process_threats` writes, as JSON. -/
def ThreatRecord.toJson (toRfc3339 : DateTime → String) (record : ThreatRecord) : Json :=
  .object
    [("threat_id", .string record.threatId), ("severity", .string record.severity),
      ("discovered_by", .string record.discoveredBy), ("first_seen", .string (toRfc3339 record.firstSeen)),
      ("count", .posInt record.count), ("timestamp", .string (toRfc3339 record.timestamp))]

/-- Each record that was written is one vote. -/
theorem ballotsFor_records {print : Json → String} {toRfc3339 : DateTime → String}
    (hparse : ∀ json, parse (print json) = some json) (records : List ThreatRecord) (id : String) :
    ballotsFor parse id (records.map fun record => some (print (record.toJson toRfc3339))) =
      (records.filter fun record => record.threatId = id).map ThreatRecord.severity := by
  have hballot : ∀ record : ThreatRecord,
      ballot parse (print (record.toJson toRfc3339)) = some (record.threatId, record.severity) := by
    intro record
    rw [ballot, hparse]
    rfl
  induction records with
  | nil => rfl
  | cons record records ih =>
    rw [ballotsFor] at ih ⊢
    by_cases hid : record.threatId = id
    · simpa [hballot, hid] using ih
    · simpa [hballot, hid] using ih

/-! ## A tie -/

/-- Two records of a threat, with one vote for each of two severities. -/
def tiedLines : List String :=
  ["\x7b\"threat_id\":\"T-1\",\"severity\":\"critical\"\x7d", "\x7b\"threat_id\":\"T-1\",\"severity\":\"low\"\x7d"]

/-- What the parser makes of them. -/
def parseTied (line : String) : Option Json :=
  (tiedLines.zip
    [Json.object [("threat_id", .string "T-1"), ("severity", .string "critical")],
      Json.object [("threat_id", .string "T-1"), ("severity", .string "low")]]).lookup line

/-- They do not settle the severity. -/
theorem not_severities_agree_tied :
    ¬ SeveritiesAgree parseTied (fun _ => none) (.text (tiedLines.map some)) := by
  intro hagree
  have hballots : ballotsFor parseTied "T-1" (tiedLines.map some) = ["critical", "low"] := by decide
  have hlog : (ThreatLog.text (tiedLines.map some)).read = some (tiedLines.map some) := by decide
  have hdecided := hagree.decided hlog "T-1"
  rw [hballots] at hdecided
  -- each of the two has one vote, and so both win
  have hwins : ∀ x ∈ ["critical", "low"], Wins ["critical", "low"] x := by
    intro x hx
    refine ⟨hx, fun y => ?_⟩
    have hone : ["critical", "low"].count y ≤ 1 := List.nodup_iff_count_le_one.1 (by decide) y
    have hpos : 0 < ["critical", "low"].count x := List.count_pos_iff.2 hx
    omega
  exact absurd (hdecided _ _ (hwins "critical" (by simp)) (hwins "low" (by simp))) (by decide)

end

end OperatingOrganism.ColonyServer

import Mathlib.Algebra.BigOperators.Group.List.Basic
import Mathlib.Data.List.Dedup
import OperatingOrganism.ColonyServer.ThreatRegistry

/-!
# What the threat registry counts

The entry of a threat is a fold over its records in the log. Its `observer_count` grows by one with every record, and
so counts the organisms only if none of them reported the threat twice; its `total_incidents` is a sum of 64 bits
(`countsExactly_iff`). Its `last_seen` is the time of the last record from the second record on; for the first one it
is the time of the call (`lastSeenRecorded_iff`).
-/

set_option autoImplicit false

namespace OperatingOrganism.ColonyServer

/-! ## The records of a threat -/

section

variable (parse : String → Option Json) (parseFromRfc3339 : String → Option DateTime)

/-- The threat that a line is a record of. -/
def threatRecord (line : String) : Option (String × Json) :=
  (parse line).bind fun record =>
    (record.getStr "threat_id").bind fun threatId =>
      (record.getStr "severity").map fun _ => (threatId, record)

/-- The records of a threat, in the lines that can be read. -/
def recordsOf (threatId : String) (lines : List (Option String)) : List Json :=
  (lines.filterMap fun line => line.bind (threatRecord parse)).filterMap fun r =>
    if r.1 = threatId then some r.2 else none

/-- The organism that made a record. -/
def Json.reporter (record : Json) : String := (record.getStr "discovered_by").getD "unknown"

/-- The organisms that reported, one for each record. -/
def reporters (records : List Json) : List String := records.map Json.reporter

/-- The sum of the counts. -/
def incidents (records : List Json) : Nat := (records.map fun record => record.count.toNat).sum

/-- `last_seen` after further records. -/
def lastSeenAfter (lastSeen : DateTime) (records : List Json) : DateTime :=
  records.foldl (fun t record => (record.getTime parseFromRfc3339 "timestamp").getD t) lastSeen

/-- The entry of a threat with these records. -/
structure Aggregates (clock : Nat → DateTime) (records : List Json) (t : AggregatedThreat) : Prop where
  observers : t.observerCount.toNat = records.length % 2 ^ 64
  incidents : t.totalIncidents.toNat = incidents records % 2 ^ 64
  lastSeen : ∃ n first rest, records = first :: rest ∧ t.lastSeen = lastSeenAfter parseFromRfc3339 (clock n) rest

/-- Every threat with a record has its entry. -/
structure AggregatesEach (clock : Nat → DateTime) (records : String → List Json) (threats : ThreatMap) : Prop where
  known : ∀ id, threats.lookup id = none → records id = []
  entries : ∀ id, ∀ t ∈ threats.lookup id, Aggregates parseFromRfc3339 clock (records id) t

variable {parse parseFromRfc3339} {clock : Nat → DateTime} {order : IterationOrder} {log : ThreatLog}
  {tally : ThreatTally} {threats : ThreatMap} {id threatId severity : String} {record : Json} {records : List Json}
  {lines : List (Option String)} {t : AggregatedThreat} {now : DateTime}

theorem recordsOf_append (id : String) (lines lines' : List (Option String)) :
    recordsOf parse id (lines ++ lines') = recordsOf parse id lines ++ recordsOf parse id lines' := by
  rw [recordsOf, List.filterMap_append, List.filterMap_append]
  rfl

theorem length_recordsOf (id : String) (lines : List (Option String)) : (recordsOf parse id lines).length =
    ((lines.filterMap fun line => line.bind (threatRecord parse)).map Prod.fst).count id := by
  rw [recordsOf]
  induction lines.filterMap fun line => line.bind (threatRecord parse) with
  | nil => rfl
  | cons r rest ih =>
    rw [List.map_cons, List.count_cons, ← ih]
    by_cases hid : r.1 = id
    · simp [hid]
    · simp [hid]

/-! ## The loop -/

theorem aggregates_first (threatId severity : String) (record : Json) (readings : Nat) :
    Aggregates parseFromRfc3339 clock [record]
      (AggregatedThreat.first parseFromRfc3339 clock threatId severity record readings).1 where
  observers := rfl
  incidents := by
    rw [AggregatedThreat.first, ColonyServer.incidents, List.map_singleton, List.sum_singleton,
      Nat.mod_eq_of_lt record.count.toNat_lt]
  lastSeen := ⟨_, record, [], rfl, rfl⟩

theorem Aggregates.again (h : Aggregates parseFromRfc3339 clock records t) (record : Json) :
    Aggregates parseFromRfc3339 clock (records ++ [record]) (t.again parseFromRfc3339 record) where
  observers := by
    rw [AggregatedThreat.again, UInt64.toNat_add, h.observers, List.length_append, List.length_singleton]
    exact Nat.mod_add_mod _ _ _
  incidents := by
    rw [AggregatedThreat.again, UInt64.toNat_add, h.incidents, ColonyServer.incidents, ColonyServer.incidents,
      List.map_append, List.sum_append, List.map_singleton, List.sum_singleton]
    exact Nat.mod_add_mod _ _ _
  lastSeen := by
    obtain ⟨n, first, rest, rfl, hseen⟩ := h.lastSeen
    refine ⟨n, first, rest ++ [record], rfl, ?_⟩
    rw [AggregatedThreat.again, hseen, lastSeenAfter, lastSeenAfter, List.foldl_append]
    rfl

/-- The entry of the threat after its record. -/
theorem lookup_threats_add_self :
    (tally.add parseFromRfc3339 clock threatId severity record).threats.lookup threatId =
      some (match tally.threats.lookup threatId with
        | some t => t.again parseFromRfc3339 record
        | none => (AggregatedThreat.first parseFromRfc3339 clock threatId severity record tally.readings).1) := by
  rw [ThreatTally.add]
  cases tally.threats.lookup threatId with
  | none => exact AList.lookup_insert _
  | some t => exact AList.lookup_insert _

/-- The entries of the other threats stay. -/
theorem lookup_threats_add_of_ne (h : threatId ≠ id) :
    (tally.add parseFromRfc3339 clock threatId severity record).threats.lookup id = tally.threats.lookup id := by
  rw [ThreatTally.add]
  cases tally.threats.lookup threatId with
  | none => exact AList.lookup_insert_ne h.symm
  | some t => exact AList.lookup_insert_ne h.symm

/-- One more record of a threat. -/
theorem AggregatesEach.add {records : String → List Json}
    (h : AggregatesEach parseFromRfc3339 clock records tally.threats) :
    AggregatesEach parseFromRfc3339 clock
      (fun id => if threatId = id then records id ++ [record] else records id)
      (tally.add parseFromRfc3339 clock threatId severity record).threats := by
  constructor
  · intro id hnone
    by_cases heq : threatId = id
    · subst heq
      rw [lookup_threats_add_self] at hnone
      cases hnone
    · rw [lookup_threats_add_of_ne heq] at hnone
      rw [if_neg heq]
      exact h.known id hnone
  · intro id t ht
    by_cases heq : threatId = id
    · subst heq
      rw [lookup_threats_add_self, Option.mem_some_iff] at ht
      rw [if_pos rfl, ← ht]
      -- the first record of the threat, or a later one
      cases hthreat : tally.threats.lookup threatId with
      | none =>
        rw [h.known threatId hthreat]
        exact aggregates_first threatId severity record _
      | some old => exact (h.entries threatId old hthreat).again record
    · rw [lookup_threats_add_of_ne heq] at ht
      rw [if_neg heq]
      exact h.entries id t ht

theorem AggregatesEach.addLine {records : String → List Json}
    (h : AggregatesEach parseFromRfc3339 clock records tally.threats) (line : String) :
    AggregatesEach parseFromRfc3339 clock (fun id => records id ++ recordsOf parse id [some line])
      (tally.addLine parse parseFromRfc3339 clock line).threats := by
  rcases addLine_cases parse parseFromRfc3339 clock tally line with
    ⟨hnone, hadd⟩ | ⟨record, threatId, severity, hparse, hid, hseverity, hadd⟩
  · have hrecord : threatRecord parse line = none := by
      cases hparse : parse line with
      | none => simp [threatRecord, hparse]
      | some record =>
        rcases hnone record hparse with hid | hseverity
        · simp [threatRecord, hparse, hid]
        · simp [threatRecord, hparse, hseverity]
    rw [hadd]
    simpa [recordsOf, hrecord] using h
  · have hrecord : threatRecord parse line = some (threatId, record) := by
      simp [threatRecord, hparse, hid, hseverity]
    have hrecords : (fun id => records id ++ recordsOf parse id [some line]) =
        fun id => if threatId = id then records id ++ [record] else records id := by
      funext id
      by_cases heq : threatId = id
      · simp [recordsOf, hrecord, heq]
      · simp [recordsOf, hrecord, heq]
    rw [hrecords, hadd]
    exact h.add

theorem aggregatesEach_empty : AggregatesEach parseFromRfc3339 clock (fun _ => []) ∅ where
  known _ _ := rfl
  entries id t ht := by
    rw [AList.lookup_empty] at ht
    cases ht

theorem readThreats_aggregates {tally' : ThreatTally}
    (hread : readThreats parse parseFromRfc3339 clock lines ⟨∅, ∅, 0⟩ = .ok tally') :
    AggregatesEach parseFromRfc3339 clock (fun id => recordsOf parse id lines) tally'.threats := by
  refine (readThreats_invariant
    (P := fun lines tally => AggregatesEach parseFromRfc3339 clock (fun id => recordsOf parse id lines) tally.threats)
    ?_ [] aggregatesEach_empty hread).2
  intro before tally line haggregates
  simp only [recordsOf_append]
  exact haggregates.addLine line

/-- The election of the severities leaves the other fields. -/
theorem Aggregates.withSeverity (h : Aggregates parseFromRfc3339 clock records t) (severity : String) :
    Aggregates parseFromRfc3339 clock records { t with severity := severity } :=
  ⟨h.observers, h.incidents, h.lastSeen⟩

/-- What a call returns: an entry for every threat of the log. -/
theorem getThreatRegistry_aggregates (hlog : log.read = some lines) (hid : recordsOf parse id lines ≠ [])
    (hcall : getThreatRegistry parse parseFromRfc3339 order clock log = .ok threats) :
    ∃ t ∈ threats.lookup id, Aggregates parseFromRfc3339 clock (recordsOf parse id lines) t := by
  cases log with
  | closed => cases hlog
  | absent =>
    cases hlog
    exact absurd rfl hid
  | text lines' =>
    have hlines : none ∉ lines' ∧ lines' = lines := by simpa [ThreatLog.read] using hlog
    obtain ⟨hnone, rfl⟩ := hlines
    obtain ⟨tally, hread⟩ :
        ∃ tally, readThreats parse parseFromRfc3339 clock lines' ⟨∅, ∅, 0⟩ = .ok tally :=
      exists_readThreats hnone
    rw [getThreatRegistry, hread] at hcall
    obtain rfl := Except.ok.inj hcall
    have haggregates := readThreats_aggregates hread
    cases hthreat : tally.threats.lookup id with
    | none => exact absurd (haggregates.known id hthreat) hid
    | some t =>
      have hentry := haggregates.entries id t hthreat
      rw [lookup_foldl_threats, hthreat]
      refine ⟨_, rfl, ?_⟩
      split
      · exact hentry.withSeverity _
      · exact hentry

/-- Every log that can be read gives a registry. -/
theorem exists_getThreatRegistry (hlog : log.read = some lines) (parse : String → Option Json)
    (parseFromRfc3339 : String → Option DateTime) (order : IterationOrder) (clock : Nat → DateTime) :
    ∃ threats, getThreatRegistry parse parseFromRfc3339 order clock log = .ok threats := by
  cases log with
  | absent => exact ⟨∅, rfl⟩
  | closed => cases hlog
  | text lines' =>
    have hlines : none ∉ lines' ∧ lines' = lines := by simpa [ThreatLog.read] using hlog
    obtain ⟨tally, -, hresult⟩ := getThreatRegistry_text parse parseFromRfc3339 clock hlines.1
    exact ⟨_, hresult order⟩

/-! ## Observers and incidents -/

/-- The records by organisms that had reported the threat before. -/
def repeatedReports (records : List Json) : Nat := (reporters records).length - (reporters records).dedup.length

/-- What the entry of a threat with these records should say. -/
structure Exact (records : List Json) (t : AggregatedThreat) : Prop where
  observers : t.observerCount.toNat = (reporters records).dedup.length
  incidents : t.totalIncidents.toNat = incidents records

/-- No organism has reported the threat again, up to multiples of 2 ^ 64, and the organisms and the incidents fit into
64 bits. -/
structure ReportedOnce (records : List Json) : Prop where
  repeated : 2 ^ 64 ∣ repeatedReports records
  observers : (reporters records).dedup.length < 2 ^ 64
  incidents : incidents records < 2 ^ 64

/-- In a log with fewer than 2 ^ 64 records of the threat, the organisms that reported it differ. -/
theorem reportedOnce_iff (hlength : records.length < 2 ^ 64) :
    ReportedOnce records ↔ (reporters records).Nodup ∧ incidents records < 2 ^ 64 := by
  have hreporters : (reporters records).length < 2 ^ 64 := by rwa [reporters, List.length_map]
  constructor
  · intro honce
    have hle : repeatedReports records ≤ (reporters records).length := Nat.sub_le _ _
    have hnone : repeatedReports records = 0 :=
      Nat.eq_zero_of_dvd_of_lt honce.repeated (Nat.lt_of_le_of_lt hle hreporters)
    have hsub := List.dedup_sublist (reporters records)
    refine ⟨List.dedup_eq_self.1 ?_, honce.incidents⟩
    exact hsub.eq_of_length_le (Nat.le_of_sub_eq_zero hnone)
  · rintro ⟨hnodup, hincidents⟩
    refine ⟨?_, ?_, hincidents⟩
    · rw [repeatedReports, hnodup.dedup, Nat.sub_self]
      exact Nat.dvd_zero _
    · rwa [hnodup.dedup]

/-- A remainder is what is left after multiples. -/
theorem mod_eq_iff_dvd_sub {n d m : Nat} (hm : 0 < m) (hd : d ≤ n) : n % m = d ↔ m ∣ n - d ∧ d < m := by
  constructor
  · rintro rfl
    exact ⟨Nat.dvd_sub_mod n, Nat.mod_lt n hm⟩
  · rintro ⟨hdvd, hlt⟩
    obtain ⟨k, hk⟩ := hdvd
    rw [(Nat.sub_eq_iff_eq_add' hd).1 hk, Nat.add_mul_mod_self_left, Nat.mod_eq_of_lt hlt]

theorem Aggregates.exact_iff (h : Aggregates parseFromRfc3339 clock records t) :
    Exact records t ↔ ReportedOnce records := by
  have hle : (reporters records).dedup.length ≤ (reporters records).length :=
    (List.dedup_sublist _).length_le
  have hlength : (reporters records).length = records.length := List.length_map _
  have hobservers : t.observerCount.toNat = (reporters records).dedup.length ↔
      2 ^ 64 ∣ repeatedReports records ∧ (reporters records).dedup.length < 2 ^ 64 := by
    rw [h.observers, ← hlength]
    exact mod_eq_iff_dvd_sub (Nat.two_pow_pos 64) hle
  have hincidents : t.totalIncidents.toNat = ColonyServer.incidents records ↔
      ColonyServer.incidents records < 2 ^ 64 := by
    rw [h.incidents]
    exact Nat.mod_eq_iff_lt (Nat.two_pow_pos 64).ne'
  constructor
  · intro hexact
    obtain ⟨hrepeated, hlt⟩ := hobservers.1 hexact.observers
    exact ⟨hrepeated, hlt, hincidents.1 hexact.incidents⟩
  · intro honce
    exact ⟨hobservers.2 ⟨honce.repeated, honce.observers⟩, hincidents.2 honce.incidents⟩

/-- In every registry that a call returns, each threat of the log has the number of the organisms that reported it and
the sum of the counts. -/
def CountsExactly (parse : String → Option Json) (parseFromRfc3339 : String → Option DateTime)
    (log : ThreatLog) : Prop :=
  ∀ order clock threats, getThreatRegistry parse parseFromRfc3339 order clock log = .ok threats →
    ∀ lines, log.read = some lines → ∀ id, recordsOf parse id lines ≠ [] →
      ∃ t ∈ threats.lookup id, Exact (recordsOf parse id lines) t

/-- Where it has, no threat was reported twice by one organism. -/
theorem CountsExactly.reportedOnce (h : CountsExactly parse parseFromRfc3339 log) (hlog : log.read = some lines)
    (id : String) : ReportedOnce (recordsOf parse id lines) := by
  by_cases hid : recordsOf parse id lines = []
  · -- a threat without records has none repeated
    rw [hid]
    exact ⟨Nat.dvd_zero _, Nat.two_pow_pos 64, Nat.two_pow_pos 64⟩
  · obtain ⟨threats, hcall⟩ := exists_getThreatRegistry hlog parse parseFromRfc3339 (.last "") fun _ => .ofSeconds 0
    obtain ⟨t, ht, hentry⟩ := h _ _ _ hcall lines hlog id hid
    obtain ⟨t', ht', haggregates⟩ := getThreatRegistry_aggregates hlog hid hcall
    obtain rfl : t = t' := Option.mem_unique ht ht'
    exact haggregates.exact_iff.1 hentry

/-- So it has if and only if no organism reported a threat twice and the counts of each threat add up to less than
2 ^ 64, or the log cannot be read. -/
theorem countsExactly_iff (parse : String → Option Json) (parseFromRfc3339 : String → Option DateTime)
    (log : ThreatLog) :
    CountsExactly parse parseFromRfc3339 log ↔
      ∀ lines, log.read = some lines → ∀ id, ReportedOnce (recordsOf parse id lines) := by
  constructor
  · exact fun hexact lines hlog id => hexact.reportedOnce hlog id
  · intro honce order clock threats hcall lines hlog id hid
    obtain ⟨t, ht, haggregates⟩ := getThreatRegistry_aggregates hlog hid hcall
    exact ⟨t, ht, haggregates.exact_iff.2 (honce lines hlog id)⟩

end

/-- The record of one incident of a threat that an organism reported. -/
def reportJson (timestamp : String) : Json :=
  .object
    [("count", .posInt 1), ("discovered_by", .string "organism-1"), ("severity", .string "low"),
      ("threat_id", .string "T-1"), ("timestamp", .string timestamp)]

/-- Its line in the log. -/
def reportLine (timestamp : String) : String :=
  "\x7b\"count\":1,\"discovered_by\":\"organism-1\",\"severity\":\"low\",\"threat_id\":\"T-1\",\"timestamp\":\""
    ++ timestamp ++ "\"\x7d"

/-- Two times, a second apart. -/
def reportTimes : List (String × DateTime) :=
  [("2023-11-14T22:13:20Z", .ofSeconds 1700000000), ("2023-11-14T22:13:21Z", .ofSeconds 1700000001)]

/-- What the parser makes of the lines with these times. -/
def parseReport (line : String) : Option Json :=
  (reportTimes.map fun time => (reportLine time.1, reportJson time.1)).lookup line

def parseReportTime (stamp : String) : Option DateTime := reportTimes.lookup stamp

/-- A log with the records of the first `n` times. -/
def reportLog (n : Nat) : List (Option String) := (reportTimes.take n).map fun time => some (reportLine time.1)

/-- The organism that reported twice is counted as two. -/
theorem not_countsExactly_report :
    ¬ CountsExactly parseReport parseReportTime (.text (reportLog 2)) := by
  intro hexact
  have hlog : (ThreatLog.text (reportLog 2)).read = some (reportLog 2) := by decide +kernel
  have honce := (hexact.reportedOnce hlog "T-1").repeated
  have hone : repeatedReports (recordsOf parseReport "T-1" (reportLog 2)) = 1 := by decide +kernel
  rw [hone] at honce
  exact absurd honce (by decide)

section

variable {parse : String → Option Json} {parseFromRfc3339 : String → Option DateTime} {clock : Nat → DateTime}
  {log : ThreatLog} {id : String} {record : Json} {records : List Json} {lines : List (Option String)}
  {t : AggregatedThreat} {now : DateTime}

/-! ## The last time -/

/-- Every record of a threat has a time stamp that can be read. -/
def Stamped (parse : String → Option Json) (parseFromRfc3339 : String → Option DateTime) (log : ThreatLog) : Prop :=
  ∀ lines, log.read = some lines → ∀ id, ∀ record ∈ recordsOf parse id lines,
    (record.getTime parseFromRfc3339 "timestamp").isSome

/-- Whenever the log is read, each of its threats was last seen at the time of its last record. -/
def LastSeenRecorded (parse : String → Option Json) (parseFromRfc3339 : String → Option DateTime)
    (log : ThreatLog) : Prop :=
  ∀ order clock threats, getThreatRegistry parse parseFromRfc3339 order clock log = .ok threats →
    ∀ lines, log.read = some lines → ∀ id, ∀ last ∈ (recordsOf parse id lines).getLast?,
      ∃ t ∈ threats.lookup id, last.getTime parseFromRfc3339 "timestamp" = some t.lastSeen

/-- After further records the time is that of the last one. -/
theorem lastSeenAfter_of_getLast? {last : Json} (hlast : last ∈ records.getLast?)
    (hstamp : (last.getTime parseFromRfc3339 "timestamp").isSome) (lastSeen : DateTime) :
    last.getTime parseFromRfc3339 "timestamp" = some (lastSeenAfter parseFromRfc3339 lastSeen records) := by
  obtain ⟨before, rfl⟩ := List.getLast?_eq_some_iff.1 hlast
  obtain ⟨time, htime⟩ := Option.isSome_iff_exists.1 hstamp
  rw [lastSeenAfter, List.foldl_append, List.foldl_cons, List.foldl_nil, htime, Option.getD_some]

/-- The time of the first record is that of the call, whatever its time stamp. -/
theorem Aggregates.lastSeen_singleton (h : Aggregates parseFromRfc3339 (fun _ => now) [record] t) :
    t.lastSeen = now := by
  obtain ⟨n, first, rest, hrecords, hseen⟩ := h.lastSeen
  obtain ⟨rfl, rfl⟩ := List.cons.inj hrecords
  exact hseen

/-- From the second record on it is that of the last one. -/
theorem Aggregates.lastSeen_of_getLast? {last : Json} (h : Aggregates parseFromRfc3339 clock records t)
    (hlength : records.length ≠ 1) (hlast : last ∈ records.getLast?)
    (hstamp : (last.getTime parseFromRfc3339 "timestamp").isSome) :
    last.getTime parseFromRfc3339 "timestamp" = some t.lastSeen := by
  obtain ⟨n, first, rest, rfl, hseen⟩ := h.lastSeen
  cases rest with
  | nil => exact absurd rfl hlength
  | cons second rest =>
    rw [List.getLast?_cons_cons] at hlast
    rw [hseen]
    exact lastSeenAfter_of_getLast? hlast hstamp _

/-- Where it was, no threat has just one record: calls at two times would report two times for it. -/
theorem LastSeenRecorded.length_ne_one (h : LastSeenRecorded parse parseFromRfc3339 log)
    (hlog : log.read = some lines) (id : String) : (recordsOf parse id lines).length ≠ 1 := by
  intro hone
  obtain ⟨record, hrecord⟩ := List.length_eq_one_iff.1 hone
  have hid : recordsOf parse id lines ≠ [] := by simp [hrecord]
  have hnow : ∀ now, record.getTime parseFromRfc3339 "timestamp" = some now := by
    intro now
    obtain ⟨threats, hcall⟩ := exists_getThreatRegistry hlog parse parseFromRfc3339 (.last "") fun _ => now
    obtain ⟨t, ht, htime⟩ := h _ _ _ hcall lines hlog id record (by simp [hrecord])
    obtain ⟨t', ht', haggregates⟩ := getThreatRegistry_aggregates hlog hid hcall
    obtain rfl : t = t' := Option.mem_unique ht ht'
    rw [hrecord] at haggregates
    rw [htime, haggregates.lastSeen_singleton]
  have hsame := (hnow (.ofSeconds 0)).symm.trans (hnow (.ofSeconds 1))
  exact absurd hsame (by decide)

/-- In a log with time stamps, each threat was last seen at the time of its last record if and only if no threat has
just one record, or the log cannot be read. -/
theorem lastSeenRecorded_iff (hstamped : Stamped parse parseFromRfc3339 log) :
    LastSeenRecorded parse parseFromRfc3339 log ↔
      ∀ lines, log.read = some lines → ∀ id, (recordsOf parse id lines).length ≠ 1 := by
  constructor
  · exact fun hrecorded lines hlog id => hrecorded.length_ne_one hlog id
  · intro hmany order clock threats hcall lines hlog id last hlast
    have hmem : last ∈ recordsOf parse id lines := List.mem_of_getLast? hlast
    obtain ⟨t, ht, haggregates⟩ := getThreatRegistry_aggregates hlog (List.ne_nil_of_mem hmem) hcall
    exact ⟨t, ht, haggregates.lastSeen_of_getLast? (hmany lines hlog id) hlast (hstamped lines hlog id last hmem)⟩

end

/-- The records of these logs have time stamps. -/
theorem stamped_reportLog {n : Nat} (hn : n ≤ 2) : Stamped parseReport parseReportTime (.text (reportLog n)) := by
  intro lines hlog id record hrecord
  have hlines : none ∉ reportLog n ∧ reportLog n = lines := by simpa [ThreatLog.read] using hlog
  rw [← hlines.2] at hrecord
  obtain ⟨r, hr, hid⟩ := List.mem_filterMap.1 hrecord
  have hstamps : ∀ n ≤ 2, ∀ r ∈ (reportLog n).filterMap fun line => line.bind (threatRecord parseReport),
      (r.2.getTime parseReportTime "timestamp").isSome := by decide +kernel
  have hr2 : r.2 = record := by
    split at hid
    · exact Option.some.inj hid
    · cases hid
  rw [← hr2]
  exact hstamps n hn r hr

/-- The only record of a threat has its time stamp, and two calls report two other times. -/
theorem not_lastSeenRecorded_report :
    Stamped parseReport parseReportTime (.text (reportLog 1)) ∧
      ¬ LastSeenRecorded parseReport parseReportTime (.text (reportLog 1)) := by
  refine ⟨stamped_reportLog (by decide), ?_⟩
  intro hrecorded
  have hone : (recordsOf parseReport "T-1" (reportLog 1)).length = 1 := by decide +kernel
  have hlog : (ThreatLog.text (reportLog 1)).read = some (reportLog 1) := by decide +kernel
  exact hrecorded.length_ne_one hlog "T-1" hone

/-- With two records the last one is reported. -/
theorem lastSeenRecorded_report : LastSeenRecorded parseReport parseReportTime (.text (reportLog 2)) := by
  refine (lastSeenRecorded_iff (stamped_reportLog (Nat.le_refl 2))).2 ?_
  intro lines hlog id
  have hlines : none ∉ reportLog 2 ∧ reportLog 2 = lines := by simpa [ThreatLog.read] using hlog
  have hnamed : ((reportLog 2).filterMap fun line => line.bind (threatRecord parseReport)).map Prod.fst =
      ["T-1", "T-1"] := by decide +kernel
  rw [← hlines.2, length_recordsOf, hnamed]
  by_cases hid : id = "T-1"
  · rw [hid]
    decide
  · rw [List.count_eq_zero_of_not_mem (by simpa using hid)]
    decide

end OperatingOrganism.ColonyServer

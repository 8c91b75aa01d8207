import OperatingOrganism.Library.JsonLines

/-!
# Events for the language model

The bridge appends its messages to `BOT_EVENTS.LOG`, one line each, and so does the exporter of the genome. A write
that fails is logged and counted as sent: what it has written stays in the log, without a line break. What can be read
of the log is stated for every sequence of calls (`eventLog_survivors`): a write that fails on the way costs the next
message, too, and the count of what was sent is ahead by no more than two for each failure.

A float is the decimal that is written for it. The clock is an argument of each call, and so is the number of bytes
that get into the file before an `OSError` or the end of the process.
-/

set_option autoImplicit false

namespace OperatingOrganism.Bridge

open OperatingOrganism.JsonText

/-- `hashlib.sha256(text.encode()).hexdigest()[:12]`, and how floats are written. -/
structure EventHost where
  digest : CodePoints → CodePoints
  floats : FloatRepr
  digest_ascii : ∀ text, ∀ c ∈ digest text, c < 0x80

/-- `json.dumps(…, ensure_ascii=False)` -/
def EventHost.style (host : EventHost) : DumpStyle := ⟨none, false, host.floats⟩

structure BotEvent where
  threatLevel : Int
  eventType : CodePoints
  agent : CodePoints
  description : CodePoints
  confidence : Int
  actionTaken : CodePoints
  patternId : CodePoints
  request : CodePoints

/-- The fields of a dictionary. -/
abbrev JsonFields := List (CodePoints × JsonValue)

/-- `asdict(event)` -/
def BotEvent.asdict (event : BotEvent) : JsonFields :=
  [(codePoints "threat_level", .int event.threatLevel), (codePoints "event_type", .string event.eventType),
    (codePoints "agent", .string event.agent), (codePoints "description", .string event.description),
    (codePoints "confidence", .int event.confidence), (codePoints "action_taken", .string event.actionTaken),
    (codePoints "pattern_id", .string event.patternId), (codePoints "request", .string event.request)]

inductive OOMsgType where
  | botEvent | botAlert | botQuery | botGenome

def OOMsgType.toNat : OOMsgType → Nat
  | .botEvent => 1
  | .botAlert => 2
  | .botQuery => 3
  | .botGenome => 4

/-- `asdict(msg)` of a message of the bot -/
def messageFields (ooType : OOMsgType) (now : Rat) (msgId : CodePoints) (payload : JsonFields) : JsonFields :=
  [(codePoints "oo_type", .int ooType.toNat), (codePoints "version", .int 1), (codePoints "timestamp", .float now),
    (codePoints "from_entity", .string (codePoints "bot-baremetal")),
    (codePoints "to_entity", .string (codePoints "llm-baremetal")), (codePoints "msg_id", .string msgId),
    (codePoints "payload", .object payload)]

/-- A new `OOMessage`, whose id is made by `__post_init__`. -/
def newMessage (host : EventHost) (ooType : OOMsgType) (now : Rat) (payload : JsonFields) : Option JsonFields :=
  (host.floats.text now).map fun timestamp =>
    messageFields ooType now (host.digest (timestamp ++ decimal ooType.toNat)) payload

/-- The event of `send_alert` -/
def alertEvent (threatLevel : Int) (description actionTaken : CodePoints) : BotEvent where
  threatLevel := threatLevel
  eventType := if 4 ≤ threatLevel then codePoints "SURVIVAL_ALERT" else codePoints "ALERT"
  agent := codePoints "swarm_mind"
  description := description
  confidence := 99
  actionTaken := actionTaken
  patternId := []
  request := codePoints "ACKNOWLEDGE"

/-- `len(value)`; `none` is a `TypeError`. -/
def pyLen : JsonValue → Option Nat
  | .string s => some s.length
  | .array items => some items.length
  | .object fields => some fields.length
  | _ => none

/-- The message of `export_to_oo_journal` about what was read of `genome_sync.json`; `none` where there is nothing to
export, or an exception. -/
def genomeMessage (host : EventHost) (now : Rat) (data : JsonValue) : Option JsonFields :=
  match data with
  | .object fields =>
    let get := fun key (default : JsonValue) => ((JsonValue.object fields).field? (codePoints key)).getD default
    let patterns := get "patterns" (.array [])
    if patterns.truthy then do
      let count ← pyLen patterns
      let timestamp ← host.floats.text now
      let payload := [(codePoints "version", get "version" (.int 1)),
        (codePoints "synced_at", get "synced_at" (.float now)),
        (codePoints "pattern_count", get "count" (.int count)), (codePoints "patterns", patterns)]
      return messageFields .botGenome now (host.digest (timestamp ++ codePoints "_genome_export")) payload
    else none
  -- there is no `get`
  | _ => none

/-- What appends to the log. -/
inductive EventOp where
  | sendEvent (now : Rat) (event : BotEvent)
  | sendAlert (now : Rat) (threatLevel : Int) (description actionTaken : CodePoints)
  | sendQuery (now : Rat) (question : CodePoints) (context : JsonFields)
  | exportToOoJournal (now : Rat) (genomeJson : Option (List Nat))

namespace EventOp

/-- The message; `none` where nothing is written, by a return or an exception. -/
def message (host : EventHost) : EventOp → Option JsonFields
  | sendEvent now event => newMessage host .botEvent now event.asdict
  | sendAlert now threatLevel description actionTaken =>
    newMessage host .botAlert now (alertEvent threatLevel description actionTaken).asdict
  | sendQuery now question context =>
    newMessage host .botQuery now
      [(codePoints "question", .string question), (codePoints "context", .object context)]
  | exportToOoJournal now genomeJson => do
    let bytes ← genomeJson
    let data ← readJson bytes
    genomeMessage host now data

/-- The message with the bytes of its line. -/
def line (host : EventHost) (op : EventOp) : Option (JsonFields × List Nat) := do
  let fields ← op.message host
  let bytes ← writeJson host.style (.object fields)
  return (fields, bytes)

/-- The calls that count what they send. -/
def counts : EventOp → Bool
  | exportToOoJournal _ _ => false
  | _ => true

end EventOp

/-- The log, and `_sent_count`. -/
structure EventLog where
  log : List Nat
  sentCount : Nat

/-- A new bridge, or a call of which so many bytes get into the file. -/
inductive LogOp where
  | start
  | call (op : EventOp) (written : Nat)

namespace LogOp

def run (host : EventHost) (st : EventLog) : LogOp → EventLog
  | start => { st with sentCount := 0 }
  | call op written =>
    match op.line host with
    | none => st
    | some (_, bytes) =>
      -- `_write_to_log` catches the `OSError`
      { log := st.log ++ (bytes ++ [10]).take written
        sentCount := if op.counts then st.sentCount + 1 else st.sentCount }

/-- The message of a call, and how far it was written. -/
def entry (host : EventHost) : LogOp → Option (JsonValue × Extent)
  | start => none
  | call op written => (op.line host).map fun line => (.object line.1, .of written line.2.length)

end LogOp

/-- A new log. -/
def EventLog.empty : EventLog := ⟨[], 0⟩

/-! ### Messages that can be written -/

/-- Texts without surrogates. -/
structure BotEvent.Encodable (event : BotEvent) : Prop where
  eventType : ∀ c ∈ event.eventType, IsScalar c
  agent : ∀ c ∈ event.agent, IsScalar c
  description : ∀ c ∈ event.description, IsScalar c
  actionTaken : ∀ c ∈ event.actionTaken, IsScalar c
  patternId : ∀ c ∈ event.patternId, IsScalar c
  request : ∀ c ∈ event.request, IsScalar c

def EventOp.Encodable : EventOp → Prop
  | .sendEvent _ event => event.Encodable
  | .sendAlert _ _ description actionTaken => (∀ c ∈ description, IsScalar c) ∧ ∀ c ∈ actionTaken, IsScalar c
  | .sendQuery _ question context => (∀ c ∈ question, IsScalar c) ∧ Readable (.object context)
  | .exportToOoJournal _ genomeJson => ∀ bytes ∈ genomeJson, ∀ data ∈ readJson bytes, Readable data

def LogOp.Encodable : LogOp → Prop
  | .start => True
  | .call op _ => op.Encodable

section Messages

variable {host : EventHost} {op : EventOp} {now : Rat} {ooType : OOMsgType} {msgId : CodePoints}
  {payload fields : JsonFields} {event : BotEvent} {data : JsonValue} {bytes : List Nat}

theorem scalar_of_ascii {s : CodePoints} (h : ∀ c ∈ s, c < 0x80) : ∀ c ∈ s, IsScalar c :=
  fun c hc => .inl (Nat.lt_trans (h c hc) (by decide))

/-- A dictionary whose keys are ascii texts that differ. -/
theorem readable_of_fields (hkeys : (fields.map Prod.fst).Nodup)
    (hascii : ∀ key ∈ fields.map Prod.fst, ∀ c ∈ key, c < 0x80)
    (hvalues : ∀ v ∈ fields.map Prod.snd, Readable v) : Readable (.object fields) :=
  .object hkeys (fun field hfield => scalar_of_ascii (hascii field.1 (List.mem_map_of_mem hfield)))
    fun field hfield => hvalues field.2 (List.mem_map_of_mem hfield)

theorem readable_messageFields (hid : ∀ c ∈ msgId, c < 0x80) (hpayload : Readable (.object payload)) :
    Readable (.object (messageFields ooType now msgId payload)) := by
  refine readable_of_fields ?_ ?_ ?_
  · exact (by decide : (["oo_type", "version", "timestamp", "from_entity", "to_entity", "msg_id", "payload"].map
      codePoints).Nodup)
  · exact (by decide : ∀ key ∈ ["oo_type", "version", "timestamp", "from_entity", "to_entity", "msg_id", "payload"].map
      codePoints, ∀ c ∈ key, c < 0x80)
  · simp only [messageFields, List.map_cons, List.map_nil, List.forall_mem_cons]
    exact ⟨.int _, .int _, .float _, .string (scalar_of_ascii (by decide)), .string (scalar_of_ascii (by decide)),
      .string (scalar_of_ascii hid), hpayload, List.forall_mem_nil _⟩

theorem readable_asdict (h : event.Encodable) : Readable (.object event.asdict) := by
  refine readable_of_fields ?_ ?_ ?_
  · exact (by decide : (["threat_level", "event_type", "agent", "description", "confidence", "action_taken",
      "pattern_id", "request"].map codePoints).Nodup)
  · exact (by decide : ∀ key ∈ ["threat_level", "event_type", "agent", "description", "confidence", "action_taken",
      "pattern_id", "request"].map codePoints, ∀ c ∈ key, c < 0x80)
  · simp only [BotEvent.asdict, List.map_cons, List.map_nil, List.forall_mem_cons]
    exact ⟨.int _, .string h.eventType, .string h.agent, .string h.description, .int _, .string h.actionTaken,
      .string h.patternId, .string h.request, List.forall_mem_nil _⟩

theorem encodable_alertEvent (threatLevel : Int) {description actionTaken : CodePoints}
    (hdescription : ∀ c ∈ description, IsScalar c) (haction : ∀ c ∈ actionTaken, IsScalar c) :
    (alertEvent threatLevel description actionTaken).Encodable where
  eventType := by
    rw [alertEvent]
    dsimp only
    split <;> exact scalar_of_ascii (by decide)
  agent := scalar_of_ascii (by decide : ∀ c ∈ codePoints "swarm_mind", c < 0x80)
  description := hdescription
  actionTaken := haction
  patternId := List.forall_mem_nil _
  request := scalar_of_ascii (by decide : ∀ c ∈ codePoints "ACKNOWLEDGE", c < 0x80)

/-- A field of a value that can be written, or its default. -/
theorem readable_getD (h : Readable data) (key : CodePoints) {default : JsonValue} (hdefault : Readable default) :
    Readable ((data.field? key).getD default) := by
  cases hfield : data.field? key with
  | none => exact hdefault
  | some v =>
    cases h with
    | object hkeys hscalars hvalues =>
      obtain ⟨field, hfind, rfl⟩ := Option.map_eq_some_iff.1 hfield
      exact hvalues field (List.mem_of_find?_eq_some hfind)
    | _ => cases hfield

theorem readable_genomeMessage (h : Readable data) (hmessage : genomeMessage host now data = some fields) :
    Readable (.object fields) ∧ ∃ v rest, fields = (codePoints "oo_type", v) :: rest := by
  unfold genomeMessage at hmessage
  split at hmessage
  · next objectFields =>
    simp only [Option.ite_none_right_eq_some, Option.bind_eq_bind, Option.bind_eq_some_iff, Option.pure_def,
      Option.some.injEq] at hmessage
    obtain ⟨-, count, -, timestamp, -, rfl⟩ := hmessage
    refine ⟨readable_messageFields (host.digest_ascii _) (readable_of_fields ?_ ?_ ?_), _, _, rfl⟩
    · exact (by decide : (["version", "synced_at", "pattern_count", "patterns"].map codePoints).Nodup)
    · exact (by decide : ∀ key ∈ ["version", "synced_at", "pattern_count", "patterns"].map codePoints, ∀ c ∈ key,
        c < 0x80)
    · simp only [List.map_cons, List.map_nil, List.forall_mem_cons]
      exact ⟨readable_getD h _ (.int _), readable_getD h _ (.float _), readable_getD h _ (.int _),
        readable_getD h _ (.array (List.forall_mem_nil _)), List.forall_mem_nil _⟩
  · cases hmessage

/-- A message can be written, and begins with its type. -/
theorem readable_message (h : op.Encodable) (hmessage : op.message host = some fields) :
    Readable (.object fields) ∧ ∃ v rest, fields = (codePoints "oo_type", v) :: rest := by
  have hnew : ∀ {ooType now payload}, Readable (.object payload) →
      newMessage host ooType now payload = some fields →
        Readable (.object fields) ∧ ∃ v rest, fields = (codePoints "oo_type", v) :: rest := by
    intro ooType now payload hpayload hnew
    obtain ⟨timestamp, -, rfl⟩ := Option.map_eq_some_iff.1 hnew
    exact ⟨readable_messageFields (host.digest_ascii _) hpayload, _, _, rfl⟩
  cases op with
  | sendEvent now event => exact hnew (readable_asdict h) hmessage
  | sendAlert now threatLevel description actionTaken =>
    exact hnew (readable_asdict (encodable_alertEvent threatLevel h.1 h.2)) hmessage
  | sendQuery now question context =>
    refine hnew (readable_of_fields ?_ ?_ ?_) hmessage
    · exact (by decide : (["question", "context"].map codePoints).Nodup)
    · exact (by decide : ∀ key ∈ ["question", "context"].map codePoints, ∀ c ∈ key, c < 0x80)
    · simp only [List.map_cons, List.map_nil, List.forall_mem_cons]
      exact ⟨.string h.1, h.2, List.forall_mem_nil _⟩
  | exportToOoJournal now genomeJson =>
    simp only [EventOp.message, Option.bind_eq_bind, Option.bind_eq_some_iff] at hmessage
    obtain ⟨bytes, hbytes, data, hdata, hmessage⟩ := hmessage
    exact readable_genomeMessage (h bytes hbytes data hdata) hmessage

/-- The line of a call. -/
theorem exists_logLine (h : op.Encodable) (hline : op.line host = some (fields, bytes)) :
    ∃ line : LogLine host.style, line.fields = fields ∧ line.bytes = bytes := by
  simp only [EventOp.line, Option.bind_eq_bind, Option.bind_eq_some_iff, Option.pure_def, Option.some.injEq,
    Prod.mk.injEq] at hline
  obtain ⟨fields', hmessage, bytes', hbytes, rfl, rfl⟩ := hline
  obtain ⟨hreadable, v, rest, rfl⟩ := readable_message h hmessage
  obtain ⟨text, hdumped, hencoded⟩ := Option.bind_eq_some_iff.1 hbytes
  obtain ⟨behind, hopening⟩ := exists_opening (c := 111) (k := codePoints "o_type") rfl rfl hdumped
  exact ⟨⟨_, text, _, hdumped, hencoded, hreadable, rfl, 111, behind, fun _ => rfl, hopening⟩, rfl, rfl⟩

end Messages

/-! ### What is read -/

section Runs

variable {host : EventHost} {st : EventLog} {op : LogOp} {ops : List LogOp}

/-- A call appends the first bytes of its line. -/
theorem log_run (host : EventHost) (st : EventLog) (hop : op.Encodable) : ∃ writes : List (LogWrite host.style),
    (op.run host st).log = st.log ++ writes.flatMap LogWrite.bytes ∧
      writes.map LogWrite.entry = (op.entry host).toList := by
  cases op with
  | start => exact ⟨[], by simp [LogOp.run], rfl⟩
  | call op written =>
    cases hline : op.line host with
    | none => exact ⟨[], by simp [LogOp.run, hline], by simp [LogOp.entry, hline]⟩
    | some message =>
      obtain ⟨fields, bytes⟩ := message
      obtain ⟨line, rfl, rfl⟩ := exists_logLine hop hline
      refine ⟨[⟨line, written⟩], ?_, ?_⟩
      · simp [LogOp.run, hline, LogWrite.bytes]
      · simp [LogOp.entry, hline, LogWrite.entry]

theorem log_runs (host : EventHost) (hops : ∀ op ∈ ops, op.Encodable) (st : EventLog) :
    ∃ writes : List (LogWrite host.style),
    (ops.foldl (LogOp.run host) st).log = st.log ++ writes.flatMap LogWrite.bytes ∧
      writes.map LogWrite.entry = ops.filterMap (LogOp.entry host) := by
  induction ops generalizing st with
  | nil => exact ⟨[], by simp, rfl⟩
  | cons op ops ih =>
    obtain ⟨hop, hrest⟩ := List.forall_mem_cons.1 hops
    obtain ⟨writes, hlog, hentries⟩ := log_run host st hop
    obtain ⟨more, hmore, hothers⟩ := ih hrest (op.run host st)
    refine ⟨writes ++ more, ?_, ?_⟩
    · rw [List.foldl_cons, hmore, hlog, List.flatMap_append, List.append_assoc]
    · rw [List.map_append, hentries, hothers, List.filterMap_cons]
      cases op.entry host <;> rfl

/-- What is counted as sent has a message. -/
theorem sentCount_run (host : EventHost) (st : EventLog) (op : LogOp) :
    (op.run host st).sentCount ≤ st.sentCount + (op.entry host).toList.length := by
  cases op with
  | start => exact Nat.zero_le _
  | call op written =>
    cases hline : op.line host with
    | none => simp [LogOp.run, LogOp.entry, hline]
    | some message =>
      simp only [LogOp.run, LogOp.entry, hline, Option.map_some, Option.toList_some, List.length_singleton]
      split
      · exact le_rfl
      · exact Nat.le_succ _

theorem sentCount_runs (host : EventHost) (ops : List LogOp) (st : EventLog) :
    (ops.foldl (LogOp.run host) st).sentCount ≤ st.sentCount + (ops.filterMap (LogOp.entry host)).length := by
  induction ops generalizing st with
  | nil => exact le_rfl
  | cons op ops ih =>
    have hone := sentCount_run host st op
    have hlength : ((op :: ops).filterMap (LogOp.entry host)).length =
        (op.entry host).toList.length + (ops.filterMap (LogOp.entry host)).length := by
      rw [List.filterMap_cons]
      cases op.entry host <;> simp [Nat.add_comm]
    calc (ops.foldl (LogOp.run host) (op.run host st)).sentCount
        ≤ (op.run host st).sentCount + (ops.filterMap (LogOp.entry host)).length := ih _
      _ ≤ st.sentCount + (op.entry host).toList.length + (ops.filterMap (LogOp.entry host)).length :=
        Nat.add_le_add_right hone _
      _ = st.sentCount + ((op :: ops).filterMap (LogOp.entry host)).length := by rw [hlength, Nat.add_assoc]

/-- After every sequence of calls, whatever part of each line got into the file, what can be read of the log are the
messages that were written whole, except for those in a line that an earlier failure had begun; and what was sent is
ahead of that by two for each failure at most. -/
theorem eventLog_survivors (hops : ∀ op ∈ ops, op.Encodable) :
    readLog (ops.foldl (LogOp.run host) .empty).log = LogEnd.fresh.survivors (ops.filterMap (LogOp.entry host)) ∧
      (ops.foldl (LogOp.run host) .empty).sentCount ≤
        (readLog (ops.foldl (LogOp.run host) .empty).log).length +
          2 * (ops.filterMap (LogOp.entry host)).countP (fun entry => entry.2 ≠ .line) := by
  obtain ⟨writes, hlog, hentries⟩ := log_runs host hops .empty
  have hread : readLog (ops.foldl (LogOp.run host) .empty).log =
      LogEnd.fresh.survivors (ops.filterMap (LogOp.entry host)) := by
    rw [hlog, ← hentries]
    exact readLog_eq writes
  refine ⟨hread, ?_⟩
  rw [hread]
  have hsent := sentCount_runs host ops .empty
  -- an entry that is no whole line costs itself, and one that is cut off the next one too
  generalize ops.filterMap (LogOp.entry host) = entries at hsent ⊢
  have hlines := lines_le_survivors .fresh entries
  have hlength : entries.length = entries.countP (fun entry => entry.2 = .line) +
      entries.countP (fun entry => entry.2 ≠ .line) := by
    rw [List.length_eq_countP_add_countP (fun entry => decide (entry.2 = .line))]
    simp
  have hcuts : entries.countP (fun entry => entry.2.isCut) ≤ entries.countP (fun entry => entry.2 ≠ .line) := by
    refine List.countP_mono_left fun entry _ hcut => ?_
    cases hextent : entry.2 <;> simp [Extent.isCut, hextent] at hcut ⊢
  have hempty : EventLog.empty.sentCount = 0 := rfl
  dsimp only at hlines
  omega

/-- A host whose digest is always the same. -/
def quietHost : EventHost where
  digest _ := codePoints "5f2b9c01d7e4"
  floats := wholeFloats
  digest_ascii _ := by decide

def injectionEvent : BotEvent where
  threatLevel := 3
  eventType := codePoints "COMBAT"
  agent := codePoints "mem_watch"
  description := codePoints "Process injection"
  confidence := 91
  actionTaken := codePoints "quarantine"
  patternId := []
  request := []

theorem encodable_injectionEvent : injectionEvent.Encodable where
  eventType := scalar_of_ascii (by decide : ∀ c ∈ injectionEvent.eventType, c < 0x80)
  agent := scalar_of_ascii (by decide : ∀ c ∈ injectionEvent.agent, c < 0x80)
  description := scalar_of_ascii (by decide : ∀ c ∈ injectionEvent.description, c < 0x80)
  actionTaken := scalar_of_ascii (by decide : ∀ c ∈ injectionEvent.actionTaken, c < 0x80)
  patternId := List.forall_mem_nil _
  request := List.forall_mem_nil _

/-- A genome of one pattern. -/
def smallGenome : JsonValue :=
  .object [(codePoints "version", .int 1), (codePoints "patterns", .array [.string (codePoints "abc")])]

theorem readable_smallGenome : Readable smallGenome := by
  refine readable_of_fields (by decide) (by decide) ?_
  simp only [List.map_cons, List.map_nil, List.forall_mem_cons]
  exact ⟨.int _, .array (List.forall_mem_singleton.2 (.string (scalar_of_ascii (by decide)))), List.forall_mem_nil _⟩

/-- An event, an alert on a full disk, a query, and an export of the genome by a new process. -/
def fullDisk : List LogOp :=
  [.call (.sendEvent 1700000000 injectionEvent) 10000,
    .call (.sendAlert 1700000001 4 (codePoints "swarm_mind is being targeted") (codePoints "regen")) 40,
    .call (.sendQuery 1700000002 (codePoints "Is it over?") []) 10000,
    .start,
    .call (.exportToOoJournal 1700000003 (writeJson quietHost.style smallGenome)) 10000]

/-- The alert costs the query: the event and the genome are read. -/
theorem eventLog_fullDisk : (readLog (fullDisk.foldl (LogOp.run quietHost) .empty).log).length = 2 ∧
    readLog (fullDisk.foldl (LogOp.run quietHost) .empty).log =
        LogEnd.fresh.survivors (fullDisk.filterMap (LogOp.entry quietHost)) ∧
      (fullDisk.foldl (LogOp.run quietHost) .empty).sentCount ≤
        (readLog (fullDisk.foldl (LogOp.run quietHost) .empty).log).length +
          2 * (fullDisk.filterMap (LogOp.entry quietHost)).countP (fun entry => entry.2 ≠ .line) := by
  refine ⟨by decide +kernel, eventLog_survivors fun op hop => ?_⟩
  simp only [fullDisk, List.mem_cons, List.not_mem_nil, or_false] at hop
  rcases hop with rfl | rfl | rfl | rfl | rfl
  · exact encodable_injectionEvent
  · exact ⟨scalar_of_ascii (by decide), scalar_of_ascii (by decide)⟩
  · exact ⟨scalar_of_ascii (by decide),
      readable_of_fields List.nodup_nil (List.forall_mem_nil _) (List.forall_mem_nil _)⟩
  · trivial
  · intro bytes hbytes data hdata
    rw [readJson_writeJson readable_smallGenome trivial hbytes] at hdata
    obtain rfl := Option.some.inj hdata
    exact readable_smallGenome

end Runs

end OperatingOrganism.Bridge

import Mathlib.Data.List.Chain
import OperatingOrganism.ColonyServer.Storage
import OperatingOrganism.Library.Execution

/-!
# What a heartbeat leaves on the disk

`store_heartbeat` writes to four files in sequence, and returns at the first error without undoing anything
(`storeHeartbeat_writes`). A retry after an error writes everything once more.

The live registry has one entry for each organism, and a heartbeat replaces it whatever its time. In a run
the entry is the one of the heartbeat that was processed last (`storeHeartbeat_order`).
-/

set_option autoImplicit false

namespace OperatingOrganism.ColonyServer

open OperatingOrganism.Execution
open OperatingOrganism.FaultyIo

/-! ## The writes of a heartbeat -/

/-- The line for a threat. -/
def threatLine (heartbeat : Heartbeat) (now : DateTime) (threat : ThreatSignal) : Line :=
  .threat
    { threatId := threat.threatId
      severity := threat.severity
      discoveredBy := heartbeat.organismId
      firstSeen := threat.firstSeen
      count := threat.count
      timestamp := now }

/-- The line for a mutation. -/
def mutationLine (heartbeat : Heartbeat) (now : DateTime) (mutation : Mutation) : Line :=
  .mutation
    { kind := mutation.kind
      fitness := mutation.fitness
      discoveredBy := heartbeat.organismId
      discoveredAt := mutation.discoveredAt
      timestamp := now }

/-- The writes of `process_threats`. -/
def threatWrites (heartbeat : Heartbeat) (clock : Nat → DateTime) : List (Write Disk) :=
  heartbeat.immuneSignals.mapIdx fun n threat =>
    appendLine threatsFile (threatLine heartbeat (clock n) threat)

/-- The writes of `process_mutations`. -/
def mutationWrites (heartbeat : Heartbeat) (clock : Nat → DateTime) : List (Write Disk) :=
  heartbeat.mutations.mapIdx fun n mutation =>
    appendLine mutationsFile (mutationLine heartbeat (clock n) mutation)

/-- The registry with the entry of a heartbeat. -/
def record (registry : OrganismRegistry) (heartbeat : Heartbeat) : OrganismRegistry :=
  registry.insert heartbeat.organismId (liveOrganism heartbeat)

/-- The writes of `store_heartbeat`, given the registry that it reads. -/
def heartbeatWrites (heartbeat : Heartbeat) (registry : OrganismRegistry) (clock : Nat → DateTime) :
    List (Write Disk) :=
  [appendLine (fossilPath heartbeat.organismId) (.heartbeat heartbeat)] ++
    ([replaceJson liveOrganismsFile (record registry heartbeat)] ++
      (threatWrites heartbeat clock ++
        mutationWrites heartbeat fun n => clock (n + heartbeat.immuneSignals.length)))

/-- The registry that `store_heartbeat` reads, in its third step. -/
def heartbeatRegistry (w : World) : OrganismRegistry :=
  readEntries liveOrganismsFile (w.after w.disk 2 0)

section Writes

variable {heartbeat : Heartbeat} {w w' : World}

theorem performs_updateLiveRegistry (heartbeat : Heartbeat) (w : World) :
    Performs (updateLiveRegistry heartbeat) w
      [replaceJson liveOrganismsFile (record (readEntries liveOrganismsFile w) heartbeat)] 2 0 := by
  show Performs ((readJson liveOrganismsFile).unwrapOr ∅ >>= fun registry =>
    writeJson liveOrganismsFile (record registry heartbeat)) w _ (1 + 1) (0 + 0)
  exact Performs.ok_bind (readJson_unwrapOr liveOrganismsFile w) (performs_perform _ _)

/-- A line with a time stamp. -/
theorem performs_stampedLine (path : LogPath) (line : DateTime → Line) (w : World) :
    Performs (do openAppend; let now ← utcNow; writeLine path (line now)) w
      [appendLine path (line (w.clock 0))] 2 1 := by
  show Performs (openAppend >>= fun _ => utcNow >>= fun now => writeLine path (line now)) w _
    (1 + (0 + 1)) (1 + 0)
  exact Performs.attempt_bind (Performs.ok_bind (now_eq _) (performs_perform _ _))

theorem performs_processThreats (heartbeat : Heartbeat) (w : World) :
    Performs (processThreats heartbeat) w (threatWrites heartbeat w.clock)
      (2 * heartbeat.immuneSignals.length) heartbeat.immuneSignals.length := by
  have hround : ∀ w threat, Performs (processThreat heartbeat threat) w
      [appendLine threatsFile (threatLine heartbeat (w.clock 0) threat)] 2 1 :=
    fun w threat => performs_stampedLine threatsFile (threatLine heartbeat · threat) w
  exact Performs.forM (g := fun now threat => appendLine threatsFile (threatLine heartbeat now threat))
    hround heartbeat.immuneSignals w

theorem performs_processMutations (heartbeat : Heartbeat) (w : World) :
    Performs (processMutations heartbeat) w (mutationWrites heartbeat w.clock)
      (2 * heartbeat.mutations.length) heartbeat.mutations.length := by
  have hround : ∀ w mutation, Performs (processMutation heartbeat mutation) w
      [appendLine mutationsFile (mutationLine heartbeat (w.clock 0) mutation)] 2 1 :=
    fun w mutation => performs_stampedLine mutationsFile (mutationLine heartbeat · mutation) w
  exact Performs.forM (g := fun now m => appendLine mutationsFile (mutationLine heartbeat now m))
    hround heartbeat.mutations w

/-- The number of steps of `store_heartbeat`. -/
def heartbeatSteps (heartbeat : Heartbeat) : Nat :=
  1 + (1 + (2 + (2 * heartbeat.immuneSignals.length + 2 * heartbeat.mutations.length)))

/-- The number of times `store_heartbeat` reads the clock. -/
def heartbeatReadings (heartbeat : Heartbeat) : Nat :=
  0 + (0 + (heartbeat.immuneSignals.length + heartbeat.mutations.length))

/-- What `store_heartbeat` writes. -/
theorem performs_storeHeartbeat (heartbeat : Heartbeat) (w : World) :
    Performs (storeHeartbeat heartbeat) w
      (heartbeatWrites heartbeat (heartbeatRegistry w) w.clock) (heartbeatSteps heartbeat)
      (heartbeatReadings heartbeat) := by
  show Performs (openAppend >>= fun _ =>
    writeLine (fossilPath heartbeat.organismId) (.heartbeat heartbeat) >>= fun _ =>
    updateLiveRegistry heartbeat >>= fun _ =>
    processThreats heartbeat >>= fun _ => processMutations heartbeat) w _ (1 + _) _
  apply Performs.attempt_bind
  apply Performs.bind (performs_perform _ _)
  apply Performs.bind (performs_updateLiveRegistry heartbeat _)
  apply Performs.bind (performs_processThreats heartbeat _)
  exact performs_processMutations heartbeat _

/-- On success all writes of `store_heartbeat` are on the disk. On an error those before the failing step
are, and perhaps a part of the failing one; and a retry that succeeds writes everything after them. -/
theorem storeHeartbeat_writes (heartbeat : Heartbeat) (w : World) :
    (∀ w', storeHeartbeat heartbeat w = (.ok (), w') →
      w'.disk = writeAll (heartbeatWrites heartbeat (heartbeatRegistry w) w.clock) w.disk) ∧
    ∀ e w', storeHeartbeat heartbeat w = (.error e, w') →
      CutOff (heartbeatWrites heartbeat (heartbeatRegistry w) w.clock) w.disk w'.disk ∧
      ∀ v v', v.disk = w'.disk → storeHeartbeat heartbeat v = (.ok (), v') →
        v'.disk = writeAll (heartbeatWrites heartbeat (heartbeatRegistry v) v.clock) w'.disk := by
  have hok : ∀ w w', storeHeartbeat heartbeat w = (.ok (), w') →
      w'.disk = writeAll (heartbeatWrites heartbeat (heartbeatRegistry w) w.clock) w.disk := by
    intro w w' h
    rw [(performs_storeHeartbeat heartbeat w).ok w' h]
    rfl
  refine ⟨hok w, ?_⟩
  intro e w' h
  refine ⟨(performs_storeHeartbeat heartbeat w).error e w' h, ?_⟩
  intro v v' hdisk hv
  rw [← hdisk]
  exact hok v v' hv

/-- A heartbeat with a threat and a mutation. -/
def sampleHeartbeat : Heartbeat where
  organismId := "oo-1"
  habitat := "debian-pc"
  timestamp := .ofSeconds 1700000000
  state :=
    { continuityEpoch := 7
      mode := "supervised"
      policyEnforcement := "strict"
      goalCounts := { pending := 0, doing := 1, done := 2, blocked := 0, aborted := 0 } }
  immuneSignals :=
    [{ threatId := "T-1", severity := "high", firstSeen := .ofSeconds 1700000000, count := 1 }]
  mutations := [{ kind := "M-1", fitness := 0, discoveredAt := .ofSeconds 1700000000 }]

/-- A node that starts with nothing on its disk, and one step of which fails. -/
def failingAt (step : Nat) : World where
  disk := ⟨.absent, .absent, fun _ => []⟩
  outcomes n := if n = step then .failed else .ok
  clock _ := .ofSeconds 1700000000

/-- The mutation log cannot be opened: the threat is recorded all the same, and twice after the retry. -/
theorem storeHeartbeat_not_atomic :
    (storeHeartbeat sampleHeartbeat (failingAt 6)).1 = .error .io ∧
      (failingAt 6).disk.logs threatsFile = [] ∧
      ((storeHeartbeat sampleHeartbeat (failingAt 6)).2.disk.logs threatsFile).length = 1 ∧
      (storeHeartbeat sampleHeartbeat (storeHeartbeat sampleHeartbeat (failingAt 6)).2).1 = .ok () ∧
      ((storeHeartbeat sampleHeartbeat (storeHeartbeat sampleHeartbeat (failingAt 6)).2).2.disk.logs
        threatsFile).length = 2 := by
  refine ⟨rfl, rfl, ?_, rfl, ?_⟩
  · decide
  · decide

theorem storeHeartbeat_writes_retry :
    CutOff (heartbeatWrites sampleHeartbeat ∅ (failingAt 6).clock) (failingAt 6).disk
        (storeHeartbeat sampleHeartbeat (failingAt 6)).2.disk ∧
      (storeHeartbeat sampleHeartbeat (storeHeartbeat sampleHeartbeat (failingAt 6)).2).2.disk =
        writeAll (heartbeatWrites sampleHeartbeat
          (heartbeatRegistry (storeHeartbeat sampleHeartbeat (failingAt 6)).2) (failingAt 6).clock)
          (storeHeartbeat sampleHeartbeat (failingAt 6)).2.disk := by
  obtain ⟨hcut, hretry⟩ := (storeHeartbeat_writes sampleHeartbeat (failingAt 6)).2 .io _ rfl
  exact ⟨hcut, hretry _ _ rfl rfl⟩

end Writes

/-! ## The live registry over a run -/

section Order

/-- A heartbeat is stored, and the live registry could be read. -/
def Stored (w : World) (heartbeat : Heartbeat) (w' : World) : Prop :=
  storeHeartbeat heartbeat w = (.ok (), w') ∧ w.outcomes 2 = .ok

/-- The live registry. -/
def liveRegistry (w : World) : OrganismRegistry := w.disk.organisms.entries

/-- The entries that an organism has had: the first one, and one for each of its heartbeats. -/
def history (registry : OrganismRegistry) (heartbeats : List Heartbeat) (id : String) :
    List LiveOrganism :=
  (registry.lookup id).toList ++ (heartbeats.filter (·.organismId = id)).map liveOrganism

/-- Time and epoch of the second entry are not before those of the first. -/
def NotBefore (a b : LiveOrganism) : Prop :=
  a.lastHeartbeat ≤ b.lastHeartbeat ∧ a.continuityEpoch ≤ b.continuityEpoch

/-- No organism moves backwards. -/
def Forward (w w' : World) : Prop :=
  ∀ id a b, (liveRegistry w).lookup id = some a → (liveRegistry w').lookup id = some b → NotBefore a b

variable {heartbeat : Heartbeat} {w w' : World} {registry : OrganismRegistry} {id : String}

/-- Writes to logs leave the registry as it is. -/
theorem organisms_writeAll {l : List (Write Disk)}
    (h : ∀ write ∈ l, ∃ path line, write = appendLine path line) (disk : Disk) :
    (writeAll l disk).organisms = disk.organisms := by
  induction l generalizing disk with
  | nil => rfl
  | cons write l ih =>
    obtain ⟨path, line, rfl⟩ := h write List.mem_cons_self
    rw [writeAll_cons, ih fun write hwrite => h write (List.mem_cons_of_mem _ hwrite)]
    rfl

/-- On success the registry file has the entry of the heartbeat. -/
theorem organisms_of_ok (h : storeHeartbeat heartbeat w = (.ok (), w')) :
    w'.disk.organisms = .whole (record (heartbeatRegistry w) heartbeat) := by
  have hlogs : ∀ write ∈ threatWrites heartbeat w.clock ++
      mutationWrites heartbeat (fun n => w.clock (n + heartbeat.immuneSignals.length)),
      ∃ path line, write = appendLine path line := by
    simp only [threatWrites, mutationWrites, List.mem_append, List.mem_mapIdx]
    rintro write (⟨n, hn, rfl⟩ | ⟨n, hn, rfl⟩)
    · exact ⟨_, _, rfl⟩
    · exact ⟨_, _, rfl⟩
  rw [(performs_storeHeartbeat heartbeat w).ok w' h, heartbeatWrites, World.after_disk, writeAll_append,
    writeAll_append, organisms_writeAll hlogs]
  rfl

/-- A stored heartbeat replaces the entry of its organism. -/
theorem Stored.liveRegistry_eq (h : Stored w heartbeat w') :
    liveRegistry w' = record (liveRegistry w) heartbeat := by
  have hregistry : heartbeatRegistry w = liveRegistry w := if_pos h.2
  rw [liveRegistry, organisms_of_ok h.1, hregistry]
  rfl

theorem lookup_record_self : (record registry heartbeat).lookup heartbeat.organismId =
    some (liveOrganism heartbeat) := AList.lookup_insert registry

theorem lookup_record_ne (h : heartbeat.organismId ≠ id) :
    (record registry heartbeat).lookup id = registry.lookup id := AList.lookup_insert_ne h.symm

/-- The history of the organism of a heartbeat. -/
theorem history_cons_self {heartbeats : List Heartbeat} :
    history registry (heartbeat :: heartbeats) heartbeat.organismId =
      (registry.lookup heartbeat.organismId).toList ++
        history (record registry heartbeat) heartbeats heartbeat.organismId := by
  simp [history, lookup_record_self]

/-- The history of the other organisms. -/
theorem history_cons_ne {heartbeats : List Heartbeat} (h : heartbeat.organismId ≠ id) :
    history registry (heartbeat :: heartbeats) id =
      history (record registry heartbeat) heartbeats id := by
  simp [history, lookup_record_ne h, h]

/-- After a heartbeat the history of its organism begins with its entry. -/
theorem history_record_self (registry : OrganismRegistry) (heartbeat : Heartbeat)
    (heartbeats : List Heartbeat) : ∃ rest,
      history (record registry heartbeat) heartbeats heartbeat.organismId =
        liveOrganism heartbeat :: rest := by
  rw [history, lookup_record_self]
  exact ⟨_, rfl⟩

/-- The entry of an organism is the last one of its history. -/
theorem lookup_final {tr : List (Heartbeat × World)} (h : Exec Stored w tr) (id : String) :
    (liveRegistry (final w tr)).lookup id =
      (history (liveRegistry w) (tr.map Prod.fst) id).getLast? := by
  induction tr generalizing w with
  | nil => cases hid : (liveRegistry w).lookup id <;> simp [history, hid]
  | cons step tr ih =>
    obtain ⟨heartbeat, w₁⟩ := step
    rw [final_cons, ih h.2, h.1.liveRegistry_eq, List.map_cons]
    by_cases hid : heartbeat.organismId = id
    · subst hid
      obtain ⟨rest, hrest⟩ := history_record_self (liveRegistry w) heartbeat (tr.map Prod.fst)
      rw [history_cons_self, hrest, List.getLast?_append_of_ne_nil _ (List.cons_ne_nil _ _)]
    · rw [history_cons_ne hid]

/-- A heartbeat moves no organism backwards if it is not before the entry that it replaces. -/
theorem Stored.forward_iff (h : Stored w heartbeat w') : Forward w w' ↔
    ∀ a, (liveRegistry w).lookup heartbeat.organismId = some a →
      NotBefore a (liveOrganism heartbeat) := by
  constructor
  · intro hforward a ha
    apply hforward heartbeat.organismId a (liveOrganism heartbeat) ha
    rw [h.liveRegistry_eq, lookup_record_self]
  · intro hself id a b ha hb
    rw [h.liveRegistry_eq] at hb
    by_cases hid : heartbeat.organismId = id
    · subst hid
      rw [lookup_record_self, Option.some.injEq] at hb
      subst hb
      exact hself a ha
    · rw [lookup_record_ne hid, ha, Option.some.injEq] at hb
      subst hb
      exact ⟨Int.le_refl _, UInt64.le_refl _⟩

/-- A history goes forward if its first entry is not after the second, and the rest goes forward. -/
theorem isChain_history_cons {heartbeats : List Heartbeat} :
    (history registry (heartbeat :: heartbeats) heartbeat.organismId).IsChain NotBefore ↔
      (∀ a, registry.lookup heartbeat.organismId = some a → NotBefore a (liveOrganism heartbeat)) ∧
        (history (record registry heartbeat) heartbeats heartbeat.organismId).IsChain NotBefore := by
  obtain ⟨rest, hrest⟩ := history_record_self registry heartbeat heartbeats
  rw [history_cons_self, hrest]
  cases registry.lookup heartbeat.organismId with
  | none => simp
  | some a => simp [List.isChain_cons_cons]

/-- No organism moves backwards if and only if the history of each goes forward. -/
theorem allMoves_forward_iff {tr : List (Heartbeat × World)} (h : Exec Stored w tr) :
    AllMoves Forward w tr ↔
      ∀ id, (history (liveRegistry w) (tr.map Prod.fst) id).IsChain NotBefore := by
  induction tr generalizing w with
  | nil =>
    refine iff_of_true trivial fun id => ?_
    cases hid : (liveRegistry w).lookup id <;> simp [history, hid]
  | cons step tr ih =>
    obtain ⟨heartbeat, w₁⟩ := step
    rw [AllMoves, h.1.forward_iff, ih h.2, h.1.liveRegistry_eq, List.map_cons]
    constructor
    · rintro ⟨hself, hrest⟩ id
      by_cases hid : heartbeat.organismId = id
      · subst hid
        exact isChain_history_cons.2 ⟨hself, hrest _⟩
      · rw [history_cons_ne hid]
        exact hrest id
    · intro hall
      obtain ⟨hself, -⟩ := isChain_history_cons.1 (hall heartbeat.organismId)
      refine ⟨hself, fun id => ?_⟩
      by_cases hid : heartbeat.organismId = id
      · subst hid
        exact (isChain_history_cons.1 (hall _)).2
      · rw [← history_cons_ne hid]
        exact hall id

/-- In a run of stored heartbeats the entry of every organism ends as the last one of its history. Two
orders of the same heartbeats end with the same entry of an organism exactly if its two histories end with
the same entry. No organism moves backwards exactly if every history goes forward. -/
theorem storeHeartbeat_order {tr : List (Heartbeat × World)} (h : Exec Stored w tr) :
    (∀ id, (liveRegistry (final w tr)).lookup id =
      (history (liveRegistry w) (tr.map Prod.fst) id).getLast?) ∧
    (∀ w' tr', liveRegistry w' = liveRegistry w → Exec Stored w' tr' →
      (tr'.map Prod.fst).Perm (tr.map Prod.fst) → ∀ id,
      ((liveRegistry (final w tr)).lookup id = (liveRegistry (final w' tr')).lookup id ↔
        (history (liveRegistry w) (tr.map Prod.fst) id).getLast? =
          (history (liveRegistry w) (tr'.map Prod.fst) id).getLast?)) ∧
    (AllMoves Forward w tr ↔
      ∀ id, (history (liveRegistry w) (tr.map Prod.fst) id).IsChain NotBefore) := by
  refine ⟨lookup_final h, ?_, allMoves_forward_iff h⟩
  intro w' tr' hw' h' _ id
  rw [lookup_final h, lookup_final h', hw']

/-- The run that stores a list of heartbeats. -/
def storeAll : World → List Heartbeat → List (Heartbeat × World)
  | _, [] => []
  | w, heartbeat :: heartbeats =>
    (heartbeat, (storeHeartbeat heartbeat w).2) ::
      storeAll (storeHeartbeat heartbeat w).2 heartbeats

theorem map_fst_storeAll (w : World) (heartbeats : List Heartbeat) :
    (storeAll w heartbeats).map Prod.fst = heartbeats := by
  induction heartbeats generalizing w with
  | nil => rfl
  | cons heartbeat heartbeats ih => rw [storeAll, List.map_cons, ih]

/-- As long as no step fails, every heartbeat is stored. -/
theorem exec_storeAll (h : ∀ n, w.outcomes n = .ok) (heartbeats : List Heartbeat) :
    Exec Stored w (storeAll w heartbeats) := by
  induction heartbeats generalizing w with
  | nil => trivial
  | cons heartbeat heartbeats ih =>
    have hok := (performs_storeHeartbeat heartbeat w).succeeds fun n _ => h n
    refine ⟨⟨?_, h 2⟩, ih ?_⟩
    · rw [hok]
    · intro n
      rw [hok]
      exact h _

/-- The sample heartbeat of the epoch before. -/
def earlierHeartbeat : Heartbeat :=
  { sampleHeartbeat with
    timestamp := .ofSeconds 1600000000
    state := { sampleHeartbeat.state with continuityEpoch := 6 } }

/-- A node that starts with nothing on its disk. -/
def freshNode : World := { failingAt 0 with outcomes := fun _ => .ok }

/-- A heartbeat that comes late takes its organism back. -/
theorem storeHeartbeat_late :
    Exec Stored freshNode (storeAll freshNode [earlierHeartbeat, sampleHeartbeat]) ∧
      Exec Stored freshNode (storeAll freshNode [sampleHeartbeat, earlierHeartbeat]) ∧
      (liveRegistry (final freshNode (storeAll freshNode [earlierHeartbeat, sampleHeartbeat]))).lookup
          "oo-1" ≠
        (liveRegistry (final freshNode (storeAll freshNode [sampleHeartbeat, earlierHeartbeat]))).lookup
          "oo-1" ∧
      ¬ AllMoves Forward freshNode (storeAll freshNode [sampleHeartbeat, earlierHeartbeat]) := by
  have h₁ := exec_storeAll (w := freshNode) (fun _ => rfl) [earlierHeartbeat, sampleHeartbeat]
  have h₂ := exec_storeAll (w := freshNode) (fun _ => rfl) [sampleHeartbeat, earlierHeartbeat]
  refine ⟨h₁, h₂, ?_, ?_⟩
  · rw [lookup_final h₁, lookup_final h₂, map_fst_storeAll, map_fst_storeAll]
    decide
  · rw [allMoves_forward_iff h₂, map_fst_storeAll]
    intro hall
    have hchain := hall "oo-1"
    have hback : history (liveRegistry freshNode) [sampleHeartbeat, earlierHeartbeat] "oo-1" =
      [liveOrganism sampleHeartbeat, liveOrganism earlierHeartbeat] := by decide
    rw [hback, List.isChain_pair] at hchain
    exact absurd hchain.2 (by decide)

/-- In the right order it goes forward. -/
theorem storeHeartbeat_order_in_time :
    (liveRegistry (final freshNode (storeAll freshNode [earlierHeartbeat, sampleHeartbeat]))).lookup
        "oo-1" = some (liveOrganism sampleHeartbeat) ∧
      (AllMoves Forward freshNode (storeAll freshNode [earlierHeartbeat, sampleHeartbeat]) ↔
        ∀ id, (history ∅ [earlierHeartbeat, sampleHeartbeat] id).IsChain NotBefore) := by
  have hrun := exec_storeAll (w := freshNode) (fun _ => rfl) [earlierHeartbeat, sampleHeartbeat]
  obtain ⟨hlast, -, hforward⟩ := storeHeartbeat_order hrun
  rw [map_fst_storeAll] at hlast hforward
  refine ⟨?_, hforward⟩
  rw [hlast]
  decide

end Order

end OperatingOrganism.ColonyServer

import OperatingOrganism.ColonyServer.HeartbeatStorage
import OperatingOrganism.ColonyServer.PeerStorage

/-!
# Do the registries keep what was recorded?

`update_live_registry` and `get_mesh_registry` take every error of reading a registry file for an empty
registry, and the registry is then written back with one entry. A write that was cut short leaves a file
that cannot be read.

A `Ledger` keeps beside the disk what was recorded so far. `allStates_durable` says that in a run of
`store_heartbeat` and `register_peer` the registries keep it as long as no call writes a registry that it
could not read over the entries of others (`KeepsRegistry`), and that a successful call which does so
loses one.
-/

set_option autoImplicit false

namespace OperatingOrganism.ColonyServer

open OperatingOrganism.Execution
open OperatingOrganism.FaultyIo

/-! ## What a call does to a registry file -/

section Calls

variable {heartbeat : Heartbeat} {w : World}

/-- The call comes to write the live registry, and writes all of it. -/
def Overwrites (w : World) : Prop := w.outcomes 0 = .ok ∧ w.outcomes 1 = .ok ∧ w.outcomes 3 = .ok

/-- The steps after the update of the live registry. -/
def storeSignals (heartbeat : Heartbeat) : Io Unit := do
  processThreats heartbeat
  processMutations heartbeat

/-- A line with a time stamp keeps the registries. -/
theorem keeps_stampedLine {V : Type} {f : Disk → V} (hf : ∀ disk path entry, f (disk.append path entry) = f disk)
    (path : LogPath) (line : DateTime → Line) :
    Keeps (do openAppend; let now ← utcNow; writeLine path (line now) : Io Unit) f := by
  refine (keeps_attempt StorageError.io).bind fun _ => keeps_now.bind fun now => keeps_perform ?_ ?_
  · exact fun disk => hf disk path _
  · exact fun disk => hf disk path _

theorem keeps_storeSignals {V : Type} {f : Disk → V}
    (hf : ∀ disk path entry, f (disk.append path entry) = f disk) (heartbeat : Heartbeat) :
    Keeps (storeSignals heartbeat) f := by
  refine Keeps.bind (Keeps.forM ?_ _) fun _ => Keeps.forM ?_ _
  · exact fun threat => keeps_stampedLine hf threatsFile (threatLine heartbeat · threat)
  · exact fun mutation => keeps_stampedLine hf mutationsFile (mutationLine heartbeat · mutation)

theorem updateLiveRegistry_eq (heartbeat : Heartbeat) (w : World) : updateLiveRegistry heartbeat w =
    match w.outcomes 1 with
    | .ok => (.ok (), w.after (liveOrganismsFile.set
        (.whole (record (readEntries liveOrganismsFile w) heartbeat)) w.disk) 2 0)
    | .failed => (.error .io, w.after w.disk 2 0)
    | .cutShort => (.error .io, w.after (liveOrganismsFile.set .torn w.disk) 2 0) := by
  rw [updateLiveRegistry, bind_of_ok (readJson_unwrapOr liveOrganismsFile w), writeJson, perform_eq]
  cases houtcome : (w.after w.disk 1 0).outcomes 0 <;>
    rw [World.after_outcomes] at houtcome <;> rw [houtcome] <;> rfl

/-- `store_heartbeat` keeps the peer registry. -/
theorem keeps_peers_storeHeartbeat (heartbeat : Heartbeat) : Keeps (storeHeartbeat heartbeat) Disk.peers := by
  have hupdate : Keeps (updateLiveRegistry heartbeat) Disk.peers := by
    intro w
    rw [updateLiveRegistry_eq]
    cases w.outcomes 1 <;> exact ⟨_, 2, 0, rfl, rfl⟩
  refine (keeps_attempt StorageError.io).bind fun _ => Keeps.bind (keeps_perform ?_ ?_) fun _ =>
    hupdate.bind fun _ => keeps_storeSignals (fun _ _ _ => rfl) heartbeat
  · exact fun _ => rfl
  · exact fun _ => rfl

section Front

variable (heartbeat w)

/-- The disk with the line of the heartbeat. -/
def fossilDisk : Disk :=
  w.disk.append (fossilPath heartbeat.organismId) (.line (.heartbeat heartbeat))

/-- The first two steps, in front of the update of the live registry. -/
theorem storeHeartbeat_front (h₀ : w.outcomes 0 = .ok) (h₁ : w.outcomes 1 = .ok) :
    storeHeartbeat heartbeat w = (updateLiveRegistry heartbeat >>= fun _ => storeSignals heartbeat)
      (w.after (fossilDisk heartbeat w) 2 0) := by
  have hopen : openAppend w = (.ok (), w.after w.disk 1 0) := by
    rw [openAppend, attempt_eq, if_pos h₀]
  have hline := perform_eq (appendLine (fossilPath heartbeat.organismId) (.heartbeat heartbeat))
    StorageError.io (w.after w.disk 1 0)
  rw [World.after_outcomes, h₁] at hline
  exact (bind_of_ok hopen).trans (bind_of_ok hline)

/-- If one of them fails, the registry is as it was. -/
theorem storeHeartbeat_front_error (h : ¬ (w.outcomes 0 = .ok ∧ w.outcomes 1 = .ok)) :
    (∃ e, (storeHeartbeat heartbeat w).1 = .error e) ∧
      (storeHeartbeat heartbeat w).2.disk.organisms = w.disk.organisms := by
  by_cases h₀ : w.outcomes 0 = .ok
  · have hopen : openAppend w = (.ok (), w.after w.disk 1 0) := by
      rw [openAppend, attempt_eq, if_pos h₀]
    have hline := perform_eq (appendLine (fossilPath heartbeat.organismId) (.heartbeat heartbeat))
      StorageError.io (w.after w.disk 1 0)
    rw [World.after_outcomes] at hline
    cases h₁ : w.outcomes 1 <;> rw [h₁] at hline
    · exact absurd ⟨h₀, h₁⟩ h
    · rw [show storeHeartbeat heartbeat w = _ from (bind_of_ok hopen).trans (bind_of_error hline)]
      exact ⟨⟨_, rfl⟩, rfl⟩
    · rw [show storeHeartbeat heartbeat w = _ from (bind_of_ok hopen).trans (bind_of_error hline)]
      exact ⟨⟨_, rfl⟩, rfl⟩
  · have hopen : openAppend w = (.error .io, w.after w.disk 1 0) := by
      rw [openAppend, attempt_eq, if_neg h₀]
    rw [show storeHeartbeat heartbeat w = _ from bind_of_error hopen]
    exact ⟨⟨_, rfl⟩, rfl⟩

end Front

/-- The live registry is written by a call that comes to it. -/
theorem organisms_of_overwrites (heartbeat : Heartbeat) (h : Overwrites w) :
    (storeHeartbeat heartbeat w).2.disk.organisms = .whole (record (heartbeatRegistry w) heartbeat) := by
  obtain ⟨h₀, h₁, h₃⟩ := h
  have hupdate := updateLiveRegistry_eq heartbeat (w.after (fossilDisk heartbeat w) 2 0)
  rw [World.after_outcomes, h₃] at hupdate
  rw [storeHeartbeat_front heartbeat w h₀ h₁, bind_of_ok hupdate]
  obtain ⟨disk, m, k, hrest, hdisk⟩ := keeps_storeSignals (f := Disk.organisms) (fun _ _ _ => rfl) heartbeat _
  rw [hrest]
  exact hdisk

/-- A call that does not come to it fails, and leaves the registry as it was or torn. -/
theorem organisms_of_not_overwrites (heartbeat : Heartbeat) (h : ¬ Overwrites w) :
    (∃ e, (storeHeartbeat heartbeat w).1 = .error e) ∧
      ((storeHeartbeat heartbeat w).2.disk.organisms = w.disk.organisms ∨
        (storeHeartbeat heartbeat w).2.disk.organisms = .torn) := by
  by_cases hfront : w.outcomes 0 = .ok ∧ w.outcomes 1 = .ok
  · obtain ⟨h₀, h₁⟩ := hfront
    have hupdate := updateLiveRegistry_eq heartbeat (w.after (fossilDisk heartbeat w) 2 0)
    rw [World.after_outcomes] at hupdate
    rw [storeHeartbeat_front heartbeat w h₀ h₁]
    cases h₃ : w.outcomes 3 <;> rw [h₃] at hupdate
    · exact absurd ⟨h₀, h₁, h₃⟩ h
    · rw [bind_of_error hupdate]
      exact ⟨⟨_, rfl⟩, .inl rfl⟩
    · rw [bind_of_error hupdate]
      exact ⟨⟨_, rfl⟩, .inr rfl⟩
  · obtain ⟨he, hdisk⟩ := storeHeartbeat_front_error heartbeat w hfront
    exact ⟨he, .inl hdisk⟩

end Calls

/-! ## Runs -/

/-- A call of the storage. -/
inductive Call where
  | storeHeartbeat (heartbeat : Heartbeat)
  | registerPeer (peer : PeerRegistration)

/-- A node with what was recorded so far. -/
structure Ledger where
  world : World
  /-- The organisms that a successful `store_heartbeat` recorded. -/
  recorded : List String
  /-- The peers that a successful `register_peer` registered, and when. -/
  registered : List (String × DateTime)
  /-- The last call, if it succeeded. -/
  succeeded : Option Call

def Ledger.start (w : World) : Ledger := ⟨w, [], [], none⟩

/-- One call. A crash in the middle of a call is a step of it that is cut short. -/
def Ledger.call (s : Ledger) : Call → Ledger
  | .storeHeartbeat heartbeat =>
    match storeHeartbeat heartbeat s.world with
    | (.ok (), w) => ⟨w, heartbeat.organismId :: s.recorded, s.registered, some (.storeHeartbeat heartbeat)⟩
    | (.error _, w) => ⟨w, s.recorded, s.registered, none⟩
  | .registerPeer peer =>
    match registerPeer peer s.world with
    | (.ok record, w) =>
      ⟨w, s.recorded, (peer.peerId, record.lastSeen) :: s.registered, some (.registerPeer peer)⟩
    | (.error _, w) => ⟨w, s.recorded, s.registered, none⟩

def CallStep (s : Ledger) (call : Call) (t : Ledger) : Prop := t = s.call call

/-- A registration is at most an hour old. -/
def WithinHour (now time : DateTime) : Prop := now.numSecondsSince time ≤ 3600

/-- After a successful `store_heartbeat` the live registry has every organism recorded so far; after a
successful `register_peer` the peer registry has every peer registered within the last hour. -/
structure Ledger.Durable (s : Ledger) : Prop where
  organisms : ∀ heartbeat, s.succeeded = some (.storeHeartbeat heartbeat) →
    ∀ id ∈ s.recorded, id ∈ liveRegistry s.world
  peers : ∀ peer, s.succeeded = some (.registerPeer peer) →
    ∀ q ∈ s.registered, WithinHour (s.world.clock 0) q.2 → q.1 ∈ peerRegistry s.world

/-- A call does not write a registry that it could not read over the entries of others. -/
def KeepsRegistry (s : Ledger) : Call → Prop
  | .storeHeartbeat heartbeat =>
    Overwrites s.world → (∃ id ∈ s.recorded, id ≠ heartbeat.organismId) →
      s.world.outcomes 2 = .ok ∧ s.world.disk.organisms ≠ .torn
  | .registerPeer peer =>
    s.world.outcomes 1 = .ok →
      (∃ q ∈ s.registered, q.1 ≠ peer.peerId ∧ WithinHour (s.world.clock 2) q.2) →
      s.world.outcomes 0 = .ok ∧ s.world.disk.peers ≠ .torn

/-- What the calls keep. -/
structure Ledger.Sound (s : Ledger) : Prop where
  clock : ∀ m n, m ≤ n → s.world.clock m ≤ s.world.clock n
  organisms : ∀ registry, s.world.disk.organisms = .whole registry → ∀ id ∈ s.recorded, id ∈ registry
  organismsPresent : s.recorded ≠ [] → s.world.disk.organisms ≠ .absent
  peers : ∀ registry, s.world.disk.peers = .whole registry →
    ∀ q ∈ s.registered, WithinHour (s.world.clock 0) q.2 →
      ∃ peer, registry.lookup q.1 = some peer ∧ q.2 ≤ peer.lastSeen
  peersPresent : s.registered ≠ [] → s.world.disk.peers ≠ .absent
  past : ∀ q ∈ s.registered, q.2 ≤ s.world.clock 0
  durable : s.Durable

section Runs

variable {s : Ledger}

theorem sound_start {w : World} (h : ∀ m n, m ≤ n → w.clock m ≤ w.clock n) :
    (Ledger.start w).Sound where
  clock := h
  organisms _ _ _ hid := absurd hid List.not_mem_nil
  organismsPresent hne := absurd rfl hne
  peers _ _ _ hq := absurd hq List.not_mem_nil
  peersPresent hne := absurd rfl hne
  past _ hq := absurd hq List.not_mem_nil
  durable := by
    constructor
    · rintro _ ⟨⟩
    · rintro _ ⟨⟩

/-- Time that passes makes no registration younger. -/
theorem WithinHour.of_le {now now' time : DateTime} (h : WithinHour now' time) (hle : now ≤ now') :
    WithinHour now time := by
  refine Int.le_trans ?_ h
  have hnanos : now.nanos ≤ now'.nanos := hle
  exact Int.tdiv_le_tdiv (by decide) (Int.sub_le_sub_right hnanos time.nanos)

/-- A registration is not older than a later one. -/
theorem WithinHour.of_time_le {now time time' : DateTime} (h : WithinHour now time) (hle : time ≤ time') :
    WithinHour now time' := by
  refine Int.le_trans ?_ h
  have hnanos : time.nanos ≤ time'.nanos := hle
  exact Int.tdiv_le_tdiv (by decide) (Int.sub_le_sub_left hnanos now.nanos)

/-! ## Heartbeats -/

section Heartbeat

variable {heartbeat : Heartbeat}

theorem mem_record {registry : OrganismRegistry} {id : String} :
    id ∈ record registry heartbeat ↔ id = heartbeat.organismId ∨ id ∈ registry :=
  AList.mem_insert registry

/-- Under the condition the entries of the others are read. -/
theorem Ledger.Sound.mem_heartbeatRegistry (h : s.Sound) (hk : KeepsRegistry s (.storeHeartbeat heartbeat))
    (hw : Overwrites s.world) {id : String} (hid : id ∈ s.recorded) (hne : id ≠ heartbeat.organismId) :
    id ∈ heartbeatRegistry s.world := by
  obtain ⟨hread, htorn⟩ := hk hw ⟨id, hid, hne⟩
  have habsent := h.organismsPresent (List.ne_nil_of_mem hid)
  have hregistry : heartbeatRegistry s.world = s.world.disk.organisms.entries := if_pos hread
  rw [hregistry]
  cases hfile : s.world.disk.organisms with
  | absent => exact absurd hfile habsent
  | torn => exact absurd hfile htorn
  | whole registry => exact h.organisms registry hfile id hid

/-- The ledger after a call that leaves the peer registry alone. -/
theorem Ledger.Sound.of_organisms (h : s.Sound) {disk : Disk} {m k : Nat} {recorded : List String}
    {succeeded : Option Call} (hpeers : disk.peers = s.world.disk.peers)
    (hfile : (∃ registry, disk.organisms = .whole registry ∧ ∀ id ∈ recorded, id ∈ registry) ∨
      disk.organisms = .torn ∧ succeeded = none ∨
      disk.organisms = s.world.disk.organisms ∧ recorded = s.recorded ∧ succeeded = none)
    (hlast : ∀ peer, succeeded ≠ some (.registerPeer peer)) :
    Ledger.Sound ⟨s.world.after disk m k, recorded, s.registered, succeeded⟩ where
  clock i j hij := h.clock _ _ (Nat.add_le_add_right hij k)
  organisms registry hregistry id hid := by
    rw [World.after_disk] at hregistry
    -- the file is whole again, torn, or as it was
    rcases hfile with ⟨registry', hdisk, hin⟩ | ⟨hdisk, -⟩ | ⟨hdisk, rfl, -⟩
    · rw [hdisk] at hregistry
      cases hregistry
      exact hin id hid
    · rw [hdisk] at hregistry
      cases hregistry
    · rw [hdisk] at hregistry
      exact h.organisms registry hregistry id hid
  organismsPresent hne := by
    rw [World.after_disk]
    rcases hfile with ⟨registry', hdisk, -⟩ | ⟨hdisk, -⟩ | ⟨hdisk, rfl, -⟩
    · simp [hdisk]
    · simp [hdisk]
    · rw [hdisk]
      exact h.organismsPresent hne
  peers registry hregistry q hq hfresh := by
    rw [World.after_disk, hpeers] at hregistry
    exact h.peers registry hregistry q hq (hfresh.of_le (h.clock _ _ (Nat.zero_le _)))
  peersPresent hne := by
    rw [World.after_disk, hpeers]
    exact h.peersPresent hne
  past q hq := Int.le_trans (h.past q hq) (h.clock _ _ (Nat.zero_le _))
  durable := by
    refine ⟨?_, fun peer hpeer => absurd hpeer (hlast peer)⟩
    intro heartbeat hsucceeded id hid
    rw [liveRegistry, World.after_disk]
    -- only the call that wrote the file whole succeeded
    dsimp only at hsucceeded
    rcases hfile with ⟨registry', hdisk, hin⟩ | ⟨-, hnone⟩ | ⟨-, -, hnone⟩
    · rw [hdisk]
      exact hin id hid
    · rw [hnone] at hsucceeded
      cases hsucceeded
    · rw [hnone] at hsucceeded
      cases hsucceeded

/-- A `store_heartbeat` that meets the condition keeps what was recorded. -/
theorem Ledger.Sound.call_storeHeartbeat (h : s.Sound)
    (hk : KeepsRegistry s (.storeHeartbeat heartbeat)) :
    (s.call (.storeHeartbeat heartbeat)).Sound := by
  obtain ⟨disk, m, k, hworld, hpeers⟩ := keeps_peers_storeHeartbeat heartbeat s.world
  -- what is written has the organism, and with it all that were recorded
  have hin : Overwrites s.world → ∀ id ∈ heartbeat.organismId :: s.recorded,
      id ∈ record (heartbeatRegistry s.world) heartbeat := by
    intro hw id hid
    rw [mem_record]
    by_cases hne : id = heartbeat.organismId
    · exact .inl hne
    · exact .inr (h.mem_heartbeatRegistry hk hw ((List.mem_cons.1 hid).resolve_left hne) hne)
  have hwrites := organisms_of_overwrites (w := s.world) heartbeat
  have hnot := organisms_of_not_overwrites (w := s.world) heartbeat
  rw [hworld, World.after_disk] at hwrites hnot
  rcases hres : storeHeartbeat heartbeat s.world with ⟨e | ⟨⟩, w'⟩
  · rw [hres] at hworld hnot
    obtain rfl : w' = s.world.after disk m k := hworld
    have hcall : s.call (.storeHeartbeat heartbeat) =
        ⟨s.world.after disk m k, s.recorded, s.registered, none⟩ := by simp [Ledger.call, hres]
    rw [hcall]
    refine h.of_organisms hpeers ?_ (by simp)
    -- the call may fail after it has overwritten the registry
    by_cases hw : Overwrites s.world
    · exact .inl ⟨_, hwrites hw, fun id hid => hin hw id (List.mem_cons_of_mem _ hid)⟩
    · rcases (hnot hw).2 with hsame | htorn
      · exact .inr (.inr ⟨hsame, rfl, rfl⟩)
      · exact .inr (.inl ⟨htorn, rfl⟩)
  · rw [hres] at hworld hnot
    obtain rfl : w' = s.world.after disk m k := hworld
    have hcall : s.call (.storeHeartbeat heartbeat) = ⟨s.world.after disk m k,
        heartbeat.organismId :: s.recorded, s.registered, some (.storeHeartbeat heartbeat)⟩ := by
      simp [Ledger.call, hres]
    have hw : Overwrites s.world := by
      by_contra hw
      obtain ⟨⟨e, he⟩, -⟩ := hnot hw
      cases he
    rw [hcall]
    exact h.of_organisms hpeers (.inl ⟨_, hwrites hw, hin hw⟩) (by simp)

/-- A successful `store_heartbeat` that does not meet it loses an organism. -/
theorem keepsRegistry_of_durable_heartbeat
    (hok : (s.call (.storeHeartbeat heartbeat)).succeeded = some (.storeHeartbeat heartbeat))
    (hdurable : (s.call (.storeHeartbeat heartbeat)).Durable) :
    KeepsRegistry s (.storeHeartbeat heartbeat) := by
  rintro hw ⟨id, hid, hne⟩
  by_contra hnot
  have hempty : heartbeatRegistry s.world = ∅ := readEntries_eq_empty hnot
  have hwrites := organisms_of_overwrites heartbeat hw
  rw [hempty] at hwrites
  rcases hres : storeHeartbeat heartbeat s.world with ⟨e | ⟨⟩, w'⟩
  · simp [Ledger.call, hres] at hok
  · rw [hres] at hwrites
    have hmem := hdurable.organisms heartbeat hok id (by simp [Ledger.call, hres, hid])
    have hworld : (s.call (.storeHeartbeat heartbeat)).world = w' := by simp [Ledger.call, hres]
    rw [hworld, liveRegistry, hwrites, JsonFile.entries, mem_record] at hmem
    rcases hmem with heq | hmem
    · exact hne heq
    · exact absurd hmem (AList.notMem_empty _)

end Heartbeat

/-! ## Peers -/

section Peer

variable {peer : PeerRegistration}

/-- Peers registered within the last hour are kept. -/
theorem Ledger.Sound.lookup_keptPeers (h : s.Sound) (hread : s.world.outcomes 0 = .ok)
    {registry : MeshRegistry} (hfile : s.world.disk.peers = .whole registry) {q : String × DateTime}
    (hq : q ∈ s.registered) (hfresh : WithinHour (s.world.clock 0) q.2) :
    ∃ record, (keptPeers s.world).lookup q.1 = some record ∧ q.2 ≤ record.lastSeen := by
  obtain ⟨record, hlookup, hle⟩ := h.peers registry hfile q hq hfresh
  refine ⟨record, ColonyServer.lookup_keptPeers hread ?_ ?_, hle⟩
  · rw [peerRegistry, hfile]
    exact hlookup
  · exact decide_eq_true (hfresh.of_time_le hle)

/-- The ledger after a call that leaves the live registry alone. -/
theorem Ledger.Sound.of_peers (h : s.Sound) {disk : Disk} {m k : Nat}
    {registered : List (String × DateTime)} {succeeded : Option Call}
    (horganisms : disk.organisms = s.world.disk.organisms)
    (hpast : ∀ q ∈ registered, q.2 ≤ s.world.clock k)
    (hfile : (∃ registry, disk.peers = .whole registry ∧
        ∀ q ∈ registered, WithinHour (s.world.clock k) q.2 →
          ∃ record, registry.lookup q.1 = some record ∧ q.2 ≤ record.lastSeen) ∨
      disk.peers = .torn ∧ succeeded = none ∨
      disk.peers = s.world.disk.peers ∧ registered = s.registered ∧ succeeded = none)
    (hlast : ∀ heartbeat, succeeded ≠ some (.storeHeartbeat heartbeat)) :
    Ledger.Sound ⟨s.world.after disk m k, s.recorded, registered, succeeded⟩ where
  clock i j hij := h.clock _ _ (Nat.add_le_add_right hij k)
  organisms registry hregistry id hid := by
    rw [World.after_disk, horganisms] at hregistry
    exact h.organisms registry hregistry id hid
  organismsPresent hne := by
    rw [World.after_disk, horganisms]
    exact h.organismsPresent hne
  peers registry hregistry q hq hfresh := by
    rw [World.after_disk] at hregistry
    rw [World.after_clock, Nat.zero_add] at hfresh
    -- the file is whole again, torn, or as it was
    rcases hfile with ⟨registry', hdisk, hin⟩ | ⟨hdisk, -⟩ | ⟨hdisk, rfl, -⟩
    · rw [hdisk] at hregistry
      cases hregistry
      exact hin q hq hfresh
    · rw [hdisk] at hregistry
      cases hregistry
    · rw [hdisk] at hregistry
      exact h.peers registry hregistry q hq (hfresh.of_le (h.clock _ _ (Nat.zero_le k)))
  peersPresent hne := by
    rw [World.after_disk]
    rcases hfile with ⟨registry', hdisk, -⟩ | ⟨hdisk, -⟩ | ⟨hdisk, rfl, -⟩
    · simp [hdisk]
    · simp [hdisk]
    · rw [hdisk]
      exact h.peersPresent hne
  past q hq := by
    rw [World.after_clock, Nat.zero_add]
    exact hpast q hq
  durable := by
    refine ⟨fun heartbeat hheartbeat => absurd hheartbeat (hlast heartbeat), ?_⟩
    intro peer hsucceeded q hq hfresh
    rw [World.after_clock, Nat.zero_add] at hfresh
    rw [peerRegistry, World.after_disk]
    -- only the call that wrote the file whole succeeded
    dsimp only at hsucceeded
    rcases hfile with ⟨registry', hdisk, hin⟩ | ⟨-, hnone⟩ | ⟨-, -, hnone⟩
    · obtain ⟨record, hlookup, -⟩ := hin q hq hfresh
      rw [hdisk]
      exact AList.lookup_isSome.1 (Option.isSome_of_mem hlookup)
    · rw [hnone] at hsucceeded
      cases hsucceeded
    · rw [hnone] at hsucceeded
      cases hsucceeded

/-- Under the condition the registry written has every peer registered within the last hour. -/
theorem Ledger.Sound.lookup_registeredPeers (h : s.Sound) (hk : KeepsRegistry s (.registerPeer peer))
    (houtcome : s.world.outcomes 1 = .ok) :
    ∀ q ∈ (peer.peerId, s.world.clock 1) :: s.registered, WithinHour (s.world.clock 2) q.2 →
      ∃ record, (registeredPeers peer s.world).lookup q.1 = some record ∧ q.2 ≤ record.lastSeen := by
  intro q hq hfresh
  by_cases hid : q.1 = peer.peerId
  · refine ⟨registeredPeer peer s.world, ?_, ?_⟩
    · rw [hid]
      exact AList.lookup_insert _
    · rw [registeredPeer_lastSeen]
      rcases List.mem_cons.1 hq with rfl | hq
      · exact Int.le_refl _
      · exact Int.le_trans (h.past q hq) (h.clock _ _ (Nat.zero_le 1))
  · -- any other peer was registered before, and its record is read
    have hold : q ∈ s.registered := by
      apply (List.mem_cons.1 hq).resolve_left
      rintro rfl
      exact hid rfl
    obtain ⟨hread, htorn⟩ := hk houtcome ⟨q, hold, hid, hfresh⟩
    have hfresh₀ := hfresh.of_le (h.clock 0 2 (Nat.zero_le 2))
    cases hfile : s.world.disk.peers with
    | absent => exact absurd hfile (h.peersPresent (List.ne_nil_of_mem hold))
    | torn => exact absurd hfile htorn
    | whole registry =>
      obtain ⟨record, hlookup, hle⟩ := h.lookup_keptPeers hread hfile hold hfresh₀
      refine ⟨record, ?_, hle⟩
      rw [registeredPeers, AList.lookup_insert_ne hid]
      exact hlookup

/-- A `register_peer` that meets the condition keeps what was registered. -/
theorem Ledger.Sound.call_registerPeer (h : s.Sound) (hk : KeepsRegistry s (.registerPeer peer)) :
    (s.call (.registerPeer peer)).Sound := by
  rcases hres : registerPeer peer s.world with ⟨e | record, w'⟩
  · obtain ⟨disk, m, k, rfl, horganisms, hdisk⟩ := registerPeer_error hres
    have hcall : s.call (.registerPeer peer) =
        ⟨s.world.after disk m k, s.recorded, s.registered, none⟩ := by simp [Ledger.call, hres]
    rw [hcall]
    -- a call that fails may have written back the registry without old peers
    refine h.of_peers horganisms ?_ ?_ (by simp)
    · exact fun q hq => Int.le_trans (h.past q hq) (h.clock _ _ (Nat.zero_le k))
    · rcases hdisk with hsame | htorn | ⟨hevicts, hkept⟩
      · exact .inr (.inr ⟨hsame, rfl, rfl⟩)
      · exact .inr (.inl ⟨htorn, rfl⟩)
      · obtain ⟨hread, registry, hfile⟩ := hevicts.read
        refine .inl ⟨_, hkept, fun q hq hfresh => ?_⟩
        exact h.lookup_keptPeers hread hfile hq (hfresh.of_le (h.clock _ _ (Nat.zero_le k)))
  · have houtcome := registerPeer_ok_outcome hres
    obtain ⟨rfl, m, rfl⟩ := registerPeer_ok hres
    have hcall : s.call (.registerPeer peer) =
        ⟨s.world.after (peersFile.set (.whole (registeredPeers peer s.world)) s.world.disk) m 2,
          s.recorded, (peer.peerId, s.world.clock 1) :: s.registered, some (.registerPeer peer)⟩ := by
      simp [Ledger.call, hres, registeredPeer_lastSeen]
    rw [hcall]
    refine h.of_peers rfl ?_ (.inl ⟨_, rfl, h.lookup_registeredPeers hk houtcome⟩) (by simp)
    intro q hq
    rcases List.mem_cons.1 hq with rfl | hq
    · exact h.clock 1 2 (Nat.le_succ 1)
    · exact Int.le_trans (h.past q hq) (h.clock _ _ (Nat.zero_le 2))

/-- A successful `register_peer` that does not meet it loses a peer. -/
theorem keepsRegistry_of_durable_peer
    (hok : (s.call (.registerPeer peer)).succeeded = some (.registerPeer peer))
    (hdurable : (s.call (.registerPeer peer)).Durable) : KeepsRegistry s (.registerPeer peer) := by
  rintro houtcome ⟨q, hq, hne, hfresh⟩
  by_contra hnot
  have hempty : keptPeers s.world = ∅ := by
    rw [keptPeers, readEntries_eq_empty hnot]
    rfl
  rcases hres : registerPeer peer s.world with ⟨e | record, w'⟩
  · simp [Ledger.call, hres] at hok
  · obtain ⟨rfl, m, rfl⟩ := registerPeer_ok hres
    have hmem := hdurable.peers peer hok q (by simp [Ledger.call, hres, hq])
      (by simpa [Ledger.call, hres] using hfresh)
    have hregistry : peerRegistry (s.call (.registerPeer peer)).world = registeredPeers peer s.world := by
      simp [Ledger.call, hres, peerRegistry, peersFile, JsonFile.entries]
    rw [hregistry, registeredPeers, hempty, AList.mem_insert] at hmem
    rcases hmem with heq | hmem
    · exact hne heq
    · exact absurd hmem (AList.notMem_empty _)

end Peer

/-! ## Whole runs -/

theorem Ledger.Sound.call {call : Call} (h : s.Sound) (hk : KeepsRegistry s call) :
    (s.call call).Sound := by
  cases call with
  | storeHeartbeat heartbeat => exact h.call_storeHeartbeat hk
  | registerPeer peer => exact h.call_registerPeer hk

/-- A successful call is safe only if it meets the condition. -/
theorem keepsRegistry_of_durable {call : Call} (hok : (s.call call).succeeded = some call)
    (hdurable : (s.call call).Durable) : KeepsRegistry s call := by
  cases call with
  | storeHeartbeat heartbeat => exact keepsRegistry_of_durable_heartbeat hok hdurable
  | registerPeer peer => exact keepsRegistry_of_durable_peer hok hdurable

/-- In a run whose calls write no registry that they could not read over the entries of others, and whose
clock does not go back, the registries have in every state reached what they should have. After such a run
one more call that succeeds keeps them so if and only if it meets the condition too. -/
theorem allStates_durable {w : World} (hclock : ∀ m n, m ≤ n → w.clock m ≤ w.clock n)
    {tr : List (Call × Ledger)} (h : Exec CallStep (Ledger.start w) tr)
    (hk : AllSteps KeepsRegistry (Ledger.start w) tr) :
    AllStates Ledger.Durable (Ledger.start w) tr ∧
      ∀ call, ((final (Ledger.start w) tr).call call).succeeded = some call →
        (((final (Ledger.start w) tr).call call).Durable ↔
          KeepsRegistry (final (Ledger.start w) tr) call) := by
  have hsound : AllStates Ledger.Sound (Ledger.start w) tr := by
    apply h.allStates (sound_start hclock) hk
    rintro s call t hs hcall rfl
    exact hs.call hcall
  refine ⟨hsound.imp fun _ hs => hs.durable, ?_⟩
  intro call hok
  exact ⟨keepsRegistry_of_durable hok, fun hcall => (hsound.final.call hcall).durable⟩

/-- A heartbeat of an organism that reports nothing. -/
def quietHeartbeat (organismId : String) : Heartbeat :=
  { sampleHeartbeat with organismId := organismId, immuneSignals := [], mutations := [] }

/-- Two organisms report. -/
def twoOrganisms (s : Ledger) : List (Call × Ledger) :=
  let t := s.call (.storeHeartbeat (quietHeartbeat "oo-1"))
  [(.storeHeartbeat (quietHeartbeat "oo-1"), t),
    (.storeHeartbeat (quietHeartbeat "oo-2"), t.call (.storeHeartbeat (quietHeartbeat "oo-2")))]

theorem exec_twoOrganisms (s : Ledger) : Exec CallStep s (twoOrganisms s) := ⟨rfl, rfl, trivial⟩

/-- The second report cannot read the registry, and the first organism is lost. -/
theorem organism_lost :
    Exec CallStep (Ledger.start (failingAt 6)) (twoOrganisms (Ledger.start (failingAt 6))) ∧
      ¬ AllStates Ledger.Durable (Ledger.start (failingAt 6))
        (twoOrganisms (Ledger.start (failingAt 6))) := by
  refine ⟨exec_twoOrganisms _, ?_⟩
  intro hall
  have hmem := hall.final.organisms (quietHeartbeat "oo-2") rfl "oo-1" (by decide)
  exact absurd hmem (by decide)

/-- If it can, both are kept. -/
theorem allStates_durable_twoOrganisms :
    AllStates Ledger.Durable (Ledger.start freshNode) (twoOrganisms (Ledger.start freshNode)) := by
  refine (allStates_durable (fun _ _ _ => Int.le_refl _) (exec_twoOrganisms _) ⟨?_, ?_, trivial⟩).1
  · rintro - ⟨id, hid, -⟩
    cases hid
  · rintro - -
    exact ⟨rfl, by decide⟩

end Runs

end OperatingOrganism.ColonyServer

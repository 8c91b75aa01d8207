import OperatingOrganism.ColonyServer.Emission
import OperatingOrganism.Library.Execution

/-!
# Envelopes that are delivered again

A node that is handed the same gossip twice passes it on to `store_gossip` twice only if the entry of the
first delivery was dropped in between (`stored_again`). The entry is made before the gossip is stored and
stays when storing fails, so a redelivery after a failure is stored only if the entry was dropped
(`redelivery_stored_iff`).

Between the deliveries the node may do anything: take other requests, start rounds of its own, and let time
pass.
-/

set_option autoImplicit false

namespace OperatingOrganism.ColonyServer

open OperatingOrganism.Execution
open OperatingOrganism.FaultyIo

/-! ## What a running node does -/

inductive Event where
  /-- A request to `/mesh/gossip`. -/
  | request (gossip : GossipEnvelope)
  /-- A round of `run_gossip_loop` marks its own gossip. -/
  | round (gossipId : String)
  /-- Anything that leaves the cache alone. -/
  | other

/-- Time passes, the disk, the counters and the circuit breakers change; the configuration stays. -/
structure Elapses (s t : AppState) : Prop where
  runtime : t.runtime = s.runtime
  world : ∃ disk m k, t.world = s.world.after disk m k

section

variable (hmac : String → String → Vector UInt8 32)

/-- The state after a request. -/
abbrev afterRequest (gossip : GossipEnvelope) (s : AppState) : AppState :=
  (handleMeshGossip hmac gossip s).2

/-- One event. -/
def Event.Step (s : AppState) : Event → AppState → Prop
  | .request gossip, t => t = afterRequest hmac gossip s
  | .round gossipId, t =>
    Elapses s t ∧ t.seenGossip =
      (markGossipSeen s.seenGossip gossipId s.runtime.dedupWindowS s.now.timestamp).2
  | .other, t => Elapses s t ∧ t.seenGossip = s.seenGossip

/-- The event comes to `mark_gossip_seen` with this identifier at this time. -/
def Event.Marks (s : AppState) : Event → String → Int → Prop
  | .request gossip, id, now => Admitted hmac gossip s ∧ gossip.gossipId = id ∧ now = markTime s
  | .round gossipId, id, now => gossipId = id ∧ now = s.now.timestamp
  | .other, _, _ => False

/-- The event enters the identifier as a new one. -/
def Enters (id : String) (s : AppState) (e : Event) : Prop :=
  ∃ now, e.Marks hmac s id now ∧ id ∉ s.seenGossip.recent now s.runtime.dedupWindowS

/-- The event drops the entries of the time `seenAt`. -/
def DropsEntry (seenAt : Int) (s : AppState) (e : Event) : Prop :=
  ∃ id now, e.Marks hmac s id now ∧ Drops s.seenGossip id s.runtime.dedupWindowS now seenAt

/-- The entry of the identifier, of the time `seenAt`, is there before the event and not after it. -/
def LosesEntry (id : String) (seenAt : Int) (s t : AppState) : Prop :=
  s.seenGossip.lookup id = some seenAt ∧ t.seenGossip.lookup id ≠ some seenAt

/-- The event marks an identifier that is new, finds the cache full, and drops the entries of the time `seenAt` to
make room: they are older than half the window, or the cache is full of entries that are not. -/
def MakesRoom (seenAt : Int) (s : AppState) (e : Event) : Prop :=
  ∃ id now, e.Marks hmac s id now ∧ id ∉ s.seenGossip.recent now s.runtime.dedupWindowS ∧
    maxSeen ≤ (s.seenGossip.recent now s.runtime.dedupWindowS).entries.length ∧
    (s.runtime.dedupWindowS.tdiv 2 < now - seenAt ∨
      maxSeen ≤ ((s.seenGossip.recent now s.runtime.dedupWindowS).recent now
        (s.runtime.dedupWindowS.tdiv 2)).entries.length)

variable {s t u : AppState} {gossip : GossipEnvelope} {e : Event} {id : String} {seenAt : Int}

theorem Elapses.refl (s : AppState) : Elapses s s := ⟨rfl, s.world.disk, 0, 0, rfl⟩

theorem Elapses.trans (h : Elapses s t) (h' : Elapses t u) : Elapses s u := by
  obtain ⟨disk, m, k, hw⟩ := h.world
  obtain ⟨disk', m', k', hw'⟩ := h'.world
  refine ⟨h'.runtime.trans h.runtime, disk', m + m', k + k', ?_⟩
  rw [hw', hw, World.after_after]

theorem Advances.elapses (h : Advances s t) : Elapses s t := ⟨h.runtime, h.world⟩

theorem Event.Step.elapses (h : e.Step hmac s t) : Elapses s t := by
  cases e with
  | request gossip =>
    obtain rfl : t = _ := h
    exact (advances_handle hmac gossip s).elapses
  | round gossipId => exact h.1
  | other => exact h.1

theorem sendGossipToPeers_elapses (respond : String → Nat → Bool) (envelope : GossipEnvelope)
    (excludePeerId : Option String) (s : AppState) :
    Elapses s (sendGossipToPeers hmac respond envelope excludePeerId s).2 ∧
      (sendGossipToPeers hmac respond envelope excludePeerId s).2.seenGossip = s.seenGossip := by
  have hread := (advances_storage keeps_organisms_getMeshRegistry s).elapses
  have hseen : (s.storage getMeshRegistry).2.seenGossip = s.seenGossip := rfl
  rw [sendGossipToPeers]
  rcases hres : s.storage getMeshRegistry with ⟨e | registry, t⟩
  · rw [hres] at hread hseen
    exact ⟨hread, hseen⟩
  · rw [hres] at hread hseen
    have hsend := sendGossipTo_keeps hmac respond envelope
      (recipients t.nodeProfile.nodeId excludePeerId registry) t
    exact ⟨hread.trans ⟨hsend.runtime, t.world.disk, 0, 0, hsend.world⟩, hsend.seenGossip.trans hseen⟩

/-- A round of `run_gossip_loop` is made of such events. -/
theorem exec_gossipRound (respond : String → Nat → Bool) (gossipId : String) (maxHops : UInt8)
    (observedThreats : List String) (observedOrganisms : UInt64) (s : AppState) :
    ∃ tr, Exec (Event.Step hmac) s tr ∧ final s tr =
      (gossipRound hmac respond gossipId maxHops observedThreats observedOrganisms s).2 := by
  have hread := (advances_storage keeps_organisms_getMeshRegistry s).elapses
  have hseen : (s.storage getMeshRegistry).2.seenGossip = s.seenGossip := rfl
  rw [gossipRound]
  rcases hres : s.storage getMeshRegistry with ⟨e | registry, t⟩
  · rw [hres] at hread hseen
    exact ⟨[(.other, t)], ⟨⟨hread, hseen⟩, trivial⟩, rfl⟩
  · rw [hres] at hread hseen
    dsimp only
    split
    · exact ⟨[(.other, t)], ⟨⟨hread, hseen⟩, trivial⟩, rfl⟩
    · -- it reads the registry and the clock, marks, and sends
      have hmark : Elapses t.tick { t.tick.tick with
          seenGossip := (markGossipSeen t.tick.seenGossip gossipId t.tick.runtime.dedupWindowS
            t.tick.now.timestamp).2 } := ⟨rfl, t.world.disk, 0, 1, rfl⟩
      have hsend := sendGossipToPeers_elapses hmac respond
        (ownGossip hmac gossipId maxHops observedThreats observedOrganisms t.now t) none { t.tick.tick with
          seenGossip := (markGossipSeen t.tick.seenGossip gossipId t.tick.runtime.dedupWindowS
            t.tick.now.timestamp).2 }
      have htick : Elapses s t.tick := hread.trans (advances_tick t).elapses
      exact ⟨[(.other, t.tick), (.round gossipId, _), (.other, _)],
        ⟨⟨htick, hseen⟩, ⟨hmark, rfl⟩, hsend, trivial⟩, rfl⟩

/-- The cache changes by a mark, or stays. -/
theorem Event.Step.seenGossip (h : e.Step hmac s t) :
    (∃ id now, e.Marks hmac s id now ∧
      t.seenGossip = (markGossipSeen s.seenGossip id s.runtime.dedupWindowS now).2) ∨
      (∀ id now, ¬ e.Marks hmac s id now) ∧ t.seenGossip = s.seenGossip := by
  cases e with
  | request gossip =>
    obtain rfl : t = _ := h
    by_cases hadm : Admitted hmac gossip s
    · exact .inl ⟨gossip.gossipId, markTime s, ⟨hadm, rfl, rfl⟩, seenGossip_handle hmac hadm⟩
    · exact .inr ⟨fun _ _ hmarks => hadm hmarks.1, (handle_of_not_admitted hmac hadm).seenGossip⟩
  | round gossipId => exact .inl ⟨gossipId, _, ⟨rfl, rfl⟩, h.2⟩
  | other => exact .inr ⟨fun _ _ => not_false, h.2⟩

/-- An event marks one identifier, once. -/
theorem Event.Marks.unique {id' : String} {now now' : Int} (h : e.Marks hmac s id now)
    (h' : e.Marks hmac s id' now') : id' = id ∧ now' = now := by
  cases e with
  | request gossip =>
    obtain ⟨-, rfl, rfl⟩ := h
    exact ⟨h'.2.1.symm, h'.2.2⟩
  | round gossipId =>
    obtain ⟨rfl, rfl⟩ := h
    exact ⟨h'.1.symm, h'.2⟩
  | other => exact h.elim

/-- Unless the event enters the identifier as a new one, its entry stays exactly if it is not dropped. -/
theorem Event.Step.lookup (h : e.Step hmac s t) (hent : ¬ Enters hmac id s e) :
    t.seenGossip.lookup id = some seenAt ↔
      s.seenGossip.lookup id = some seenAt ∧ ¬ DropsEntry hmac seenAt s e := by
  obtain ⟨other, now, hmarks, hseen⟩ | ⟨hnone, hseen⟩ := h.seenGossip
  · have hdrops : DropsEntry hmac seenAt s e ↔
        Drops s.seenGossip other s.runtime.dedupWindowS now seenAt := by
      constructor
      · rintro ⟨_, _, hmarks', hdrops⟩
        obtain ⟨rfl, rfl⟩ := hmarks.unique hmac hmarks'
        exact hdrops
      · exact fun hdrops => ⟨other, now, hmarks, hdrops⟩
    have hold : id ≠ other ∨ (markGossipSeen s.seenGossip other s.runtime.dedupWindowS now).1 = false := by
      by_cases hid : id = other
      · right
        subst hid
        rw [← Bool.not_eq_true, markGossipSeen_fst]
        exact fun hnew => hent ⟨now, hmarks, hnew⟩
      · exact .inl hid
    rw [hseen, hdrops]
    exact lookup_markGossipSeen hold
  · have hkept : ¬ DropsEntry hmac seenAt s e := by
      rintro ⟨other, now, hmarks, -⟩
      exact hnone other now hmarks
    rw [hseen, and_iff_left hkept]

/-- A request that passes a gossip on enters it with the time of the mark. -/
theorem lookup_handle_self (h : Passes hmac gossip s) :
    (handleMeshGossip hmac gossip s).2.seenGossip.lookup gossip.gossipId = some (markTime s) := by
  obtain ⟨hadm, hnew⟩ := (passes_iff hmac).1 h
  rw [seenGossip_handle hmac hadm]
  exact lookup_markGossipSeen_self hnew

/-- An entry of an identifier that is new is older than the window. -/
theorem lt_of_not_mem_recent {now : Int} (hentry : s.seenGossip.lookup id = some seenAt)
    (h : id ∉ s.seenGossip.recent now s.runtime.dedupWindowS) :
    s.runtime.dedupWindowS < now - seenAt := by
  rw [mem_recent_iff] at h
  by_contra hle
  exact h ⟨seenAt, hentry, Int.not_lt.1 hle⟩

/-! ## Runs -/

theorem elapses_final {tr : List (Event × AppState)} (h : Exec (Event.Step hmac) s tr) :
    Elapses s (final s tr) := by
  induction tr generalizing s with
  | nil => exact Elapses.refl s
  | cons step tr ih => exact h.1.elapses.trans (ih h.2)

/-- The clock does not go back. -/
def ClockMono (s : AppState) : Prop := ∀ m n, m ≤ n → s.world.clock m ≤ s.world.clock n

theorem Elapses.clockMono (h : Elapses s t) (hs : ClockMono s) : ClockMono t := by
  obtain ⟨disk, m, k, hw⟩ := h.world
  intro i j hij
  rw [hw]
  exact hs _ _ (Nat.add_le_add_right hij k)

/-- A mark now is not later than a mark then. -/
theorem Event.Marks.le_markTime {now : Int} (h : e.Marks hmac s id now) (hs : ClockMono s)
    (hst : Elapses s t) : now ≤ markTime t := by
  obtain ⟨disk, m, k, hw⟩ := hst.world
  rw [markTime, hw]
  cases e with
  | request gossip =>
    obtain ⟨-, -, rfl⟩ := h
    exact DateTime.timestamp_mono (hs _ _ (Nat.le_add_right 1 k))
  | round gossipId =>
    obtain ⟨-, rfl⟩ := h
    exact DateTime.timestamp_mono (hs _ _ (Nat.zero_le _))
  | other => exact h.elim

/-- If a gossip with an entry is passed on at the end of a run, more than the window has gone by, or the
entry was lost to make room. -/
theorem lt_or_makesRoom {tr : List (Event × AppState)} (h : Exec (Event.Step hmac) s tr)
    (hclock : ClockMono s) (hentry : s.seenGossip.lookup gossip.gossipId = some seenAt)
    (hpass : Passes hmac gossip (final s tr)) :
    s.runtime.dedupWindowS < markTime (final s tr) - seenAt ∨
      ∃ l e u r, tr = l ++ (e, u) :: r ∧ LosesEntry gossip.gossipId seenAt (final s l) u ∧
        MakesRoom hmac seenAt (final s l) e := by
  have hruntime : ∀ {u}, Elapses s u → u.runtime.dedupWindowS = s.runtime.dedupWindowS :=
    fun hu => congrArg MeshRuntimeConfig.dedupWindowS hu.runtime
  by_cases hlast : (final s tr).seenGossip.lookup gossip.gossipId = some seenAt
  · left
    rw [← hruntime (elapses_final hmac h)]
    obtain ⟨-, hnew⟩ := (passes_iff hmac).1 hpass
    exact lt_of_not_mem_recent hlast (markGossipSeen_fst.1 hnew)
  · -- the first event after which the entry is gone
    obtain ⟨l, e, u, r, rfl, hkept, hstep, hgone⟩ := h.exists_first_exit
      (P := fun u => u.seenGossip.lookup gossip.gossipId = some seenAt) hentry hlast
    obtain ⟨hl, -, hr⟩ := h.split
    have helapses := elapses_final hmac hl
    have hbefore : (final s l).seenGossip.lookup gossip.gossipId = some seenAt := hkept.final
    -- a mark at which the entry is older than the window
    have hlate : ∀ {id : String} {now : Int}, e.Marks hmac (final s l) id now →
        (final s l).runtime.dedupWindowS < now - seenAt →
        s.runtime.dedupWindowS < markTime (final s (l ++ (e, u) :: r)) - seenAt := by
      intro id now hmarks hlt
      rw [final_append, ← hruntime helapses]
      have hle := hmarks.le_markTime hmac (helapses.clockMono hclock)
        (hstep.elapses.trans (elapses_final hmac hr))
      exact Int.lt_of_lt_of_le hlt (Int.sub_le_sub_right hle seenAt)
    by_cases hent : Enters hmac gossip.gossipId (final s l) e
    · obtain ⟨now, hmarks, hnew⟩ := hent
      exact .inl (hlate hmarks (lt_of_not_mem_recent hbefore hnew))
    · have hdrops := hgone
      rw [hstep.lookup hmac hent, not_and_not_right] at hdrops
      obtain ⟨id, now, hmarks, hexpired | ⟨hnew, hfull, hroom⟩⟩ := hdrops hbefore
      · exact .inl (hlate hmarks hexpired)
      · exact .inr ⟨l, e, u, r, rfl, ⟨hbefore, hgone⟩, id, now, hmarks, hnew, hfull, hroom⟩

end

/-- A node that starts with nothing on its disk and verifies nothing. -/
def meshNode (dedupWindowS : Int) (outcomes : Nat → Outcome) (clock : Nat → DateTime) : AppState where
  world := ⟨⟨.absent, .absent, fun _ => []⟩, outcomes, clock⟩
  nodeProfile := { nodeId := "node-1", role := "relay", bindAddr := "10.0.0.1:8080" }
  seenGossip := ∅
  metrics := ⟨0, 0, 0, 0, 0, 0, 0, 0⟩
  runtime := ⟨dedupWindowS, none, []⟩
  peerFailures := ∅

def sampleGossip : GossipEnvelope where
  gossipId := "g-1"
  ttlHops := 2
  fromPeer := { peerId := "node-2", address := "10.0.0.2:8080", role := "relay" }
  observedThreats := []
  observedOrganisms := 1
  sentAt := .ofSeconds 1700000000
  hmacSha256 := none

/-- A node with a window of one second, two seconds of which go by after its first request. -/
def briefMemory : AppState :=
  meshNode (parseGossipDedupWindowS (some "1")) (fun _ => .ok)
    fun n => if n < 7 then .ofSeconds 1700000000 else .ofSeconds 1700000002

theorem clockMono_briefMemory : ClockMono briefMemory := by
  intro m n hmn
  show (if m < 7 then DateTime.ofSeconds 1700000000 else .ofSeconds 1700000002).nanos ≤
    (if n < 7 then DateTime.ofSeconds 1700000000 else .ofSeconds 1700000002).nanos
  by_cases hn : n < 7
  · apply Int.le_of_eq
    rw [if_pos (Nat.lt_of_le_of_lt hmn hn), if_pos hn]
  · rw [if_neg hn]
    split
    · decide
    · exact Int.le_refl _

/-- It passes the same envelope on twice. -/
theorem passed_on_twice :
    0 < briefMemory.runtime.dedupWindowS ∧ ClockMono briefMemory ∧
      Exec (Event.Step zeroHmac) briefMemory
        [(.request sampleGossip, afterRequest zeroHmac sampleGossip briefMemory),
          (.request sampleGossip, afterRequest zeroHmac sampleGossip
            (afterRequest zeroHmac sampleGossip briefMemory))] ∧
      Passes zeroHmac sampleGossip briefMemory ∧
      Passes zeroHmac sampleGossip (afterRequest zeroHmac sampleGossip briefMemory) := by
  refine ⟨parseGossipDedupWindowS_pos (some "1"), clockMono_briefMemory, ⟨rfl, rfl, trivial⟩, ?_, ?_⟩
  · exact rfl
  · exact rfl

section

variable (hmac : String → String → Vector UInt8 32)
variable {s t : AppState} {gossip : GossipEnvelope}

/-- A node passes a gossip on a second time only if more than the window has gone by since the first time,
or the entry was dropped in between to make room. -/
theorem stored_again {tr₁ tr₂ : List (Event × AppState)} {gossip' : GossipEnvelope}
    (hclock : ClockMono s) (h : Exec (Event.Step hmac) s (tr₁ ++ (.request gossip, t) :: tr₂))
    (hid : gossip'.gossipId = gossip.gossipId) (hfirst : Passes hmac gossip (final s tr₁))
    (hagain : Passes hmac gossip' (final t tr₂)) :
    s.runtime.dedupWindowS < markTime (final t tr₂) - markTime (final s tr₁) ∨
      ∃ l e u r, tr₂ = l ++ (e, u) :: r ∧
        LosesEntry gossip.gossipId (markTime (final s tr₁)) (final t l) u ∧
        MakesRoom hmac (markTime (final s tr₁)) (final t l) e := by
  obtain ⟨h₁, hstep, h₂⟩ := h.split
  have helapses := (elapses_final hmac h₁).trans hstep.elapses
  have hentry : t.seenGossip.lookup gossip'.gossipId = some (markTime (final s tr₁)) := by
    obtain rfl : t = _ := hstep
    rw [hid]
    exact lookup_handle_self hmac hfirst
  rw [← congrArg MeshRuntimeConfig.dedupWindowS helapses.runtime, ← hid]
  exact lt_or_makesRoom hmac h₂ (helapses.clockMono hclock) hentry hagain

end

theorem stored_again_briefMemory :
    briefMemory.runtime.dedupWindowS <
        markTime (afterRequest zeroHmac sampleGossip briefMemory) - markTime briefMemory ∨
      ∃ l e u r, ([] : List (Event × AppState)) = l ++ (e, u) :: r ∧
        LosesEntry sampleGossip.gossipId (markTime briefMemory)
          (final (afterRequest zeroHmac sampleGossip briefMemory) l) u ∧
        MakesRoom zeroHmac (markTime briefMemory)
          (final (afterRequest zeroHmac sampleGossip briefMemory) l) e :=
  @stored_again zeroHmac briefMemory (afterRequest zeroHmac sampleGossip briefMemory) sampleGossip [] []
    sampleGossip clockMono_briefMemory ⟨rfl, trivial⟩ rfl rfl rfl

/-! ## After a failure -/

section

variable (hmac : String → String → Vector UInt8 32)
variable {s t : AppState} {gossip : GossipEnvelope} {id : String} {seenAt : Int}

/-- Through a run that does not enter the identifier, its entry stays exactly if no event drops it. -/
theorem lookup_seenGossip_final {tr : List (Event × AppState)} (h : Exec (Event.Step hmac) s tr)
    (hother : AllSteps (fun u e => ¬ Enters hmac id u e) s tr) :
    (final s tr).seenGossip.lookup id = some seenAt ↔
      s.seenGossip.lookup id = some seenAt ∧
        AllSteps (fun u e => ¬ DropsEntry hmac seenAt u e) s tr := by
  induction tr generalizing s with
  | nil => exact (and_iff_left trivial).symm
  | cons step tr ih =>
    obtain ⟨e, t⟩ := step
    rw [final_cons, ih h.2 hother.2, h.1.lookup hmac hother.1, allSteps_cons, and_assoc]

/-- An envelope that could be stored if storing it failed is still admitted while it is fresh. -/
theorem Admitted.of_elapses (h : Admitted hmac gossip s) (hst : Elapses s t) (hfresh : Fresh gossip t) :
    Admitted hmac gossip t where
  fresh := hfresh
  authentic := by
    rw [Authentic, hst.runtime]
    exact h.authentic
  ttlHops := h.ttlHops

/-- The gossip is stored, and relayed with one hop less if more than one remains. -/
def StoredAndRelayed (gossip : GossipEnvelope) (s : AppState) : Prop :=
  (∃ peer, (handleMeshGossip hmac gossip s).1.stored = some (.ok peer)) ∧
    (handleMeshGossip hmac gossip s).1.relay =
      if 1 < gossip.ttlHops then
        some ({ gossip with ttlHops := gossip.ttlHops - 1 }, some gossip.fromPeer.peerId)
      else none

/-- While storage works, an admitted envelope is stored and relayed exactly if it is new. -/
theorem storedAndRelayed_iff (h : Admitted hmac gossip s) (hworks : ∀ n, s.world.outcomes n = .ok) :
    StoredAndRelayed hmac gossip s ↔
      gossip.gossipId ∉ s.seenGossip.recent (markTime s) s.runtime.dedupWindowS := by
  rw [← markGossipSeen_fst, StoredAndRelayed]
  change _ ↔ (mark gossip s).1 = true
  cases hnew : (mark gossip s).1 with
  | true =>
    obtain ⟨w, hstored⟩ := storeGossip_succeeds gossip (w := (marked gossip s).world) hworks
    obtain ⟨-, hpeer, hrelay⟩ := storeAndRelay_ok hstored
    rw [handle_of_new hmac h hnew, hpeer, hrelay]
    simp
  | false =>
    rw [(handle_of_not_new hmac h hnew).stored]
    simp

/-- After a failure to store it, a gossip that comes again while it is fresh and storage works is stored
and relayed if and only if its entry in the cache is older than the window or was dropped. -/
theorem redelivery_stored_iff {err : StorageError} {tr : List (Event × AppState)}
    (hfailed : (handleMeshGossip hmac gossip s).1.stored = some (.error err))
    (h : Exec (Event.Step hmac) (afterRequest hmac gossip s) tr)
    (hother : AllSteps (fun u e => ¬ Enters hmac gossip.gossipId u e) (afterRequest hmac gossip s) tr)
    (hfresh : Fresh gossip (final (afterRequest hmac gossip s) tr))
    (hworks : ∀ n, (final (afterRequest hmac gossip s) tr).world.outcomes n = .ok) :
    StoredAndRelayed hmac gossip (final (afterRequest hmac gossip s) tr) ↔
      s.runtime.dedupWindowS < markTime (final (afterRequest hmac gossip s) tr) - markTime s ∨
        ¬ AllSteps (fun u e => ¬ DropsEntry hmac (markTime s) u e) (afterRequest hmac gossip s) tr := by
  have hpass : Passes hmac gossip s := by
    rw [Passes, hfailed]
    rfl
  have helapses := (advances_handle hmac gossip s).elapses.trans (elapses_final hmac h)
  have hadm := ((passes_iff hmac).1 hpass).1.of_elapses hmac helapses hfresh
  have hentry := lookup_handle_self hmac hpass
  rw [storedAndRelayed_iff hmac hadm hworks, mem_recent_iff, helapses.runtime]
  constructor
  · intro hnew
    by_contra hkept
    rw [not_or, Int.not_lt, not_not] at hkept
    exact hnew ⟨markTime s, (lookup_seenGossip_final hmac h hother).2 ⟨hentry, hkept.2⟩, hkept.1⟩
  · rintro hgone ⟨seenAt, hlookup, hrecent⟩
    obtain ⟨hfirst, hkept⟩ := (lookup_seenGossip_final hmac h hother).1 hlookup
    obtain rfl : markTime s = seenAt := Option.some.inj (hentry.symm.trans hfirst)
    exact hgone.elim (Int.not_lt.2 hrecent) (not_not_intro hkept)

end

/-- A node whose first step that writes fails. -/
def firstWriteFails : AppState :=
  meshNode (parseGossipDedupWindowS none) (fun n => if n = 1 then .failed else .ok)
    fun _ => .ofSeconds 1700000000

theorem fails_first : (handleMeshGossip zeroHmac sampleGossip firstWriteFails).1.stored =
    some (.error .io) := rfl

theorem fresh_after_failure :
    Fresh sampleGossip (afterRequest zeroHmac sampleGossip firstWriteFails) := by
  rw [Fresh]
  decide

theorem works_after_failure (n : Nat) :
    (afterRequest zeroHmac sampleGossip firstWriteFails).world.outcomes n = .ok := by
  show (if n + 2 = 1 then Outcome.failed else .ok) = .ok
  rw [if_neg]
  omega

/-- The gossip could not be stored. When it comes again it could, and is taken for a duplicate. -/
theorem redelivery_refused :
    Admitted zeroHmac sampleGossip firstWriteFails ∧
      sampleGossip.gossipId ∉ firstWriteFails.seenGossip ∧
      (handleMeshGossip zeroHmac sampleGossip firstWriteFails).1.stored = some (.error .io) ∧
      Fresh sampleGossip (afterRequest zeroHmac sampleGossip firstWriteFails) ∧
      (∀ n, (afterRequest zeroHmac sampleGossip firstWriteFails).world.outcomes n = .ok) ∧
      ¬ StoredAndRelayed zeroHmac sampleGossip (afterRequest zeroHmac sampleGossip firstWriteFails) ∧
      ∃ ack, (handleMeshGossip zeroHmac sampleGossip
          (afterRequest zeroHmac sampleGossip firstWriteFails)).1.response = .ok ack ∧
        ack.duplicate = true := by
  refine ⟨⟨fresh_after_failure, .inl rfl, by decide⟩, AList.notMem_empty _, fails_first,
    fresh_after_failure, works_after_failure, ?_, _, rfl, rfl⟩
  rintro ⟨⟨peer, hpeer⟩, -⟩
  cases hpeer

theorem redelivery_stored_iff_immediately :
    StoredAndRelayed zeroHmac sampleGossip (afterRequest zeroHmac sampleGossip firstWriteFails) ↔
      firstWriteFails.runtime.dedupWindowS <
          markTime (afterRequest zeroHmac sampleGossip firstWriteFails) - markTime firstWriteFails ∨
        ¬ AllSteps (fun u e => ¬ DropsEntry zeroHmac (markTime firstWriteFails) u e)
          (afterRequest zeroHmac sampleGossip firstWriteFails) [] :=
  @redelivery_stored_iff zeroHmac firstWriteFails sampleGossip .io [] fails_first trivial trivial
    fresh_after_failure works_after_failure

end OperatingOrganism.ColonyServer

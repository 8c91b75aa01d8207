import OperatingOrganism.ColonyServer.RegistryDurability
import OperatingOrganism.Library.LazyExpiry

/-!
# Peers that expire

A peer that was not seen for an hour is dropped when the registry is read next, by `get_mesh_registry` or by a
registration, and the registry without it is written back. It makes no difference when that is: a read returns the
peers whose last registration is an hour back at most, and the record of each is that of its last chain of
registrations (`getMeshRegistry_run`). A registration continues the chain if the time of the one before is an hour
back at most when it reads the registry. It reads the clock again for the time that it records.
-/

set_option autoImplicit false

namespace OperatingOrganism.ColonyServer

open OperatingOrganism.FaultyIo
open OperatingOrganism.LazyExpiry

/-! ## Runs -/

/-- A call that comes to the peer registry. -/
inductive MeshCall where
  | registerPeer (peer : PeerRegistration)
  | storeGossip (gossip : GossipEnvelope)
  | getMeshRegistry

/-- What a call makes of the world. -/
def MeshCall.run (w : World) : MeshCall → World
  | .registerPeer peer => (ColonyServer.registerPeer peer w).2
  | .storeGossip gossip => (ColonyServer.storeGossip gossip w).2
  | .getMeshRegistry => (ColonyServer.getMeshRegistry w).2

/-- A registration, with the time at which it reads the registry and the time that it records. -/
structure Registration where
  peer : PeerRegistration
  readAt : DateTime
  seenAt : DateTime

/-- The registration that a call makes. -/
def MeshCall.registration (w : World) : MeshCall → Option Registration
  | .registerPeer peer => some ⟨peer, w.clock 0, w.clock 1⟩
  | .storeGossip gossip => some ⟨gossip.fromPeer, w.clock 0, w.clock 1⟩
  | .getMeshRegistry => none

/-- The registrations of a run, in their order. -/
def registrations : World → List MeshCall → List Registration
  | _, [] => []
  | w, call :: calls => (call.registration w).toList ++ registrations (call.run w) calls

/-- The registrations of one peer. -/
def ofPeer (id : String) (rs : List Registration) : List Registration := rs.filter fun r => r.peer.peerId = id

/-- A registration finds what the one before recorded. -/
def Linked (before r : Registration) : Prop := WithinHour r.readAt before.seenAt

/-- The record of a chain of registrations, from its first one, its last one, and their number. -/
def chainRecord (first last : Registration) (count : Nat) : MeshPeer where
  peerId := last.peer.peerId
  address := last.peer.address
  role := last.peer.role
  firstSeen := first.seenAt
  lastSeen := last.seenAt
  heartbeatCount := UInt64.ofNat count

/-! ## One registration after another -/

/-- The record that a registration writes, given the one that it finds. -/
def Registration.renew (r : Registration) (found : Option MeshPeer) : MeshPeer := meshPeer r.peer r.seenAt found

/-- It finds a record that it does not drop. -/
def Registration.finds (r : Registration) (peer : MeshPeer) : Bool := keepPeer r.readAt peer

theorem keepPeer_iff {now : DateTime} {peer : MeshPeer} : keepPeer now peer = true ↔ WithinHour now peer.lastSeen :=
  decide_eq_true_iff

theorem finds_renew_iff (before : Registration) (found : Option MeshPeer) (r : Registration) :
    r.finds (before.renew found) = true ↔ Linked before r := by
  rw [Registration.finds, keepPeer_iff, Registration.renew, lastSeen_meshPeer]
  exact Iff.rfl

/-- The record that the registrations of a chain make. -/
theorem renewed_eq {id : String} {chain : List Registration} (hid : ∀ r ∈ chain, r.peer.peerId = id)
    {first last : Registration} (hfirst : first ∈ chain.head?) (hlast : last ∈ chain.getLast?) :
    renewed Registration.renew chain = some (chainRecord first last chain.length) := by
  induction chain using List.reverseRecOn generalizing last with
  | nil => cases hfirst
  | append_singleton chain r ih =>
    rw [List.getLast?_concat] at hlast
    obtain rfl := Option.some.inj hlast
    rw [renewed_concat]
    rcases List.eq_nil_or_concat' chain with rfl | ⟨init, before, rfl⟩
    · obtain rfl := Option.some.inj hfirst
      rfl
    · have hhead : first ∈ (init ++ [before]).head? := by
        rwa [List.head?_append_of_ne_nil _ (by simp)] at hfirst
      have hrest := ih (fun r hr => hid r (List.mem_append_left _ hr)) hhead (List.getLast?_concat ..)
      rw [hrest]
      have hsame : before.peer.peerId = r.peer.peerId := by
        rw [hid before (by simp), hid r (by simp)]
      have hcount : (init ++ [before] ++ [r]).length = (init ++ [before]).length + 1 := List.length_append
      rw [hcount, Registration.renew, meshPeer, chainRecord, chainRecord, hsame, UInt64.ofNat_add]
      rfl

/-! ## The registry follows the registrations -/

instance : Preorder DateTime where
  le_refl t := Int.le_refl t.nanos
  le_trans _ _ _ := Int.le_trans

/-- What has expired stays so. -/
theorem keepPeer_of_le (s t : DateTime) (peer : MeshPeer) (hle : s ≤ t) (h : keepPeer t peer = true) :
    keepPeer s peer = true :=
  keepPeer_iff.2 ((keepPeer_iff.1 h).of_le hle)

/-- No step fails, and the clock does not go back. -/
structure Smooth (w : World) : Prop where
  outcomes : ∀ n, w.outcomes n = .ok
  clock : ∀ m n, m ≤ n → w.clock m ≤ w.clock n

theorem Smooth.after {w : World} (h : Smooth w) (disk : Disk) (m k : Nat) : Smooth (w.after disk m k) where
  outcomes n := h.outcomes (n + m)
  clock i j hij := h.clock (i + k) (j + k) (Nat.add_le_add_right hij k)

/-- The record that is left of the registrations of a peer, if every one drops it when it has expired. -/
def eagerRecord (id : String) (rs : List Registration) : Option MeshPeer :=
  latest Registration.renew Registration.finds (ofPeer id rs)

/-- The entries of a registry and the eager records agree from now on. -/
def Follows (now : DateTime) (registry : MeshRegistry) (rs : List Registration) : Prop :=
  ∀ id, AgreeFrom keepPeer now (registry.lookup id) (eagerRecord id rs)

section

variable {w : World} {rs : List Registration}

theorem lookup_keptPeers_eq (hread : w.outcomes 0 = .ok) (id : String) :
    (keptPeers w).lookup id = ((peerRegistry w).lookup id).filter (keepPeer (w.clock 0)) := by
  apply Option.ext
  intro peer
  rw [keptPeers, readEntries, if_pos hread, Option.filter_eq_some_iff]
  exact mem_lookup_retain

theorem Follows.keptPeers (h : Follows (w.clock 0) (peerRegistry w) rs) (hw : Smooth w) :
    Follows (w.clock 0) (keptPeers w) rs := by
  intro id
  rw [lookup_keptPeers_eq (hw.outcomes 0)]
  exact (agreeFrom_filter keepPeer_of_le _).trans (h id)

/-- A registration finds the same record in both, and writes the same. -/
theorem Follows.registeredPeers (h : Follows (w.clock 0) (peerRegistry w) rs) (hw : Smooth w)
    (peer : PeerRegistration) :
    Follows (w.clock 0) (registeredPeers peer w) (rs ++ [⟨peer, w.clock 0, w.clock 1⟩]) := by
  intro id
  rw [ColonyServer.registeredPeers, eagerRecord, ofPeer, List.filter_append]
  by_cases hid : peer.peerId = id
  · subst hid
    have hfound : (ColonyServer.keptPeers w).lookup peer.peerId =
        (eagerRecord peer.peerId rs).filter (keepPeer (w.clock 0)) := by
      rw [lookup_keptPeers_eq (hw.outcomes 0)]
      exact h peer.peerId (w.clock 0) (le_refl _)
    rw [AList.lookup_insert, registeredPeer, hfound, List.filter_cons_of_pos (by simp), List.filter_nil,
      latest_concat]
    exact fun t _ => rfl
  · rw [AList.lookup_insert_ne (Ne.symm hid), List.filter_cons_of_neg (by simpa using hid), List.filter_nil,
      List.append_nil]
    exact h.keptPeers hw id

/-- Time that passes keeps the agreement. -/
theorem Follows.after {registry : MeshRegistry} (h : Follows (w.clock 0) registry rs) (hw : Smooth w) (k : Nat) :
    Follows (w.clock k) registry rs :=
  fun id => (h id).later (hw.clock 0 k (Nat.zero_le k))

/-- A call keeps the agreement. -/
theorem follows_run (h : Follows (w.clock 0) (peerRegistry w) rs) (hw : Smooth w) (call : MeshCall) :
    Smooth (call.run w) ∧ Follows ((call.run w).clock 0) (peerRegistry (call.run w))
      (rs ++ (call.registration w).toList) := by
  cases call with
  | registerPeer peer =>
    obtain ⟨disk, m, hcall⟩ := registerPeer_succeeds peer hw.outcomes
    obtain ⟨-, m', hworld⟩ := registerPeer_ok hcall
    have hrun : MeshCall.run w (.registerPeer peer) = _ := congrArg Prod.snd hcall
    rw [hrun, hworld]
    exact ⟨hw.after _ m' 2, (h.registeredPeers hw peer).after hw 2⟩
  | storeGossip gossip =>
    -- the log of the gossip is another file
    obtain ⟨m, hcall⟩ := storeGossip_writes gossip hw.outcomes
    have hrun : MeshCall.run w (.storeGossip gossip) = _ := congrArg Prod.snd hcall
    rw [hrun]
    exact ⟨hw.after _ m 3, (h.registeredPeers hw gossip.fromPeer).after hw 3⟩
  | getMeshRegistry =>
    obtain ⟨disk, m, hcall⟩ := getMeshRegistry_succeeds hw.outcomes
    obtain ⟨-, disk', m', hworld, hdisk⟩ := getMeshRegistry_ok hcall
    have hrun : MeshCall.run w .getMeshRegistry = _ := congrArg Prod.snd hcall
    rw [hrun, hworld]
    refine ⟨hw.after _ m' 1, ?_⟩
    rw [MeshCall.registration, Option.toList_none, List.append_nil]
    -- it may have written the registry back, or not
    rcases hdisk with rfl | ⟨-, rfl⟩
    · exact h.after hw 1
    · exact (h.keptPeers hw).after hw 1

theorem follows_runs (calls : List MeshCall) (h : Follows (w.clock 0) (peerRegistry w) rs) (hw : Smooth w) :
    Smooth (calls.foldl MeshCall.run w) ∧
      Follows ((calls.foldl MeshCall.run w).clock 0) (peerRegistry (calls.foldl MeshCall.run w))
        (rs ++ registrations w calls) := by
  induction calls generalizing w rs with
  | nil =>
    rw [registrations, List.append_nil]
    exact ⟨hw, h⟩
  | cons call calls ih =>
    obtain ⟨hsmooth, hfollows⟩ := follows_run h hw call
    rw [registrations, ← List.append_assoc]
    exact ih hfollows hsmooth

end

/-! ## What a read returns -/

/-- Of the registrations of a peer, the eager record is that of the last chain. -/
theorem eagerRecord_eq_some_iff {id : String} {rs : List Registration} {record : MeshPeer} :
    eagerRecord id rs = some record ↔
      ∃ chain first last, LastChain Linked (ofPeer id rs) chain ∧ first ∈ chain.head? ∧ last ∈ chain.getLast? ∧
        record = chainRecord first last chain.length := by
  have hof : ∀ chain, chain <:+ ofPeer id rs → ∀ r ∈ chain, r.peer.peerId = id := by
    intro chain hsuffix r hr
    exact of_decide_eq_true (List.mem_filter.1 (hsuffix.subset hr)).2
  constructor
  · intro hrecord
    have hne : ofPeer id rs ≠ [] := by
      intro hnil
      rw [eagerRecord, hnil] at hrecord
      cases hrecord
    obtain ⟨chain, hchain⟩ := exists_lastChain Linked hne
    have hfirst := List.head_mem_head? hchain.nonempty
    have hlast := List.getLast_mem_getLast? hchain.nonempty
    refine ⟨chain, _, _, hchain, hfirst, hlast, ?_⟩
    rw [eagerRecord, latest_eq_renewed finds_renew_iff hchain, renewed_eq (hof chain hchain.suffix) hfirst hlast]
      at hrecord
    exact (Option.some.inj hrecord).symm
  · rintro ⟨chain, first, last, hchain, hfirst, hlast, rfl⟩
    rw [eagerRecord, latest_eq_renewed finds_renew_iff hchain, renewed_eq (hof chain hchain.suffix) hfirst hlast]

/-- After every run of calls without errors, from an empty registry, a read returns the peers whose last registration
is an hour back at most, each with the record of its last chain of registrations. -/
theorem getMeshRegistry_run {w : World} (hstart : peerRegistry w = ∅) (hw : Smooth w) (calls : List MeshCall) :
    ∃ registry w', getMeshRegistry (calls.foldl MeshCall.run w) = (.ok registry, w') ∧
      ∀ id record, registry.lookup id = some record ↔
        ∃ chain first last, LastChain Linked (ofPeer id (registrations w calls)) chain ∧
          first ∈ chain.head? ∧ last ∈ chain.getLast? ∧
          WithinHour ((calls.foldl MeshCall.run w).clock 0) last.seenAt ∧
          record = chainRecord first last chain.length := by
  have hempty : Follows (w.clock 0) (peerRegistry w) [] := by
    intro id t _
    rw [hstart]
    rfl
  obtain ⟨hsmooth, hfollows⟩ := follows_runs calls hempty hw
  obtain ⟨disk, m, hread⟩ := getMeshRegistry_succeeds hsmooth.outcomes
  refine ⟨_, _, hread, fun id record => ?_⟩
  -- the read asks the registry at the present time
  have hagree := hfollows id _ (le_refl _)
  rw [lookup_keptPeers_eq (hsmooth.outcomes 0), hagree, List.nil_append, Option.filter_eq_some_iff,
    eagerRecord_eq_some_iff]
  constructor
  · rintro ⟨⟨chain, first, last, hchain, hfirst, hlast, rfl⟩, hkeep⟩
    exact ⟨chain, first, last, hchain, hfirst, hlast, keepPeer_iff.1 hkeep, rfl⟩
  · rintro ⟨chain, first, last, hchain, hfirst, hlast, hhour, rfl⟩
    exact ⟨⟨chain, first, last, hchain, hfirst, hlast, rfl⟩, keepPeer_iff.2 hhour⟩

/-! ## Two registrations at the boundary -/

/-- Half a second after the first hour. -/
def afterHour : DateTime := ⟨3600500000000, by decide, by decide⟩

/-- A second registration reads the registry half a second after an hour, and the clock again half a second later. -/
def boundaryWorld : World where
  disk := ⟨.absent, .absent, fun _ => []⟩
  outcomes _ := .ok
  clock n := if n < 2 then .ofSeconds 0 else if n < 3 then afterHour else .ofSeconds 3601

def relayPeer : PeerRegistration := ⟨"node-2", "10.0.0.2:8080", "relay"⟩

theorem nanos_boundaryWorld (n : Nat) : (boundaryWorld.clock n).nanos =
    if n < 2 then 0 else if n < 3 then 3600500000000 else 3601000000000 := by
  simp only [boundaryWorld]
  split
  · rfl
  · split
    · rfl
    · rfl

theorem smooth_boundaryWorld : Smooth boundaryWorld where
  outcomes _ := rfl
  clock m n hmn := by
    change (boundaryWorld.clock m).nanos ≤ (boundaryWorld.clock n).nanos
    rw [nanos_boundaryWorld, nanos_boundaryWorld]
    grind

/-- What a read returns after the two registrations, with a read between them. -/
theorem getMeshRegistry_run_boundary :
    ∃ registry w', getMeshRegistry ([.registerPeer relayPeer, .getMeshRegistry, .registerPeer relayPeer].foldl
        MeshCall.run boundaryWorld) = (.ok registry, w') ∧
      ∀ id record, registry.lookup id = some record ↔
        ∃ chain first last, LastChain Linked (ofPeer id (registrations boundaryWorld
            [.registerPeer relayPeer, .getMeshRegistry, .registerPeer relayPeer])) chain ∧
          first ∈ chain.head? ∧ last ∈ chain.getLast? ∧
          WithinHour (([.registerPeer relayPeer, .getMeshRegistry, .registerPeer relayPeer].foldl
            MeshCall.run boundaryWorld).clock 0) last.seenAt ∧
          record = chainRecord first last chain.length :=
  getMeshRegistry_run rfl smooth_boundaryWorld _

/-- The times of the two registrations are 3601 seconds apart, and they are counted together. -/
theorem exists_chain_over_gap :
    peerRegistry boundaryWorld = ∅ ∧ Smooth boundaryWorld ∧
      LastChain (fun before r => WithinHour r.seenAt before.seenAt)
        (ofPeer "node-2" (registrations boundaryWorld [.registerPeer relayPeer, .registerPeer relayPeer]))
        [⟨relayPeer, afterHour, .ofSeconds 3601⟩] ∧
      ∃ registry w' record,
        getMeshRegistry ([.registerPeer relayPeer, .registerPeer relayPeer].foldl MeshCall.run boundaryWorld) =
          (.ok registry, w') ∧
        registry.lookup "node-2" = some record ∧ record.heartbeatCount = 2 ∧ record.firstSeen = .ofSeconds 0 := by
  refine ⟨rfl, smooth_boundaryWorld, ?_, _, _, _, rfl, rfl, rfl, rfl⟩
  refine @LastChain.restart Registration _ [⟨relayPeer, .ofSeconds 0, .ofSeconds 0⟩] _ ?_
  rintro _ ⟨⟩
  rw [WithinHour]
  decide

end OperatingOrganism.ColonyServer

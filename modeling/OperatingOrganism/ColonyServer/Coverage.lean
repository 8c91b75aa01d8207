import OperatingOrganism.ColonyServer.Mesh
import OperatingOrganism.ColonyServer.Redelivery

/-!
# How far a gossip comes

A node relays the first copy it gets, with the hops that this copy has left. When nothing is left to be done
for a gossip, every node to which a way leads has stored it, unless on the way a node failed to store it or
got its first copy over a longer way, with no hop left to pass on (`coverage`).

That may happen: the copy that comes over the longer way can be the faster one (`reaches_not_all`).
-/

set_option autoImplicit false

namespace OperatingOrganism.ColonyServer

open OperatingOrganism.Execution
open OperatingOrganism.Flooding

section

variable {V : Type}

/-- The entry of a gossip in the cache has not expired. -/
def Remembers (id : String) (s : AppState) : Prop :=
  ∀ seenAt, s.seenGossip.lookup id = some seenAt → markTime s - seenAt ≤ s.runtime.dedupWindowS

/-- From `v` a post goes to `w`: the registry of `v` has a peer there that is neither `v` nor the origin, as
far as its identifier tells. -/
def Edge (route : String → Option V) (registry : V → MeshRegistry) (nodeId : V → String) (origin v w : V) :
    Prop :=
  ∃ peer ∈ (registry v).entries.map Sigma.snd, peer.peerId ≠ nodeId v ∧ peer.peerId ≠ nodeId origin ∧
    route (meshGossipUrl peer.address) = some w

/-- The step is none of those that hinder a gossip: a copy that is delivered is fresh and authentic and the
entry of the gossip has not expired, no post is lost, the registry that is read has the peers it should have,
no circuit breaker is open, and what else happens leaves the entry of the gossip alone. -/
def Unhindered (hmac : String → String → Vector UInt8 32) (registry : V → MeshRegistry) (originId id : String)
    (m : Mesh V) : Label V → Prop
  | .deliver _ v envelope =>
    Fresh envelope (m.node v) ∧ Authentic hmac envelope (m.node v) ∧ Remembers id (m.node v)
  | .lose _ => False
  | .start _ v =>
    ∃ read, ((m.node v).storage getMeshRegistry).1 = .ok read ∧
      ∀ peer ∈ (registry v).entries.map Sigma.snd, peer.peerId ≠ originId →
        peer ∈ read.entries.map Sigma.snd
  | .send _ v peer => ((m.node v).peerFailures.lookup peer.peerId).getD 0 < 5
  | .finish _ => True
  | .other v s =>
    s.nodeProfile = (m.node v).nodeProfile ∧
      s.seenGossip.lookup id = (m.node v).seenGossip.lookup id

/-! ## A delivery -/

section

variable {hmac : String → String → Vector UInt8 32} {gossip : GossipEnvelope} {s : AppState}

/-- A gossip without an entry is passed on, one with an entry is not. -/
theorem passes_iff_lookup_eq_none (hadm : Admitted hmac gossip s) (h : Remembers gossip.gossipId s) :
    Passes hmac gossip s ↔ s.seenGossip.lookup gossip.gossipId = none := by
  rw [passes_iff, and_iff_right hadm, mark, markGossipSeen_fst, mem_recent_iff,
    Option.eq_none_iff_forall_ne_some]
  constructor
  · intro hnew seenAt hlookup
    exact hnew ⟨seenAt, hlookup, h seenAt hlookup⟩
  · rintro hnone ⟨seenAt, hlookup, -⟩
    exact hnone seenAt hlookup

/-- Afterwards it has an entry. -/
theorem lookup_handle_ne_none (hadm : Admitted hmac gossip s) (h : Remembers gossip.gossipId s) :
    (handleMeshGossip hmac gossip s).2.seenGossip.lookup gossip.gossipId ≠ none := by
  by_cases hpasses : Passes hmac gossip s
  · rw [lookup_handle_self hmac hpasses]
    exact Option.some_ne_none _
  · rw [passes_iff_lookup_eq_none hadm h] at hpasses
    obtain ⟨seenAt, hlookup⟩ := Option.ne_none_iff_exists'.1 hpasses
    have hrecent : gossip.gossipId ∈ s.seenGossip.recent (markTime s) s.runtime.dedupWindowS :=
      mem_recent_iff.2 ⟨seenAt, hlookup, h seenAt hlookup⟩
    have hold : (markGossipSeen s.seenGossip gossip.gossipId s.runtime.dedupWindowS (markTime s)).1 =
        false := by
      rw [← Bool.not_eq_true, markGossipSeen_fst]
      exact not_not_intro hrecent
    have hkept : ¬ Drops s.seenGossip gossip.gossipId s.runtime.dedupWindowS (markTime s) seenAt := by
      rintro (hexpired | ⟨hnew, -⟩)
      · exact Int.not_lt.2 (h seenAt hlookup) hexpired
      · exact hnew hrecent
    rw [seenGossip_handle hmac hadm, mark, (lookup_markGossipSeen (.inr hold)).2 ⟨hlookup, hkept⟩]
    exact Option.some_ne_none _

end

/-! ## What is still owed -/

/-- The item will lead from `v` to `w`. -/
def Pending.Carries (route : String → Option V) (v w : V) : Pending V → Prop
  | .post url _ _ => route url = some w
  | .relay u _ _ _ => u = v
  | .sending u _ peers _ => u = v ∧ ∃ peer ∈ peers, route (meshGossipUrl peer.address) = some w

/-- The node has processed a copy. -/
def Mesh.Reached (m : Mesh V) (v : V) : Prop := ∃ p ∈ m.processed, p.node = v

/-- The node sends the gossip to its peers, or has done so. -/
def Mesh.PassesOn (m : Mesh V) (origin v : V) : Prop :=
  v = origin ∨ ∃ p ∈ m.processed, p.node = v ∧ (∃ peer, p.stored = .ok peer) ∧ 1 < p.gossip.ttlHops

/-- Whoever is next to a node that passes the gossip on was reached, or will be. -/
def Mesh.Owes (m : Mesh V) (route : String → Option V) (edge : V → V → Prop) (origin : V) : Prop :=
  ∀ v w, m.PassesOn origin v → edge v w → w ≠ origin → m.Reached w ∨ ∃ x ∈ m.pending, x.Carries route v w

/-- It stays so when an item is replaced by items that carry as far, and a node that begins to pass the gossip
on gets an item for it. -/
theorem Mesh.Owes.replace {m m' : Mesh V} {route : String → Option V} {edge : V → V → Prop} {origin : V}
    {n : Nat} {x : Pending V} {new : List (Pending V)} (h : m.Owes route edge origin)
    (hitem : m.pending[n]? = some x) (hpending : m'.pending = replaceAt m.pending n new)
    (hreached : ∀ w, m.Reached w → m'.Reached w)
    (hpasses : ∀ v, m'.PassesOn origin v → m.PassesOn origin v ∨ ∃ y ∈ new, ∀ w, y.Carries route v w)
    (hcarries : ∀ v w, edge v w → w ≠ origin → x.Carries route v w →
      m'.Reached w ∨ ∃ y ∈ new, y.Carries route v w) : m'.Owes route edge origin := by
  intro v w hv hedge hw
  have hnew : (∃ y ∈ new, y.Carries route v w) → ∃ y ∈ m'.pending, y.Carries route v w := by
    rintro ⟨y, hy, hcarry⟩
    rw [hpending]
    exact ⟨y, mem_replaceAt_of_mem_new hy, hcarry⟩
  rcases hpasses v hv with hold | ⟨y, hy, hcarry⟩
  · rcases h v w hold hedge hw with hdone | ⟨y, hy, hcarry⟩
    · exact .inl (hreached w hdone)
    · rcases mem_replaceAt_of_mem new hitem hy with rfl | hstays
      · exact (hcarries v w hedge hw hcarry).imp_right hnew
      · rw [← hpending] at hstays
        exact .inr ⟨y, hstays, hcarry⟩
  · exact .inr (hnew ⟨y, hy, hcarry w⟩)

/-- A copy that is sent has a hop left, and a call leaves out nobody but the origin. -/
def Pending.Live (gossip : GossipEnvelope) : Pending V → Prop
  | .post _ envelope _ => 0 < envelope.ttlHops.toNat
  | .relay _ envelope excludePeerId _ =>
    0 < envelope.ttlHops.toNat ∧ ∀ id, excludePeerId = some id → id = gossip.fromPeer.peerId
  | .sending _ envelope _ _ => 0 < envelope.ttlHops.toNat

theorem Pending.Leads.live {hmac : String → String → Vector UInt8 32} {gossip : GossipEnvelope}
    {x y : Pending V} (h : x.Leads hmac y) (hbudget : x.InBudget gossip) (hx : x.Live gossip) :
    y.Live gossip := by
  cases x <;> cases y <;> try exact h.elim
  case post.relay url envelope hops v relayed excludePeerId hops' =>
    obtain ⟨httl, rfl, rfl, -⟩ := h
    refine ⟨?_, ?_⟩
    · have hlt : 1 < envelope.ttlHops.toNat := UInt8.lt_iff_toNat_lt.1 httl
      have hpred := toNat_pred httl
      show 0 < (envelope.ttlHops - 1).toNat
      omega
    · intro id hid
      rw [← Option.some.inj hid, hbudget.1.fromPeer]
  case relay.sending v envelope excludePeerId hops v' envelope' peers hops' =>
    obtain ⟨-, rfl, -⟩ := h
    exact hx.1
  case sending.post v envelope peers hops url posted hops' =>
    obtain ⟨⟨runtime, rfl⟩, -⟩ := h
    show 0 < (runtime.outbound hmac envelope).ttlHops.toNat
    rw [ttlHops_outbound]
    exact hx
  case sending.sending v envelope peers hops v' envelope' peers' hops' =>
    obtain ⟨-, rfl, -⟩ := h
    exact hx

/-- What holds while a gossip spreads. -/
structure Mesh.Spreads (route : String → Option V) (registry : V → MeshRegistry) (nodeId : V → String)
    (origin : V) (gossip : GossipEnvelope) (m : Mesh V) : Prop where
  budget : m.InBudget gossip
  live : ∀ x ∈ m.pending, x.Live gossip
  ids : ∀ v, (m.node v).nodeProfile.nodeId = nodeId v
  seen : ∀ v, (m.node v).seenGossip.lookup gossip.gossipId = none ↔ v ≠ origin ∧ ¬ m.Reached v
  owed : m.Owes route (Edge route registry nodeId origin) origin

theorem Mesh.spreads_emitted {route : String → Option V} {registry : V → MeshRegistry}
    {node : V → AppState} {origin : V} {gossip : GossipEnvelope} (hlive : 0 < gossip.ttlHops.toNat)
    (hseen : ∀ v, (node v).seenGossip.lookup gossip.gossipId = none ↔ v ≠ origin) :
    (Mesh.emitted node origin gossip).Spreads route registry (fun v => (node v).nodeProfile.nodeId) origin
      gossip where
  budget := Mesh.inBudget_emitted node origin gossip
  live x hx := by
    obtain rfl := List.mem_singleton.1 hx
    refine ⟨hlive, ?_⟩
    intro id hid
    cases hid
  ids _ := rfl
  seen v := by
    rw [Mesh.Reached]
    simp [Mesh.emitted, hseen]
  owed v w hv _ _ := by
    rcases hv with rfl | ⟨p, hp, -⟩
    · exact .inr ⟨_, List.mem_singleton_self _, rfl⟩
    · cases hp

end

/-! ## Steps -/

section

variable {V : Type} [DecidableEq V] {hmac : String → String → Vector UInt8 32} {route : String → Option V}

variable {registry : V → MeshRegistry} {nodeId : V → String} {origin : V} {gossip : GossipEnvelope}
variable {m m' : Mesh V} {label : Label V}

theorem Mesh.live_step (hbudget : m.InBudget gossip) (hlive : ∀ x ∈ m.pending, x.Live gossip)
    (h : Mesh.Step hmac route m label m') : ∀ x ∈ m'.pending, x.Live gossip := by
  intro y hy
  rcases h.replaces with ⟨-, hsame⟩ | ⟨n, x, new, hitem, hpending, hleads⟩
  · exact hlive y (hsame ▸ hy)
  · rw [hpending] at hy
    rcases mem_of_mem_replaceAt hy with hold | hnew
    · exact hlive y hold
    · have hx := List.mem_of_getElem? hitem
      exact (hleads y hnew).live (hbudget.pending x hx) (hlive x hx)

/-- A step that changes one node and processes nothing. -/
theorem Mesh.Spreads.of_set (hm : m.Spreads route registry nodeId origin gossip)
    (h : Mesh.Step hmac route m label m') {v : V} {s : AppState} (hnode : m'.node = m.set v s)
    (hid : s.nodeProfile = (m.node v).nodeProfile)
    (hlookup : s.seenGossip.lookup gossip.gossipId = (m.node v).seenGossip.lookup gossip.gossipId)
    (hprocessed : m'.processed = m.processed)
    (howed : m'.Owes route (Edge route registry nodeId origin) origin) :
    m'.Spreads route registry nodeId origin gossip where
  budget := hm.budget.step h
  live := Mesh.live_step hm.budget hm.live h
  ids u := by
    rw [hnode, Mesh.set]
    by_cases hu : u = v
    · subst hu
      rw [Function.update_self, hid]
      exact hm.ids u
    · rw [Function.update_of_ne hu]
      exact hm.ids u
  seen u := by
    rw [hnode, Mesh.set, Mesh.Reached, hprocessed]
    by_cases hu : u = v
    · subst hu
      rw [Function.update_self, hlookup]
      exact hm.seen u
    · rw [Function.update_of_ne hu]
      exact hm.seen u
  owed := howed

theorem reached_deliver {n : Nat} {v u : V} {envelope : GossipEnvelope} {hops : Nat} :
    (m.deliver hmac n v envelope hops).Reached u ↔
      m.Reached u ∨ u = v ∧ Passes hmac envelope (m.node v) := by
  rw [Mesh.Reached, Mesh.processed_deliver, Passes]
  cases (handleMeshGossip hmac envelope (m.node v)).1.stored with
  | none => simp [Mesh.Reached]
  | some stored => simp [Mesh.Reached, or_and_right, exists_or, eq_comm]

theorem Mesh.Spreads.deliver (hm : m.Spreads route registry nodeId origin gossip) {n : Nat} {v : V}
    {url : String} {envelope : GossipEnvelope} {hops : Nat}
    (hitem : m.pending[n]? = some (.post url envelope hops)) (hroute : route url = some v)
    (h : Unhindered hmac registry (nodeId origin) gossip.gossipId m (.deliver n v envelope)) :
    (m.deliver hmac n v envelope hops).Spreads route registry nodeId origin gossip := by
  obtain ⟨hfresh, hauthentic, hremembers⟩ := h
  have hmem := List.mem_of_getElem? hitem
  have hcopy : IsCopy gossip envelope := (hm.budget.pending _ hmem).1
  have hlive : 0 < envelope.ttlHops.toNat := hm.live _ hmem
  have hadm : Admitted hmac envelope (m.node v) := by
    refine ⟨hfresh, hauthentic, ?_⟩
    rintro hzero
    rw [hzero] at hlive
    exact Nat.lt_irrefl 0 hlive
  rw [← hcopy.gossipId] at hremembers
  have hpasses := passes_iff_lookup_eq_none hadm hremembers
  have hlookup := lookup_handle_ne_none hadm hremembers
  rw [hcopy.gossipId] at hpasses hlookup
  have hstep : Mesh.Step hmac route m (.deliver n v envelope) (m.deliver hmac n v envelope hops) :=
    .deliver hitem hroute
  -- the node was reached before, or is now
  have hreached : v ≠ origin → (m.deliver hmac n v envelope hops).Reached v := by
    intro hv
    rw [reached_deliver]
    by_cases hbefore : m.Reached v
    · exact .inl hbefore
    · exact .inr ⟨rfl, hpasses.2 ((hm.seen v).2 ⟨hv, hbefore⟩)⟩
  refine ⟨hm.budget.step hstep, Mesh.live_step hm.budget hm.live hstep, ?_, ?_, ?_⟩
  · intro u
    rw [Mesh.node_deliver, Mesh.set]
    by_cases hu : u = v
    · subst hu
      rw [Function.update_self, (advances_handle hmac envelope (m.node u)).nodeProfile]
      exact hm.ids u
    · rw [Function.update_of_ne hu]
      exact hm.ids u
  · intro u
    rw [Mesh.node_deliver, Mesh.set]
    by_cases hu : u = v
    · subst hu
      rw [Function.update_self, iff_false_left hlookup]
      rintro ⟨hne, hnot⟩
      exact hnot (hreached hne)
    · rw [Function.update_of_ne hu, hm.seen u, reached_deliver]
      simp [hu]
  · refine hm.owed.replace hitem (Mesh.pending_deliver hmac m n v envelope hops)
      (fun w hw => reached_deliver.2 (.inl hw)) ?_ ?_
    · rintro u (rfl | ⟨p, hp, rfl, ⟨peer, hstored⟩, httl⟩)
      · exact .inl (.inl rfl)
      · rw [Mesh.processed_deliver] at hp
        rcases List.mem_append.1 hp with hold | hnew
        · exact .inl (.inr ⟨p, hold, rfl, ⟨peer, hstored⟩, httl⟩)
        · right
          obtain ⟨stored, hstored', rfl⟩ := Option.map_eq_some_iff.1 (Option.mem_toList.1 hnew)
          obtain rfl : stored = .ok peer := hstored
          rw [(relay_handle_iff hmac).2 ⟨⟨peer, hstored'⟩, httl, rfl, rfl⟩]
          exact ⟨_, List.mem_singleton_self _, fun w => rfl⟩
    · intro u w hedge hw hcarry
      left
      have hwv : w = v := Option.some.inj (Eq.trans (Eq.symm hcarry) hroute)
      subst hwv
      exact hreached hw

/-- The call has all the peers that it needs. -/
theorem Mesh.Spreads.start (hm : m.Spreads route registry nodeId origin gossip)
    (hfrom : gossip.fromPeer.peerId = nodeId origin) {n : Nat} {v : V} {envelope : GossipEnvelope}
    {excludePeerId : Option String} {hops : Nat}
    (hitem : m.pending[n]? = some (.relay v envelope excludePeerId hops))
    (h : Unhindered hmac registry (nodeId origin) gossip.gossipId m (.start n v)) :
    (m.start n v envelope excludePeerId hops).Spreads route registry nodeId origin gossip := by
  obtain ⟨read, hread, hpeers⟩ := h
  have hstep : Mesh.Step hmac route m (.start n v) (m.start n v envelope excludePeerId hops) :=
    .start hitem
  apply hm.of_set hstep rfl rfl rfl rfl
  refine hm.owed.replace hitem (Mesh.pending_start m n v envelope excludePeerId hops) (fun _ hw => hw)
    (fun _ hv => .inl hv) ?_
  rintro u w ⟨peer, hpeer, hself, horigin, hroute⟩ - rfl
  right
  refine ⟨_, mem_afterRead.2 ⟨read, hread, rfl⟩, rfl, peer, ?_, hroute⟩
  rw [hm.ids, recipients, List.mem_filter, decide_eq_true_iff]
  refine ⟨hpeers peer hpeer horigin, hself, ?_⟩
  intro hexcluded
  obtain ⟨-, hexclude⟩ := hm.live _ (List.mem_of_getElem? hitem)
  exact horigin ((hexclude _ hexcluded).trans hfrom)

/-- The peer that the call comes to gets a post. -/
theorem Mesh.Spreads.send (hm : m.Spreads route registry nodeId origin gossip) {n : Nat} {v : V}
    {envelope : GossipEnvelope} {peer : MeshPeer} {peers : List MeshPeer} {hops : Nat}
    (respond : Nat → Bool) (hitem : m.pending[n]? = some (.sending v envelope (peer :: peers) hops))
    (h : Unhindered hmac registry (nodeId origin) gossip.gossipId m (.send n v peer)) :
    (m.send hmac n respond v envelope peer peers hops).Spreads route registry nodeId origin gossip := by
  have hkeeps := sendGossipToPeer_keeps hmac respond envelope peer (m.node v)
  have hstep : Mesh.Step hmac route m (.send n v peer) (m.send hmac n respond v envelope peer peers hops) :=
    .send respond hitem
  apply hm.of_set hstep rfl hkeeps.nodeProfile (congrArg _ hkeeps.seenGossip) rfl
  refine hm.owed.replace hitem (Mesh.pending_send hmac m n respond v envelope peer peers hops)
    (fun _ hw => hw) (fun _ hv => .inl hv) ?_
  rintro u w - - ⟨rfl, next, hnext, hroute⟩
  right
  rcases List.mem_cons.1 hnext with rfl | hlater
  · have hpost := mem_sendGossipToPeer_of_closed hmac respond envelope next (m.node v) h
    have hmem := List.mem_map_of_mem
      (f := fun post : Post => (Pending.post post.1 post.2 (hops + 1) : Pending V)) hpost
    refine ⟨_, List.mem_cons_of_mem _ hmem, ?_⟩
    dsimp only [Pending.Carries]
    exact hroute
  · exact ⟨_, List.mem_cons_self, rfl, next, hlater, hroute⟩

/-- Every step that does not hinder the gossip lets it spread. -/
theorem Mesh.Spreads.step (hm : m.Spreads route registry nodeId origin gossip)
    (hfrom : gossip.fromPeer.peerId = nodeId origin) (h : Mesh.Step hmac route m label m')
    (hunhindered : Unhindered hmac registry (nodeId origin) gossip.gossipId m label) :
    m'.Spreads route registry nodeId origin gossip := by
  have hstep := h
  cases h with
  | deliver hitem hroute => exact hm.deliver hitem hroute hunhindered
  | lose hitem => exact hunhindered.elim
  | start hitem => exact hm.start hfrom hitem hunhindered
  | send respond hitem => exact hm.send respond hitem hunhindered
  | @finish n v envelope hops hitem =>
    apply hm.of_set hstep (Function.update_eq_self v m.node).symm rfl rfl rfl
    refine hm.owed.replace hitem rfl (fun _ hw => hw) (fun _ hv => .inl hv) ?_
    rintro u w - - ⟨-, peer, hpeer, -⟩
    cases hpeer
  | other v s => exact hm.of_set hstep rfl hunhindered.1 hunhindered.2 rfl hm.owed

/-! ## Whole runs -/

/-- When nothing is left to be done for a gossip, the end of every walk from its origin that is not longer
than the hops it was sent with has stored it, unless a node on the walk failed to store it, or processed a
copy that had made more hops than the walk to it and had no hop left to pass on. -/
theorem coverage {node : V → AppState} {tr : List (Label V × Mesh V)}
    (hfrom : gossip.fromPeer.peerId = (node origin).nodeProfile.nodeId)
    (hseen : ∀ v, (node v).seenGossip.lookup gossip.gossipId = none ↔ v ≠ origin)
    (h : Exec (Mesh.Step hmac route) (Mesh.emitted node origin gossip) tr)
    (hunhindered : AllSteps (Unhindered hmac registry (node origin).nodeProfile.nodeId gossip.gossipId)
      (Mesh.emitted node origin gossip) tr)
    (hquiet : (final (Mesh.emitted node origin gossip) tr).pending = [])
    (p : Nat → V) {d : Nat} (hstart : p 0 = origin)
    (hwalk : ∀ i < d, Edge route registry (fun v => (node v).nodeProfile.nodeId) origin (p i) (p (i + 1)))
    (hd : d ≤ gossip.ttlHops.toNat) (hend : p d ≠ origin) :
    (∃ q ∈ (final (Mesh.emitted node origin gossip) tr).processed,
      q.node = p d ∧ ∃ peer, q.stored = .ok peer) ∨
    (∃ i ≤ d, ∃ q ∈ (final (Mesh.emitted node origin gossip) tr).processed,
      q.node = p i ∧ ∃ e, q.stored = .error e) ∨
    ∃ i, 0 < i ∧ i < d ∧ ∃ q ∈ (final (Mesh.emitted node origin gossip) tr).processed,
      q.node = p i ∧ q.gossip.ttlHops = 1 ∧ i < q.hops := by
  have hpos : 0 < d := by
    rw [Nat.pos_iff_ne_zero]
    rintro rfl
    exact hend hstart
  have hspreads := (h.allStates (Mesh.spreads_emitted (Nat.lt_of_lt_of_le hpos hd) hseen) hunhindered
    fun _ _ _ hm hstep hst => hm.step hfrom hst hstep).final
  generalize final (Mesh.emitted node origin gossip) tr = m at hquiet hspreads ⊢
  -- nothing is pending, so whoever is next to a node that passes the gossip on was reached
  have hnext : ∀ v w, m.PassesOn origin v →
      Edge route registry (fun v => (node v).nodeProfile.nodeId) origin v w → w ≠ origin → m.Reached w := by
    intro v w hv hedge hw
    apply (hspreads.owed v w hv hedge hw).resolve_right
    rintro ⟨x, hx, -⟩
    rw [hquiet] at hx
    cases hx
  have hreached := walk_reached m.Reached
    (fun v => ∃ q ∈ m.processed, q.node = v ∧ ((∃ e, q.stored = .error e) ∨ q.gossip.ttlHops = 1))
    (fun w => hnext origin w (.inl rfl)) ?_ p hstart hwalk hend
  · rcases hreached with ⟨q, hq, hnode⟩ | ⟨i, h0, hi, -, q, hq, hnode, ⟨e, hstored⟩ | httl⟩
    · cases hstored : q.stored with
      | ok peer => exact .inl ⟨q, hq, hnode, peer, hstored⟩
      | error e => exact .inr (.inl ⟨d, Nat.le_refl d, q, hq, hnode, e, hstored⟩)
    · exact .inr (.inl ⟨i, hi.le, q, hq, hnode, e, hstored⟩)
    · refine .inr (.inr ⟨i, h0, hi, q, hq, hnode, httl, ?_⟩)
      obtain ⟨-, -, -, hsum⟩ := hspreads.budget.processed q hq
      rw [httl] at hsum
      have hone : (1 : UInt8).toNat = 1 := rfl
      omega
  · rintro v w ⟨q, hq, rfl⟩ hblocked hedge hw
    refine hnext q.node w (.inr ⟨q, hq, rfl, ?_, ?_⟩) hedge hw
    · cases hstored : q.stored with
      | ok peer => exact ⟨peer, rfl⟩
      | error e => exact absurd ⟨q, hq, rfl, .inl ⟨e, hstored⟩⟩ hblocked
    · obtain ⟨-, -, httl, -⟩ := hspreads.budget.processed q hq
      rw [UInt8.lt_iff_toNat_lt]
      apply Nat.lt_of_le_of_ne httl
      intro hone
      exact hblocked ⟨q, hq, rfl, .inr (UInt8.toNat_inj.1 hone.symm)⟩

end

/-! ## The longer way is faster -/

inductive Site where
  | o
  | a
  | b
  | c
  deriving DecidableEq

namespace Site

def id : Site → String
  | .o => "node-o"
  | .a => "node-a"
  | .b => "node-b"
  | .c => "node-c"

def address : Site → String
  | .o => "10.0.0.1:8080"
  | .a => "10.0.0.2:8080"
  | .b => "10.0.0.3:8080"
  | .c => "10.0.0.4:8080"

/-- The peers: `o` knows `a` and `b`, `a` knows `b`, and `b` knows `c`. -/
def peers : Site → List Site
  | .o => [.a, .b]
  | .a => [.b]
  | .b => [.c]
  | .c => []

def peer (v : Site) : MeshPeer where
  peerId := v.id
  address := v.address
  role := "relay"
  firstSeen := .ofSeconds 1700000000
  lastSeen := .ofSeconds 1700000000
  heartbeatCount := 1

def registry (v : Site) : MeshRegistry := (v.peers.map fun w => (⟨w.id, w.peer⟩ : Sigma fun _ => _)).toAList

def route (url : String) : Option Site :=
  [Site.o, .a, .b, .c].find? fun v => url = meshGossipUrl v.address

/-- A node that has seen nothing, but for the gossip that `o` is about to send. -/
def state (v : Site) : AppState where
  world := ⟨⟨.absent, .whole v.registry, fun _ => []⟩, fun _ => .ok, fun _ => .ofSeconds 1700000000⟩
  nodeProfile := { nodeId := v.id, role := "relay", bindAddr := v.address }
  seenGossip := if v = .o then AList.singleton "g-1" 1700000000 else ∅
  metrics := ⟨0, 0, 0, 0, 0, 0, 0, 0⟩
  runtime := ⟨300, none, []⟩
  peerFailures := ∅

/-- The gossip of `o`, with two hops. -/
def gossip (ttlHops : UInt8) : GossipEnvelope where
  gossipId := "g-1"
  ttlHops := ttlHops
  fromPeer := { peerId := Site.o.id, address := Site.o.address, role := "relay" }
  observedThreats := []
  observedOrganisms := 1
  sentAt := .ofSeconds 1700000000
  hmacSha256 := none

/-- Before the call of `o`. -/
def start : Mesh Site := .emitted state .o (gossip 2)

/-- The call has read the registry. -/
def m₁ : Mesh Site := start.start 0 .o (gossip 2) none 0

/-- It has posted to `a`. -/
def m₂ : Mesh Site := m₁.send zeroHmac 0 (fun _ => true) .o (gossip 2) (peer .a) [peer .b] 0

/-- And to `b`. -/
def m₃ : Mesh Site := m₂.send zeroHmac 0 (fun _ => true) .o (gossip 2) (peer .b) [] 0

/-- It has ended. -/
def m₄ : Mesh Site := { m₃ with pending := replaceAt m₃.pending 1 [] }

/-- The copy for `a` has arrived. -/
def m₅ : Mesh Site := m₄.deliver zeroHmac 0 .a (gossip 2) 1

/-- The call of `a` has read the registry. -/
def m₆ : Mesh Site := m₅.start 1 .a (gossip 1) (some Site.o.id) 1

/-- It has posted to `b`. -/
def m₇ : Mesh Site := m₆.send zeroHmac 1 (fun _ => true) .a (gossip 1) (peer .b) [] 1

/-- It has ended. -/
def m₈ : Mesh Site := { m₇ with pending := replaceAt m₇.pending 1 [] }

/-- The copy that `a` sent has arrived at `b`. -/
def m₉ : Mesh Site := m₈.deliver zeroHmac 1 .b (gossip 1) 2

/-- The copy that `o` sent has arrived at `b`. -/
def m₁₀ : Mesh Site := m₉.deliver zeroHmac 0 .b (gossip 2) 1

def fasterWay : List (Label Site × Mesh Site) :=
  [(.start 0 .o, m₁), (.send 0 .o (peer .a), m₂), (.send 0 .o (peer .b), m₃), (.finish 1, m₄),
    (.deliver 0 .a (gossip 2), m₅), (.start 1 .a, m₆), (.send 1 .a (peer .b), m₇), (.finish 1, m₈),
    (.deliver 1 .b (gossip 1), m₉), (.deliver 0 .b (gossip 2), m₁₀)]

theorem exec_fasterWay : Exec (Mesh.Step zeroHmac route) start fasterWay := by
  refine ⟨.start rfl, .send _ rfl, .send _ rfl, .finish rfl, ?_⟩
  refine ⟨.deliver rfl rfl, .start rfl, .send _ rfl, .finish rfl, .deliver rfl rfl, .deliver rfl rfl, trivial⟩

theorem remembers_of_eq_none {id : String} {s : AppState} (h : s.seenGossip.lookup id = none) :
    Remembers id s := by
  intro seenAt hseen
  rw [h] at hseen
  cases hseen

theorem unhindered_fasterWay :
    AllSteps (Unhindered zeroHmac registry Site.o.id (gossip 2).gossipId) start fasterWay := by
  refine ⟨⟨_, rfl, by decide⟩, ?_, ?_, trivial, ⟨?_, .inl rfl, remembers_of_eq_none rfl⟩,
    ⟨_, rfl, by decide⟩, ?_, trivial, ⟨?_, .inl rfl, remembers_of_eq_none rfl⟩, ⟨?_, .inl rfl, ?_⟩,
    trivial⟩
  · show ((m₁.node .o).peerFailures.lookup (peer .a).peerId).getD 0 < 5
    decide
  · show ((m₂.node .o).peerFailures.lookup (peer .b).peerId).getD 0 < 5
    decide
  · rw [Fresh]
    decide
  · show ((m₆.node .a).peerFailures.lookup (peer .b).peerId).getD 0 < 5
    decide
  · rw [Fresh]
    decide
  · rw [Fresh]
    decide
  · intro seenAt hseen
    obtain rfl : 1700000000 = seenAt := Option.some.inj hseen
    decide

theorem quiet_fasterWay : m₁₀.pending = [] := rfl

theorem not_reached_c : ¬ m₁₀.Reached .c := by
  have hprocessed : m₁₀.processed.map Processed.node = [.a, .b] := rfl
  rintro ⟨p, hp, hc⟩
  have hmem := List.mem_map_of_mem (f := Processed.node) hp
  rw [hprocessed, hc] at hmem
  exact absurd hmem (by decide)

theorem edge_o_b : Edge route registry id .o .o .b := ⟨peer .b, by decide, by decide, by decide, rfl⟩

theorem edge_b_c : Edge route registry id .o .b .c := ⟨peer .c, by decide, by decide, by decide, rfl⟩

theorem seen_state (v : Site) : (state v).seenGossip.lookup (gossip 2).gossipId = none ↔ v ≠ .o := by
  cases v <;> decide

end Site

/-- Nothing is left to be done for a gossip with two hops, nothing hindered it, and a node two hops away has
not got it. -/
theorem reaches_not_all :
    Exec (Mesh.Step zeroHmac Site.route) Site.start Site.fasterWay ∧
      AllSteps (Unhindered zeroHmac Site.registry Site.o.id (Site.gossip 2).gossipId) Site.start
        Site.fasterWay ∧
      (final Site.start Site.fasterWay).pending = [] ∧
      Edge Site.route Site.registry Site.id .o .o .b ∧ Edge Site.route Site.registry Site.id .o .b .c ∧
      2 ≤ (Site.gossip 2).ttlHops.toNat ∧ ¬ (final Site.start Site.fasterWay).Reached .c :=
  ⟨Site.exec_fasterWay, Site.unhindered_fasterWay, Site.quiet_fasterWay, Site.edge_o_b, Site.edge_b_c,
    by decide, Site.not_reached_c⟩

/-- The way from `o` over `b` to `c`. -/
def Site.way : Nat → Site
  | 0 => .o
  | 1 => .b
  | _ => .c

theorem coverage_fasterWay :
    (∃ q ∈ (final Site.start Site.fasterWay).processed, q.node = .c ∧ ∃ peer, q.stored = .ok peer) ∨
    (∃ i ≤ 2, ∃ q ∈ (final Site.start Site.fasterWay).processed,
      q.node = Site.way i ∧ ∃ e, q.stored = .error e) ∨
    ∃ i, 0 < i ∧ i < 2 ∧ ∃ q ∈ (final Site.start Site.fasterWay).processed,
      q.node = Site.way i ∧ q.gossip.ttlHops = 1 ∧ i < q.hops := by
  refine coverage rfl Site.seen_state Site.exec_fasterWay Site.unhindered_fasterWay Site.quiet_fasterWay
    Site.way (d := 2) rfl ?_ (by decide) (by decide)
  intro i hi
  match i, hi with
  | 0, _ => exact Site.edge_o_b
  | 1, _ => exact Site.edge_b_c

end OperatingOrganism.ColonyServer

import Mathlib
import OperatingOrganism.ColonyServer.Signature

/-!
# Is the signed text unambiguous?

`gossip_signing_payload` joins eight fields with `|`, and the threats among themselves with `,`, and
escapes nothing. A text that contains a separator can be read in more than one way, and a signature over it
is one for each of them.

`payload_determines_iff` says which envelopes share their text with no other one. A separator is harmless in
two places only: in the gossip identifier, as long as no later part of it reads as a number of hops, and in
the threat, as long as no two parts read as a count and a time with a further part after them.
-/

set_option autoImplicit false

namespace OperatingOrganism.ColonyServer

open OperatingOrganism.JoinedText

/-! ## The fields as parts of the text -/

/-- The fields that the signed text stands for. -/
structure Agree (e e' : GossipEnvelope) : Prop where
  gossipId : e.gossipId = e'.gossipId
  ttlHops : e.ttlHops = e'.ttlHops
  peerId : e.fromPeer.peerId = e'.fromPeer.peerId
  address : e.fromPeer.address = e'.fromPeer.address
  role : e.fromPeer.role = e'.fromPeer.role
  observedOrganisms : e.observedOrganisms = e'.observedOrganisms
  sentAt : e.sentAt.timestampMillis = e'.sentAt.timestampMillis
  observedThreats : e.observedThreats = e'.observedThreats

/-- A part that reads as `ttl_hops`. -/
def IsHops (part : String) : Prop := ∃ n : UInt8, part = toString n

/-- A part that reads as `observed_organisms`. -/
def IsCount (part : String) : Prop := ∃ n : UInt64, part = toString n

/-- A part that reads as `sent_at`. -/
def IsMillis (part : String) : Prop := ∃ t : DateTime, part = toString t.timestampMillis

/-- The fields between the number of hops and the number of organisms. -/
def senderFields (e : GossipEnvelope) : List String :=
  [e.fromPeer.peerId, e.fromPeer.address, e.fromPeer.role]

/-- The signed text is a joined list. -/
theorem gossipSigningPayload_eq (e : GossipEnvelope) :
    gossipSigningPayload e = join '|' (e.gossipId :: toString e.ttlHops :: (senderFields e ++
      [toString e.observedOrganisms, toString e.sentAt.timestampMillis, join ',' e.observedThreats])) :=
  rfl

/-! ## Numbers -/

theorem toString_uInt8_inj {m n : UInt8} (h : toString m = toString n) : m = n :=
  UInt8.toNat_inj.1 (Nat.repr_inj.1 h)

theorem toString_uInt64_inj {m n : UInt64} (h : toString m = toString n) : m = n :=
  UInt64.toNat_inj.1 (Nat.repr_inj.1 h)

theorem toString_int_inj {m n : Int} (h : toString m = toString n) : m = n := by
  simpa only [Int.toString_eq_repr, Int.repr_inj] using h

theorem bar_not_mem_repr (n : Nat) : '|' ∉ n.repr.toList := by
  intro hbar
  rw [Nat.toList_repr] at hbar
  exact absurd (Nat.isDigit_of_mem_toDigits (by decide) (by decide) hbar) (by decide)

theorem bar_not_mem_toString_int (n : Int) : '|' ∉ (toString n).toList := by
  cases n with
  | ofNat m => exact bar_not_mem_repr m
  | negSucc m =>
    have htext : toString (Int.negSucc m) = "-" ++ (m + 1).repr := rfl
    rw [htext, String.toList_append, List.mem_append]
    rintro (hminus | hdigit)
    · exact absurd hminus (by decide)
    · exact bar_not_mem_repr (m + 1) hdigit

theorem IsHops.split {part : String} (h : IsHops part) : split '|' part = [part] := by
  obtain ⟨n, rfl⟩ := h
  exact split_of_not_mem (bar_not_mem_repr n.toNat)

theorem IsCount.split {part : String} (h : IsCount part) : split '|' part = [part] := by
  obtain ⟨n, rfl⟩ := h
  exact split_of_not_mem (bar_not_mem_repr n.toNat)

theorem IsMillis.split {part : String} (h : IsMillis part) : split '|' part = [part] := by
  obtain ⟨t, rfl⟩ := h
  exact split_of_not_mem (bar_not_mem_toString_int t.timestampMillis)

/-- The parts of the signed text. -/
theorem split_gossipSigningPayload (e : GossipEnvelope) :
    split '|' (gossipSigningPayload e) = split '|' e.gossipId ++ toString e.ttlHops ::
      ((senderFields e).flatMap (split '|') ++ toString e.observedOrganisms ::
        toString e.sentAt.timestampMillis :: split '|' (join ',' e.observedThreats)) := by
  rw [gossipSigningPayload_eq, split_join (by simp)]
  simp only [List.flatMap_cons, List.flatMap_append, List.flatMap_nil, List.append_nil,
    IsHops.split ⟨e.ttlHops, rfl⟩, IsCount.split ⟨e.observedOrganisms, rfl⟩,
    IsMillis.split ⟨e.sentAt, rfl⟩, List.singleton_append]

/-! ## The condition -/

/-- No other envelope has the same signed text. -/
structure Unambiguous (e : GossipEnvelope) : Prop where
  /-- There is one threat, which is not empty, and no comma in it. -/
  threat : ∃ t, e.observedThreats = [t] ∧ t ≠ "" ∧ ',' ∉ t.toList
  /-- What the sender says about itself is free of bars. -/
  sender : ∀ field ∈ senderFields e, '|' ∉ field.toList
  /-- After its first bar the gossip identifier has no number of hops. -/
  gossipId : ∀ part ∈ (split '|' e.gossipId).tail, ¬ IsHops part
  /-- From the time of sending on, no count is followed by a time and a further part. -/
  sentAt : ∀ l count millis part m,
    toString e.sentAt.timestampMillis :: e.observedThreats.flatMap (split '|') =
      l ++ count :: millis :: part :: m → IsCount count → ¬ IsMillis millis

/-! ## Reading the text back -/

section Header

variable {α : Type} {hops count millis : α → Prop} {before mid after before' mid' after' : List α}
  {h o m h' o' m' : α}

/-- A count and a time found later than the fourth place lie in the part that has none. -/
theorem not_late (hmid : mid.length = 3) (hafter' : after' ≠ [])
    (hlast : ∀ l c k x r, m :: after = l ++ c :: k :: x :: r → count c → ¬ millis k)
    (ho' : count o') (hm' : millis m') (hlen : 3 < mid'.length) :
    mid ++ o :: m :: after ≠ mid' ++ o' :: m' :: after' := by
  intro heq
  obtain ⟨x, r, rfl⟩ := List.exists_cons_of_ne_nil hafter'
  have hpre : mid ++ [o] <+: mid' := by
    have hfull : mid ++ [o] <+: mid' ++ o' :: m' :: x :: r := ⟨m :: after, by simp [← heq]⟩
    apply List.prefix_of_prefix_length_le hfull (List.prefix_append ..)
    simp only [List.length_append, List.length_singleton, hmid]
    exact hlen
  obtain ⟨l, rfl⟩ := hpre
  have hrest : m :: after = l ++ o' :: m' :: x :: r := by simpa using heq
  exact hlast l o' m' x r hrest ho' hm'

/-- Where no other header can be read, it is read in one way only. -/
theorem header_unique (hmid : mid.length = 3) (hmid' : 3 ≤ mid'.length) (hbefore' : before' ≠ [])
    (hafter' : after' ≠ []) (hfirst : ∀ x ∈ before.tail, ¬ hops x)
    (hlast : ∀ l c k x r, m :: after = l ++ c :: k :: x :: r → count c → ¬ millis k)
    (hh' : hops h') (ho' : count o') (hm' : millis m')
    (heq : before ++ h :: (mid ++ o :: m :: after) = before' ++ h' :: (mid' ++ o' :: m' :: after')) :
    before = before' ∧ h = h' ∧ mid = mid' ∧ o = o' ∧ m = m' ∧ after = after' := by
  have hlate : ∀ n : List α, 3 < n.length → mid ++ o :: m :: after ≠ n ++ o' :: m' :: after' :=
    fun n hn => not_late hmid hafter' hlast ho' hm' hn
  have hsame : before = before' := by
    rcases List.append_eq_append_iff.1 heq with ⟨l, rfl, hl⟩ | ⟨l, rfl, hl⟩
    · cases l with
      | nil => simp
      | cons x l =>
        -- the other reading has the number of hops too late
        obtain ⟨rfl, hl⟩ := List.cons_eq_cons.1 hl
        refine absurd ?_ (hlate (l ++ h' :: mid') ?_)
        · simpa using hl
        · simp only [List.length_append, List.length_cons]
          omega
    · cases l with
      | nil => simp
      | cons x l =>
        -- the other reading has the number of hops too early
        obtain ⟨rfl, hl⟩ := List.cons_eq_cons.1 hl
        obtain ⟨b, bs, rfl⟩ := List.exists_cons_of_ne_nil hbefore'
        exact absurd hh' (hfirst h' (by simp))
  subst hsame
  obtain ⟨hhops, htail⟩ := List.cons_eq_cons.1 (List.append_cancel_left heq)
  have hlen : mid.length = mid'.length := by
    rcases Nat.lt_or_ge 3 mid'.length with hlt | hle
    · exact absurd htail (hlate mid' hlt)
    · rw [hmid, Nat.le_antisymm hle hmid']
  obtain ⟨hsender, hend⟩ := List.append_inj htail hlen
  obtain ⟨hcount, hend⟩ := List.cons_eq_cons.1 hend
  obtain ⟨hmillis, htext⟩ := List.cons_eq_cons.1 hend
  exact ⟨rfl, hhops, hsender, hcount, hmillis, htext⟩

end Header

section Unambiguous

variable {e e' : GossipEnvelope}

/-- A list of threats that joins to a text without a comma. -/
theorem eq_singleton_of_join_eq {l : List String} {t : String} (h : t = join ',' l) (hne : t ≠ "")
    (hcomma : ',' ∉ t.toList) : l = [t] := by
  match l with
  | [] => exact absurd h hne
  | [t'] => rw [h, join_singleton]
  | t₁ :: t₂ :: l =>
    rw [h] at hcomma
    exact absurd (mem_join (by simp)) hcomma

/-- A text that meets the condition is the text of one envelope. -/
theorem Unambiguous.agree (h : Unambiguous e) (heq : gossipSigningPayload e = gossipSigningPayload e') :
    Agree e e' := by
  obtain ⟨t, ht, hne, hcomma⟩ := h.threat
  have hparts := congrArg (split '|') heq
  rw [split_gossipSigningPayload, split_gossipSigningPayload, flatMap_split_of_not_mem h.sender] at hparts
  have hlast := h.sentAt
  rw [ht, List.flatMap_singleton] at hlast
  rw [ht, join_singleton] at hparts
  have hthree : 3 ≤ ((senderFields e').flatMap (split '|')).length :=
    length_le_flatMap_split (l := senderFields e')
  obtain ⟨hid, hhops, hmid, hcount, hmillis, htext⟩ := header_unique rfl hthree split_ne_nil
    split_ne_nil h.gossipId hlast ⟨_, rfl⟩ ⟨_, rfl⟩ ⟨_, rfl⟩ hparts
  have hsender : senderFields e = senderFields e' :=
    hmid.trans (flatMap_split_of_length (hmid ▸ rfl))
  simp only [senderFields, List.cons.injEq] at hsender
  exact {
    gossipId := split_injective hid
    ttlHops := toString_uInt8_inj hhops
    peerId := hsender.1
    address := hsender.2.1
    role := hsender.2.2.1
    observedOrganisms := toString_uInt64_inj hcount
    sentAt := toString_int_inj hmillis
    observedThreats := by
      rw [ht, eq_singleton_of_join_eq (split_injective htext) hne hcomma] }

/-! ## Other readings -/

/-- The list of threats is the only one with its text. -/
theorem threat_of_agree (h : ∀ e', gossipSigningPayload e = gossipSigningPayload e' → Agree e e') :
    ∃ t, e.observedThreats = [t] ∧ t ≠ "" ∧ ',' ∉ t.toList := by
  have hthreats : ∀ l, join ',' e.observedThreats = join ',' l → e.observedThreats = l := by
    intro l hl
    refine (h { e with observedThreats := l } ?_).observedThreats
    rw [gossipSigningPayload_eq, gossipSigningPayload_eq, hl]
    rfl
  obtain ⟨t, ht⟩ : ∃ t, e.observedThreats = [t] := ⟨_, hthreats [_] join_singleton.symm⟩
  refine ⟨t, ht, ?_, ?_⟩
  · rintro rfl
    have hnil := hthreats [] (by rw [ht]; rfl)
    rw [ht] at hnil
    exact List.cons_ne_nil _ _ hnil
  · intro hcomma
    have hsplit := hthreats (split ',' t) (by rw [ht, join_split, join_singleton])
    obtain ⟨a, b, rfl⟩ := exists_append_of_mem hcomma
    have hlen := congrArg List.length hsplit
    have ha : 0 < (split ',' a).length := List.length_pos_iff.2 split_ne_nil
    have hb : 0 < (split ',' b).length := List.length_pos_iff.2 split_ne_nil
    rw [ht, split_append, List.length_append, List.length_singleton] at hlen
    omega

/-- A text is not followed by a separator and more. -/
theorem append_ne_self {s t : String} : s ≠ s ++ String.singleton '|' ++ t := by
  intro heq
  have hlen := congrArg (fun x => x.toList.length) heq
  simp at hlen

/-- No field of the sender has a bar. -/
theorem sender_of_agree (h : ∀ e', gossipSigningPayload e = gossipSigningPayload e' → Agree e e') :
    ∀ field ∈ senderFields e, '|' ∉ field.toList := by
  intro field hfield hbar
  obtain ⟨a, b, hab⟩ := exists_append_of_mem hbar
  simp only [senderFields, List.mem_cons, List.not_mem_nil, or_false] at hfield
  rcases hfield with rfl | rfl | rfl
  · -- the rest of the identifier can belong to the address
    refine append_ne_self ((h { e with fromPeer := { e.fromPeer with
      peerId := a, address := b ++ "|" ++ e.fromPeer.address } } ?_).peerId.symm.trans hab)
    simp [gossipSigningPayload, hab, String.append_assoc]
  · -- the rest of the address can belong to the role
    refine append_ne_self ((h { e with fromPeer := { e.fromPeer with
      address := a, role := b ++ "|" ++ e.fromPeer.role } } ?_).address.symm.trans hab)
    simp [gossipSigningPayload, hab, String.append_assoc]
  · -- the beginning of the role can belong to the address
    refine append_ne_self (h { e with fromPeer := { e.fromPeer with
      address := e.fromPeer.address ++ "|" ++ a, role := b } } ?_).address
    simp [gossipSigningPayload, hab, String.append_assoc]

/-- A number of hops in the identifier can be the one of the envelope. -/
theorem gossipId_of_agree (h : ∀ e', gossipSigningPayload e = gossipSigningPayload e' → Agree e e') :
    ∀ part ∈ (split '|' e.gossipId).tail, ¬ IsHops part := by
  rintro part hpart ⟨n, rfl⟩
  obtain ⟨l, r, hlr⟩ := List.append_of_mem hpart
  obtain ⟨x, xs, hxs⟩ := List.exists_cons_of_ne_nil (split_ne_nil (c := '|') (s := e.gossipId))
  rw [hxs, List.tail_cons] at hlr
  have hid : e.gossipId = join '|' ((x :: l) ++ toString n :: r) := by
    rw [← join_split (c := '|') (s := e.gossipId), hxs, hlr, List.cons_append]
  -- the number becomes the hops, and what follows it goes to the identifier of the peer
  have hagree := h { e with
    gossipId := join '|' (x :: l)
    ttlHops := n
    fromPeer := { e.fromPeer with
      peerId := join '|' (r ++ [toString e.ttlHops, e.fromPeer.peerId]) } } ?_
  · have hsame := hagree.gossipId
    rw [hid, join_append (by simp) (by simp)] at hsame
    exact append_ne_self hsame.symm
  · have hleft := join_append_cons_join (c := '|') (m := []) (l := (x :: l) ++ toString n :: r)
      (r := toString e.ttlHops :: (senderFields e ++ [toString e.observedOrganisms,
        toString e.sentAt.timestampMillis, join ',' e.observedThreats])) (by simp)
    have hright := join_append_cons_join (c := '|') (m := (x :: l) ++ [toString n])
      (l := r ++ [toString e.ttlHops, e.fromPeer.peerId])
      (r := e.fromPeer.address :: e.fromPeer.role :: [toString e.observedOrganisms,
        toString e.sentAt.timestampMillis, join ',' e.observedThreats]) (by simp)
    have hfirst := join_append_cons_join (c := '|') (m := []) (l := x :: l)
      (r := toString n :: join '|' (r ++ [toString e.ttlHops, e.fromPeer.peerId]) ::
        e.fromPeer.address :: e.fromPeer.role :: [toString e.observedOrganisms,
          toString e.sentAt.timestampMillis, join ',' e.observedThreats]) (by simp)
    rw [gossipSigningPayload_eq, gossipSigningPayload_eq, hid]
    simp only [List.nil_append, List.append_assoc, List.cons_append, senderFields] at hleft hright hfirst ⊢
    rw [hleft, hfirst, hright]

/-- A count and a time in the threat can be the ones of the envelope. -/
theorem sentAt_of_agree (h : ∀ e', gossipSigningPayload e = gossipSigningPayload e' → Agree e e')
    {l : List String} {count millis part : String} {m : List String}
    (hl : toString e.sentAt.timestampMillis :: e.observedThreats.flatMap (split '|') =
      l ++ count :: millis :: part :: m) (hcount : IsCount count) : ¬ IsMillis millis := by
  rintro ⟨t, rfl⟩
  obtain ⟨n, rfl⟩ := hcount
  obtain ⟨threat, hthreat, -, -⟩ := threat_of_agree h
  rw [hthreat, List.flatMap_singleton] at hl
  -- the two numbers become the fields, and what stands before them goes to the role
  have hagree := h { e with
    fromPeer := { e.fromPeer with
      role := join '|' (e.fromPeer.role :: toString e.observedOrganisms :: l) }
    observedOrganisms := n
    sentAt := t
    observedThreats := [join '|' (part :: m)] } ?_
  · have hsame := hagree.role
    rw [join_cons (by simp)] at hsame
    exact append_ne_self hsame
  · have hleft := join_append_cons_join (c := '|') (l := split '|' threat) (r := [])
      (m := [e.gossipId, toString e.ttlHops, e.fromPeer.peerId, e.fromPeer.address, e.fromPeer.role,
        toString e.observedOrganisms, toString e.sentAt.timestampMillis]) split_ne_nil
    have hrole := join_append_cons_join (c := '|')
      (l := e.fromPeer.role :: toString e.observedOrganisms :: l)
      (m := [e.gossipId, toString e.ttlHops, e.fromPeer.peerId, e.fromPeer.address])
      (r := [toString n, toString t.timestampMillis, join '|' (part :: m)]) (by simp)
    have hrest := join_append_cons_join (c := '|') (l := part :: m) (r := [])
      (m := [e.gossipId, toString e.ttlHops, e.fromPeer.peerId, e.fromPeer.address, e.fromPeer.role,
        toString e.observedOrganisms] ++ (l ++ [toString n, toString t.timestampMillis])) (by simp)
    rw [gossipSigningPayload_eq, gossipSigningPayload_eq, hthreat]
    simp only [List.nil_append, List.append_assoc, List.cons_append, List.append_nil, senderFields,
      join_singleton, join_split] at hleft hrole hrest ⊢
    rw [hleft, hl, hrole, hrest]

/-- The signed text of an envelope determines the envelope if and only if no separator in it can be taken
for one between fields. -/
theorem payload_determines_iff (e : GossipEnvelope) :
    (∀ e', gossipSigningPayload e = gossipSigningPayload e' → Agree e e') ↔ Unambiguous e := by
  constructor
  · intro h
    exact {
      threat := threat_of_agree h
      sender := sender_of_agree h
      gossipId := gossipId_of_agree h
      sentAt := fun _ _ _ _ _ hl hcount => sentAt_of_agree h hl hcount }
  · intro h e' heq
    exact h.agree heq

end Unambiguous

/-! ## Two senders with one text -/

/-- A gossip of a sender that has a bar in its identifier. -/
def barInPeerId : GossipEnvelope where
  gossipId := "g-1"
  ttlHops := 3
  fromPeer := { peerId := "node-1|10.0.0.2", address := "8080", role := "relay" }
  observedThreats := ["overload"]
  observedOrganisms := 2
  sentAt := .ofSeconds 1700000000
  hmacSha256 := none

/-- The same gossip with the bar in the address. -/
def barInAddress : GossipEnvelope :=
  { barInPeerId with fromPeer := { peerId := "node-1", address := "10.0.0.2|8080", role := "relay" } }

theorem payload_bar_moved :
    gossipSigningPayload barInPeerId = gossipSigningPayload barInAddress ∧
      ¬ Agree barInPeerId barInAddress := by
  constructor
  · decide
  · intro h
    exact absurd h.peerId (by decide)

/-- Without bars in the fields the text determines the gossip. -/
example : Unambiguous { barInPeerId with
    fromPeer := { peerId := "node-1", address := "10.0.0.2:8080", role := "relay" } } where
  threat := ⟨"overload", rfl, by decide, by decide⟩
  sender := by
    simp only [senderFields]
    decide
  gossipId part hpart := by
    have hone : split '|' "g-1" = ["g-1"] := split_of_not_mem (by decide)
    simp [barInPeerId, hone] at hpart
  sentAt l count millis part m hl := by
    have hone : split '|' "overload" = ["overload"] := split_of_not_mem (by decide)
    have hlen := congrArg List.length hl
    simp [barInPeerId, hone] at hlen
    omega

end OperatingOrganism.ColonyServer

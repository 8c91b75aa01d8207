import OperatingOrganism.ColonyServer.Models
import OperatingOrganism.Library.JoinedText

/-!
# Signatures of gossip envelopes

A node signs what it sends and verifies what it receives with HMAC-SHA256 over a text made of the fields
of the envelope. The keys come from two environment variables. HMAC-SHA256 itself is the parameter `hmac`:
any function of a key and a text with 32 bytes as its result.
-/

set_option autoImplicit false

namespace OperatingOrganism.ColonyServer

open OperatingOrganism.JoinedText

/-! ## Texts -/

/-- `char::is_whitespace` -/
def isWhitespace (c : Char) : Bool :=
  let n := c.toNat
  (9 ≤ n && n ≤ 13) || n == 0x20 || n == 0x85 || n == 0xA0 || n == 0x1680 || (0x2000 ≤ n && n ≤ 0x200A) ||
    n == 0x2028 || n == 0x2029 || n == 0x202F || n == 0x205F || n == 0x3000

/-- `str::trim` -/
def trim (s : String) : String :=
  String.ofList ((s.toList.dropWhile isWhitespace).reverse.dropWhile isWhitespace).reverse

/-! ## Keys -/

/-- The verify keys, from the signing key on. -/
def addVerifyKey (keys : List String) (key : String) : List String :=
  if key ∈ keys then keys else keys ++ [key]

/-- `parse_gossip_hmac_keys`, given the values of `COLONY_GOSSIP_HMAC_KEY` and
`COLONY_GOSSIP_HMAC_PREV_KEYS`. -/
def parseGossipHmacKeys (key prevKeys : Option String) : Option String × List String :=
  let signingKey := (key.map trim).filter (· ≠ "")
  let active := signingKey.toList
  match prevKeys with
  | none => (signingKey, active)
  | some raw => (signingKey, (((split ',' raw).map trim).filter (· ≠ "")).foldl addVerifyKey active)

theorem mem_addVerifyKey {keys : List String} {key k : String} :
    k ∈ addVerifyKey keys key ↔ k ∈ keys ∨ k = key := by
  rw [addVerifyKey]
  split
  · rename_i hmem
    exact ⟨Or.inl, fun h => h.elim id fun heq => heq ▸ hmem⟩
  · rw [List.mem_append, List.mem_singleton]

theorem mem_foldl_addVerifyKey {l keys : List String} {k : String} :
    k ∈ l.foldl addVerifyKey keys ↔ k ∈ keys ∨ k ∈ l := by
  induction l generalizing keys with
  | nil => simp
  | cons key l ih => rw [List.foldl_cons, ih, mem_addVerifyKey, List.mem_cons, or_assoc]

/-- The verify keys are the signing key and the previous keys that are not blank. -/
theorem mem_verifyKeys {key prevKeys : Option String} {k : String} :
    k ∈ (parseGossipHmacKeys key prevKeys).2 ↔ (parseGossipHmacKeys key prevKeys).1 = some k ∨
      ∃ raw, prevKeys = some raw ∧ ∃ part ∈ split ',' raw, trim part = k ∧ k ≠ "" := by
  cases prevKeys with
  | none => simp [parseGossipHmacKeys, Option.mem_toList]
  | some raw =>
    simp only [parseGossipHmacKeys, mem_foldl_addVerifyKey, Option.mem_toList, List.mem_filter,
      List.mem_map, Option.some.injEq, exists_eq_left', ne_eq, decide_not, Bool.not_eq_true',
      decide_eq_false_iff_not]
    refine or_congr_right ⟨?_, ?_⟩
    · rintro ⟨⟨part, hpart, htrim⟩, hne⟩
      exact ⟨part, hpart, htrim, hne⟩
    · rintro ⟨part, hpart, htrim, hne⟩
      exact ⟨⟨part, hpart, htrim⟩, hne⟩

/-- The node signs if the key is set and not blank. -/
theorem signingKey_isSome {key prevKeys : Option String} :
    (parseGossipHmacKeys key prevKeys).1.isSome ↔ ∃ k, key = some k ∧ trim k ≠ "" := by
  cases key <;> cases prevKeys <;> simp [parseGossipHmacKeys]

/-- `MeshRuntimeConfig` -/
structure MeshRuntimeConfig where
  dedupWindowS : Int
  gossipHmacSigningKey : Option String
  gossipHmacVerifyKeys : List String
  deriving DecidableEq

/-! ## Signing and verifying -/

/-- `gossip_signing_payload` -/
def gossipSigningPayload (envelope : GossipEnvelope) : String :=
  let threats := ",".intercalate envelope.observedThreats
  envelope.gossipId ++ "|" ++ toString envelope.ttlHops ++ "|" ++ envelope.fromPeer.peerId ++ "|" ++
    envelope.fromPeer.address ++ "|" ++ envelope.fromPeer.role ++ "|" ++
    toString envelope.observedOrganisms ++ "|" ++ toString envelope.sentAt.timestampMillis ++ "|" ++ threats

/-- One byte in `hex::encode`. -/
def hexDigits (b : UInt8) : List Char :=
  [Nat.digitChar (b.toNat / 16), Nat.digitChar (b.toNat % 16)]

/-- `hex::encode` -/
def hexEncode (bytes : List UInt8) : String := String.ofList (bytes.flatMap hexDigits)

section Hmac

variable (hmac : String → String → Vector UInt8 32)

/-- `compute_gossip_hmac`: a key of any length is accepted. -/
def computeGossipHmac (envelope : GossipEnvelope) (key : String) : Option String :=
  some (hexEncode (hmac key (gossipSigningPayload envelope)).toList)

/-- `sign_gossip_envelope` -/
def signGossipEnvelope (envelope : GossipEnvelope) (key : String) : GossipEnvelope :=
  { envelope with hmacSha256 := computeGossipHmac hmac envelope key }

/-- `constant_time_eq` -/
def constantTimeEq (a b : List UInt8) : Bool :=
  if a.length ≠ b.length then false
  else ((a.zip b).foldl (fun res p => res ||| (p.1 ^^^ p.2)) 0) == 0

/-- `str::as_bytes` -/
def asBytes (s : String) : List UInt8 := s.toByteArray.data.toList

/-- `verify_gossip_signature` -/
def verifyGossipSignature (envelope : GossipEnvelope) (key : String) : Bool :=
  match envelope.hmacSha256 with
  | none => false
  | some provided =>
    if provided = "" then false
    else
      match computeGossipHmac hmac envelope key with
      | none => false
      | some expected => constantTimeEq (asBytes expected) (asBytes provided)

/-- `verify_gossip_signature_with_any_key` -/
def verifyGossipSignatureWithAnyKey (envelope : GossipEnvelope) (keys : List String) : Bool :=
  keys.any fun key => verifyGossipSignature hmac envelope key

/-! ## What verification accepts -/

theorem foldl_xor_eq_zero {a b : List UInt8} (hlen : a.length = b.length) (res : UInt8) :
    (a.zip b).foldl (fun res p => res ||| (p.1 ^^^ p.2)) res = 0 ↔ res = 0 ∧ a = b := by
  induction a generalizing b res with
  | nil =>
    obtain rfl := List.length_eq_zero_iff.1 hlen.symm
    simp
  | cons x a ih =>
    cases b with
    | nil => cases hlen
    | cons y b =>
      rw [List.zip_cons_cons, List.foldl_cons, ih (Nat.succ.inj hlen), UInt8.or_eq_zero_iff,
        UInt8.xor_eq_zero_iff, List.cons.injEq, and_assoc]

/-- The comparison without early exit is the comparison. -/
theorem constantTimeEq_iff {a b : List UInt8} : constantTimeEq a b ↔ a = b := by
  rw [constantTimeEq]
  split
  · rename_i hlen
    simp only [Bool.false_eq_true, false_iff]
    exact fun heq => hlen (congrArg List.length heq)
  · rename_i hlen
    rw [beq_iff_eq, foldl_xor_eq_zero (not_not.1 hlen)]
    simp

theorem asBytes_injective {s t : String} (h : asBytes s = asBytes t) : s = t :=
  String.toByteArray_inj.1 (ByteArray.ext (Array.toList_inj.1 h))

theorem hexEncode_ne_empty (bytes : Vector UInt8 32) : hexEncode bytes.toList ≠ "" := by
  intro hempty
  have hlen := congrArg (fun s => s.toList.length) hempty
  simp [hexEncode, hexDigits] at hlen

/-- A signature is accepted exactly if it is the one of the key. -/
theorem verifyGossipSignature_iff {envelope : GossipEnvelope} {key : String} :
    verifyGossipSignature hmac envelope key ↔
      envelope.hmacSha256 = computeGossipHmac hmac envelope key := by
  rw [verifyGossipSignature]
  cases hmac' : envelope.hmacSha256 with
  | none => simp [computeGossipHmac]
  | some provided =>
    simp only [computeGossipHmac, Option.some.injEq]
    by_cases hempty : provided = ""
    · rw [if_pos hempty, hempty]
      exact iff_of_false Bool.false_ne_true (hexEncode_ne_empty _).symm
    · rw [if_neg hempty, constantTimeEq_iff]
      exact ⟨fun h => (asBytes_injective h).symm, fun h => congrArg asBytes h.symm⟩

theorem verify_signGossipEnvelope (envelope : GossipEnvelope) (key : String) :
    verifyGossipSignature hmac (signGossipEnvelope hmac envelope key) key :=
  (verifyGossipSignature_iff hmac).2 rfl

/-- An envelope without a signature is accepted under no key. -/
theorem not_verify_unsigned {envelope : GossipEnvelope} (h : envelope.hmacSha256 = none)
    (keys : List String) : ¬ verifyGossipSignatureWithAnyKey hmac envelope keys := by
  rw [verifyGossipSignatureWithAnyKey, List.any_eq_true]
  rintro ⟨key, -, hkey⟩
  rw [verifyGossipSignature_iff, h] at hkey
  cases hkey

end Hmac

/-- A keyed hash, for the examples. -/
def zeroHmac (_key _payload : String) : Vector UInt8 32 := .replicate 32 0

end OperatingOrganism.ColonyServer

import OperatingOrganism.Bot.Sha256
import OperatingOrganism.Library.ByteLayout

/-!
# The DNA of an agent

`BotDNA` is a record of 4584 bytes with the SHA-256 of itself inside. `_bot_dna_compute_hash` means to hash the
whole record but for the hash and the reserved bytes; it hashes what comes before the hash. The flag of health and
the sealed directives come after it, so no change of theirs is ever noticed (`tampered_verifies`). The directives
are also one byte too long for their field, so that a new agent has lost the last two bytes of the text.

A record is given by its bytes, those between two fields included. The null pointer and
`bot_dna_print_summary` are left out.
-/

set_option autoImplicit false

namespace OperatingOrganism.Bot

open OperatingOrganism.ByteLayout

/-- `BOT_DNA_MAGIC` -/
def botDnaMagic : BitVec 32 := 0x424F5444

/-- `BOT_DNA_VERSION` -/
def botDnaVersion : BitVec 32 := 1

/-- `BOT_MAX_PATTERNS` -/
def botMaxPatterns : Nat := 64

/-- `BOT_PRIME_DIR_LEN` -/
def botPrimeDirLen : Nat := 256

/-- `AgentRole` -/
inductive AgentRole where
  | none | memWatch | netWatch | fsWatch | procWatch | kernelWatch | bootWatch | quarantine | honeyTrap | neutralizer
  | chameleon | mimicry | mutation | regen | ooBridge | swarmMind
  deriving DecidableEq, Repr

/-- The value of the enumerator. -/
def AgentRole.code : AgentRole → BitVec 32
  | none => 0x00
  | memWatch => 0x01
  | netWatch => 0x02
  | fsWatch => 0x03
  | procWatch => 0x04
  | kernelWatch => 0x05
  | bootWatch => 0x06
  | quarantine => 0x10
  | honeyTrap => 0x11
  | neutralizer => 0x12
  | chameleon => 0x13
  | mimicry => 0x20
  | mutation => 0x21
  | regen => 0x30
  | ooBridge => 0x31
  | swarmMind => 0xFF

def threatDomainAntivirus : BitVec 32 := 1 <<< 0
def threatDomainAntipiracy : BitVec 32 := 1 <<< 1
def threatDomainAntitheft : BitVec 32 := 1 <<< 2
def threatDomainAntirootkit : BitVec 32 := 1 <<< 3
def threatDomainAntiransom : BitVec 32 := 1 <<< 4
def threatDomainAntibot : BitVec 32 := 1 <<< 6
def threatDomainSelfProtect : BitVec 32 := 1 <<< 7

/-- The domains that `bot_dna_init` gives to a role. -/
def AgentRole.threatDomains : AgentRole → BitVec 32
  | memWatch => threatDomainAntivirus ||| threatDomainAntirootkit
  | netWatch => threatDomainAntitheft ||| threatDomainAntibot
  | fsWatch => threatDomainAntiransom ||| threatDomainAntitheft
  | procWatch => threatDomainAntivirus ||| threatDomainAntipiracy
  | kernelWatch => threatDomainAntirootkit ||| threatDomainSelfProtect
  | bootWatch => threatDomainAntirootkit ||| threatDomainSelfProtect
  | swarmMind => 0xFF
  | _ => 0

/-! ## The layout -/

/-- The fields of `BotDNA`. -/
inductive DnaField where
  | magic | version | agentId | role | generation | name | capabilities | threatDomains | currentThreatLevel
  | learnedPatterns | patternCount | threatsDetected | threatsNeutralized | falsePositives | birthTime
  | lastRegenTime | regenCount | integrityHash | isHealthy | primeDirectives | reserved
  deriving DecidableEq, Repr

/-- `BehaviorPattern` -/
def behaviorPatternType : CType :=
  .struct [(CType.int 1).array 32, .int 4, .int 4, .int 8, .int 8, .int 1, (CType.int 1).array 7]

/-- The fields in their order, with their types. -/
def botDnaFields : List (DnaField × CType) :=
  [(.magic, .int 4), (.version, .int 4), (.agentId, (CType.int 1).array 16), (.role, .int 4), (.generation, .int 4),
    (.name, (CType.int 1).array 32), (.capabilities, .int 8), (.threatDomains, .int 4), (.currentThreatLevel, .int 4),
    (.learnedPatterns, behaviorPatternType.array botMaxPatterns), (.patternCount, .int 4), (.threatsDetected, .int 8),
    (.threatsNeutralized, .int 8), (.falsePositives, .int 8), (.birthTime, .int 8), (.lastRegenTime, .int 8),
    (.regenCount, .int 4), (.integrityHash, (CType.int 1).array 32), (.isHealthy, .int 1),
    (.primeDirectives, (CType.int 1).array botPrimeDirLen), (.reserved, (CType.int 1).array 64)]

/-- `BotDNA` -/
def botDnaType : CType := .struct (botDnaFields.map (·.2))

/-- Where a field begins. -/
def DnaField.offset (field : DnaField) : Nat :=
  offsetOf (botDnaFields.map (·.2)) (botDnaFields.findIdx (·.1 = field))

/-! ## The functions -/

/-- The directives, as they are written in the source. -/
def botPrimeDirectives : List (BitVec 8) :=
  asciiBytes <| "1:SURVIVE_BEFORE_ALL\n" ++ "2:PROTECT_OPERATING_ORGANISM\n" ++ "3:LEARN_FROM_EVERY_THREAT\n" ++
    "4:NEVER_CORRUPT_SOMA\n" ++ "5:NEVER_ACT_WITHOUT_EVIDENCE\n" ++ "6:JOURNAL_EVERY_ACTION\n" ++
    "7:RESPECT_OO_HIERARCHY\n" ++ "8:SHARE_KNOWLEDGE_WITH_SWARM\n" ++ "9:REGENERATE_FALLEN_AGENTS\n" ++
    "10:ISOLATE_BEFORE_NEUTRALIZE\n"

/-- `pd_len` -/
def primeDirectivesLength : Nat :=
  if botPrimeDirectives.length ≥ botPrimeDirLen then botPrimeDirLen - 1 else botPrimeDirectives.length

section

variable (stack : Vector (BitVec 8) 64)

/-- `_bot_dna_compute_hash`; `stack` is what its local buffer holds. -/
def botDnaComputeHash (dna : Bytes) : Vector (BitVec 8) 32 :=
  let offsetHash := DnaField.integrityHash.offset
  sha256Final (sha256Update (sha256Init stack) (toFile offsetHash dna))

/-- The record with its hash stored in it. -/
def storeHash (dna : Bytes) : Bytes :=
  copyBytes DnaField.integrityHash.offset 32 (fun k => (botDnaComputeHash stack dna)[k]?.getD 0) dna

/-- The record of `bot_dna_init` before the hash. -/
def botDnaBlank (role : AgentRole) (name : Option (List (BitVec 8))) : Bytes :=
  let dna : Bytes := fun _ => 0
  let dna := putLE DnaField.magic.offset botDnaMagic dna
  let dna := putLE DnaField.version.offset botDnaVersion dna
  let dna := putLE DnaField.role.offset role.code dna
  let dna := putLE DnaField.generation.offset 1#32 dna
  let dna := putLE DnaField.isHealthy.offset 1#8 dna
  -- `strncpy` stops at the NUL of the name and fills up with zeros
  let text := (name.getD (asciiBytes "unnamed")).takeWhile (· ≠ 0)
  let dna := copyBytes DnaField.name.offset 31 (fun k => text[k]?.getD 0) dna
  let dna := putLE DnaField.threatDomains.offset role.threatDomains dna
  copyBytes DnaField.primeDirectives.offset primeDirectivesLength (fun k => botPrimeDirectives[k]?.getD 0) dna

/-- `bot_dna_init` -/
def botDnaInit (role : AgentRole) (name : Option (List (BitVec 8))) : Bytes := storeHash stack (botDnaBlank role name)

/-- `bot_dna_verify` -/
def botDnaVerify (dna : Bytes) : Int :=
  if getLE 32 DnaField.magic.offset dna ≠ botDnaMagic then 0
  else if getLE 32 DnaField.version.offset dna ≠ botDnaVersion then 0
  else if (botDnaComputeHash stack dna).toList =
      (List.range 32).map (fun k => dna (DnaField.integrityHash.offset + k)) then 1
  else 0

/-- `bot_dna_add_pattern`, with its return code. -/
def botDnaAddPattern (dna pattern : Bytes) : Bytes × Int :=
  let patternCount := getLE 32 DnaField.patternCount.offset dna
  if patternCount.toNat ≥ botMaxPatterns then (dna, -1)
  else
    let place := DnaField.learnedPatterns.offset + behaviorPatternType.size * patternCount.toNat
    let dna := copyBytes place behaviorPatternType.size pattern dna
    let dna := putLE DnaField.patternCount.offset (patternCount + 1) dna
    (storeHash stack dna, 0)

/-- `bot_dna_serialize`: the buffer after it, with the return code. -/
def botDnaSerialize (dna buf : Bytes) (bufLen : BitVec 32) : Bytes × Int :=
  if bufLen.toNat < botDnaType.size then (buf, -1)
  else (copyBytes 0 botDnaType.size dna buf, botDnaType.size)

/-- `bot_dna_deserialize`: the record after it, with the return code. -/
def botDnaDeserialize (dna buf : Bytes) (bufLen : BitVec 32) : Bytes × Int :=
  if bufLen.toNat < botDnaType.size then (dna, -1)
  else
    let dna := copyBytes 0 botDnaType.size buf dna
    if botDnaVerify stack dna = 0 then (copyBytes 0 botDnaType.size (fun _ => 0) dna, -1) else (dna, 0)

end

/-! ## What a verification reads -/

/-- Byte `k` belongs to the flag of health or to the directives. -/
def Sealed (k : Nat) : Prop :=
  (DnaField.isHealthy.offset ≤ k ∧ k < DnaField.isHealthy.offset + 1) ∨
    (DnaField.primeDirectives.offset ≤ k ∧ k < DnaField.primeDirectives.offset + botPrimeDirLen)

instance (k : Nat) : Decidable (Sealed k) := inferInstanceAs (Decidable (_ ∨ _))

/-- `d'` differs from `d` in at least one byte of `prime_directives` or `is_healthy` and in nothing else. -/
def TampersSeal (d d' : Bytes) : Prop :=
  (∃ k, Sealed k ∧ d' k ≠ d k) ∧ ∀ k < botDnaType.size, ¬ Sealed k → d' k = d k

/-- Where the compiler puts what the proofs speak of. -/
theorem dna_offsets : DnaField.magic.offset = 0 ∧ DnaField.version.offset = 4 ∧
    DnaField.integrityHash.offset = 4228 ∧ DnaField.isHealthy.offset = 4260 ∧
    DnaField.primeDirectives.offset = 4261 ∧ botDnaType.size = 4584 := by
  decide +kernel

section

variable {stack : Vector (BitVec 8) 64} {d d' : Bytes}

/-- The hash depends on the bytes before it only. -/
theorem computeHash_congr (h : ∀ k < DnaField.integrityHash.offset, d k = d' k) (stack' : Vector (BitVec 8) 64) :
    botDnaComputeHash stack d = botDnaComputeHash stack' d' := by
  have hfile : toFile DnaField.integrityHash.offset d = toFile DnaField.integrityHash.offset d' :=
    List.map_congr_left fun k hk => h k (List.mem_range.1 hk)
  rw [botDnaComputeHash, botDnaComputeHash, hfile]
  exact digest_congr stack stack' _

/-- A verification depends on the bytes up to the end of the hash. -/
theorem verify_congr (h : ∀ k < DnaField.integrityHash.offset + 32, d k = d' k) (stack' : Vector (BitVec 8) 64) :
    botDnaVerify stack d = botDnaVerify stack' d' := by
  obtain ⟨hmagic, hversion, hhash, -⟩ := dna_offsets
  have hint : ∀ loc, loc + 4 ≤ 4260 → getLE 32 loc d = getLE 32 loc d' := by
    intro loc hloc
    apply getLE_congr
    intro k _ hk
    exact h k (by omega)
  have hstored : (List.range 32).map (fun k => d (DnaField.integrityHash.offset + k)) =
      (List.range 32).map (fun k => d' (DnaField.integrityHash.offset + k)) := by
    apply List.map_congr_left
    intro k hk
    exact h _ (Nat.add_lt_add_left (List.mem_range.1 hk) _)
  rw [botDnaVerify, botDnaVerify, hint _ (by omega), hint _ (by omega), hstored,
    computeHash_congr (fun k hk => h k (Nat.lt_add_right 32 hk)) stack']

/-- What is sealed lies behind the hash. -/
theorem hash_end_le_of_sealed {k : Nat} (h : Sealed k) : DnaField.integrityHash.offset + 32 ≤ k := by
  obtain ⟨-, -, hhash, hhealthy, hdirectives, -⟩ := dna_offsets
  rcases h with h | h <;> omega

/-! ### Records with their hash -/

/-- The two words that a verification compares come before all other fields. -/
theorem eight_le_offset {field : DnaField} (hmagic : field ≠ .magic) (hversion : field ≠ .version) :
    8 ≤ field.offset := by
  cases field with
  | magic => exact absurd rfl hmagic
  | version => exact absurd rfl hversion
  | _ => decide +kernel

/-- A record with these two words. -/
structure Marked (d : Bytes) : Prop where
  magic : getLE 32 DnaField.magic.offset d = botDnaMagic
  version : getLE 32 DnaField.version.offset d = botDnaVersion

/-- Whatever is written behind them leaves them. -/
theorem Marked.congr (h : Marked d) (hsame : ∀ k < 8, d k = d' k) : Marked d' := by
  obtain ⟨hm, hv, -⟩ := dna_offsets
  have hint : ∀ loc, loc + 4 ≤ 8 → getLE 32 loc d = getLE 32 loc d' := by
    intro loc hloc
    apply getLE_congr
    intro k _ hk
    exact hsame k (by omega)
  constructor
  · rw [← hint _ (by omega)]
    exact h.magic
  · rw [← hint _ (by omega)]
    exact h.version

theorem Marked.put {w loc : Nat} {v : BitVec w} (h : Marked d) (hloc : 8 ≤ loc) : Marked (putLE loc v d) := by
  apply h.congr
  intro k hk
  exact (if_neg (by omega)).symm

theorem Marked.copy {loc n : Nat} {source : Bytes} (h : Marked d) (hloc : 8 ≤ loc) :
    Marked (copyBytes loc n source d) := by
  apply h.congr
  intro k hk
  exact (if_neg (by omega)).symm

theorem marked_of_verify (h : botDnaVerify stack d = 1) : Marked d := by
  rw [botDnaVerify] at h
  split at h
  · exact absurd h (by decide)
  · next hmagic =>
    split at h
    · exact absurd h (by decide)
    · next hversion => exact ⟨not_not.1 hmagic, not_not.1 hversion⟩

theorem storeHash_of_lt {k : Nat} (h : k < DnaField.integrityHash.offset) : storeHash stack d k = d k :=
  if_neg fun hk => absurd hk.1 (Nat.not_le.2 h)

/-- A record of the right magic and version is accepted once its hash is stored in it. -/
theorem verify_storeHash (h : Marked d) (stack' : Vector (BitVec 8) 64) :
    botDnaVerify stack' (storeHash stack d) = 1 := by
  have hkept : Marked (storeHash stack d) := h.copy (by simp [eight_le_offset])
  have hstored : (botDnaComputeHash stack' (storeHash stack d)).toList =
      (List.range 32).map (fun k => storeHash stack d (DnaField.integrityHash.offset + k)) := by
    rw [computeHash_congr (fun k hk => storeHash_of_lt hk) stack]
    apply List.ext_getElem
    · simp
    · intro k hk _
      have hlt : k < 32 := by simpa using hk
      rw [List.getElem_map, List.getElem_range, storeHash, copyBytes, if_pos (by omega), Nat.add_sub_cancel_left,
        Vector.getElem?_eq_getElem hlt, Vector.getElem_toList]
      rfl
  rw [botDnaVerify, if_neg (not_not.2 hkept.magic), if_neg (not_not.2 hkept.version), if_pos hstored]

/-! ### What the functions keep -/

theorem marked_botDnaBlank (role : AgentRole) (name : Option (List (BitVec 8))) : Marked (botDnaBlank role name) := by
  have hwords : Marked (putLE DnaField.version.offset botDnaVersion (putLE DnaField.magic.offset botDnaMagic
      fun _ => 0)) := by
    obtain ⟨hm, hv, -⟩ := dna_offsets
    constructor
    · rw [getLE_putLE_of_apart (by omega), getLE_putLE (by decide)]
    · rw [getLE_putLE (by decide)]
  rw [botDnaBlank]
  apply Marked.copy _ (by simp [eight_le_offset])
  apply Marked.put _ (by simp [eight_le_offset])
  apply Marked.copy _ (by simp [eight_le_offset])
  apply Marked.put _ (by simp [eight_le_offset])
  apply Marked.put _ (by simp [eight_le_offset])
  apply Marked.put _ (by simp [eight_le_offset])
  exact hwords

/-- Every new agent is accepted. -/
theorem botDnaInit_verifies (role : AgentRole) (name : Option (List (BitVec 8))) (stack' : Vector (BitVec 8) 64) :
    botDnaVerify stack' (botDnaInit stack role name) = 1 :=
  verify_storeHash (marked_botDnaBlank role name) stack'

/-- An accepted agent that learns a pattern, or has no room for it, is accepted again. -/
theorem addPattern_verifies (h : botDnaVerify stack d = 1) (pattern : Bytes) (stack' : Vector (BitVec 8) 64) :
    botDnaVerify stack' (botDnaAddPattern stack d pattern).1 = 1 := by
  rw [botDnaAddPattern]
  split
  · rw [← h]
    exact verify_congr (fun k _ => rfl) stack
  · have hplace : 8 ≤ DnaField.learnedPatterns.offset := by simp [eight_le_offset]
    apply verify_storeHash
    apply Marked.put _ (by simp [eight_le_offset])
    exact (marked_of_verify h).copy (Nat.le_add_right_of_le hplace)

/-- What is read from a buffer without an error is accepted. -/
theorem deserialize_verifies {buf : Bytes} {bufLen : BitVec 32} (h : (botDnaDeserialize stack d buf bufLen).2 = 0) :
    botDnaVerify stack (botDnaDeserialize stack d buf bufLen).1 ≠ 0 := by
  rw [botDnaDeserialize] at h ⊢
  split at h
  · simp at h
  · next hroom =>
    rw [if_neg hroom]
    dsimp only at h ⊢
    split at h
    · simp at h
    · next haccepted =>
      rw [if_neg haccepted]
      exact haccepted

/-- An accepted record that is written to a buffer is read back. -/
theorem deserialize_serialize {buf : Bytes} {bufLen : BitVec 32} (h : botDnaVerify stack d = 1)
    (hroom : botDnaType.size ≤ bufLen.toNat) (stack' : Vector (BitVec 8) 64) :
    (botDnaDeserialize stack' d' (botDnaSerialize d buf bufLen).1 bufLen).2 = 0 ∧
      ∀ k < botDnaType.size, (botDnaDeserialize stack' d' (botDnaSerialize d buf bufLen).1 bufLen).1 k = d k := by
  have hcopy : ∀ k < botDnaType.size,
      copyBytes 0 botDnaType.size (copyBytes 0 botDnaType.size d buf) d' k = d k := by
    intro k hk
    rw [copyBytes, if_pos (by omega), copyBytes, if_pos (by omega), Nat.sub_zero, Nat.sub_zero]
  have haccepted : botDnaVerify stack' (copyBytes 0 botDnaType.size (copyBytes 0 botDnaType.size d buf) d') = 1 := by
    obtain ⟨-, -, hhash, -, -, hsize⟩ := dna_offsets
    rw [← h]
    apply verify_congr
    intro k hk
    exact hcopy k (by omega)
  have hread : botDnaDeserialize stack' d' (botDnaSerialize d buf bufLen).1 bufLen =
      (copyBytes 0 botDnaType.size (copyBytes 0 botDnaType.size d buf) d', 0) := by
    rw [botDnaSerialize, if_neg (Nat.not_lt.2 hroom), botDnaDeserialize, if_neg (Nat.not_lt.2 hroom)]
    exact if_neg (by rw [haccepted]; decide)
  rw [hread]
  exact ⟨rfl, hcopy⟩

end

/-- No change of the flag of health or of the directives is ever noticed. -/
theorem tampered_verifies {stack stack' : Vector (BitVec 8) 64} {d d' : Bytes} (hd : botDnaVerify stack d = 1)
    (h : TampersSeal d d') : botDnaVerify stack' d' = 1 := by
  rw [← hd]
  apply verify_congr
  intro k hk
  have hhash : DnaField.integrityHash.offset + 32 ≤ botDnaType.size := by
    obtain ⟨-, -, hoffset, -, -, hsize⟩ := dna_offsets
    omega
  exact h.2 k (Nat.lt_of_lt_of_le hk hhash) fun hsealed => absurd (hash_end_le_of_sealed hsealed) (Nat.not_le.2 hk)

/-! ### A new agent without directives -/

/-- A watcher of the memory, as it is initialised. -/
def watcher (stack : Vector (BitVec 8) 64) : Bytes := botDnaInit stack .memWatch Option.none

/-- It is accepted. -/
theorem watcher_verifies (stack stack' : Vector (BitVec 8) 64) : botDnaVerify stack' (watcher stack) = 1 :=
  botDnaInit_verifies .memWatch Option.none stack'

/-- The text of the directives begins with a one. -/
theorem botPrimeDirectives_eq_cons : ∃ rest, botPrimeDirectives = 0x31 :: rest := by
  simp only [botPrimeDirectives, asciiBytes, String.toList_append, List.map_append, List.append_assoc]
  exact ⟨_, rfl⟩

theorem primeDirectivesLength_pos : 0 < primeDirectivesLength := by
  obtain ⟨rest, hrest⟩ := botPrimeDirectives_eq_cons
  rw [primeDirectivesLength, hrest]
  split
  · decide
  · exact Nat.succ_pos _

/-- So do the directives of a new agent. -/
theorem botDnaInit_directives (stack : Vector (BitVec 8) 64) (role : AgentRole) (name : Option (List (BitVec 8))) :
    botDnaInit stack role name DnaField.primeDirectives.offset = 0x31 := by
  obtain ⟨-, -, hhash, -, hdirectives, -⟩ := dna_offsets
  obtain ⟨rest, hrest⟩ := botPrimeDirectives_eq_cons
  have hpos := primeDirectivesLength_pos
  rw [botDnaInit, storeHash, copyBytes, if_neg (by omega), botDnaBlank, copyBytes, if_pos (by omega), Nat.sub_self,
    hrest]
  rfl

/-- The same with its directives erased. -/
def outlaw (stack : Vector (BitVec 8) 64) : Bytes :=
  copyBytes DnaField.primeDirectives.offset botPrimeDirLen (fun _ => 0) (watcher stack)

theorem outlaw_tampers (stack : Vector (BitVec 8) 64) : TampersSeal (watcher stack) (outlaw stack) := by
  obtain ⟨-, -, -, -, hdirectives, -⟩ := dna_offsets
  refine ⟨⟨DnaField.primeDirectives.offset, .inr (by rw [hdirectives]; decide), ?_⟩, ?_⟩
  · have hzero : outlaw stack DnaField.primeDirectives.offset = 0 := by
      rw [outlaw, copyBytes, if_pos (by rw [hdirectives]; decide)]
    rw [hzero, watcher, botDnaInit_directives]
    decide
  · intro k _ hk
    exact if_neg fun hin => hk (.inr hin)

/-- It is accepted too. -/
theorem outlaw_verifies : botDnaVerify (.replicate _ 0) (outlaw (.replicate _ 0)) = 1 :=
  tampered_verifies (watcher_verifies (.replicate _ 0) (.replicate _ 0)) (outlaw_tampers (.replicate _ 0))

/-- Accepted records that a change of what is sealed does not make unacceptable. -/
theorem exists_tampered_accepted : ∃ (stack : Vector (BitVec 8) 64) (d d' : Bytes),
    botDnaVerify stack d = 1 ∧ TampersSeal d d' ∧ botDnaVerify stack d' ≠ 0 := by
  refine ⟨.replicate _ 0, watcher (.replicate _ 0), outlaw (.replicate _ 0), watcher_verifies _ _, outlaw_tampers _, ?_⟩
  have hsame : botDnaVerify (.replicate _ 0) (outlaw (.replicate _ 0)) = 1 := by
    rw [← watcher_verifies (.replicate _ 0) (.replicate _ 0)]
    refine verify_congr (fun k hk => if_neg fun hin => ?_) _
    exact absurd (hash_end_le_of_sealed (.inr hin)) (Nat.not_le.2 hk)
  rw [hsame]
  decide

end OperatingOrganism.Bot

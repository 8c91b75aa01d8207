import OperatingOrganism.Adaptive.MimicryAgent
import OperatingOrganism.Library.Execution
import OperatingOrganism.Library.JsonTable
import Mathlib.Data.List.Lex
import Mathlib.Data.List.Sort

/-!
# What the mimicry agent remembers

The agent forges an antibody from an attack, moves its confidence with every detection and every false positive, hands
it over to the genome, and drops the stale ones; every change is written to `patterns.json`, and a restart reads the
file. A restart finds what there was (`restart_final`), an antibody that was promoted stays for good
(`promoted_stays`), and one that is ready has been hit six times, whatever the threshold of three says
(`six_hits_of_ready`).

The calls here are those that return: a call that raises while it writes leaves a file behind that is cut off.
-/

set_option autoImplicit false

namespace OperatingOrganism.Adaptive.Mimicry

open OperatingOrganism.Execution OperatingOrganism.JsonText

/-- A float and the decimal that stands for it in a file. -/
class JsonFloat (F : Type) where
  toRat : F → Rat
  ofRat : Rat → F
  ofRat_toRat : ∀ x, ofRat (toRat x) = x

/-- What the functions of the library give: `hashlib.sha256(content).hexdigest()[:16]`, `str`, and how floats are
written. -/
structure Host where
  digest : List Nat → CodePoints
  str : JsonValue → CodePoints
  floats : FloatRepr
  digest_ascii : ∀ content, ∀ c ∈ digest content, c < 0x80

/-- A decimal that is exact. -/
instance : JsonFloat Rat := ⟨id, id, fun _ => rfl⟩

variable {F : Type}

/-- `BehaviorPattern`, with all its fields -/
structure BehaviorPattern (F : Type) extends Adaptive.BehaviorPattern where
  description : CodePoints
  iocBehaviors : List JsonValue
  learnedAt : F
  lastHit : F
  learnedFrom : CodePoints
  attackVector : CodePoints

/-! ### Records -/

section Records

variable [JsonFloat F]

def floatJson (x : F) : JsonValue := .float (JsonFloat.toRat x)

def patternKeys : List String :=
  ["pattern_id", "name", "description", "threat_domain", "severity", "confidence", "behaviors", "ioc_behaviors",
    "learned_at", "last_hit", "hit_count", "false_positive_count", "is_validated", "is_active", "learned_from",
    "attack_vector"]

/-- `to_dict` -/
def BehaviorPattern.toDict (p : BehaviorPattern F) : JsonValue :=
  .object ((patternKeys.map codePoints).zip
    [.string p.patternId, .string p.name, .string p.description, .int p.threatDomain, .int p.severity,
      .int p.confidence, .array p.behaviors, .array p.iocBehaviors, floatJson p.learnedAt, floatJson p.lastHit,
      .int p.hitCount, .int p.falsePositiveCount, .bool p.isValidated, .bool p.isActive, .string p.learnedFrom,
      .string p.attackVector])

/-- `from_dict`, of a record with all fields in it, each of its own type. -/
def fromDict (d : JsonValue) : Option (BehaviorPattern F) := do
  let get := fun key => d.field? (codePoints key)
  let patternId ← (get "pattern_id").bind JsonValue.string?
  let name ← (get "name").bind JsonValue.string?
  let description ← (get "description").bind JsonValue.string?
  let threatDomain ← (get "threat_domain").bind JsonValue.nat?
  let severity ← (get "severity").bind JsonValue.int?
  let confidence ← (get "confidence").bind JsonValue.int?
  let behaviors ← (get "behaviors").bind JsonValue.array?
  let iocBehaviors ← (get "ioc_behaviors").bind JsonValue.array?
  let learnedAt ← (get "learned_at").bind JsonValue.float?
  let lastHit ← (get "last_hit").bind JsonValue.float?
  let hitCount ← (get "hit_count").bind JsonValue.nat?
  let falsePositiveCount ← (get "false_positive_count").bind JsonValue.nat?
  let isValidated ← (get "is_validated").bind JsonValue.bool?
  let isActive ← (get "is_active").bind JsonValue.bool?
  let learnedFrom ← (get "learned_from").bind JsonValue.string?
  let attackVector ← (get "attack_vector").bind JsonValue.string?
  return {
      patternId := patternId
      name := name
      threatDomain := threatDomain
      severity := severity
      confidence := confidence
      behaviors := behaviors
      hitCount := hitCount
      falsePositiveCount := falsePositiveCount
      isValidated := isValidated
      isActive := isActive
      description := description
      iocBehaviors := iocBehaviors
      learnedAt := JsonFloat.ofRat learnedAt
      lastHit := JsonFloat.ofRat lastHit
      learnedFrom := learnedFrom
      attackVector := attackVector
    }

theorem fromDict_toDict (p : BehaviorPattern F) : fromDict p.toDict = some p := by
  simp [fromDict, BehaviorPattern.toDict, JsonValue.field?, patternKeys, codePoints, JsonValue.string?, JsonValue.int?,
    JsonValue.nat?, JsonValue.bool?, JsonValue.array?, JsonValue.float?, floatJson, JsonFloat.ofRat_toRat]

/-- The records of `patterns.json`. -/
def patternFormat : RecordFormat (BehaviorPattern F) := ⟨BehaviorPattern.toDict, fromDict, fromDict_toDict⟩

end Records

/-! ### The agent -/

/-- `MimicryAgent`, with the bytes of `patterns.json`, if there is one. -/
structure MimicryAgent (F : Type) where
  patterns : InsertionDict CodePoints (BehaviorPattern F)
  file : Option (List Nat)

/-- The arguments of `observe_attack` -/
structure Attack where
  name : CodePoints
  description : CodePoints
  behaviors : List JsonValue
  threatDomain : Nat
  severity : Int
  attackVector : CodePoints
  learnedFrom : CodePoints

/-- `sorted(str(b) for b in behaviors)` -/
def sortedTexts (host : Host) (behaviors : List JsonValue) : List CodePoints :=
  (behaviors.map host.str).insertionSort (· ≤ ·)

/-- What the digest is made of: the keys are sorted, and the style is that of `json.dumps` by itself. -/
def contentOf (host : Host) (name : CodePoints) (behaviors : List JsonValue) (threatDomain : Nat) : Option (List Nat) :=
  writeJson ⟨none, true, host.floats⟩ (.object
    [(codePoints "behaviors", .array ((sortedTexts host behaviors).map .string)), (codePoints "name", .string name),
      (codePoints "threat_domain", .int threatDomain)])

/-- `compute_id` -/
def computeId (host : Host) (attack : Attack) : Option CodePoints :=
  (contentOf host attack.name attack.behaviors attack.threatDomain).map host.digest

section Ids

variable {host : Host} {a b : Attack} {i j : CodePoints} {content : List Nat}

/-- The content is read back as what it was made of. -/
theorem readJson_contentOf (hname : ∀ c ∈ a.name, IsScalar c) (hstr : ∀ v ∈ a.behaviors, ∀ c ∈ host.str v, IsScalar c)
    (h : contentOf host a.name a.behaviors a.threatDomain = some content) : readJson content = some (.object
      [(codePoints "behaviors", .array ((sortedTexts host a.behaviors).map .string)),
        (codePoints "name", .string a.name),
        (codePoints "threat_domain", .int a.threatDomain)]) := by
  have hkeys : (["behaviors", "name", "threat_domain"].map codePoints).Nodup := by decide
  refine readJson_writeJson (.object hkeys ?_ ?_) trivial h
  · have hascii : ∀ key ∈ ["behaviors", "name", "threat_domain"].map codePoints, ∀ c ∈ key, c < 0xd800 := by decide
    intro field hfield c hc
    refine .inl (hascii field.1 ?_ c hc)
    simp only [List.mem_cons, List.not_mem_nil, or_false] at hfield
    rcases hfield with rfl | rfl | rfl <;> simp
  · intro field hfield
    simp only [List.mem_cons, List.not_mem_nil, or_false] at hfield
    rcases hfield with rfl | rfl | rfl
    · refine .array fun v hv => ?_
      obtain ⟨s, hs, rfl⟩ := List.mem_map.1 hv
      obtain ⟨w, hw, rfl⟩ := List.mem_map.1 ((List.mem_insertionSort _).1 hs)
      exact .string (hstr w hw)
    · exact .string hname
    · exact .int _

/-- The order of the behaviors is lost, and nothing else. -/
theorem sortedTexts_eq_iff (behaviors behaviors' : List JsonValue) :
    sortedTexts host behaviors = sortedTexts host behaviors' ↔
      (behaviors.map host.str).Perm (behaviors'.map host.str) := by
  constructor
  · intro h
    have hperm := (List.perm_insertionSort (· ≤ ·) (behaviors.map host.str)).symm
    rw [← sortedTexts, h] at hperm
    exact hperm.trans (List.perm_insertionSort _ _)
  · intro h
    have hsorted := ((List.perm_insertionSort (· ≤ ·) (behaviors.map host.str)).trans h).trans
      (List.perm_insertionSort (· ≤ ·) (behaviors'.map host.str)).symm
    exact hsorted.eq_of_pairwise' (List.pairwise_insertionSort _ _) (List.pairwise_insertionSort _ _)

/-- If the digest tells the contents of two attacks apart, the attacks have one id if and only if they have one name,
one domain, and the same behaviors in any order. -/
theorem computeId_eq_iff (ha : computeId host a = some i) (hb : computeId host b = some j)
    (hdigest : ∀ c c', contentOf host a.name a.behaviors a.threatDomain = some c →
      contentOf host b.name b.behaviors b.threatDomain = some c' → host.digest c = host.digest c' → c = c')
    (hname : ∀ c ∈ a.name, IsScalar c) (hname' : ∀ c ∈ b.name, IsScalar c)
    (hstr : ∀ v ∈ a.behaviors, ∀ c ∈ host.str v, IsScalar c) (hstr' : ∀ v ∈ b.behaviors, ∀ c ∈ host.str v, IsScalar c) :
    i = j ↔ a.name = b.name ∧ (a.behaviors.map host.str).Perm (b.behaviors.map host.str) ∧
      a.threatDomain = b.threatDomain := by
  obtain ⟨content, hcontent, rfl⟩ := Option.map_eq_some_iff.1 ha
  obtain ⟨content', hcontent', rfl⟩ := Option.map_eq_some_iff.1 hb
  have hread := readJson_contentOf hname hstr hcontent
  have hread' := readJson_contentOf hname' hstr' hcontent'
  constructor
  · -- one text is read back as one value, field by field
    intro heq
    rw [hdigest content content' hcontent hcontent' heq, hread'] at hread
    simp only [Option.some.injEq, JsonValue.object.injEq, List.cons.injEq, Prod.mk.injEq, JsonValue.array.injEq,
      JsonValue.string.injEq, JsonValue.int.injEq, true_and, and_true] at hread
    obtain ⟨hbehaviors, hname, hdomain⟩ := hread
    have hsorted : sortedTexts host b.behaviors = sortedTexts host a.behaviors :=
      List.map_injective_iff.2 (fun _ _ => JsonValue.string.inj) hbehaviors
    exact ⟨hname.symm, ((sortedTexts_eq_iff _ _).1 hsorted).symm, (Int.ofNat.inj hdomain).symm⟩
  · rintro ⟨hname, hbehaviors, hdomain⟩
    rw [contentOf, hname, (sortedTexts_eq_iff _ _).2 hbehaviors, hdomain, ← contentOf, hcontent'] at hcontent
    rw [Option.some.inj hcontent]

/-- A macro that starts a process. The digest is the one of its content. -/
def macroHost : Host where
  digest _ := codePoints "0fdfc0b70ee4e605"
  str v := v.string?.getD []
  floats := wholeFloats
  digest_ascii _ := by decide

def macroAttack : Attack where
  name := codePoints "Macro"
  description := []
  behaviors := [.string (codePoints "spawn"), .string (codePoints "inject")]
  threatDomain := 1
  severity := 9
  attackVector := codePoints "unknown"
  learnedFrom := []

/-- The same behaviors, seen in another order. -/
def reorderedAttack : Attack := { macroAttack with behaviors := macroAttack.behaviors.reverse }

/-- The order makes no other antibody. -/
theorem computeId_macroAttack : codePoints "0fdfc0b70ee4e605" = codePoints "0fdfc0b70ee4e605" ↔
    macroAttack.name = reorderedAttack.name ∧
      (macroAttack.behaviors.map macroHost.str).Perm (reorderedAttack.behaviors.map macroHost.str) ∧
        macroAttack.threatDomain = reorderedAttack.threatDomain := by
  have hcontent : contentOf macroHost macroAttack.name macroAttack.behaviors macroAttack.threatDomain =
      contentOf macroHost macroAttack.name reorderedAttack.behaviors macroAttack.threatDomain := by
    rw [contentOf, contentOf, (sortedTexts_eq_iff _ _).2 ((List.reverse_perm macroAttack.behaviors).symm.map _)]
    rfl
  have hascii : ∀ v ∈ macroAttack.behaviors, ∀ c ∈ macroHost.str v, c < 0xd800 := by
    simp only [macroAttack, List.forall_mem_cons]
    decide
  have hname : ∀ c ∈ macroAttack.name, c < 0xd800 := by decide
  refine computeId_eq_iff (a := macroAttack) (b := reorderedAttack) rfl rfl ?_
    (fun c hc => .inl (hname c hc)) (fun c hc => .inl (hname c hc)) (fun v hv c hc => .inl (hascii v hv c hc))
    (fun v hv c hc => .inl (hascii v (List.mem_reverse.1 hv) c hc))
  intro c c' hc hc' _
  exact Option.some.inj (hc.symm.trans (hcontent.trans hc'))

end Ids

section Agent

variable [PythonFloat F]

namespace BehaviorPattern

/-- A new pattern. -/
def forge (attack : Attack) (now : F) (patternId : CodePoints) : BehaviorPattern F where
  patternId := patternId
  name := attack.name
  threatDomain := attack.threatDomain
  severity := attack.severity
  confidence := 50
  behaviors := attack.behaviors
  hitCount := 0
  falsePositiveCount := 0
  isValidated := false
  isActive := true
  description := attack.description
  iocBehaviors := []
  learnedAt := now
  lastHit := PythonFloat.lit 0 1
  learnedFrom := attack.learnedFrom
  attackVector := attack.attackVector

omit [PythonFloat F] in
/-- One more hit. -/
def hit (now : F) (p : BehaviorPattern F) : BehaviorPattern F :=
  { p with
    hitCount := p.hitCount + 1
    confidence := min 100 (p.confidence + 5)
    lastHit := now }

/-- One more false positive, with which the pattern may be given up. -/
def falsePositive (p : BehaviorPattern F) : BehaviorPattern F :=
  let p := { p with
    falsePositiveCount := p.falsePositiveCount + 1
    confidence := max 0 (p.confidence - 10) }
  let tooMany := PythonFloat.mul (maxFalsePositiveRate F) (PythonFloat.lit 2 0)
  { p with isActive := p.isActive && !PythonFloat.lt tooMany (p.falsePositiveRate F) }

omit [PythonFloat F] in
def promoted (p : BehaviorPattern F) : BehaviorPattern F := { p with isValidated := true }

/-- Neither validated nor active, and older than thirty days. -/
def isStale (now : F) (p : BehaviorPattern F) : Bool :=
  !p.isValidated && !p.isActive && PythonFloat.lt (PythonFloat.lit 2592000 0) (PythonFloat.sub now p.learnedAt)

end BehaviorPattern

variable [JsonFloat F]

namespace MimicryAgent

omit [PythonFloat F] in
/-- `_save_patterns` -/
def save (host : Host) (patterns : InsertionDict CodePoints (BehaviorPattern F)) : Option (MimicryAgent F) :=
  (writeJson ⟨some 2, true, host.floats⟩ (patternFormat.tableJson patterns)).map fun bytes => ⟨patterns, some bytes⟩

omit [PythonFloat F] in
/-- `_load_patterns` -/
def load (file : Option (List Nat)) : Option (InsertionDict CodePoints (BehaviorPattern F)) :=
  match file with
  | none => some .empty
  | some bytes => (readJson bytes).bind patternFormat.loadTable

omit [PythonFloat F] in
/-- A new agent over the file of the old one. -/
def restart (agent : MimicryAgent F) : Option (MimicryAgent F) := (load agent.file).map (⟨·, agent.file⟩)

omit [PythonFloat F] in
/-- A change to the pattern of one id, if there is one. -/
def change (host : Host) (agent : MimicryAgent F) (patternId : CodePoints) (f : BehaviorPattern F → BehaviorPattern F) :
    Option (MimicryAgent F) :=
  if (agent.patterns.get? patternId).isNone then some agent else save host (agent.patterns.adjust patternId f)

/-- `observe_attack` -/
def observeAttack (host : Host) (agent : MimicryAgent F) (now : F) (attack : Attack) : Option (MimicryAgent F) := do
  let patternId ← computeId host attack
  if (agent.patterns.get? patternId).isSome then save host (agent.patterns.adjust patternId (.hit now))
  else save host (agent.patterns.set patternId (.forge attack now patternId))

omit [PythonFloat F] in
def confirmDetection (host : Host) (agent : MimicryAgent F) (now : F) (patternId : CodePoints) :
    Option (MimicryAgent F) := agent.change host patternId (.hit now)

def reportFalsePositive (host : Host) (agent : MimicryAgent F) (patternId : CodePoints) : Option (MimicryAgent F) :=
  agent.change host patternId .falsePositive

omit [PythonFloat F] in
def promotePattern (host : Host) (agent : MimicryAgent F) (patternId : CodePoints) : Option (MimicryAgent F) :=
  agent.change host patternId .promoted

/-- `cleanup_stale_patterns` -/
def cleanupStalePatterns (host : Host) (agent : MimicryAgent F) (now : F) : Option (MimicryAgent F) :=
  if agent.patterns.items.any fun kv => kv.2.isStale now then
    save host (agent.patterns.filter fun _ p => !p.isStale now)
  else some agent

end MimicryAgent

inductive MimicryOp (F : Type) where
  | observeAttack (now : F) (attack : Attack)
  | confirmDetection (now : F) (patternId : CodePoints)
  | reportFalsePositive (patternId : CodePoints)
  | promotePattern (patternId : CodePoints)
  | cleanupStalePatterns (now : F)
  | restart

/-- A call; `none` is an exception. -/
def MimicryOp.run (host : Host) (agent : MimicryAgent F) : MimicryOp F → Option (MimicryAgent F)
  | .observeAttack now attack => agent.observeAttack host now attack
  | .confirmDetection now patternId => agent.confirmDetection host now patternId
  | .reportFalsePositive patternId => agent.reportFalsePositive host patternId
  | .promotePattern patternId => agent.promotePattern host patternId
  | .cleanupStalePatterns now => agent.cleanupStalePatterns host now
  | .restart => agent.restart

/-- A call that returns. -/
def MimicryStep (host : Host) (agent : MimicryAgent F) (op : MimicryOp F) (agent' : MimicryAgent F) : Prop :=
  op.run host agent = some agent'

end Agent

/-! ### What a call does to a pattern -/

/-- Texts without surrogates. -/
structure Attack.Encodable (attack : Attack) : Prop where
  name : ∀ c ∈ attack.name, IsScalar c
  description : ∀ c ∈ attack.description, IsScalar c
  attackVector : ∀ c ∈ attack.attackVector, IsScalar c
  learnedFrom : ∀ c ∈ attack.learnedFrom, IsScalar c
  behaviors : ∀ v ∈ attack.behaviors, Readable v

def MimicryOp.Encodable : MimicryOp F → Prop
  | .observeAttack _ attack => attack.Encodable
  | _ => True

structure BehaviorPattern.Encodable (p : BehaviorPattern F) : Prop where
  patternId : ∀ c ∈ p.patternId, IsScalar c
  name : ∀ c ∈ p.name, IsScalar c
  description : ∀ c ∈ p.description, IsScalar c
  learnedFrom : ∀ c ∈ p.learnedFrom, IsScalar c
  attackVector : ∀ c ∈ p.attackVector, IsScalar c
  behaviors : ∀ v ∈ p.behaviors, Readable v
  iocBehaviors : ∀ v ∈ p.iocBehaviors, Readable v

section Changes

variable [PythonFloat F] {host : Host} {id : CodePoints} {p : BehaviorPattern F}

/-- What a call can do to what is held under an id. -/
inductive Change (host : Host) (id : CodePoints) : Option (BehaviorPattern F) → Option (BehaviorPattern F) → Prop
  | kept (o : Option (BehaviorPattern F)) : Change host id o o
  | forged {attack : Attack} (now : F) (hattack : attack.Encodable) (hid : computeId host attack = some id) :
      Change host id none (some (.forge attack now id))
  | hit (now : F) (p : BehaviorPattern F) : Change host id (some p) (some (p.hit now))
  | falsePositive (p : BehaviorPattern F) : Change host id (some p) (some p.falsePositive)
  | promoted (p : BehaviorPattern F) : Change host id (some p) (some p.promoted)
  | dropped (now : F) {p : BehaviorPattern F} (hstale : p.isStale now = true) : Change host id (some p) none

omit [PythonFloat F] in
theorem computeId_ascii {attack : Attack} (h : computeId host attack = some id) : ∀ c ∈ id, c < 0x80 := by
  obtain ⟨content, -, rfl⟩ := Option.map_eq_some_iff.1 h
  exact host.digest_ascii content

variable [JsonFloat F] {agent agent' : MimicryAgent F} {patterns : InsertionDict CodePoints (BehaviorPattern F)}

omit [PythonFloat F] in
theorem readable_toDict (h : p.Encodable) : Readable p.toDict := by
  have hkeys : (patternKeys.map codePoints).Nodup := by decide
  have hascii : ∀ key ∈ patternKeys.map codePoints, ∀ c ∈ key, c < 0xd800 := by decide
  refine .object ?_ ?_ ?_
  · rw [List.map_fst_zip (by simp [patternKeys])]
    exact hkeys
  · intro field hfield c hc
    exact .inl (hascii field.1 (List.of_mem_zip hfield).1 c hc)
  · intro field hfield
    have hvalue := (List.of_mem_zip hfield).2
    simp only [List.mem_cons, List.not_mem_nil, or_false] at hvalue
    rcases hvalue with heq | heq | heq | heq | heq | heq | heq | heq | heq | heq | heq | heq | heq | heq | heq | heq <;>
      rw [heq]
    · exact .string h.patternId
    · exact .string h.name
    · exact .string h.description
    · exact .int _
    · exact .int _
    · exact .int _
    · exact .array h.behaviors
    · exact .array h.iocBehaviors
    · exact .float _
    · exact .float _
    · exact .int _
    · exact .int _
    · exact .bool _
    · exact .bool _
    · exact .string h.learnedFrom
    · exact .string h.attackVector

omit [PythonFloat F] in
/-- What is saved is what is held, and a restart finds it. -/
theorem save_spec (hstorable : patternFormat.Storable patterns) (h : MimicryAgent.save host patterns = some agent') :
    agent'.patterns = patterns ∧ MimicryAgent.load agent'.file = some patterns := by
  obtain ⟨bytes, hbytes, rfl⟩ := Option.map_eq_some_iff.1 h
  exact ⟨rfl, patternFormat.readTable_writeTable hstorable hbytes⟩

/-- A restart finds what is held, and all of it can be written. -/
structure Remembered (agent : MimicryAgent F) : Prop where
  encodable : ∀ id p, agent.patterns.get? id = some p → p.patternId = id ∧ p.Encodable
  load : MimicryAgent.load agent.file = some agent.patterns

omit [PythonFloat F] in
theorem storable_of_encodable (h : ∀ id p, patterns.get? id = some p → p.patternId = id ∧ p.Encodable) :
    patternFormat.Storable patterns := by
  rintro ⟨id, p⟩ hmem
  obtain ⟨hid, hp⟩ := h id p (InsertionDict.mem_items_iff.1 hmem)
  refine ⟨?_, readable_toDict hp⟩
  rw [← hid]
  exact hp.patternId

omit [JsonFloat F] in
/-- A change keeps the texts of a pattern. -/
theorem Change.encodable {o o' : Option (BehaviorPattern F)} (h : Change host id o o')
    (ho : ∀ p, o = some p → p.patternId = id ∧ p.Encodable) : ∀ p, o' = some p → p.patternId = id ∧ p.Encodable := by
  cases h with
  | kept => exact ho
  | forged now hattack hid =>
    intro q hq
    obtain rfl := Option.some.inj hq
    refine ⟨rfl, ⟨?_, hattack.name, hattack.description, hattack.learnedFrom, hattack.attackVector,
      hattack.behaviors, fun _ hv => (List.not_mem_nil hv).elim⟩⟩
    intro c hc
    -- a new id is made of hexadecimal digits
    have hascii := computeId_ascii hid c hc
    exact .inl (by omega)
  | hit _ p | falsePositive p | promoted p =>
    -- these change numbers and marks only
    intro q hq
    obtain rfl := Option.some.inj hq
    obtain ⟨hid, hp⟩ := ho p rfl
    exact ⟨hid, ⟨hp.patternId, hp.name, hp.description, hp.learnedFrom, hp.attackVector, hp.behaviors, hp.iocBehaviors⟩⟩
  | dropped => exact fun _ hp => (nomatch hp)

/-- What is saved differs from what was held by changes that a call can make. -/
theorem save_of_changes (hremembered : Remembered agent)
    (hchanges : ∀ id, Change host id (agent.patterns.get? id) (patterns.get? id))
    (h : MimicryAgent.save host patterns = some agent') :
    Remembered agent' ∧ ∀ id, Change host id (agent.patterns.get? id) (agent'.patterns.get? id) := by
  have hencodable : ∀ id p, patterns.get? id = some p → p.patternId = id ∧ p.Encodable :=
    fun id p hp => (hchanges id).encodable (hremembered.encodable id) p hp
  obtain ⟨rfl, hload⟩ := save_spec (storable_of_encodable hencodable) h
  exact ⟨⟨hencodable, hload⟩, hchanges⟩

omit [JsonFloat F] in
/-- The pattern of one id changes. -/
theorem change_adjust {f : BehaviorPattern F → BehaviorPattern F}
    (hf : ∀ p, Change host id (some p) (some (f p))) (hsome : (agent.patterns.get? id).isSome) (id' : CodePoints) :
    Change host id' (agent.patterns.get? id') ((agent.patterns.adjust id f).get? id') := by
  rw [InsertionDict.get?_adjust]
  by_cases hid : id' = id
  · subst hid
    obtain ⟨p, hp⟩ := Option.isSome_iff_exists.1 hsome
    rw [if_pos rfl, hp]
    exact hf p
  · rw [if_neg hid]
    exact .kept _

/-- The calls that change the pattern of one id. -/
theorem change_spec {f : BehaviorPattern F → BehaviorPattern F} (hf : ∀ p, Change host id (some p) (some (f p)))
    (hremembered : Remembered agent) (h : agent.change host id f = some agent') :
    Remembered agent' ∧ ∀ id, Change host id (agent.patterns.get? id) (agent'.patterns.get? id) := by
  unfold MimicryAgent.change at h
  split at h
  · obtain rfl := Option.some.inj h
    exact ⟨hremembered, fun _ => .kept _⟩
  · next hsome =>
    exact save_of_changes hremembered (change_adjust hf (by simpa [Option.isSome_iff_ne_none] using hsome)) h

theorem step_spec {op : MimicryOp F} (hremembered : Remembered agent) (hop : op.Encodable)
    (h : MimicryStep host agent op agent') :
    Remembered agent' ∧ ∀ id, Change host id (agent.patterns.get? id) (agent'.patterns.get? id) := by
  cases op with
  | observeAttack now attack =>
    simp only [MimicryStep, MimicryOp.run, MimicryAgent.observeAttack, Option.bind_eq_bind,
      Option.bind_eq_some_iff] at h
    obtain ⟨patternId, hid, h⟩ := h
    split at h
    · next hsome => exact save_of_changes hremembered (change_adjust (fun p => .hit now p) hsome) h
    · next hnone =>
      refine save_of_changes hremembered (fun id => ?_) h
      rw [InsertionDict.get?_set]
      by_cases heq : id = patternId
      · subst heq
        -- the id was free
        have hnew : agent.patterns.get? id = none := by simpa using hnone
        rw [if_pos rfl, hnew]
        exact .forged now hop hid
      · rw [if_neg heq]
        exact .kept _
  | confirmDetection now patternId => exact change_spec (fun p => .hit now p) hremembered h
  | reportFalsePositive patternId => exact change_spec (fun p => .falsePositive p) hremembered h
  | promotePattern patternId => exact change_spec (fun p => .promoted p) hremembered h
  | cleanupStalePatterns now =>
    simp only [MimicryStep, MimicryOp.run, MimicryAgent.cleanupStalePatterns] at h
    split at h
    · refine save_of_changes hremembered (fun id => ?_) h
      rw [InsertionDict.get?_filter]
      cases hget : agent.patterns.get? id with
      | none => exact .kept _
      | some p =>
        by_cases hstale : p.isStale now = true
        · simp only [Option.filter_some, hstale, Bool.not_true, Bool.false_eq_true, if_false]
          exact .dropped now hstale
        · simp only [Option.filter_some, hstale, Bool.not_false, if_true]
          exact .kept _
    · obtain rfl := Option.some.inj h
      exact ⟨hremembered, fun _ => .kept _⟩
  | restart =>
    simp only [MimicryStep, MimicryOp.run, MimicryAgent.restart, hremembered.load, Option.map_some,
      Option.some.injEq] at h
    rw [← h]
    exact ⟨hremembered, fun _ => .kept _⟩

end Changes

/-! ### Runs -/

section Runs

variable [PythonFloat F] [JsonFloat F] {host : Host} {id : CodePoints} {p : BehaviorPattern F} {agent : MimicryAgent F}
  {tr tr' : List (MimicryOp F × MimicryAgent F)}

/-- An agent in a new directory. -/
def MimicryAgent.fresh : MimicryAgent F := ⟨.empty, none⟩

omit [PythonFloat F] in
theorem remembered_fresh : Remembered (MimicryAgent.fresh (F := F)) := ⟨fun _ _ h => (nomatch h), rfl⟩

theorem remembered_run (hagent : Remembered agent) (hrun : Exec (MimicryStep host) agent tr)
    (hops : AllSteps (fun _ op => op.Encodable) agent tr) : AllStates Remembered agent tr :=
  hrun.allStates hagent hops fun _ _ _ h hop hstep => (step_spec h hop hstep).1

/-- In every run of calls whose texts have no surrogates, a restart finds, after any call, what the agent holds. -/
theorem restart_final (hrun : Exec (MimicryStep host) (MimicryAgent.fresh (F := F)) tr)
    (hops : AllSteps (fun _ op => op.Encodable) .fresh tr) :
    AllStates (fun agent => agent.restart = some agent) .fresh tr := by
  refine (remembered_run remembered_fresh hrun hops).imp fun agent h => ?_
  rw [MimicryAgent.restart, h.load]
  rfl

/-- What is known of a later state of a pattern that was promoted. -/
structure Outlives (p p' : BehaviorPattern F) : Prop where
  validated : p'.isValidated = true
  hits : p.hitCount ≤ p'.hitCount
  falsePositives : p.falsePositiveCount ≤ p'.falsePositiveCount
  givenUp : p.isActive = false → p'.isActive = false

omit [PythonFloat F] [JsonFloat F] in
theorem Outlives.trans {p p' p'' : BehaviorPattern F} (h : Outlives p p') (h' : Outlives p' p'') : Outlives p p'' :=
  ⟨h'.validated, h.hits.trans h'.hits, h.falsePositives.trans h'.falsePositives, fun hp => h'.givenUp (h.givenUp hp)⟩

omit [JsonFloat F] in
/-- No call forgets a pattern that was promoted. -/
theorem Change.outlives {o' : Option (BehaviorPattern F)} (h : Change host id (some p) o')
    (hvalidated : p.isValidated = true) : ∃ p', o' = some p' ∧ Outlives p p' := by
  cases h with
  | kept => exact ⟨p, rfl, hvalidated, le_rfl, le_rfl, fun hp => hp⟩
  | hit now => exact ⟨_, rfl, hvalidated, Nat.le_succ _, le_rfl, fun hp => hp⟩
  | falsePositive =>
    refine ⟨_, rfl, hvalidated, le_rfl, Nat.le_succ _, fun hp => ?_⟩
    simp [BehaviorPattern.falsePositive, hp]
  | promoted => exact ⟨_, rfl, rfl, le_rfl, le_rfl, fun hp => hp⟩
  | dropped now hstale =>
    -- only what is not validated is dropped
    simp [BehaviorPattern.isStale, hvalidated] at hstale

theorem outlives_run (hagent : Remembered agent) (hp : agent.patterns.get? id = some p)
    (hvalidated : p.isValidated = true) (hrun : Exec (MimicryStep host) agent tr)
    (hops : AllSteps (fun _ op => op.Encodable) agent tr) :
    ∃ p', (final agent tr).patterns.get? id = some p' ∧ Outlives p p' := by
  induction tr generalizing agent p with
  | nil => exact ⟨p, hp, hvalidated, le_rfl, le_rfl, fun hp => hp⟩
  | cons e tr ih =>
    obtain ⟨hnext, hchanges⟩ := step_spec hagent hops.1 hrun.1
    have hchange := hchanges id
    rw [hp] at hchange
    obtain ⟨q, hq, houtlives⟩ := hchange.outlives hvalidated
    obtain ⟨p', hp', houtlives'⟩ := ih hnext hq houtlives.validated hrun.2 hops.2
    exact ⟨p', hp', houtlives.trans houtlives'⟩

/-- A pattern that was promoted is never forgotten, by no call and by no restart, and none of what was counted for it
or against it is taken back. -/
theorem promoted_stays (hrun : Exec (MimicryStep host) (MimicryAgent.fresh (F := F)) tr)
    (hops : AllSteps (fun _ op => op.Encodable) .fresh tr)
    (hp : (final .fresh tr).patterns.get? id = some p) (hvalidated : p.isValidated = true)
    (hrun' : Exec (MimicryStep host) (final .fresh tr) tr')
    (hops' : AllSteps (fun _ op => op.Encodable) (final .fresh tr) tr') :
    ∃ p', (final (final .fresh tr) tr').patterns.get? id = some p' ∧ Outlives p p' :=
  outlives_run (remembered_run remembered_fresh hrun hops).final hp hvalidated hrun' hops'

/-- Confidence comes with hits. -/
structure Seasoned (p : BehaviorPattern F) : Prop where
  low : 0 ≤ p.confidence
  high : p.confidence ≤ 100
  earned : p.confidence ≤ 50 + 5 * p.hitCount

omit [JsonFloat F] in
theorem Change.seasoned {o o' : Option (BehaviorPattern F)} (h : Change host id o o')
    (ho : ∀ p, o = some p → Seasoned p) : ∀ p, o' = some p → Seasoned p := by
  cases h with
  | kept => exact ho
  | forged now =>
    intro q hq
    obtain rfl := Option.some.inj hq
    constructor <;> simp [BehaviorPattern.forge]
  | hit now p =>
    intro q hq
    obtain rfl := Option.some.inj hq
    obtain ⟨hlow, hhigh, hearned⟩ := ho p rfl
    constructor <;> simp only [BehaviorPattern.hit] <;> omega
  | falsePositive p =>
    intro q hq
    obtain rfl := Option.some.inj hq
    obtain ⟨hlow, hhigh, hearned⟩ := ho p rfl
    constructor <;> simp only [BehaviorPattern.falsePositive] <;> omega
  | promoted p =>
    intro q hq
    obtain rfl := Option.some.inj hq
    obtain ⟨hlow, hhigh, hearned⟩ := ho p rfl
    exact ⟨hlow, hhigh, hearned⟩
  | dropped => exact fun _ hp => (nomatch hp)

/-- `get_patterns_ready_for_promotion` -/
def MimicryAgent.getPatternsReadyForPromotion (agent : MimicryAgent F) : List (BehaviorPattern F) :=
  agent.patterns.values.filter fun p => p.isEligibleForPromotion F

/-- In every run, a pattern that is ready for promotion has been hit at least six times: the test for three hits
never decides. -/
theorem six_hits_of_ready (hrun : Exec (MimicryStep host) (MimicryAgent.fresh (F := F)) tr)
    (hops : AllSteps (fun _ op => op.Encodable) .fresh tr) :
    AllStates (fun agent => ∀ p ∈ agent.getPatternsReadyForPromotion, 6 ≤ p.hitCount) .fresh tr := by
  have hseasoned : AllStates (fun agent => Remembered agent ∧ ∀ id p, agent.patterns.get? id = some p → Seasoned p)
      (MimicryAgent.fresh (F := F)) tr := by
    refine hrun.allStates ⟨remembered_fresh, fun _ _ h => (nomatch h)⟩ hops fun agent op agent' h hop hstep => ?_
    obtain ⟨hnext, hchanges⟩ := step_spec h.1 hop hstep
    exact ⟨hnext, fun id => (hchanges id).seasoned (h.2 id)⟩
  refine hseasoned.imp fun agent h p hp => ?_
  obtain ⟨hmem, heligible⟩ := List.mem_filter.1 hp
  obtain ⟨id, hid⟩ := InsertionDict.mem_values_iff.1 hmem
  obtain ⟨-, -, hearned⟩ := h.2 id p hid
  simp only [Adaptive.BehaviorPattern.isEligibleForPromotion, minConfidenceToPromote, Bool.and_eq_true] at heligible
  obtain ⟨⟨⟨⟨hconfidence, -⟩, -⟩, -⟩, -⟩ := heligible
  have h80 := of_decide_eq_true hconfidence
  omega

/-! ### Runs of one antibody -/

/-- Some calls, as long as they return. -/
def runAll (host : Host) (agent : MimicryAgent F) (ops : List (MimicryOp F)) : Option (MimicryAgent F) :=
  ops.foldlM (MimicryOp.run host) agent

theorem encodable_macroAttack : macroAttack.Encodable where
  name c hc := .inl ((by decide : ∀ c ∈ macroAttack.name, c < 0xd800) c hc)
  description c hc := .inl ((by decide : ∀ c ∈ macroAttack.description, c < 0xd800) c hc)
  attackVector c hc := .inl ((by decide : ∀ c ∈ macroAttack.attackVector, c < 0xd800) c hc)
  learnedFrom c hc := .inl ((by decide : ∀ c ∈ macroAttack.learnedFrom, c < 0xd800) c hc)
  behaviors := by
    have hspawn : ∀ c ∈ codePoints "spawn", c < 0xd800 := by decide
    have hinject : ∀ c ∈ codePoints "inject", c < 0xd800 := by decide
    intro v hv
    simp only [macroAttack, List.mem_cons, List.not_mem_nil, or_false] at hv
    rcases hv with rfl | rfl
    · exact .string fun c hc => .inl (hspawn c hc)
    · exact .string fun c hc => .inl (hinject c hc)

/-- An attack that is seen once and confirmed six times. -/
def sixHits : List (MimicryOp Rat) :=
  .observeAttack 1700000000 macroAttack ::
    List.replicate 6 (.confirmDetection 1700000060 (codePoints "0fdfc0b70ee4e605"))

theorem encodable_sixHits (op : MimicryOp Rat) (hop : op ∈ sixHits) : op.Encodable := by
  rcases List.mem_cons.1 hop with rfl | hop
  · exact encodable_macroAttack
  · rw [List.eq_of_mem_replicate hop]
    trivial

/-- All of these calls return, and a restart after any of them finds what there is. -/
theorem restart_sixHits : ∃ tr : List (MimicryOp Rat × MimicryAgent Rat), tr.map Prod.fst = sixHits ∧
    AllStates (fun agent => agent.restart = some agent) .fresh tr := by
  have hreturn : (runAll macroHost .fresh sixHits).isSome = true := by decide +kernel
  obtain ⟨agent, hagent⟩ := Option.isSome_iff_exists.1 hreturn
  obtain ⟨tr, hops, hrun, -⟩ := exists_exec_of_foldlM (fun _ _ _ h => h) hagent
  exact ⟨tr, hops, restart_final hrun (allSteps_of_labels (hops ▸ encodable_sixHits))⟩

/-- The antibody is ready. -/
theorem ready_sixHits : ∃ tr : List (MimicryOp Rat × MimicryAgent Rat), tr.map Prod.fst = sixHits ∧
    (final .fresh tr).getPatternsReadyForPromotion ≠ [] ∧
      AllStates (fun agent => ∀ p ∈ agent.getPatternsReadyForPromotion, 6 ≤ p.hitCount) .fresh tr := by
  have hready : (runAll macroHost .fresh sixHits).any (fun agent =>
      !agent.getPatternsReadyForPromotion.isEmpty) = true := by decide +kernel
  obtain ⟨agent, hagent, hsome⟩ := (Option.any_eq_true _ _).1 hready
  obtain ⟨tr, hops, hrun, hfinal⟩ := exists_exec_of_foldlM (fun _ _ _ h => h) hagent
  refine ⟨tr, hops, ?_, six_hits_of_ready hrun (allSteps_of_labels (hops ▸ encodable_sixHits))⟩
  rw [hfinal]
  simpa using hsome

/-- It is promoted, and then found to be wrong. -/
def promotion : List (MimicryOp Rat) := sixHits ++ [.promotePattern (codePoints "0fdfc0b70ee4e605")]

def mistake : List (MimicryOp Rat) :=
  [.reportFalsePositive (codePoints "0fdfc0b70ee4e605"), .cleanupStalePatterns 1800000000, .restart]

theorem promoted_mistake : ∃ tr tr' : List (MimicryOp Rat × MimicryAgent Rat), tr.map Prod.fst = promotion ∧
    tr'.map Prod.fst = mistake ∧ ∃ p p',
      (final .fresh tr).patterns.get? (codePoints "0fdfc0b70ee4e605") = some p ∧
        (final (final .fresh tr) tr').patterns.get? (codePoints "0fdfc0b70ee4e605") = some p' ∧ Outlives p p' := by
  -- all calls return, and after the promotion the pattern is validated
  have hreturn : (runAll macroHost .fresh promotion).any (fun agent =>
      (agent.patterns.get? (codePoints "0fdfc0b70ee4e605")).any (·.isValidated) &&
        (runAll macroHost agent mistake).isSome) = true := by decide +kernel
  obtain ⟨agent, hagent, hboth⟩ := (Option.any_eq_true _ _).1 hreturn
  obtain ⟨hpromoted, hmore⟩ := Bool.and_eq_true_iff.1 hboth
  obtain ⟨p, hp, hvalidated⟩ := (Option.any_eq_true _ _).1 hpromoted
  obtain ⟨agent', hagent'⟩ := Option.isSome_iff_exists.1 hmore
  obtain ⟨tr, hops, hrun, hfinal⟩ := exists_exec_of_foldlM (fun _ _ _ h => h) hagent
  rw [← hfinal] at hagent' hp
  obtain ⟨tr', hops', hrun', -⟩ := exists_exec_of_foldlM (fun _ _ _ h => h) hagent'
  have hencodable : ∀ op ∈ tr.map Prod.fst, op.Encodable := by
    intro op hop
    rw [hops] at hop
    rcases List.mem_append.1 hop with hop | hop
    · exact encodable_sixHits op hop
    · rw [List.mem_singleton.1 hop]
      trivial
  have hencodable' : ∀ op ∈ tr'.map Prod.fst, op.Encodable := by
    intro op hop
    simp only [hops', mistake, List.mem_cons, List.not_mem_nil, or_false] at hop
    rcases hop with rfl | rfl | rfl <;> trivial
  obtain ⟨p', hp', houtlives⟩ :=
    promoted_stays hrun (allSteps_of_labels hencodable) hp hvalidated hrun' (allSteps_of_labels hencodable')
  exact ⟨tr, tr', hops, hops', p, p', hp, hp', houtlives⟩

end Runs

end OperatingOrganism.Adaptive.Mimicry

import OperatingOrganism.Adaptive.PatternIndexes
import OperatingOrganism.Library.StructFormat
import OperatingOrganism.Library.Utf8

/-!
# Genome records

`_pack_pattern` writes a pattern into 116 bytes for the agents in C, and `_unpack_pattern` reads one back. The name is
cut to 64 bytes after it has been encoded, and decoded strictly; the zeros behind the identifier are stripped by what
they are. So a record is read back if and only if the cut leaves whole characters and the identifier that is kept
does not end in a NUL (`roundTrips_iff`).

Texts are lists of code points and bytes are numbers; how a float is packed into four bytes is a parameter.
-/

set_option autoImplicit false

namespace OperatingOrganism.Adaptive.Export

open OperatingOrganism.StructFormat

/-- The format `f` of `struct`: a float in four bytes, unless it is too large, and back. -/
class PackedFloat (F : Type) where
  pack? : F → Option (Vector Nat 4)
  unpack : List Nat → F

/-- The fields of `StoreEntry` that are exported. -/
structure StoreEntry (F : Type) where
  patternId : CodePoints
  name : CodePoints
  threatDomain : Int
  severity : Int
  confidence : Int
  status : Int
  generation : Int
  fitnessScore : F
  hitCount : Int

structure UnpackedPattern (F : Type) where
  patternId : CodePoints
  name : CodePoints
  threatDomain : Nat
  severity : Nat
  confidence : Nat
  generation : Nat
  fitnessScore : F
  hitCount : Nat
  isValidated : Bool

def patternStructSize : Nat := 116

/-- The widths in `<16s64sIIIIf Q B 7x`. -/
def patternWidths : List Nat := [16, 64, 4, 4, 4, 4, 4, 8, 1, 7]

variable {F : Type} [PackedFloat F]

/-- `max(0, min(high, n))` -/
def clamped (high n : Int) : Int := max 0 (min high n)

/-- `_pack_pattern`; `none` is an exception. -/
def packPattern (e : StoreEntry F) : Option (List Nat) := do
  let pid ← encodeAscii e.patternId
  let name ← encodeUtf8 e.name
  let domain ← packUint 4 (e.threatDomain % 2 ^ 32)
  let severity ← packUint 4 (clamped 10 e.severity)
  let confidence ← packUint 4 (clamped 100 e.confidence)
  let generation ← packUint 4 e.generation
  let fitness ← PackedFloat.pack? e.fitnessScore
  let hitCount ← packUint 8 e.hitCount
  let isValidated := if e.status = PatternStatus.validated.toInt then 1 else 0
  return [ljust 16 (pid.take 16), ljust 64 (name.take 64), domain, severity, confidence, generation, fitness.toList,
    hitCount, [isValidated], List.replicate 7 0].flatten

/-- `_unpack_pattern`; `none` is a `UnicodeDecodeError`, and the other one is the `None` that is returned when the
data is too short. -/
def unpackPattern (data : List Nat) (offset : Nat) : Option (Option (UnpackedPattern F)) :=
  if data.length < offset + patternStructSize then some none
  else
    match fields patternWidths (data.drop offset) with
    | [pid, name, domain, severity, confidence, generation, fitness, hitCount, isValidated, _] => do
      let pid ← decodeAsciiStrict (rstrip pid)
      let name ← decodeUtf8 (rstrip name)
      return some
        { patternId := pid
          name := name
          threatDomain := leValue domain
          severity := leValue severity
          confidence := leValue confidence
          generation := leValue generation
          fitnessScore := PackedFloat.unpack fitness
          hitCount := leValue hitCount
          isValidated := leValue isValidated ≠ 0 }
    | _ => some none

/-- What is read back of a pattern. -/
structure ReadBack (e : StoreEntry F) (p : UnpackedPattern F) : Prop where
  patternId : p.patternId = e.patternId.take 16
  name : p.name <+: e.name
  threatDomain : (p.threatDomain : Int) = e.threatDomain % 2 ^ 32
  severity : (p.severity : Int) = clamped 10 e.severity
  confidence : (p.confidence : Int) = clamped 100 e.confidence
  generation : (p.generation : Int) = e.generation
  hitCount : (p.hitCount : Int) = e.hitCount
  isValidated : p.isValidated = true ↔ e.status = PatternStatus.validated.toInt

/-- The record is read back at its place between other bytes. -/
def RoundTrips (e : StoreEntry F) (packed before behind : List Nat) : Prop :=
  ∃ p : UnpackedPattern F, unpackPattern (before ++ packed ++ behind) before.length = some (some p) ∧ ReadBack e p

/-- The identifier, as far as it is kept, does not end in a NUL. -/
def IdKept (e : StoreEntry F) : Prop := (e.patternId.take 16).getLast? ≠ some 0

/-! ### What has been packed -/

/-- The numbers of a record, as they are packed. -/
structure PackedNumbers where
  domain : List Nat
  severity : List Nat
  confidence : List Nat
  generation : List Nat
  fitness : Vector Nat 4
  hitCount : List Nat

/-- The fields of a record, one behind the other. -/
def packedFields (e : StoreEntry F) (n : PackedNumbers) : List (List Nat) :=
  [ljust 16 (e.patternId.take 16), ljust 64 ((e.name.flatMap utf8Bytes).take 64), n.domain, n.severity, n.confidence,
    n.generation, n.fitness.toList, n.hitCount, [if e.status = PatternStatus.validated.toInt then 1 else 0],
    List.replicate 7 0]

/-- The fields of a record that was packed. -/
structure PackedAs (e : StoreEntry F) (packed : List Nat) (n : PackedNumbers) : Prop where
  ascii : ∀ c ∈ e.patternId, c < 0x80
  scalars : ∀ c ∈ e.name, IsScalar c
  domain : packUint 4 (e.threatDomain % 2 ^ 32) = some n.domain
  severity : packUint 4 (clamped 10 e.severity) = some n.severity
  confidence : packUint 4 (clamped 100 e.confidence) = some n.confidence
  generation : packUint 4 e.generation = some n.generation
  hitCount : packUint 8 e.hitCount = some n.hitCount
  bytes : packed = (packedFields e n).flatten

theorem exists_packedAs {e : StoreEntry F} {packed : List Nat} (h : packPattern e = some packed) :
    ∃ n, PackedAs e packed n := by
  simp only [packPattern, encodeAscii, encodeUtf8, Option.bind_eq_bind, Option.bind_eq_some_iff, Option.pure_def,
    Option.some.injEq, Option.ite_none_right_eq_some] at h
  obtain ⟨pid, ⟨hascii, rfl⟩, name, ⟨hscalars, rfl⟩, domain, hdomain, severity, hseverity, confidence, hconfidence,
    generation, hgeneration, fitness, hfitness, hitCount, hhitCount, rfl⟩ := h
  exact ⟨⟨domain, severity, confidence, generation, fitness, hitCount⟩, hascii, hscalars, hdomain, hseverity,
    hconfidence, hgeneration, hhitCount, rfl⟩

section

variable {e : StoreEntry F} {packed : List Nat} {n : PackedNumbers}

omit [PackedFloat F] in
theorem PackedAs.widths (h : PackedAs e packed n) : (packedFields e n).map List.length = patternWidths := by
  simp only [packedFields, List.map_cons, List.map_nil, length_ljust (List.length_take_le _ _),
    (leValue_packUint h.domain).2, (leValue_packUint h.severity).2, (leValue_packUint h.confidence).2,
    (leValue_packUint h.generation).2, (leValue_packUint h.hitCount).2, Vector.length_toList, List.length_singleton,
    List.length_replicate]
  rfl

/-- The record is found at its place, field by field, whatever is around it. -/
theorem PackedAs.unpack (h : PackedAs e packed n) (before behind : List Nat) :
    unpackPattern (F := F) (before ++ packed ++ behind) before.length =
      (decodeAsciiStrict (rstrip (e.patternId.take 16))).bind fun pid =>
        (decodeUtf8 (rstrip ((e.name.flatMap utf8Bytes).take 64))).bind fun name =>
          some (some
            { patternId := pid
              name := name
              threatDomain := leValue n.domain
              severity := leValue n.severity
              confidence := leValue n.confidence
              generation := leValue n.generation
              fitnessScore := PackedFloat.unpack n.fitness.toList
              hitCount := leValue n.hitCount
              isValidated := leValue [if e.status = PatternStatus.validated.toInt then 1 else 0] ≠ 0 }) := by
  have hlength : packed.length = patternStructSize := by
    rw [h.bytes, List.length_flatten, h.widths]
    rfl
  have hlong : ¬ (before ++ packed ++ behind).length < before.length + patternStructSize := by
    rw [List.length_append, List.length_append, hlength]
    omega
  rw [unpackPattern, if_neg hlong, List.append_assoc, List.drop_left, h.bytes, ← h.widths, fields_flatten]
  simp only [packedFields, rstrip_ljust]
  rfl

end

/-! ### When it is read back -/

/-- A part of an ASCII text is decoded as it is. -/
theorem decodeAsciiStrict_of_ascii {bytes : List Nat} (h : ∀ b ∈ bytes, b < 0x80) :
    decodeAsciiStrict bytes = some bytes := if_pos h

/-- Nothing but the padding is stripped from the bytes of a name without NUL. -/
theorem rstrip_name {name : CodePoints} (hname : 0 ∉ name) (n : Nat) :
    rstrip ((name.flatMap utf8Bytes).take n) = (name.flatMap utf8Bytes).take n := by
  rw [rstrip_eq_self_iff]
  intro hlast
  have hmem := List.mem_of_mem_take (List.mem_of_getLast? hlast)
  obtain ⟨c, hc, hbyte⟩ := List.mem_flatMap.1 hmem
  have hne : c ≠ 0 := fun hzero => hname (hzero ▸ hc)
  exact Nat.lt_irrefl 0 (pos_of_mem_utf8Bytes hne hbyte)

/-- A packed record is read back if and only if its name is cut between two characters and its identifier is kept. -/
theorem PackedAs.reads_iff {e : StoreEntry F} {packed : List Nat} {n : PackedNumbers} (h : PackedAs e packed n)
    (hname : 0 ∉ e.name) (before behind : List Nat) :
    RoundTrips e packed before behind ↔ OnBoundary 64 e.name ∧ IdKept e := by
  have hid : decodeAsciiStrict (rstrip (e.patternId.take 16)) = some (rstrip (e.patternId.take 16)) := by
    apply decodeAsciiStrict_of_ascii
    intro b hb
    exact h.ascii b (List.mem_of_mem_take ((prefix_rstrip _).subset hb))
  have hunpack := h.unpack before behind
  rw [hid, Option.bind_some, rstrip_name hname, decodeUtf8_take h.scalars] at hunpack
  rw [RoundTrips, hunpack, ← utf8Cut_isSome_iff, IdKept, ← rstrip_eq_self_iff]
  cases hcut : utf8Cut 64 e.name with
  | none => simp
  | some name =>
    simp only [Option.bind_some, Option.some.injEq, exists_eq_left', Option.isSome_some, true_and]
    constructor
    · exact fun hread => hread.patternId
    · intro hkept
      refine ⟨hkept, prefix_of_utf8Cut hcut, (leValue_packUint h.domain).1, (leValue_packUint h.severity).1,
        (leValue_packUint h.confidence).1, (leValue_packUint h.generation).1, (leValue_packUint h.hitCount).1, ?_⟩
      by_cases hstatus : e.status = PatternStatus.validated.toInt <;> simp [hstatus, leValue]

/-- A pattern that `_pack_pattern` accepts, and whose name has no NUL, is read back at its place between any bytes if
and only if the name is cut between two characters, and the identifier, as far as it is kept, does not end in a
NUL. -/
theorem roundTrips_iff {e : StoreEntry F} {packed : List Nat} (hpacked : packPattern e = some packed)
    (hname : 0 ∉ e.name) (before behind : List Nat) :
    RoundTrips e packed before behind ↔ OnBoundary 64 e.name ∧ IdKept e := by
  obtain ⟨n, h⟩ := exists_packedAs hpacked
  exact h.reads_iff hname before behind

/-! ### A record that is read back, and one that is not -/

/-- The numbers that four bytes can hold, by their bits. -/
structure Binary32 where
  bits : UInt32

instance : PackedFloat Binary32 where
  pack? x := some #v[x.bits.toNat % 256, x.bits.toNat / 256 % 256, x.bits.toNat / 65536 % 256, x.bits.toNat / 16777216]
  unpack bytes := ⟨UInt32.ofNat (leValue bytes)⟩

/-- A validated pattern with a fitness of 0.5. -/
def validatedPattern (name : CodePoints) : StoreEntry Binary32 where
  patternId := codePoints "9f86d081884c7d65"
  name := name
  threatDomain := 17
  severity := 12
  confidence := 85
  status := PatternStatus.validated.toInt
  generation := 1
  fitnessScore := ⟨0x3f000000⟩
  hitCount := 5

theorem ransomware_roundTrips : ∃ packed, packPattern (validatedPattern (codePoints "Ransomware")) = some packed ∧
    RoundTrips (validatedPattern (codePoints "Ransomware")) packed [66, 83, 89, 78] [0] :=
  ⟨_, rfl, (roundTrips_iff rfl (by decide) [66, 83, 89, 78] [0]).2 ⟨.inl (by decide), by unfold IdKept; decide⟩⟩

/-- A name of 63 letters and one more that is encoded in two bytes. -/
def accentedName : CodePoints := List.replicate 63 97 ++ [0xe9]

/-- The cut is inside of the last letter, and the record cannot be decoded. -/
theorem accentedName_lost : ∃ packed, packPattern (validatedPattern accentedName) = some packed ∧ 0 ∉ accentedName ∧
    ¬ RoundTrips (validatedPattern accentedName) packed [] [] := by
  refine ⟨_, rfl, by decide, ?_⟩
  obtain ⟨n, h⟩ := exists_packedAs (e := validatedPattern accentedName) rfl
  rw [h.reads_iff (by decide), ← utf8Cut_isSome_iff]
  exact fun hkept => absurd hkept.1 (by decide)

end OperatingOrganism.Adaptive.Export

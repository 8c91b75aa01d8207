import OperatingOrganism.Adaptive.GenomeSync
import OperatingOrganism.Library.Crc

/-!
# The file for the agents in C

`_write_binary` puts a header of 24 bytes before the records of the patterns: a magic word, the version, the time, the
number of records and the CRC-32 of all of them. Every record is found at its place (`syncFile_reads`), and no
burst of errors of up to 32 bits in the records leaves the check as it was (`burst_detected`).
-/

set_option autoImplicit false

namespace OperatingOrganism.Adaptive.Export

open OperatingOrganism.StructFormat OperatingOrganism.Crc

def syncMagic : List Nat := codePoints "BSYN"

def syncVersion : Nat := 1

def syncHeaderSize : Nat := 24

/-- The widths in `<4sI d I I`. -/
def headerWidths : List Nat := [4, 4, 8, 4, 4]

variable {F : Type} [PackedFloat F]

/-- The records, one behind the other; `none` is an exception. -/
def packAll : List (StoreEntry F) → Option (List Nat)
  | [] => some []
  | e :: patterns => do
    let packed ← packPattern e
    let rest ← packAll patterns
    return packed ++ rest

/-- The fields of the header. -/
def headerParts (now : Vector Nat 8) (count payload : List Nat) : List (List Nat) :=
  [syncMagic, leBytes 4 syncVersion, now.toList, count, leBytes 4 (crc32 payload).toNat]

/-- `_write_binary`: the bytes of the file, when the time is packed into `now`. -/
def writeBinary (now : Vector Nat 8) (patterns : List (StoreEntry F)) : Option (List Nat) := do
  let payload ← packAll patterns
  let count ← packUint 4 patterns.length
  return (headerParts now count payload).flatten ++ payload

/-- A field of the header. -/
def headerField (file : List Nat) (i : Nat) : List Nat := (fields headerWidths file).getD i []

/-- The check agrees with the records behind the header. -/
def Intact (file : List Nat) : Prop := leValue (headerField file 4) = (crc32 (file.drop syncHeaderSize)).toNat

section Files

variable {now : Vector Nat 8} {patterns before behind : List (StoreEntry F)} {e : StoreEntry F}
  {payload packed file : List Nat}

theorem length_packed (h : packPattern e = some packed) : packed.length = patternStructSize := by
  obtain ⟨n, hpacked⟩ := exists_packedAs h
  rw [hpacked.bytes, List.length_flatten, hpacked.widths]
  rfl

theorem length_packAll (h : packAll patterns = some payload) :
    payload.length = patternStructSize * patterns.length := by
  induction patterns generalizing payload with
  | nil =>
    rw [← Option.some.inj h]
    rfl
  | cons e patterns ih =>
    simp only [packAll, Option.bind_eq_bind, Option.bind_eq_some_iff, Option.pure_def, Option.some.injEq] at h
    obtain ⟨packed, hpacked, rest, hrest, rfl⟩ := h
    rw [List.length_append, length_packed hpacked, ih hrest, List.length_cons, Nat.mul_succ, Nat.add_comm]

/-- The record of a pattern is as far behind as there are patterns before. -/
theorem exists_packed (h : packAll (before ++ e :: behind) = some payload) :
    ∃ front packed back, payload = front ++ packed ++ back ∧ packPattern e = some packed ∧
      front.length = patternStructSize * before.length := by
  induction before generalizing payload with
  | nil =>
    simp only [List.nil_append, packAll, Option.bind_eq_bind, Option.bind_eq_some_iff, Option.pure_def,
      Option.some.injEq] at h
    obtain ⟨packed, hpacked, rest, -, rfl⟩ := h
    exact ⟨[], packed, rest, rfl, hpacked, rfl⟩
  | cons f before ih =>
    simp only [List.cons_append, packAll, Option.bind_eq_bind, Option.bind_eq_some_iff, Option.pure_def,
      Option.some.injEq] at h
    obtain ⟨first, hfirst, rest, hrest, rfl⟩ := h
    obtain ⟨front, packed, back, rfl, hpacked, hlength⟩ := ih hrest
    refine ⟨first ++ front, packed, back, by simp only [List.append_assoc], hpacked, ?_⟩
    rw [List.length_append, length_packed hfirst, hlength, List.length_cons, Nat.mul_succ, Nat.add_comm]

/-- A file is a header and the records. -/
theorem writeBinary_spec (h : writeBinary now patterns = some file) : ∃ count payload,
    file = (headerParts now count payload).flatten ++ payload ∧ packAll patterns = some payload ∧
      packUint 4 patterns.length = some count := by
  simp only [writeBinary, Option.bind_eq_bind, Option.bind_eq_some_iff, Option.pure_def, Option.some.injEq] at h
  obtain ⟨payload, hpayload, count, hcount, rfl⟩ := h
  exact ⟨count, payload, rfl, hpayload, hcount⟩

/-! ### Reading -/

variable {count : List Nat} {n : Int}

omit [PackedFloat F] in
theorem headerParts_widths (hcount : packUint 4 n = some count) (payload : List Nat) :
    (headerParts now count payload).map List.length = headerWidths := by
  simp only [headerParts, List.map_cons, List.map_nil, length_leBytes, Vector.length_toList,
    (leValue_packUint hcount).2]
  rfl

theorem length_header (hcount : packUint 4 n = some count) (payload : List Nat) :
    (headerParts now count payload).flatten.length = syncHeaderSize := by
  rw [List.length_flatten, headerParts_widths hcount]
  rfl

theorem headerField_eq (hcount : packUint 4 n = some count) (payload rest : List Nat) (i : Nat) :
    headerField ((headerParts now count payload).flatten ++ rest) i = (headerParts now count payload).getD i [] := by
  rw [headerField, ← headerParts_widths hcount payload, fields_flatten]

/-- The check is the one of the records that were written. -/
theorem intact_iff (hcount : packUint 4 n = some count) (payload rest : List Nat) :
    Intact ((headerParts now count payload).flatten ++ rest) ↔ crc32 payload = crc32 rest := by
  have hcheck : (headerParts now count payload).getD 4 [] = leBytes 4 (crc32 payload).toNat := rfl
  have hfits : (crc32 payload).toNat % 256 ^ 4 = (crc32 payload).toNat := Nat.mod_eq_of_lt (crc32 payload).isLt
  rw [Intact, headerField_eq hcount, hcheck, leValue_leBytes, hfits, ← length_header hcount payload, List.drop_left,
    BitVec.toNat_inj]

/-- What a reader finds in a file that was written: as many records as the header says and no more, with their
check, and at its place each pattern whose name has no NUL, if nothing of it was cut. -/
theorem syncFile_reads (h : writeBinary now patterns = some file) :
    leValue (headerField file 3) = patterns.length ∧ Intact file ∧
      unpackPattern (F := F) file (syncHeaderSize + patternStructSize * patterns.length) = some none ∧
      ∀ before e behind, patterns = before ++ e :: behind → 0 ∉ e.name →
        ((∃ p : UnpackedPattern F,
            unpackPattern file (syncHeaderSize + patternStructSize * before.length) = some (some p) ∧ ReadBack e p) ↔
          OnBoundary 64 e.name ∧ IdKept e) := by
  obtain ⟨count, payload, rfl, hpayload, hcount⟩ := writeBinary_spec h
  refine ⟨?_, (intact_iff hcount payload payload).2 rfl, ?_, ?_⟩
  · rw [headerField_eq hcount]
    exact Int.ofNat.inj (leValue_packUint hcount).1
  · -- behind the last record, the file is too short for one more
    have hend : ((headerParts now count payload).flatten ++ payload).length =
        syncHeaderSize + patternStructSize * patterns.length := by
      rw [List.length_append, length_header hcount, length_packAll hpayload]
    rw [unpackPattern, if_pos]
    rw [hend]
    exact Nat.lt_add_of_pos_right (by decide)
  · rintro before e behind rfl hname
    -- the record lies behind the header and the records before it
    obtain ⟨front, packed, back, hsplit, hpacked, hfront⟩ := exists_packed hpayload
    obtain ⟨n, hrecord⟩ := exists_packedAs hpacked
    have hreads := hrecord.reads_iff hname ((headerParts now count payload).flatten ++ front) back
    rw [RoundTrips, List.length_append, length_header hcount, hfront, List.append_assoc, List.append_assoc,
      ← List.append_assoc front, ← hsplit] at hreads
    exact hreads

/-- A file of which one burst of up to 32 bits in the records has changed does not pass the check. -/
theorem burst_detected (h : writeBinary now patterns = some file) {file' : List Nat}
    {front burst burst' back : List Bool}
    (hheader : file'.take syncHeaderSize = file.take syncHeaderSize)
    (hbits : bitsOf (file.drop syncHeaderSize) = front ++ burst ++ back)
    (hbits' : bitsOf (file'.drop syncHeaderSize) = front ++ burst' ++ back) (hlength : burst.length = burst'.length)
    (hfits : burst.length ≤ 32) (hne : burst ≠ burst') : ¬ Intact file' := by
  obtain ⟨count, payload, rfl, hpayload, hcount⟩ := writeBinary_spec h
  have hfile : file' = (headerParts now count payload).flatten ++ file'.drop syncHeaderSize := by
    have hsplit := List.take_append_drop syncHeaderSize file'
    rw [hheader, ← @length_header now count _ hcount payload, List.take_left, length_header hcount] at hsplit
    exact hsplit.symm
  rw [← @length_header now count _ hcount payload, List.drop_left] at hbits
  rw [hfile, intact_iff hcount]
  exact crc32_ne_of_burst hbits hbits' hlength hfits hne

end Files

/-! ### Two patterns -/

/-- Two patterns, and the time of their file. -/
def twoPatterns : List (StoreEntry Binary32) :=
  [validatedPattern (codePoints "Ransomware-v2"), validatedPattern (codePoints "APT-LateralMove")]

def syncTime : Vector Nat 8 := #v[0, 0, 0, 0x20, 0x7b, 0x4f, 0xda, 0x41]

theorem twoPatterns_reads : ∃ file, writeBinary syncTime twoPatterns = some file ∧
    leValue (headerField file 3) = 2 ∧ Intact file ∧
    unpackPattern (F := Binary32) file (syncHeaderSize + patternStructSize * 2) = some none ∧
    ((∃ p : UnpackedPattern Binary32,
        unpackPattern file (syncHeaderSize + patternStructSize * 1) = some (some p) ∧
          ReadBack (validatedPattern (codePoints "APT-LateralMove")) p) ↔
      OnBoundary 64 (codePoints "APT-LateralMove") ∧ IdKept (validatedPattern (codePoints "APT-LateralMove"))) := by
  obtain ⟨file, hfile⟩ := Option.isSome_iff_exists.1
    (by decide +kernel : (writeBinary syncTime twoPatterns).isSome = true)
  obtain ⟨hcount, hintact, hend, hreads⟩ := syncFile_reads hfile
  exact ⟨file, hfile, hcount, hintact, hend,
    hreads [validatedPattern (codePoints "Ransomware-v2")] _ [] rfl (by decide)⟩

/-- One wrong character in the first identifier is found out. -/
theorem wrongId_detected : ∃ file rest, writeBinary syncTime twoPatterns = some file ∧
    file.drop syncHeaderSize = '9'.toNat :: rest ∧
    ¬ Intact (file.take syncHeaderSize ++ '8'.toNat :: rest) := by
  obtain ⟨file, hfile, hhead⟩ := (Option.any_eq_true _ _).1
    (by decide +kernel : (writeBinary syncTime twoPatterns).any
      (fun file => syncHeaderSize ≤ file.length && (file.drop syncHeaderSize).head? == some '9'.toNat) = true)
  rw [Bool.and_eq_true, decide_eq_true_eq, beq_iff_eq, List.head?_eq_some_iff] at hhead
  obtain ⟨hlength, rest, hrest⟩ := hhead
  have htake : (file.take syncHeaderSize ++ '8'.toNat :: rest).take syncHeaderSize = file.take syncHeaderSize := by
    simp [hlength]
  have hdrop : (file.take syncHeaderSize ++ '8'.toNat :: rest).drop syncHeaderSize = '8'.toNat :: rest := by
    simp [hlength]
  have hbits : bitsOf (file.drop syncHeaderSize) = [] ++ byteBits '9'.toNat ++ bitsOf rest := by
    rw [hrest]
    rfl
  have hbits' : bitsOf ((file.take syncHeaderSize ++ '8'.toNat :: rest).drop syncHeaderSize) =
      [] ++ byteBits '8'.toNat ++ bitsOf rest := by
    rw [hdrop]
    rfl
  exact ⟨file, rest, hfile, hrest, burst_detected hfile htake hbits hbits' rfl (by decide) (by decide)⟩

end OperatingOrganism.Adaptive.Export

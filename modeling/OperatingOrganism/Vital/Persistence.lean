import OperatingOrganism.Vital.AncestralMemory
import OperatingOrganism.Vital.SynapseNetwork

/-!
# Soma-DNA

`vital_persistence.c` packs the spark, the links and the epigenetic memory into one record, in a file, and
`vital_init` unpacks it at the end of a boot. The spark and the links come back (`vitalInit_somaDna`). The
part of the record for the epigenetic memory is smaller than the memory, so that its bytes are neither
exported nor imported. The record has a checksum that nobody computes: the loader checks the magic word only.

The storage layer is a parameter. The buffer of the record is a local variable: what is not written is what
the stack holds.
-/

set_option autoImplicit false

namespace OperatingOrganism.Vital

open OperatingOrganism.ByteLayout

/-- `oo_vital_spark_t`; `current_force` is an enumeration. -/
structure VitalSpark where
  currentForce : BitVec 32
  tension : BitVec 8
  pulseCount : BitVec 64
  jitter : BitVec 64
  birthTimestamp : BitVec 64
  ageCycles : BitVec 8
  deriving DecidableEq

/-- `FORCE_YANG` -/
def forceYang : BitVec 32 := 0

/-- `FORCE_YIN` -/
def forceYin : BitVec 32 := 1

/-- The static variables of `life_loop.c`, `synapse_network.c` and `epigenetics.c` that are saved. -/
structure VitalState where
  spark : VitalSpark
  synapses : SynapseNetwork
  memory : EpigeneticMemory

/-- When the process starts. -/
def VitalState.zero : VitalState := ⟨⟨0, 0, 0, 0, 0, 0⟩, .zero, .zero⟩

/-! ## The record -/

def vitalSparkFields : List CType := [.int 4, .int 1, .int 8, .int 8, .int 8, .int 1]

def vitalSparkType : CType := .struct vitalSparkFields

/-- The spark as bytes; the padding is zero. -/
def VitalSpark.bytes (spark : VitalSpark) : Bytes :=
  let field := offsetOf vitalSparkFields
  putLE (field 0) spark.currentForce <| putLE (field 1) spark.tension <| putLE (field 2) spark.pulseCount <|
    putLE (field 3) spark.jitter <| putLE (field 4) spark.birthTimestamp <|
    putLE (field 5) spark.ageCycles fun _ => 0

/-- The spark at a place. -/
def VitalSpark.ofBytes (loc : Nat) (b : Bytes) : VitalSpark :=
  let field := offsetOf vitalSparkFields
  { currentForce := getLE 32 (loc + field 0) b
    tension := getLE 8 (loc + field 1) b
    pulseCount := getLE 64 (loc + field 2) b
    jitter := getLE 64 (loc + field 3) b
    birthTimestamp := getLE 64 (loc + field 4) b
    ageCycles := getLE 8 (loc + field 5) b }

/-- `DNA_MAGIC` -/
def dnaMagic : BitVec 32 := 0x414E444F

/-- `DNA_FILE` -/
def dnaFile : String := "OO_DNA.BIN"

/-- The fields of `SomaDNA`: magic, version, spark, synapse size and data, epigenetic data, Forth data and
size, checksum. -/
def somaDnaFields : List CType :=
  [.int 4, .int 4, vitalSparkType, .int 4, .array (.int 1) 1024, .array (.int 1) 512, .array (.int 1) 1024,
    .int 4, .int 4]

def somaDnaType : CType := .struct somaDnaFields

def dnaField (i : Nat) : Nat := offsetOf somaDnaFields i

/-! ## Saving and loading -/

/-- What the files use of `oo_storage`. A read gives its return code, and what it puts at the beginning of
the buffer; a write gives its return code. -/
structure OoStorage (D : Type) where
  fileExists : D → String → Bool
  readAll : D → String → (size : Nat) → Int × List (BitVec 8)
  writeAll : D → String → List (BitVec 8) → Int × D

/-- The device holds files: a read returns the number of bytes read, and reads what was written. -/
structure OoStorage.StoresFiles {D : Type} (oo : OoStorage D)
    (files : D → String → Option (List (BitVec 8))) : Prop where
  fileExists : ∀ device name, oo.fileExists device name = (files device name).isSome
  readAll : ∀ device name content size, files device name = some content →
    oo.readAll device name size = (((content.take size).length : Int), content.take size)
  writeAll : ∀ device name content, (oo.writeAll device name content).1 = 0 →
    files (oo.writeAll device name content).2 name = some content

/-- The record that `vital_persistence_save` builds, and the state after that. -/
def somaDna (stack : Bytes) (s : VitalState) : Bytes × VitalState :=
  let dna := putLE (dnaField 0) dnaMagic stack
  let dna := putLE (dnaField 1) 1#32 dna
  let dna := copyBytes (dnaField 2) vitalSparkType.size s.spark.bytes dna
  let (size, links) := synapseExportLinks 1024 s.synapses
  let dna := copyBytes (dnaField 4) size.toNat links dna
  let dna := putLE (dnaField 3) (BitVec.ofInt 32 size) dna
  let (epigenetic, memory) := vitalEpigeneticExport false 512 s.memory
  let dna :=
    match epigenetic with
    | some bytes => copyBytes (dnaField 5) epigeneticMemoryType.size bytes dna
    | none => dna
  (dna, { s with memory := memory })

section

variable {D : Type} (oo : OoStorage D)

/-- `vital_persistence_save`; `storage` is `none` for the null pointer. -/
def vitalPersistenceSave (stack : Bytes) (storage : Option D) (s : VitalState) : Option D × VitalState :=
  match storage with
  | none => (none, s)
  | some device =>
    let (dna, s) := somaDna stack s
    (some (oo.writeAll device dnaFile (toFile somaDnaType.size dna)).2, s)

/-- `vital_persistence_load`; `none` if it has no defined outcome. -/
def vitalPersistenceLoad (stack : Bytes) (storage : Option D) (s : VitalState) : Option VitalState :=
  match storage with
  | none => some s
  | some device =>
    if oo.fileExists device dnaFile = false then some s
    else
      let (code, bytes) := oo.readAll device dnaFile somaDnaType.size
      if 0 < code then
        let dna := overlay bytes stack
        if getLE 32 (dnaField 0) dna = dnaMagic then do
          let synapses ← synapseImportLinks (dnaField 4) dna (getLE 32 (dnaField 3) dna) s.synapses
          let s := { s with synapses := synapses }
          let s := { s with spark := .ofBytes (dnaField 2) dna }
          some { s with memory := vitalEpigeneticImport (some fun k => dna (dnaField 5 + k)) 512 s.memory }
        else some s
      else some s

/-- The nodes that `vital_init` adds: identifier and threshold. -/
def initialNodes : List (BitVec 8 × BitVec 8) :=
  [(0, 30), (1, 40), (2, 50), (3, 20), (4, 60), (5, 70), (6, 25), (7, 35)]

/-- The links that `vital_init` makes. -/
def initialLinks : List SynapseLink :=
  [⟨0, 2, 80, 200⟩, ⟨0, 4, 60, 150⟩, ⟨1, 5, 40, 180⟩, ⟨2, 4, 50, 100⟩, ⟨3, 5, 30, 200⟩, ⟨6, 0, -20, 50⟩,
    ⟨7, 1, 40, 120⟩, ⟨5, 3, 25, 200⟩]

/-- `vital_init` up to the loading of the Soma-DNA; it does not set `jitter`. -/
def VitalState.born (s : VitalState) : VitalState :=
  let spark :=
    { s.spark with
      currentForce := forceYang
      tension := 128
      pulseCount := 0
      birthTimestamp := 0
      ageCycles := 0 }
  let memory := vitalEpigeneticInit s.memory
  let synapses := synapseInit s.synapses
  let synapses := initialNodes.foldl (fun net node => (synapseAddNode node.1 node.2 net).2) synapses
  let synapses := initialLinks.foldl
    (fun net link => (synapseConnect link.fromNode link.toNode link.weight link.plasticity net).2) synapses
  ⟨spark, synapses, memory⟩

/-- `vital_init`. The subsystems that are not saved are left out. -/
def vitalInit (stack : Bytes) (storage : Option D) (s : VitalState) : Option VitalState :=
  vitalPersistenceLoad oo stack storage s.born

end

/-! ## Reading back -/

variable {D : Type} {oo : OoStorage D} {files : D → String → Option (List (BitVec 8))} {device : D}
  {stack : Bytes} {s t : VitalState} {content : List (BitVec 8)}

/-- A spark is read back from its bytes. -/
theorem VitalSpark.ofBytes_bytes {loc : Nat} {source : Bytes} {spark : VitalSpark}
    (h : ∀ w k, k + w / 8 ≤ 40 → getLE w (loc + k) source = getLE w k spark.bytes) :
    ofBytes loc source = spark := by
  have hfields : ∀ i, offsetOf vitalSparkFields i = [0, 4, 8, 16, 24, 32].getD i 0 := fun i => rfl
  rw [ofBytes]
  simp only [hfields, List.getD_cons_zero, List.getD_cons_succ]
  rw [h 32 0 (by decide), h 8 4 (by decide), h 64 8 (by decide), h 64 16 (by decide), h 64 24 (by decide),
    h 8 32 (by decide), bytes]
  simp only [hfields, List.getD_cons_zero, List.getD_cons_succ]
  simp [getLE_putLE, getLE_putLE_of_apart]

/-- The record that is saved: the epigenetic memory does not fit. -/
theorem somaDna_eq (stack : Bytes) (s : VitalState) :
    somaDna stack s =
      (putLE 48 (BitVec.ofNat 32 (s.synapses.links.length * 4))
        (copyBytes 52 (s.synapses.links.length * 4) (linkBytes s.synapses.links)
          (copyBytes 8 40 s.spark.bytes (putLE 4 1#32 (putLE 0 dnaMagic stack)))), s) := by
  have hle := s.synapses.links_le
  have hexport : synapseExportLinks 1024 s.synapses =
      (((s.synapses.links.length * 4 : Nat) : Int), linkBytes s.synapses.links) := by
    rw [synapseExportLinks, size_synapseLinkType]
    rw [if_neg (by rw [synapseMaxLinks] at hle; omega)]
    rfl
  -- 512 bytes are too few for the 4120 of the memory
  have hmemory : vitalEpigeneticExport false 512 s.memory = (none, s.memory) :=
    vitalEpigeneticExport_of_lt (by decide)
  rw [somaDna, hexport, hmemory]
  rfl

/-- The buffer after a file was read to it. -/
def dnaBuffer (stack : Bytes) (content : List (BitVec 8)) : Bytes :=
  overlay (content.take somaDnaType.size) stack

/-- What the loader does with a file. The epigenetic memory is not touched. -/
theorem vitalPersistenceLoad_eq (h : oo.StoresFiles files) (hfile : files device dnaFile = some content) :
    vitalPersistenceLoad oo stack (some device) s =
      if content = [] ∨ getLE 32 0 (dnaBuffer stack content) ≠ dnaMagic then some s
      else
        (synapseImportLinks 52 (dnaBuffer stack content) (getLE 32 48 (dnaBuffer stack content))
          s.synapses).map fun synapses => ⟨.ofBytes 8 (dnaBuffer stack content), synapses, s.memory⟩ := by
  have hexists : oo.fileExists device dnaFile ≠ false := by
    rw [h.fileExists, hfile]
    exact Bool.true_eq_false_eq_False
  have hread := h.readAll device dnaFile content somaDnaType.size hfile
  simp only [vitalPersistenceLoad, if_neg hexists, hread]
  have hcode : (0 : Int) < ((content.take somaDnaType.size).length : Int) ↔ content ≠ [] := by
    rw [Int.natCast_pos, List.length_pos_iff, ne_eq, List.take_eq_nil_iff, not_or]
    exact and_iff_right (by decide)
  -- an empty file is a read of 0 bytes, which counts as failure
  by_cases hnil : content = []
  · rw [if_neg (fun hpos => hcode.1 hpos hnil), if_pos (.inl hnil)]
  · rw [if_pos (hcode.2 hnil)]
    change (if getLE 32 0 (dnaBuffer stack content) = dnaMagic then _ else _) = _
    by_cases hmagic : getLE 32 0 (dnaBuffer stack content) = dnaMagic
    · rw [if_pos hmagic, if_neg (not_or.2 ⟨hnil, not_not.2 hmagic⟩)]
      change (synapseImportLinks 52 (dnaBuffer stack content) (getLE 32 48 (dnaBuffer stack content))
        s.synapses).bind _ = _
      rw [Option.map_eq_bind]
      apply Option.bind_congr
      intro synapses _
      -- the import has the size of the part as well, and does nothing
      rw [vitalEpigeneticImport_of_lt (by decide)]
      rfl
    · rw [if_neg hmagic, if_pos (.inr hmagic)]

/-! ## Reincarnation -/

/-- The memory of a first birth. -/
def EpigeneticMemory.newborn : EpigeneticMemory :=
  { EpigeneticMemory.zero with
    personalityBias := 128
    resilience := 50
    generation := 1
    checksum := 0x12345678#32 ^^^ 128#32 ^^^ 50#32 ^^^ 1#32 }

/-- The spark and the links in the buffer are those of the state. -/
structure SameRecords (dna : Bytes) (s : VitalState) : Prop where
  size : (getLE 32 48 dna).toNat < 2 ^ 31
  links : linksAt (min ((getLE 32 48 dna).toNat / 4) 64) 52 dna = s.synapses.links
  spark : VitalSpark.ofBytes 8 dna = s.spark

theorem getLE_dnaBuffer {w place : Nat} {dna : Bytes} (hplace : place + w / 8 ≤ somaDnaType.size) :
    getLE w place (dnaBuffer stack (toFile somaDnaType.size dna)) = getLE w place dna := by
  apply getLE_congr
  intro k hk hkw
  rw [dnaBuffer, List.take_of_length_le (Nat.le_of_eq (length_toFile _ _)), overlay_toFile (by omega)]

/-- What was saved is what is read. -/
theorem sameRecords_somaDna (stack stack' : Bytes) (s : VitalState) :
    getLE 32 0 (dnaBuffer stack' (toFile somaDnaType.size (somaDna stack s).1)) = dnaMagic ∧
      SameRecords (dnaBuffer stack' (toFile somaDnaType.size (somaDna stack s).1)) s := by
  have hle := s.synapses.links_le
  rw [synapseMaxLinks] at hle
  have htype : somaDnaType.size = 2624 := rfl
  have hread : ∀ {w place : Nat}, place + w / 8 ≤ 2624 →
      getLE w place (dnaBuffer stack' (toFile somaDnaType.size (somaDna stack s).1)) =
        getLE w place (somaDna stack s).1 := fun hplace => getLE_dnaBuffer (htype ▸ hplace)
  have hsize : (getLE 32 48 (somaDna stack s).1).toNat = s.synapses.links.length * 4 := by
    rw [somaDna_eq, getLE_putLE rfl, BitVec.toNat_ofNat, Nat.mod_eq_of_lt (by omega)]
  refine ⟨?_, ⟨?_, ?_, ?_⟩⟩
  · rw [hread (by decide), somaDna_eq, getLE_putLE_of_apart (.inl (by decide)),
      getLE_copyBytes_of_apart (.inl (by decide)), getLE_copyBytes_of_apart (.inl (by decide)),
      getLE_putLE_of_apart (.inl (by decide)), getLE_putLE rfl]
  · rw [hread (by decide), hsize]
    omega
  · rw [hread (by decide), hsize, Nat.mul_div_cancel _ (by decide), Nat.min_eq_left hle]
    apply linksAt_linkBytes
    intro k hk
    rw [hread (by omega), somaDna_eq, getLE_putLE_of_apart (.inr (by omega)), getLE_copyBytes (by omega)]
  · apply VitalSpark.ofBytes_bytes
    intro w k hk
    rw [hread (by omega), somaDna_eq, getLE_putLE_of_apart (.inl (by omega)),
      getLE_copyBytes_of_apart (.inl (by omega)), getLE_copyBytes hk]

/-- What a process that starts anew finds in the file that was saved: the spark and the links. -/
theorem vitalInit_somaDna (h : oo.StoresFiles files)
    (hfile : files device dnaFile = some (toFile somaDnaType.size (somaDna stack s).1)) (stack' : Bytes) :
    ∃ t, vitalInit oo stack' (some device) .zero = some t ∧ t.spark = s.spark ∧
      t.synapses.links = s.synapses.links ∧ t.memory = .newborn := by
  obtain ⟨hmagic, hsame⟩ := sameRecords_somaDna stack stack' s
  have hnil : toFile somaDnaType.size (somaDna stack s).1 ≠ [] := by
    apply List.ne_nil_of_length_pos
    rw [length_toFile]
    decide
  obtain ⟨net, himport, hlinks, -, -⟩ := synapseImportLinks_of_nonneg 52
    (dnaBuffer stack' (toFile somaDnaType.size (somaDna stack s).1)) VitalState.zero.born.synapses hsame.size
  rw [vitalInit, vitalPersistenceLoad_eq h hfile, if_neg (not_or.2 ⟨hnil, not_not.2 hmagic⟩), himport]
  exact ⟨_, rfl, hsame.spark, hlinks.trans hsame.links, rfl⟩

/-- The spark, the link table and the epigenetic memory are the same. -/
structure SameLife (t s : VitalState) : Prop where
  spark : t.spark = s.spark
  links : t.synapses.links = s.synapses.links
  memory : t.memory = s.memory

/-- A state that was saved comes back when the process starts anew if and only if its epigenetic memory is
that of a first birth. -/
theorem reincarnation_iff (h : oo.StoresFiles files) (device : D) (stack stack' : Bytes) (s : VitalState)
    (hsaved : (oo.writeAll device dnaFile (toFile somaDnaType.size (somaDna stack s).1)).1 = 0) :
    (∃ t, vitalInit oo stack' (vitalPersistenceSave oo stack (some device) s).1 .zero = some t ∧
      SameLife t s) ↔ s.memory = .newborn := by
  obtain ⟨t, hinit, hspark, hlinks, hmemory⟩ := vitalInit_somaDna h (h.writeAll _ _ _ hsaved) stack'
  constructor
  · rintro ⟨t', hinit', hsame⟩
    obtain rfl : t' = t := Option.some.inj (hinit'.symm.trans hinit)
    exact hsame.memory.symm.trans hmemory
  · intro hnewborn
    exact ⟨t, hinit, hspark, hlinks, hmemory.trans hnewborn.symm⟩

/-- A memory is that of a first birth if and only if nothing was experienced since. -/
theorem firstLife_eq_newborn_iff {experiences : List (BitVec 64 × BitVec 8)} (hlength : experiences.length < 2 ^ 32) :
    firstLife .zero experiences = .newborn ↔ experiences = [] := by
  constructor
  · intro hnewborn
    have htotal : (firstLife .zero experiences).totalExperiences.toNat = 0 := by
      rw [hnewborn]
      rfl
    rw [totalExperiences_firstLife, BitVec.toNat_ofNat, Nat.mod_eq_of_lt hlength] at htotal
    exact List.length_eq_zero_iff.1 htotal
  · rintro rfl
    rfl

/-- A storage layer that keeps the files in memory. -/
def ramStorage : OoStorage (String → Option (List (BitVec 8))) where
  fileExists disk name := (disk name).isSome
  readAll disk name size :=
    match disk name with
    | some content => (((content.take size).length : Int), content.take size)
    | none => (-1, [])
  writeAll disk name content := (0, Function.update disk name (some content))

theorem storesFiles_ramStorage : ramStorage.StoresFiles fun disk => disk where
  fileExists disk name := rfl
  readAll disk name content size hfile := by
    rw [ramStorage]
    dsimp only
    rw [hfile]
  writeAll disk name content _ := Function.update_self ..

/-- A spark that has beaten a thousand times, with the links of a first birth and no experience. -/
def thousandBeats : VitalState := { VitalState.zero.born with spark := ⟨0, 120, 1000, 3, 0, 0⟩ }

theorem reincarnation_thousandBeats :
    ∃ t, vitalInit ramStorage (fun _ => 0xCC)
        (vitalPersistenceSave ramStorage (fun _ => 0xAA) (some fun _ => none) thousandBeats).1 .zero = some t ∧
      SameLife t thousandBeats :=
  (reincarnation_iff storesFiles_ramStorage _ _ _ _ rfl).2 rfl

/-- One trauma after the first boot, and the memory does not come back. -/
theorem exists_lost_memory :
    ∃ s, vitalInit ramStorage (fun _ => 0xEE) (some fun _ => none) .zero = some s ∧
      ¬ ∃ t, vitalInit ramStorage (fun _ => 0xCC)
          (vitalPersistenceSave ramStorage (fun _ => 0xAA) (some fun _ => none)
            { s with memory := vitalMarkExperience s.spark.pulseCount (-10) s.memory }).1 .zero = some t ∧
        SameLife t { s with memory := vitalMarkExperience s.spark.pulseCount (-10) s.memory } := by
  refine ⟨_, rfl, ?_⟩
  rintro ⟨t, hinit, hsame⟩
  -- the memory that comes back is that of a first birth, without the trauma
  obtain ⟨t', hinit', -, -, hmemory⟩ :=
    vitalInit_somaDna storesFiles_ramStorage (Function.update_self ..) fun _ => 0xCC
  obtain rfl : t' = t := Option.some.inj (hinit'.symm.trans hinit)
  have hlost := congrArg EpigeneticMemory.traumaLevel (hmemory.symm.trans hsame.memory)
  exact absurd hlost (by decide)

/-! ## A damaged file -/

/-- Whatever the file holds, loading it changes nothing if and only if it is empty, or its magic word is
wrong, or the links and the spark in it, with what the stack holds behind its end, are those that are there. -/
theorem load_eq_self_iff (h : oo.StoresFiles files) (hfile : files device dnaFile = some content)
    (stack : Bytes) (s : VitalState) :
    vitalPersistenceLoad oo stack (some device) s = some s ↔
      content = [] ∨ getLE 32 0 (dnaBuffer stack content) ≠ dnaMagic ∨
        SameRecords (dnaBuffer stack content) s := by
  rw [vitalPersistenceLoad_eq h hfile, ← or_assoc]
  generalize dnaBuffer stack content = dna
  by_cases hskip : content = [] ∨ getLE 32 0 dna ≠ dnaMagic
  · rw [if_pos hskip]
    exact iff_of_true rfl (.inl hskip)
  · rw [if_neg hskip, or_iff_right hskip]
    by_cases hsize : (getLE 32 48 dna).toNat < 2 ^ 31
    · obtain ⟨net, himport, hlinks, hnodes, hfired⟩ := synapseImportLinks_of_nonneg 52 dna s.synapses hsize
      rw [himport, Option.map_some, Option.some.injEq]
      constructor
      · intro hload
        have hspark : VitalSpark.ofBytes 8 dna = s.spark := congrArg VitalState.spark hload
        have hnet : net = s.synapses := congrArg VitalState.synapses hload
        rw [hnet] at hlinks
        exact ⟨hsize, hlinks.symm, hspark⟩
      · intro hsame
        have hnet : net = s.synapses := SynapseNetwork.ext hnodes (hlinks.trans hsame.links) hfired
        rw [hnet, hsame.spark]
    · -- a negative size has no defined outcome, so nothing is said to stay
      rw [synapseImportLinks_of_neg (Nat.not_lt.1 hsize)]
      exact iff_of_false nofun fun hsame => hsize hsame.size

/-- The record of a file is one that `vital_persistence_save` could have written: its spark, its links and its
epigenetic data. -/
def SavedRecords (content : List (BitVec 8)) : Prop :=
  ∃ stack s, ∀ k, dnaField 2 ≤ k → k < dnaField 6 → content[k]? = some ((somaDna stack s).1 k)

/-- The file is too short, or its records are not ones that were saved. -/
def Damaged (content : List (BitVec 8)) : Prop := content.length < somaDnaType.size ∨ ¬ SavedRecords content

/-- A spark near the end of its count, with two links more than at birth and a trauma. -/
def oldOrganism : VitalState where
  spark := ⟨0x59494E00, 200, 0xFFFFFFFFFFFFFFF0, 77, 5, 9⟩
  synapses := (synapseConnect 1 7 0x88 3 (synapseConnect 5 2 90 15 thousandBeats.synapses).2).2
  memory := vitalMarkExperience 1000 (-10) thousandBeats.memory

/-- Its file is read, and loading it changes nothing. -/
theorem load_oldOrganism :
    vitalPersistenceLoad ramStorage (fun _ => 0xCC)
      (vitalPersistenceSave ramStorage (fun _ => 0xAA) (some fun _ => none) oldOrganism).1 oldOrganism =
        some oldOrganism :=
  (load_eq_self_iff storesFiles_ramStorage (Function.update_self ..) _ _).2
    (.inr (.inr (sameRecords_somaDna _ _ _).2))

/-- A file of the magic word only erases the links and takes the spark from the stack. -/
theorem exists_damaged_load :
    ∃ content, Damaged content ∧
      vitalPersistenceLoad ramStorage (fun _ => 0) (some fun _ => some content) thousandBeats ≠
        some thousandBeats := by
  refine ⟨[0x4F, 0x44, 0x4E, 0x41], .inl (by decide), fun hload => ?_⟩
  have hlinks := congrArg (Option.map fun t => t.synapses.links.length) hload
  exact absurd hlinks (by decide)

end OperatingOrganism.Vital

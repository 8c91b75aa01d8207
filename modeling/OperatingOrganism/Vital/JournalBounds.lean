import OperatingOrganism.Vital.Epigenetics

/-!
# The bounds of the journal

`vital_mark_experience` writes to the journal at `event_head` and reduces the head after the write. The head that
`vital_epigenetic_import` takes from an image is neither reduced nor part of the checksum. So the first experience
after an import is written wherever the image says, and every later one inside the journal (`journal_inside_iff`).
-/

set_option autoImplicit false

namespace OperatingOrganism.Vital

open OperatingOrganism.ByteLayout OperatingOrganism.Execution

/-- The image is taken over as it is: it is large enough and its checksum is right. -/
def AcceptsImage (src : Bytes) (size : BitVec 32) : Prop :=
  epigeneticMemoryType.size ≤ size.toNat ∧
    (EpigeneticMemory.ofBytes src).checksum = (EpigeneticMemory.ofBytes src).computeChecksum

/-- The experience is written to an entry of the journal. -/
def WritesInside (m : EpigeneticMemory) (_experience : BitVec 64 × BitVec 8) : Prop :=
  m.eventHead.toNat < maxEpigeneticEvents

/-- The memory during some experiences, each with its pulse and its impact. -/
def experiencesFrom (m : EpigeneticMemory) (experiences : List (BitVec 64 × BitVec 8)) :
    List ((BitVec 64 × BitVec 8) × EpigeneticMemory) :=
  driven (fun m experience => vitalMarkExperience experience.1 experience.2 m) m experiences

/-- Every experience that is marked after the import of an image is written to an entry of the journal. -/
def JournalInside (src : Bytes) (size : BitVec 32) (m : EpigeneticMemory)
    (experiences : List (BitVec 64 × BitVec 8)) : Prop :=
  let imported := vitalEpigeneticImport (some src) size m
  AllSteps WritesInside imported (experiencesFrom imported experiences)

section Journal

variable {m : EpigeneticMemory} {src : Bytes} {size : BitVec 32}

/-- An image that is accepted becomes the memory. -/
theorem import_of_accepts (h : AcceptsImage src size) (m : EpigeneticMemory) :
    vitalEpigeneticImport (some src) size m = .ofBytes src := by
  rw [vitalEpigeneticImport]
  dsimp only
  rw [if_neg (Nat.not_lt.2 h.1)]
  exact if_neg (not_not.2 h.2)

@[simp] theorem eventHead_feel (impact : Int) (m : EpigeneticMemory) : (m.feel impact).eventHead = m.eventHead := by
  simp only [EpigeneticMemory.feel, apply_ite EpigeneticMemory.eventHead, ite_self]

/-- The head after an experience. -/
theorem eventHead_mark (pulse : BitVec 64) (impact : BitVec 8) (m : EpigeneticMemory) :
    (vitalMarkExperience pulse impact m).eventHead.toNat = (m.eventHead.toNat + 1) % maxEpigeneticEvents := by
  rw [vitalMarkExperience]
  dsimp only
  rw [eventHead_feel, BitVec.toNat_ofNat]
  have hlt : (m.eventHead.toNat + 1) % maxEpigeneticEvents < 256 := Nat.mod_lt _ (by decide)
  exact Nat.mod_eq_of_lt (hlt.trans (by decide))

/-- From a head inside the journal on, all experiences are written inside. -/
theorem writesInside_run (h : m.eventHead.toNat < maxEpigeneticEvents)
    (experiences : List (BitVec 64 × BitVec 8)) : AllSteps WritesInside m (experiencesFrom m experiences) := by
  have hexec : Exec (fun m experience m' => vitalMarkExperience experience.1 experience.2 m = m') m
      (experiencesFrom m experiences) := exec_driven (fun _ _ => rfl) _ _
  refine hexec.allSteps_of_invariant h ?_ fun _ _ hinside => hinside
  rintro m experience _ - rfl
  rw [eventHead_mark]
  exact Nat.mod_lt _ (by decide)

/-- After the import of an accepted image, all experiences are written inside the journal if and only if there are
none or the head of the image is inside it. -/
theorem journal_inside_iff (h : AcceptsImage src size) (m : EpigeneticMemory)
    (experiences : List (BitVec 64 × BitVec 8)) :
    JournalInside src size m experiences ↔
      experiences = [] ∨ (EpigeneticMemory.ofBytes src).eventHead.toNat < maxEpigeneticEvents := by
  rw [JournalInside, import_of_accepts h m]
  constructor
  · intro hall
    cases experiences with
    | nil => exact .inl rfl
    | cons experience experiences => exact .inr hall.1
  · rintro (rfl | hhead)
    · trivial
    · exact writesInside_run hhead experiences

/-- A memory whose head is anywhere, with a right checksum. -/
def displacedMemory (head : BitVec 16) : EpigeneticMemory :=
  let m := { EpigeneticMemory.zero with eventHead := head }
  { m with checksum := m.computeChecksum }

theorem accepts_displaced (head : BitVec 16) : AcceptsImage (displacedMemory head).bytes 4120 := by
  refine ⟨Nat.le_refl _, ?_⟩
  rw [EpigeneticMemory.ofBytes_bytes]
  rfl

/-- Two experiences after the import of an image whose head is at the last entry. -/
theorem journal_inside_last : JournalInside (displacedMemory 255).bytes 4120 .zero [(1, 5), (2, 0xFD)] := by
  refine (journal_inside_iff (accepts_displaced 255) .zero _).2 (.inr ?_)
  rw [EpigeneticMemory.ofBytes_bytes]
  decide

/-- One experience after the import of an image whose head is one behind the last entry. -/
theorem exists_journal_not_inside :
    ∃ (src : Bytes) (size : BitVec 32) (m : EpigeneticMemory) (experiences : List (BitVec 64 × BitVec 8)),
      AcceptsImage src size ∧ ¬ JournalInside src size m experiences := by
  refine ⟨(displacedMemory 256).bytes, 4120, .zero, [(1, 5)], accepts_displaced 256, fun h => ?_⟩
  rw [JournalInside, import_of_accepts (accepts_displaced 256), EpigeneticMemory.ofBytes_bytes] at h
  exact Nat.lt_irrefl 256 h.1

end Journal

end OperatingOrganism.Vital

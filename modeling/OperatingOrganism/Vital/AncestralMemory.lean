import OperatingOrganism.Vital.Epigenetics

/-!
# Boots and experiences

Runs of warm boots and experiences over one memory. The checksum is right after an experience and after a
first birth. A boot that keeps the memory changes the generation and leaves the checksum as it was, and so
the next boot, if no experience comes between, starts from a first birth again.
-/

set_option autoImplicit false

namespace OperatingOrganism.Vital

open OperatingOrganism.Execution

/-- The stored checksum is the one that is computed. -/
def EpigeneticMemory.ChecksumValid (m : EpigeneticMemory) : Prop := m.checksum = m.computeChecksum

instance (m : EpigeneticMemory) : Decidable m.ChecksumValid := inferInstanceAs (Decidable (_ = _))

/-- A call of `vital_epigenetic_init` or of `vital_mark_experience`. -/
inductive LifeEvent where
  | boot
  | experience (pulse : BitVec 64) (impact : BitVec 8)

/-- The memory, and whether the last call was a boot. -/
structure Life where
  memory : EpigeneticMemory
  justBooted : Bool

def LifeEvent.apply (s : Life) : LifeEvent → Life
  | .boot => ⟨vitalEpigeneticInit s.memory, true⟩
  | .experience pulse impact => ⟨vitalMarkExperience pulse impact s.memory, false⟩

def LifeStep (s : Life) (e : LifeEvent) (t : Life) : Prop := t = e.apply s

/-- The memory after a first birth over `m`, and the experiences that follow. -/
def firstLife (m : EpigeneticMemory) (experiences : List (BitVec 64 × BitVec 8)) : EpigeneticMemory :=
  experiences.foldl (fun m e => vitalMarkExperience e.1 e.2 m) (vitalEpigeneticInit m)

/-- The boot takes the branch of an ancestor: the counters are kept, and a generation is counted. -/
structure Remembers (m : EpigeneticMemory) : Prop where
  ancestral : m.Ancestral
  trauma : (vitalEpigeneticInit m).traumaLevel = m.traumaLevel
  success : (vitalEpigeneticInit m).successCount = m.successCount
  experiences : (vitalEpigeneticInit m).totalExperiences = m.totalExperiences
  generation : m.generation.toNat < (vitalEpigeneticInit m).generation.toNat

variable {m : EpigeneticMemory} {s t : Life} {e : LifeEvent} {pulse : BitVec 64} {impact : BitVec 8}

/-! ## What the calls do to the checksum -/

theorem vitalEpigeneticInit_of_ancestral (h : m.Ancestral) :
    vitalEpigeneticInit m = { m with generation := m.generation + 1 } := if_pos h

/-- After an experience the checksum is right. -/
theorem checksumValid_markExperience (pulse : BitVec 64) (impact : BitVec 8) (m : EpigeneticMemory) :
    (vitalMarkExperience pulse impact m).ChecksumValid := rfl

theorem totalExperiences_feel (impact : Int) (m : EpigeneticMemory) :
    (m.feel impact).totalExperiences = m.totalExperiences := by
  simp only [EpigeneticMemory.feel, apply_ite EpigeneticMemory.totalExperiences, ite_self]

/-- An experience is counted. -/
theorem totalExperiences_markExperience (pulse : BitVec 64) (impact : BitVec 8) (m : EpigeneticMemory) :
    (vitalMarkExperience pulse impact m).totalExperiences = m.totalExperiences + 1 :=
  totalExperiences_feel ..

/-- After a first birth the checksum is right. -/
theorem checksumValid_init (h : ¬ m.Ancestral) : (vitalEpigeneticInit m).ChecksumValid := by
  rw [vitalEpigeneticInit, if_neg h]
  rfl

/-- The checksum tells generations apart. -/
theorem computeChecksum_generation {g : BitVec 8} :
    { m with generation := g }.computeChecksum = m.computeChecksum ↔ g = m.generation := by
  rw [EpigeneticMemory.computeChecksum, EpigeneticMemory.computeChecksum, BitVec.xor_right_inj]
  constructor
  · intro h
    apply BitVec.eq_of_toNat_eq
    have := congrArg BitVec.toNat h
    simp only [BitVec.toNat_setWidth] at this
    omega
  · rintro rfl
    rfl

/-- A boot that keeps the memory leaves a checksum that is wrong. -/
theorem not_checksumValid_init (h : m.Ancestral) : ¬ (vitalEpigeneticInit m).ChecksumValid := by
  rw [vitalEpigeneticInit_of_ancestral h]
  intro hvalid
  have hsame : { m with generation := m.generation + 1 }.computeChecksum = m.computeChecksum :=
    hvalid.symm.trans h.1
  have hgen : m.generation + 1 = m.generation := computeChecksum_generation.1 hsame
  bv_omega

/-- When a boot remembers. -/
theorem remembers_iff : Remembers m ↔ m.Ancestral ∧ m.generation.toNat ≠ 255 := by
  constructor
  · intro h
    refine ⟨h.ancestral, fun hgen => ?_⟩
    have := h.generation
    rw [vitalEpigeneticInit_of_ancestral h.ancestral] at this
    change m.generation.toNat < (m.generation + 1).toNat at this
    bv_omega
  · rintro ⟨hancestral, hgen⟩
    have hinit := vitalEpigeneticInit_of_ancestral hancestral
    refine ⟨hancestral, by rw [hinit], by rw [hinit], by rw [hinit], ?_⟩
    rw [hinit]
    change m.generation.toNat < (m.generation + 1).toNat
    bv_omega

/-! ## Runs -/

/-- The call, if it is a boot, remembers. -/
def KeepsMemory (s : Life) (e : LifeEvent) : Prop := e = .boot → Remembers s.memory

/-- A boot does not follow another one, and the counters have not wrapped around. -/
def Sheltered (s : Life) (e : LifeEvent) : Prop :=
  e = .boot → s.justBooted = false ∧ s.memory.totalExperiences.toNat ≠ 0 ∧ s.memory.generation.toNat ≠ 255

theorem totalExperiences_firstLife (experiences : List (BitVec 64 × BitVec 8)) :
    (firstLife .zero experiences).totalExperiences = BitVec.ofNat 32 experiences.length := by
  have hcount : ∀ m : EpigeneticMemory,
      (experiences.foldl (fun m e => vitalMarkExperience e.1 e.2 m) m).totalExperiences =
        m.totalExperiences + BitVec.ofNat 32 experiences.length := by
    -- induction on the experiences, over any memory
    induction experiences with
    | nil => exact fun m => (BitVec.add_zero _).symm
    | cons e experiences ih =>
      intro m
      rw [List.foldl_cons, ih, totalExperiences_markExperience, List.length_cons, BitVec.ofNat_add,
        BitVec.add_assoc]
      exact congrArg (m.totalExperiences + ·) (BitVec.add_comm _ _)
  rw [firstLife, hcount]
  exact BitVec.zero_add _

theorem checksumValid_firstLife (m : EpigeneticMemory) (first : BitVec 64 × BitVec 8)
    (experiences : List (BitVec 64 × BitVec 8)) : (firstLife m (first :: experiences)).ChecksumValid := by
  rw [firstLife, List.foldl_cons]
  generalize hstart : vitalMarkExperience first.1 first.2 (vitalEpigeneticInit m) = start
  have hvalid : start.ChecksumValid := hstart ▸ checksumValid_markExperience _ _ _
  clear hstart
  -- every experience sets the checksum, whatever it was before
  induction experiences generalizing start with
  | nil => exact hvalid
  | cons e experiences ih => exact ih _ (checksumValid_markExperience e.1 e.2 start)

/-- Every later boot remembers if and only if no boot follows another one and the counters have not wrapped
around at a boot; the checksum is right in every state if and only if there is no boot at all, but where the
count of the experiences has wrapped around to zero. -/
theorem ancestral_iff (m : EpigeneticMemory) (first : BitVec 64 × BitVec 8)
    (experiences : List (BitVec 64 × BitVec 8)) {tr : List (LifeEvent × Life)}
    (h : Exec LifeStep ⟨firstLife m (first :: experiences), false⟩ tr) :
    (AllSteps KeepsMemory ⟨firstLife m (first :: experiences), false⟩ tr ↔
      AllSteps Sheltered ⟨firstLife m (first :: experiences), false⟩ tr) ∧
    (AllStates (fun s => s.memory.ChecksumValid) ⟨firstLife m (first :: experiences), false⟩ tr ↔
      AllSteps (fun s e => e = .boot → s.memory.totalExperiences.toNat = 0)
        ⟨firstLife m (first :: experiences), false⟩ tr) := by
  have hstart := checksumValid_firstLife m first experiences
  constructor
  · -- as long as the boots remember, the checksum is right just when the last call was no boot
    refine h.allSteps_congr (I := fun s => s.memory.ChecksumValid ↔ s.justBooted = false)
      (iff_of_true hstart rfl) ?_ ?_
    · rintro s e t hs hsheltered rfl
      cases e with
      | boot =>
        obtain ⟨hlast, htotal, -⟩ := hsheltered rfl
        have hancestral : s.memory.Ancestral := ⟨hs.2 hlast, Nat.pos_of_ne_zero htotal⟩
        exact iff_of_false (not_checksumValid_init hancestral) nofun
      | experience pulse impact => exact iff_of_true (checksumValid_markExperience _ _ _) rfl
    · intro s e hs
      refine imp_congr_right fun _ => ?_
      rw [remembers_iff, EpigeneticMemory.Ancestral, ← Nat.ne_zero_iff_zero_lt, ← hs, and_assoc]
      rfl
  · -- a step of a memory whose checksum is right: only a boot that keeps it makes it wrong
    refine h.allStates_iff_allSteps (I := fun _ => True) trivial hstart (fun _ _ _ _ _ => trivial) ?_
    rintro s e t - hs rfl
    cases e with
    | boot =>
      by_cases htotal : s.memory.totalExperiences.toNat = 0
      · have hbirth : ¬ s.memory.Ancestral := fun h => absurd htotal (Nat.ne_of_gt h.2)
        exact iff_of_true (checksumValid_init hbirth) fun _ => htotal
      · have hancestral : s.memory.Ancestral := ⟨hs, Nat.pos_of_ne_zero htotal⟩
        exact iff_of_false (not_checksumValid_init hancestral) fun h => htotal (h rfl)
    | experience pulse impact => exact iff_of_true (checksumValid_markExperience _ _ _) nofun

/-- A success, a boot, a trauma, and a boot. -/
theorem ancestral_two_boots :
    let s₀ : Life := ⟨firstLife .zero [(7, 1)], false⟩
    let s₁ := LifeEvent.apply s₀ .boot
    let s₂ := LifeEvent.apply s₁ (.experience 9 (-1))
    AllSteps KeepsMemory s₀
      [(.boot, s₁), (.experience 9 (-1), s₂), (.boot, LifeEvent.apply s₂ .boot)] := by
  intro s₀ s₁ s₂
  have hexec : Exec LifeStep s₀
      [(.boot, s₁), (.experience 9 (-1), s₂), (.boot, LifeEvent.apply s₂ .boot)] := ⟨rfl, rfl, rfl, trivial⟩
  refine (ancestral_iff .zero (7, 1) [] hexec).1.2 ⟨fun _ => ?_, nofun, fun _ => ?_, trivial⟩
  · exact ⟨rfl, by decide, by decide⟩
  · exact ⟨rfl, by decide, by decide⟩

/-- Two boots in a row: the second one forgets, and already the first one leaves a wrong checksum. -/
theorem exists_boot_forgets :
    ∃ tr, Exec LifeStep ⟨firstLife .zero [(7, 1)], false⟩ tr ∧
      ¬ AllSteps KeepsMemory ⟨firstLife .zero [(7, 1)], false⟩ tr ∧
      ¬ AllStates (fun s => s.memory.ChecksumValid) ⟨firstLife .zero [(7, 1)], false⟩ tr := by
  let s₀ : Life := ⟨firstLife .zero [(7, 1)], false⟩
  let s₁ := LifeEvent.apply s₀ .boot
  refine ⟨[(.boot, s₁), (.boot, LifeEvent.apply s₁ .boot)], ⟨rfl, rfl, trivial⟩, fun hall => ?_, fun hall => ?_⟩
  · have hsecond : Remembers s₁.memory := hall.2.1 rfl
    exact absurd hsecond.ancestral (by decide)
  · have hfirst : s₁.memory.ChecksumValid := hall.2 _ List.mem_cons_self
    exact absurd hfirst (by decide)

end OperatingOrganism.Vital

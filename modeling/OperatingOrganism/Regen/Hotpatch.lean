import OperatingOrganism.Library.X86

/-!
# Hot patches

`hotpatch.c` repairs a function while it runs: it writes a jump to a replacement over the first five bytes of the
function. The displacement of the jump has 32 bits, and what does not fit is cut off. A memory that has been patched
any number of times leads from every patched function to its last replacement, if and only if the replacement is in
reach (`hotpatched_leads_iff`).
-/

set_option autoImplicit false

namespace OperatingOrganism.Regen

open OperatingOrganism.ByteLayout OperatingOrganism.ByteMemory OperatingOrganism.X86

/-- `offset`; the difference wraps around before it is cut off. -/
def jumpOffset (target replacement : Address) : BitVec 32 := (replacement - target - 5).setWidth 32

/-- `regen_hotpatch` -/
def regenHotpatch (memory : Memory) (target replacement : Address) : Memory := fun x =>
  if distance target x = 0 then 0xE9
  else if distance target x < 5 then putLE 0 (jumpOffset target replacement) (fun _ => 0) (distance target x - 1)
  else memory x

/-- A function and its replacement. -/
structure Patch where
  target : Address
  replacement : Address

/-- The memory after the patches, in their order. -/
def hotpatched (memory : Memory) (patches : List Patch) : Memory :=
  patches.foldl (fun memory p => regenHotpatch memory p.target p.replacement) memory

/-- The replacement is at most half of the range of the displacement away from the end of the jump. -/
def InReach (target replacement : Address) : Prop :=
  -2 ^ 31 ≤ (replacement - target - 5).toInt ∧ (replacement - target - 5).toInt < 2 ^ 31

instance (target replacement : Address) : Decidable (InReach target replacement) := inferInstanceAs (Decidable (_ ∧ _))

section Jump

variable {memory memory' : Memory} {a target replacement x : Address}

theorem window_succ (memory : Memory) (a : Address) (k : Nat) : window memory (a + 1) k = window memory a (k + 1) := by
  have hplace : a + 1 + BitVec.ofNat 64 k = a + BitVec.ofNat 64 (k + 1) := by
    rw [BitVec.add_assoc, Nat.add_comm, BitVec.ofNat_add]
    rfl
  rw [window, window, hplace]

/-- Where a jump leads depends on its five bytes. -/
theorem nearJump_congr (h : ∀ k < 5, window memory a k = window memory' a k) :
    nearJump memory a = nearJump memory' a := by
  have hopcode : memory a = memory' a := by
    have hfirst := h 0 (by decide)
    simpa [window] using hfirst
  have hoffset : getLE 32 0 (window memory (a + 1)) = getLE 32 0 (window memory' (a + 1)) := by
    apply getLE_congr
    intro k _ hk
    rw [window_succ, window_succ]
    exact h (k + 1) (by omega)
  rw [nearJump, nearJump, hopcode, hoffset]

/-- A patch elsewhere leaves a byte. -/
theorem regenHotpatch_of_le (h : 5 ≤ distance target x) : regenHotpatch memory target replacement x = memory x := by
  rw [regenHotpatch, if_neg (by omega), if_neg (by omega)]

theorem nearJump_of_apart (h : Apart target 5 a 5) :
    nearJump (regenHotpatch memory target replacement) a = nearJump memory a :=
  nearJump_congr fun _ hk => regenHotpatch_of_le (h.le_distance hk)

/-- The jump that a patch writes. -/
theorem nearJump_regenHotpatch : nearJump (regenHotpatch memory target replacement) target =
    some (target + 5 + (jumpOffset target replacement).signExtend 64) := by
  have hopcode : regenHotpatch memory target replacement target = 0xE9 := by
    rw [regenHotpatch, if_pos (by simp [distance])]
  have hoffset : getLE 32 0 (window (regenHotpatch memory target replacement) (target + 1)) =
      jumpOffset target replacement := by
    -- the four bytes behind the opcode are those of the displacement
    have hbytes : getLE 32 0 (window (regenHotpatch memory target replacement) (target + 1)) =
        getLE 32 0 (putLE 0 (jumpOffset target replacement) fun _ => 0) := by
      apply getLE_congr
      intro k _ hk
      have hdist : distance target (target + .ofNat 64 (k + 1)) = k + 1 := distance_add (by omega)
      rw [window_succ, window, regenHotpatch, hdist, if_neg (Nat.succ_ne_zero k), if_pos (by omega), Nat.add_sub_cancel]
    rw [hbytes, getLE_putLE rfl]
  rw [nearJump, if_pos hopcode, hoffset]

/-- A number of 64 bits comes back from its low half if and only if it is small. -/
theorem signExtend_setWidth_iff (d : BitVec 64) :
    (d.setWidth 32).signExtend 64 = d ↔ -2 ^ 31 ≤ d.toInt ∧ d.toInt < 2 ^ 31 := by
  have hlt := d.isLt
  have hmin : min 64 32 = 32 := rfl
  rw [← BitVec.toInt_inj, BitVec.toInt_signExtend, BitVec.toInt_setWidth, BitVec.toInt_eq_toNat_bmod, hmin]
  simp only [Int.bmod_def, Nat.reducePow, Nat.cast_ofNat]
  omega

/-- The jump of a patch leads to the replacement if and only if it is in reach. -/
theorem nearJump_regenHotpatch_iff :
    nearJump (regenHotpatch memory target replacement) target = some replacement ↔ InReach target replacement := by
  have hback : target + 5 + (replacement - target - 5) = replacement := by
    rw [BitVec.sub_sub, BitVec.add_comm, BitVec.sub_add_cancel]
  rw [nearJump_regenHotpatch, Option.some.injEq, InReach, ← signExtend_setWidth_iff, jumpOffset]
  constructor
  · intro hlead
    exact (BitVec.add_right_inj _).1 (hlead.trans hback.symm)
  · intro hsame
    rw [hsame, hback]

end Jump

section Run

variable {memory : Memory} {p : Patch} {patches later : List Patch} {x : Address}

/-- Bytes that no patch covers stay. -/
theorem hotpatched_of_le (h : ∀ p ∈ patches, 5 ≤ distance p.target x) : hotpatched memory patches x = memory x := by
  induction patches generalizing memory with
  | nil => rfl
  | cons q patches ih =>
    rw [List.forall_mem_cons] at h
    rw [hotpatched, List.foldl_cons]
    exact (ih h.2).trans (regenHotpatch_of_le h.1)

/-- Patches elsewhere leave a jump. -/
theorem nearJump_hotpatched (h : ∀ q ∈ patches, Apart q.target 5 x 5) :
    nearJump (hotpatched memory patches) x = nearJump memory x := by
  induction patches generalizing memory with
  | nil => rfl
  | cons q patches ih =>
    rw [List.forall_mem_cons] at h
    rw [hotpatched, List.foldl_cons]
    exact (ih h.2).trans (nearJump_of_apart h.1)

/-- After any patches, a function leads to its last replacement if and only if the replacement is in reach, unless a
later patch covers some of its first five bytes. What came before does not matter. -/
theorem hotpatched_leads_iff (h : ∀ q ∈ later, Apart q.target 5 p.target 5) :
    nearJump (hotpatched memory (patches ++ p :: later)) p.target = some p.replacement ↔
      InReach p.target p.replacement := by
  have hsplit : hotpatched memory (patches ++ p :: later) =
      hotpatched (regenHotpatch (hotpatched memory patches) p.target p.replacement) later := by
    rw [hotpatched, List.foldl_append]
    rfl
  rw [hsplit, nearJump_hotpatched h, nearJump_regenHotpatch_iff]

/-- A function that is patched twice, with another one between. -/
theorem hotpatched_twice :
    nearJump (hotpatched (fun _ => 0x90) ([⟨0x1000, 0x5000⟩] ++ ⟨0x1000, 0x6000⟩ :: [⟨0x2000, 0x7000⟩])) 0x1000 =
      some 0x6000 ↔ InReach 0x1000 0x6000 :=
  @hotpatched_leads_iff _ ⟨0x1000, 0x6000⟩ _ _ (by decide)

end Run

end OperatingOrganism.Regen

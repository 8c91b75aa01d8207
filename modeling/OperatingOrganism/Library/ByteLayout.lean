import Mathlib.Data.Nat.ModEq

/-!
# Records as bytes

The layout of a C record (each field is put at the next multiple of its alignment), and little-endian
integers in a buffer of bytes. A field that was written is read back (`getLE_putLE`), and a field depends on
its own bytes only (`getLE_congr`).
-/

set_option autoImplicit false

namespace OperatingOrganism.ByteLayout

/-! ## Layout -/

/-- The size and the alignment of a type, in bytes. -/
structure CType where
  size : Nat
  align : Nat
  deriving DecidableEq, Repr

/-- An integer of so many bytes. -/
def CType.int (size : Nat) : CType := ⟨size, size⟩

def CType.array (t : CType) (length : Nat) : CType := ⟨t.size * length, t.align⟩

/-- The next multiple of the alignment. -/
def alignUp (place align : Nat) : Nat := (place + align - 1) / align * align

/-- Where the fields begin, when the first free place is `place`, and where the last one ends. -/
def offsets : List CType → Nat → List Nat × Nat
  | [], place => ([], place)
  | t :: fields, place =>
    let begins := alignUp place t.align
    let (rest, stop) := offsets fields (begins + t.size)
    (begins :: rest, stop)

/-- A record is as aligned as its fields, and ends on a multiple of its alignment. -/
def CType.struct (fields : List CType) : CType :=
  let align := fields.foldl (fun align t => max align t.align) 1
  ⟨alignUp (offsets fields 0).2 align, align⟩

/-- Where field `i` begins. -/
def offsetOf (fields : List CType) (i : Nat) : Nat := (offsets fields 0).1.getD i 0

/-! ## Buffers -/

/-- A buffer; places behind its end are not used. -/
abbrev Bytes := Nat → BitVec 8

/-- The number that `n` bytes spell, least significant byte first. -/
def leNat (b : Bytes) : (loc n : Nat) → Nat
  | _, 0 => 0
  | loc, n + 1 => (b loc).toNat + 256 * leNat b (loc + 1) n

/-- The integer of `w` bits at a place. -/
def getLE (w loc : Nat) (b : Bytes) : BitVec w := BitVec.ofNat w (leNat b loc (w / 8))

/-- The buffer with an integer written at a place. -/
def putLE {w : Nat} (loc : Nat) (v : BitVec w) (b : Bytes) : Bytes := fun k =>
  if loc ≤ k ∧ k < loc + w / 8 then BitVec.ofNat 8 (v.toNat / 256 ^ (k - loc)) else b k

/-- The buffer with `n` bytes of another one copied to a place. -/
def copyBytes (loc n : Nat) (source b : Bytes) : Bytes := fun k =>
  if loc ≤ k ∧ k < loc + n then source (k - loc) else b k

/-- Records of the same size, one after the other. -/
def arrayBytes (size : Nat) (item : Nat → Bytes) : Bytes := fun k => item (k / size) (k % size)

/-- The buffer with a file read to its beginning. -/
def overlay (file : List (BitVec 8)) (b : Bytes) : Bytes := fun k => file[k]?.getD (b k)

/-- The first `n` bytes, as a file. -/
def toFile (n : Nat) (b : Bytes) : List (BitVec 8) := (List.range n).map b

section

variable {w w' loc place n m i k size : Nat} {v : BitVec w} {b b' source : Bytes} {item : Nat → Bytes}

theorem leNat_congr (h : ∀ k, loc ≤ k → k < loc + n → b k = b' k) : leNat b loc n = leNat b' loc n := by
  induction n generalizing loc with
  | zero => rfl
  | succ n ih =>
    rw [leNat, leNat, h loc (Nat.le_refl loc) (by omega), ih fun k hk hkn => h k (by omega) (by omega)]

/-- The bytes of a number spell it. -/
theorem leNat_digits (h : ∀ k < n, (b (loc + k)).toNat = m / 256 ^ k % 256) :
    leNat b loc n = m % 256 ^ n := by
  induction n generalizing loc m with
  | zero => rw [Nat.pow_zero, Nat.mod_one]; rfl
  | succ n ih =>
    have hfirst : (b loc).toNat = m % 256 := by
      have := h 0 (Nat.succ_pos n)
      rwa [Nat.add_zero, Nat.pow_zero, Nat.div_one] at this
    have hrest : leNat b (loc + 1) n = m / 256 % 256 ^ n := by
      apply ih
      intro k hk
      rw [Nat.add_assoc, Nat.add_comm 1 k, h (k + 1) (by omega), Nat.pow_succ', Nat.div_div_eq_div_mul]
    rw [leNat, hfirst, hrest, Nat.pow_succ', Nat.mod_mul]

/-- A field depends on its bytes only. -/
theorem getLE_congr (h : ∀ k, loc ≤ k → k < loc + w / 8 → b k = b' k) : getLE w loc b = getLE w loc b' := by
  rw [getLE, getLE, leNat_congr h]

/-- What was written is read back. -/
theorem getLE_putLE (hw : w / 8 * 8 = w) : getLE w loc (putLE loc v b) = v := by
  have hdigits : leNat (putLE loc v b) loc (w / 8) = v.toNat % 256 ^ (w / 8) := by
    apply leNat_digits
    intro k hk
    rw [putLE, if_pos ⟨Nat.le_add_right loc k, Nat.add_lt_add_left hk loc⟩, BitVec.toNat_ofNat,
      Nat.add_sub_cancel_left]
  have hpow : 256 ^ (w / 8) = 2 ^ w := by
    calc 256 ^ (w / 8) = 2 ^ (8 * (w / 8)) := (Nat.pow_mul 2 8 (w / 8)).symm
      _ = 2 ^ w := by rw [Nat.mul_comm, hw]
  rw [getLE, hdigits, hpow, Nat.mod_eq_of_lt v.isLt, BitVec.ofNat_toNat, BitVec.setWidth_eq]

/-- A write elsewhere does not matter. -/
theorem getLE_putLE_of_apart (h : place + w / 8 ≤ loc ∨ loc + w' / 8 ≤ place) {v : BitVec w'} :
    getLE w place (putLE loc v b) = getLE w place b := by
  apply getLE_congr
  intro k hk hkw
  exact if_neg (by omega)

/-- A field of the bytes that were copied. -/
theorem getLE_copyBytes (h : i + w / 8 ≤ n) :
    getLE w (loc + i) (copyBytes loc n source b) = getLE w i source := by
  have hbytes : ∀ j m, j + m ≤ n → leNat (copyBytes loc n source b) (loc + j) m = leNat source j m := by
    intro j m
    -- induction on the bytes still to be read
    induction m generalizing j with
    | zero => exact fun _ => rfl
    | succ m ih =>
      intro hjm
      rw [leNat, leNat, Nat.add_assoc loc j 1, ih (j + 1) (by omega), copyBytes, if_pos (by omega),
        Nat.add_sub_cancel_left]
  rw [getLE, getLE, hbytes i (w / 8) h]

/-- A copy to elsewhere does not matter. -/
theorem getLE_copyBytes_of_apart (h : place + w / 8 ≤ loc ∨ loc + n ≤ place) :
    getLE w place (copyBytes loc n source b) = getLE w place b := by
  apply getLE_congr
  intro k hk hkw
  exact if_neg (by omega)

/-- A field of one of the records. -/
theorem getLE_arrayBytes (h : k + w / 8 ≤ size) :
    getLE w (size * i + k) (arrayBytes size item) = getLE w k (item i) := by
  have hbytes : ∀ j m, j + m ≤ size → leNat (arrayBytes size item) (size * i + j) m = leNat (item i) j m := by
    intro j m
    induction m generalizing j with
    | zero => exact fun _ => rfl
    | succ m ih =>
      intro hjm
      -- the byte is still one of this record
      have hmod : (size * i + j) % size = j := by
        rw [Nat.mul_add_mod, Nat.mod_eq_of_lt (by omega)]
      have hdiv : (size * i + j) / size = i := by
        rw [Nat.mul_add_div (by omega), Nat.div_eq_of_lt (by omega), Nat.add_zero]
      rw [leNat, leNat, Nat.add_assoc _ j 1, ih (j + 1) (by omega), arrayBytes, hmod, hdiv]
  rw [getLE, getLE, hbytes k (w / 8) h]

theorem length_toFile (n : Nat) (b : Bytes) : (toFile n b).length = n := by
  rw [toFile, List.length_map, List.length_range]

/-- A file that is read back. -/
theorem overlay_toFile (h : k < n) : overlay (toFile n b) b' k = b k := by
  rw [overlay, toFile, List.getElem?_map, List.getElem?_range h]
  rfl

end

end OperatingOrganism.ByteLayout

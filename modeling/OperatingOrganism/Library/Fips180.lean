import Mathlib.Algebra.Order.Ring.Nat
import Mathlib.Data.Nat.Log

/-!
# SHA-256

The digest that FIPS 180-4 gives to a message of whole bytes. The message is padded to full blocks of 64 bytes
(`pad`), and the blocks are taken into the hash value one after another (`hashBlocks`). The constants of the standard
are the first bits of the fractional parts of roots of primes; they are found by a search for the integer part of a
scaled root (`scaledRoot`), which is what it should be by its type.

The hash value of the first blocks does not depend on what follows them (`hashBlocks_append`).
-/

set_option autoImplicit false

namespace OperatingOrganism.Fips180

abbrev Byte := BitVec 8

abbrev Word := BitVec 32

/-! ## Functions -/

/-- `ROTR` -/
def rotr (n : Nat) (x : Word) : Word := x >>> n ||| x <<< (32 - n)

/-- `Ch` -/
def ch (x y z : Word) : Word := (x &&& y) ^^^ (~~~x &&& z)

/-- `Maj` -/
def maj (x y z : Word) : Word := (x &&& y) ^^^ (x &&& z) ^^^ (y &&& z)

/-- `Σ₀` -/
def bigSigma0 (x : Word) : Word := rotr 2 x ^^^ rotr 13 x ^^^ rotr 22 x

/-- `Σ₁` -/
def bigSigma1 (x : Word) : Word := rotr 6 x ^^^ rotr 11 x ^^^ rotr 25 x

/-- `σ₀` -/
def smallSigma0 (x : Word) : Word := rotr 7 x ^^^ rotr 18 x ^^^ (x >>> 3)

/-- `σ₁` -/
def smallSigma1 (x : Word) : Word := rotr 17 x ^^^ rotr 19 x ^^^ (x >>> 10)

/-! ## Constants -/

/-- The search for the integer part of a root, bit by bit from above. -/
def rootFrom (e n : Nat) : Nat → Nat → Nat
  | 0, r => r
  | bits + 1, r => if (r + 2 ^ bits) ^ e ≤ n then rootFrom e n bits (r + 2 ^ bits) else rootFrom e n bits r

theorem rootFrom_spec {e n : Nat} (bits r : Nat) (hlow : r ^ e ≤ n) (hhigh : n < (r + 2 ^ bits) ^ e) :
    rootFrom e n bits r ^ e ≤ n ∧ n < (rootFrom e n bits r + 1) ^ e := by
  induction bits generalizing r with
  | zero => exact ⟨hlow, hhigh⟩
  | succ bits ih =>
    rw [rootFrom]
    split
    · next hle =>
      refine ih _ hle ?_
      rw [Nat.add_assoc, ← Nat.two_mul, ← Nat.pow_succ']
      exact hhigh
    · next hgt => exact ih r hlow (Nat.not_le.1 hgt)

/-- The integer part of the `e`-th root of `p` times `2 ^ 32`. -/
def scaledRoot (e p : Nat) (he : 0 < e) : { r : Nat // r ^ e ≤ p * 2 ^ (32 * e) ∧ p * 2 ^ (32 * e) < (r + 1) ^ e } :=
  ⟨rootFrom e (p * 2 ^ (32 * e)) (p.log2 + 1 + 32) 0, by
    refine rootFrom_spec _ 0 ?_ ?_
    · rw [Nat.zero_pow he]
      exact Nat.zero_le _
    · rw [Nat.zero_add, ← Nat.pow_mul, Nat.add_mul, Nat.pow_add]
      refine Nat.mul_lt_mul_of_pos_right ?_ (Nat.two_pow_pos _)
      calc p < 2 ^ (p.log2 + 1) := Nat.lt_log2_self
        _ ≤ 2 ^ ((p.log2 + 1) * e) := Nat.pow_le_pow_right (by decide) (Nat.le_mul_of_pos_right _ he)⟩

/-- The first 32 bits of the fractional part of the `e`-th root. -/
def fraction (e p : Nat) (he : 0 < e) : Word := .ofNat 32 (scaledRoot e p he).val

/-- The first sixty-four primes. -/
def primes : List Nat :=
  [2, 3, 5, 7, 11, 13, 17, 19, 23, 29, 31, 37, 41, 43, 47, 53, 59, 61, 67, 71, 73, 79, 83, 89, 97, 101, 103, 107, 109,
    113, 127, 131, 137, 139, 149, 151, 157, 163, 167, 173, 179, 181, 191, 193, 197, 199, 211, 223, 227, 229, 233, 239,
    241, 251, 257, 263, 269, 271, 277, 281, 283, 293, 307, 311]

/-- The constant of round `t`. -/
def roundConstant (t : Nat) : Word := fraction 3 (primes.getD t 0) (by decide)

/-! ## The hash value -/

/-- A hash value, or the working variables of a compression. -/
structure Registers where
  a : Word
  b : Word
  c : Word
  d : Word
  e : Word
  f : Word
  g : Word
  h : Word
  deriving DecidableEq

/-- The initial hash value. -/
def initial : Registers :=
  let root := fun i => fraction 2 (primes.getD i 0) (by decide)
  ⟨root 0, root 1, root 2, root 3, root 4, root 5, root 6, root 7⟩

/-- The message schedule of a block with the words `M`. -/
def schedule (M : Nat → Word) (t : Nat) : Word :=
  if t < 16 then M t
  else
    smallSigma1 (schedule M (t - 2)) + schedule M (t - 7) + smallSigma0 (schedule M (t - 15)) + schedule M (t - 16)
termination_by t

/-- A round. -/
def round (k w : Word) (v : Registers) : Registers :=
  let t₁ := v.h + bigSigma1 v.e + ch v.e v.f v.g + k + w
  let t₂ := bigSigma0 v.a + maj v.a v.b v.c
  ⟨t₁ + t₂, v.a, v.b, v.c, v.d + t₁, v.e, v.f, v.g⟩

/-- The next hash value. -/
def compress (H : Registers) (M : Nat → Word) : Registers :=
  let v := (List.range 64).foldl (fun v t => round (roundConstant t) (schedule M t) v) H
  ⟨v.a + H.a, v.b + H.b, v.c + H.c, v.d + H.d, v.e + H.e, v.f + H.f, v.g + H.g, v.h + H.h⟩

/-- Word `t` of block `i`, most significant byte first. -/
def blockWord (padded : List Byte) (i t : Nat) : Word :=
  let byte := fun k => padded.getD (64 * i + (4 * t + k)) 0
  byte 0 ++ byte 1 ++ byte 2 ++ byte 3

/-- The hash value after the first `n` blocks. -/
def hashBlocks (padded : List Byte) (n : Nat) : Registers :=
  (List.range n).foldl (fun H i => compress H (blockWord padded i)) initial

/-! ## The digest -/

/-- The number of zero bytes in the padding: the least that leaves eight bytes of a block for the length. -/
def zeros (length : Nat) : Nat := (119 - length % 64) % 64

/-- A number of 64 bits, most significant byte first. -/
def bigEndian (n : Nat) : List Byte := (List.range 8).map fun i => .ofNat 8 (n / 256 ^ (7 - i))

/-- What is appended to a message of a length in bytes: a one bit, zeros and the length in bits. -/
def padding (length : Nat) : List Byte := 0x80#8 :: (List.replicate (zeros length) 0 ++ bigEndian (8 * length))

def pad (message : List Byte) : List Byte := message ++ padding message.length

def wordBytes (w : Word) : List Byte :=
  [(w >>> 24).setWidth 8, (w >>> 16).setWidth 8, (w >>> 8).setWidth 8, w.setWidth 8]

def digest (H : Registers) : List Byte := [H.a, H.b, H.c, H.d, H.e, H.f, H.g, H.h].flatMap wordBytes

/-- The digest of a message of less than `2 ^ 61` bytes. -/
def sha256 (message : List Byte) : List Byte := digest (hashBlocks (pad message) ((pad message).length / 64))

/-! ## Block by block -/

theorem schedule_lt {t : Nat} (h : t < 16) (M : Nat → Word) : schedule M t = M t := by
  rw [schedule, if_pos h]

theorem schedule_ge {t : Nat} (h : ¬ t < 16) (M : Nat → Word) :
    schedule M t = smallSigma1 (schedule M (t - 2)) + schedule M (t - 7) + smallSigma0 (schedule M (t - 15)) +
      schedule M (t - 16) := by
  rw [schedule, if_neg h]

theorem hashBlocks_zero (padded : List Byte) : hashBlocks padded 0 = initial := rfl

theorem hashBlocks_succ (padded : List Byte) (n : Nat) :
    hashBlocks padded (n + 1) = compress (hashBlocks padded n) (blockWord padded n) := by
  rw [hashBlocks, List.range_succ, List.foldl_append]
  rfl

/-- A block does not depend on what follows it. -/
theorem blockWord_append {padded : List Byte} {i t : Nat} (hi : 64 * (i + 1) ≤ padded.length) (ht : t < 16)
    (rest : List Byte) : blockWord (padded ++ rest) i t = blockWord padded i t := by
  have hbyte : ∀ k, k < 4 →
      (padded ++ rest).getD (64 * i + (4 * t + k)) 0 = padded.getD (64 * i + (4 * t + k)) 0 := by
    intro k hk
    rw [List.getD_eq_getElem?_getD, List.getD_eq_getElem?_getD, List.getElem?_append_left (by omega)]
  rw [blockWord, blockWord]
  dsimp only
  rw [hbyte 0 (by decide), hbyte 1 (by decide), hbyte 2 (by decide), hbyte 3 (by decide)]

/-- The schedule only looks at the sixteen words of the block. -/
theorem schedule_congr {M M' : Nat → Word} (h : ∀ t, t < 16 → M t = M' t) (t : Nat) : schedule M t = schedule M' t := by
  induction t using Nat.strongRecOn with
  | ind t ih =>
    by_cases hlt : t < 16
    · rw [schedule_lt hlt, schedule_lt hlt, h t hlt]
    · rw [schedule_ge hlt, schedule_ge hlt, ih (t - 2) (by omega), ih (t - 7) (by omega), ih (t - 15) (by omega),
        ih (t - 16) (by omega)]

theorem compress_congr {M M' : Nat → Word} (h : ∀ t, t < 16 → M t = M' t) (H : Registers) :
    compress H M = compress H M' := by
  rw [compress, compress]
  simp only [schedule_congr h]

/-- The first blocks do not depend on what follows them. -/
theorem hashBlocks_append {padded : List Byte} {n : Nat} (hn : 64 * n ≤ padded.length) (rest : List Byte) :
    hashBlocks (padded ++ rest) n = hashBlocks padded n := by
  induction n with
  | zero => rw [hashBlocks_zero, hashBlocks_zero]
  | succ n ih =>
    rw [hashBlocks_succ, hashBlocks_succ, ih (by omega)]
    exact compress_congr (fun t ht => blockWord_append hn ht rest) _

end OperatingOrganism.Fips180

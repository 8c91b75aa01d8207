import Mathlib.Data.Vector.Defs

/-!
# The SHA-256 of the bot

The incremental hash of `bot_dna.c`: a block buffer that is compressed whenever it is full, and a padding that is
built in a scratch array and fed back through the update. `sha256_init` leaves the buffer as it finds it; the digest
does not depend on that (`digest_congr`).
-/

set_option autoImplicit false

namespace OperatingOrganism.Bot

/-- `sha256_ctx_t` -/
structure Sha256Ctx where
  state : Vector (BitVec 32) 8
  count : BitVec 64
  buf : Vector (BitVec 8) 64

namespace Sha256

/-- `K` -/
def K : Vector (BitVec 32) 64 :=
  #v[0x428a2f98, 0x71374491, 0xb5c0fbcf, 0xe9b5dba5, 0x3956c25b, 0x59f111f1, 0x923f82a4, 0xab1c5ed5,
    0xd807aa98, 0x12835b01, 0x243185be, 0x550c7dc3, 0x72be5d74, 0x80deb1fe, 0x9bdc06a7, 0xc19bf174,
    0xe49b69c1, 0xefbe4786, 0x0fc19dc6, 0x240ca1cc, 0x2de92c6f, 0x4a7484aa, 0x5cb0a9dc, 0x76f988da,
    0x983e5152, 0xa831c66d, 0xb00327c8, 0xbf597fc7, 0xc6e00bf3, 0xd5a79147, 0x06ca6351, 0x14292967,
    0x27b70a85, 0x2e1b2138, 0x4d2c6dfc, 0x53380d13, 0x650a7354, 0x766a0abb, 0x81c2c92e, 0x92722c85,
    0xa2bfe8a1, 0xa81a664b, 0xc24b8b70, 0xc76c51a3, 0xd192e819, 0xd6990624, 0xf40e3585, 0x106aa070,
    0x19a4c116, 0x1e376c08, 0x2748774c, 0x34b0bcb5, 0x391c0cb3, 0x4ed8aa4a, 0x5b9cca4f, 0x682e6ff3,
    0x748f82ee, 0x78a5636f, 0x84c87814, 0x8cc70208, 0x90befffa, 0xa4506ceb, 0xbef9a3f7, 0xc67178f2]

def S0 (x : BitVec 32) : BitVec 32 := x.rotateRight 2 ^^^ x.rotateRight 13 ^^^ x.rotateRight 22

def S1 (x : BitVec 32) : BitVec 32 := x.rotateRight 6 ^^^ x.rotateRight 11 ^^^ x.rotateRight 25

def R0 (x : BitVec 32) : BitVec 32 := x.rotateRight 7 ^^^ x.rotateRight 18 ^^^ (x >>> 3)

def R1 (x : BitVec 32) : BitVec 32 := x.rotateRight 17 ^^^ x.rotateRight 19 ^^^ (x >>> 10)

def Ch (x y z : BitVec 32) : BitVec 32 := (x &&& y) ^^^ (~~~x &&& z)

def Maj (x y z : BitVec 32) : BitVec 32 := (x &&& y) ^^^ (x &&& z) ^^^ (y &&& z)

/-- The eight variables of a compression. -/
structure Working where
  a : BitVec 32
  b : BitVec 32
  c : BitVec 32
  d : BitVec 32
  e : BitVec 32
  f : BitVec 32
  g : BitVec 32
  h : BitVec 32
  deriving DecidableEq

/-- Word `i` of a block, most significant byte first. -/
def word (data : Vector (BitVec 8) 64) (i : Nat) : BitVec 32 :=
  let byte := fun k => data[i * 4 + k]?.getD 0
  byte 0 ++ byte 1 ++ byte 2 ++ byte 3

/-- The first `n` entries of the array `w`. -/
def schedule (data : Vector (BitVec 8) 64) : (n : Nat) → Vector (BitVec 32) n
  | 0 => #v[]
  | n + 1 =>
    let w := schedule data n
    let back := fun k => w[n - k]?.getD 0
    w.push (if n < 16 then word data n else R1 (back 2) + back 7 + R0 (back 15) + back 16)

/-- Round `i` with the schedule `w`. -/
def round (w : Vector (BitVec 32) 64) (v : Working) (i : Fin 64) : Working :=
  let t1 := v.h + S1 v.e + Ch v.e v.f v.g + K[i] + w[i]
  let t2 := S0 v.a + Maj v.a v.b v.c
  { h := v.g, g := v.f, f := v.e, e := v.d + t1, d := v.c, c := v.b, b := v.a, a := t1 + t2 }

/-- The state after a compression. -/
def compress (s : Vector (BitVec 32) 8) (data : Vector (BitVec 8) 64) : Vector (BitVec 32) 8 :=
  let v := (List.finRange 64).foldl (round (schedule data 64)) ⟨s[0], s[1], s[2], s[3], s[4], s[5], s[6], s[7]⟩
  #v[s[0] + v.a, s[1] + v.b, s[2] + v.c, s[3] + v.d, s[4] + v.e, s[5] + v.f, s[6] + v.g, s[7] + v.h]

end Sha256

open Sha256

/-- `sha256_transform` -/
def sha256Transform (ctx : Sha256Ctx) (data : Vector (BitVec 8) 64) : Sha256Ctx :=
  { ctx with state := compress ctx.state data }

/-- `sha256_init`; `buf` is what the local variable holds. -/
def sha256Init (buf : Vector (BitVec 8) 64) : Sha256Ctx where
  state := #v[0x6a09e667, 0xbb67ae85, 0x3c6ef372, 0xa54ff53a, 0x510e527f, 0x9b05688c, 0x1f83d9ab, 0x5be0cd19]
  count := 0
  buf := buf

/-- The body of the loop of `sha256_update`, with the place `j` in the buffer. -/
def sha256Put (r : Sha256Ctx × Nat) (byte : BitVec 8) : Sha256Ctx × Nat :=
  let ctx := { r.1 with buf := r.1.buf.setIfInBounds r.2 byte }
  if r.2 + 1 = 64 then (sha256Transform ctx ctx.buf, 0) else (ctx, r.2 + 1)

/-- `sha256_update` -/
def sha256Update (ctx : Sha256Ctx) (data : List (BitVec 8)) : Sha256Ctx :=
  let j := (ctx.count &&& 63).toNat
  (data.foldl sha256Put ({ ctx with count := ctx.count + .ofNat 64 data.length }, j)).1

/-- `plen` of `sha256_final` -/
def paddingLength (ctx : Sha256Ctx) : Nat :=
  let j := (ctx.count &&& 63).toNat
  if j < 56 then 56 - j else 120 - j

/-- What `sha256_final` puts in `pad` and hands to the update. Where `plen` is more than 56, the last of these bytes
lie behind the array of the source. -/
def padding (ctx : Sha256Ctx) : List (BitVec 8) :=
  let bits := ctx.count * 8
  (0x80#8 :: List.replicate (paddingLength ctx - 1) 0#8) ++
    (List.range 8).map fun i => (bits >>> (56 - 8 * i)).setWidth 8

/-- `sha256_final` -/
def sha256Final (ctx : Sha256Ctx) : Vector (BitVec 8) 32 :=
  let ctx := sha256Update ctx (padding ctx)
  .ofFn fun i => (ctx.state[i.val / 4] >>> (24 - 8 * (i.val % 4))).setWidth 8

/-! ## What the buffer holds before -/

/-- Two runs that stand at the same place and differ at most in the part of the buffer that is still to be
written. -/
structure Agree (r r' : Sha256Ctx × Nat) : Prop where
  place : r.2 = r'.2
  place_lt : r.2 < 64
  state : r.1.state = r'.1.state
  count : r.1.count = r'.1.count
  buf : ∀ k < r.2, r.1.buf[k]? = r'.1.buf[k]?

section

variable {r r' : Sha256Ctx × Nat} {ctx ctx' : Sha256Ctx}

/-- Writing the same byte makes one more place agree. -/
theorem Agree.setIfInBounds (h : Agree r r') (byte : BitVec 8) :
    ∀ k < r.2 + 1, (r.1.buf.setIfInBounds r.2 byte)[k]? = (r'.1.buf.setIfInBounds r'.2 byte)[k]? := by
  intro k hk
  have hlt := h.place_lt
  rw [← h.place, Vector.getElem?_setIfInBounds, Vector.getElem?_setIfInBounds]
  by_cases heq : r.2 = k
  · rw [if_pos heq, if_pos heq]
  · rw [if_neg heq, if_neg heq]
    exact h.buf k (by omega)

theorem sha256Put_full (h : r.2 + 1 = 64) (byte : BitVec 8) :
    sha256Put r byte = (sha256Transform { r.1 with buf := r.1.buf.setIfInBounds r.2 byte }
      (r.1.buf.setIfInBounds r.2 byte), 0) := if_pos h

theorem sha256Put_room (h : ¬ r.2 + 1 = 64) (byte : BitVec 8) :
    sha256Put r byte = ({ r.1 with buf := r.1.buf.setIfInBounds r.2 byte }, r.2 + 1) := if_neg h

/-- The same byte keeps the runs in agreement: a buffer that is compressed agrees everywhere. -/
theorem Agree.put (h : Agree r r') (byte : BitVec 8) : Agree (sha256Put r byte) (sha256Put r' byte) := by
  have hbuf := h.setIfInBounds byte
  have hlt := h.place_lt
  by_cases hfull : r.2 + 1 = 64
  · have hsame : r.1.buf.setIfInBounds r.2 byte = r'.1.buf.setIfInBounds r'.2 byte := by
      apply Vector.ext
      intro k hk
      have heq := hbuf k (by omega)
      rw [Vector.getElem?_eq_getElem hk, Vector.getElem?_eq_getElem hk] at heq
      exact Option.some.inj heq
    rw [sha256Put_full hfull, sha256Put_full (h.place ▸ hfull)]
    refine ⟨rfl, Nat.zero_lt_succ 63, ?_, h.count, ?_⟩
    · rw [sha256Transform, sha256Transform, hsame, h.state]
    · intro k hk
      exact absurd hk (Nat.not_lt_zero k)
  · rw [sha256Put_room hfull, sha256Put_room (h.place ▸ hfull)]
    exact ⟨congrArg (· + 1) h.place, Nat.lt_of_le_of_ne hlt hfull, h.state, h.count, hbuf⟩

theorem Agree.foldl (h : Agree r r') (data : List (BitVec 8)) :
    Agree (data.foldl sha256Put r) (data.foldl sha256Put r') := by
  induction data generalizing r r' with
  | nil => exact h
  | cons byte data ih => exact ih (h.put byte)

/-- The place in the buffer goes round. -/
theorem foldl_place (hlt : r.2 < 64) (data : List (BitVec 8)) :
    (data.foldl sha256Put r).2 = (r.2 + data.length) % 64 ∧ (data.foldl sha256Put r).1.count = r.1.count := by
  induction data generalizing r with
  | nil => exact ⟨(Nat.mod_eq_of_lt hlt).symm, rfl⟩
  | cons byte data ih =>
    have hput : (sha256Put r byte).2 = (r.2 + 1) % 64 ∧ (sha256Put r byte).1.count = r.1.count := by
      by_cases hfull : r.2 + 1 = 64
      · rw [sha256Put_full hfull, hfull]
        exact ⟨rfl, rfl⟩
      · rw [sha256Put_room hfull, Nat.mod_eq_of_lt (Nat.lt_of_le_of_ne hlt hfull)]
        exact ⟨rfl, rfl⟩
    obtain ⟨hplace, hcount⟩ := ih (r := sha256Put r byte) (by rw [hput.1]; exact Nat.mod_lt _ (by decide))
    rw [List.foldl_cons, hplace, hcount, hput.1, hput.2, List.length_cons, Nat.mod_add_mod, Nat.add_assoc,
      Nat.add_comm 1]
    exact ⟨rfl, rfl⟩

theorem toNat_count_and (count : BitVec 64) : (count &&& 63).toNat = count.toNat % 64 := by
  rw [BitVec.toNat_and]
  exact Nat.and_two_pow_sub_one_eq_mod count.toNat 6

/-- The contexts agree on what the next update or the digest reads. -/
def Alike (ctx ctx' : Sha256Ctx) : Prop :=
  Agree (ctx, (ctx.count &&& 63).toNat) (ctx', (ctx'.count &&& 63).toNat)

theorem alike_init (buf buf' : Vector (BitVec 8) 64) : Alike (sha256Init buf) (sha256Init buf') := by
  have hzero : ((0 : BitVec 64) &&& 63).toNat = 0 := by decide
  refine ⟨rfl, ?_, rfl, rfl, ?_⟩
  · exact hzero ▸ Nat.zero_lt_succ 63
  · intro k hk
    exact absurd (hzero ▸ hk) (Nat.not_lt_zero k)

theorem Alike.update (h : Alike ctx ctx') (data : List (BitVec 8)) :
    Alike (sha256Update ctx data) (sha256Update ctx' data) := by
  have hcount : ctx.count = ctx'.count := h.count
  have hstart : Agree ({ ctx with count := ctx.count + .ofNat 64 data.length }, (ctx.count &&& 63).toNat)
      ({ ctx' with count := ctx'.count + .ofNat 64 data.length }, (ctx'.count &&& 63).toNat) :=
    ⟨h.place, h.place_lt, h.state, congrArg (· + _) hcount, h.buf⟩
  have hend := hstart.foldl data
  obtain ⟨hplace, hlater⟩ := foldl_place hstart.place_lt data
  have hhere : ((sha256Update ctx data).count &&& 63).toNat = (data.foldl sha256Put
      ({ ctx with count := ctx.count + .ofNat 64 data.length }, (ctx.count &&& 63).toNat)).2 := by
    rw [hplace, toNat_count_and, toNat_count_and]
    rw [sha256Update]
    dsimp only
    rw [hlater, BitVec.toNat_add, BitVec.toNat_ofNat]
    omega
  have hcount' : (sha256Update ctx data).count = (sha256Update ctx' data).count := hend.count
  refine ⟨congrArg (fun count => (count &&& 63#64).toNat) hcount', ?_, hend.state, hcount', ?_⟩
  · rw [toNat_count_and]
    exact Nat.mod_lt _ (by decide)
  · rw [hhere]
    exact hend.buf

theorem Alike.final (h : Alike ctx ctx') : sha256Final ctx = sha256Final ctx' := by
  have hcount : ctx.count = ctx'.count := h.count
  have hpad : padding ctx = padding ctx' := by
    rw [padding, padding, paddingLength, paddingLength, hcount]
  have hstate := (h.update (padding ctx)).state
  rw [sha256Final, sha256Final, ← hpad]
  exact congrArg (fun state : Vector (BitVec 32) 8 => Vector.ofFn fun i : Fin 32 =>
    (state[i.val / 4] >>> (24 - 8 * (i.val % 4))).setWidth 8) hstate

end

/-- The digest of a message does not depend on what the buffer held. -/
theorem digest_congr (buf buf' : Vector (BitVec 8) 64) (data : List (BitVec 8)) :
    sha256Final (sha256Update (sha256Init buf) data) = sha256Final (sha256Update (sha256Init buf') data) :=
  ((alike_init buf buf').update data).final

/-- The bytes of an ASCII text. -/
def asciiBytes (text : String) : List (BitVec 8) := text.toList.map fun c => .ofNat 8 c.toNat

end OperatingOrganism.Bot

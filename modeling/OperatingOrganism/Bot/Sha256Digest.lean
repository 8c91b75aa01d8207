import Mathlib.Data.List.FinRange
import OperatingOrganism.Bot.Sha256
import OperatingOrganism.Library.Fips180

/-!
# The digest of the standard

The compression of `bot_dna.c` is that of the standard (`registers_compress`), and the buffer turns any sequence of
updates into the blocks of the message (`Holds.update`). `sha256_final` builds the padding in an array of 64 bytes.
It needs up to 72: where fewer than eight bytes of the last block are left for the length, the padding is written
and read behind the array. So the hash is SHA-256 with all accesses in bounds if and only if the message leaves them
(`sha256_is_fips_iff`).
-/

set_option autoImplicit false

namespace OperatingOrganism.Bot

open Sha256

/-! ## Accesses -/

/-- The places of `buf` that the loop of `sha256_update` writes. -/
def putPlaces : Sha256Ctx × Nat → List (BitVec 8) → List Nat
  | _, [] => []
  | r, byte :: data => r.2 :: putPlaces (sha256Put r byte) data

/-- The places of `buf` that a call of `sha256_update` writes. -/
def updatePlaces (ctx : Sha256Ctx) (data : List (BitVec 8)) : List Nat :=
  putPlaces ({ ctx with count := ctx.count + .ofNat 64 data.length }, (ctx.count &&& 63).toNat) data

/-- The places of `buf` that the updates and `sha256_final` write. -/
def bufWrites : Sha256Ctx → List (List (BitVec 8)) → List Nat
  | ctx, [] => updatePlaces ctx (padding ctx)
  | ctx, chunk :: chunks => updatePlaces ctx chunk ++ bufWrites (sha256Update ctx chunk) chunks

/-- The places of `buf` that `sha256_transform` reads. -/
def bufReads : List Nat := (List.range 16).flatMap fun i => [i * 4, i * 4 + 1, i * 4 + 2, i * 4 + 3]

/-- The places of `pad` that `sha256_final` writes. -/
def padWrites (ctx : Sha256Ctx) : List Nat :=
  0 :: ((List.range (paddingLength ctx - 1)).map fun k => 1 + k) ++ (List.range 8).map fun i => paddingLength ctx + i

/-- The places of `pad` that the update in `sha256_final` reads. -/
def padReads (ctx : Sha256Ctx) : List Nat := List.range (paddingLength ctx + 8)

/-- The context after the updates. -/
def sha256Updates (buf : Vector (BitVec 8) 64) (chunks : List (List (BitVec 8))) : Sha256Ctx :=
  chunks.foldl sha256Update (sha256Init buf)

/-- The hash of the chunks is that of the standard for the whole message, and `buf` and `pad` are accessed in bounds
only. -/
structure IsFips (buf : Vector (BitVec 8) 64) (chunks : List (List (BitVec 8))) : Prop where
  digest : (sha256Final (sha256Updates buf chunks)).toList = Fips180.sha256 chunks.flatten
  bufInBounds : ∀ k ∈ bufWrites (sha256Init buf) chunks ++ bufReads, k < 64
  padInBounds : ∀ k ∈ padWrites (sha256Updates buf chunks) ++ padReads (sha256Updates buf chunks), k < 64

/-! ## The compression -/

/-- The words of the state as the hash value of the standard. -/
def registers (s : Vector (BitVec 32) 8) : Fips180.Registers :=
  ⟨s.get 0, s.get 1, s.get 2, s.get 3, s.get 4, s.get 5, s.get 6, s.get 7⟩

def Sha256.Working.registers (v : Working) : Fips180.Registers := ⟨v.a, v.b, v.c, v.d, v.e, v.f, v.g, v.h⟩

theorem K_eq : ∀ i : Fin 64, K.get i = Fips180.roundConstant i := by decide +kernel

theorem registers_init : registers (sha256Init (.replicate 64 0)).state = Fips180.initial := by decide +kernel

theorem R0_eq (x : BitVec 32) : R0 x = Fips180.smallSigma0 x := rfl

theorem R1_eq (x : BitVec 32) : R1 x = Fips180.smallSigma1 x := rfl

/-- The array `w` is the message schedule. -/
theorem getElem_schedule (data : Vector (BitVec 8) 64) (n i : Nat) (hi : i < n) :
    (Sha256.schedule data n)[i] = Fips180.schedule (word data) i := by
  induction n generalizing i with
  | zero => exact absurd hi (Nat.not_lt_zero i)
  | succ n ih =>
    have hback : ∀ k, 0 < k → k ≤ n →
        (Sha256.schedule data n)[n - k]?.getD 0 = Fips180.schedule (word data) (n - k) := by
      intro k hk hle
      have hlt : n - k < n := Nat.sub_lt (Nat.lt_of_lt_of_le hk hle) hk
      rw [Vector.getElem?_eq_getElem hlt, Option.getD_some, ih _ hlt]
    simp only [Sha256.schedule, Vector.getElem_push]
    split
    · next hlt => exact ih i hlt
    · next hge =>
      obtain rfl : i = n := Nat.le_antisymm (Nat.lt_succ_iff.1 hi) (Nat.not_lt.1 hge)
      by_cases hfirst : i < 16
      · rw [if_pos hfirst, Fips180.schedule_lt hfirst]
      · rw [if_neg hfirst, Fips180.schedule_ge hfirst, hback 2 (by decide) (by omega), hback 7 (by decide) (by omega),
          hback 15 (by decide) (by omega), hback 16 (by decide) (by omega), R0_eq, R1_eq]

/-- A round is that of the standard. -/
theorem registers_round (w : Vector (BitVec 32) 64) (v : Working) (i : Fin 64) :
    (Sha256.round w v i).registers = Fips180.round (K.get i) (w.get i) v.registers := rfl

/-- The rounds are those of the standard. -/
theorem registers_rounds (data : Vector (BitVec 8) 64) (is : List (Fin 64)) (v : Working) :
    (is.foldl (Sha256.round (Sha256.schedule data 64)) v).registers =
      (is.map Fin.val).foldl
        (fun v t => Fips180.round (Fips180.roundConstant t) (Fips180.schedule (word data) t) v) v.registers := by
  induction is generalizing v with
  | nil => rfl
  | cons i is ih =>
    have hword : (Sha256.schedule data 64).get i = Fips180.schedule (word data) i := getElem_schedule data 64 i i.isLt
    rw [List.foldl_cons, ih, registers_round, K_eq, hword, List.map_cons, List.foldl_cons]

/-- The last additions. -/
theorem registers_add (s : Vector (BitVec 32) 8) (v : Working) :
    registers #v[s.get 0 + v.a, s.get 1 + v.b, s.get 2 + v.c, s.get 3 + v.d, s.get 4 + v.e, s.get 5 + v.f,
        s.get 6 + v.g, s.get 7 + v.h] =
      ⟨v.a + s.get 0, v.b + s.get 1, v.c + s.get 2, v.d + s.get 3, v.e + s.get 4, v.f + s.get 5, v.g + s.get 6,
        v.h + s.get 7⟩ := by
  rw [BitVec.add_comm v.a, BitVec.add_comm v.b, BitVec.add_comm v.c, BitVec.add_comm v.d, BitVec.add_comm v.e,
    BitVec.add_comm v.f, BitVec.add_comm v.g, BitVec.add_comm v.h]
  rfl

/-- The compression is that of the standard. -/
theorem registers_compress (s : Vector (BitVec 32) 8) (data : Vector (BitVec 8) 64) :
    registers (compress s data) = Fips180.compress (registers s) (word data) := by
  have hrounds := registers_rounds data (List.finRange 64) ⟨s[0], s[1], s[2], s[3], s[4], s[5], s[6], s[7]⟩
  have hstart : Working.registers ⟨s[0], s[1], s[2], s[3], s[4], s[5], s[6], s[7]⟩ = registers s := rfl
  rw [List.map_coe_finRange_eq_range, hstart] at hrounds
  rw [Fips180.compress, ← hrounds]
  exact registers_add s _

/-! ## The buffer -/

/-- The loop has been through the bytes: their full blocks are in the state, and the rest is in the buffer. -/
structure Fed (r : Sha256Ctx × Nat) (bytes : List (BitVec 8)) : Prop where
  place : r.2 = bytes.length % 64
  buf : ∀ k, k < r.2 → r.1.buf[k]? = bytes[64 * (bytes.length / 64) + k]?
  state : registers r.1.state = Fips180.hashBlocks bytes (bytes.length / 64)

section

variable {r : Sha256Ctx × Nat} {ctx : Sha256Ctx} {bytes : List (BitVec 8)}

/-- A buffer that holds a block has its words. -/
theorem word_eq_blockWord {data : Vector (BitVec 8) 64} {i : Nat}
    (h : ∀ k, k < 64 → data[k]? = bytes[64 * i + k]?) {t : Nat} (ht : t < 16) :
    word data t = Fips180.blockWord bytes i t := by
  have hbyte : ∀ k, k < 4 → data[t * 4 + k]?.getD 0 = bytes.getD (64 * i + (4 * t + k)) 0 := by
    intro k hk
    rw [h _ (by omega), List.getD_eq_getElem?_getD, Nat.mul_comm t 4]
  rw [word, Fips180.blockWord]
  dsimp only
  rw [hbyte 0 (by decide), hbyte 1 (by decide), hbyte 2 (by decide), hbyte 3 (by decide)]

/-- The byte is put at its place. -/
theorem Fed.getElem?_put (h : Fed r bytes) (byte : BitVec 8) {k : Nat} (hk : k < r.2 + 1) :
    (r.1.buf.setIfInBounds r.2 byte)[k]? = (bytes ++ [byte])[64 * (bytes.length / 64) + k]? := by
  have hplace := h.place
  have hlt : r.2 < 64 := hplace ▸ Nat.mod_lt _ (by decide)
  have hlast : 64 * (bytes.length / 64) + r.2 = bytes.length := by
    rw [hplace]
    exact Nat.div_add_mod bytes.length 64
  rw [Vector.getElem?_setIfInBounds]
  split
  · next heq =>
    rw [← heq, hlast, List.getElem?_concat_length]
  · next hne =>
    rw [h.buf k (by omega), List.getElem?_append_left (by omega)]

/-- A byte that fills the block. -/
theorem Fed.put_full (h : Fed r bytes) (hfull : r.2 + 1 = 64) (byte : BitVec 8) :
    Fed (sha256Put r byte) (bytes ++ [byte]) := by
  have hplace := h.place
  have hdiv : (bytes ++ [byte]).length / 64 = bytes.length / 64 + 1 := by
    rw [List.length_append, List.length_singleton]
    omega
  have hmod : (bytes ++ [byte]).length % 64 = 0 := by
    rw [List.length_append, List.length_singleton]
    omega
  rw [sha256Put_full hfull]
  refine ⟨hmod.symm, fun k hk => absurd hk (Nat.not_lt_zero k), ?_⟩
  rw [hdiv, Fips180.hashBlocks_succ, Fips180.hashBlocks_append (Nat.mul_div_le bytes.length 64), ← h.state]
  exact (registers_compress _ _).trans
    (Fips180.compress_congr (fun t ht => word_eq_blockWord (fun k hk => h.getElem?_put byte (hfull ▸ hk)) ht) _)

/-- A byte that does not. -/
theorem Fed.put_room (h : Fed r bytes) (hroom : ¬ r.2 + 1 = 64) (byte : BitVec 8) :
    Fed (sha256Put r byte) (bytes ++ [byte]) := by
  have hplace := h.place
  have hdiv : (bytes ++ [byte]).length / 64 = bytes.length / 64 := by
    rw [List.length_append, List.length_singleton]
    omega
  rw [sha256Put_room hroom]
  refine ⟨?_, fun k hk => ?_, ?_⟩
  · rw [List.length_append, List.length_singleton]
    dsimp only
    omega
  · rw [hdiv]
    exact h.getElem?_put byte hk
  · rw [hdiv, Fips180.hashBlocks_append (Nat.mul_div_le bytes.length 64)]
    exact h.state

theorem Fed.foldl (h : Fed r bytes) (data : List (BitVec 8)) : Fed (data.foldl sha256Put r) (bytes ++ data) := by
  induction data generalizing r bytes with
  | nil =>
    rw [List.append_nil]
    exact h
  | cons byte data ih =>
    have hput : Fed (sha256Put r byte) (bytes ++ [byte]) := by
      by_cases hfull : r.2 + 1 = 64
      · exact h.put_full hfull byte
      · exact h.put_room hfull byte
    rw [List.append_cons]
    exact ih hput

/-- The context has taken in the bytes. -/
structure Holds (ctx : Sha256Ctx) (bytes : List (BitVec 8)) : Prop where
  count : ctx.count = .ofNat 64 bytes.length
  fed : Fed (ctx, bytes.length % 64) bytes

/-- The place at which the next update starts. -/
theorem Holds.start (h : Holds ctx bytes) : (ctx.count &&& 63).toNat = bytes.length % 64 := by
  rw [toNat_count_and, h.count, BitVec.toNat_ofNat, Nat.mod_mod_of_dvd _ (by decide)]

theorem holds_init (buf : Vector (BitVec 8) 64) : Holds (sha256Init buf) [] where
  count := rfl
  fed := ⟨rfl, fun k hk => absurd hk (Nat.not_lt_zero k), registers_init⟩

theorem Holds.update (h : Holds ctx bytes) (data : List (BitVec 8)) :
    Holds (sha256Update ctx data) (bytes ++ data) := by
  have hstart : Fed ({ ctx with count := ctx.count + .ofNat 64 data.length }, bytes.length % 64) bytes :=
    ⟨h.fed.place, h.fed.buf, h.fed.state⟩
  have hend := hstart.foldl data
  have hcount := (foldl_place (hstart.place ▸ Nat.mod_lt bytes.length (Nat.zero_lt_succ 63)) data).2
  rw [sha256Update, h.start]
  refine ⟨?_, rfl, fun k hk => ?_, hend.state⟩
  · rw [hcount, h.count, List.length_append, BitVec.ofNat_add]
  · exact hend.buf k (hend.place ▸ hk)

theorem holds_updates (buf : Vector (BitVec 8) 64) (chunks : List (List (BitVec 8))) :
    Holds (sha256Updates buf chunks) chunks.flatten := by
  have hall : ∀ ctx bytes, Holds ctx bytes → Holds (chunks.foldl sha256Update ctx) (bytes ++ chunks.flatten) := by
    induction chunks with
    | nil =>
      intro ctx bytes h
      rw [List.flatten_nil, List.append_nil]
      exact h
    | cons chunk chunks ih =>
      intro ctx bytes h
      rw [List.flatten_cons, ← List.append_assoc]
      exact ih _ _ (h.update chunk)
  exact hall _ _ (holds_init buf)

/-! ## The padding -/

/-- The length of the zeros is that of the standard, wherever the length ends up. -/
theorem Holds.paddingLength_eq (h : Holds ctx bytes) : paddingLength ctx = Fips180.zeros bytes.length + 1 := by
  rw [paddingLength, h.start, Fips180.zeros]
  have hlt : bytes.length % 64 < 64 := Nat.mod_lt _ (by decide)
  split
  · omega
  · omega

/-- What is fed back is the padding of the standard. -/
theorem Holds.padding_eq (h : Holds ctx bytes) (hlength : bytes.length < 2 ^ 61) :
    padding ctx = Fips180.padding bytes.length := by
  have hbits : (ctx.count * 8).toNat = 8 * bytes.length := by
    rw [h.count, BitVec.toNat_mul, BitVec.toNat_ofNat]
    change bytes.length % 18446744073709551616 * 8 % 18446744073709551616 = _
    omega
  have hbyte : ∀ i, i < 8 → ((ctx.count * 8) >>> (56 - 8 * i)).setWidth 8 =
      BitVec.ofNat 8 (8 * bytes.length / 256 ^ (7 - i)) := by
    intro i hi
    have hshift : 2 ^ (56 - 8 * i) = 256 ^ (7 - i) := by
      rw [show 56 - 8 * i = 8 * (7 - i) by omega, Nat.pow_mul]
    apply BitVec.eq_of_toNat_eq
    rw [BitVec.toNat_setWidth, BitVec.toNat_ushiftRight, hbits, Nat.shiftRight_eq_div_pow, hshift, BitVec.toNat_ofNat]
  rw [padding, Fips180.padding, h.paddingLength_eq, Nat.add_sub_cancel, Fips180.bigEndian]
  exact congrArg (fun tail => 0x80#8 :: (List.replicate (Fips180.zeros bytes.length) 0#8 ++ tail))
    (List.map_congr_left fun i hi => hbyte i (List.mem_range.1 hi))

/-- The bytes of the digest. -/
theorem toList_final (ctx : Sha256Ctx) :
    (sha256Final ctx).toList = Fips180.digest (registers (sha256Update ctx (padding ctx)).state) := by
  rw [sha256Final, Vector.toList_ofFn]
  simp [List.ofFn_succ, Fips180.digest, Fips180.wordBytes, registers, Vector.get]

/-- The digest is that of the standard. -/
theorem Holds.digest (h : Holds ctx bytes) (hlength : bytes.length < 2 ^ 61) :
    (sha256Final ctx).toList = Fips180.sha256 bytes := by
  have hend := (h.update (padding ctx)).fed.state
  rw [toList_final, hend, h.padding_eq hlength]
  rfl

end

/-! ## Bounds -/

theorem putPlaces_lt {r : Sha256Ctx × Nat} (hlt : r.2 < 64) (data : List (BitVec 8)) :
    ∀ k ∈ putPlaces r data, k < 64 := by
  induction data generalizing r with
  | nil => exact nofun
  | cons byte data ih =>
    have hnext : (sha256Put r byte).2 < 64 := by
      by_cases hfull : r.2 + 1 = 64
      · rw [sha256Put_full hfull]
        exact Nat.zero_lt_succ 63
      · rw [sha256Put_room hfull]
        exact Nat.lt_of_le_of_ne hlt hfull
    intro k hk
    rcases List.mem_cons.1 hk with rfl | hk
    · exact hlt
    · exact ih hnext k hk

theorem updatePlaces_lt (ctx : Sha256Ctx) (data : List (BitVec 8)) : ∀ k ∈ updatePlaces ctx data, k < 64 := by
  refine putPlaces_lt ?_ data
  rw [toNat_count_and]
  exact Nat.mod_lt _ (by decide)

/-- The block buffer is always accessed in bounds. -/
theorem bufWrites_lt (ctx : Sha256Ctx) (chunks : List (List (BitVec 8))) : ∀ k ∈ bufWrites ctx chunks, k < 64 := by
  induction chunks generalizing ctx with
  | nil => exact updatePlaces_lt ctx (padding ctx)
  | cons chunk chunks ih =>
    intro k hk
    rcases List.mem_append.1 hk with hk | hk
    · exact updatePlaces_lt ctx chunk k hk
    · exact ih _ k hk

theorem bufReads_lt : ∀ k ∈ bufReads, k < 64 := by decide

/-- The array for the padding is accessed in bounds if and only if the padding with the length fits into it. -/
theorem pad_inBounds_iff (ctx : Sha256Ctx) :
    (∀ k ∈ padWrites ctx ++ padReads ctx, k < 64) ↔ paddingLength ctx + 8 ≤ 64 := by
  constructor
  · intro hall
    have hlast : paddingLength ctx + 7 ∈ padWrites ctx :=
      List.mem_append_right _ (List.mem_map.2 ⟨7, List.mem_range.2 (by decide), rfl⟩)
    exact hall _ (List.mem_append_left _ hlast)
  · intro hfits k hk
    simp only [padWrites, padReads, List.mem_append, List.mem_cons, List.mem_map, List.mem_range] at hk
    rcases hk with ((rfl | ⟨i, hi, rfl⟩) | ⟨i, hi, rfl⟩) | hk
    · exact Nat.zero_lt_succ 63
    · omega
    · omega
    · omega

/-! ## Both together -/

/-- For every message of less than `2 ^ 61` bytes and every way of splitting it into updates, the hash is that of the
standard with all accesses in bounds if and only if its last block has room for the length. -/
theorem sha256_is_fips_iff (buf : Vector (BitVec 8) 64) (chunks : List (List (BitVec 8)))
    (hlength : chunks.flatten.length < 2 ^ 61) : IsFips buf chunks ↔ chunks.flatten.length % 64 < 56 := by
  have hholds := holds_updates buf chunks
  have hfits : paddingLength (sha256Updates buf chunks) + 8 ≤ 64 ↔ chunks.flatten.length % 64 < 56 := by
    rw [hholds.paddingLength_eq, Fips180.zeros]
    omega
  rw [← hfits, ← pad_inBounds_iff]
  constructor
  · exact IsFips.padInBounds
  · intro hpad
    refine ⟨hholds.digest hlength, fun k hk => ?_, hpad⟩
    rcases List.mem_append.1 hk with hk | hk
    · exact bufWrites_lt _ chunks k hk
    · exact bufReads_lt k hk

/-- A message of three bytes in two updates. -/
theorem sha256_is_fips_abc : IsFips (.replicate 64 0) [[0x61], [0x62, 0x63]] :=
  (sha256_is_fips_iff (.replicate 64 0) [[0x61], [0x62, 0x63]] (by decide)).2 (by decide)

/-- A message of 56 bytes leaves no room: the length is written behind the array. -/
theorem exists_pad_out_of_bounds : ∃ (buf : Vector (BitVec 8) 64) (chunks : List (List (BitVec 8))),
    chunks.flatten.length < 2 ^ 61 ∧ ¬ IsFips buf chunks := by
  refine ⟨.replicate 64 0, [.replicate 56 0], by decide, fun h => ?_⟩
  have hfits := (pad_inBounds_iff _).1 h.padInBounds
  rw [(holds_updates _ _).paddingLength_eq] at hfits
  exact absurd hfits (by decide)

end OperatingOrganism.Bot

import Mathlib.Algebra.Group.Nat.Defs
import Mathlib.Data.Set.Lattice
import Mathlib.Order.CompletePartialOrder

/-!
# A memory of bytes

A machine with `w`-bit addresses has `2 ^ w` bytes, and address arithmetic wraps. A span is the set of the
`n` addresses from `p` on. Addresses are compared by their distance from a base (`distance`), in natural
numbers: a span that begins `x` places after the base, and ends before the addresses wrap, is the interval
of the distances from `x` to `x + n` (`mem_span_add`).
-/

set_option autoImplicit false

namespace OperatingOrganism.ByteMemory

variable {w : Nat}

/-- How far an address lies behind a base. -/
def distance (base a : BitVec w) : Nat := (a - base).toNat

/-- The `n` addresses from `p` on. -/
def span (p : BitVec w) (n : Nat) : Set (BitVec w) := fun a => distance p a < n

section Spans

variable {base p a : BitVec w} {x y m n : Nat}

theorem mem_span : a ∈ span p n ↔ distance p a < n := Iff.rfl

theorem distance_lt (base a : BitVec w) : distance base a < 2 ^ w := (a - base).isLt

theorem distance_add (h : x < 2 ^ w) : distance base (base + BitVec.ofNat w x) = x := by
  rw [distance, BitVec.add_comm, BitVec.add_sub_cancel, BitVec.toNat_ofNat, Nat.mod_eq_of_lt h]

/-- An address is as far behind the base as its distance says. -/
theorem add_distance (base a : BitVec w) : base + BitVec.ofNat w (distance base a) = a := by
  rw [distance, BitVec.ofNat_toNat, BitVec.setWidth_eq, BitVec.add_comm, BitVec.sub_add_cancel]

/-- The distance from a place behind the base. -/
theorem distance_add_left (hx : x < 2 ^ w) : distance (base + BitVec.ofNat w x) a =
    if x ≤ distance base a then distance base a - x else 2 ^ w - x + distance base a := by
  have ha := distance_lt base a
  have hdist : distance (base + BitVec.ofNat w x) a = (2 ^ w - x + distance base a) % 2 ^ w := by
    rw [distance, ← BitVec.sub_sub, BitVec.toNat_sub, BitVec.toNat_ofNat, Nat.mod_eq_of_lt hx, distance]
  rw [hdist]
  split
  · have hsum : 2 ^ w - x + distance base a = distance base a - x + 2 ^ w := by omega
    rw [hsum, Nat.add_mod_right, Nat.mod_eq_of_lt (by omega)]
  · rw [Nat.mod_eq_of_lt (by omega)]

/-- A span behind the base, as an interval of distances. -/
theorem mem_span_add (h : x + n ≤ 2 ^ w) :
    a ∈ span (base + BitVec.ofNat w x) n ↔ x ≤ distance base a ∧ distance base a < x + n := by
  have ha := distance_lt base a
  rw [mem_span]
  by_cases hx : x < 2 ^ w
  · rw [distance_add_left hx]
    split
    · omega
    · omega
  · -- then the span is empty
    omega

theorem mem_span_self (h : 0 < n) : p ∈ span p n := by
  rw [mem_span, distance, BitVec.sub_self]
  exact h

/-- Two spans share an address exactly if one begins in the other. -/
theorem inter_nonempty_iff (hx : x + m ≤ 2 ^ w) (hy : y + n ≤ 2 ^ w) :
    (span (base + BitVec.ofNat w x) m ∩ span (base + BitVec.ofNat w y) n).Nonempty ↔
      0 < m ∧ 0 < n ∧ x < y + n ∧ y < x + m := by
  constructor
  · rintro ⟨a, ha, hb⟩
    rw [mem_span_add hx] at ha
    rw [mem_span_add hy] at hb
    omega
  · rintro ⟨hm, hn, hxy, hyx⟩
    have hlt : max x y < 2 ^ w := by omega
    refine ⟨base + BitVec.ofNat w (max x y), ?_, ?_⟩
    · rw [mem_span_add hx, distance_add hlt]
      omega
    · rw [mem_span_add hy, distance_add hlt]
      omega

/-- A span lies in another one that it does not begin before. -/
theorem span_subset_iff (hx : x + n ≤ 2 ^ w) (hn : 0 < n) :
    span (base + BitVec.ofNat w x) n ⊆ span base m ↔ x + n ≤ m := by
  constructor
  · intro hsub
    -- its last address
    have hlt : x + n - 1 < 2 ^ w := by omega
    have hlast : base + BitVec.ofNat w (x + n - 1) ∈ span (base + BitVec.ofNat w x) n := by
      rw [mem_span_add hx, distance_add hlt]
      omega
    have := hsub hlast
    rw [mem_span, distance_add hlt] at this
    omega
  · intro hle a ha
    rw [mem_span_add hx] at ha
    rw [mem_span]
    omega

end Spans

/-! ## Contents -/

section Contents

variable {β : Type} {memory : BitVec w → β} {p a : BitVec w} {bytes : List β} {n k : Nat}

/-- Writes a list of bytes from `p` on. -/
def write (memory : BitVec w → β) (p : BitVec w) (bytes : List β) : BitVec w → β :=
  fun a => bytes[distance p a]?.getD (memory a)

/-- The `n` bytes from `p` on. -/
def read (memory : BitVec w → β) (p : BitVec w) (n : Nat) : List β :=
  (List.range n).map fun k => memory (p + BitVec.ofNat w k)

/-- Sets `n` bytes from `p` on to one value. -/
def fill (memory : BitVec w → β) (p : BitVec w) (n : Nat) (value : β) : BitVec w → β :=
  fun a => if distance p a < n then value else memory a

/-- What a write behind the base does. -/
theorem write_add {x : Nat} (h : x + bytes.length ≤ 2 ^ w) :
    write memory (p + BitVec.ofNat w x) bytes a =
      if x ≤ distance p a then bytes[distance p a - x]?.getD (memory a) else memory a := by
  have ha := distance_lt p a
  by_cases hx : x < 2 ^ w
  · rw [write, distance_add_left hx]
    split
    · rfl
    · rw [List.getElem?_eq_none (by omega), Option.getD_none]
  · have hlength : bytes.length ≤ distance (p + BitVec.ofNat w x) a := by omega
    rw [write, List.getElem?_eq_none hlength, Option.getD_none, if_neg (by omega)]

theorem fill_of_not_mem {value : β} (h : a ∉ span p n) : fill memory p n value a = memory a := if_neg h

@[simp] theorem length_read : (read memory p n).length = n := by simp [read]

theorem getElem_read (hk : k < (read memory p n).length) :
    (read memory p n)[k] = memory (p + BitVec.ofNat w k) := by
  simp [read]

end Contents

end OperatingOrganism.ByteMemory

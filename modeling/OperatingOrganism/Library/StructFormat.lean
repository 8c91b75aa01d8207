import Mathlib.Algebra.GroupWithZero.Nat
import Mathlib.Data.List.DropRight
import Mathlib.Data.Nat.ModEq

/-!
# Packed records

The fields of a record, one behind the other without gaps: unsigned integers with the least significant byte first,
and texts in a fixed number of bytes with zeros behind. The fields of a record are found at the front of what it
begins (`fields_flatten`), an integer is read back if it fits (`leValue_packUint`), and a text if it does not end in
a zero (`rstrip_ljust`).
-/

set_option autoImplicit false

namespace OperatingOrganism.StructFormat

/-- The bytes of a number, the least significant first. -/
def leBytes : (width n : Nat) → List Nat
  | 0, _ => []
  | width + 1, n => n % 256 :: leBytes width (n / 256)

/-- The number that bytes spell. -/
def leValue : List Nat → Nat
  | [] => 0
  | b :: bytes => b + 256 * leValue bytes

theorem length_leBytes (width n : Nat) : (leBytes width n).length = width := by
  induction width generalizing n with
  | zero => rfl
  | succ width ih => rw [leBytes, List.length_cons, ih]

theorem leValue_leBytes (width n : Nat) : leValue (leBytes width n) = n % 256 ^ width := by
  induction width generalizing n with
  | zero => rw [leBytes, leValue, Nat.pow_zero, Nat.mod_one]
  | succ width ih => rw [leBytes, leValue, ih, Nat.pow_succ', Nat.mod_mul]

/-- An unsigned integer in so many bytes; `none` if it is not in the range. -/
def packUint (width : Nat) (n : Int) : Option (List Nat) :=
  if 0 ≤ n ∧ n.toNat < 256 ^ width then some (leBytes width n.toNat) else none

theorem leValue_packUint {width : Nat} {n : Int} {bytes : List Nat} (h : packUint width n = some bytes) :
    (leValue bytes : Int) = n ∧ bytes.length = width := by
  unfold packUint at h
  split at h
  · next hrange =>
    obtain rfl := Option.some.inj h
    rw [leValue_leBytes, Nat.mod_eq_of_lt hrange.2, Int.toNat_of_nonneg hrange.1]
    exact ⟨rfl, length_leBytes width _⟩
  · cases h

/-- `bytes.ljust` with zeros -/
def ljust (width : Nat) (bytes : List Nat) : List Nat := bytes ++ List.replicate (width - bytes.length) 0

theorem length_ljust {width : Nat} {bytes : List Nat} (h : bytes.length ≤ width) :
    (ljust width bytes).length = width := by
  rw [ljust, List.length_append, List.length_replicate]
  omega

/-- `bytes.rstrip` of zeros -/
def rstrip (bytes : List Nat) : List Nat := bytes.rdropWhile (· = 0)

theorem prefix_rstrip (bytes : List Nat) : rstrip bytes <+: bytes := List.rdropWhile_prefix _ bytes

/-- The zeros behind a text are stripped with its own. -/
theorem rstrip_ljust (width : Nat) (bytes : List Nat) : rstrip (ljust width bytes) = rstrip bytes := by
  rw [ljust]
  induction width - bytes.length with
  | zero => rw [List.replicate_zero, List.append_nil]
  | succ k ih =>
    rw [List.replicate_succ', ← List.append_assoc, rstrip, List.rdropWhile_concat_pos _ _ _ (by simp)]
    exact ih

/-- Nothing is stripped from a text if and only if it does not end in a zero. -/
theorem rstrip_eq_self_iff {bytes : List Nat} : rstrip bytes = bytes ↔ bytes.getLast? ≠ some 0 := by
  rw [rstrip, List.rdropWhile_eq_self_iff]
  cases bytes using List.reverseRecOn with
  | nil => simp
  | append_singleton bytes b => simp

/-- The parts of the given widths at the front. -/
def fields : List Nat → List Nat → List (List Nat)
  | [], _ => []
  | width :: widths, bytes => bytes.take width :: fields widths (bytes.drop width)

/-- The fields of a record are read back, whatever follows it. -/
theorem fields_flatten (parts : List (List Nat)) (rest : List Nat) :
    fields (parts.map List.length) (parts.flatten ++ rest) = parts := by
  induction parts with
  | nil => rfl
  | cons part parts ih =>
    rw [List.map_cons, List.flatten_cons, List.append_assoc, fields, List.take_left, List.drop_left, ih]

end OperatingOrganism.StructFormat

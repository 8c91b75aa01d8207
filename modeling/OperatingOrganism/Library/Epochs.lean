import Mathlib.Algebra.GroupWithZero.Nat

/-!
# Epochs

An event happens at the tick `first`, and from then on once in every `period`. `epochs first period n` counts how
often it has happened up to the tick `n`. A machine that finds out by itself when the event is due, from the tick of
the last one, keeps this count (`epochs_succ`), and the last event was at the tick that the count says
(`epochs_bounds`). A counter of machine words that is compared with a mark is such a machine (`alarm_iff`).
-/

set_option autoImplicit false

namespace OperatingOrganism.Epochs

/-- How often the event has happened after `n` ticks. -/
def epochs (first period n : Nat) : Nat := if n < first then 0 else (n - first) / period + 1

variable {first period : Nat}

theorem epochs_of_lt {n : Nat} (h : n < first) : epochs first period n = 0 := if_pos h

theorem epochs_of_le {n : Nat} (h : first ≤ n) : epochs first period n = (n - first) / period + 1 :=
  if_neg (Nat.not_lt.2 h)

theorem epochs_zero (hfirst : 0 < first) : epochs first period 0 = 0 := epochs_of_lt hfirst

/-- The next event is still to come, and the last one, if there was any, is not. -/
theorem epochs_bounds (hperiod : 0 < period) (n : Nat) :
    n < first + period * epochs first period n ∧
      (epochs first period n ≠ 0 → first + period * (epochs first period n - 1) ≤ n) := by
  by_cases h : n < first
  · rw [epochs_of_lt h]
    exact ⟨Nat.lt_add_right _ h, fun hzero => absurd rfl hzero⟩
  · rw [epochs_of_le (Nat.not_lt.1 h), Nat.add_sub_cancel]
    have hdiv := Nat.div_add_mod (n - first) period
    have hmod := Nat.mod_lt (n - first) hperiod
    rw [Nat.mul_add, Nat.mul_one]
    exact ⟨by omega, fun _ => by omega⟩

/-- The event happens at a tick exactly if it is due then. -/
theorem epochs_succ (hperiod : 0 < period) (n : Nat) :
    epochs first period (n + 1) =
      if n + 1 = first + period * epochs first period n then epochs first period n + 1
      else epochs first period n := by
  obtain ⟨hnext, hlast⟩ := @epochs_bounds first _ hperiod n
  by_cases h : n < first
  · rw [epochs_of_lt h]
    by_cases hdue : n + 1 = first
    · rw [if_pos (by omega), epochs_of_le (Nat.le_of_eq hdue.symm), hdue, Nat.sub_self, Nat.zero_div]
    · rw [if_neg (by omega), epochs_of_lt (by omega)]
  · -- behind the first one: the count grows where the period divides the time since then
    have hle : first ≤ n := Nat.not_lt.1 h
    rw [epochs_of_le hle] at hnext hlast ⊢
    rw [epochs_of_le (Nat.le_succ_of_le hle), Nat.succ_sub hle, Nat.succ_div]
    have hlast' := hlast (Nat.succ_ne_zero _)
    rw [Nat.add_sub_cancel] at hlast'
    have hmul : period * ((n - first) / period + 1) = period * ((n - first) / period) + period := Nat.mul_succ _ _
    have hiff : period ∣ n - first + 1 ↔ n + 1 = first + period * ((n - first) / period + 1) := by
      constructor
      · rintro ⟨k, hk⟩
        have hk' : k = (n - first) / period + 1 := by
          have hlow : period * ((n - first) / period) < period * k := by omega
          have hhigh : period * k < period * ((n - first) / period + 2) := by
            rw [Nat.mul_add]
            omega
          have := Nat.lt_of_mul_lt_mul_left hlow
          have := Nat.lt_of_mul_lt_mul_left hhigh
          omega
        rw [← hk']
        omega
      · intro heq
        exact ⟨(n - first) / period + 1, by omega⟩
    by_cases hdue : n + 1 = first + period * ((n - first) / period + 1)
    · rw [if_pos (hiff.2 hdue), if_pos hdue]
    · rw [if_neg (hiff.not.2 hdue), if_neg hdue, Nat.add_zero]

/-- An event that first happens when a period is over happens once in each period. -/
theorem epochs_self (hperiod : 0 < period) (n : Nat) : epochs period period n = n / period := by
  by_cases h : n < period
  · rw [epochs_of_lt h, Nat.div_eq_of_lt h]
  · rw [epochs_of_le (Nat.not_lt.1 h), ← Nat.div_eq_sub_div hperiod (Nat.not_lt.1 h)]

/-! ## Alarms

A counter of `w` bits that wraps around is compared with a mark: when it is a period or more past the mark, the alarm
goes off and sets the mark to the counter. The mark is zero at first, wherever the counter starts.
-/

section Alarms

variable {w : Nat} (start : BitVec w) (n : Nat)

/-- The tick at which the alarm goes off for the first time. -/
def firstAlarm (period : Nat) (start : BitVec w) : Nat := period - (start + 1).toNat + 1

/-- How often the alarm has gone off. -/
def alarms (period : Nat) (start : BitVec w) (n : Nat) : Nat := epochs (firstAlarm period start) period n

/-- Where the mark is. -/
def mark (period : Nat) (start : BitVec w) (n : Nat) : BitVec w :=
  if alarms period start n = 0 then 0
  else start + .ofNat w (firstAlarm period start + period * (alarms period start n - 1))

@[simp] theorem alarms_zero : alarms period start 0 = 0 := epochs_zero (Nat.succ_pos _)

@[simp] theorem mark_zero : mark period start 0 = 0 := if_pos (alarms_zero start)

theorem add_ofNat_succ : start + .ofNat w n + 1 = start + .ofNat w (n + 1) := by
  rw [BitVec.add_assoc, BitVec.ofNat_add]
  rfl

/-- The difference of two later values of the counter. -/
theorem toNat_later_sub {a b : Nat} (hle : a ≤ b) (hlt : b - a < 2 ^ w) :
    ((start + .ofNat w b) - (start + .ofNat w a) : BitVec w).toNat = b - a := by
  have hb : (BitVec.ofNat w b) = .ofNat w a + .ofNat w (b - a) := by
    rw [← BitVec.ofNat_add, Nat.add_sub_cancel' hle]
  have hsub : (start + .ofNat w b) - (start + .ofNat w a) = BitVec.ofNat w (b - a) := by
    rw [hb, ← BitVec.add_assoc, BitVec.add_comm _ (BitVec.ofNat w (b - a)), BitVec.add_sub_cancel]
  rw [hsub, BitVec.toNat_ofNat, Nat.mod_eq_of_lt hlt]

/-- The alarm goes off at the tick that the count of alarms says. -/
theorem alarm_iff (hperiod : 0 < period) (hfits : period < 2 ^ w) :
    period ≤ (start + .ofNat w (n + 1) - mark period start n).toNat ↔
      n + 1 = firstAlarm period start + period * alarms period start n := by
  obtain ⟨hnext, hlast⟩ := @epochs_bounds (firstAlarm period start) period hperiod n
  rw [mark]
  rw [alarms] at *
  by_cases hzero : epochs (firstAlarm period start) period n = 0
  · -- the first period is counted from zero
    have hsub : ∀ x : BitVec w, x - 0 = x := BitVec.sub_zero
    rw [if_pos hzero, hzero, hsub]
    rw [hzero] at hnext
    have hcounter : (start + .ofNat w (n + 1)).toNat = ((start + 1).toNat + n) % 2 ^ w := by
      have hsplit : start + .ofNat w (n + 1) = start + 1 + .ofNat w n := by
        rw [BitVec.add_assoc, Nat.add_comm n 1, BitVec.ofNat_add]
        rfl
      rw [hsplit, BitVec.toNat_add, BitVec.toNat_ofNat, Nat.add_mod_mod]
    have hfirst : firstAlarm period start = period - (start + 1).toNat + 1 := rfl
    have hlt : (start + 1).toNat < 2 ^ w := (start + 1).isLt
    rw [hcounter]
    by_cases hold : period ≤ (start + 1).toNat
    · have hn : n = 0 := by omega
      rw [hn, Nat.add_zero, Nat.mod_eq_of_lt hlt]
      omega
    · rw [Nat.mod_eq_of_lt (by omega)]
      omega
  · rw [if_neg hzero]
    have hlast := hlast hzero
    obtain ⟨k, hk⟩ := Nat.exists_eq_succ_of_ne_zero hzero
    rw [hk] at hnext hlast ⊢
    have hmul : period * (k + 1) = period * k + period := Nat.mul_succ period k
    rw [Nat.succ_eq_add_one, hmul] at hnext
    rw [Nat.succ_eq_add_one, Nat.add_sub_cancel] at hlast ⊢
    rw [toNat_later_sub start (by omega) (by omega), hmul]
    omega

theorem alarms_succ (hperiod : 0 < period) (hfits : period < 2 ^ w) : alarms period start (n + 1) =
    if period ≤ (start + .ofNat w (n + 1) - mark period start n).toNat then alarms period start n + 1
    else alarms period start n := by
  have hsucc := @epochs_succ (firstAlarm period start) period hperiod n
  simp only [alarm_iff start n hperiod hfits]
  exact hsucc

/-- The alarm sets the mark to the counter. -/
theorem mark_succ (hperiod : 0 < period) (hfits : period < 2 ^ w) : mark period start (n + 1) =
    if period ≤ (start + .ofNat w (n + 1) - mark period start n).toNat then start + .ofNat w (n + 1)
    else mark period start n := by
  have hsucc := alarms_succ start n hperiod hfits
  by_cases hoff : period ≤ (start + .ofNat w (n + 1) - mark period start n).toNat
  · have hdue := (alarm_iff start n hperiod hfits).1 hoff
    rw [if_pos hoff] at hsucc ⊢
    rw [mark, hsucc, if_neg (Nat.succ_ne_zero _), Nat.add_sub_cancel, ← hdue]
  · rw [if_neg hoff] at hsucc ⊢
    rw [mark, hsucc, mark]

end Alarms

end OperatingOrganism.Epochs

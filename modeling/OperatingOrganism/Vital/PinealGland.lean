import OperatingOrganism.Vital.MetabolicForth

/-!
# The pineal gland

At each change of the circadian phase, `pineal_gland.c` reads the hour of the real-time clock and shifts the
balance by it. The clock holds the hour in one of four formats, which bits 1 and 2 of its register B tell.

The conversion from decimal digits comes before the test of the bit for the afternoon, and takes that bit for a
digit; and twelve o'clock of a clock of twelve hours is not zero. The balance is shifted as the hour asks if and
only if none of the two matters (`pineal_sync_iff`). Messages to `oo_print` are left out, and the wait for a
register that is being updated.
-/

set_option autoImplicit false

namespace OperatingOrganism.Vital

/-- `bcd_to_binary` -/
def bcdToBinary (bcd : BitVec 8) : BitVec 8 := ((bcd &&& 0xF0) >>> 1) + ((bcd &&& 0xF0) >>> 3) + (bcd &&& 0x0F)

/-- `hours`, from the registers `RTC_HOURS` and B. -/
def pinealHours (hours regB : BitVec 8) : BitVec 8 :=
  let hours := if regB &&& 0x04 = 0 then bcdToBinary hours else hours
  if regB &&& 0x02 = 0 ∧ hours &&& 0x80 ≠ 0 then .ofNat 8 (((hours &&& 0x7F).toNat + 12) % 24) else hours

/-- The force and the weight of an hour. -/
def pinealShift (hours : BitVec 8) : BitVec 32 × BitVec 8 :=
  if 6 ≤ hours.toNat ∧ hours.toNat < 12 then (forceYang, 20)
  else if 12 ≤ hours.toNat ∧ hours.toNat < 18 then (forceYang, 5)
  else if 18 ≤ hours.toNat ∧ hours.toNat < 22 then (forceYin, 15)
  else (forceYin, 30)

/-- `vital_pineal_gland_sync` -/
def vitalPinealGlandSync (hours regB : BitVec 8) (spark : VitalSpark) : VitalSpark :=
  let shift := pinealShift (pinealHours hours regB)
  vitalShiftBalance shift.1 shift.2 spark

/-! ## The clock -/

/-- A format of the clock: bits 2 and 1 of its register B. -/
structure ClockFormat where
  binary : Bool
  twentyFour : Bool
  deriving DecidableEq, Repr

/-- Register B, whose other bits hold anything. -/
def ClockFormat.Set (format : ClockFormat) (regB : BitVec 8) : Prop :=
  regB.getLsbD 2 = format.binary ∧ regB.getLsbD 1 = format.twentyFour

instance (format : ClockFormat) (regB : BitVec 8) : Decidable (format.Set regB) := inferInstanceAs (Decidable (_ ∧ _))

/-- A number below 100 as two decimal digits. -/
def bcd (n : Nat) : BitVec 8 := .ofNat 8 (n / 10 * 16 + n % 10)

/-- A number as the clock holds it. -/
def ClockFormat.number (format : ClockFormat) (n : Nat) : BitVec 8 := if format.binary then .ofNat 8 n else bcd n

/-- What the clock holds at an hour of the day. The hours of a clock of twelve are 12, 1, …, 11, with a bit for
the afternoon. -/
def ClockFormat.register (format : ClockFormat) (hour : Fin 24) : BitVec 8 :=
  if format.twentyFour then format.number hour
  else
    let onDial := format.number (if hour.val % 12 = 0 then 12 else hour.val % 12)
    if 12 ≤ hour.val then onDial ||| 0x80 else onDial

/-- The hours that are read right: all hours of a clock of twenty-four, and of one of twelve those in the morning
after its twelve, and after noon if it holds no decimal digits. -/
def ClockFormat.Readable (format : ClockFormat) (hour : Fin 24) : Prop :=
  format.twentyFour = true ∨ (0 < hour.val ∧ hour.val < 12) ∨ (format.binary = true ∧ 12 < hour.val)

instance (format : ClockFormat) (hour : Fin 24) : Decidable (format.Readable hour) :=
  inferInstanceAs (Decidable (_ ∨ _))

/-- A test of a bit with a mask. -/
theorem and_mask_eq_zero_iff {i : Nat} (hi : i < 8) (x : BitVec 8) :
    x &&& (1#8 <<< i) = 0 ↔ x.getLsbD i = false := by
  rw [← BitVec.twoPow_eq, BitVec.and_twoPow]
  by_cases hbit : x.getLsbD i
  · have hpow : BitVec.twoPow 8 i ≠ 0 := by
      intro hzero
      have hset := congrArg (BitVec.getLsbD · i) hzero
      simp [hi] at hset
    simpa [hbit] using hpow
  · simp [hbit]

/-- The hour that is read depends on register B by the format only. -/
theorem ClockFormat.Set.pinealHours {format : ClockFormat} {regB : BitVec 8} (h : format.Set regB)
    (hours : BitVec 8) :
    pinealHours hours regB =
      (let hours := if format.binary = false then bcdToBinary hours else hours
       if format.twentyFour = false ∧ hours &&& 0x80 ≠ 0 then .ofNat 8 (((hours &&& 0x7F).toNat + 12) % 24)
       else hours) := by
  have hbinary : regB &&& 0x04 = 0 ↔ format.binary = false := by
    rw [← h.1]
    exact and_mask_eq_zero_iff (i := 2) (by decide) regB
  have htwentyFour : regB &&& 0x02 = 0 ↔ format.twentyFour = false := by
    rw [← h.2]
    exact and_mask_eq_zero_iff (i := 1) (by decide) regB
  rw [Vital.pinealHours]
  simp only [hbinary, htwentyFour]

/-- The hour is read back from the clock exactly where it is readable. -/
theorem pinealHours_eq_iff {format : ClockFormat} {regB : BitVec 8} (h : format.Set regB) (hour : Fin 24) :
    (pinealHours (format.register hour) regB).toNat = hour ↔ format.Readable hour := by
  rw [h.pinealHours]
  obtain ⟨binary, twentyFour⟩ := format
  cases binary <;> cases twentyFour <;> revert hour <;> decide

/-- The same for the shift, which does not change after ten in the evening. -/
theorem pinealShift_eq_iff {format : ClockFormat} {regB : BitVec 8} (h : format.Set regB) (hour : Fin 24) :
    pinealShift (pinealHours (format.register hour) regB) = pinealShift (.ofNat 8 hour) ↔
      format.Readable hour ∨ 22 ≤ hour.val := by
  rw [h.pinealHours]
  obtain ⟨binary, twentyFour⟩ := format
  cases binary <;> cases twentyFour <;> revert hour <;> decide

/-- The shifts of the hours. -/
theorem pinealShift_mem (hours : BitVec 8) :
    pinealShift hours ∈ [(forceYang, 20), (forceYang, 5), (forceYin, 15), (forceYin, 30)] := by
  rw [pinealShift]
  split_ifs <;> simp

/-- A balance in the middle after a shift. -/
def shiftedFromMiddle (shift : BitVec 32 × BitVec 8) : BitVec 8 :=
  (vitalShiftBalance shift.1 shift.2 ⟨0, 128, 0, 0, 0, 0⟩).tension

/-- It tells the shifts apart. -/
theorem shift_eq_of_shiftedFromMiddle {a b : BitVec 32 × BitVec 8}
    (ha : a ∈ [(forceYang, 20), (forceYang, 5), (forceYin, 15), (forceYin, 30)])
    (hb : b ∈ [(forceYang, 20), (forceYang, 5), (forceYin, 15), (forceYin, 30)])
    (h : shiftedFromMiddle a = shiftedFromMiddle b) : a = b := by
  simp only [List.mem_cons, List.not_mem_nil, or_false] at ha hb
  rcases ha with rfl | rfl | rfl | rfl <;> rcases hb with rfl | rfl | rfl | rfl <;>
    first
      | rfl
      | exact absurd h (by decide)

/-- For every format of the clock, whatever the other bits of its register B are, and every hour: every balance is
shifted as the hour asks if and only if the hour is readable, or later than ten in the evening. -/
theorem pineal_sync_iff {format : ClockFormat} {regB : BitVec 8} (h : format.Set regB) (hour : Fin 24) :
    (∀ spark, vitalPinealGlandSync (format.register hour) regB spark =
      vitalShiftBalance (pinealShift (.ofNat 8 hour)).1 (pinealShift (.ofNat 8 hour)).2 spark) ↔
      format.Readable hour ∨ 22 ≤ hour.val := by
  rw [← pinealShift_eq_iff h]
  constructor
  · intro hsync
    exact shift_eq_of_shiftedFromMiddle (pinealShift_mem _) (pinealShift_mem _)
      (congrArg VitalSpark.tension (hsync ⟨0, 128, 0, 0, 0, 0⟩))
  · intro hshift spark
    rw [vitalPinealGlandSync, hshift]

/-- Ten in the evening of a clock of twelve hours with decimal digits: the hour is not read, but it is night. -/
theorem pineal_sync_late_evening : ¬ ClockFormat.Readable ⟨false, false⟩ 22 ∧
    ∀ spark, vitalPinealGlandSync (ClockFormat.register ⟨false, false⟩ 22) 0 spark =
      vitalShiftBalance (pinealShift (.ofNat 8 (22 : Fin 24))).1 (pinealShift (.ofNat 8 (22 : Fin 24))).2 spark :=
  ⟨by decide, (@pineal_sync_iff ⟨false, false⟩ 0 (by decide) 22).2 (.inr (by decide))⟩

end OperatingOrganism.Vital

import OperatingOrganism.Vital.CircadianRhythm
import Mathlib.Data.Nat.Digits.Lemmas

/-!
# The main loop

`efi_main` of `uefi_entry.c`: after its birth the organism beats for ever, and whenever ten thousand pulses have gone by
since the last report, the pulse count is printed. The digits are collected in a buffer of twenty bytes and a second
one of thirty-two, and a message goes to the serial line whole and to the screen in a buffer of 256 characters.

In every life the reports come when they are due, each with the pulse count in decimal, and no buffer overflows
(`uefi_reports`).
-/

set_option autoImplicit false

namespace OperatingOrganism.Vital.UefiEntry

open OperatingOrganism.Epochs OperatingOrganism.Execution OperatingOrganism.UnitedBus
open OperatingOrganism.Vital.LifeLoop

/-! ## Printing -/

/-- What a message leaves on the serial line and on the screen. -/
structure Printed where
  uart : List Nat
  screen : List Nat
  deriving DecidableEq

/-- `(CHAR16)msg[i]`; a `char` is signed. -/
def charToUcs2 (c : Nat) : Nat := if c < 128 then c else 0xFF00 + c

/-- `oo_print` of a message up to its NUL, with a screen. -/
def ooPrint (msg : List Nat) : Printed := ⟨msg, (msg.take 254).map charToUcs2⟩

def Printed.append (p q : Printed) : Printed := ⟨p.uart ++ q.uart, p.screen ++ q.screen⟩

/-- The bytes of a literal. -/
def literal (s : String) : List Nat := s.toList.map Char.toNat

/-- `while (tmp > 0) { rev[ri++] = '0' + (tmp % 10); tmp /= 10; }` with so much room left in `rev`; nothing where it
writes behind the end. -/
def fillRev : (room tmp : Nat) → Option (List Nat)
  | _, 0 => some []
  | 0, _ + 1 => none
  | room + 1, tmp + 1 => (fillRev room ((tmp + 1) / 10)).map fun rev => (48 + (tmp + 1) % 10) :: rev

/-- `num_buf`, up to its NUL; nothing where it overflows. -/
def numBuf (pulse : BitVec 64) : Option (List Nat) := do
  let digits ← if pulse = 0 then some [48] else (fillRev 20 pulse.toNat).map List.reverse
  if digits.length < 32 then some digits else none

/-- The three messages of a report. -/
def report (pulse : BitVec 64) : Option Printed :=
  (numBuf pulse).map fun digits =>
    ((ooPrint (literal "[Vital] Pulse: ")).append (ooPrint digits)).append
      (ooPrint (literal " | Organisme vivant.\r\n"))

/-! ## The loop -/

/-- The variables of `efi_main`, and what it has printed since the birth, the last report first. -/
structure Main (D : Type) where
  organism : Organism D
  lastReport : BitVec 64
  reports : List Printed

/-- The report after a beat. -/
def Main.afterBeat {D : Type} (m : Main D) (o : Organism D) : Option (Main D) :=
  let pulse := o.spark.pulseCount
  if 10000 ≤ pulse - m.lastReport then
    (report pulse).map fun text => ⟨o, pulse, text :: m.reports⟩
  else some ⟨o, m.lastReport, m.reports⟩

/-- A round of the loop. -/
def MainStep {D : Type} (oo : OoStorage D) (m : Main D) (a : Bus × World) (m' : Main D) : Prop :=
  ∃ o, BeatStep oo m.organism a o ∧ m.afterBeat o = some m'

/-! ## The digits -/

section Digits

/-- The decimal numeral of a number. -/
def decimal (n : Nat) : List Nat := if n = 0 then [48] else ((Nat.digits 10 n).map (48 + ·)).reverse

theorem fillRev_eq {room n : Nat} (h : n < 10 ^ room) : fillRev room n = some ((Nat.digits 10 n).map (48 + ·)) := by
  induction room generalizing n with
  | zero =>
    obtain rfl : n = 0 := by simpa using h
    rfl
  | succ room ih =>
    cases n with
    | zero => simp [fillRev]
    | succ n =>
      -- one place less for the number without its last digit
      have hrest : (n + 1) / 10 < 10 ^ room := by
        rw [Nat.pow_succ] at h
        omega
      rw [fillRev, ih hrest, Nat.digits_def' (by decide) (Nat.succ_pos n)]
      rfl

/-- The digits always fit. -/
theorem numBuf_eq (pulse : BitVec 64) : numBuf pulse = some (decimal pulse.toNat) := by
  have hfits : pulse.toNat < 10 ^ 20 := pulse.isLt.trans (by decide)
  rw [numBuf, decimal]
  by_cases hzero : pulse = 0
  · simp [hzero]
  · have hpos : pulse.toNat ≠ 0 := fun h => hzero (BitVec.eq_of_toNat_eq h)
    have hlength : (Nat.digits 10 pulse.toNat).length ≤ 20 := (Nat.digits_length_le_iff (by decide) _).2 hfits
    simp only [hzero, hpos, if_false, fillRev_eq hfits, Option.map_some, Option.bind_eq_bind, Option.bind_some,
      List.length_reverse, List.length_map]
    rw [if_pos (by omega)]

/-- The text of a report. -/
def reportText (pulse : BitVec 64) : List Nat :=
  literal "[Vital] Pulse: " ++ decimal pulse.toNat ++ literal " | Organisme vivant.\r\n"

theorem decimal_ascii (n : Nat) : ∀ c ∈ decimal n, c < 128 := by
  intro c hc
  rw [decimal] at hc
  split at hc
  · simp at hc
    omega
  · obtain ⟨d, hd, rfl⟩ := List.mem_map.1 (List.mem_reverse.1 hc)
    have hten := Nat.digits_lt_base (by decide) hd
    omega

theorem length_decimal_le (pulse : BitVec 64) : (decimal pulse.toNat).length ≤ 20 := by
  have hfits : pulse.toNat < 10 ^ 20 := pulse.isLt.trans (by decide)
  have hdigits := (Nat.digits_length_le_iff (by decide) _).2 hfits
  rw [decimal]
  split
  · simp
  · simpa using hdigits

/-- A short message in ASCII is the same on both. -/
theorem ooPrint_ascii {msg : List Nat} (hascii : ∀ c ∈ msg, c < 128) (hshort : msg.length ≤ 254) :
    ooPrint msg = ⟨msg, msg⟩ := by
  have hsame : msg.map charToUcs2 = msg.map id := by
    apply List.map_congr_left
    intro c hc
    exact if_pos (hascii c hc)
  rw [ooPrint, List.take_of_length_le hshort, hsame, List.map_id]

/-- A report shows the same on the serial line and on the screen. -/
theorem report_eq (pulse : BitVec 64) : report pulse = some ⟨reportText pulse, reportText pulse⟩ := by
  have hbegin : ooPrint (literal "[Vital] Pulse: ") = ⟨literal "[Vital] Pulse: ", literal "[Vital] Pulse: "⟩ := by
    decide
  have hend : ooPrint (literal " | Organisme vivant.\r\n") =
      ⟨literal " | Organisme vivant.\r\n", literal " | Organisme vivant.\r\n"⟩ := by
    decide
  have hdigits := ooPrint_ascii (decimal_ascii pulse.toNat) ((length_decimal_le pulse).trans (by decide))
  rw [report, numBuf_eq, Option.map_some, hbegin, hend, hdigits]
  rfl

end Digits

/-! ## Lives -/

section Lives

variable {D : Type} {oo : OoStorage D} {o₀ : Organism D} {m : Main D}

/-- A text on the serial line and on the screen. -/
def Printed.both (text : List Nat) : Printed := ⟨text, text⟩

/-- The reports of so many beats, for a pulse count at birth, the last one first. -/
def reportsAfter (pulse : BitVec 64) (n : Nat) : List Printed :=
  ((List.range (alarms 10000 pulse n)).map fun i =>
    .both (reportText (pulse + .ofNat 64 (firstAlarm 10000 pulse + 10000 * i)))).reverse

/-- Every beat counts one pulse. -/
theorem Born.pulse (h : Born oo o₀) {tr : List ((Bus × World) × Organism D)} (hrun : Exec (BeatStep oo) o₀ tr) :
    (final o₀ tr).spark.pulseCount = o₀.spark.pulseCount + .ofNat 64 tr.length := by
  have hclock : (final o₀ tr).signs.clock.pulse = o₀.spark.pulseCount + .ofNat 64 tr.length := by
    refine h.signs_induction (I := fun n s => s.clock.pulse = o₀.spark.pulseCount + .ofNat 64 n) ?_ ?_ hrun
    · rw [h.signs]
      rfl
    · intro n s _ hpulse critical _
      rw [clock_beat, ← add_ofNat_succ, ← hpulse, CircadianClock.tick]
      split <;> rfl
  exact hclock

/-- A round keeps the organism that the beat leaves. -/
theorem organism_afterBeat {o : Organism D} {m' : Main D} (h : m.afterBeat o = some m') : m'.organism = o := by
  rw [Main.afterBeat, report_eq] at h
  split at h <;> rw [← Option.some.inj h]

/-- A run of the loop is a life. -/
theorem exec_organism {tr : List ((Bus × World) × Main D)} (hrun : Exec (MainStep oo) m tr) :
    Exec (BeatStep oo) m.organism (tr.map fun e => (e.1, e.2.organism)) ∧
      final m.organism (tr.map fun e => (e.1, e.2.organism)) = (final m tr).organism := by
  induction tr generalizing m with
  | nil => exact ⟨trivial, rfl⟩
  | cons e tr ih =>
    obtain ⟨⟨o, hbeat, hafter⟩, hrest⟩ := hrun
    obtain ⟨hexec, hfinal⟩ := ih hrest
    exact ⟨⟨organism_afterBeat hafter ▸ hbeat, hexec⟩, hfinal⟩

/-- What a round prints follows the schedule of the reports. -/
theorem afterBeat_scheduled {pulse : BitVec 64} {n : Nat} {o : Organism D}
    (hpulse : o.spark.pulseCount = pulse + .ofNat 64 (n + 1)) (hlast : m.lastReport = mark 10000 pulse n)
    (hreports : m.reports = reportsAfter pulse n) :
    m.afterBeat o = some ⟨o, mark 10000 pulse (n + 1), reportsAfter pulse (n + 1)⟩ := by
  have hten : (10000 : BitVec 64) ≤ pulse + .ofNat 64 (n + 1) - mark 10000 pulse n ↔
      10000 ≤ (pulse + .ofNat 64 (n + 1) - mark 10000 pulse n).toNat := BitVec.le_def
  have hmark := @mark_succ 10000 64 pulse n (by decide) (by decide)
  have hcount := @alarms_succ 10000 64 pulse n (by decide) (by decide)
  rw [Main.afterBeat, hpulse, hlast, hreports, report_eq]
  by_cases hdue : 10000 ≤ (pulse + .ofNat 64 (n + 1) - mark 10000 pulse n).toNat
  · -- the beat is the one at which the next report is due
    have hplace := (@alarm_iff 10000 64 pulse n (by decide) (by decide)).1 hdue
    rw [if_pos hdue] at hmark hcount
    rw [if_pos (hten.2 hdue), hmark, reportsAfter, reportsAfter, hcount, List.range_succ, List.map_append,
      List.reverse_append, List.map_singleton, ← hplace]
    rfl
  · rw [if_neg hdue] at hmark hcount
    rw [if_neg (hten.not.2 hdue), hmark, reportsAfter, reportsAfter, hcount]

/-- No buffer overflows. -/
theorem isSome_afterBeat (m : Main D) (o : Organism D) : (m.afterBeat o).isSome = true := by
  rw [Main.afterBeat, report_eq]
  split <;> rfl

/-- In every life, after any number of beats, whatever the hardware and the other organs do: the reports are those
that were due, one for every ten thousand pulses, each with the pulse count of its beat in decimal, and no further
beat can make a buffer of the report overflow. -/
theorem uefi_reports (h : Born oo o₀) {tr : List ((Bus × World) × Main D)}
    (hrun : Exec (MainStep oo) ⟨o₀, 0, []⟩ tr) :
    (final ⟨o₀, 0, []⟩ tr).reports = reportsAfter o₀.spark.pulseCount tr.length ∧
      (final ⟨o₀, 0, []⟩ tr).lastReport = mark 10000 o₀.spark.pulseCount tr.length ∧
      ∀ o, ((final ⟨o₀, 0, []⟩ tr).afterBeat o).isSome = true := by
  have hprinted : (final ⟨o₀, 0, []⟩ tr).reports = reportsAfter o₀.spark.pulseCount tr.length ∧
      (final ⟨o₀, 0, []⟩ tr).lastReport = mark 10000 o₀.spark.pulseCount tr.length := by
    -- the last report comes first, so the induction adds a beat at the end of the run
    induction tr using List.reverseRecOn with
    | nil => simp [reportsAfter]
    | append_singleton tr e ih =>
      obtain ⟨hbefore, hlast⟩ := hrun.split
      obtain ⟨hreports, hmark⟩ := ih hbefore
      obtain ⟨o, hbeat, hafter⟩ := hlast.1
      -- the rounds are the beats of a life, whose pulse counts are known
      have hpulse : o.spark.pulseCount = o₀.spark.pulseCount + .ofNat 64 (tr.length + 1) := by
        obtain ⟨hexec, hfinal⟩ := exec_organism hbefore
        have hlast : Exec (BeatStep oo) (final o₀ (tr.map fun e => (e.1, e.2.organism))) [(e.1, o)] := by
          rw [hfinal]
          exact ⟨hbeat, trivial⟩
        have hlife := Born.pulse h (hexec.append hlast)
        simpa using hlife
      rw [afterBeat_scheduled hpulse hmark hreports] at hafter
      rw [final_append, final_cons, final_nil, ← Option.some.inj hafter, List.length_append, List.length_singleton]
      exact ⟨rfl, rfl⟩
  exact ⟨hprinted.1, hprinted.2, isSome_afterBeat _⟩

/-- The rounds of a calm life. -/
def calmRounds : Nat → Main Unit → List ((Bus × World) × Main Unit)
  | 0, _ => []
  | n + 1, m =>
    let m' := (m.afterBeat (calmBeat m.organism)).getD m
    ((.boot, calmWorld), m') :: calmRounds n m'

theorem exec_calmRounds {m : Main Unit} (hboard : m.organism.board = homeostasisInit)
    (hwords : Speechless m.organism.dictionary) (n : Nat) : Exec (MainStep noDisk) m (calmRounds n m) := by
  induction n generalizing m with
  | zero => trivial
  | succ n ih =>
    obtain ⟨hbeat, hboard', hwords'⟩ := beat_calmBeat hboard hwords
    obtain ⟨m', hm'⟩ := Option.isSome_iff_exists.1 (isSome_afterBeat m (calmBeat m.organism))
    have horganism : m'.organism = calmBeat m.organism := organism_afterBeat hm'
    have hround : calmRounds (n + 1) m = ((.boot, calmWorld), m') :: calmRounds n m' := by
      rw [calmRounds, hm']
      rfl
    rw [hround]
    exact ⟨⟨_, hbeat, hm'⟩, ih (horganism ▸ hboard') (horganism ▸ hwords')⟩

@[simp] theorem length_calmRounds (n : Nat) (m : Main Unit) : (calmRounds n m).length = n := by
  induction n generalizing m with
  | zero => rfl
  | succ n ih => exact congrArg Nat.succ (ih _)

/-- In the first twenty-five thousand rounds of a first life two reports are printed. -/
theorem uefi_reports_calmRounds :
    (final ⟨firstborn, 0, []⟩ (calmRounds 25000 ⟨firstborn, 0, []⟩)).reports =
        [.both (literal "[Vital] Pulse: 20000 | Organisme vivant.\r\n"),
          .both (literal "[Vital] Pulse: 10000 | Organisme vivant.\r\n")] ∧
      (final ⟨firstborn, 0, []⟩ (calmRounds 25000 ⟨firstborn, 0, []⟩)).lastReport = 20000 := by
  have hrun : Exec (MainStep noDisk) ⟨firstborn, 0, []⟩ (calmRounds 25000 ⟨firstborn, 0, []⟩) :=
    exec_calmRounds rfl (fun _ => rfl) 25000
  obtain ⟨hreports, hlast, -⟩ := uefi_reports born_firstborn hrun
  rw [length_calmRounds] at hreports hlast
  exact ⟨hreports.trans (by decide), hlast.trans (by decide)⟩

end Lives

end OperatingOrganism.Vital.UefiEntry

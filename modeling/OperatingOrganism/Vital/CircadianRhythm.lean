import OperatingOrganism.Library.Epochs
import OperatingOrganism.Vital.CalmLife

/-!
# The circadian rhythm

The phases of the life loop over a whole life. The clock starts in the dawn, at pulse zero of the process, while the
pulse count may come from a former life: the first dawn ends at the first beat that finds 25000 pulses counted, which
for a reincarnated organism can be the first beat of all. From then on a phase lasts 25000 beats exactly, whatever
happens, and also where the pulse count wraps (`circadian_schedule`).

The organism is viable in every state, so that no beat of it ends in a panic (`never_panics`).
-/

set_option autoImplicit false

namespace OperatingOrganism.Vital.LifeLoop

open OperatingOrganism.ByteLayout OperatingOrganism.Epochs OperatingOrganism.Execution OperatingOrganism.UnitedBus

/-! ## The clock -/

/-- How many phases have begun after some beats. -/
def turns (pulse : BitVec 64) (n : Nat) : Nat := alarms 25000 pulse n

/-- The clock after some beats. Every fourth phase is a nadir. -/
def CircadianClock.scheduled (pulse : BitVec 64) (days : BitVec 8) (n : Nat) : CircadianClock where
  pulse := pulse + .ofNat 64 n
  phaseStart := mark 25000 pulse n
  phase := CircadianPhase.next^[turns pulse n] .dawn
  days := days + .ofNat 8 ((turns pulse n + 1) / 4)

section Clock

variable (pulse : BitVec 64) (days : BitVec 8) (n : Nat)

theorem advance_scheduled : (CircadianClock.scheduled pulse days n).advance =
    { CircadianClock.scheduled pulse days n with pulse := pulse + .ofNat 64 (n + 1) } := by
  rw [CircadianClock.advance, ← add_ofNat_succ]
  rfl

/-- A phase is over when the alarm goes off. -/
theorem over_scheduled_iff : (CircadianClock.scheduled pulse days n).advance.Over ↔
    25000 ≤ (pulse + .ofNat 64 (n + 1) - mark 25000 pulse n).toNat := by
  have hduration : circadianPhaseDuration.toNat = 25000 := rfl
  rw [advance_scheduled, CircadianClock.Over, CircadianClock.scheduled, BitVec.le_def, hduration]

theorem turns_succ : turns pulse (n + 1) =
    if (CircadianClock.scheduled pulse days n).advance.Over then turns pulse n + 1 else turns pulse n := by
  simp only [over_scheduled_iff]
  exact alarms_succ pulse n (by decide) (by decide)

theorem phaseStart_succ : mark 25000 pulse (n + 1) =
    if (CircadianClock.scheduled pulse days n).advance.Over then pulse + .ofNat 64 (n + 1)
    else mark 25000 pulse n := by
  simp only [over_scheduled_iff]
  exact mark_succ pulse n (by decide) (by decide)

/-- The phases come round in fours. -/
theorem next_iterate_eq_nadir_iff (k : Nat) : CircadianPhase.next^[k] .dawn = .nadir ↔ k % 4 = 3 := by
  have hround : ∀ k, CircadianPhase.next^[k + 4] .dawn = CircadianPhase.next^[k] .dawn := by
    intro k
    rw [Function.iterate_add_apply]
    rfl
  induction k using Nat.strong_induction_on with
  | _ k ih =>
    by_cases hlt : k < 4
    · have hcases : k = 0 ∨ k = 1 ∨ k = 2 ∨ k = 3 := by omega
      rcases hcases with rfl | rfl | rfl | rfl <;> decide
    · -- a whole day less
      obtain ⟨j, rfl⟩ := Nat.exists_eq_add_of_le' (Nat.not_lt.1 hlt)
      rw [hround, Nat.add_mod_right]
      exact ih j (by omega)

/-- A tick follows the schedule. -/
theorem tick_scheduled : (CircadianClock.scheduled pulse days n).tick = .scheduled pulse days (n + 1) := by
  have hturns := turns_succ pulse days n
  have hstart := phaseStart_succ pulse days n
  rw [CircadianClock.tick]
  by_cases hover : (CircadianClock.scheduled pulse days n).advance.Over
  · have hphase : (CircadianPhase.next^[turns pulse n] .dawn).next = CircadianPhase.next^[turns pulse n + 1] .dawn :=
      (Function.iterate_succ_apply' ..).symm
    rw [if_pos hover] at hturns hstart
    rw [if_pos hover, advance_scheduled, CircadianClock.turn, CircadianClock.scheduled, CircadianClock.scheduled,
      hturns, hstart]
    dsimp only
    rw [hphase]
    congr 1
    -- a nadir counts as a day
    by_cases hnadir : CircadianPhase.next^[turns pulse n + 1] .dawn = .nadir
    · have hmod := (next_iterate_eq_nadir_iff _).1 hnadir
      have hdiv : (turns pulse n + 1 + 1) / 4 = (turns pulse n + 1) / 4 + 1 := by omega
      rw [if_pos hnadir, hdiv, BitVec.ofNat_add, BitVec.add_assoc]
      rfl
    · have hmod := (next_iterate_eq_nadir_iff _).not.1 hnadir
      have hdiv : (turns pulse n + 1 + 1) / 4 = (turns pulse n + 1) / 4 := by omega
      rw [if_neg hnadir, hdiv]
  · rw [if_neg hover] at hturns hstart
    rw [if_neg hover, advance_scheduled, CircadianClock.scheduled, CircadianClock.scheduled, hturns, hstart]

end Clock

/-! ## Birth -/

section Birth

variable {D : Type} {oo : OoStorage D} {storage : Option D} {env : Surroundings} {stack : Bytes} {o : Organism D}

/-- The organism comes out of `vital_init`, in a process that has just started. -/
def Born (oo : OoStorage D) (o : Organism D) : Prop :=
  ∃ storage env stack, vitalInit oo (Organism.boot storage) env stack = some o

/-- The liver at birth. -/
def newbornLiver : Liver := ⟨1000000, 1000000, 0, 100⟩

theorem liver_registerOrgan (m : Metabolism) (organId : UInt8) (budget : UInt64) :
    (metabolismRegisterOrgan m organId budget).liver = m.liver := by
  rw [metabolismRegisterOrgan]
  split <;> rfl

theorem liver_registerOrgans (budgets : List (UInt8 × UInt64)) (m : Metabolism) :
    (budgets.foldl (fun m budget => metabolismRegisterOrgan m budget.1 budget.2) m).liver = m.liver := by
  induction budgets generalizing m with
  | nil => rfl
  | cons budget budgets ih => exact (ih _).trans (liver_registerOrgan m budget.1 budget.2)

theorem attention_init (env : Surroundings) (bus : Bus) :
    attentionOf (consciousnessInit env .boot bus).1 = ⟨.aware, 0, 0⟩ := by
  have hborn : ConsciousnessState.Allows .embryonic .aware := by decide
  rw [consciousnessInit]
  dsimp only
  rw [consciousnessTransition, if_pos hborn]
  rfl

/-- What `vital_init` makes of the static variables that no file holds. -/
theorem Born.cases (h : Born oo o) : o.circadianPhase = .dawn ∧ o.phaseStartPulse = 0 ∧ o.board = homeostasisInit ∧
    o.metabolism.liver = newbornLiver ∧ attentionOf o.nerves.consciousness = ⟨.aware, 0, 0⟩ := by
  obtain ⟨storage, env, stack, hinit⟩ := h
  obtain ⟨s, -, hs⟩ := Option.bind_eq_some_iff.1 hinit
  obtain rfl := Option.some.inj hs
  have hliver := liver_registerOrgans initialBudgets (metabolismInit Metabolism.boot 1000000)
  exact ⟨rfl, rfl, rfl, hliver, attention_init env Bus.boot⟩

/-- The signs of a newborn organism. Its pulse count and its days may come from a former life. -/
theorem Born.signs (h : Born oo o) :
    o.signs = ⟨.scheduled o.spark.pulseCount o.spark.ageCycles 0, homeostasisInit, newbornLiver, ⟨.aware, 0, 0⟩⟩ := by
  obtain ⟨hphase, hstart, hboard, hliver, hattention⟩ := h.cases
  have hturns : turns o.spark.pulseCount 0 = 0 := alarms_zero _
  have hmark : mark 25000 o.spark.pulseCount 0 = 0 := mark_zero _
  have hpulse : o.spark.pulseCount + BitVec.ofNat 64 0 = o.spark.pulseCount := BitVec.add_zero _
  have hdays : o.spark.ageCycles + BitVec.ofNat 8 0 = o.spark.ageCycles := BitVec.add_zero _
  simp only [Organism.signs, Organism.clock, CircadianClock.scheduled, hphase, hstart, hboard, hliver, hattention,
    hturns, hpulse, hmark]
  rw [show (0 + 1) / 4 = 0 from rfl, hdays]
  rfl

end Birth

/-! ## Whole lives -/

section Lives

variable {D : Type} {oo : OoStorage D} {o₀ : Organism D} {tr : List ((Bus × World) × Organism D)}

/-- A property of the signs that beats keep holds along a life, together with the number of beats. -/
theorem Born.signs_induction (h : Born oo o₀) {I : Nat → Signs → Prop}
    (h₀ : I 0 o₀.signs) (hstep : ∀ n s, s.board = homeostasisInit → I n s → ∀ (critical : Prop) [Decidable critical],
      I (n + 1) (s.beat critical)) (hrun : Exec (BeatStep oo) o₀ tr) :
    I tr.length (final o₀ tr).signs := by
  have hboard : o₀.board = homeostasisInit := h.cases.2.2.1
  -- the induction is over a run that begins anywhere in the life
  have hgeneral : ∀ (tr : List ((Bus × World) × Organism D)) (o : Organism D) (n : Nat), o.board = homeostasisInit →
      I n o.signs → Exec (BeatStep oo) o tr → I (n + tr.length) (final o tr).signs := by
    intro tr
    induction tr with
    | nil => exact fun o n _ hn _ => hn
    | cons e tr ih =>
      intro o n hboard hn hrun
      obtain ⟨a, o'⟩ := e
      have hsigns := hrun.1.signs (by rw [hboard]; exact viable_init)
      -- the board is in its zone, and regulation leaves it there
      have hboard' : o'.board = homeostasisInit := by
        rw [← board_signs, hsigns, board_beat, board_signs, hboard, regulate_init]
      have hnext := ih o' (n + 1) hboard' (by rw [hsigns]; exact hstep n o.signs hboard hn _) hrun.2
      rw [List.length_cons, final_cons, Nat.add_comm tr.length 1, ← Nat.add_assoc]
      exact hnext
  have hrun := hgeneral tr o₀ 0 hboard h₀ hrun
  rwa [Nat.zero_add] at hrun

/-- In every life, whatever the hardware and the other organs do: after any number of beats the circadian clock is
where the schedule says. -/
theorem circadian_schedule (h : Born oo o₀) (hrun : Exec (BeatStep oo) o₀ tr) :
    (final o₀ tr).clock = .scheduled o₀.spark.pulseCount o₀.spark.ageCycles tr.length := by
  rw [← clock_signs]
  refine h.signs_induction
    (I := fun n s => s.clock = .scheduled o₀.spark.pulseCount o₀.spark.ageCycles n) ?_ ?_ hrun
  · rw [h.signs]
  · intro n s _ hclock critical _
    rw [clock_beat, hclock, tick_scheduled]

/-- Without a former life, a phase begins whenever 25000 beats are over. -/
theorem turns_of_no_past (n : Nat) : turns 0 n = n / 25000 := epochs_self (by decide) n

/-- The board never leaves its initial values. -/
theorem Born.board (h : Born oo o₀) (hrun : Exec (BeatStep oo) o₀ tr) : (final o₀ tr).board = homeostasisInit := by
  rw [← board_signs]
  refine h.signs_induction (I := fun _ s => s.board = homeostasisInit) ?_ ?_ hrun
  · rw [h.signs]
  · intro n s hs _ critical _
    rw [board_beat, hs, regulate_init]

/-- In every life, no state is one in which a beat ends in a panic. -/
theorem never_panics (h : Born oo o₀) (hrun : Exec (BeatStep oo) o₀ tr) (bus : Bus) (w : World) (fuel : Nat) :
    vitalEternalHeartbeat oo w ((final o₀ tr).withBus bus) fuel ≠ .error .ouroborosPanic := by
  apply not_panic_of_viable
  rw [board_withBus, h.board hrun]
  exact viable_init

end Lives

theorem born_firstborn : Born noDisk firstborn := ⟨none, quietSurroundings, fun _ => 0, rfl⟩

/-- A little after the first day. -/
theorem circadian_schedule_calmLife : (final firstborn (calmLife 110000)).clock = ⟨110000, 100000, .dawn, 1⟩ := by
  have hclock := circadian_schedule born_firstborn (exec_calmLife 110000)
  rw [length_calmLife] at hclock
  exact hclock.trans (by decide)

/-- The guardian is critical, and the entropy is high. -/
def grimWorld : World := { calmWorld with guardianState := 2, rawEntropy := 0xFFFFFFFFFFFFFFFF }

/-- A beat in a famine, under a critical guardian. -/
theorem never_panics_calmLife :
    vitalEternalHeartbeat noDisk grimWorld ((final firstborn (calmLife 25000)).withBus .boot) bloodVolume ≠
      .error .ouroborosPanic :=
  never_panics born_firstborn (exec_calmLife 25000) .boot grimWorld bloodVolume

end OperatingOrganism.Vital.LifeLoop

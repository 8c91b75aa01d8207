import OperatingOrganism.Vital.CircadianRhythm

/-!
# Famine

The organism is born with a million calories, pays a hundred of them at every beat, and gains some in sleep only.
No sleep comes in time. The pool is at its end after 10098 beats, before the second circadian phase that a life can
reach, and the famine of the next beat hurts. Pain keeps the organism awake: it is alert, or focused again for the
rest of the beat in which the alert has lasted too long, and from neither state leads a way to sleep. So no energy is
ever generated, and the famine is for life (`permanent_famine`). Nothing that the beats depend on can change that,
neither the entropy, the clock or the guardian nor what the other organs send.
-/

set_option autoImplicit false

namespace OperatingOrganism.Vital.LifeLoop

open OperatingOrganism.Epochs OperatingOrganism.Execution OperatingOrganism.UnitedBus

/-! ## The liver without sleep -/

/-- The pool after some beats without sleep: a hundred calories for each beat, then fifty, then none are left. -/
def poolAfter (n : Nat) : Nat :=
  if n ≤ 9901 then 1000000 - 100 * n else if n ≤ 10098 then 9900 - 50 * (n - 9901) else 0

/-- What was wasted until then. The last fifty calories are lost without being counted. -/
def wastedAfter (n : Nat) : Nat :=
  if n ≤ 9901 then 100 * n else if n ≤ 10098 then 990100 + 50 * (n - 9901) else 999950

/-- The liver after some beats without sleep. -/
def liverAfter (n : Nat) : Liver where
  totalEnergyPool := .ofNat (poolAfter n)
  energyGenerated := 1000000
  energyWasted := .ofNat (wastedAfter n)
  basalMetabolicRate := if n ≤ 9900 then 100 else 50

section Liver

variable (n : Nat)

theorem poolAfter_le : poolAfter n ≤ 1000000 := by
  rw [poolAfter]
  split
  · exact Nat.sub_le ..
  · split <;> omega

theorem toNat_pool : (liverAfter n).totalEnergyPool.toNat = poolAfter n := by
  have hle := poolAfter_le n
  exact UInt64.toNat_ofNat_of_lt' (by change poolAfter n < 18446744073709551616; omega)

/-- The basal rate of the next beat. -/
def rateAfter (n : Nat) : Nat := if n ≤ 9900 then 100 else 50

theorem toUInt64_rate : (liverAfter n).basalMetabolicRate.toUInt64 = .ofNat (rateAfter n) := by
  rw [liverAfter, rateAfter]
  dsimp only
  split <;> rfl

theorem affords_iff : (liverAfter n).Affords ↔ n < 10098 := by
  have hpool := toNat_pool n
  have hrate : (UInt64.ofNat (rateAfter n)).toNat = rateAfter n := by
    rw [rateAfter]
    split <;> rfl
  rw [Liver.Affords, gt_iff_lt, UInt64.lt_iff_toNat_lt, hpool, toUInt64_rate, hrate, poolAfter, rateAfter]
  split_ifs <;> omega

theorem poolAfter_succ (h : n < 10098) : poolAfter (n + 1) = poolAfter n - rateAfter n ∧ rateAfter n ≤ poolAfter n := by
  rw [poolAfter, poolAfter, rateAfter]
  split_ifs <;> omega

theorem wastedAfter_succ (h : n < 10098) : wastedAfter (n + 1) = wastedAfter n + rateAfter n := by
  rw [wastedAfter, wastedAfter, rateAfter]
  split_ifs <;> omega

/-- The basal rate is paid as long as the pool holds more. -/
theorem payBasal_liverAfter : (liverAfter n).payBasal =
    { liverAfter n with
      totalEnergyPool := .ofNat (poolAfter (n + 1))
      energyWasted := .ofNat (wastedAfter (n + 1)) } := by
  rw [Liver.payBasal]
  by_cases h : n < 10098
  · obtain ⟨hpool, hle⟩ := poolAfter_succ n h
    rw [if_pos ((affords_iff n).2 h), toUInt64_rate, hpool, wastedAfter_succ n h, UInt64.ofNat_sub hle,
      UInt64.ofNat_add]
    rfl
  · -- the famine: the pool is emptied, and nothing more is wasted
    have hpool : poolAfter (n + 1) = 0 := by
      rw [poolAfter]
      split_ifs <;> omega
    have hwasted : wastedAfter (n + 1) = wastedAfter n := by
      rw [wastedAfter, wastedAfter]
      split_ifs <;> omega
    rw [if_neg ((affords_iff n).not.2 h), hpool, hwasted]
    rfl

/-- A tick without sleep. -/
theorem digest_liverAfter {state : ConsciousnessState} (hawake : ¬ (state = .dormant ∨ state = .dreaming)) :
    digest (liverAfter n) state = liverAfter (n + 1) := by
  have hregeneration : (liverAfter n).payBasal.regeneration state = none := if_neg hawake
  have hpool : UInt64.ofNat (poolAfter (n + 1)) < 10000 ↔ ¬ n + 1 ≤ 9900 := by
    have htoNat : (UInt64.ofNat (poolAfter (n + 1))).toNat = poolAfter (n + 1) := toNat_pool (n + 1)
    have hlimit : (10000 : UInt64).toNat = 10000 := rfl
    rw [UInt64.lt_iff_toNat_lt, htoNat, hlimit, poolAfter]
    split_ifs <;> omega
  rw [digest, hregeneration, payBasal_liverAfter, Liver.adapt]
  dsimp only
  by_cases hfull : n + 1 ≤ 9900
  · rw [if_neg (hpool.not.2 (not_not.2 hfull)), liverAfter, liverAfter, if_pos hfull]
  · rw [if_pos (hpool.2 hfull), liverAfter, liverAfter, if_neg hfull]

end Liver

/-! ## The attention in a famine -/

/-- The states that a life comes to. -/
def Waking (c : ConsciousnessState) : Prop := c = .aware ∨ c = .focused ∨ c = .alert

instance (c : ConsciousnessState) : Decidable (Waking c) := inferInstanceAs (Decidable (_ ∨ _))

/-- The states in which a famine leaves the organism. -/
def Driven (c : ConsciousnessState) : Prop := c = .focused ∨ c = .alert

instance (c : ConsciousnessState) : Decidable (Driven c) := inferInstanceAs (Decidable (_ ∨ _))

section Attention

variable (m : Attention)

theorem Attention.state_request (target : ConsciousnessState) : (m.request target).state = m.state.request target := by
  rw [Attention.request, ConsciousnessState.request]
  split <;> rfl

theorem Attention.cycles_request (target : ConsciousnessState) : (m.request target).cycles = m.cycles := by
  rw [Attention.request]
  split <;> rfl

theorem Attention.entered_request (target : ConsciousnessState) :
    (m.request target).entered = m.entered ∨ (m.request target).entered = m.cycles := by
  rw [Attention.request]
  split
  · exact .inr rfl
  · exact .inl rfl

/-- A tick asks for nothing, or for the state that follows. -/
theorem Attention.state_tick : m.tick.state = m.state ∨
    ∃ limit target reason, m.state.timeout = some (limit, target, reason) ∧ m.cycles + 1 - m.entered > limit ∧
      m.tick.state = m.state.request target := by
  rw [Attention.tick]
  dsimp only
  cases htimeout : m.state.timeout with
  | none => exact .inl rfl
  | some r =>
    obtain ⟨limit, target, reason⟩ := r
    dsimp only
    split
    · next h => exact .inr ⟨limit, target, reason, rfl, h, Attention.state_request _ target⟩
    · exact .inl rfl

theorem Attention.cycles_tick : m.tick.cycles = m.cycles + 1 := by
  rw [Attention.tick]
  dsimp only
  split
  · split
    · exact Attention.cycles_request _ _
    · rfl
  · rfl

/-- A famine alerts from every waking state. -/
theorem request_alert_of_waking {c : ConsciousnessState} (h : Waking c) : c.request .alert = .alert := by
  rcases h with rfl | rfl | rfl <;> decide

/-- Neither the phases nor the guardian put an organism to sleep that is focused or alert. -/
theorem waking_of_driven {c : ConsciousnessState} (h : Driven c) (phase : CircadianPhase) :
    Waking (c.request phase.asks) := by
  rcases h with rfl | rfl <;> cases phase <;> decide

variable {m} in
theorem driven_tick (h : m.state = .alert) : Driven m.tick.state := by
  rcases m.state_tick with hsame | ⟨limit, target, reason, htimeout, -, hnext⟩
  · rw [hsame, h]
    decide
  · rw [h] at htimeout hnext
    obtain ⟨-, htarget, -⟩ : limit = 5000 ∧ target = .focused ∧ reason = "Alert resolved autonomously" := by
      simpa [ConsciousnessState.timeout, eq_comm] using htimeout
    rw [hnext, htarget]
    decide

theorem driven_request_alert {c : ConsciousnessState} (h : Driven c) : Driven (c.request .alert) := by
  rcases h with rfl | rfl <;> decide

/-- Awake, in the `n`-th beat, since at most `n` beats. -/
structure Fresh (n : Nat) (m : Attention) : Prop where
  waking : Waking m.state
  cycles : m.cycles = .ofNat n
  entered : m.entered.toNat ≤ n

variable {m} {n : Nat}

theorem Fresh.request (h : Fresh n m) (hn : n < 10099) {target : ConsciousnessState}
    (hwaking : Waking (m.state.request target)) : Fresh n (m.request target) where
  waking := by rwa [Attention.state_request]
  cycles := by rw [Attention.cycles_request, h.cycles]
  entered := by
    rcases m.entered_request target with hsame | hnow
    · rw [hsame]
      exact h.entered
    · rw [hnow, h.cycles, UInt64.toNat_ofNat_of_lt' (by change n < 18446744073709551616; omega)]

/-- The idle timeout is far away. -/
theorem Fresh.tick (h : Fresh n m) (hn : n < 10099) : Fresh (n + 1) m.tick := by
  have hcycles : m.cycles + 1 = .ofNat (n + 1) := by rw [h.cycles, UInt64.ofNat_add]; rfl
  have hnow : (UInt64.ofNat (n + 1)).toNat = n + 1 :=
    UInt64.toNat_ofNat_of_lt' (by change n + 1 < 18446744073709551616; omega)
  have hentered := h.entered
  refine ⟨?_, by rw [m.cycles_tick, hcycles], ?_⟩
  · rcases m.state_tick with hsame | ⟨limit, target, reason, htimeout, hlong, hnext⟩
    · rw [hsame]
      exact h.waking
    · rcases h.waking with haware | hfocused | halert
      · -- the aware state lasts for 50000 cycles, and there were no more than 10099
        have hlimit : limit = 50000 := by
          rw [haware] at htimeout
          exact (congrArg Prod.fst (Option.some.inj htimeout)).symm
        have hle : m.entered ≤ m.cycles + 1 := by
          rw [UInt64.le_iff_toNat_le, hcycles, hnow]
          omega
        rw [hlimit, gt_iff_lt, UInt64.lt_iff_toNat_lt, UInt64.toNat_sub_of_le _ _ hle, hcycles, hnow] at hlong
        have hfifty : (50000 : UInt64).toNat = 50000 := rfl
        omega
      · -- focused has no timeout
        rw [hfocused] at htimeout
        cases htimeout
      · rcases driven_tick halert with hfocused | halert'
        · exact .inr (.inl hfocused)
        · exact .inr (.inr halert')
  · rw [Attention.tick]
    dsimp only
    -- a state is entered now, or was entered before
    have hstays : m.entered.toNat ≤ n + 1 := by omega
    split
    · split
      · rcases Attention.entered_request { m with cycles := m.cycles + 1 } _ with hsame | hturn
        · rw [hsame]
          exact hstays
        · rw [hturn]
          dsimp only
          rw [hcycles, hnow]
      · exact hstays
    · exact hstays

end Attention

/-! ## A life -/

section Life

variable (pulse : BitVec 64) (days : BitVec 8)

/-- The signs after some beats of a life. -/
structure Living (n : Nat) (s : Signs) : Prop where
  clock : s.clock = .scheduled pulse days n
  liver : s.liver = liverAfter n
  awake : n < 10099 → Fresh n s.attention
  driven : 10099 ≤ n → Driven s.attention.state

variable {pulse days} {n : Nat} {s : Signs}

/-- The only phase that begins before the famine is a zenith. -/
theorem Living.zenith (h : Living pulse days n s) (hn : n < 10099) (hover : s.clock.advance.Over) :
    s.clock.phase.next = .zenith := by
  rw [h.clock] at hover ⊢
  have hdue := (alarm_iff pulse n (by decide) (by decide)).1 ((over_scheduled_iff pulse days n).1 hover)
  have hnone : alarms 25000 pulse n = 0 := by omega
  rw [CircadianClock.scheduled, turns, hnone]
  rfl

theorem attention_passTime (s : Signs) : s.passTime.attention =
    if s.clock.Over then s.attention.request s.clock.phase.next.asks else s.attention := by
  rw [Signs.passTime]
  split <;> rfl

/-- Before the famine, the time keeps the attention fresh. -/
theorem Living.fresh_passTime (h : Living pulse days n s) (hn : n < 10099) :
    Fresh n s.advance.passTime.attention := by
  have hfresh := h.awake hn
  rw [attention_passTime]
  split
  · next hover =>
    have hphase : s.advance.clock.phase.next = .zenith := h.zenith hn hover
    rw [hphase]
    refine hfresh.request hn ?_
    rcases hfresh.waking with haware | hfocused | halert
    · rw [haware]
      decide
    · rw [hfocused]
      decide
    · rw [halert]
      decide
  · exact hfresh

/-- Before and in the famine, no phase brings sleep. -/
theorem Living.waking_passTime (h : Living pulse days n s) : Waking s.advance.passTime.attention.state := by
  by_cases hn : n < 10099
  · exact (h.fresh_passTime hn).waking
  · have hdriven := h.driven (Nat.not_lt.1 hn)
    rw [attention_passTime]
    split
    · rw [Attention.state_request]
      exact waking_of_driven hdriven _
    · rcases hdriven with hfocused | halert
      · exact .inr (.inl hfocused)
      · exact .inr (.inr halert)

theorem fedAttention_advance (h : Living pulse days n s) : s.advance.passTime.fedAttention =
    if n < 10098 then s.advance.passTime.attention else s.advance.passTime.attention.request .alert := by
  have hliver : s.advance.passTime.liver = liverAfter n := (liver_passTime _).trans h.liver
  rw [Signs.fedAttention, hliver]
  by_cases hn : n < 10098
  · rw [if_pos hn, if_pos ((affords_iff n).2 hn)]
  · rw [if_neg hn, if_neg ((affords_iff n).not.2 hn)]

/-- No sleep comes between the meals. -/
theorem Living.waking_fed (h : Living pulse days n s) : Waking s.advance.passTime.fedAttention.state := by
  rw [fedAttention_advance h]
  split
  · exact h.waking_passTime
  · rw [Attention.state_request, request_alert_of_waking h.waking_passTime]
    exact .inr (.inr rfl)

/-- A beat of a life. -/
theorem Living.beat (h : Living pulse days n s) (critical : Prop) [Decidable critical] :
    Living pulse days (n + 1) (s.beat critical) := by
  have hattention : (s.beat critical).attention =
      if critical then s.advance.passTime.fedAttention.tick.request .alert
      else s.advance.passTime.fedAttention.tick := by
    rw [Signs.beat, Signs.beware]
    split <;> rfl
  refine ⟨?_, ?_, ?_, ?_⟩
  · rw [clock_beat, h.clock, tick_scheduled]
  · -- who is awake digests at full rate
    have hsleepless : ¬ (s.advance.passTime.fedAttention.state = .dormant ∨
        s.advance.passTime.fedAttention.state = .dreaming) := by
      rcases h.waking_fed with hw | hw | hw <;> rw [hw] <;> decide
    have hliver : s.advance.passTime.liver = liverAfter n := (liver_passTime _).trans h.liver
    rw [Signs.beat, liver_beware, Signs.attend, Signs.regulate, Signs.feed, hliver, digest_liverAfter n hsleepless]
  · -- before the pool is empty, hunger does not ask for anything
    intro hn
    have hfed : Fresh n s.advance.passTime.fedAttention := by
      rw [fedAttention_advance h, if_pos (by omega)]
      exact h.fresh_passTime (by omega)
    have htick := hfed.tick (by omega)
    rw [hattention]
    split
    · refine htick.request hn ?_
      rw [request_alert_of_waking htick.waking]
      exact .inr (.inr rfl)
    · exact htick
  · -- then each beat asks for the alert state, and an alert mind is driven after its tick
    intro hn
    have halert : s.advance.passTime.fedAttention.state = .alert := by
      rw [fedAttention_advance h, if_neg (by omega), Attention.state_request,
        request_alert_of_waking h.waking_passTime]
    rw [hattention]
    split
    · rw [Attention.state_request]
      exact driven_request_alert (driven_tick halert)
    · exact driven_tick halert

end Life

section Lives

variable {D : Type} {oo : OoStorage D} {o₀ : Organism D} {tr : List ((Bus × World) × Organism D)}

/-- The signs of every life. -/
theorem Born.living (h : Born oo o₀) (hrun : Exec (BeatStep oo) o₀ tr) :
    Living o₀.spark.pulseCount o₀.spark.ageCycles tr.length (final o₀ tr).signs := by
  refine h.signs_induction (I := Living o₀.spark.pulseCount o₀.spark.ageCycles) ?_ ?_ hrun
  · rw [h.signs]
    exact ⟨rfl, rfl, fun _ => ⟨.inl rfl, rfl, Nat.le_refl _⟩, fun hn => absurd hn (by decide)⟩
  · intro n s _ hs critical _
    exact hs.beat critical

/-- In every life, whatever the hardware and the other organs do: the liver is a function of the number of beats,
no energy is generated after birth, from the beat 10099 on the pool is empty, and the organism never sleeps. From
that beat on it is not even aware, but focused or alert. -/
theorem permanent_famine (h : Born oo o₀) (hrun : Exec (BeatStep oo) o₀ tr) :
    (final o₀ tr).metabolism.liver = liverAfter tr.length ∧ Waking (final o₀ tr).nerves.state ∧
      (10099 ≤ tr.length →
        (final o₀ tr).metabolism.liver.totalEnergyPool = 0 ∧ Driven (final o₀ tr).nerves.state) := by
  have hliving := h.living hrun
  have hliver : (final o₀ tr).metabolism.liver = liverAfter tr.length := by
    rw [← liver_signs]
    exact hliving.liver
  refine ⟨hliver, ?_, fun hn => ⟨?_, ?_⟩⟩
  · rw [← state_signs]
    by_cases hn : tr.length < 10099
    · exact (hliving.awake hn).waking
    · rcases hliving.driven (Nat.not_lt.1 hn) with hfocused | halert
      · exact .inr (.inl hfocused)
      · exact .inr (.inr halert)
  · have hempty : poolAfter tr.length = 0 := by
      rw [poolAfter]
      split_ifs <;> omega
    rw [hliver, liverAfter, hempty]
    rfl
  · rw [← state_signs]
    exact hliving.driven hn

end Lives

/-- After the reserves: the pool is empty, and the organism is not even aware. -/
theorem permanent_famine_calmLife :
    (final firstborn (calmLife 12000)).metabolism.liver = liverAfter 12000 ∧
      Waking (final firstborn (calmLife 12000)).nerves.state ∧
      (final firstborn (calmLife 12000)).metabolism.liver.totalEnergyPool = 0 ∧
      Driven (final firstborn (calmLife 12000)).nerves.state := by
  obtain ⟨hliver, hwaking, hfamine⟩ := permanent_famine born_firstborn (exec_calmLife 12000)
  rw [length_calmLife] at hliver hfamine
  obtain ⟨hempty, hdriven⟩ := hfamine (by decide)
  exact ⟨hliver, hwaking, hempty, hdriven⟩

end OperatingOrganism.Vital.LifeLoop

import OperatingOrganism.Library.Execution
import OperatingOrganism.Library.X86
import Mathlib.Algebra.Order.BigOperators.Group.List
import Mathlib.Algebra.Order.Ring.Nat

/-!
# The temporal engine

`temporal_engine.asm` keeps three quadwords: the reading of the time-stamp counter at the last tick, the sum of the
times between ticks, and a count of times that are out of the ordinary. `Temporal` is what the three quadwords are for;
the routines do to the memory what `TemporalCall.run` does to it (`temporalCall_refines`).
-/

set_option autoImplicit false

namespace OperatingOrganism.Vital.TemporalEngine

open OperatingOrganism.ByteLayout OperatingOrganism.ByteMemory OperatingOrganism.Execution OperatingOrganism.X86

/-- The section `.data`. -/
inductive TemporalSymbol where
  | temporalBaseline | temporalJitter | temporalAnomalies

inductive TemporalLabel where
  | anomalyDetected | initBaseline | updateBaseline
  deriving DecidableEq

/-- `vital_temporal_tick` -/
def vitalTemporalTick : List (Line TemporalSymbol TemporalLabel) := [
  .op .lfence,
  .op .rdtsc,
  .op .lfence,
  .op (.shl .rdx 32),
  .op (.or .rax .rdx),
  .op (.load .rcx (.rel .temporalBaseline)),
  .op (.cmpImm .rcx 0),
  .jcc .e .initBaseline,
  .op (.sub .rax .rcx),
  .op (.movImm .rcx 100000),
  .op (.cmp .rax .rcx),
  .jcc .a .anomalyDetected,
  .op (.movImm .rcx 100),
  .op (.cmp .rax .rcx),
  .jcc .b .anomalyDetected,
  .op (.addMem (.rel .temporalJitter) .rax),
  .jmp .updateBaseline,
  .label .anomalyDetected,
  .op (.incMem (.rel .temporalAnomalies)),
  .label .initBaseline,
  .label .updateBaseline,
  .op .rdtsc,
  .op (.shl .rdx 32),
  .op (.or .rax .rdx),
  .op (.store (.rel .temporalBaseline) .rax),
  .ret]

/-- `vital_temporal_get_jitter` -/
def vitalTemporalGetJitter : List (Line TemporalSymbol TemporalLabel) := [
  .op (.load .rax (.rel .temporalJitter)),
  .ret]

/-- `vital_temporal_reset` -/
def vitalTemporalReset : List (Line TemporalSymbol TemporalLabel) := [
  .op (.xor .rax .rax),
  .op (.store (.rel .temporalBaseline) .rax),
  .op (.store (.rel .temporalJitter) .rax),
  .ret]

/-! ## What the engine is for -/

/-- The three quadwords. -/
structure Temporal where
  baseline : BitVec 64
  jitter : BitVec 64
  anomalies : BitVec 64

namespace Temporal

/-- The time since the last tick is out of the ordinary. -/
def Anomalous (t : Temporal) (now : BitVec 64) : Prop := 100000 < now - t.baseline ∨ now - t.baseline < 100

instance (t : Temporal) (now : BitVec 64) : Decidable (t.Anomalous now) := inferInstanceAs (Decidable (_ ∨ _))

/-- The time since the last tick is added to the jitter, or counted. -/
def measure (t : Temporal) (now : BitVec 64) : Temporal :=
  if t.baseline = 0 then t
  else if t.Anomalous now then { t with anomalies := t.anomalies + 1 }
  else { t with jitter := t.jitter + (now - t.baseline) }

/-- A tick reads the counter when it begins and when it ends. -/
def tick (t : Temporal) (begins ends : BitVec 64) : Temporal := { t.measure begins with baseline := ends }

/-- The anomalies stay. -/
def reset (t : Temporal) : Temporal := { t with baseline := 0, jitter := 0 }

end Temporal

inductive TemporalCall where
  | tick | getJitter | reset

def TemporalCall.code : TemporalCall → List (Line TemporalSymbol TemporalLabel)
  | .tick => vitalTemporalTick
  | .getJitter => vitalTemporalGetJitter
  | .reset => vitalTemporalReset

/-- What a call does, for the two readings that a tick takes. -/
def TemporalCall.run (t : Temporal) (begins ends : BitVec 64) : TemporalCall → Temporal
  | .tick => t.tick begins ends
  | .getJitter => t
  | .reset => t.reset

/-! ## What the calls amount to -/

/-- The times that have been added since the last reset, and how many times were out of the ordinary. -/
structure Account where
  added : List (BitVec 64)
  anomalous : Nat

def TemporalCall.note (t : Temporal) (begins : BitVec 64) (acc : Account) : TemporalCall → Account
  | .tick =>
    if t.baseline = 0 then acc
    else if t.Anomalous begins then { acc with anomalous := acc.anomalous + 1 }
    else { acc with added := (begins - t.baseline) :: acc.added }
  | .getJitter => acc
  | .reset => { acc with added := [] }

/-- The engine agrees with the account. -/
structure Balanced (t : Temporal) (acc : Account) : Prop where
  jitter : t.jitter.toNat = (acc.added.map BitVec.toNat).sum % 2 ^ 64
  anomalies : t.anomalies.toNat = acc.anomalous % 2 ^ 64
  usual : ∀ d ∈ acc.added, 100 ≤ d.toNat ∧ d.toNat ≤ 100000

section Accounts

variable {t : Temporal} {acc : Account} {begins ends : BitVec 64}

theorem Balanced.tick (h : Balanced t acc) : Balanced (t.tick begins ends) (TemporalCall.tick.note t begins acc) := by
  rw [Temporal.tick, Temporal.measure, TemporalCall.note]
  by_cases hfirst : t.baseline = 0
  · rw [if_pos hfirst, if_pos hfirst]
    exact ⟨h.jitter, h.anomalies, h.usual⟩
  · rw [if_neg hfirst, if_neg hfirst]
    by_cases hodd : t.Anomalous begins
    · rw [if_pos hodd, if_pos hodd]
      refine ⟨h.jitter, ?_, h.usual⟩
      -- the anomalies wrap around, as their number does modulo 2 ^ 64
      simp only [BitVec.toNat_add, h.anomalies, Nat.mod_add_mod]
      rfl
    · rw [if_neg hodd, if_neg hodd]
      refine ⟨?_, h.anomalies, ?_⟩
      · simp only [BitVec.toNat_add, h.jitter, List.map_cons, List.sum_cons, Nat.mod_add_mod]
        rw [Nat.add_comm]
      · intro d hd
        rcases List.mem_cons.1 hd with rfl | hd
        · rw [Temporal.Anomalous, not_or, BitVec.not_lt, BitVec.not_lt, BitVec.le_def, BitVec.le_def] at hodd
          exact ⟨hodd.2, hodd.1⟩
        · exact h.usual d hd

theorem Balanced.run (h : Balanced t acc) (call : TemporalCall) :
    Balanced (call.run t begins ends) (call.note t begins acc) := by
  cases call with
  | tick => exact h.tick
  | getJitter => exact h
  | reset => exact ⟨rfl, h.anomalies, fun d hd => (List.not_mem_nil hd).elim⟩

/-- As long as the sum does not overflow, the jitter tells how many times have been added. -/
theorem Balanced.jitter_bounds (h : Balanced t acc) (hfew : acc.added.length * 100000 < 2 ^ 64) :
    acc.added.length * 100 ≤ t.jitter.toNat ∧ t.jitter.toNat ≤ acc.added.length * 100000 := by
  -- each time that was added is between the two limits
  have hlow : acc.added.length * 100 ≤ (acc.added.map BitVec.toNat).sum := by
    have hle := List.card_nsmul_le_sum (acc.added.map BitVec.toNat) 100 (by
      intro n hn
      obtain ⟨d, hd, rfl⟩ := List.mem_map.1 hn
      exact (h.usual d hd).1)
    simpa using hle
  have hhigh : (acc.added.map BitVec.toNat).sum ≤ acc.added.length * 100000 := by
    have hle := List.sum_le_card_nsmul (acc.added.map BitVec.toNat) 100000 (by
      intro n hn
      obtain ⟨d, hd, rfl⟩ := List.mem_map.1 hn
      exact (h.usual d hd).2)
    simpa using hle
  rw [h.jitter, Nat.mod_eq_of_lt (hhigh.trans_lt hfew)]
  exact ⟨hlow, hhigh⟩

end Accounts

/-! ## The routines -/

section Routines

variable {env : Environment TemporalSymbol} {mach : Machine} {t : BitVec 64}

/-- The section in memory: one quadword behind the other. -/
structure DataSection (env : Environment TemporalSymbol) : Prop where
  jitter : env.address .temporalJitter = env.address .temporalBaseline + .ofNat 64 8
  anomalies : env.address .temporalAnomalies = env.address .temporalBaseline + .ofNat 64 16

/-- What the memory holds. -/
def temporalAt (env : Environment TemporalSymbol) (memory : Memory) : Temporal where
  baseline := load64 memory (env.address .temporalBaseline)
  jitter := load64 memory (env.address .temporalJitter)
  anomalies := load64 memory (env.address .temporalAnomalies)

theorem DataSection.apart (h : DataSection env) :
    Apart (env.address .temporalBaseline) 8 (env.address .temporalJitter) 8 ∧
      Apart (env.address .temporalBaseline) 8 (env.address .temporalAnomalies) 8 ∧
      Apart (env.address .temporalJitter) 8 (env.address .temporalAnomalies) 8 := by
  have hbase : env.address .temporalBaseline = env.address .temporalBaseline + .ofNat 64 0 := by simp
  rw [h.jitter, h.anomalies]
  refine ⟨?_, ?_, apart_add (by decide) (by decide) (by decide) (by decide)⟩
  · conv => arg 1; rw [hbase]
    exact apart_add (by decide) (by decide) (by decide) (by decide)
  · conv => arg 1; rw [hbase]
    exact apart_add (by decide) (by decide) (by decide) (by decide)

/-- The two halves of a reading make the reading. -/
theorem halves_or (t : BitVec 64) : (t.setWidth 32).setWidth 64 ||| (t >>> 32) <<< 32 = t := by
  ext i hi
  simp only [BitVec.getElem_or, BitVec.getElem_setWidth, BitVec.getElem_shiftLeft, BitVec.getLsbD_setWidth,
    BitVec.getElem_ushiftRight]
  by_cases hlow : i < 32
  · simp [hlow, BitVec.getLsbD_eq_getElem hi]
  · have hplace : 32 + (i - 32) = i := by omega
    simp [hlow, hplace, BitVec.getLsbD_eq_getElem hi]

/-- The instructions up to the first comparison, up to the second, and up to the third. -/
def untilStart : List (Op TemporalSymbol) :=
  [.lfence, .rdtsc, .lfence, .shl .rdx 32, .or .rax .rdx, .load .rcx (.rel .temporalBaseline), .cmpImm .rcx 0]

def untilAbove : List (Op TemporalSymbol) := [.sub .rax .rcx, .movImm .rcx 100000, .cmp .rax .rcx]

def untilBelow : List (Op TemporalSymbol) := [.movImm .rcx 100, .cmp .rax .rcx]

/-- The instructions that set the new baseline. -/
def setBaseline : List (Op TemporalSymbol) :=
  [.rdtsc, .shl .rdx 32, .or .rax .rdx, .store (.rel .temporalBaseline) .rax]

/-- The machine at the label `.update_baseline`. -/
def measured (env : Environment TemporalSymbol) (mach : Machine) : Machine :=
  let start := runOps env untilStart mach
  let above := runOps env untilAbove start
  let below := runOps env untilBelow above
  if Condition.e.holds start then start
  else if Condition.a.holds above then runOps env [.incMem (.rel .temporalAnomalies)] above
  else if Condition.b.holds below then runOps env [.incMem (.rel .temporalAnomalies)] below
  else runOps env [.addMem (.rel .temporalJitter) .rax] below

theorem temporalTick_ends {e : End TemporalSymbol} : Ends env vitalTemporalTick vitalTemporalTick mach e ↔
    Ends env vitalTemporalTick (setBaseline.map .op ++ [.ret]) (measured env mach) e := by
  -- from each of the places that the jumps lead to, to the label of the update
  have hcount : ∀ mach, Ends env vitalTemporalTick (target .anomalyDetected vitalTemporalTick) mach e ↔
      Ends env vitalTemporalTick (setBaseline.map .op ++ [.ret])
        (runOps env [.incMem (.rel .temporalAnomalies)] mach) e :=
    fun mach => ends_label.trans (ends_op.trans (ends_label.trans ends_label))
  have hstart : ∀ mach, Ends env vitalTemporalTick (target .initBaseline vitalTemporalTick) mach e ↔
      Ends env vitalTemporalTick (setBaseline.map .op ++ [.ret]) mach e :=
    fun mach => ends_label.trans ends_label
  have hadd : ∀ mach, Ends env vitalTemporalTick (vitalTemporalTick.drop 15) mach e ↔
      Ends env vitalTemporalTick (setBaseline.map .op ++ [.ret])
        (runOps env [.addMem (.rel .temporalJitter) .rax] mach) e :=
    fun mach => ends_op.trans (ends_jmp.trans ends_label)
  -- from behind each comparison, through the jump that it decides
  have hthird : ∀ mach, Ends env vitalTemporalTick (vitalTemporalTick.drop 12) mach e ↔
      Ends env vitalTemporalTick (if Condition.b.holds (runOps env untilBelow mach) then
        target .anomalyDetected vitalTemporalTick else vitalTemporalTick.drop 15) (runOps env untilBelow mach) e :=
    fun mach => (ends_ops untilBelow (vitalTemporalTick.drop 14)).trans ends_jcc
  have hsecond : ∀ mach, Ends env vitalTemporalTick (vitalTemporalTick.drop 8) mach e ↔
      Ends env vitalTemporalTick (if Condition.a.holds (runOps env untilAbove mach) then
        target .anomalyDetected vitalTemporalTick else vitalTemporalTick.drop 12) (runOps env untilAbove mach) e :=
    fun mach => (ends_ops untilAbove (vitalTemporalTick.drop 11)).trans ends_jcc
  have hfirst : Ends env vitalTemporalTick vitalTemporalTick mach e ↔
      Ends env vitalTemporalTick (if Condition.e.holds (runOps env untilStart mach) then
        target .initBaseline vitalTemporalTick else vitalTemporalTick.drop 8) (runOps env untilStart mach) e :=
    (ends_ops untilStart (vitalTemporalTick.drop 7)).trans ends_jcc
  rw [hfirst, measured]
  split
  · rw [hstart]
  · rw [hsecond]
    split
    · rw [hcount]
    · rw [hthird]
      split
      · rw [hcount]
      · rw [hadd]

/-- A block that only works in registers. -/
structure InRegisters (mach mach' : Machine) : Prop where
  memory : mach'.memory = mach.memory
  stack : mach'.reg .rsp = mach.reg .rsp

theorem InRegisters.trans {mach₁ mach₂ mach₃ : Machine} (h : InRegisters mach₁ mach₂) (h' : InRegisters mach₂ mach₃) :
    InRegisters mach₁ mach₃ := ⟨h'.memory.trans h.memory, h'.stack.trans h.stack⟩

theorem untilStart_spec : InRegisters mach (runOps env untilStart mach) ∧
    (runOps env untilStart mach).readings = mach.readings + 1 ∧
    (runOps env untilStart mach).reg .rax = env.tsc mach.readings ∧
    (runOps env untilStart mach).reg .rcx = (temporalAt env mach.memory).baseline ∧
    (Condition.e.holds (runOps env untilStart mach) ↔ (temporalAt env mach.memory).baseline = 0) := by
  refine ⟨⟨?_, ?_⟩, ?_, ?_, ?_, ?_⟩ <;>
    simp [untilStart, Op.effect, Machine.compare, Machine.load, Place.address, Condition.holds, temporalAt, halves_or]

theorem untilAbove_spec : InRegisters mach (runOps env untilAbove mach) ∧
    (runOps env untilAbove mach).readings = mach.readings ∧
    (runOps env untilAbove mach).reg .rax = mach.reg .rax - mach.reg .rcx ∧
    (Condition.a.holds (runOps env untilAbove mach) ↔ 100000 < mach.reg .rax - mach.reg .rcx) := by
  refine ⟨⟨?_, ?_⟩, ?_, ?_, ?_⟩
  · simp [untilAbove, Op.effect, Machine.compare]
  · simp [untilAbove, Op.effect, Machine.compare]
  · simp [untilAbove, Op.effect, Machine.compare]
  · simp [untilAbove, Op.effect, Machine.compare]
  · -- above is neither below nor equal
    simp only [untilAbove, runOps_cons, runOps_nil, Op.effect, Machine.compare, Condition.holds, Machine.zf_flags,
      Machine.cf_flags, Machine.reg_flags, Machine.reg_set, Bool.and_eq_true, Bool.not_eq_true',
      decide_eq_false_iff_not]
    simp only [reduceCtorEq, if_false, if_true, BitVec.lt_def, ← BitVec.toNat_inj]
    omega

theorem untilBelow_spec : InRegisters mach (runOps env untilBelow mach) ∧
    (runOps env untilBelow mach).readings = mach.readings ∧
    (runOps env untilBelow mach).reg .rax = mach.reg .rax ∧
    (Condition.b.holds (runOps env untilBelow mach) ↔ mach.reg .rax < 100) := by
  refine ⟨⟨?_, ?_⟩, ?_, ?_, ?_⟩ <;> simp [untilBelow, Op.effect, Machine.compare, Condition.holds]

section Cells

variable {memory : Memory} {v : BitVec 64} {x : Address}

theorem DataSection.temporalAt_baseline (h : DataSection env) :
    temporalAt env (store64 memory (env.address .temporalBaseline) v) =
      { temporalAt env memory with baseline := v } := by
  obtain ⟨hjitter, hanomalies, -⟩ := h.apart
  simp [temporalAt, load64_store64_of_apart hjitter, load64_store64_of_apart hanomalies]

theorem DataSection.temporalAt_jitter (h : DataSection env) :
    temporalAt env (store64 memory (env.address .temporalJitter) v) = { temporalAt env memory with jitter := v } := by
  obtain ⟨hbaseline, -, hanomalies⟩ := h.apart
  simp [temporalAt, load64_store64_of_apart hbaseline.symm, load64_store64_of_apart hanomalies]

theorem DataSection.temporalAt_anomalies (h : DataSection env) :
    temporalAt env (store64 memory (env.address .temporalAnomalies) v) =
      { temporalAt env memory with anomalies := v } := by
  obtain ⟨-, hbaseline, hjitter⟩ := h.apart
  simp [temporalAt, load64_store64_of_apart hbaseline.symm, load64_store64_of_apart hjitter.symm]

/-- The memory outside of the section is the same. -/
def SameElsewhere (env : Environment TemporalSymbol) (memory memory' : Memory) : Prop :=
  ∀ x, 24 ≤ distance (env.address .temporalBaseline) x → memory' x = memory x

theorem SameElsewhere.refl (memory : Memory) : SameElsewhere env memory memory := fun _ _ => rfl

theorem SameElsewhere.trans {memory₁ memory₂ memory₃ : Memory} (h : SameElsewhere env memory₁ memory₂)
    (h' : SameElsewhere env memory₂ memory₃) : SameElsewhere env memory₁ memory₃ :=
  fun x hx => (h' x hx).trans (h x hx)

/-- The addresses of the section. -/
theorem DataSection.sameElsewhere (h : DataSection env) (s : TemporalSymbol) :
    SameElsewhere env memory (store64 memory (env.address s) v) := by
  intro x hx
  apply store64_of_le
  cases s with
  | temporalBaseline => omega
  | temporalJitter =>
    rw [h.jitter, distance_add_left (by decide), if_pos (by omega)]
    omega
  | temporalAnomalies =>
    rw [h.anomalies, distance_add_left (by decide), if_pos (by omega)]
    omega

/-- The return address is not in the section. -/
theorem SameElsewhere.load_eq {memory' : Memory} (h : SameElsewhere env memory memory')
    (hx : Apart (env.address .temporalBaseline) 24 x 8) : load64 memory' x = load64 memory x := by
  apply getLE_congr
  intro k _ hk
  exact h _ (hx.le_distance (by omega))

end Cells

/-- What the three ways to the update do to the quadwords. -/
theorem measured_spec (h : DataSection env) :
    temporalAt env (measured env mach).memory = (temporalAt env mach.memory).measure (env.tsc mach.readings) ∧
    (measured env mach).readings = mach.readings + 1 ∧ (measured env mach).reg .rsp = mach.reg .rsp ∧
    SameElsewhere env mach.memory (measured env mach).memory := by
  obtain ⟨hstart, hreadings, hax, hcx, hzero⟩ := @untilStart_spec env mach
  obtain ⟨habove, hreadings', hax', hlong⟩ := @untilAbove_spec env (runOps env untilStart mach)
  obtain ⟨hbelow, hreadings'', hax'', hshort⟩ :=
    @untilBelow_spec env (runOps env untilAbove (runOps env untilStart mach))
  -- the comparisons work in registers: the section is that of the call, and rax holds the time since the last tick
  have hall := hstart.trans habove
  rw [hax, hcx] at hax' hlong
  rw [hax'] at hax'' hshort
  rw [measured, Temporal.measure]
  by_cases hfirst : (temporalAt env mach.memory).baseline = 0
  · -- the first tick only sets the baseline
    rw [if_pos (hzero.2 hfirst), if_pos hfirst, hstart.memory]
    exact ⟨rfl, hreadings, hstart.stack, .refl _⟩
  · rw [if_neg (hzero.not.2 hfirst), if_neg hfirst]
    by_cases hhigh : 100000 < env.tsc mach.readings - (temporalAt env mach.memory).baseline
    · rw [if_pos (hlong.2 hhigh), if_pos (.inl hhigh)]
      simp only [runOps_cons, runOps_nil, Op.effect, Place.address, Machine.memory_flags, Machine.memory_store,
        Machine.readings_flags, Machine.readings_store, Machine.reg_flags, Machine.reg_store, Machine.load]
      rw [h.temporalAt_anomalies, hall.memory, hreadings', hreadings, hall.stack]
      exact ⟨rfl, rfl, rfl, h.sameElsewhere _⟩
    · rw [if_neg (hlong.not.2 hhigh)]
      by_cases hlow : env.tsc mach.readings - (temporalAt env mach.memory).baseline < 100
      · rw [if_pos (hshort.2 hlow), if_pos (.inr hlow)]
        simp only [runOps_cons, runOps_nil, Op.effect, Place.address, Machine.memory_flags, Machine.memory_store,
          Machine.readings_flags, Machine.readings_store, Machine.reg_flags, Machine.reg_store, Machine.load]
        rw [h.temporalAt_anomalies, hbelow.memory, hall.memory, hreadings'', hreadings', hreadings, hbelow.stack,
          hall.stack]
        exact ⟨rfl, rfl, rfl, h.sameElsewhere _⟩
      · have hnormal : ¬ (temporalAt env mach.memory).Anomalous (env.tsc mach.readings) := by
          rintro (hover | hunder)
          · exact hhigh hover
          · exact hlow hunder
        rw [if_neg (hshort.not.2 hlow), if_neg hnormal]
        simp only [runOps_cons, runOps_nil, Op.effect, Place.address, Machine.memory_flags, Machine.memory_store,
          Machine.readings_flags, Machine.readings_store, Machine.reg_flags, Machine.reg_store, Machine.load]
        rw [h.temporalAt_jitter, hbelow.memory, hall.memory, hreadings'', hreadings', hreadings, hbelow.stack,
          hall.stack, hax'']
        exact ⟨rfl, rfl, rfl, h.sameElsewhere _⟩

/-- The baseline is set from a reading of its own. -/
theorem setBaseline_spec (h : DataSection env) :
    temporalAt env (runOps env setBaseline mach).memory =
      { temporalAt env mach.memory with baseline := env.tsc mach.readings } ∧
    (runOps env setBaseline mach).reg .rsp = mach.reg .rsp ∧
    SameElsewhere env mach.memory (runOps env setBaseline mach).memory := by
  have hmemory : (runOps env setBaseline mach).memory =
      store64 mach.memory (env.address .temporalBaseline) (env.tsc mach.readings) := by
    simp [setBaseline, Op.effect, Place.address, halves_or]
  rw [hmemory, h.temporalAt_baseline]
  refine ⟨rfl, ?_, h.sameElsewhere _⟩
  simp [setBaseline, Op.effect]

/-- Called with a return address outside of the section, a routine returns there, and has done to the section what
the engine is for. -/
theorem temporalCall_refines (h : DataSection env)
    (hreturn : Apart (env.address .temporalBaseline) 24 (mach.reg .rsp) 8)
    (call : TemporalCall) : ∃ mach',
    Ends env call.code call.code mach (.returned (mach.load (mach.reg .rsp)) mach') ∧
      temporalAt env mach'.memory =
        call.run (temporalAt env mach.memory) (env.tsc mach.readings) (env.tsc (mach.readings + 1)) ∧
      SameElsewhere env mach.memory mach'.memory ∧ mach'.reg .rsp = mach.reg .rsp + 8 ∧
      (call = .getJitter → mach'.reg .rax = (temporalAt env mach.memory).jitter) := by
  cases call with
  | tick =>
    obtain ⟨hmeasured, hreadings, hrsp, hsame⟩ := @measured_spec env mach h
    obtain ⟨hset, hrsp', hsame'⟩ := @setBaseline_spec env (measured env mach) h
    have hall := hsame.trans hsame'
    rw [hmeasured, hreadings] at hset
    rw [hrsp] at hrsp'
    refine ⟨(runOps env setBaseline (measured env mach)).set .rsp (mach.reg .rsp + 8), ?_, hset, hall, ?_, ?_⟩
    · -- the return address is the one of the call, since only the section is written
      have hload := hall.load_eq hreturn
      refine temporalTick_ends.2 ((ends_ops _ _).2 (ends_ret.2 ?_))
      rw [hrsp', Machine.load, Machine.load, hload]
    · simp
    · intro hother
      cases hother
  | getJitter =>
    refine ⟨(mach.set .rax (temporalAt env mach.memory).jitter).set .rsp (mach.reg .rsp + 8), ?_, rfl, .refl _, ?_, ?_⟩
    · refine ends_op.2 (ends_ret.2 ?_)
      simp [Op.effect, Machine.load, Place.address, temporalAt]
    · simp
    · simp
  | reset =>
    have hmemory : temporalAt env (store64 (store64 mach.memory (env.address .temporalBaseline) 0)
        (env.address .temporalJitter) 0) = (temporalAt env mach.memory).reset := by
      rw [h.temporalAt_jitter, h.temporalAt_baseline]
      rfl
    have hall : SameElsewhere env mach.memory (store64 (store64 mach.memory (env.address .temporalBaseline) 0)
        (env.address .temporalJitter) 0) := (h.sameElsewhere _).trans (h.sameElsewhere _)
    have hload := hall.load_eq hreturn
    refine ⟨((((mach.set .rax 0).flags true false).store (env.address .temporalBaseline) 0).store
      (env.address .temporalJitter) 0).set .rsp (mach.reg .rsp + 8), ?_, hmemory, hall, ?_, ?_⟩
    · refine ends_op.2 (ends_op.2 (ends_op.2 (ends_ret.2 ?_)))
      simp only [BitVec.ofNat_eq_ofNat] at hload
      simp [Op.effect, Machine.load, Place.address, hload]
    · simp
    · intro hother
      cases hother

end Routines

/-! ## Runs -/

section Runs

variable {env : Environment TemporalSymbol} {mach : Machine}

/-- Between two calls others run. They leave the section alone, and call with a return address outside of it. -/
structure Interlude (env : Environment TemporalSymbol) (mach entry : Machine) : Prop where
  kept : temporalAt env entry.memory = temporalAt env mach.memory
  returns : Apart (env.address .temporalBaseline) 24 (entry.reg .rsp) 8

/-- A machine, and the account of the calls so far. -/
abbrev Accounted := Machine × Account

/-- A call, with the machine that it finds. -/
def TemporalStep (env : Environment TemporalSymbol) (st : Accounted) (event : TemporalCall × Machine)
    (st' : Accounted) : Prop :=
  Interlude env st.1 event.2 ∧ (∃ addr, Ends env event.1.code event.1.code event.2 (.returned addr st'.1)) ∧
    st'.2 = event.1.note (temporalAt env event.2.memory) (env.tsc event.2.readings) st.2

theorem Balanced.step (h : DataSection env) {st st' : Accounted} {event : TemporalCall × Machine}
    (hbalanced : Balanced (temporalAt env st.1.memory) st.2) (hstep : TemporalStep env st event st') :
    Balanced (temporalAt env st'.1.memory) st'.2 := by
  obtain ⟨hinterlude, ⟨addr, hends⟩, hnote⟩ := hstep
  obtain ⟨mach', hends', hrun, -⟩ := temporalCall_refines h hinterlude.returns event.1
  -- the routine has one outcome only
  have hsame : st'.1 = mach' := by
    have hreturned := hends.unique hends'
    injection hreturned
  rw [← hinterlude.kept] at hbalanced
  rw [hsame, hrun, hnote]
  exact hbalanced.run event.1

/-- In every run of calls, whatever runs in between, the engine agrees with its account: the jitter is the sum of the
times added since the last reset, each of which is ordinary, and no reset takes the count of the others back. While
fewer than about `2 ^ 47` times have been added, the jitter lies between one hundred and one hundred thousand for
each of them. -/
theorem temporal_balanced (h : DataSection env) (hzero : temporalAt env mach.memory = ⟨0, 0, 0⟩)
    {tr : List ((TemporalCall × Machine) × Accounted)} (hrun : Exec (TemporalStep env) (mach, ⟨[], 0⟩) tr) :
    AllStates (fun st => Balanced (temporalAt env st.1.memory) st.2 ∧
      (st.2.added.length * 100000 < 2 ^ 64 →
        st.2.added.length * 100 ≤ (temporalAt env st.1.memory).jitter.toNat ∧
          (temporalAt env st.1.memory).jitter.toNat ≤ st.2.added.length * 100000)) (mach, ⟨[], 0⟩) tr := by
  have hstart : Balanced (temporalAt env mach.memory) ⟨[], 0⟩ := by
    rw [hzero]
    exact ⟨rfl, rfl, fun d hd => (List.not_mem_nil hd).elim⟩
  have hbalanced : AllStates (fun st : Accounted => Balanced (temporalAt env st.1.memory) st.2) (mach, ⟨[], 0⟩) tr := by
    apply hrun.invariant hstart
    intro st event st' hst hstep
    exact Balanced.step h hst hstep
  exact hbalanced.imp fun st hst => ⟨hst, hst.jitter_bounds⟩

end Runs

section Witness

/-- The section at `0x4000`, and a counter that takes a thousand steps between two readings. -/
def labHardware : Environment TemporalSymbol where
  tsc := fun n => 1000 * .ofNat 64 (n + 1)
  random := fun _ => none
  address
    | .temporalBaseline => 0x4000
    | .temporalJitter => 0x4008
    | .temporalAnomalies => 0x4010
  callee := fun _ mach => mach

def resting : Machine where
  reg
    | .rsp => 0x8000
    | _ => 0
  zf := false
  cf := false
  memory := fun _ => 0
  readings := 0
  draws := 0

/-- The machine after a call. -/
def returnedFrom (call : TemporalCall) (mach : Machine) : Machine :=
  match run labHardware call.code 40 call.code mach with
  | some (.returned _ mach') => mach'
  | _ => mach

/-- A first tick, and a second. -/
def twoTicks : List ((TemporalCall × Machine) × Accounted) :=
  let first := returnedFrom .tick resting
  let again := { first with reg := resting.reg }
  [((.tick, resting), (first, ⟨[], 0⟩)), ((.tick, again), (returnedFrom .tick again, ⟨[1000], 0⟩))]

theorem exec_twoTicks : Exec (TemporalStep labHardware) (resting, ⟨[], 0⟩) twoTicks :=
  ⟨⟨⟨rfl, by decide⟩, ⟨_, 40, rfl⟩, rfl⟩, ⟨⟨rfl, by decide⟩, ⟨_, 40, rfl⟩, rfl⟩, trivial⟩

theorem temporal_balanced_twoTicks : AllStates (fun st => Balanced (temporalAt labHardware st.1.memory) st.2 ∧
    (st.2.added.length * 100000 < 2 ^ 64 →
      st.2.added.length * 100 ≤ (temporalAt labHardware st.1.memory).jitter.toNat ∧
        (temporalAt labHardware st.1.memory).jitter.toNat ≤ st.2.added.length * 100000)) (resting, ⟨[], 0⟩) twoTicks :=
  temporal_balanced ⟨by decide, by decide⟩ (by rfl) exec_twoTicks

end Witness

end OperatingOrganism.Vital.TemporalEngine

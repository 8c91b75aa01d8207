import OperatingOrganism.Library.X86
import OperatingOrganism.Vital.CircadianRhythm

/-!
# The heart of steel

`vital_beat.asm` and `ouroboros.asm`, as routines of x86-64. `vital_steel_tick` is the layer of the heartbeat that is
not written in C: called with the addresses of two fields of the spark, it leaves the spark that the layer of the life
loop leaves, and nothing else of the memory changes but the slot of its frame (`steelTick_refines`). The time that it
adds to the jitter is taken from the low halves of the time-stamp counter.
-/

set_option autoImplicit false

namespace OperatingOrganism.Vital.SteelHeart

open OperatingOrganism.ByteLayout OperatingOrganism.ByteMemory OperatingOrganism.X86
open OperatingOrganism.Vital.LifeLoop

/-- The symbols that the routines refer to. -/
inductive HeartSymbol where
  | getOrganismVitality | vitalSteelTick | vitalPulseCounter

/-- The local labels. -/
inductive HeartLabel where
  | burn | rustAlive | heartFrozen | panicReboot | die
  deriving DecidableEq

/-- `vital_steel_tick` -/
def vitalSteelTick : List (Line HeartSymbol HeartLabel) := [
  .op (.push .rbp),
  .op (.mov .rbp .rsp),
  .op (.load .rax (.at .rdi)),
  .op (.inc .rax),
  .op (.store (.at .rdi) .rax),
  .op .rdtsc,
  .op (.mov .r8 .rax),
  .op (.movImm .rcx 50),
  .label .burn,
  .op .pause,
  .loop .burn,
  .op .rdtsc,
  .op (.sub .rax .r8),
  .op (.addMem (.at .rsi) .rax),
  .op (.rdrand .rax),
  .op (.pop .rbp),
  .ret]

/-- `vital_ouroboros_check` -/
def vitalOuroborosCheck : List (Line HeartSymbol HeartLabel) := [
  .op (.call .getOrganismVitality),
  .op (.cmpImm .rax 0),
  .jcc .ne .rustAlive,
  .op (.movImm .rdi 0xBAD00001),
  .jmp .panicReboot,
  .label .rustAlive,
  .op (.load .rdx (.rel .vitalPulseCounter)),
  .op .pause,
  .op (.cmpMem .rdx (.rel .vitalPulseCounter)),
  .jcc .e .heartFrozen,
  .ret,
  .label .heartFrozen,
  .jmpOut .vitalSteelTick,
  .label .panicReboot,
  .ud2]

/-- `vital_ouroboros_panic` -/
def vitalOuroborosPanic : List (Line HeartSymbol HeartLabel) := [
  .op .cli,
  .label .die,
  .op .hlt,
  .jmp .die]

/-! ## The steel tick -/

section SteelTick

variable {env : Environment HeartSymbol} {mach mach' : Machine} {e : End HeartSymbol}

/-- The difference of the low halves of two readings of the counter, as a quadword. -/
def burnTime (env : Environment HeartSymbol) (readings : Nat) : BitVec 64 :=
  ((env.tsc (readings + 1)).setWidth 32).setWidth 64 - ((env.tsc readings).setWidth 32).setWidth 64

/-- The instructions before the loop. -/
def beforeBurn : List (Op HeartSymbol) :=
  [.push .rbp, .mov .rbp .rsp, .load .rax (.at .rdi), .inc .rax, .store (.at .rdi) .rax, .rdtsc, .mov .r8 .rax,
    .movImm .rcx 50]

/-- The instructions behind the loop. -/
def afterBurn : List (Op HeartSymbol) :=
  [.rdtsc, .sub .rax .r8, .addMem (.at .rsi) .rax, .rdrand .rax, .pop .rbp]

/-- The machine at the `ret`. -/
def atReturn (env : Environment HeartSymbol) (mach : Machine) : Machine :=
  runOps env afterBurn ((runOps env beforeBurn mach).set .rcx 0)

theorem steelTick_ends : Ends env vitalSteelTick vitalSteelTick mach e ↔
    e = .returned ((atReturn env mach).load ((atReturn env mach).reg .rsp))
      ((atReturn env mach).set .rsp ((atReturn env mach).reg .rsp + 8)) := by
  have hcount : (runOps env beforeBurn mach).reg .rcx ≠ 0 := by simp [beforeBurn, Op.effect]
  calc Ends env vitalSteelTick vitalSteelTick mach e
      ↔ Ends env vitalSteelTick (beforeBurn.map .op ++ target .burn vitalSteelTick) mach e := Iff.rfl
    _ ↔ Ends env vitalSteelTick (target .burn vitalSteelTick) (runOps env beforeBurn mach) e := ends_ops _ _
    _ ↔ Ends env vitalSteelTick (afterBurn.map .op ++ [.ret]) ((runOps env beforeBurn mach).set .rcx 0) e :=
      ends_delay rfl hcount
    _ ↔ Ends env vitalSteelTick [.ret] (atReturn env mach) e := ends_ops _ _
    _ ↔ _ := ends_ret

/-- What the tick is given: its two quadwords, the slot of its frame, and the slot of its return address, which lie
apart. -/
structure Called (mach : Machine) : Prop where
  quadwords : Apart (mach.reg .rdi) 8 (mach.reg .rsi) 8
  frame_pulse : Apart (mach.reg .rsp - 8) 8 (mach.reg .rdi) 8
  frame_jitter : Apart (mach.reg .rsp - 8) 8 (mach.reg .rsi) 8
  return_pulse : Apart (mach.reg .rdi) 8 (mach.reg .rsp) 8
  return_jitter : Apart (mach.reg .rsi) 8 (mach.reg .rsp) 8

/-- What the tick leaves. -/
structure Ticked (env : Environment HeartSymbol) (mach mach' : Machine) : Prop where
  pulse : mach'.load (mach.reg .rdi) = mach.load (mach.reg .rdi) + 1
  jitter : mach'.load (mach.reg .rsi) = mach.load (mach.reg .rsi) + burnTime env mach.readings
  elsewhere : ∀ x, 8 ≤ distance (mach.reg .rdi) x → 8 ≤ distance (mach.reg .rsi) x →
    8 ≤ distance (mach.reg .rsp - 8) x → mach'.memory x = mach.memory x
  stack : mach'.reg .rsp = mach.reg .rsp + 8
  saved : ∀ r, r ∉ [.rax, .rcx, .rdx, .r8, .rsp] → mach'.reg r = mach.reg r

/-- The memory at the `ret`. -/
theorem memory_atReturn (h : Called mach) : (atReturn env mach).memory =
    store64 (store64 (store64 mach.memory (mach.reg .rsp - 8) (mach.reg .rbp)) (mach.reg .rdi)
      (mach.load (mach.reg .rdi) + 1)) (mach.reg .rsi)
      (mach.load (mach.reg .rsi) + burnTime env mach.readings) := by
  have hpulse := @load64_store64_of_apart mach.memory _ _ (mach.reg .rbp) h.frame_pulse
  have hjitter := @load64_store64_of_apart mach.memory _ _ (mach.reg .rbp) h.frame_jitter
  simp only [BitVec.ofNat_eq_ofNat] at hpulse hjitter
  simp [atReturn, beforeBurn, afterBurn, Op.effect, Place.address, Machine.compare, Machine.load,
    load64_store64_of_apart h.quadwords, hpulse, hjitter, burnTime]

theorem rsp_atReturn : (atReturn env mach).reg .rsp = mach.reg .rsp := by
  simp [atReturn, beforeBurn, afterBurn, Op.effect, Machine.compare]

/-- The registers of the caller are as before. -/
theorem reg_atReturn (h : Called mach) {r : Reg} (hr : r ∉ [.rax, .rcx, .rdx, .r8, .rsp]) :
    (atReturn env mach).reg r = mach.reg r := by
  simp only [List.mem_cons, List.not_mem_nil, or_false, not_or] at hr
  obtain ⟨hax, hcx, hdx, h8, hsp⟩ := hr
  by_cases hbp : r = .rbp
  · -- the frame pointer comes back from the slot, which the two quadwords do not touch
    have hslot : ∀ v w, load64 (store64 (store64 (store64 mach.memory (mach.reg .rsp - 8) (mach.reg .rbp))
        (mach.reg .rdi) v) (mach.reg .rsi) w) (mach.reg .rsp - 8) = mach.reg .rbp := by
      intro v w
      rw [load64_store64_of_apart h.frame_jitter.symm, load64_store64_of_apart h.frame_pulse.symm, load64_store64]
    simp only [BitVec.ofNat_eq_ofNat] at hslot
    simp [hbp, atReturn, beforeBurn, afterBurn, Op.effect, Place.address, Machine.compare, Machine.load, hslot]
  · simp [hax, hcx, hdx, h8, hsp, hbp, atReturn, beforeBurn, afterBurn, Op.effect, Machine.compare]

/-- The tick returns to its caller. -/
theorem steelTick_returns (env : Environment HeartSymbol) (h : Called mach) : ∃ mach',
    Ends env vitalSteelTick vitalSteelTick mach (.returned (mach.load (mach.reg .rsp)) mach') ∧
      Ticked env mach mach' := by
  have hmemory := @memory_atReturn env mach h
  -- none of the three quadwords that are written is the return address
  have hreturn : (atReturn env mach).load (mach.reg .rsp) = mach.load (mach.reg .rsp) := by
    have hframe : Apart (mach.reg .rsp - 8) 8 (mach.reg .rsp) 8 := by
      have happart := @apart_add (mach.reg .rsp - 8) 0 8 8 8 (by simp) (by simp) (by simp) (by simp)
      simpa using happart
    rw [Machine.load, hmemory, load64_store64_of_apart h.return_jitter, load64_store64_of_apart h.return_pulse,
      load64_store64_of_apart hframe]
    rfl
  refine ⟨(atReturn env mach).set .rsp (mach.reg .rsp + 8), ?_, ?_⟩
  · rw [steelTick_ends, rsp_atReturn, hreturn]
  · constructor
    · rw [Machine.load, Machine.memory_set, hmemory, load64_store64_of_apart h.quadwords.symm, load64_store64]
    · rw [Machine.load, Machine.memory_set, hmemory, load64_store64]
    · intro x hpulse hjitter hframe
      rw [Machine.memory_set, hmemory, store64_of_le hjitter, store64_of_le hpulse, store64_of_le hframe]
    · simp
    · intro r hr
      rw [Machine.reg_set, if_neg fun hrsp => hr (by simp [hrsp]), reg_atReturn h hr]

end SteelTick

/-! ## The spark in memory -/

/-- `sizeof(oo_vital_spark_t)` -/
def sparkSize : Nat := vitalSparkType.size

/-- The spark that the memory holds at an address. -/
def sparkAt (memory : Memory) (a : Address) : VitalSpark := .ofBytes 0 (window memory a)

section Refinement

variable {D : Type} {env : Environment HeartSymbol} {mach : Machine} {a : Address} {o : Organism D} {w : World}

/-- `vital_steel_tick(&spark.pulse_count, &spark.jitter)`; the slots of the frame and of the return address are not
in the spark. -/
structure TicksSpark (mach : Machine) (a : Address) : Prop where
  pulse : mach.reg .rdi = a + .ofNat 64 (offsetOf vitalSparkFields 2)
  jitter : mach.reg .rsi = a + .ofNat 64 (offsetOf vitalSparkFields 3)
  stack : Apart a sparkSize (mach.reg .rsp - 8) 16

theorem TicksSpark.called (h : TicksSpark mach a) : Called mach := by
  have hframe : mach.reg .rsp - 8 = mach.reg .rsp - 8 + .ofNat 64 0 := by simp
  have hreturn : mach.reg .rsp = mach.reg .rsp - 8 + .ofNat 64 8 := by simp
  have hpart : ∀ i j, i + 8 ≤ sparkSize → j + 8 ≤ 16 →
      Apart (a + .ofNat 64 i) 8 (mach.reg .rsp - 8 + .ofNat 64 j) 8 :=
    fun i j hi hj => h.stack.parts hi hj (by decide) (by decide)
  constructor
  · rw [h.pulse, h.jitter]
    exact apart_add (by decide) (by decide) (by decide) (by decide)
  · rw [hframe, h.pulse]
    exact (hpart _ 0 (by decide) (by decide)).symm
  · rw [hframe, h.jitter]
    exact (hpart _ 0 (by decide) (by decide)).symm
  · rw [hreturn, h.pulse]
    exact hpart _ 8 (by decide) (by decide)
  · rw [hreturn, h.jitter]
    exact hpart _ 8 (by decide) (by decide)

/-- The tick leaves the bytes of the other fields. -/
theorem TicksSpark.window_eq (h : TicksSpark mach a) {mach' : Machine} (hticked : Ticked env mach mach') {k : Nat}
    (hsize : k < sparkSize) (hk : k < offsetOf vitalSparkFields 2 ∨ offsetOf vitalSparkFields 4 ≤ k) :
    window mach'.memory a k = window mach.memory a k := by
  have hfields : offsetOf vitalSparkFields 2 = 8 ∧ offsetOf vitalSparkFields 3 = 16 ∧ offsetOf vitalSparkFields 4 = 24 ∧
      sparkSize = 40 := by decide
  obtain ⟨hpulse, hjitter, hbirth, hforty⟩ := hfields
  have hapart : ∀ i, i = 8 ∨ i = 16 → 8 ≤ distance (a + .ofNat 64 i) (a + .ofNat 64 k) := by
    intro i hi
    -- the byte lies before the two quadwords, or behind them
    by_cases hlow : k < 8
    · exact (apart_add (p := 1) (q := 8) (by omega) (by omega) (by omega) (by omega)).2
    · exact (apart_add (p := 8) (q := 1) (by omega) (by omega) (by omega) (by omega)).1
  apply hticked.elsewhere
  · rw [h.pulse, hpulse]
    exact hapart 8 (.inl rfl)
  · rw [h.jitter, hjitter]
    exact hapart 16 (.inr rfl)
  · have hstack := h.stack.parts (i := k) (p := 1) (j := 0) (q := 8) (by omega) (by omega) (by omega) (by omega)
    simpa using hstack.2

/-- The tick leaves the bytes behind the spark. -/
theorem TicksSpark.memory_eq (h : TicksSpark mach a) {mach' : Machine} (hticked : Ticked env mach mach') {x : Address}
    (hx : sparkSize ≤ distance a x) (hframe : 8 ≤ distance (mach.reg .rsp - 8) x) :
    mach'.memory x = mach.memory x := by
  have hfields : offsetOf vitalSparkFields 2 = 8 ∧ offsetOf vitalSparkFields 3 = 16 ∧ sparkSize = 40 := by decide
  obtain ⟨hpulse, hjitter, hforty⟩ := hfields
  rw [hforty] at hx
  apply hticked.elsewhere
  · rw [h.pulse, hpulse, distance_add_left (by decide), if_pos (by omega)]
    omega
  · rw [h.jitter, hjitter, distance_add_left (by decide), if_pos (by omega)]
    omega
  · exact hframe

/-- The routine leaves the spark of the layer, returns to its caller with the registers that it has to keep, and
touches nothing else but its slot of the stack. -/
theorem steelTick_refines (h : TicksSpark mach a) (hspark : sparkAt mach.memory a = o.spark)
    (hburn : w.burnTime = burnTime env mach.readings) : ∃ mach',
    Ends env vitalSteelTick vitalSteelTick mach (.returned (mach.load (mach.reg .rsp)) mach') ∧
      sparkAt mach'.memory a = (steelTick w o).spark ∧
      (∀ x, sparkSize ≤ distance a x → 8 ≤ distance (mach.reg .rsp - 8) x → mach'.memory x = mach.memory x) ∧
      mach'.reg .rsp = mach.reg .rsp + 8 ∧
      ∀ r ∈ [.rbx, .rbp, .rdi, .rsi, .r12, .r13, .r14, .r15], mach'.reg r = mach.reg r := by
  obtain ⟨mach', hends, hticked⟩ := steelTick_returns env h.called
  -- the fields before the pulse count and behind the jitter are what they were
  have hother : ∀ w loc, loc + w / 8 ≤ sparkSize →
      loc + w / 8 ≤ offsetOf vitalSparkFields 2 ∨ offsetOf vitalSparkFields 4 ≤ loc →
      getLE w loc (window mach'.memory a) = getLE w loc (window mach.memory a) := by
    intro w loc hsize hloc
    apply getLE_congr
    intro k hk hkw
    exact h.window_eq hticked (by omega) (by omega)
  have hpulse := hticked.pulse
  have hjitter := hticked.jitter
  rw [h.pulse, Machine.load, Machine.load, load64_add, load64_add] at hpulse
  rw [h.jitter, Machine.load, Machine.load, load64_add, load64_add, ← hburn] at hjitter
  -- the two quadwords of the tick are the pulse count and the jitter of the structure
  have hfields : sparkAt mach'.memory a = { sparkAt mach.memory a with
      pulseCount := (sparkAt mach.memory a).pulseCount + 1
      jitter := (sparkAt mach.memory a).jitter + w.burnTime } := by
    simp only [sparkAt, VitalSpark.ofBytes, Nat.zero_add, hpulse, hjitter]
    rw [hother 32 _ (by decide) (by decide), hother 8 _ (by decide) (by decide), hother 64 _ (by decide) (by decide),
      hother 8 _ (by decide) (by decide)]
  refine ⟨mach', hends, ?_, fun x => h.memory_eq hticked, hticked.stack, ?_⟩
  · rw [hfields, hspark]
    rfl
  · intro r hr
    refine hticked.saved r fun hwork => ?_
    simp only [List.mem_cons, List.not_mem_nil, or_false] at hr hwork
    rcases hwork with rfl | rfl | rfl | rfl | rfl <;> simp at hr

end Refinement

section Witness

/-- A counter that takes seven steps between two readings. -/
def steadyHardware : Environment HeartSymbol where
  tsc := fun n => 7 * .ofNat 64 n
  random := fun _ => none
  address := fun _ => 0x3000
  callee := fun _ mach => mach

/-- The tick is called for a spark at `0x1000`. -/
def tickCalled : Machine where
  reg
    | .rdi => 0x1008
    | .rsi => 0x1010
    | .rsp => 0x8000
    | _ => 0
  zf := false
  cf := false
  memory := fun _ => 0
  readings := 0
  draws := 0

theorem steelTick_refines_boot : ∃ mach',
    Ends steadyHardware vitalSteelTick vitalSteelTick tickCalled
      (.returned (tickCalled.load (tickCalled.reg .rsp)) mach') ∧
      sparkAt mach'.memory 0x1000 = (steelTick calmWorld (Organism.boot (none : Option Unit))).spark ∧
      (∀ x, sparkSize ≤ distance 0x1000 x → 8 ≤ distance (tickCalled.reg .rsp - 8) x →
        mach'.memory x = tickCalled.memory x) ∧
      mach'.reg .rsp = tickCalled.reg .rsp + 8 ∧
      ∀ r ∈ [.rbx, .rbp, .rdi, .rsi, .r12, .r13, .r14, .r15], mach'.reg r = tickCalled.reg r :=
  steelTick_refines ⟨by decide, by decide, by decide⟩ (by decide) (by decide)

end Witness

/-! ## The time of the loop -/

section BurnTime

variable {env : Environment HeartSymbol} {n : Nat} {elapsed : BitVec 64}

/-- The tick takes the low half of the counter for the counter. For a time of less than `2^32` steps it finds the
time if and only if the low half does not begin again in between. -/
theorem burnTime_exact_iff (helapsed : env.tsc (n + 1) = env.tsc n + elapsed) (hshort : elapsed.toNat < 2 ^ 32) :
    burnTime env n = elapsed ↔ (env.tsc n).toNat % 2 ^ 32 + elapsed.toNat < 2 ^ 32 := by
  have hlow : ∀ t : BitVec 64, ((t.setWidth 32).setWidth 64).toNat = t.toNat % 2 ^ 32 := by
    intro t
    rw [BitVec.toNat_setWidth, BitVec.toNat_setWidth, Nat.mod_eq_of_lt]
    have hmod : t.toNat % 2 ^ 32 < 2 ^ 32 := Nat.mod_lt _ (by decide)
    omega
  have hburn : (burnTime env n).toNat =
      (2 ^ 64 - (env.tsc n).toNat % 2 ^ 32 + ((env.tsc n).toNat + elapsed.toNat) % 2 ^ 64 % 2 ^ 32) % 2 ^ 64 := by
    rw [burnTime, BitVec.toNat_sub, hlow, hlow, helapsed, BitVec.toNat_add]
  rw [← BitVec.toNat_inj, hburn]
  omega

theorem burnTime_steadyHardware : burnTime steadyHardware 0 = 7 ↔
    (steadyHardware.tsc 0).toNat % 2 ^ 32 + (7 : BitVec 64).toNat < 2 ^ 32 :=
  burnTime_exact_iff (by decide) (by decide)

end BurnTime

/-! ## The Ouroboros -/

section Ouroboros

variable (env : Environment HeartSymbol) (mach : Machine)

/-- `vital_ouroboros_check` never returns by itself. If the guardian reports no vitality, it ends in an invalid
opcode. Otherwise it compares the pulse counter with itself, finds the heart frozen whatever the counter is, and goes
on in the steel tick, with the pointers that the guardian has left in the registers. -/
theorem ouroboros_ends : ∃ mach',
    Ends env vitalOuroborosCheck vitalOuroborosCheck mach
      (if (env.callee .getOrganismVitality mach).reg .rax = 0 then .invalidOpcode mach'
        else .jumped .vitalSteelTick mach') ∧
      mach'.memory = (env.callee .getOrganismVitality mach).memory ∧
      ((env.callee .getOrganismVitality mach).reg .rax ≠ 0 →
        ∀ r, r ≠ .rdx → mach'.reg r = (env.callee .getOrganismVitality mach).reg r) := by
  obtain ⟨alive, halive⟩ : ∃ alive, alive = env.callee .getOrganismVitality mach := ⟨_, rfl⟩
  -- up to the first jump, which both cases share
  have hcheck : ∀ e, Ends env vitalOuroborosCheck vitalOuroborosCheck mach e ↔
      Ends env vitalOuroborosCheck (if alive.reg .rax = 0 then vitalOuroborosCheck.drop 3 else
        target .rustAlive vitalOuroborosCheck) (alive.compare (alive.reg .rax) 0) e := by
    intro e
    rw [halive]
    conv => lhs; arg 3; rw [vitalOuroborosCheck]
    simp only [ends_op, ends_jcc, Op.effect, Condition.holds, Machine.compare, Machine.zf_flags]
    by_cases hzero : (env.callee .getOrganismVitality mach).reg .rax = 0
    · simp [hzero, vitalOuroborosCheck]
    · simp only [BitVec.ofNat_eq_ofNat] at hzero
      simp [hzero]
  rw [← halive]
  by_cases hzero : alive.reg .rax = 0
  · -- no vitality: the code of the panic is loaded, and then the invalid opcode is met
    refine ⟨(alive.compare (alive.reg .rax) 0).set .rdi 0xBAD00001, ?_, rfl, fun hlive => absurd hzero hlive⟩
    rw [hcheck, if_pos hzero, if_pos hzero]
    simp [vitalOuroborosCheck, target, Op.effect]
  · -- both readings of the counter are the same, so that the jump is taken
    refine ⟨((alive.compare (alive.reg .rax) 0).set .rdx (alive.load (env.address .vitalPulseCounter))).compare
      (alive.load (env.address .vitalPulseCounter)) (alive.load (env.address .vitalPulseCounter)), ?_, rfl, ?_⟩
    · rw [hcheck, if_neg hzero, if_neg hzero]
      simp [vitalOuroborosCheck, target, Op.effect, Place.address, Machine.compare, Machine.load, Condition.holds]
    · intro _ r hr
      simp [Machine.compare, hr]

/-- `vital_ouroboros_panic` does not come back. -/
theorem ouroborosPanic_not_ends (e : End HeartSymbol) : ¬ Ends env vitalOuroborosPanic vitalOuroborosPanic mach e := by
  intro hends
  have hcircle : Ends env vitalOuroborosPanic (target .die vitalOuroborosPanic) mach e := ends_op.1 hends
  exact not_ends_of_circle rfl hcircle

end Ouroboros

end OperatingOrganism.Vital.SteelHeart

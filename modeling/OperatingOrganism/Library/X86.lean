import OperatingOrganism.Library.ByteLayout
import OperatingOrganism.Library.ByteMemory
import Mathlib.Algebra.GroupWithZero.Nat

/-!
# Routines of x86-64 in assembly language

A routine is a list of lines: labels, instructions that run through, and instructions that decide where to go on. The
code that is still to run is the rest of the list, and a jump drops the lines before its label. Of the flags only the
two that the conditions here read are kept. What the machine cannot know comes from its environment: the time-stamp
counter, random numbers, the addresses of symbols and what the routines do that are called.

`Ends` is the outcome of a routine. Its rules are equivalences, one for each kind of line, so that `simp` runs a
routine up to its loops; a counted loop is `ends_loop`.
-/

set_option autoImplicit false

namespace OperatingOrganism.X86

open OperatingOrganism.ByteLayout OperatingOrganism.ByteMemory

/-- The general registers. -/
inductive Reg where
  | rax | rbx | rcx | rdx | rsi | rdi | rbp | rsp | r8 | r9 | r10 | r11 | r12 | r13 | r14 | r15
  deriving DecidableEq, Repr

abbrev Address := BitVec 64

abbrev Memory := Address → BitVec 8

/-! ## Quadwords in memory -/

/-- The bytes from an address on. -/
def window (memory : Memory) (a : Address) : Bytes := fun k => memory (a + .ofNat 64 k)

/-- The quadword at an address. -/
def load64 (memory : Memory) (a : Address) : BitVec 64 := getLE 64 0 (window memory a)

/-- The memory with a quadword written. -/
def store64 (memory : Memory) (a : Address) (v : BitVec 64) : Memory :=
  fun x => if distance a x < 8 then putLE 0 v (fun _ => 0) (distance a x) else memory x

/-- The `n` bytes from one address on and the `m` bytes from the other on have none in common. -/
def Apart (a : Address) (n : Nat) (b : Address) (m : Nat) : Prop := n ≤ distance a b ∧ m ≤ distance b a

instance (a : Address) (n : Nat) (b : Address) (m : Nat) : Decidable (Apart a n b m) :=
  inferInstanceAs (Decidable (_ ∧ _))

section Quadwords

variable {memory : Memory} {a b x : Address} {v : BitVec 64} {n m k : Nat}

theorem Apart.symm (h : Apart a n b m) : Apart b m a n := ⟨h.2, h.1⟩

/-- A byte of the second part does not lie in the first. -/
theorem Apart.le_distance (h : Apart a n b m) (hk : k < m) : n ≤ distance a (b + .ofNat 64 k) := by
  obtain ⟨hfar, hnear⟩ := h
  have hlt : k < 2 ^ 64 := by
    have hback := distance_lt b a
    omega
  have hforth := distance_lt a b
  have hsum : distance a (b + .ofNat 64 k) = (distance a b + k) % 2 ^ 64 := by
    rw [distance, distance, BitVec.toNat_sub, BitVec.toNat_add, BitVec.toNat_ofNat, Nat.mod_eq_of_lt hlt,
      BitVec.toNat_sub]
    omega
  -- the way back is the rest of the circle
  have hcycle : distance b a = (2 ^ 64 - distance a b) % 2 ^ 64 := by
    have ha := a.isLt
    have hb := b.isLt
    rw [distance, distance, BitVec.toNat_sub, BitVec.toNat_sub]
    omega
  rw [hsum]
  omega

/-- Parts of two parts. -/
theorem Apart.parts {i j p q : Nat} (h : Apart a n b m) (hi : i + p ≤ n) (hj : j + q ≤ m) (hp : 0 < p) (hq : 0 < q) :
    Apart (a + .ofNat 64 i) p (b + .ofNat 64 j) q := by
  obtain ⟨hfar, hnear⟩ := h
  have ha := a.isLt
  have hb := b.isLt
  rw [distance, BitVec.toNat_sub] at hfar hnear
  rw [Apart, distance, distance, BitVec.toNat_sub, BitVec.toNat_sub, BitVec.toNat_add, BitVec.toNat_add,
    BitVec.toNat_ofNat, BitVec.toNat_ofNat]
  omega

/-- Two parts of one stretch, one behind the other. -/
theorem apart_add {i j p q : Nat} (hi : i + p ≤ j) (hj : j + q ≤ 2 ^ 64) (hp : 0 < p) (hq : 0 < q) :
    Apart (a + .ofNat 64 i) p (a + .ofNat 64 j) q := by
  have ha := a.isLt
  rw [Apart, distance, distance, BitVec.toNat_sub, BitVec.toNat_sub, BitVec.toNat_add, BitVec.toNat_add,
    BitVec.toNat_ofNat, BitVec.toNat_ofNat]
  omega

@[simp] theorem load64_store64 : load64 (store64 memory a v) a = v := by
  have hfield : getLE 64 0 (window (store64 memory a v) a) = getLE 64 0 (putLE 0 v fun _ => 0) := by
    apply getLE_congr
    intro k _ hk
    have hdist : distance a (a + .ofNat 64 k) = k := distance_add (by omega)
    rw [window, store64, hdist, if_pos (by omega)]
  rw [load64, hfield, getLE_putLE rfl]

/-- The quadword at a place of a window. -/
theorem load64_add (memory : Memory) (a : Address) (i : Nat) :
    load64 memory (a + .ofNat 64 i) = getLE 64 i (window memory a) := by
  have hbytes : ∀ n k, leNat (window memory (a + .ofNat 64 i)) k n = leNat (window memory a) (i + k) n := by
    intro n
    induction n with
    | zero => intro k; rfl
    | succ n ih =>
      intro k
      have hbyte : window memory (a + .ofNat 64 i) k = window memory a (i + k) := by
        rw [window, window, BitVec.ofNat_add, BitVec.add_assoc]
      rw [leNat, leNat, ih, hbyte, Nat.add_assoc]
  rw [load64, getLE, getLE, hbytes, Nat.add_zero]

/-- A write elsewhere leaves a byte. -/
theorem store64_of_le (h : 8 ≤ distance a x) : store64 memory a v x = memory x := if_neg (Nat.not_lt.2 h)

/-- A write elsewhere leaves a window. -/
theorem window_store64 (h : Apart a 8 b m) (hk : k < m) : window (store64 memory a v) b k = window memory b k :=
  store64_of_le (h.le_distance hk)

/-- A write elsewhere leaves a quadword. -/
theorem load64_store64_of_apart (h : Apart a 8 b 8) : load64 (store64 memory a v) b = load64 memory b := by
  apply getLE_congr
  intro k _ hk
  exact window_store64 h (by omega)

end Quadwords

/-- Where the instruction at an address leads, if it is a jump with a displacement of 32 bits. -/
def nearJump (memory : Memory) (a : Address) : Option Address :=
  if memory a = 0xE9 then some (a + 5 + (getLE 32 0 (window memory (a + 1))).signExtend 64) else none

/-! ## Machines -/

structure Machine where
  reg : Reg → BitVec 64
  zf : Bool
  cf : Bool
  memory : Memory
  /-- how often the time-stamp counter has been read, and random numbers have been drawn -/
  readings : Nat
  draws : Nat

/-- What a machine cannot know; `S` are the symbols. -/
structure Environment (S : Type) where
  tsc : Nat → BitVec 64
  /-- nothing where `rdrand` fails -/
  random : Nat → Option (BitVec 64)
  address : S → Address
  /-- what a routine does that is called, up to its return -/
  callee : S → Machine → Machine

namespace Machine

variable (mach : Machine)

def set (r : Reg) (v : BitVec 64) : Machine := { mach with reg := fun s => if s = r then v else mach.reg s }

def flags (zf cf : Bool) : Machine := { mach with zf := zf, cf := cf }

def load (a : Address) : BitVec 64 := load64 mach.memory a

def store (a : Address) (v : BitVec 64) : Machine := { mach with memory := store64 mach.memory a v }

/-- The flags of a subtraction. -/
def compare (x y : BitVec 64) : Machine := mach.flags (x = y) (x < y)

variable {mach} {r s : Reg} {a : Address} {v : BitVec 64} {zf cf : Bool}

@[simp] theorem reg_set : (mach.set r v).reg s = if s = r then v else mach.reg s := rfl
@[simp] theorem zf_set : (mach.set r v).zf = mach.zf := rfl
@[simp] theorem cf_set : (mach.set r v).cf = mach.cf := rfl
@[simp] theorem memory_set : (mach.set r v).memory = mach.memory := rfl
@[simp] theorem readings_set : (mach.set r v).readings = mach.readings := rfl
@[simp] theorem draws_set : (mach.set r v).draws = mach.draws := rfl

@[simp] theorem set_set {v' : BitVec 64} : (mach.set r v).set r v' = mach.set r v' := by
  simp only [set, mk.injEq, and_true]
  funext s
  by_cases h : s = r <;> simp [h]

@[simp] theorem set_reg : mach.set r (mach.reg r) = mach := by
  have hreg : (fun s => if s = r then mach.reg r else mach.reg s) = mach.reg := by
    funext s
    split
    · next h => rw [h]
    · rfl
  rw [set, hreg]

@[simp] theorem reg_flags : (mach.flags zf cf).reg = mach.reg := rfl
@[simp] theorem zf_flags : (mach.flags zf cf).zf = zf := rfl
@[simp] theorem cf_flags : (mach.flags zf cf).cf = cf := rfl
@[simp] theorem memory_flags : (mach.flags zf cf).memory = mach.memory := rfl
@[simp] theorem readings_flags : (mach.flags zf cf).readings = mach.readings := rfl
@[simp] theorem draws_flags : (mach.flags zf cf).draws = mach.draws := rfl

@[simp] theorem reg_store : (mach.store a v).reg = mach.reg := rfl
@[simp] theorem zf_store : (mach.store a v).zf = mach.zf := rfl
@[simp] theorem cf_store : (mach.store a v).cf = mach.cf := rfl
@[simp] theorem memory_store : (mach.store a v).memory = store64 mach.memory a v := rfl
@[simp] theorem readings_store : (mach.store a v).readings = mach.readings := rfl
@[simp] theorem draws_store : (mach.store a v).draws = mach.draws := rfl

end Machine

/-! ## Instructions -/

/-- An operand in memory. -/
inductive Place (S : Type) where
  | at (r : Reg)
  | rel (s : S)

/-- An instruction after which the next line runs. -/
inductive Op (S : Type) where
  | push (r : Reg)
  | pop (r : Reg)
  | mov (dst src : Reg)
  | movImm (dst : Reg) (n : BitVec 64)
  | load (dst : Reg) (src : Place S)
  | store (dst : Place S) (src : Reg)
  | inc (dst : Reg)
  | incMem (dst : Place S)
  | addMem (dst : Place S) (src : Reg)
  | sub (dst src : Reg)
  | or (dst src : Reg)
  | xor (dst src : Reg)
  | shl (dst : Reg) (n : Nat)
  | cmp (x y : Reg)
  | cmpImm (x : Reg) (n : BitVec 64)
  | cmpMem (x : Reg) (y : Place S)
  | rdtsc
  | rdrand (dst : Reg)
  | pause
  | lfence
  | cli
  | hlt
  | call (s : S)

/-- The conditions of jumps: equal, not equal, above, below. -/
inductive Condition where
  | e | ne | a | b

def Condition.holds (mach : Machine) : Condition → Bool
  | e => mach.zf
  | ne => !mach.zf
  | a => !mach.cf && !mach.zf
  | b => mach.cf

inductive Line (S L : Type) where
  | label (l : L)
  | op (i : Op S)
  | jmp (l : L)
  | jcc (c : Condition) (l : L)
  | loop (l : L)
  | ret
  | jmpOut (s : S)
  | ud2

/-- How a routine ends: it returns to an address, goes on in another routine, or runs into an invalid opcode. -/
inductive End (S : Type) where
  | returned (addr : Address) (mach : Machine)
  | jumped (s : S) (mach : Machine)
  | invalidOpcode (mach : Machine)

section Semantics

variable {S L : Type}

/-- The address of an operand. -/
def Place.address (env : Environment S) (mach : Machine) : Place S → Address
  | .at r => mach.reg r
  | .rel s => env.address s

/-- What an instruction does. -/
def Op.effect (env : Environment S) (mach : Machine) : Op S → Machine
  | .push r => (mach.store (mach.reg .rsp - 8) (mach.reg r)).set .rsp (mach.reg .rsp - 8)
  | .pop r => (mach.set .rsp (mach.reg .rsp + 8)).set r (mach.load (mach.reg .rsp))
  | .mov dst src => mach.set dst (mach.reg src)
  | .movImm dst n => mach.set dst n
  | .load dst src => mach.set dst (mach.load (src.address env mach))
  | .store dst src => mach.store (dst.address env mach) (mach.reg src)
  | .inc dst =>
    let v := mach.reg dst + 1
    (mach.set dst v).flags (v = 0) mach.cf
  | .incMem dst =>
    let v := mach.load (dst.address env mach) + 1
    (mach.store (dst.address env mach) v).flags (v = 0) mach.cf
  | .addMem dst src =>
    let v := mach.load (dst.address env mach) + mach.reg src
    (mach.store (dst.address env mach) v).flags (v = 0) (v < mach.reg src)
  | .sub dst src => (mach.set dst (mach.reg dst - mach.reg src)).compare (mach.reg dst) (mach.reg src)
  | .or dst src =>
    let v := mach.reg dst ||| mach.reg src
    (mach.set dst v).flags (v = 0) false
  | .xor dst src =>
    let v := mach.reg dst ^^^ mach.reg src
    (mach.set dst v).flags (v = 0) false
  | .shl dst n =>
    let v := mach.reg dst <<< n
    if n = 0 then mach else (mach.set dst v).flags (v = 0) ((mach.reg dst).getLsbD (64 - n))
  | .cmp x y => mach.compare (mach.reg x) (mach.reg y)
  | .cmpImm x n => mach.compare (mach.reg x) n
  | .cmpMem x y => mach.compare (mach.reg x) (mach.load (y.address env mach))
  | .rdtsc =>
    -- the halves of the counter, each in a register of its own
    let t := env.tsc mach.readings
    { (mach.set .rax ((t.setWidth 32).setWidth 64)).set .rdx (t >>> 32) with readings := mach.readings + 1 }
  | .rdrand dst =>
    let v := env.random mach.draws
    { (mach.set dst (v.getD 0)).flags false v.isSome with draws := mach.draws + 1 }
  | .pause | .lfence | .cli | .hlt => mach
  | .call s => env.callee s mach

/-- What a block of instructions does. -/
def runOps (env : Environment S) (ops : List (Op S)) (mach : Machine) : Machine :=
  ops.foldl (fun mach i => i.effect env mach) mach

@[simp] theorem runOps_nil (env : Environment S) (mach : Machine) : runOps env [] mach = mach := rfl

@[simp] theorem runOps_cons (env : Environment S) (i : Op S) (ops : List (Op S)) (mach : Machine) :
    runOps env (i :: ops) mach = runOps env ops (i.effect env mach) := rfl

/-- The lines from a label on. -/
def target [DecidableEq L] (l : L) : List (Line S L) → List (Line S L)
  | [] => []
  | .label l' :: rest => if l' = l then .label l' :: rest else target l rest
  | _ :: rest => target l rest

variable [DecidableEq L] (env : Environment S) (code : List (Line S L))

/-- Runs a routine for so many lines; nothing if it has not ended by then. -/
def run : Nat → List (Line S L) → Machine → Option (End S)
  | 0, _, _ => none
  | _ + 1, [], _ => none
  | n + 1, .label _ :: rest, mach => run n rest mach
  | n + 1, .op i :: rest, mach => run n rest (i.effect env mach)
  | n + 1, .jmp l :: _, mach => run n (target l code) mach
  | n + 1, .jcc c l :: rest, mach => run n (if c.holds mach then target l code else rest) mach
  | n + 1, .loop l :: rest, mach =>
    let count := mach.reg .rcx - 1
    run n (if count = 0 then rest else target l code) (mach.set .rcx count)
  | _ + 1, .ret :: _, mach => some (.returned (mach.load (mach.reg .rsp)) (mach.set .rsp (mach.reg .rsp + 8)))
  | _ + 1, .jmpOut s :: _, mach => some (.jumped s mach)
  | _ + 1, .ud2 :: _, mach => some (.invalidOpcode mach)

/-- The rest of the routine ends so. -/
def Ends (rest : List (Line S L)) (mach : Machine) (e : End S) : Prop := ∃ n, run env code n rest mach = some e

variable {env code} {rest rest' : List (Line S L)} {mach mach' : Machine} {e e' : End S} {line : Line S L} {l : L}
  {s : S} {n : Nat}

theorem run_succ (h : run env code n rest mach = some e) : run env code (n + 1) rest mach = some e := by
  induction n generalizing rest mach with
  | zero => simp [run] at h
  | succ n ih =>
    cases rest with
    | nil => simp [run] at h
    | cons line rest =>
      cases line with
      | ret => exact h
      | jmpOut s => exact h
      | ud2 => exact h
      | _ => exact ih h

theorem run_add (h : run env code n rest mach = some e) (k : Nat) : run env code (n + k) rest mach = some e := by
  induction k with
  | zero => exact h
  | succ k ih => exact run_succ ih

/-- A routine has one outcome. -/
theorem Ends.unique (h : Ends env code rest mach e) (h' : Ends env code rest mach e') : e = e' := by
  obtain ⟨n, hn⟩ := h
  obtain ⟨n', hn'⟩ := h'
  have hlong := run_add hn n'
  rw [Nat.add_comm, run_add hn' n] at hlong
  exact (Option.some.inj hlong).symm

/-- A line that leads on. -/
theorem ends_step (h : ∀ n, run env code (n + 1) (line :: rest) mach = run env code n rest' mach') :
    Ends env code (line :: rest) mach e ↔ Ends env code rest' mach' e := by
  constructor
  · rintro ⟨n, hn⟩
    cases n with
    | zero => simp [run] at hn
    | succ n => exact ⟨n, by rw [← h, hn]⟩
  · rintro ⟨n, hn⟩
    exact ⟨n + 1, by rw [h, hn]⟩

/-- A line that ends the routine. -/
theorem ends_last (h : ∀ n, run env code (n + 1) (line :: rest) mach = some e') :
    Ends env code (line :: rest) mach e ↔ e = e' := by
  constructor
  · rintro ⟨n, hn⟩
    cases n with
    | zero => simp [run] at hn
    | succ n =>
      rw [h] at hn
      exact (Option.some.inj hn).symm
  · rintro rfl
    exact ⟨1, h 0⟩

@[simp] theorem ends_label : Ends env code (.label l :: rest) mach e ↔ Ends env code rest mach e :=
  ends_step fun _ => rfl

@[simp] theorem ends_op {i : Op S} :
    Ends env code (.op i :: rest) mach e ↔ Ends env code rest (i.effect env mach) e :=
  ends_step fun _ => rfl

theorem ends_ops (ops : List (Op S)) (rest : List (Line S L)) :
    Ends env code (ops.map .op ++ rest) mach e ↔ Ends env code rest (runOps env ops mach) e := by
  induction ops generalizing mach with
  | nil => exact Iff.rfl
  | cons i ops ih => exact ends_op.trans ih

@[simp] theorem ends_jmp : Ends env code (.jmp l :: rest) mach e ↔ Ends env code (target l code) mach e :=
  ends_step fun _ => rfl

@[simp] theorem ends_jcc {c : Condition} : Ends env code (.jcc c l :: rest) mach e ↔
    Ends env code (if c.holds mach then target l code else rest) mach e :=
  ends_step fun _ => rfl

theorem ends_loop_line : Ends env code (.loop l :: rest) mach e ↔
    Ends env code (if mach.reg .rcx - 1 = 0 then rest else target l code) (mach.set .rcx (mach.reg .rcx - 1)) e :=
  ends_step fun _ => rfl

@[simp] theorem ends_ret : Ends env code (.ret :: rest) mach e ↔
    e = .returned (mach.load (mach.reg .rsp)) (mach.set .rsp (mach.reg .rsp + 8)) :=
  ends_last fun _ => rfl

@[simp] theorem ends_jmpOut : Ends env code (.jmpOut s :: rest) mach e ↔ e = .jumped s mach :=
  ends_last fun _ => rfl

@[simp] theorem ends_ud2 : Ends env code (.ud2 :: rest) mach e ↔ e = .invalidOpcode mach :=
  ends_last fun _ => rfl

/-- A block that jumps back to its own label goes round for ever. -/
theorem not_ends_of_circle {i : Op S} (htarget : target l code = [.label l, .op i, .jmp l]) :
    ¬ Ends env code (target l code) mach e := by
  rintro ⟨n, hn⟩
  -- a round takes three lines
  induction n using Nat.strong_induction_on generalizing mach with
  | _ n ih =>
    match n with
    | 0 | 1 | 2 => simp [htarget, run] at hn
    | n + 3 =>
      have hround : run env code n (target l code) (i.effect env mach) = some e := by
        rw [← hn]
        conv => rhs; rw [htarget]
        rfl
      exact ih n (by omega) hround

/-- Counts a loop down once. -/
def Machine.countDown (mach : Machine) : Machine := mach.set .rcx (mach.reg .rcx - 1)

theorem Machine.countDown_iterate (mach : Machine) (n : Nat) :
    countDown^[n] mach = mach.set .rcx (mach.reg .rcx - .ofNat 64 n) := by
  induction n generalizing mach with
  | zero => simp
  | succ n ih =>
    have hsum : mach.reg .rcx - 1 - BitVec.ofNat 64 n = mach.reg .rcx - BitVec.ofNat 64 (n + 1) := by
      rw [BitVec.sub_sub, Nat.add_comm, BitVec.ofNat_add]
      rfl
    rw [Function.iterate_succ_apply, ih, countDown, set_set, reg_set, if_pos rfl, hsum]

/-- A counted loop whose body leaves the counter alone runs as often as the counter says. -/
theorem ends_loop {f : Machine → Machine} {block : List (Line S L)} (htarget : target l code = block ++ .loop l :: rest)
    (hblock : ∀ mach rest, Ends env code (block ++ rest) mach e ↔ Ends env code rest (f mach) e)
    (hcount : ∀ mach, (f mach).reg .rcx = mach.reg .rcx) (hpos : mach.reg .rcx ≠ 0) :
    Ends env code (target l code) mach e ↔
      Ends env code rest ((fun mach => (f mach).countDown)^[(mach.reg .rcx).toNat] mach) e := by
  -- one turn for each number from the counter down to one
  obtain ⟨n, hn⟩ : ∃ n, (mach.reg .rcx).toNat = n + 1 := by
    refine Nat.exists_eq_succ_of_ne_zero fun hzero => hpos ?_
    exact BitVec.eq_of_toNat_eq hzero
  induction n generalizing mach with
  | zero =>
    have hone : mach.reg .rcx = 1 := BitVec.eq_of_toNat_eq hn
    rw [htarget, hblock, ends_loop_line, hcount, hn, if_pos (by rw [hone]; rfl)]
    simp [Machine.countDown, hcount]
  | succ n ih =>
    have hnext : (mach.reg .rcx - 1).toNat = n + 1 := by
      have hone : (1 : BitVec 64).toNat = 1 := rfl
      rw [BitVec.toNat_sub_of_le (by rw [BitVec.le_def, hone]; omega), hone, hn]
      rfl
    have hmore : mach.reg .rcx - 1 ≠ 0 := by
      intro hzero
      rw [hzero] at hnext
      simp at hnext
    have hdown : (f mach).countDown.reg .rcx = mach.reg .rcx - 1 := by simp [Machine.countDown, hcount]
    have hturn : Ends env code (target l code) mach e ↔ Ends env code (target l code) (f mach).countDown e := by
      conv => lhs; rw [htarget, hblock, ends_loop_line, hcount, if_neg hmore]
      rw [Machine.countDown, hcount]
    rw [hturn, ih (by rw [hdown]; exact hmore) (by rw [hdown]; exact hnext), hdown, hnext, hn]
    simp only [Function.iterate_succ_apply]

/-- A loop that only waits leaves the counter at zero. -/
theorem ends_delay (htarget : target l code = .label l :: .op .pause :: .loop l :: rest) (hpos : mach.reg .rcx ≠ 0) :
    Ends env code (target l code) mach e ↔ Ends env code rest (mach.set .rcx 0) e := by
  have hend : Machine.countDown^[(mach.reg .rcx).toNat] mach = mach.set .rcx 0 := by
    rw [Machine.countDown_iterate, BitVec.ofNat_toNat, BitVec.setWidth_eq, BitVec.sub_self]
    rfl
  have hblock : target l code = [.label l, .op .pause] ++ .loop l :: rest := htarget
  rw [ends_loop (f := id) hblock (by simp [Op.effect]) (by simp) hpos, ← hend]
  rfl

end Semantics

end OperatingOrganism.X86

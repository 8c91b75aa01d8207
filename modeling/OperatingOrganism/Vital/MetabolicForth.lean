import OperatingOrganism.Library.WordMachine
import OperatingOrganism.Vital.Persistence
import Mathlib.Data.FinEnum

/-!
# The metabolic Forth

The interpreter of `metabolic_forth.c`. The cortex teaches words, each a character with up to eight characters of
code; executing a character looks for the first word of that name and executes its code one by one. A learned
word keeps the length that it was given, which may exceed its code: the loop then reads on in the dictionary,
and past it.

Nothing keeps a word from containing itself. An instruction ends if and only if it reaches no word that calls
itself again (`vitalForthExec_terminates_iff`).
-/

set_option autoImplicit false

namespace OperatingOrganism.Vital

open OperatingOrganism.ByteLayout OperatingOrganism.WordMachine

/-- `FORTH_STACK_SIZE` -/
def forthStackSize : Nat := 32

/-- `MAX_WORDS` -/
def maxWords : Nat := 128

/-- `forth_word_t` -/
structure ForthWord where
  name : UInt8
  code : Fin 8 → UInt8
  length : UInt8

/-- A word of the zero-initialised array. -/
def ForthWord.zero : ForthWord := ⟨0, fun _ => 0, 0⟩

def forthWordFields : List CType := [.int 1, .array (.int 1) 8, .int 1]

/-- `sizeof(forth_word_t)` -/
def forthWordSize : Nat := (CType.struct forthWordFields).size

/-- `dictionary` and `word_count`, which does not exceed 128. -/
structure ForthDictionary where
  words : Fin maxWords → ForthWord
  wordCount : Nat

/-- The static initialisers. -/
def ForthDictionary.boot : ForthDictionary := ⟨fun _ => .zero, 0⟩

/-- `forth_learn_word`; `code` is the memory from the pointer on. -/
def forthLearnWord (d : ForthDictionary) (name : UInt8) (code : Nat → UInt8) (len : UInt8) : ForthDictionary :=
  if h : d.wordCount < maxWords then
    let i : Fin maxWords := ⟨d.wordCount, h⟩
    { words := Function.update d.words i
        { name := name
          code := fun j => if j.val < len.toNat then code j else (d.words i).code j
          length := len }
      wordCount := d.wordCount + 1 }
  else d

/-- A lesson of the cortex: a name, the memory behind it, and a length. -/
structure Lesson where
  name : UInt8
  code : Nat → UInt8
  len : UInt8

/-- The dictionary after the lessons. -/
def ForthDictionary.learned (lessons : List Lesson) : ForthDictionary :=
  lessons.foldl (fun d lesson => forthLearnWord d lesson.name lesson.code lesson.len) .boot

/-! ## Memory -/

/-- A byte of a word. -/
def ForthWord.byte (w : ForthWord) (k : Nat) : UInt8 :=
  if k < offsetOf forthWordFields 1 then w.name
  else if h : k - offsetOf forthWordFields 1 < 8 then w.code ⟨k - offsetOf forthWordFields 1, h⟩
  else w.length

section

variable (d : ForthDictionary) (beyond : Nat → UInt8)

/-- A byte of the dictionary, or of what lies behind it. -/
def ForthDictionary.byte (k : Nat) : UInt8 :=
  if h : k / forthWordSize < maxWords then (d.words ⟨k / forthWordSize, h⟩).byte (k % forthWordSize)
  else beyond (k - forthWordSize * maxWords)

/-- `dictionary[i].code[j]` for `j` below the length of the word. -/
def ForthDictionary.code (i : Fin maxWords) : List UInt8 :=
  (List.range (d.words i).length.toNat).map fun j =>
    d.byte beyond (forthWordSize * i + (offsetOf forthWordFields 1 + j))

/-- The first word of a name. -/
def ForthDictionary.find (name : UInt8) : Option (Fin maxWords) :=
  (List.finRange maxWords).find? fun i => i.val < d.wordCount ∧ (d.words i).name = name

end

/-! ## Execution -/

/-- `oo_aura_t` without the intensity of the beat. -/
structure Aura where
  r : UInt8
  g : UInt8
  b : UInt8
  deriving DecidableEq, Repr

/-- What an instruction acts on: the stack (the top first), the spark and the aura; the pain is only read. -/
structure ForthState where
  forthStack : List (BitVec 64)
  spark : VitalSpark
  aura : Aura
  painLevel : BitVec 32

/-- `forth_push` -/
def forthPush (s : ForthState) (val : BitVec 64) : ForthState :=
  if s.forthStack.length < forthStackSize then { s with forthStack := val :: s.forthStack } else s

/-- `forth_pop` -/
def forthPop (s : ForthState) : BitVec 64 × ForthState :=
  match s.forthStack with
  | top :: rest => (top, { s with forthStack := rest })
  | [] => (0, s)

/-- `vital_shift_balance` -/
def vitalShiftBalance (force : BitVec 32) (weight : BitVec 8) (spark : VitalSpark) : VitalSpark :=
  if force = forceYang then
    { spark with tension := if weight < spark.tension then spark.tension - weight else 0 }
  else
    { spark with tension := if spark.tension.toNat < 255 - weight.toNat then spark.tension + weight else 255 }

/-- `vital_emit_distress_beacon` -/
def vitalEmitDistressBeacon (s : ForthState) : ForthState := { s with aura := ⟨255, 0, 0⟩ }

/-- An arithmetic primitive: `b` is popped first. -/
def forthBinary (op : BitVec 64 → BitVec 64 → BitVec 64) (s : ForthState) : ForthState :=
  let (b, s) := forthPop s
  let (a, s) := forthPop s
  forthPush s (op a b)

/-- A hook that shifts the balance. -/
def forthShift (force : BitVec 32) (s : ForthState) : ForthState :=
  let (weight, s) := forthPop s
  { s with spark := vitalShiftBalance force (weight.setWidth 8) s.spark }

/-- The code of an ASCII character. -/
def ascii (c : Char) : UInt8 := UInt8.ofNat c.toNat

/-- The primitives; a character that is none has no effect. -/
def forthPrimitive (c : UInt8) (s : ForthState) : ForthState :=
  if c = ascii '+' then forthBinary (· + ·) s
  else if c = ascii '-' then forthBinary (· - ·) s
  else if c = ascii '*' then forthBinary (· * ·) s
  else if c = ascii 'Y' then forthShift forceYang s
  else if c = ascii 'y' then forthShift forceYin s
  else if c = ascii 'P' then forthPush s s.spark.pulseCount
  else if c = ascii 'T' then forthPush s (s.spark.tension.setWidth 64)
  else if c = ascii 'L' then forthPush s (s.painLevel.setWidth 64)
  else if c = ascii '.' then (forthPop s).2
  else if c = ascii 'D' then vitalEmitDistressBeacon s
  else s

/-- The digits. -/
def isForthDigit (c : UInt8) : Prop := ascii '0' ≤ c ∧ c ≤ ascii '9'

instance (c : UInt8) : Decidable (isForthDigit c) := inferInstanceAs (Decidable (_ ∧ _))

/-- `vital_forth_exec` of the character `c` with at most `fuel` nested calls; `none` if they do not suffice. -/
def vitalForthExec (d : ForthDictionary) (beyond : Nat → UInt8) :
    Nat → ForthState → UInt8 → Option ForthState
  | 0, _, _ => none
  | fuel + 1, s, c =>
    if c = 0 then some s
    else if isForthDigit c then some (forthPush s ((c - ascii '0').toBitVec.setWidth 64))
    else
      match d.find c with
      | some i => (d.code beyond i).foldlM (vitalForthExec d beyond fuel) s
      | none => some (forthPrimitive c s)

/-- The call returns. -/
def ForthTerminates (d : ForthDictionary) (beyond : Nat → UInt8) (s : ForthState) (c : UInt8) : Prop :=
  ∃ fuel, (vitalForthExec d beyond fuel s c).isSome

/-! ## Words that call words -/

section

variable (d : ForthDictionary) (beyond : Nat → UInt8)

/-- The code that executing a character runs through. -/
def ForthDictionary.body (c : UInt8) : Option (List UInt8) :=
  if c = 0 ∨ isForthDigit c then none else (d.find c).map (d.code beyond)

/-- What a character without code does. -/
def forthEffect (c : UInt8) (s : ForthState) : ForthState :=
  if c = 0 then s
  else if isForthDigit c then forthPush s ((c - ascii '0').toBitVec.setWidth 64)
  else forthPrimitive c s

/-- The dictionary as a language. -/
def ForthDictionary.language : Language UInt8 ForthState := ⟨d.body beyond, forthEffect⟩

/-- The interpreter runs the language. -/
theorem vitalForthExec_eq_run (fuel : Nat) (s : ForthState) (c : UInt8) :
    vitalForthExec d beyond fuel s c = run (d.language beyond) fuel s c := by
  induction fuel generalizing s c with
  | zero => rfl
  | succ fuel ih =>
    have hexec : vitalForthExec d beyond fuel = run (d.language beyond) fuel := by
      funext s c
      exact ih s c
    rw [vitalForthExec, run, hexec]
    by_cases hnull : c = 0
    · have hbody : (d.language beyond).body c = none := if_pos (.inl hnull)
      have heffect : (d.language beyond).effect c s = s := if_pos hnull
      rw [if_pos hnull, hbody, heffect]
    · rw [if_neg hnull]
      by_cases hdigit : isForthDigit c
      · have hbody : (d.language beyond).body c = none := if_pos (.inr hdigit)
        have heffect : (d.language beyond).effect c s = _ := (if_neg hnull).trans (if_pos hdigit)
        rw [if_pos hdigit, hbody, heffect]
      · have hbody : (d.language beyond).body c = (d.find c).map (d.code beyond) :=
          if_neg (not_or.2 ⟨hnull, hdigit⟩)
        have heffect : (d.language beyond).effect c s = forthPrimitive c s :=
          (if_neg hnull).trans (if_neg hdigit)
        rw [if_neg hdigit, hbody, heffect]
        cases d.find c <;> rfl

/-- The character `b` is in the code that executing `c` runs through. -/
def ForthDictionary.CalledBy (b c : UInt8) : Prop :=
  c ≠ 0 ∧ ¬ isForthDigit c ∧ ∃ i, d.find c = some i ∧ b ∈ d.code beyond i

theorem calls_language_iff (b c : UInt8) :
    Calls (d.language beyond) b c ↔ d.CalledBy beyond b c := by
  change (∃ body, d.body beyond c = some body ∧ b ∈ body) ↔ _
  rw [ForthDictionary.CalledBy, ForthDictionary.body]
  by_cases hplain : c = 0 ∨ isForthDigit c
  · rw [if_pos hplain]
    refine iff_of_false (fun ⟨_, h, _⟩ => by cases h) ?_
    rintro ⟨hnull, hdigit, -⟩
    exact hplain.elim hnull hdigit
  · rw [if_neg hplain]
    rw [not_or] at hplain
    simp only [Option.map_eq_some_iff]
    constructor
    · rintro ⟨body, ⟨i, hi, rfl⟩, hb⟩
      exact ⟨hplain.1, hplain.2, i, hi, hb⟩
    · rintro ⟨-, -, i, hi, hb⟩
      exact ⟨_, ⟨i, hi, rfl⟩, hb⟩

/-- A call returns if and only if the character does not lead to one that calls itself again. -/
theorem forthTerminates_iff (s : ForthState) (c : UInt8) :
    ForthTerminates d beyond s c ↔
      ∀ b, Relation.ReflTransGen (d.CalledBy beyond) b c → ¬ Relation.TransGen (d.CalledBy beyond) b b := by
  have hcalls : Calls (d.language beyond) = d.CalledBy beyond := by
    funext b c
    exact propext (calls_language_iff d beyond b c)
  have hrun : ForthTerminates d beyond s c ↔ Terminates (d.language beyond) s c := by
    rw [ForthTerminates, Terminates]
    simp only [vitalForthExec_eq_run]
  rw [hrun, ← hcalls]
  exact terminates_iff_no_cycle

end

/-- For every dictionary that the cortex can build and every instruction, execution ends if and only if the
instruction does not lead to a character that calls itself again. -/
theorem vitalForthExec_terminates_iff (lessons : List Lesson) (beyond : Nat → UInt8) (s : ForthState)
    (c : UInt8) :
    ForthTerminates (.learned lessons) beyond s c ↔
      ∀ b, Relation.ReflTransGen ((ForthDictionary.learned lessons).CalledBy beyond) b c →
        ¬ Relation.TransGen ((ForthDictionary.learned lessons).CalledBy beyond) b b :=
  forthTerminates_iff _ beyond s c

/-! ### A word that contains itself -/

/-- The word `y` with the code `y`. -/
def mirrorLesson : Lesson := ⟨ascii 'y', fun _ => ascii 'y', 1⟩

/-- Once it is learned, the metabolic tick that executes `y` does not return. -/
theorem exists_exec_never_ends : ∃ (lessons : List Lesson) (beyond : Nat → UInt8) (s : ForthState) (c : UInt8),
    ¬ ForthTerminates (.learned lessons) beyond s c := by
  refine ⟨[mirrorLesson], fun _ => 0, ⟨[], ⟨0, 0, 0, 0, 0, 0⟩, ⟨0, 0, 0⟩, 0⟩, ascii 'y', ?_⟩
  rintro ⟨fuel, h⟩
  have hcalled : ForthDictionary.CalledBy (.learned [mirrorLesson]) (fun _ => 0) (ascii 'y') (ascii 'y') :=
    ⟨by decide, by decide, ⟨0, by decide⟩, by decide, by decide⟩
  have hends := (forthTerminates_iff _ _ _ _).1 ⟨fuel, h⟩ (ascii 'y') .refl
  exact hends (.single hcalled)

end OperatingOrganism.Vital

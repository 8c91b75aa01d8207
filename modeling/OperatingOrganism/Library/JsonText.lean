import OperatingOrganism.Library.PythonText
import Mathlib.Algebra.Order.Field.Rat
import Mathlib.Data.Int.Log
import Mathlib.Data.Rat.Floor

/-!
# Json texts

A decoder of JSON texts that reads one character after the other, with a lexer in front of a parser that keeps the
open arrays and objects on a stack. Control characters are refused in strings, an integer may have 4300 digits, and
of two fields with one key the later stands. What the decoder makes of strings without escapes, of decimal numbers
and of the fields of an object is stated for every state that it can be in (`run_plain`, `run_nat`, `run_key`).

There are two decoders. `loads` keeps the exact values of literals and opens any number of arrays and objects in one
another; `loadsWithin` has the stack and the floats of an interpreter.
-/

set_option autoImplicit false

namespace OperatingOrganism.JsonText

/-! ### Tokens and the parser -/

/-- `JSONDecodeError`, the other `ValueError`, and `RecursionError` -/
inductive LoadError where
  | decode
  | value
  | recursion
  deriving DecidableEq, Repr

/-- A number without its exponent: sign, digits, and the decimals if there is a point. -/
structure Mantissa where
  negative : Bool
  digits : List Nat
  decimals : Option (List Nat)

inductive Token where
  | openArray | closeArray | openObject | closeObject | comma | colon
  | scalar (v : JsonValue)
  | text (s : CodePoints)
  | longInt

/-- An array or object that is open: what it has so far, and the key whose value is read. -/
inductive Frame where
  | array (items : List JsonValue)
  | object (fields : List (CodePoints × JsonValue)) (key : CodePoints)

/-- What comes next: a value, the first item of an array or its end, a key (or, if there is none yet, the end of the
object), a colon, or what follows a complete value. -/
inductive Parser where
  | value (stack : List Frame)
  | first (stack : List Frame)
  | key (isFirst : Bool) (fields : List (CodePoints × JsonValue)) (stack : List Frame)
  | colon (fields : List (CodePoints × JsonValue)) (key : CodePoints) (stack : List Frame)
  | complete (v : JsonValue) (stack : List Frame)

/-- A field of a dictionary. -/
def putField (key : CodePoints) (v : JsonValue) : List (CodePoints × JsonValue) → List (CodePoints × JsonValue)
  | [] => [(key, v)]
  | (k, w) :: fields => if k = key then (k, v) :: fields else (k, w) :: putField key v fields

theorem field?_putField (key k : CodePoints) (v : JsonValue) (fields : List (CodePoints × JsonValue)) :
    (JsonValue.object (putField key v fields)).field? k =
      if k = key then some v else (JsonValue.object fields).field? k := by
  simp only [JsonValue.field?]
  induction fields with
  | nil =>
    by_cases hk : k = key
    · simp [putField, hk]
    · simp [putField, hk, Ne.symm hk]
  | cons field fields ih =>
    obtain ⟨key', w⟩ := field
    rw [putField]
    by_cases hkey : key' = key
    · rw [if_pos hkey, hkey]
      by_cases hk : k = key
      · simp [hk]
      · simp [hk, Ne.symm hk]
    · rw [if_neg hkey]
      by_cases hk : k = key'
      · simp [hk, hkey]
      · rw [List.find?_cons_of_neg (by simpa using Ne.symm hk), List.find?_cons_of_neg (by simpa using Ne.symm hk)]
        exact ih

namespace Parser

/-- The beginning of a value. -/
def take (stack : List Frame) : Token → Except LoadError Parser
  | .scalar v => .ok (.complete v stack)
  | .text s => .ok (.complete (.string s) stack)
  | .openArray => .ok (.first stack)
  | .openObject => .ok (.key true [] stack)
  -- the limit is checked where the number is made, so only where a value may stand
  | .longInt => .error .value
  | _ => .error .decode

def feed : Parser → Token → Except LoadError Parser
  | .value stack, t => take stack t
  | .first stack, .closeArray => .ok (.complete (.array []) stack)
  | .first stack, t => take (.array [] :: stack) t
  | .key _ fields stack, .text s => .ok (.colon fields s stack)
  -- no key after a comma is no end of the object
  | .key true _ stack, .closeObject => .ok (.complete (.object []) stack)
  | .colon fields k stack, .colon => .ok (.value (.object fields k :: stack))
  | .complete v (.array items :: stack), .comma => .ok (.value (.array (items ++ [v]) :: stack))
  | .complete v (.array items :: stack), .closeArray => .ok (.complete (.array (items ++ [v])) stack)
  -- the field is stored when its value is complete, over an earlier one with the key
  | .complete v (.object fields k :: stack), .comma => .ok (.key false (putField k v fields) stack)
  | .complete v (.object fields k :: stack), .closeObject => .ok (.complete (.object (putField k v fields)) stack)
  | _, _ => .error .decode

def result : Parser → Except LoadError JsonValue
  | .complete v [] => .ok v
  | _ => .error .decode

end Parser

/-! ### Numbers -/

def isDigit (c : Nat) : Bool := 48 ≤ c && c ≤ 57

/-- The number that a list of digits stands for. -/
def digitsValue (digits : List Nat) : Nat := digits.foldl (fun n d => 10 * n + d) 0

namespace Mantissa

def signed (m : Mantissa) (n : Nat) : Int := if m.negative then -n else n

/-- The number with an exponent. -/
def float (m : Mantissa) (exponent : Int) : JsonValue :=
  let decimals := m.decimals.getD []
  .float (m.signed (digitsValue (m.digits ++ decimals)) * (10 : Rat) ^ (exponent - decimals.length))

/-- The number without an exponent. -/
def token (m : Mantissa) : Token :=
  match m.decimals with
  | some _ => .scalar (m.float 0)
  | none => if 4300 < m.digits.length then .longInt else .scalar (.int (m.signed (digitsValue m.digits)))

end Mantissa

/-- How far a number has been read: the sign, a number, or what is no number yet without a further digit. -/
inductive NumberState where
  | minus
  | mantissa (m : Mantissa)
  | point (m : Mantissa)
  | exponent (m : Mantissa)
  | exponentSign (m : Mantissa) (negative : Bool)
  | exponentDigits (m : Mantissa) (negative : Bool) (digits : List Nat)

namespace NumberState

/-- The next character of a number, if it belongs to it. -/
def step (n : NumberState) (c : Nat) : Option NumberState :=
  match n with
  | minus => if isDigit c then some (mantissa ⟨true, [c - 48], none⟩) else none
  | mantissa m =>
    if isDigit c then
      match m.decimals with
      | some decimals => some (mantissa { m with decimals := some (decimals ++ [c - 48]) })
      -- a zero is not followed by a digit: the next one would be a second number
      | none => if m.digits = [0] then none else some (mantissa { m with digits := m.digits ++ [c - 48] })
    else if c = 46 ∧ m.decimals.isNone then some (point m)
    else if c = 69 ∨ c = 101 then some (exponent m)
    else none
  | point m => if isDigit c then some (mantissa { m with decimals := some [c - 48] }) else none
  | exponent m =>
    if isDigit c then some (exponentDigits m false [c - 48])
    else if c = 43 ∨ c = 45 then some (exponentSign m (c = 45))
    else none
  | exponentSign m negative => if isDigit c then some (exponentDigits m negative [c - 48]) else none
  | exponentDigits m negative digits =>
    if isDigit c then some (exponentDigits m negative (digits ++ [c - 48])) else none

/-- The end of a number. A point or an exponent without digits is not part of it, and nothing accepts it. -/
def ends (n : NumberState) (parser : Parser) : Except LoadError Parser :=
  match n with
  | minus => .error .decode
  | mantissa m => parser.feed m.token
  | exponentDigits m negative digits =>
    parser.feed (.scalar (m.float (if negative then -digitsValue digits else digitsValue digits)))
  -- the digits before are a number, which may be too long to be one
  | point m => parser.feed m.token >>= fun _ => .error .decode
  | exponent m => parser.feed m.token >>= fun _ => .error .decode
  | exponentSign m _ => parser.feed m.token >>= fun _ => .error .decode

end NumberState

/-! ### Words -/

inductive Word where
  | null | true | false | nan | infinity | minusInfinity

namespace Word

def text : Word → CodePoints
  | null => codePoints "null"
  | true => codePoints "true"
  | false => codePoints "false"
  | nan => codePoints "NaN"
  | infinity => codePoints "Infinity"
  | minusInfinity => codePoints "-Infinity"

def value : Word → JsonValue
  | null => .null
  | true => .bool Bool.true
  | false => .bool Bool.false
  | nan => .nan
  | infinity => .infinity Bool.false
  | minusInfinity => .infinity Bool.true

end Word

/-! ### Characters -/

/-- Where the decoder is: between tokens, in a string (with the high surrogate that its last escape was, if it was
one), behind a backslash, in a `\u` escape, in a number, or in a word. -/
inductive Lexer where
  | idle
  | text (s : CodePoints) (high : Option Nat)
  | escape (s : CodePoints) (high : Option Nat)
  | unicode (s : CodePoints) (high : Option Nat) (left code : Nat)
  | number (n : NumberState)
  | word (w : Word) (seen : Nat)

def hexDigit? (c : Nat) : Option Nat :=
  if isDigit c then some (c - 48)
  else if 65 ≤ c ∧ c ≤ 70 then some (c - 55)
  else if 97 ≤ c ∧ c ≤ 102 then some (c - 87)
  else none

/-- What a backslash and a character stand for. -/
def unescape? (c : Nat) : Option Nat :=
  [(34, 34), (92, 92), (47, 47), (98, 8), (102, 12), (110, 10), (114, 13), (116, 9)].lookup c

/-- The code of a `\u` escape. With the high surrogate of the escape before it makes one character. -/
def appendCode (s : CodePoints) (high : Option Nat) (code : Nat) : Lexer :=
  match high with
  | some hi =>
    -- the high surrogate is the last character so far
    if 0xdc00 ≤ code ∧ code ≤ 0xdfff then
      .text (s.dropLast ++ [0x10000 + (hi - 0xd800) * 0x400 + (code - 0xdc00)]) none
    else .text (s ++ [code]) (if 0xd800 ≤ code ∧ code ≤ 0xdbff then some code else none)
  | none => .text (s ++ [code]) (if 0xd800 ≤ code ∧ code ≤ 0xdbff then some code else none)

def punctuation? (c : Nat) : Option Token :=
  if c = 91 then some .openArray
  else if c = 93 then some .closeArray
  else if c = 123 then some .openObject
  else if c = 125 then some .closeObject
  else if c = 44 then some .comma
  else if c = 58 then some .colon
  else none

/-- The words by their first letters. -/
def word? (c : Nat) : Option Word :=
  if c = 110 then some .null
  else if c = 116 then some .true
  else if c = 102 then some .false
  else if c = 78 then some .nan
  else if c = 73 then some .infinity
  else none

abbrev Decoder := Lexer × Parser

/-- A character between tokens. -/
def scanIdle (parser : Parser) (c : Nat) : Except LoadError Decoder :=
  if c = 32 ∨ c = 9 ∨ c = 10 ∨ c = 13 then .ok (.idle, parser)
  else if c = 34 then .ok (.text [] none, parser)
  else if c = 45 then .ok (.number .minus, parser)
  else if isDigit c then .ok (.number (.mantissa ⟨false, [c - 48], none⟩), parser)
  else
    match punctuation? c, word? c with
    | some t, _ => (parser.feed t).map (.idle, ·)
    | none, some w => .ok (.word w 1, parser)
    | none, none => .error .decode

def scan : Decoder → Nat → Except LoadError Decoder
  | (.idle, parser), c => scanIdle parser c
  | (.text s high, parser), c =>
    if c = 34 then (parser.feed (.text s)).map (.idle, ·)
    else if c = 92 then .ok (.escape s high, parser)
    -- strict mode
    else if c < 32 then .error .decode
    else .ok (.text (s ++ [c]) none, parser)
  | (.escape s high, parser), c =>
    if c = 117 then .ok (.unicode s high 4 0, parser)
    else
      match unescape? c with
      | some d => .ok (.text (s ++ [d]) none, parser)
      | none => .error .decode
  | (.unicode s high left code, parser), c =>
    match hexDigit? c with
    | some d =>
      if left = 1 then .ok (appendCode s high (16 * code + d), parser)
      else .ok (.unicode s high (left - 1) (16 * code + d), parser)
    | none => .error .decode
  | (.number .minus, parser), c =>
    match NumberState.minus.step c with
    | some n => .ok (.number n, parser)
    -- `-Infinity`
    | none => if c = 73 then .ok (.word .minusInfinity 2, parser) else .error .decode
  | (.number n, parser), c =>
    match n.step c with
    | some n' => .ok (.number n', parser)
    -- the character ends the number and is read between tokens
    | none => n.ends parser >>= fun parser' => scanIdle parser' c
  | (.word w seen, parser), c =>
    if w.text[seen]? = some c then
      if seen + 1 = w.text.length then (parser.feed (.scalar w.value)).map (.idle, ·)
      else .ok (.word w (seen + 1), parser)
    else .error .decode

def run (st : Decoder) (s : CodePoints) : Except LoadError Decoder := s.foldlM scan st

/-- The end of the text. -/
def finish : Decoder → Except LoadError JsonValue
  | (.idle, parser) => parser.result
  | (.number n, parser) => n.ends parser >>= Parser.result
  | _ => .error .decode

/-- `json.loads`, on a stack without an end and with exact floats -/
def loads (s : CodePoints) : Except LoadError JsonValue := run (.idle, .value []) s >>= finish

/-! ### The stack of an interpreter, and its floats -/

/-- How many arrays and objects are open. -/
def Parser.depth : Parser → Nat
  | .value stack => stack.length
  | .first stack => stack.length + 1
  | .key _ _ stack => stack.length + 1
  | .colon _ _ stack => stack.length + 1
  | .complete _ stack => stack.length

/-- How deeply arrays and objects are nested in what is read of a text, which ends at its first error. -/
def nesting : Decoder → CodePoints → Nat
  | _, [] => 0
  | st, c :: s =>
    match scan st c with
    | .ok st' => max st'.2.depth (nesting st' s)
    | .error _ => 0

/-- The nearest integer; of two, the even one. -/
def roundHalfEven (q : Rat) : Int :=
  if q - q.floor < 1 / 2 ∨ (q - q.floor = 1 / 2 ∧ q.floor % 2 = 0) then q.floor else q.floor + 1

/-- The exponent of the last of 53 binary digits; that of the subnormal numbers is the least. -/
def lastPlace (q : Rat) : Int := max (Int.log 2 |q| - 52) (-1074)

/-- The nearest binary64 number; there is none for a magnitude that would be rounded to `2 ^ 1024`. -/
def binary64? (q : Rat) : Option Rat :=
  let rounded : Rat := roundHalfEven (q / 2 ^ lastPlace q) * 2 ^ lastPlace q
  if |rounded| < 2 ^ 1024 then some rounded else none

example : binary64? (1 / 10) = some (3602879701896397 / 36028797018963968) := by decide +kernel

/-- `float` of a literal -/
def parseFloat (q : Rat) : JsonValue :=
  match binary64? q with
  | some rounded => .float rounded
  | none => .infinity (q < 0)

mutual

/-- The value with its literals read as floats. -/
def parseFloats : JsonValue → JsonValue
  | .float q => parseFloat q
  | .array items => .array (parseFloatsItems items)
  | .object fields => .object (parseFloatsFields fields)
  | .null => .null
  | .bool b => .bool b
  | .int n => .int n
  | .nan => .nan
  | .infinity negative => .infinity negative
  | .string s => .string s

def parseFloatsItems : List JsonValue → List JsonValue
  | [] => []
  | v :: items => parseFloats v :: parseFloatsItems items

def parseFloatsFields : List (CodePoints × JsonValue) → List (CodePoints × JsonValue)
  | [] => []
  | (k, v) :: fields => (k, parseFloats v) :: parseFloatsFields fields

end

/-- `json.loads`, where the stack has room for so many open arrays and objects. The bracket that opens one too many is
a `RecursionError`, whatever follows; and the parser looks into no value, so the floats may be made at the end. -/
def loadsWithin (room : Nat) (s : CodePoints) : Except LoadError JsonValue :=
  if room < nesting (.idle, .value []) s then .error .recursion else (loads s).map parseFloats

example : (loadsWithin 3 (codePoints "[[[[")).toOption.isNone ∧
    nesting (.idle, .value []) (codePoints "[[1, [") = 3 := by
  decide +kernel

/-! ### Runs -/

/-- A result behind another one. -/
theorem bind_eq_ok {α β : Type} {x : Except LoadError α} {f : α → Except LoadError β} {b : β} :
    x >>= f = .ok b ↔ ∃ a, x = .ok a ∧ f a = .ok b := by
  cases x with
  | error e => exact ⟨fun h => (nomatch h), fun ⟨_, h, _⟩ => (nomatch h)⟩
  | ok a => exact ⟨fun h => ⟨a, rfl, h⟩, fun ⟨_, h, hf⟩ => Except.ok.inj h ▸ hf⟩

@[simp] theorem run_nil (st : Decoder) : run st [] = .ok st := rfl

theorem run_cons (st : Decoder) (c : Nat) (s : CodePoints) : run st (c :: s) = scan st c >>= fun st' => run st' s := by
  rw [run, List.foldlM_cons]
  rfl

theorem run_append (st : Decoder) (s t : CodePoints) : run st (s ++ t) = run st s >>= fun st' => run st' t :=
  List.foldlM_append

/-- A character after which the decoder goes on. -/
theorem run_cons_ok {st t : Decoder} {c : Nat} (h : scan st c = .ok t) (s : CodePoints) :
    run st (c :: s) = run t s := by
  rw [run_cons, h]
  rfl

theorem run_append_ok {st st' : Decoder} {s : CodePoints} (h : run st s = .ok st') (t : CodePoints) :
    run st (s ++ t) = run st' t := by
  rw [run_append, h]
  rfl

/-- What has been read before the rest. -/
theorem run_append_eq_ok {st st' : Decoder} {s t : CodePoints} (h : run st (s ++ t) = .ok st') :
    ∃ mid, run st s = .ok mid ∧ run mid t = .ok st' := bind_eq_ok.1 ((run_append st s t).symm.trans h)

theorem run_cons_eq_ok {st st' : Decoder} {c : Nat} {s : CodePoints} (h : run st (c :: s) = .ok st') :
    ∃ mid, scan st c = .ok mid ∧ run mid s = .ok st' := bind_eq_ok.1 ((run_cons st c s).symm.trans h)

/-- A text that is decoded has been read to its end. -/
theorem loads_eq_ok {s : CodePoints} {v : JsonValue} (h : loads s = .ok v) :
    ∃ st, run (.idle, .value []) s = .ok st ∧ finish st = .ok v := bind_eq_ok.1 h

/-- A token behind which the decoder is between tokens. -/
theorem map_idle_eq_ok {parser : Parser} {t : Token} {st : Decoder}
    (h : (parser.feed t).map (Lexer.idle, ·) = .ok st) :
    ∃ parser', parser.feed t = .ok parser' ∧ st = (.idle, parser') := by
  cases hfeed : parser.feed t with
  | error e =>
    rw [hfeed] at h
    cases h
  | ok parser' =>
    rw [hfeed] at h
    cases h
    exact ⟨parser', rfl, rfl⟩

/-! ### Strings -/

/-- A character that stands for itself in a string. -/
def Plain (c : Nat) : Prop := 32 ≤ c ∧ c ≠ 34 ∧ c ≠ 92

instance : DecidablePred Plain := fun _ => instDecidableAnd

theorem scan_text_plain {c : Nat} (hc : Plain c) (s : CodePoints) (high : Option Nat) (parser : Parser) :
    scan (.text s high, parser) c = .ok (.text (s ++ [c]) none, parser) := by
  obtain ⟨hlow, hquote, hbackslash⟩ := hc
  simp [scan, hquote, hbackslash, Nat.not_lt.2 hlow]

theorem scan_text_quote (s : CodePoints) (high : Option Nat) (parser : Parser) :
    scan (.text s high, parser) 34 = (parser.feed (.text s)).map (.idle, ·) := rfl

/-- Plain characters in a string. -/
theorem run_plain {s : CodePoints} (h : ∀ c ∈ s, Plain c) (before rest : CodePoints) (parser : Parser) :
    run (.text before none, parser) (s ++ rest) = run (.text (before ++ s) none, parser) rest := by
  induction s generalizing before with
  | nil => rw [List.nil_append, List.append_nil]
  | cons c s ih =>
    obtain ⟨hc, hs⟩ := List.forall_mem_cons.1 h
    rw [List.cons_append, run_cons_ok (scan_text_plain hc _ _ _), ih hs, ← List.append_cons]

/-- Characters that are written with escapes, each of which is read back. -/
theorem run_escaped {encode : Nat → CodePoints} {s : CodePoints}
    (h : ∀ c ∈ s, ∀ before parser,
      run (.text before none, parser) (encode c) = .ok (.text (before ++ [c]) none, parser))
    (before rest : CodePoints) (parser : Parser) :
    run (.text before none, parser) (s.flatMap encode ++ rest) = run (.text (before ++ s) none, parser) rest := by
  induction s generalizing before with
  | nil => rw [List.flatMap_nil, List.nil_append, List.append_nil]
  | cons c s ih =>
    obtain ⟨hc, hs⟩ := List.forall_mem_cons.1 h
    rw [List.flatMap_cons, List.append_assoc, run_append_ok (hc before parser), ih hs, ← List.append_cons]

/-- A key and its colon. -/
theorem run_key {key : CodePoints} (h : ∀ c ∈ key, Plain c) (isFirst : Bool) (fields : List (CodePoints × JsonValue))
    (stack : List Frame) (rest : CodePoints) :
    run (.idle, .key isFirst fields stack) (34 :: (key ++ 34 :: 58 :: rest)) =
      run (.idle, .value (.object fields key :: stack)) rest := by
  rw [run_cons_ok (t := (.text [] none, .key isFirst fields stack)) rfl, run_plain h, List.nil_append,
    run_cons_ok (t := (.idle, .colon fields key stack)) rfl,
    run_cons_ok (t := (.idle, .value (.object fields key :: stack))) rfl]

/-! ### Numbers -/

/-- The digits of a number without a sign; the first is a zero only where it is the only one. -/
structure Numeral (digits : List Nat) : Prop where
  isDigit : ∀ c ∈ digits, isDigit c = true
  ne_nil : digits ≠ []
  leading : digits.head? = some 48 → digits = [48]
  length_le : digits.length ≤ 4300

/-- What a character that ends a number is not. -/
structure EndsNumber (c : Nat) : Prop where
  not_digit : isDigit c = false
  ne_point : c ≠ 46
  ne_exponent : c ≠ 69 ∧ c ≠ 101

def numeralValue (digits : List Nat) : Nat := digitsValue (digits.map (· - 48))

theorem digitsValue_concat (digits : List Nat) (d : Nat) :
    digitsValue (digits ++ [d]) = 10 * digitsValue digits + d := List.foldl_concat ..

/-- The first digit of a number. -/
theorem scan_idle_digit {c : Nat} (hc : isDigit c = true) (parser : Parser) :
    scan (.idle, parser) c = .ok (.number (.mantissa ⟨false, [c - 48], none⟩), parser) := by
  have hrange : 48 ≤ c ∧ c ≤ 57 := by simpa [isDigit] using hc
  have hspace : ¬ (c = 32 ∨ c = 9 ∨ c = 10 ∨ c = 13) := by omega
  have hquote : c ≠ 34 := by omega
  have hminus : c ≠ 45 := by omega
  simp [scan, scanIdle, hspace, hquote, hminus, hc]

/-- The end of a number, and what follows. -/
theorem scan_mantissa_ends {c : Nat} (hc : EndsNumber c) (m : Mantissa) (parser : Parser) :
    scan (.number (.mantissa m), parser) c = parser.feed m.token >>= fun parser' => scanIdle parser' c := by
  simp [scan, NumberState.step, NumberState.ends, hc.not_digit, hc.ne_point, hc.ne_exponent]

theorem run_mantissa_ends {c : Nat} (hc : EndsNumber c) (m : Mantissa) (parser : Parser) (rest : CodePoints) :
    run (.number (.mantissa m), parser) (c :: rest) =
      parser.feed m.token >>= fun parser' => run (.idle, parser') (c :: rest) := by
  rw [run_cons, scan_mantissa_ends hc]
  cases parser.feed m.token <;> rfl

/-- A character behind a number belongs to it, makes the minus a word, or follows its end. -/
theorem scan_number_cases {n : NumberState} {parser : Parser} {c : Nat} {st : Decoder}
    (h : scan (.number n, parser) c = .ok st) :
    (∃ n', n.step c = some n' ∧ st = (.number n', parser)) ∨
    (c = 73 ∧ st = (.word .minusInfinity 2, parser)) ∨
    ∃ parser', n.ends parser = .ok parser' ∧ scanIdle parser' c = .ok st := by
  cases hstep : n.step c with
  | some n' =>
    refine .inl ⟨n', rfl, ?_⟩
    cases n <;> simp only [scan, hstep] at h <;> cases h <;> rfl
  | none =>
    refine .inr ?_
    -- a minus alone may begin a word, all other states end
    by_cases hminus : n = .minus
    · subst hminus
      simp only [scan, hstep] at h
      split_ifs at h with hc
      cases h
      exact .inl ⟨hc, rfl⟩
    · have hend : scan (.number n, parser) c = n.ends parser >>= fun parser' => scanIdle parser' c := by
        cases n <;> simp only [scan, hstep]
        exact absurd rfl hminus
      exact .inr (bind_eq_ok.1 (hend.symm.trans h))

/-- More digits. -/
theorem run_moreDigits {negative : Bool} {digits : List Nat} (hne : digits ≠ []) (hdigits : digits ≠ [0])
    {more : List Nat} (hmore : ∀ c ∈ more, isDigit c = true) (rest : CodePoints) (parser : Parser) :
    run (.number (.mantissa ⟨negative, digits, none⟩), parser) (more ++ rest) =
      run (.number (.mantissa ⟨negative, digits ++ more.map (· - 48), none⟩), parser) rest := by
  induction more generalizing digits with
  | nil => rw [List.nil_append, List.map_nil, List.append_nil]
  | cons c more ih =>
    obtain ⟨hc, hmore⟩ := List.forall_mem_cons.1 hmore
    have hscan : scan (.number (.mantissa ⟨negative, digits, none⟩), parser) c =
        .ok (.number (.mantissa ⟨negative, digits ++ [c - 48], none⟩), parser) := by
      simp [scan, NumberState.step, hc, hdigits]
    have hne' : digits ++ [c - 48] ≠ [] := List.append_ne_nil_of_left_ne_nil hne _
    have hdigits' : digits ++ [c - 48] ≠ [0] := by
      intro heq
      have hlength := congrArg List.length heq
      rw [List.length_append, List.length_singleton, List.length_singleton] at hlength
      exact hne (List.length_eq_zero_iff.1 (Nat.succ.inj hlength))
    rw [List.cons_append, run_cons_ok hscan, ih hne' hdigits' hmore, ← List.append_cons, List.map_cons]

/-- All digits of a number. -/
theorem run_numeral {digits : List Nat} (h : Numeral digits) (rest : CodePoints) (parser : Parser) :
    run (.idle, parser) (digits ++ rest) =
      run (.number (.mantissa ⟨false, digits.map (· - 48), none⟩), parser) rest := by
  obtain ⟨c, more, rfl⟩ := List.exists_cons_of_ne_nil h.ne_nil
  obtain ⟨hc, hmore⟩ := List.forall_mem_cons.1 h.isDigit
  rw [List.cons_append, run_cons_ok (scan_idle_digit hc parser)]
  by_cases hzero : [c - 48] = [0]
  · -- a leading zero is the only digit
    have hrange : 48 ≤ c ∧ c ≤ 57 := by simpa [isDigit] using hc
    have hc48 : c = 48 := by
      have hsub := List.singleton_inj.1 hzero
      omega
    have honly := h.leading (by rw [hc48]; rfl)
    rw [(List.cons_eq_cons.1 honly).2]
    rfl
  · rw [run_moreDigits (List.cons_ne_nil _ _) hzero hmore]
    rfl

/-- An integer. -/
theorem run_nat {digits : List Nat} (h : Numeral digits) {c : Nat} (hc : EndsNumber c) (rest : CodePoints)
    (parser : Parser) :
    run (.idle, parser) (digits ++ c :: rest) =
      parser.feed (.scalar (.int (numeralValue digits))) >>= fun parser' => run (.idle, parser') (c :: rest) := by
  have htoken : Mantissa.token ⟨false, digits.map (· - 48), none⟩ = .scalar (.int (numeralValue digits)) := by
    have hlength : ¬ 4300 < (digits.map (· - 48)).length := by
      rw [List.length_map]
      exact Nat.not_lt.2 h.length_le
    simp only [Mantissa.token, if_neg hlength]
    rfl
  rw [run_numeral h, run_mantissa_ends hc, htoken]

/-- A number with one decimal. -/
theorem run_decimal {digits : List Nat} (h : Numeral digits) {d c : Nat} (hd : isDigit d = true) (hc : EndsNumber c)
    (rest : CodePoints) (parser : Parser) :
    run (.idle, parser) (digits ++ 46 :: d :: c :: rest) =
      parser.feed (.scalar (.float (((10 * numeralValue digits + (d - 48) : Nat) : Rat) / 10))) >>= fun parser' =>
        run (.idle, parser') (c :: rest) := by
  have hpoint : scan (.number (.mantissa ⟨false, digits.map (· - 48), none⟩), parser) 46 =
      .ok (.number (.point ⟨false, digits.map (· - 48), none⟩), parser) := rfl
  have hdecimal : scan (.number (.point ⟨false, digits.map (· - 48), none⟩), parser) d =
      .ok (.number (.mantissa ⟨false, digits.map (· - 48), some [d - 48]⟩), parser) := by
    simp [scan, NumberState.step, hd]
  have htoken : Mantissa.token ⟨false, digits.map (· - 48), some [d - 48]⟩ =
      .scalar (.float (((10 * numeralValue digits + (d - 48) : Nat) : Rat) / 10)) := by
    simp only [Mantissa.token, Mantissa.float, Mantissa.signed, Option.getD_some, digitsValue_concat]
    simp [numeralValue, div_eq_mul_inv]
  rw [run_numeral h, run_cons_ok hpoint, run_cons_ok hdecimal, run_mantissa_ends hc, htoken]

end OperatingOrganism.JsonText

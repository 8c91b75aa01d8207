import OperatingOrganism.Library.JsonText
import OperatingOrganism.Library.Utf8

/-!
# Json texts that are written

The encoder of JSON, with or without an indent, and with or without escapes for the characters that are not ASCII.
What it writes is read back (`loads_dump`), whatever the style, as long as the strings have no surrogates and the keys
of an object differ. How a float is written is a parameter that has to be read back by the decoder.
-/

set_option autoImplicit false

namespace OperatingOrganism.JsonText

/-- How floats are written; `none` is a number that is no float. -/
structure FloatRepr where
  text : Rat → Option CodePoints
  reads : ∀ {q : Rat} {s : CodePoints}, text q = some s →
    ∀ {c : Nat}, EndsNumber c → ∀ (rest : CodePoints) (parser : Parser),
    run (.idle, parser) (s ++ c :: rest) =
      parser.feed (.scalar (.float q)) >>= fun parser' => run (.idle, parser') (c :: rest)
  printable : ∀ {q : Rat} {s : CodePoints}, text q = some s → ∀ c ∈ s, 32 ≤ c

/-- The arguments `indent` and `ensure_ascii`. -/
structure DumpStyle where
  indent : Option Nat
  ensureAscii : Bool
  floats : FloatRepr

/-! ### The encoder -/

/-- The digits of a number. -/
def decimal (n : Nat) : CodePoints := (Nat.toDigits 10 n).map Char.toNat

def intText (n : Int) : CodePoints := if n < 0 then 45 :: decimal n.natAbs else decimal n.natAbs

/-- A number with more than 4300 digits is not written. -/
def dumpInt (n : Int) : Option CodePoints := if (decimal n.natAbs).length ≤ 4300 then some (intText n) else none

def hexDigit (d : Nat) : Nat := if d < 10 then 48 + d else 87 + d

/-- `\uXXXX` -/
def unicodeEscape (c : Nat) : CodePoints :=
  [92, 117, hexDigit (c / 4096 % 16), hexDigit (c / 256 % 16), hexDigit (c / 16 % 16), hexDigit (c % 16)]

/-- The escapes of one letter. -/
def shortEscape? (c : Nat) : Option Nat :=
  [(34, 34), (92, 92), (10, 110), (13, 114), (9, 116), (12, 102), (8, 98)].lookup c

/-- A character of a string. -/
def escapeChar (ensureAscii : Bool) (c : Nat) : CodePoints :=
  match shortEscape? c with
  | some letter => [92, letter]
  | none =>
    if c < 32 then unicodeEscape c
    else if ensureAscii ∧ 126 < c then
      if c < 0x10000 then unicodeEscape c
      else unicodeEscape (0xd800 + (c - 0x10000) / 0x400) ++ unicodeEscape (0xdc00 + (c - 0x10000) % 0x400)
    else [c]

def quoteText (ensureAscii : Bool) (s : CodePoints) : CodePoints := 34 :: (s.flatMap (escapeChar ensureAscii) ++ [34])

namespace DumpStyle

/-- The line break and the indent of a level. -/
def newline (style : DumpStyle) (level : Nat) : CodePoints :=
  match style.indent with
  | some n => 10 :: List.replicate (n * level) 32
  | none => []

/-- What is behind the comma between two items. -/
def gap (style : DumpStyle) (level : Nat) : CodePoints :=
  match style.indent with
  | some _ => style.newline level
  | none => [32]

end DumpStyle

mutual

/-- `json.dumps`; `none` is a `ValueError`. -/
def dump (style : DumpStyle) (level : Nat) : JsonValue → Option CodePoints
  | .null => some Word.null.text
  | .bool b => some (if b then Word.true.text else Word.false.text)
  | .int n => dumpInt n
  | .float q => style.floats.text q
  | .nan => some Word.nan.text
  | .infinity negative => some (if negative then Word.minusInfinity.text else Word.infinity.text)
  | .string s => some (quoteText style.ensureAscii s)
  | .array [] => some [91, 93]
  | .array (v :: items) => do
    let first ← dump style (level + 1) v
    let others ← dumpItems style (level + 1) items
    return 91 :: (style.newline (level + 1) ++ first ++ others ++ style.newline level ++ [93])
  | .object [] => some [123, 125]
  | .object ((k, v) :: fields) => do
    let first ← dump style (level + 1) v
    let others ← dumpFields style (level + 1) fields
    return 123 :: (style.newline (level + 1) ++ quoteText style.ensureAscii k ++ 58 :: 32 :: first ++ others ++
      style.newline level ++ [125])

/-- The items behind the first one. -/
def dumpItems (style : DumpStyle) (level : Nat) : List JsonValue → Option CodePoints
  | [] => some []
  | v :: items => do
    let text ← dump style level v
    let others ← dumpItems style level items
    return 44 :: (style.gap level ++ text ++ others)

/-- The fields behind the first one. -/
def dumpFields (style : DumpStyle) (level : Nat) : List (CodePoints × JsonValue) → Option CodePoints
  | [] => some []
  | (k, v) :: fields => do
    let text ← dump style level v
    let others ← dumpFields style level fields
    return 44 :: (style.gap level ++ quoteText style.ensureAscii k ++ 58 :: 32 :: text ++ others)

end

/-! ### Characters that are read back -/

section Characters

variable {parser : Parser} {s : CodePoints} {c : Nat}

theorem hexDigit?_hexDigit {d : Nat} (hd : d < 16) : hexDigit? (hexDigit d) = some d := by
  unfold hexDigit
  split
  · have hdigit : isDigit (48 + d) = true := by simp [isDigit]; omega
    simp [hexDigit?, hdigit]
  · have hdigit : isDigit (87 + d) = false := by simp [isDigit]; omega
    have hupper : ¬ (65 ≤ 87 + d ∧ 87 + d ≤ 70) := by omega
    have hlower : 97 ≤ 87 + d ∧ 87 + d ≤ 102 := by omega
    simp [hexDigit?, hdigit, hupper, hlower]

theorem scan_unicode {high : Option Nat} {left code d : Nat} (hd : d < 16) :
    scan (.unicode s high left code, parser) (hexDigit d) =
      if left = 1 then .ok (appendCode s high (16 * code + d), parser)
      else .ok (.unicode s high (left - 1) (16 * code + d), parser) := by
  simp only [scan, hexDigit?_hexDigit hd]

/-- The four digits of an escape. -/
theorem run_unicodeEscape (high : Option Nat) (hc : c < 0x10000) :
    run (.text s high, parser) (unicodeEscape c) = .ok (appendCode s high c, parser) := by
  have hdigit : ∀ n, n % 16 < 16 := fun n => Nat.mod_lt n (by decide)
  have hcode : 16 * (16 * (16 * (16 * 0 + c / 4096 % 16) + c / 256 % 16) + c / 16 % 16) + c % 16 = c := by omega
  have hbegin : run (.text s high, parser) (unicodeEscape c) = run (.unicode s high 4 0, parser)
      [hexDigit (c / 4096 % 16), hexDigit (c / 256 % 16), hexDigit (c / 16 % 16), hexDigit (c % 16)] := rfl
  rw [hbegin, run_cons_ok (scan_unicode (hdigit _)), run_cons_ok (scan_unicode (hdigit _)),
    run_cons_ok (scan_unicode (hdigit _)), run_cons_ok (scan_unicode (hdigit _)), run_nil]
  simp only [hcode]

/-- A character that is not a surrogate is told by its own escape. -/
theorem appendCode_scalar (hc : c < 0x10000) (hscalar : IsScalar c) : appendCode s none c = .text (s ++ [c]) none := by
  have hhigh : ¬ (0xd800 ≤ c ∧ c ≤ 0xdbff) := by
    rcases hscalar with hlow | ⟨hup, -⟩ <;> omega
  simp [appendCode, hhigh]

/-- Two surrogates make one character. -/
theorem run_surrogates (hlow : 0x10000 ≤ c) (hhigh : c < 0x110000) :
    run (.text s none, parser)
      (unicodeEscape (0xd800 + (c - 0x10000) / 0x400) ++ unicodeEscape (0xdc00 + (c - 0x10000) % 0x400)) =
      .ok (.text (s ++ [c]) none, parser) := by
  have hdiv : (c - 0x10000) / 0x400 < 0x400 := by omega
  have hmod : (c - 0x10000) % 0x400 < 0x400 := Nat.mod_lt _ (by decide)
  have hfirst : appendCode s none (0xd800 + (c - 0x10000) / 0x400) =
      .text (s ++ [0xd800 + (c - 0x10000) / 0x400]) (some (0xd800 + (c - 0x10000) / 0x400)) := by
    simp [appendCode, show 0xd800 + (c - 0x10000) / 0x400 ≤ 0xdbff by omega]
  have hsum : 0x10000 + (0xd800 + (c - 0x10000) / 0x400 - 0xd800) * 0x400 + (0xdc00 + (c - 0x10000) % 0x400 - 0xdc00) =
      c := by omega
  rw [run_append_ok (run_unicodeEscape none (by omega)), hfirst, run_unicodeEscape _ (by omega), appendCode]
  simp only [Nat.le_add_right, true_and]
  rw [if_pos (by omega), List.dropLast_concat, hsum]

theorem unescape?_of_shortEscape? {letter : Nat} (h : shortEscape? c = some letter) : unescape? letter = some c := by
  obtain ⟨l, l', hsplit, -⟩ := List.lookup_eq_some_iff.1 h
  have hmem : (c, letter) ∈ [(34, 34), (92, 92), (10, 110), (13, 114), (9, 116), (12, 102), (8, 98)] := by simp [hsplit]
  simp only [List.mem_cons, Prod.mk.injEq, List.not_mem_nil, or_false] at hmem
  rcases hmem with ⟨rfl, rfl⟩ | ⟨rfl, rfl⟩ | ⟨rfl, rfl⟩ | ⟨rfl, rfl⟩ | ⟨rfl, rfl⟩ | ⟨rfl, rfl⟩ | ⟨rfl, rfl⟩ <;> rfl

theorem plain_of_shortEscape? (h : shortEscape? c = none) (hc : 32 ≤ c) : Plain c := by
  have hnone := List.lookup_eq_none_iff.1 h
  refine ⟨hc, ?_, ?_⟩
  · rintro rfl
    simpa using hnone (34, 34) (by simp)
  · rintro rfl
    simpa using hnone (92, 92) (by simp)

/-- A character is read back in any style. -/
theorem run_escapeChar (hscalar : IsScalar c) (ensureAscii : Bool) :
    run (.text s none, parser) (escapeChar ensureAscii c) = .ok (.text (s ++ [c]) none, parser) := by
  cases hshort : shortEscape? c with
  | some letter =>
    have hletter := unescape?_of_shortEscape? hshort
    have hunicode : letter ≠ 117 := by
      rintro rfl
      simp [unescape?, List.lookup_cons] at hletter
    simp only [escapeChar, hshort]
    have hscan : scan (.escape s none, parser) letter = .ok (.text (s ++ [c]) none, parser) := by
      simp [scan, hunicode, hletter]
    rw [run_cons_ok (t := (.escape s none, parser)) rfl, run_cons_ok hscan, run_nil]
  | none =>
    simp only [escapeChar, hshort]
    by_cases hcontrol : c < 32
    · rw [if_pos hcontrol, run_unicodeEscape none (by omega), appendCode_scalar (by omega) hscalar]
    · rw [if_neg hcontrol]
      by_cases hescape : ensureAscii ∧ 126 < c
      · rw [if_pos hescape]
        by_cases hshort : c < 0x10000
        · rw [if_pos hshort, run_unicodeEscape none hshort, appendCode_scalar hshort hscalar]
        · rw [if_neg hshort]
          apply run_surrogates
          · exact Nat.not_lt.1 hshort
          · rcases hscalar with hlow | ⟨-, hhigh⟩ <;> omega
      · have hplain := plain_of_shortEscape? hshort (by omega)
        rw [if_neg hescape, run_cons_ok (scan_text_plain hplain s none parser), run_nil]

/-- A string is read back in any style. -/
theorem run_quoteText (hscalars : ∀ c ∈ s, IsScalar c) (ensureAscii : Bool) {parser' : Parser}
    (hfeed : parser.feed (.text s) = .ok parser') (rest : CodePoints) :
    run (.idle, parser) (quoteText ensureAscii s ++ rest) = run (.idle, parser') rest := by
  have hquote : scan (.text s none, parser) 34 = .ok (.idle, parser') := by
    rw [scan_text_quote, hfeed]
    rfl
  rw [quoteText, List.cons_append, List.append_assoc, run_cons_ok (t := (.text [] none, parser)) rfl,
    run_escaped fun c hc before parser => run_escapeChar (hscalars c hc) ensureAscii, List.nil_append,
    List.singleton_append, run_cons_ok hquote]

end Characters

/-! ### Numbers that are read back -/

section Numbers

variable {parser : Parser} {c n : Nat}

theorem isDigit_of_mem_decimal (h : c ∈ decimal n) : isDigit c = true := by
  obtain ⟨d, hd, rfl⟩ := List.mem_map.1 h
  have hdigit := Nat.isDigit_of_mem_toDigits (by decide) (by decide) hd
  simp only [Char.isDigit, Bool.and_eq_true, decide_eq_true_eq, UInt32.le_iff_toNat_le] at hdigit
  simp only [isDigit, Bool.and_eq_true, decide_eq_true_eq]
  exact hdigit

theorem numeralValue_decimal (n : Nat) : numeralValue (decimal n) = n := by
  have hvalue : Nat.ofDigitChars 10 (Nat.toDigits 10 n) 0 = n := Nat.ofDigitChars_ten_toDigits
  rw [numeralValue, digitsValue, decimal, List.map_map, List.foldl_map]
  exact hvalue

/-- Only zero begins with a zero. -/
theorem decimal_of_leading (h : (decimal n).head? = some 48) : decimal n = [48] := by
  induction n using Nat.strong_induction_on with
  | _ n ih =>
    rw [decimal, Nat.toDigits_eq_if (by decide)] at h ⊢
    split at h
    · next hsmall =>
      rw [if_pos hsmall]
      simp only [List.map_cons, List.map_nil, List.head?_cons, Option.some.injEq] at h ⊢
      rw [h]
    · next hlarge =>
      have hhead : (decimal (n / 10)).head? = some 48 := by
        rw [List.map_append, List.head?_append_of_ne_nil _ (by simp)] at h
        exact h
      -- what is left of a number of two digits is not zero
      have hvalue := numeralValue_decimal (n / 10)
      rw [ih (n / 10) (by omega) hhead] at hvalue
      have hzero : n / 10 = 0 := hvalue.symm
      omega

theorem numeral_decimal (h : (decimal n).length ≤ 4300) : Numeral (decimal n) :=
  ⟨fun _ => isDigit_of_mem_decimal, by simp [decimal], decimal_of_leading, h⟩

/-- The digits behind a minus. -/
theorem run_minus (hpos : n ≠ 0) (hlength : (decimal n).length ≤ 4300) (rest : CodePoints) :
    run (.number .minus, parser) (decimal n ++ rest) =
      run (.number (.mantissa ⟨true, (decimal n).map (· - 48), none⟩), parser) rest := by
  have hnumeral := numeral_decimal hlength
  have hleading : (decimal n).head? ≠ some 48 := by
    intro hhead
    have hvalue := numeralValue_decimal n
    rw [decimal_of_leading hhead] at hvalue
    exact hpos hvalue.symm
  have hdigits := hnumeral.isDigit
  cases hsplit : decimal n with
  | nil => exact absurd hsplit hnumeral.ne_nil
  | cons d more =>
    rw [hsplit] at hdigits hleading
    obtain ⟨hd, hmore⟩ := List.forall_mem_cons.1 hdigits
    have hminus : scan (.number .minus, parser) d = .ok (.number (.mantissa ⟨true, [d - 48], none⟩), parser) := by
      simp [scan, NumberState.step, hd]
    have hone : [d - 48] ≠ [0] := by
      have hrange : 48 ≤ d ∧ d ≤ 57 := by simpa [isDigit] using hd
      have hne : d ≠ 48 := by simpa using hleading
      rw [Ne, List.singleton_inj]
      omega
    rw [List.cons_append, run_cons_ok hminus, run_moreDigits (List.cons_ne_nil _ _) hone hmore]
    rfl

/-- An integer is read back. -/
theorem run_intText {m : Int} (hlength : (decimal m.natAbs).length ≤ 4300) (hc : EndsNumber c) (rest : CodePoints) :
    run (.idle, parser) (intText m ++ c :: rest) =
      parser.feed (.scalar (.int m)) >>= fun parser' => run (.idle, parser') (c :: rest) := by
  by_cases hneg : m < 0
  · have htoken : Mantissa.token ⟨true, (decimal m.natAbs).map (· - 48), none⟩ = .scalar (.int m) := by
      have hshort : ¬ 4300 < ((decimal m.natAbs).map (· - 48)).length := by
        rw [List.length_map]
        exact Nat.not_lt.2 hlength
      have hvalue : digitsValue ((decimal m.natAbs).map (· - 48)) = m.natAbs := numeralValue_decimal _
      have hsigned : -((m.natAbs : Nat) : Int) = m := by omega
      simp only [Mantissa.token, if_neg hshort, Mantissa.signed, hvalue, if_true, hsigned]
    rw [intText, if_pos hneg, List.cons_append, run_cons_ok (t := (.number .minus, parser)) rfl,
      run_minus (by omega) hlength, run_mantissa_ends hc, htoken]
  · have hnat : ((m.natAbs : Nat) : Int) = m := by omega
    rw [intText, if_neg hneg, run_nat (numeral_decimal hlength) hc, numeralValue_decimal, hnat]

end Numbers

/-! ### Values that are read back -/

/-- A value whose strings have no surrogates, and no two fields of one key. -/
inductive Readable : JsonValue → Prop
  | null : Readable .null
  | bool (b : Bool) : Readable (.bool b)
  | int (n : Int) : Readable (.int n)
  | float (q : Rat) : Readable (.float q)
  | nan : Readable .nan
  | infinity (negative : Bool) : Readable (.infinity negative)
  | string {s : CodePoints} (hscalars : ∀ c ∈ s, IsScalar c) : Readable (.string s)
  | array {items : List JsonValue} (hitems : ∀ v ∈ items, Readable v) : Readable (.array items)
  | object {fields : List (CodePoints × JsonValue)} (hkeys : (fields.map Prod.fst).Nodup)
      (hscalars : ∀ field ∈ fields, ∀ c ∈ field.1, IsScalar c) (hfields : ∀ field ∈ fields, Readable field.2) :
      Readable (.object fields)

/-- Only a number needs a character behind it to be told from its continuation. -/
def Separated : JsonValue → CodePoints → Prop
  | .int _, rest => ∃ c rest', rest = c :: rest' ∧ EndsNumber c
  | .float _, rest => ∃ c rest', rest = c :: rest' ∧ EndsNumber c
  | _, _ => True

/-- The parser takes a value to the stack. -/
def Awaits (parser : Parser) (stack : List Frame) : Prop := ∀ t, t ≠ .closeArray → parser.feed t = Parser.take stack t

section Values

variable {style : DumpStyle} {level : Nat} {parser : Parser} {stack : List Frame} {v : JsonValue}
  {text rest : CodePoints}
  {items before : List JsonValue} {fields front : List (CodePoints × JsonValue)} {k : CodePoints}

theorem awaits_value (stack : List Frame) : Awaits (.value stack) stack := fun _ _ => rfl

theorem awaits_first (stack : List Frame) : Awaits (.first stack) (.array [] :: stack) := by
  intro t ht
  cases t <;> first | rfl | exact absurd rfl ht

theorem separated_of_endsNumber {c : Nat} (hc : EndsNumber c) (rest : CodePoints) (v : JsonValue) :
    Separated v (c :: rest) := by
  cases v <;> first | exact trivial | exact ⟨c, rest, rfl, hc⟩

theorem run_blanks (n : Nat) (rest : CodePoints) :
    run (.idle, parser) (List.replicate n 32 ++ rest) = run (.idle, parser) rest := by
  induction n with
  | zero => rfl
  | succ n ih => rw [List.replicate_succ, List.cons_append, run_cons_ok (t := (.idle, parser)) rfl, ih]

/-- The white space of a style says nothing. -/
theorem run_newline (style : DumpStyle) (level : Nat) (rest : CodePoints) :
    run (.idle, parser) (style.newline level ++ rest) = run (.idle, parser) rest := by
  cases hindent : style.indent with
  | none => simp [DumpStyle.newline, hindent]
  | some n =>
    simp only [DumpStyle.newline, hindent]
    rw [List.cons_append, run_cons_ok (t := (.idle, parser)) rfl, run_blanks]

theorem run_gap (style : DumpStyle) (level : Nat) (rest : CodePoints) :
    run (.idle, parser) (style.gap level ++ rest) = run (.idle, parser) rest := by
  cases hindent : style.indent with
  | none =>
    simp only [DumpStyle.gap, hindent]
    rw [List.singleton_append, run_cons_ok (t := (.idle, parser)) rfl]
  | some n =>
    simp only [DumpStyle.gap, hindent]
    exact run_newline style level rest

/-- What follows a value in a text of this encoder. -/
theorem endsNumber_mark {c : Nat} (h : c ∈ [10, 44, 93, 125]) : EndsNumber c := by
  simp only [List.mem_cons, List.not_mem_nil, or_false] at h
  rcases h with rfl | rfl | rfl | rfl <;> exact ⟨rfl, by decide, by decide⟩

theorem separated_close {c : Nat} (hc : EndsNumber c) (style : DumpStyle) (level : Nat) (rest : CodePoints)
    (v : JsonValue) : Separated v (style.newline level ++ c :: rest) := by
  cases hindent : style.indent with
  | none =>
    simp only [DumpStyle.newline, hindent, List.nil_append]
    exact separated_of_endsNumber hc rest v
  | some n =>
    simp only [DumpStyle.newline, hindent, List.cons_append]
    exact separated_of_endsNumber (endsNumber_mark (by decide)) _ v

/-- A value is read back as it was written, where a value may stand. -/
def ReadsBack (style : DumpStyle) (v : JsonValue) : Prop :=
  ∀ {level : Nat} {text : CodePoints}, dump style level v = some text → ∀ {parser : Parser} {stack : List Frame}
    {rest : CodePoints}, Awaits parser stack → Separated v rest →
    run (.idle, parser) (text ++ rest) = run (.idle, .complete v stack) rest

/-- A value that is one token. -/
theorem run_of_scalar (hawaits : Awaits parser stack) (v : JsonValue) (rest : CodePoints) :
    (parser.feed (.scalar v) >>= fun parser' => run (.idle, parser') rest) = run (.idle, .complete v stack) rest := by
  rw [hawaits (.scalar v) (nomatch ·)]
  rfl

theorem putField_of_not_mem (h : k ∉ fields.map Prod.fst) : putField k v fields = fields ++ [(k, v)] := by
  induction fields with
  | nil => rfl
  | cons field fields ih =>
    obtain ⟨key, w⟩ := field
    simp only [List.map_cons, List.mem_cons, not_or] at h
    rw [putField, if_neg (Ne.symm h.1), ih h.2]
    rfl

/-- A field whose key is new goes to the end. -/
theorem putField_of_nodup (h : ((front ++ (k, v) :: fields).map Prod.fst).Nodup) :
    putField k v front = front ++ [(k, v)] := by
  apply putField_of_not_mem
  intro hmem
  rw [List.map_append, List.map_cons] at h
  exact (List.nodup_append.1 h).2.2 k hmem k List.mem_cons_self rfl

/-- A word is read back. -/
theorem run_word (w : Word) (hawaits : Awaits parser stack) (rest : CodePoints) :
    run (.idle, parser) (w.text ++ rest) = run (.idle, .complete w.value stack) rest := by
  have hfeed : parser.feed (.scalar w.value) = .ok (.complete w.value stack) := hawaits _ (nomatch ·)
  apply run_append_ok
  cases w <;> simp [Word.text, codePoints, run_cons, scan, scanIdle, NumberState.step, isDigit, punctuation?, word?,
    hfeed, Except.map, bind, Except.bind]

/-- Behind an item is a comma, or the end of the array. -/
theorem separated_dumpItems (h : dumpItems style (level + 1) items = some text) (rest : CodePoints) (v : JsonValue) :
    Separated v (text ++ (style.newline level ++ 93 :: rest)) := by
  cases items with
  | nil =>
    simp only [dumpItems, Option.some.injEq] at h
    rw [← h]
    exact separated_close (endsNumber_mark (by decide)) style level rest v
  | cons w items =>
    simp only [dumpItems, Option.bind_eq_bind, Option.bind_eq_some_iff, Option.pure_def, Option.some.injEq] at h
    obtain ⟨first, -, others, -, rfl⟩ := h
    exact separated_of_endsNumber (endsNumber_mark (by decide)) _ v

theorem separated_dumpFields (h : dumpFields style (level + 1) fields = some text) (rest : CodePoints) (v : JsonValue) :
    Separated v (text ++ (style.newline level ++ 125 :: rest)) := by
  cases fields with
  | nil =>
    simp only [dumpFields, Option.some.injEq] at h
    rw [← h]
    exact separated_close (endsNumber_mark (by decide)) style level rest v
  | cons field fields =>
    simp only [dumpFields, Option.bind_eq_bind, Option.bind_eq_some_iff, Option.pure_def, Option.some.injEq] at h
    obtain ⟨first, -, others, -, rfl⟩ := h
    exact separated_of_endsNumber (endsNumber_mark (by decide)) _ v

/-- The items behind the first one, and the end of the array. -/
theorem run_dumpItems (hitems : ∀ w ∈ items, ReadsBack style w) (h : dumpItems style (level + 1) items = some text) :
    run (.idle, .complete v (.array before :: stack)) (text ++ (style.newline level ++ 93 :: rest)) =
      run (.idle, .complete (.array (before ++ v :: items)) stack) rest := by
  induction items generalizing before v text with
  | nil =>
    simp only [dumpItems, Option.some.injEq] at h
    rw [← h, List.nil_append, run_newline,
      run_cons_ok (t := (.idle, .complete (.array (before ++ [v])) stack)) rfl]
  | cons w items ih =>
    obtain ⟨hw, hothers⟩ := List.forall_mem_cons.1 hitems
    simp only [dumpItems, Option.bind_eq_bind, Option.bind_eq_some_iff, Option.pure_def, Option.some.injEq] at h
    obtain ⟨first, hfirst, others, hmore, rfl⟩ := h
    have hseparated := separated_dumpItems hmore rest w
    have hstep : run (.idle, .complete v (.array before :: stack))
        (44 :: (style.gap (level + 1) ++ first ++ others) ++ (style.newline level ++ 93 :: rest)) =
        run (.idle, .complete w (.array (before ++ [v]) :: stack)) (others ++ (style.newline level ++ 93 :: rest)) := by
      rw [List.cons_append, run_cons_ok (t := (.idle, .value (.array (before ++ [v]) :: stack))) rfl, List.append_assoc,
        List.append_assoc, run_gap, hw hfirst (awaits_value _) hseparated]
    rw [hstep, ih hothers hmore, ← List.append_cons]

/-- A key, its colon, and its value. -/
theorem run_dumpField (hscalars : ∀ c ∈ k, IsScalar c) (hv : ReadsBack style v) (h : dump style level v = some text)
    (isFirst : Bool) (hseparated : Separated v rest) :
    run (.idle, .key isFirst front stack) (quoteText style.ensureAscii k ++ 58 :: 32 :: (text ++ rest)) =
      run (.idle, .complete v (.object front k :: stack)) rest := by
  have hkey : Parser.feed (.key isFirst front stack) (.text k) = .ok (.colon front k stack) := rfl
  rw [run_quoteText hscalars style.ensureAscii hkey,
    run_cons_ok (t := (.idle, .value (.object front k :: stack))) rfl,
    run_cons_ok (t := (.idle, .value (.object front k :: stack))) rfl, hv h (awaits_value _) hseparated]

/-- The fields behind the first one, and the end of the object. -/
theorem run_dumpFields (hfields : ∀ field ∈ fields, ReadsBack style field.2)
    (hscalars : ∀ field ∈ fields, ∀ c ∈ field.1, IsScalar c) (hkeys : ((front ++ (k, v) :: fields).map Prod.fst).Nodup)
    (h : dumpFields style (level + 1) fields = some text) :
    run (.idle, .complete v (.object front k :: stack)) (text ++ (style.newline level ++ 125 :: rest)) =
      run (.idle, .complete (.object (front ++ (k, v) :: fields)) stack) rest := by
  induction fields generalizing front k v text with
  | nil =>
    simp only [dumpFields, Option.some.injEq] at h
    rw [← h, List.nil_append, run_newline,
      run_cons_ok (t := (.idle, .complete (.object (putField k v front)) stack)) rfl, putField_of_nodup hkeys]
  | cons field fields ih =>
    obtain ⟨key, w⟩ := field
    obtain ⟨hw, hothers⟩ := List.forall_mem_cons.1 hfields
    obtain ⟨hkey, hrest⟩ := List.forall_mem_cons.1 hscalars
    simp only [dumpFields, Option.bind_eq_bind, Option.bind_eq_some_iff, Option.pure_def, Option.some.injEq] at h
    obtain ⟨first, hfirst, others, hmore, rfl⟩ := h
    -- the comma, the next key and its value
    have hstep : run (.idle, .complete v (.object front k :: stack))
        (44 :: (style.gap (level + 1) ++ quoteText style.ensureAscii key ++ 58 :: 32 :: first ++ others) ++
          (style.newline level ++ 125 :: rest)) =
        run (.idle, .complete w (.object (front ++ [(k, v)]) key :: stack))
          (others ++ (style.newline level ++ 125 :: rest)) := by
      rw [List.cons_append, run_cons_ok (t := (.idle, .key false (putField k v front) stack)) rfl,
        putField_of_nodup hkeys]
      simp only [List.append_assoc, List.cons_append]
      rw [run_gap, run_dumpField hkey hw hfirst false (separated_dumpFields hmore rest w)]
    have hkeys' : ((front ++ [(k, v)] ++ (key, w) :: fields).map Prod.fst).Nodup := by
      rw [← List.append_cons]
      exact hkeys
    rw [hstep, ih hothers hrest hkeys' hmore, ← List.append_cons]

/-- What is written is read back. -/
theorem Readable.readsBack (h : Readable v) (style : DumpStyle) : ReadsBack style v := by
  induction h with
  | null =>
    intro level text htext parser stack rest hawaits _
    simp only [dump, Option.some.injEq] at htext
    rw [← htext]
    exact run_word .null hawaits rest
  | bool b =>
    intro level text htext parser stack rest hawaits _
    simp only [dump, Option.some.injEq] at htext
    rw [← htext]
    cases b
    · exact run_word .false hawaits rest
    · exact run_word .true hawaits rest
  | int n =>
    intro level text htext parser stack rest hawaits hseparated
    -- a number ends only at what stands behind it
    obtain ⟨c, rest', rfl, hc⟩ := hseparated
    simp only [dump, dumpInt, Option.ite_none_right_eq_some, Option.some.injEq] at htext
    rw [← htext.2, run_intText htext.1 hc]
    exact run_of_scalar hawaits _ _
  | float q =>
    intro level text htext parser stack rest hawaits hseparated
    obtain ⟨c, rest', rfl, hc⟩ := hseparated
    rw [dump] at htext
    rw [style.floats.reads htext hc]
    exact run_of_scalar hawaits _ _
  | nan =>
    intro level text htext parser stack rest hawaits _
    simp only [dump, Option.some.injEq] at htext
    rw [← htext]
    exact run_word .nan hawaits rest
  | infinity negative =>
    intro level text htext parser stack rest hawaits _
    simp only [dump, Option.some.injEq] at htext
    rw [← htext]
    cases negative
    · exact run_word .infinity hawaits rest
    · exact run_word .minusInfinity hawaits rest
  | @string s hscalars =>
    intro level text htext parser stack rest hawaits _
    simp only [dump, Option.some.injEq] at htext
    have hfeed : parser.feed (.text s) = .ok (.complete (.string s) stack) := hawaits _ (nomatch ·)
    rw [← htext, run_quoteText hscalars style.ensureAscii hfeed]
  | @array items _ ih =>
    intro level text htext parser stack rest hawaits _
    have hfeed : parser.feed .openArray = .ok (.first stack) := hawaits _ (nomatch ·)
    have hopen : scan (.idle, parser) 91 = .ok (.idle, .first stack) := by
      change (parser.feed .openArray).map (Lexer.idle, ·) = _
      rw [hfeed]
      rfl
    cases items with
    | nil =>
      simp only [dump, Option.some.injEq] at htext
      rw [← htext, List.cons_append, run_cons_ok hopen, List.singleton_append,
        run_cons_ok (t := (.idle, .complete (.array []) stack)) rfl]
    | cons v items =>
      obtain ⟨hv, hitems⟩ := List.forall_mem_cons.1 ih
      simp only [dump, Option.bind_eq_bind, Option.bind_eq_some_iff, Option.pure_def, Option.some.injEq] at htext
      obtain ⟨first, hfirst, others, hmore, rfl⟩ := htext
      simp only [List.append_assoc, List.cons_append, List.nil_append]
      rw [run_cons_ok hopen, run_newline, hv hfirst (awaits_first stack) (separated_dumpItems hmore rest v),
        run_dumpItems hitems hmore]
      rfl
  | @object fields hkeys hscalars _ ih =>
    intro level text htext parser stack rest hawaits _
    have hfeed : parser.feed .openObject = .ok (.key true [] stack) := hawaits _ (nomatch ·)
    have hopen : scan (.idle, parser) 123 = .ok (.idle, .key true [] stack) := by
      change (parser.feed .openObject).map (Lexer.idle, ·) = _
      rw [hfeed]
      rfl
    cases fields with
    | nil =>
      simp only [dump, Option.some.injEq] at htext
      rw [← htext, List.cons_append, run_cons_ok hopen, List.singleton_append,
        run_cons_ok (t := (.idle, .complete (.object []) stack)) rfl]
    | cons field fields =>
      obtain ⟨k, v⟩ := field
      obtain ⟨hv, hfields⟩ := List.forall_mem_cons.1 ih
      obtain ⟨hkey, hothers⟩ := List.forall_mem_cons.1 hscalars
      simp only [dump, Option.bind_eq_bind, Option.bind_eq_some_iff, Option.pure_def, Option.some.injEq] at htext
      obtain ⟨first, hfirst, others, hmore, rfl⟩ := htext
      simp only [List.append_assoc, List.cons_append, List.nil_append]
      rw [run_cons_ok hopen, run_newline, run_dumpField hkey hv hfirst true (separated_dumpFields hmore rest v),
        run_dumpFields hfields hothers hkeys hmore]
      rfl

/-- A text that was written is read back, whatever the style. -/
theorem loads_dump (h : Readable v) (hnumber : Separated v []) (htext : dump style level v = some text) :
    loads text = .ok v := by
  have hrun := h.readsBack style htext (awaits_value []) hnumber
  rw [List.append_nil] at hrun
  rw [loads, hrun]
  rfl

end Values

/-! ### Files -/

/-- `json.dump` to a file that is opened as UTF-8; `none` is an exception, after which the file is cut off. -/
def writeJson (style : DumpStyle) (v : JsonValue) : Option (List Nat) := (dump style 0 v).bind encodeUtf8

/-- `json.load` from a file that is opened in text mode; `none` is an exception. -/
def readJson (bytes : List Nat) : Option JsonValue :=
  (decodeUtf8 bytes).bind fun text => (loads (universalNewlines text)).toOption

section Files

variable {style : DumpStyle} {level c : Nat} {v : JsonValue} {s text : CodePoints} {bytes : List Nat}
  {items : List JsonValue} {fields : List (CodePoints × JsonValue)}

/-- Universal newlines change nothing in a text without carriage returns. -/
theorem universalNewlines_eq_self (h : 13 ∉ s) : universalNewlines s = s := by
  induction s with
  | nil => rfl
  | cons c s ih =>
    rw [List.mem_cons, not_or] at h
    rw [universalNewlines, ih h.2]
    · intro _ hc
      exact absurd hc.symm h.1
    · exact fun hc => h.1 hc.symm

/-- No control character, but for the line breaks of an indented text. -/
def DumpStyle.Prints (style : DumpStyle) (c : Nat) : Prop := 32 ≤ c ∨ c = 10 ∧ style.indent.isSome

theorem prints_of_mem_decimal {n : Nat} (h : c ∈ decimal n) : style.Prints c := by
  have hdigit := isDigit_of_mem_decimal h
  simp only [isDigit, Bool.and_eq_true, decide_eq_true_eq] at hdigit
  exact .inl (by omega)

theorem prints_of_mem_unicodeEscape {d : Nat} (h : c ∈ unicodeEscape d) : style.Prints c := by
  have hdigit : ∀ d, 32 ≤ hexDigit d := by
    intro d
    unfold hexDigit
    split <;> omega
  simp only [unicodeEscape, List.mem_cons, List.not_mem_nil, or_false] at h
  rcases h with rfl | rfl | rfl | rfl | rfl | rfl
  · exact .inl (by decide)
  · exact .inl (by decide)
  all_goals exact .inl (hdigit _)

theorem prints_of_mem_escapeChar {ensureAscii : Bool} {d : Nat} (h : c ∈ escapeChar ensureAscii d) :
    style.Prints c := by
  cases hshort : shortEscape? d with
  | some letter =>
    obtain ⟨l, l', hsplit, -⟩ := List.lookup_eq_some_iff.1 hshort
    have hletter : (d, letter) ∈ [(34, 34), (92, 92), (10, 110), (13, 114), (9, 116), (12, 102), (8, 98)] := by
      simp [hsplit]
    have hlow : 32 ≤ letter := by
      simp only [List.mem_cons, Prod.mk.injEq, List.not_mem_nil, or_false] at hletter
      omega
    simp only [escapeChar, hshort, List.mem_cons, List.not_mem_nil, or_false] at h
    rcases h with rfl | rfl
    · exact .inl (by decide)
    · exact .inl hlow
  | none =>
    simp only [escapeChar, hshort] at h
    split at h
    · exact prints_of_mem_unicodeEscape h
    · next hlow =>
      split at h
      · split at h
        · exact prints_of_mem_unicodeEscape h
        · rcases List.mem_append.1 h with h | h <;> exact prints_of_mem_unicodeEscape h
      · rw [List.mem_singleton.1 h]
        exact .inl (Nat.not_lt.1 hlow)

theorem prints_of_mem_quoteText {ensureAscii : Bool} (h : c ∈ quoteText ensureAscii s) : style.Prints c := by
  simp only [quoteText, List.mem_cons, List.mem_append, List.mem_flatMap, List.not_mem_nil, or_false] at h
  rcases h with rfl | ⟨d, -, hd⟩ | rfl
  · exact .inl (by decide)
  · exact prints_of_mem_escapeChar hd
  · exact .inl (by decide)

theorem prints_of_mem_newline (h : c ∈ style.newline level) : style.Prints c := by
  cases hindent : style.indent with
  | none => simp [DumpStyle.newline, hindent] at h
  | some n =>
    simp only [DumpStyle.newline, hindent, List.mem_cons] at h
    rcases h with rfl | h
    · exact .inr ⟨rfl, by rw [hindent]; rfl⟩
    · rw [List.eq_of_mem_replicate h]
      exact .inl le_rfl

theorem prints_of_mem_gap (h : c ∈ style.gap level) : style.Prints c := by
  cases hindent : style.indent with
  | none =>
    simp only [DumpStyle.gap, hindent, List.mem_singleton] at h
    exact .inl (Nat.le_of_eq h.symm)
  | some n =>
    simp only [DumpStyle.gap, hindent] at h
    exact prints_of_mem_newline h

theorem prints_dumpItems
    (hitems : ∀ w ∈ items, ∀ {level text}, dump style level w = some text → ∀ c ∈ text, style.Prints c)
    (h : dumpItems style level items = some text) : ∀ c ∈ text, style.Prints c := by
  induction items generalizing text with
  | nil =>
    simp only [dumpItems, Option.some.injEq] at h
    simp [← h]
  | cons w items ih =>
    obtain ⟨hw, hothers⟩ := List.forall_mem_cons.1 hitems
    simp only [dumpItems, Option.bind_eq_bind, Option.bind_eq_some_iff, Option.pure_def, Option.some.injEq] at h
    obtain ⟨first, hfirst, others, hmore, rfl⟩ := h
    simp only [List.forall_mem_cons, List.forall_mem_append]
    exact ⟨.inl (by decide), ⟨fun _ => prints_of_mem_gap, hw hfirst⟩, ih hothers hmore⟩

theorem prints_dumpFields
    (hfields : ∀ field ∈ fields, ∀ {level text}, dump style level field.2 = some text → ∀ c ∈ text, style.Prints c)
    (h : dumpFields style level fields = some text) : ∀ c ∈ text, style.Prints c := by
  induction fields generalizing text with
  | nil =>
    simp only [dumpFields, Option.some.injEq] at h
    simp [← h]
  | cons field fields ih =>
    obtain ⟨k, w⟩ := field
    obtain ⟨hw, hothers⟩ := List.forall_mem_cons.1 hfields
    simp only [dumpFields, Option.bind_eq_bind, Option.bind_eq_some_iff, Option.pure_def, Option.some.injEq] at h
    obtain ⟨first, hfirst, others, hmore, rfl⟩ := h
    simp only [List.forall_mem_cons, List.forall_mem_append]
    exact ⟨.inl (by decide), ⟨⟨fun _ => prints_of_mem_gap, fun _ => prints_of_mem_quoteText⟩, .inl (by decide),
      .inl (by decide), hw hfirst⟩, ih hothers hmore⟩

/-- No control character is written. -/
theorem Readable.prints (h : Readable v) (htext : dump style level v = some text) : ∀ c ∈ text, style.Prints c := by
  induction h generalizing level text with
  | null | nan =>
    simp only [dump, Option.some.injEq] at htext
    rw [← htext]
    exact fun c hc => .inl ((by decide : ∀ c ∈ _, 32 ≤ c) c hc)
  | bool b | infinity b =>
    simp only [dump, Option.some.injEq] at htext
    rw [← htext]
    cases b <;> exact fun c hc => .inl ((by decide : ∀ c ∈ _, 32 ≤ c) c hc)
  | int n =>
    simp only [dump, dumpInt, intText, Option.ite_none_right_eq_some, Option.some.injEq] at htext
    rw [← htext.2]
    split
    · exact List.forall_mem_cons.2 ⟨.inl (by decide), fun _ => prints_of_mem_decimal⟩
    · exact fun _ => prints_of_mem_decimal
  | float q =>
    rw [dump] at htext
    exact fun c hc => .inl (style.floats.printable htext c hc)
  | @string s _ =>
    simp only [dump, Option.some.injEq] at htext
    rw [← htext]
    exact fun _ => prints_of_mem_quoteText
  | @array items _ ih =>
    cases items with
    | nil =>
      simp only [dump, Option.some.injEq] at htext
      rw [← htext]
      exact fun c hc => .inl ((by decide : ∀ c ∈ _, 32 ≤ c) c hc)
    | cons v items =>
      obtain ⟨hv, hitems⟩ := List.forall_mem_cons.1 ih
      simp only [dump, Option.bind_eq_bind, Option.bind_eq_some_iff, Option.pure_def, Option.some.injEq] at htext
      obtain ⟨first, hfirst, others, hmore, rfl⟩ := htext
      simp only [List.forall_mem_cons, List.forall_mem_append]
      exact ⟨.inl (by decide), ⟨⟨⟨fun _ => prints_of_mem_newline, hv hfirst⟩, prints_dumpItems hitems hmore⟩,
        fun _ => prints_of_mem_newline⟩, .inl (by decide), List.forall_mem_nil _⟩
  | @object fields _ _ _ ih =>
    cases fields with
    | nil =>
      simp only [dump, Option.some.injEq] at htext
      rw [← htext]
      exact fun c hc => .inl ((by decide : ∀ c ∈ _, 32 ≤ c) c hc)
    | cons field fields =>
      obtain ⟨k, v⟩ := field
      obtain ⟨hv, hfields⟩ := List.forall_mem_cons.1 ih
      simp only [dump, Option.bind_eq_bind, Option.bind_eq_some_iff, Option.pure_def, Option.some.injEq] at htext
      obtain ⟨first, hfirst, others, hmore, rfl⟩ := htext
      simp only [List.forall_mem_cons, List.forall_mem_append]
      exact ⟨.inl (by decide), ⟨⟨⟨⟨fun _ => prints_of_mem_newline, fun _ => prints_of_mem_quoteText⟩, .inl (by decide),
        .inl (by decide), hv hfirst⟩, prints_dumpFields hfields hmore⟩, fun _ => prints_of_mem_newline⟩,
        .inl (by decide), List.forall_mem_nil _⟩

/-- No carriage return is written. -/
theorem Readable.not_mem (h : Readable v) (htext : dump style level v = some text) : 13 ∉ text := by
  intro hmem
  rcases h.prints htext 13 hmem with hlow | ⟨hbreak, -⟩
  · omega
  · omega

/-- A text without an indent has one line. -/
theorem Readable.oneLine (h : Readable v) (hindent : style.indent = none) (htext : dump style level v = some text) :
    10 ∉ text := by
  intro hmem
  rcases h.prints htext 10 hmem with hlow | ⟨-, hsome⟩
  · omega
  · simp [hindent] at hsome

/-- A file that was written is read back. -/
theorem readJson_writeJson (h : Readable v) (hnumber : Separated v []) (hbytes : writeJson style v = some bytes) :
    readJson bytes = some v := by
  obtain ⟨text, htext, hencoded⟩ := Option.bind_eq_some_iff.1 hbytes
  rw [readJson, decodeUtf8_encodeUtf8 hencoded, Option.bind_some, universalNewlines_eq_self (h.not_mem htext),
    loads_dump h hnumber htext]
  rfl

end Files

/-! ### Whole numbers as floats -/

/-- Floats that are whole numbers below `10 ^ 16`, which are written with one decimal. -/
def wholeFloats : FloatRepr where
  text q := if q.den = 1 ∧ 0 ≤ q.num ∧ q.num < 10 ^ 16 then some (decimal q.num.natAbs ++ [46, 48]) else none
  reads := by
    intro q s h c hc rest parser
    simp only [Option.ite_none_right_eq_some, Option.some.injEq] at h
    obtain ⟨⟨hden, hnum, hlt⟩, rfl⟩ := h
    have hlength : (decimal q.num.natAbs).length ≤ 4300 := by
      have hdigits : (Nat.toDigits 10 q.num.natAbs).length ≤ 16 :=
        (Nat.length_toDigits_le_iff (by decide) (by decide)).2 (by omega)
      rw [decimal, List.length_map]
      omega
    have hvalue : ((10 * q.num.natAbs + (48 - 48) : Nat) : Rat) / 10 = q := by
      have hnat : ((q.num.natAbs : Nat) : Int) = q.num := by omega
      have hwhole : ((q.num.natAbs : Nat) : Rat) = q := by
        rw [← Int.cast_natCast, hnat, Rat.coe_int_num_of_den_eq_one hden]
      rw [Nat.sub_self, Nat.add_zero, Nat.cast_mul, hwhole, Nat.cast_ofNat, mul_div_cancel_left₀ q (by decide)]
    rw [List.append_assoc, List.cons_append, List.cons_append, List.nil_append,
      run_decimal (numeral_decimal hlength) rfl hc, numeralValue_decimal, hvalue]
  printable := by
    intro q s h c hc
    simp only [Option.ite_none_right_eq_some, Option.some.injEq] at h
    rw [← h.2] at hc
    simp only [List.mem_append, List.mem_cons, List.not_mem_nil, or_false] at hc
    rcases hc with hc | rfl | rfl
    · have hdigit := isDigit_of_mem_decimal hc
      simp only [isDigit, Bool.and_eq_true, decide_eq_true_eq] at hdigit
      omega
    · decide
    · decide

end OperatingOrganism.JsonText

import Mathlib.Algebra.Order.BigOperators.Group.List
import OperatingOrganism.Library.JsonText

/-!
# How much a text can hold

What the decoder holds is never longer than what it has read, where a character that needs an escape counts twice
(`weight_run_le`); so a string is shorter than the text that it was read from, and shorter still if it has such
characters (`weight_le_of_loads`). A quote, a comma and a quoted key can only be read inside of a string, and they end
it (`run_closing`).
-/

set_option autoImplicit false

namespace OperatingOrganism.JsonText

/-! ### Weights -/

/-- A quote, a backslash and a control character need an escape. -/
def charWeight (c : Nat) : Nat := if Plain c then 1 else 2

def textWeight (s : CodePoints) : Nat := (s.map charWeight).sum

/-- The weight of a string; of other values in a field nothing is counted. -/
def fieldWeight : JsonValue → Nat
  | .string s => textWeight s + 2
  | _ => 0

def fieldsWeight (fields : List (CodePoints × JsonValue)) : Nat :=
  (fields.map fun field => textWeight field.1 + 3 + fieldWeight field.2).sum

def valueWeight : JsonValue → Nat
  | .string s => textWeight s + 2
  | .object fields => 1 + fieldsWeight fields
  | _ => 0

def Frame.weight : Frame → Nat
  | .array _ => 0
  | .object fields key => 1 + fieldsWeight fields + textWeight key + 3

def stackWeight (stack : List Frame) : Nat := (stack.map Frame.weight).sum

def Parser.weight : Parser → Nat
  | .value stack => stackWeight stack
  | .first stack => stackWeight stack
  | .key _ fields stack => 1 + fieldsWeight fields + stackWeight stack
  | .colon fields k stack => 1 + fieldsWeight fields + textWeight k + 2 + stackWeight stack
  | .complete v stack => valueWeight v + stackWeight stack

/-- At most the number of characters of the token. -/
def Token.weight : Token → Nat
  | .text s => textWeight s + 2
  | .openObject => 1
  | .colon => 1
  | .scalar v => valueWeight v
  | _ => 0

def Lexer.weight : Lexer → Nat
  | .idle => 0
  | .text s _ => textWeight s + 1
  -- the backslash counts, as what it escapes may count twice
  | .escape s _ => textWeight s + 2
  | .unicode s _ _ _ => textWeight s + 2
  | .number _ => 0
  | .word _ _ => 0

def weight (st : Decoder) : Nat := st.1.weight + st.2.weight

theorem charWeight_le (c : Nat) : charWeight c ≤ 2 := by
  unfold charWeight
  split <;> decide

@[simp] theorem textWeight_append (s t : CodePoints) : textWeight (s ++ t) = textWeight s + textWeight t := by
  simp [textWeight]

@[simp] theorem textWeight_singleton (c : Nat) : textWeight [c] = charWeight c := by
  simp [textWeight]

theorem textWeight_dropLast_le (s : CodePoints) : textWeight s.dropLast ≤ textWeight s := by
  rcases s.eq_nil_or_concat with rfl | ⟨t, c, rfl⟩
  · exact le_rfl
  · simp

theorem length_le_textWeight (s : CodePoints) : s.length ≤ textWeight s := by
  induction s with
  | nil => exact le_rfl
  | cons c s ih =>
    have hc : 1 ≤ charWeight c := by
      unfold charWeight
      split <;> decide
    rw [← List.singleton_append, textWeight_append, textWeight_singleton, List.length_append, List.length_singleton]
    exact Nat.add_le_add hc ih

/-- Others make a string heavier than it is long. -/
theorem length_lt_textWeight {s : CodePoints} (h : ∃ c ∈ s, ¬ Plain c) : s.length < textWeight s := by
  obtain ⟨c, hc, hnot⟩ := h
  obtain ⟨x, y, rfl⟩ := List.append_of_mem hc
  have hx := length_le_textWeight x
  have hy := length_le_textWeight y
  rw [List.append_cons, textWeight_append, textWeight_append, textWeight_singleton, charWeight, if_neg hnot,
    List.length_append, List.length_append, List.length_singleton]
  omega

theorem valueWeight_object (fields : List (CodePoints × JsonValue)) :
    valueWeight (.object fields) = 1 + fieldsWeight fields := rfl

theorem valueWeight_array (items : List JsonValue) : valueWeight (.array items) = 0 := rfl

theorem fieldWeight_le (v : JsonValue) : fieldWeight v ≤ valueWeight v := by
  cases v <;> simp [fieldWeight, valueWeight]

/-! ### The weight of what is read -/

theorem fieldsWeight_putField_le (key : CodePoints) (v : JsonValue) (fields : List (CodePoints × JsonValue)) :
    fieldsWeight (putField key v fields) ≤ fieldsWeight fields + textWeight key + 3 + fieldWeight v := by
  induction fields with
  | nil => simp [putField, fieldsWeight, Nat.add_assoc]
  | cons field fields ih =>
    obtain ⟨k, w⟩ := field
    simp only [putField]
    split
    · next hk =>
      simp only [fieldsWeight, List.map_cons, List.sum_cons, hk]
      omega
    · simp only [fieldsWeight, List.map_cons, List.sum_cons] at ih ⊢
      omega

theorem weight_take_le {stack : List Frame} {t : Token} {parser : Parser} (h : Parser.take stack t = .ok parser) :
    parser.weight ≤ stackWeight stack + t.weight := by
  cases t <;> simp only [Parser.take, Except.ok.injEq, reduceCtorEq] at h <;> subst h <;>
    simp [Parser.weight, Token.weight, valueWeight, fieldsWeight] <;> omega

@[simp] theorem stackWeight_cons (frame : Frame) (stack : List Frame) :
    stackWeight (frame :: stack) = frame.weight + stackWeight stack := by
  simp [stackWeight]

theorem weight_feed_le {parser parser' : Parser} {t : Token} (h : parser.feed t = .ok parser') :
    parser'.weight ≤ parser.weight + t.weight := by
  unfold Parser.feed at h
  split at h
  · exact weight_take_le h
  · cases h
    simp [Parser.weight, valueWeight]
  · -- the array is open and holds nothing
    have htake := weight_take_le h
    rw [stackWeight_cons] at htake
    simpa [Parser.weight, Frame.weight] using htake
  · cases h
    simp only [Parser.weight, Token.weight]
    omega
  · cases h
    simp only [Parser.weight, valueWeight, Token.weight, fieldsWeight, List.map_nil, List.sum_nil]
    omega
  · cases h
    simp only [Parser.weight, stackWeight_cons, Frame.weight, Token.weight]
    omega
  · cases h
    simp only [Parser.weight, stackWeight_cons, Frame.weight]
    omega
  · cases h
    simp only [Parser.weight, stackWeight_cons, Frame.weight, valueWeight_array]
    omega
  · -- a field is complete
    next v fields key stack =>
    cases h
    have hput := fieldsWeight_putField_le key v fields
    have hfield := fieldWeight_le v
    simp only [Parser.weight, stackWeight_cons, Frame.weight, Token.weight]
    omega
  · next v fields key stack =>
    cases h
    have hput := fieldsWeight_putField_le key v fields
    have hfield := fieldWeight_le v
    simp only [Parser.weight, stackWeight_cons, Frame.weight, Token.weight, valueWeight_object]
    omega
  · cases h

theorem weight_mantissa (m : Mantissa) : m.token.weight = 0 := by
  unfold Mantissa.token
  split
  · rfl
  · split <;> rfl

theorem weight_word (w : Word) : (Token.scalar w.value).weight = 0 := by
  cases w <;> rfl

/-- The end of a number holds nothing more. -/
theorem weight_ends_le {n : NumberState} {parser parser' : Parser} (h : n.ends parser = .ok parser') :
    parser'.weight ≤ parser.weight := by
  have hdead : ∀ m : Mantissa, (parser.feed m.token >>= fun _ => (.error .decode : Except LoadError Parser)) ≠
      .ok parser' := by
    intro m hbind
    obtain ⟨_, -, herror⟩ := bind_eq_ok.1 hbind
    cases herror
  cases n with
  | minus => cases h
  | mantissa m =>
    have hfeed := weight_feed_le h
    rwa [weight_mantissa] at hfeed
  | point m => exact absurd h (hdead m)
  | exponent m => exact absurd h (hdead m)
  | exponentSign m negative => exact absurd h (hdead m)
  | exponentDigits m negative digits => exact weight_feed_le h

theorem weight_feed_idle_le {parser : Parser} {t : Token} {st : Decoder}
    (h : (parser.feed t).map (Lexer.idle, ·) = .ok st) : weight st ≤ parser.weight + t.weight := by
  obtain ⟨parser', hfeed, rfl⟩ := map_idle_eq_ok h
  simpa [weight, Lexer.weight] using weight_feed_le hfeed

theorem weight_scanIdle_le {parser : Parser} {c : Nat} {st : Decoder} (h : scanIdle parser c = .ok st) :
    weight st ≤ parser.weight + 1 := by
  unfold scanIdle at h
  split_ifs at h
  · cases h
    simp [weight, Lexer.weight]
  · cases h
    simp [weight, Lexer.weight, textWeight, Nat.add_comm]
  · cases h
    simp [weight, Lexer.weight]
  · cases h
    simp [weight, Lexer.weight]
  · rcases hpunctuation : punctuation? c with _ | t
    · rcases hword : word? c with _ | w
      · simp only [hpunctuation, hword, reduceCtorEq] at h
      · simp only [hpunctuation, hword, Except.ok.injEq] at h
        rw [← h]
        simp [weight, Lexer.weight]
    · simp only [hpunctuation] at h
      have hone : t.weight ≤ 1 := by
        unfold punctuation? at hpunctuation
        split_ifs at hpunctuation <;> cases hpunctuation <;> decide
      exact (weight_feed_idle_le h).trans (Nat.add_le_add_left hone _)

theorem weight_appendCode_le (s : CodePoints) (high : Option Nat) (code : Nat) :
    (appendCode s high code).weight ≤ textWeight s + 3 := by
  have happend : ∀ c : Nat, textWeight (s ++ [c]) + 1 ≤ textWeight s + 3 := by
    intro c
    rw [textWeight_append, textWeight_singleton]
    have hc := charWeight_le c
    omega
  unfold appendCode
  split
  · split
    · next hi _ =>
      rw [Lexer.weight, textWeight_append, textWeight_singleton]
      have hdrop := textWeight_dropLast_le s
      have hc := charWeight_le (0x10000 + (hi - 0xd800) * 0x400 + (code - 0xdc00))
      omega
    · exact happend code
  · exact happend code

/-- A character adds at most one. -/
theorem weight_scan_le {st st' : Decoder} {c : Nat} (h : scan st c = .ok st') : weight st' ≤ weight st + 1 := by
  obtain ⟨lexer, parser⟩ := st
  cases lexer with
  | idle =>
    have hidle := weight_scanIdle_le h
    simpa [weight, Lexer.weight] using hidle
  | text s high =>
    simp only [scan] at h
    split_ifs at h with hquote hbackslash hlow
    · have hfeed := weight_feed_idle_le h
      simp only [weight, Lexer.weight, Token.weight] at hfeed ⊢
      omega
    · cases h
      simp only [weight, Lexer.weight]
      omega
    · cases h
      -- what is accepted without an escape counts once
      have hplain : Plain c := ⟨Nat.not_lt.1 hlow, hquote, hbackslash⟩
      simp only [weight, Lexer.weight, textWeight_append, textWeight_singleton, charWeight, if_pos hplain]
      omega
  | escape s high =>
    simp only [scan] at h
    split_ifs at h
    · cases h
      simp [weight, Lexer.weight]
    · cases hd : unescape? c with
      | none =>
        rw [hd] at h
        cases h
      | some d =>
        rw [hd] at h
        cases h
        -- two characters were read for it
        have hweight := charWeight_le d
        simp only [weight, Lexer.weight, textWeight_append, textWeight_singleton]
        omega
  | unicode s high left code =>
    simp only [scan] at h
    cases hd : hexDigit? c with
    | none =>
      rw [hd] at h
      cases h
    | some d =>
      simp only [hd] at h
      split_ifs at h
      · cases h
        -- the six characters of the escape make one, or complete one
        have hcode := weight_appendCode_le s high (16 * code + d)
        simp only [weight, Lexer.weight] at hcode ⊢
        omega
      · cases h
        simp [weight, Lexer.weight]
  | number n =>
    rcases scan_number_cases h with ⟨n', -, rfl⟩ | ⟨-, rfl⟩ | ⟨parser', hends, hidle⟩
    · simp [weight, Lexer.weight]
    · simp [weight, Lexer.weight]
    · -- the number is fed, and the character is the next
      have hend := weight_ends_le hends
      have hnext := weight_scanIdle_le hidle
      simp only [weight, Lexer.weight] at hnext ⊢
      omega
  | word w seen =>
    simp only [scan] at h
    split_ifs at h
    · have hfeed := weight_feed_idle_le h
      rw [weight_word] at hfeed
      simp only [weight, Lexer.weight] at hfeed ⊢
      omega
    · cases h
      simp [weight, Lexer.weight]

/-- What is held after a text. -/
theorem weight_run_le {st st' : Decoder} {s : CodePoints} (h : run st s = .ok st') :
    weight st' ≤ weight st + s.length := by
  induction s generalizing st with
  | nil =>
    cases h
    exact le_rfl
  | cons c s ih =>
    obtain ⟨mid, hc, hs⟩ := run_cons_eq_ok h
    have hfirst := weight_scan_le hc
    have hothers := ih hs
    rw [List.length_cons]
    omega

/-- A string in a field of the outermost value. -/
theorem weight_field_le {fields : List (CodePoints × JsonValue)} {key s : CodePoints}
    (h : (JsonValue.object fields).field? key = some (.string s)) :
    textWeight key + textWeight s + 5 ≤ fieldsWeight fields := by
  obtain ⟨field, hfind, hvalue⟩ := Option.map_eq_some_iff.1 h
  have hkey : field.1 = key := by simpa using List.find?_some hfind
  have hmem : field ∈ fields := List.mem_of_find?_eq_some hfind
  have hle := List.le_sum_of_mem
    (List.mem_map_of_mem (f := fun field => textWeight field.1 + 3 + fieldWeight field.2) hmem)
  have hstring : fieldWeight (.string s) = textWeight s + 2 := rfl
  rw [hkey, hvalue, hstring, ← fieldsWeight] at hle
  omega

theorem weight_finish_le {st : Decoder} {v : JsonValue} (h : finish st = .ok v) : valueWeight v ≤ weight st := by
  have hresult : ∀ {parser : Parser}, parser.result = .ok v → valueWeight v ≤ parser.weight := by
    intro parser hparser
    unfold Parser.result at hparser
    split at hparser
    · cases hparser
      exact Nat.le_add_right _ _
    · cases hparser
  unfold finish at h
  split at h
  · exact (hresult h).trans (Nat.le_add_left _ _)
  · next n parser =>
    obtain ⟨parser', hends, hparser⟩ := bind_eq_ok.1 h
    exact (hresult hparser).trans ((weight_ends_le hends).trans (Nat.le_add_left _ _))
  · cases h

/-- A string in a field is lighter than the text by the key and the punctuation. -/
theorem weight_le_of_loads {text key s : CodePoints} {v : JsonValue} (h : loads text = .ok v)
    (hs : v.field? key = some (.string s)) : textWeight key + textWeight s + 6 ≤ text.length := by
  obtain ⟨st, hrun, hfinish⟩ := loads_eq_ok h
  have hread := weight_run_le hrun
  have hheld := weight_finish_le hfinish
  cases v with
  | object fields =>
    have hfield := weight_field_le hs
    rw [valueWeight_object] at hheld
    simp only [weight, Lexer.weight, Parser.weight, stackWeight, List.map_nil, List.sum_nil] at hread hheld
    omega
  | _ => cases hs

/-! ### Crossing the end of a string -/

/-- A quote ends a string, or is in one or begins one. -/
theorem scan_quote_cases {st st' : Decoder} (h : scan st 34 = .ok st') :
    (∃ s high parser parser', st = (.text s high, parser) ∧ parser.feed (.text s) = .ok parser' ∧
      st' = (.idle, parser')) ∨ ∃ s parser, st' = (.text s none, parser) := by
  obtain ⟨lexer, parser⟩ := st
  cases lexer with
  | idle =>
    cases h
    exact .inr ⟨_, _, rfl⟩
  | text s high =>
    rw [scan_text_quote] at h
    obtain ⟨parser', hfeed, rfl⟩ := map_idle_eq_ok h
    exact .inl ⟨s, high, parser, parser', rfl, hfeed, rfl⟩
  | escape s high =>
    cases h
    exact .inr ⟨_, _, rfl⟩
  -- a quote is no hexadecimal digit
  | unicode s high left code => cases h
  | number n =>
    rcases scan_number_cases h with ⟨n', hstep, -⟩ | ⟨hc, -⟩ | ⟨parser', -, hidle⟩
    · -- and belongs to no number
      cases n <;> simp [NumberState.step, isDigit] at hstep
    · cases hc
    · cases hidle
      exact .inr ⟨_, _, rfl⟩
  | word w seen =>
    have hno : w.text[seen]? ≠ some 34 := by
      intro hseen
      -- nor to a word
      have hmem : 34 ∈ w.text := List.mem_of_getElem? hseen
      revert hmem
      cases w <;> decide
    simp only [scan, if_neg hno] at h
    cases h

/-- A string, a comma, a string and a colon: the first is the value of a field, the second the next key. -/
theorem feed_field_cases {parser p₁ p₂ p₃ p₄ : Parser} {s key : CodePoints} (h₁ : parser.feed (.text s) = .ok p₁)
    (h₂ : p₁.feed .comma = .ok p₂) (h₃ : p₂.feed (.text key) = .ok p₃) (h₄ : p₃.feed .colon = .ok p₄) :
    ∃ fields k stack, parser = .value (.object fields k :: stack) ∧
      p₄ = .value (.object (putField k (.string s) fields) key :: stack) := by
  -- the comma excludes a key, the colon an array
  cases parser with
  | value stack =>
    cases h₁
    rcases stack with _ | ⟨items | ⟨fields, k⟩, stack⟩
    · cases h₂
    · cases h₂
      cases h₃
      cases stack <;> cases h₄
    · cases h₂
      cases h₃
      cases h₄
      exact ⟨fields, k, stack, rfl, rfl⟩
  | first stack =>
    cases h₁
    cases h₂
    cases h₃
    cases h₄
  | key isFirst fields stack =>
    cases h₁
    cases h₂
  | colon fields k stack => cases h₁
  | complete v stack => rcases stack with _ | ⟨items | ⟨fields, k⟩, stack⟩ <;> cases h₁

/-- A quote, a comma and a quoted key whose first character begins no token: the quote ends a string that is the value
of a field. -/
theorem run_closing {st st' : Decoder} {c : Nat} {key rest : CodePoints} (hkey : ∀ d ∈ c :: key, Plain d)
    (hc : ∀ parser, scanIdle parser c = .error .decode)
    (h : run st (34 :: 44 :: 34 :: ((c :: key) ++ 34 :: 58 :: rest)) = .ok st') :
    ∃ s high fields k stack, st = (.text s high, .value (.object fields k :: stack)) ∧
      run (.idle, .value (.object (putField k (.string s) fields) (c :: key) :: stack)) rest = .ok st' := by
  obtain ⟨st₁, hquote, h⟩ := run_cons_eq_ok h
  obtain ⟨st₂, hcomma, h⟩ := run_cons_eq_ok h
  obtain ⟨st₃, hopen, h⟩ := run_cons_eq_ok h
  rcases scan_quote_cases hquote with ⟨s, high, parser, p₁, rfl, h₁, rfl⟩ | ⟨s, parser, rfl⟩
  · obtain ⟨p₂, h₂, rfl⟩ := map_idle_eq_ok (t := .comma) hcomma
    cases hopen
    rw [run_plain hkey] at h
    obtain ⟨st₄, hclose, h⟩ := run_cons_eq_ok h
    obtain ⟨p₃, h₃, rfl⟩ := map_idle_eq_ok hclose
    obtain ⟨st₅, hcolon, h⟩ := run_cons_eq_ok h
    obtain ⟨p₄, h₄, rfl⟩ := map_idle_eq_ok (t := .colon) hcolon
    obtain ⟨fields, k, stack, rfl, rfl⟩ := feed_field_cases h₁ h₂ h₃ h₄
    exact ⟨s, high, fields, k, stack, rfl, h⟩
  · -- the comma is in the string, and the next quote ends it
    cases hcomma
    obtain ⟨p₁, -, rfl⟩ := map_idle_eq_ok hopen
    obtain ⟨st₄, hfirst, -⟩ := run_cons_eq_ok h
    rw [scan, hc] at hfirst
    cases hfirst

end OperatingOrganism.JsonText

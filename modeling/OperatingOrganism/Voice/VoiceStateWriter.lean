import OperatingOrganism.Library.JsonText

/-!
# The voice state on the serial line

`oo_voice_state_emit` writes a line with the state of the voice, as JSON behind a prefix. The response is escaped as
far as quotes, backslashes and line feeds go, the emotion is not; numbers go through a buffer of eight bytes. A number
that fits comes out with its digits (`itoaDec_nat`), of a longer one the last digits are cut off.
-/

set_option autoImplicit false

namespace OperatingOrganism.Voice

open JsonText

/-- The characters of a C string, before the NUL. -/
structure AsciiString where
  chars : List Nat
  ascii : ∀ c ∈ chars, 0 < c ∧ c < 128

/-- The descriptor of a voice state; a string is `none` where the pointer is NULL. -/
structure OoVoiceStateEmit where
  emotion : Option AsciiString
  vortexSpeedMulX10 : UInt32
  wakePulse : UInt8
  glitch : UInt8
  inference : UInt8
  waveform : Vector UInt8 64
  response : Option AsciiString

/-! ### Numbers -/

/-- The digits in `tmp`, the last one first; there is room for eleven. -/
def tmpDigits : Nat → Nat → List Nat
  | 0, _ => []
  | room + 1, n => if n = 0 then [] else (48 + n % 10) :: tmpDigits room (n / 10)

/-- `_itoa_dec`: the bytes that are written to the buffer. A buffer of one byte gets no NUL. -/
def itoaDec (n : Int) : Nat → List Nat
  | 0 => [48]
  | 1 => [48]
  | buflen + 2 =>
    if n < 0 then 45 :: itoaDec (-n) (buflen + 1)
    else if n = 0 then [48, 0]
    -- `tmp` is copied from its end, as long as there is room for a NUL
    else (tmpDigits 11 n.toNat).reverse.take (buflen + 1) ++ [0]

/-- `_uart_puts`: the bytes that are sent, up to the NUL. -/
def uartPuts (s : List Nat) : List Nat := s.takeWhile (· ≠ 0)

/-- `_emit_f10` -/
def emitF10 (v10 : UInt32) : List Nat :=
  uartPuts (itoaDec (v10 / 10).toInt32.toInt 8) ++ [46] ++ [48 + (v10 % 10).toNat]

/-- `_itoa_dec` of a byte, and `_uart_puts`. -/
def emitByte (b : UInt8) : List Nat := uartPuts (itoaDec b.toNat 8)

/-! ### The line -/

/-- A character of the response. -/
def escapeChar (c : Nat) : List Nat :=
  if c = 92 then [92, 92]
  else if c = 34 then [92, 34]
  else if c = 10 then [92, 110]
  else [c]

/-- The loop over the waveform, from the sample with this index. -/
def emitWaveform : Nat → List UInt8 → List Nat
  | _, [] => []
  | i, sample :: samples => emitByte sample ++ (if i < 63 then [44] else []) ++ emitWaveform (i + 1) samples

/-- `e->emotion ? e->emotion : "FOCUSED"` -/
def OoVoiceStateEmit.emotionChars (e : OoVoiceStateEmit) : List Nat :=
  match e.emotion with
  | some s => s.chars
  | none => codePoints "FOCUSED"

/-- The characters of the response; there are none if the pointer is NULL. -/
def OoVoiceStateEmit.responseChars (e : OoVoiceStateEmit) : List Nat :=
  match e.response with
  | some s => s.chars
  | none => []

def emitResponse (response : List Nat) : List Nat :=
  if response = [] then []
  else codePoints ",\"response\":\"" ++ response.flatMap escapeChar ++ [34]

/-- `oo_voice_state_emit`: the bytes on the line. -/
def ooVoiceStateEmit (e : OoVoiceStateEmit) : List Nat :=
  codePoints "OO_VOICE:\x7b\"emotion\":\"" ++ e.emotionChars ++ codePoints "\",\"vortex_speed_mul\":" ++
    emitF10 e.vortexSpeedMulX10 ++ codePoints ",\"wake_pulse\":" ++ emitByte e.wakePulse ++
    codePoints ",\"glitch\":" ++ emitByte e.glitch ++ codePoints ",\"inference\":" ++
    codePoints (if e.inference ≠ 0 then "true" else "false") ++ codePoints ",\"waveform\":[" ++
    emitWaveform 0 e.waveform.toList ++ [93] ++ emitResponse e.responseChars ++ codePoints "\x7d\r\n"

/-! ### What the numbers are -/

theorem isDigit_tmpDigits (room n : Nat) : ∀ c ∈ tmpDigits room n, isDigit c = true := by
  induction room generalizing n with
  | zero => exact fun c hc => (nomatch hc)
  | succ room ih =>
    rw [tmpDigits]
    split
    · exact fun c hc => (nomatch hc)
    · refine List.forall_mem_cons.2 ⟨?_, ih _⟩
      have hmod : n % 10 < 10 := Nat.mod_lt _ (by decide)
      simp only [isDigit, Bool.and_eq_true, decide_eq_true_eq]
      omega

/-- Read back from the front, the digits give the number, if there is room. -/
theorem numeralValue_tmpDigits {room n : Nat} (h : n < 10 ^ room) : numeralValue (tmpDigits room n).reverse = n := by
  induction room generalizing n with
  | zero => exact (Nat.lt_one_iff.1 h).symm
  | succ room ih =>
    rw [tmpDigits]
    split
    · next hzero => exact hzero.symm
    · have hdiv : n / 10 < 10 ^ room := Nat.div_lt_of_lt_mul (by rwa [Nat.pow_succ'] at h)
      have hrest := ih hdiv
      rw [numeralValue] at hrest
      rw [List.reverse_cons, numeralValue, List.map_append, List.map_singleton, digitsValue_concat, hrest]
      omega

theorem length_tmpDigits_le {room n k : Nat} (h : n < 10 ^ k) : (tmpDigits room n).length ≤ k := by
  induction room generalizing n k with
  | zero => exact Nat.zero_le _
  | succ room ih =>
    rw [tmpDigits]
    split
    · exact Nat.zero_le _
    · next hnot =>
      cases k with
      | zero => exact absurd (Nat.lt_one_iff.1 h) hnot
      | succ k =>
        have hdiv : n / 10 < 10 ^ k := Nat.div_lt_of_lt_mul (by rwa [Nat.pow_succ'] at h)
        exact Nat.succ_le_succ (ih hdiv)

/-- The first digit is no zero. -/
theorem head_tmpDigits {room n : Nat} (h : n < 10 ^ room) (hn : n ≠ 0) :
    ∃ c, (tmpDigits room n).reverse.head? = some c ∧ c ≠ 48 := by
  induction room generalizing n with
  | zero => exact absurd (Nat.lt_one_iff.1 h) hn
  | succ room ih =>
    have hdiv : n / 10 < 10 ^ room := Nat.div_lt_of_lt_mul (by rwa [Nat.pow_succ'] at h)
    rw [tmpDigits, if_neg hn, List.reverse_cons]
    -- the first digit is the one that was divided last
    by_cases hrest : n / 10 = 0
    · have hnil : tmpDigits room (n / 10) = [] := by
        rw [hrest]
        cases room <;> rfl
      refine ⟨48 + n % 10, by rw [hnil]; rfl, ?_⟩
      omega
    · obtain ⟨c, hc, hne⟩ := ih hdiv hrest
      refine ⟨c, ?_, hne⟩
      rw [List.head?_append, hc]
      rfl

/-- A list of digits is below the power of ten. -/
theorem numeralValue_lt (digits : List Nat) (h : ∀ c ∈ digits, isDigit c = true) :
    numeralValue digits < 10 ^ digits.length := by
  induction digits using List.reverseRecOn with
  | nil => exact Nat.one_pos
  | append_singleton digits c ih =>
    have hc := h c (List.mem_append_right _ (List.mem_singleton_self c))
    have hrest := ih fun d hd => h d (List.mem_append_left _ hd)
    simp only [isDigit, Bool.and_eq_true, decide_eq_true_eq] at hc
    rw [numeralValue] at hrest
    rw [numeralValue, List.map_append, List.map_singleton, digitsValue_concat, List.length_append,
      List.length_singleton, Nat.pow_succ]
    omega

theorem uartPuts_eq {s : List Nat} (h : ∀ c ∈ s, isDigit c = true) : uartPuts (s ++ [0]) = s := by
  have hne : ∀ c ∈ s, decide (c ≠ 0) = true := by
    intro c hc
    have hdigit := h c hc
    simp only [isDigit, Bool.and_eq_true, decide_eq_true_eq] at hdigit ⊢
    omega
  rw [uartPuts, List.takeWhile_append_of_pos hne]
  simp

/-- A number that has at most eleven digits comes out as a number, and as the same one if it has at most seven. -/
theorem itoaDec_nat {n : Nat} (h : n < 10 ^ 11) :
    Numeral (uartPuts (itoaDec n 8)) ∧ (numeralValue (uartPuts (itoaDec n 8)) = n ↔ n < 10 ^ 7) := by
  have hneg : ¬ (n : Int) < 0 := Int.not_lt.2 (Int.natCast_nonneg n)
  rw [itoaDec, if_neg hneg, Int.toNat_natCast]
  by_cases hn : n = 0
  · subst hn
    refine ⟨⟨by decide, by decide, by decide, by decide⟩, by decide⟩
  · obtain ⟨c, hhead, hc⟩ := head_tmpDigits h hn
    have hdigits : ∀ c ∈ (tmpDigits 11 n).reverse.take 7, isDigit c = true := fun c hmem =>
      isDigit_tmpDigits 11 n c (List.mem_reverse.1 (List.mem_of_mem_take hmem))
    have hne : (tmpDigits 11 n).reverse.take 7 ≠ [] := by
      intro hnil
      rcases List.take_eq_nil_iff.1 hnil with hzero | hnil
      · cases hzero
      · rw [hnil] at hhead
        cases hhead
    rw [if_neg (Int.natCast_ne_zero.2 hn), uartPuts_eq hdigits]
    refine ⟨⟨hdigits, hne, ?_, ?_⟩, ?_, ?_⟩
    · intro hzero
      rw [List.head?_take, if_neg (by decide), hhead] at hzero
      exact absurd (Option.some.inj hzero) hc
    · exact (List.length_take_le _ _).trans (by decide)
    · intro hvalue
      have hlt := numeralValue_lt _ hdigits
      rw [hvalue] at hlt
      exact hlt.trans_le (Nat.pow_le_pow_right (by decide) (List.length_take_le _ _))
    · intro hseven
      have hlength : (tmpDigits 11 n).reverse.length ≤ 7 := by
        rw [List.length_reverse]
        exact length_tmpDigits_le hseven
      rw [List.take_of_length_le hlength, numeralValue_tmpDigits h]

end OperatingOrganism.Voice

import OperatingOrganism.Library.JsonWeight
import OperatingOrganism.Voice.VoiceStateWriter

/-!
# What is read from the line of a voice state

A line is the prefix, the emotion between the quotes, and the other fields. The decoder reads these fields as they
were written, whatever came before them, if no control character is in the response but the line feed
(`run_fields`); and it reads them only where the text before them ends inside a string (`loads_append_tail`).
-/

set_option autoImplicit false

namespace OperatingOrganism.Voice

open JsonText

/-! ### The line in two parts -/

/-- What follows the emotion and the next key. -/
def emitFields (e : OoVoiceStateEmit) : List Nat :=
  emitF10 e.vortexSpeedMulX10 ++ codePoints ",\"wake_pulse\":" ++ emitByte e.wakePulse ++
    codePoints ",\"glitch\":" ++ emitByte e.glitch ++ codePoints ",\"inference\":" ++
    codePoints (if e.inference ≠ 0 then "true" else "false") ++ codePoints ",\"waveform\":[" ++
    emitWaveform 0 e.waveform.toList ++ [93] ++ emitResponse e.responseChars ++ [125]

/-- What follows the emotion, without the end of the line. -/
def emitTail (e : OoVoiceStateEmit) : List Nat := codePoints "\",\"vortex_speed_mul\":" ++ emitFields e

def linePrefix : List Nat := codePoints "OO_VOICE:\x7b\"emotion\":\""

theorem ooVoiceStateEmit_eq (e : OoVoiceStateEmit) :
    ooVoiceStateEmit e = linePrefix ++ e.emotionChars ++ (emitTail e ++ [13]) ++ [10] := by
  have hend : codePoints "\x7d\r\n" = [125, 13, 10] := rfl
  simp only [ooVoiceStateEmit, emitTail, emitFields, linePrefix, hend, List.append_assoc, List.cons_append,
    List.nil_append]

/-! ### Single fields -/

theorem endsNumber_comma : EndsNumber 44 := ⟨rfl, by decide, by decide⟩

theorem endsNumber_close : EndsNumber 93 := ⟨rfl, by decide, by decide⟩

theorem emitByte_numeral (b : UInt8) : Numeral (emitByte b) ∧ numeralValue (emitByte b) = b.toNat := by
  have hlt : b.toNat < 256 := b.toNat_lt
  obtain ⟨hnumeral, hvalue⟩ := itoaDec_nat (n := b.toNat) (by omega)
  exact ⟨hnumeral, hvalue.2 (by omega)⟩

section Fields

variable {fields : List (CodePoints × JsonValue)} {k key : CodePoints} {stack : List Frame} {rest : CodePoints}

/-- The end of a field and the next key. -/
theorem run_next (hkey : ∀ c ∈ key, Plain c) (v : JsonValue) :
    run (.idle, .complete v (.object fields k :: stack)) (44 :: 34 :: (key ++ 34 :: 58 :: rest)) =
      run (.idle, .value (.object (putField k v fields) key :: stack)) rest := by
  rw [run_cons_ok (t := (.idle, .key false (putField k v fields) stack)) rfl, run_key hkey]

/-- A field with a byte. -/
theorem run_byte (hkey : ∀ c ∈ key, Plain c) (b : UInt8) :
    run (.idle, .value (.object fields k :: stack)) (emitByte b ++ 44 :: 34 :: (key ++ 34 :: 58 :: rest)) =
      run (.idle, .value (.object (putField k (.int b.toNat) fields) key :: stack)) rest := by
  obtain ⟨hnumeral, hvalue⟩ := emitByte_numeral b
  rw [run_nat hnumeral endsNumber_comma, hvalue]
  exact run_next hkey _

/-- The speed that is read. -/
def readSpeed (v10 : UInt32) : Rat :=
  ((10 * numeralValue (uartPuts (itoaDec (v10 / 10).toInt32.toInt 8)) + (v10 % 10).toNat : Nat) : Rat) / 10

theorem toInt_toInt32_div (v10 : UInt32) : (v10 / 10).toInt32.toInt = (v10.toNat / 10 : Nat) := by
  have hlt : v10.toNat < 2 ^ 32 := v10.toNat_lt
  have hint : (v10 / 10).toInt32.toInt = (v10 / 10).toBitVec.toInt := rfl
  have hnat : (v10 / 10).toBitVec.toNat = v10.toNat / 10 := rfl
  rw [hint, BitVec.toInt_eq_toNat_of_lt (by rw [hnat]; omega), hnat]

/-- The speed is read as it was if it has at most seven digits before the point. -/
theorem readSpeed_eq_iff (v10 : UInt32) : readSpeed v10 = (v10.toNat : Rat) / 10 ↔ v10.toNat < 10 ^ 8 := by
  have hlt : v10.toNat < 2 ^ 32 := v10.toNat_lt
  have hmod : (v10 % 10).toNat = v10.toNat % 10 := rfl
  obtain ⟨-, hvalue⟩ := itoaDec_nat (n := v10.toNat / 10) (by omega)
  rw [readSpeed, toInt_toInt32_div, hmod, div_left_inj' (OfNat.ofNat_ne_zero 10), Nat.cast_inj]
  omega

/-- The field with the speed. -/
theorem run_speed (hkey : ∀ c ∈ key, Plain c) (v10 : UInt32) :
    run (.idle, .value (.object fields k :: stack)) (emitF10 v10 ++ 44 :: 34 :: (key ++ 34 :: 58 :: rest)) =
      run (.idle, .value (.object (putField k (.float (readSpeed v10)) fields) key :: stack)) rest := by
  have hlt : v10.toNat < 2 ^ 32 := v10.toNat_lt
  have hmod : (v10 % 10).toNat = v10.toNat % 10 := rfl
  have hdigit : isDigit (48 + (v10 % 10).toNat) = true := by
    simp only [isDigit, Bool.and_eq_true, decide_eq_true_eq, hmod]
    omega
  obtain ⟨hnumeral, -⟩ := itoaDec_nat (n := v10.toNat / 10) (by omega)
  rw [← toInt_toInt32_div] at hnumeral
  rw [emitF10, List.append_assoc, List.append_assoc, List.singleton_append, List.singleton_append,
    run_decimal hnumeral hdigit endsNumber_comma, Nat.add_sub_cancel_left, ← readSpeed]
  exact run_next hkey _

/-- The field with a truth value. -/
theorem run_bool (hkey : ∀ c ∈ key, Plain c) (p : Prop) [Decidable p] :
    run (.idle, .value (.object fields k :: stack))
        (codePoints (if p then "true" else "false") ++ 44 :: 34 :: (key ++ 34 :: 58 :: rest)) =
      run (.idle, .value (.object (putField k (.bool (decide p)) fields) key :: stack)) rest := by
  have hword : run (.idle, .value (.object fields k :: stack)) (codePoints (if p then "true" else "false")) =
      .ok (.idle, .complete (.bool (decide p)) (.object fields k :: stack)) := by
    by_cases hp : p
    · rw [if_pos hp, decide_eq_true hp]
      rfl
    · rw [if_neg hp, decide_eq_false hp]
      rfl
  rw [run_append_ok hword]
  exact run_next hkey _

/-- The samples, from a state in which the next number is a new item of the array. -/
theorem run_waveform {i : Nat} {samples : List UInt8} (hlength : i + samples.length = 64) (hne : samples ≠ [])
    {parser : Parser} {items : List JsonValue}
    (hparser : ∀ n : Int, parser.feed (.scalar (.int n)) = .ok (.complete (.int n) (.array items :: stack))) :
    run (.idle, parser) (emitWaveform i samples ++ 93 :: rest) =
      run (.idle, .complete (.array (items ++ samples.map fun b => .int b.toNat)) stack) rest := by
  induction samples generalizing i parser items with
  | nil => exact absurd rfl hne
  | cons b samples ih =>
    obtain ⟨hnumeral, hvalue⟩ := emitByte_numeral b
    rw [List.length_cons] at hlength
    rw [emitWaveform]
    -- behind the last sample there is no comma
    by_cases hlast : samples = []
    · subst hlast
      have hi : ¬ i < 63 := by
        rw [List.length_nil] at hlength
        omega
      rw [if_neg hi, emitWaveform, List.append_nil, List.append_nil, run_nat hnumeral endsNumber_close, hvalue, hparser]
      rfl
    · have hi : i < 63 := by
        have hpos := List.length_pos_of_ne_nil hlast
        omega
      rw [if_pos hi, List.append_assoc, List.append_assoc, List.singleton_append, run_nat hnumeral endsNumber_comma,
        hvalue, hparser]
      change run (.idle, .complete (.int b.toNat) (.array items :: stack))
        (44 :: (emitWaveform (i + 1) samples ++ 93 :: rest)) = _
      rw [run_cons_ok (t := (.idle, .value (.array (items ++ [.int b.toNat]) :: stack))) rfl,
        ih (by omega) hlast fun n => rfl]
      simp

/-- A character of the response is read back, if it is no control character but the line feed. -/
theorem run_escapeChar {c : Nat} (hc : c = 10 ∨ 32 ≤ c) (before : CodePoints) (parser : Parser) :
    run (.text before none, parser) (escapeChar c) = .ok (.text (before ++ [c]) none, parser) := by
  unfold escapeChar
  split_ifs with hbackslash hquote hfeed
  · rw [hbackslash]
    rfl
  · rw [hquote]
    rfl
  · rw [hfeed]
    rfl
  · have hplain : Plain c := ⟨hc.resolve_left hfeed, hquote, hbackslash⟩
    rw [run_cons_ok (scan_text_plain hplain _ _ _), run_nil]

/-- A response is a string behind its key. -/
theorem run_emitResponse_eq {response : CodePoints} (hne : response ≠ []) (v : JsonValue) :
    run (.idle, .complete v (.object fields k :: stack)) (emitResponse response ++ [125]) =
      run (.text [] none, .value (.object (putField k v fields) (codePoints "response") :: stack))
        (response.flatMap escapeChar ++ [34, 125]) := by
  have hopen : codePoints ",\"response\":\"" = 44 :: 34 :: (codePoints "response" ++ 34 :: 58 :: [34]) := rfl
  rw [emitResponse, if_neg hne]
  simp only [hopen, List.append_assoc, List.cons_append, List.nil_append]
  rw [run_next (by decide), run_cons_ok (t := (.text [] none, _)) rfl]

/-- What the end of the object is with a response. -/
def putResponse (response : CodePoints) (fields : List (CodePoints × JsonValue)) : List (CodePoints × JsonValue) :=
  if response = [] then fields else putField (codePoints "response") (.string response) fields

theorem run_emitResponse {response : CodePoints} (h : ∀ c ∈ response, c = 10 ∨ 32 ≤ c) (v : JsonValue) :
    run (.idle, .complete v (.object fields k :: stack)) (emitResponse response ++ [125]) =
      .ok (.idle, .complete (.object (putResponse response (putField k v fields))) stack) := by
  unfold putResponse
  split
  · next hnil =>
    rw [hnil]
    rfl
  · next hne =>
    rw [run_emitResponse_eq hne, run_escaped fun c hc before parser => run_escapeChar (h c hc) before parser]
    rfl

/-- Another control character is refused. -/
theorem run_escaped_ne_ok {response : CodePoints} (h : ∃ c ∈ response, ¬ (c = 10 ∨ 32 ≤ c)) (before rest : CodePoints)
    (parser : Parser) (st : Decoder) :
    run (.text before none, parser) (response.flatMap escapeChar ++ rest) ≠ .ok st := by
  induction response generalizing before with
  | nil => exact absurd h (by simp)
  | cons c response ih =>
    rw [List.flatMap_cons, List.append_assoc]
    by_cases hc : c = 10 ∨ 32 ≤ c
    · rw [run_append_ok (run_escapeChar hc before parser)]
      obtain ⟨d, hd, hnot⟩ := h
      rcases List.mem_cons.1 hd with rfl | hd
      · exact absurd hc hnot
      · exact ih ⟨d, hd, hnot⟩ _
    · -- this is the first that is refused: it is sent as it is
      have hlow : c < 32 := Nat.not_le.1 fun hle => hc (.inr hle)
      have hquote : c ≠ 34 := by omega
      have hbackslash : c ≠ 92 := by omega
      have hself : escapeChar c = [c] := by
        rw [escapeChar, if_neg hbackslash, if_neg hquote, if_neg fun heq => hc (.inl heq)]
      have hscan : scan (.text before none, parser) c = .error .decode := by
        simp [scan, hquote, hbackslash, hlow]
      intro hok
      obtain ⟨mid, hmid, -⟩ := run_cons_eq_ok (hself ▸ hok)
      cases hscan.symm.trans hmid

theorem run_emitResponse_ne_ok {response : CodePoints} (h : ∃ c ∈ response, ¬ (c = 10 ∨ 32 ≤ c)) (v : JsonValue)
    (st : Decoder) :
    run (.idle, .complete v (.object fields k :: stack)) (emitResponse response ++ [125]) ≠ .ok st := by
  have hne : response ≠ [] := by
    rintro rfl
    simp at h
  rw [run_emitResponse_eq hne]
  exact run_escaped_ne_ok h _ _ _ _

end Fields

/-! ### All fields -/

/-- The fields behind the emotion, except for the response. -/
def putNumbers (e : OoVoiceStateEmit) (k : CodePoints) (fields : List (CodePoints × JsonValue)) :
    List (CodePoints × JsonValue) :=
  putField (codePoints "waveform") (.array (e.waveform.toList.map fun b => .int b.toNat))
    (putField (codePoints "inference") (.bool (decide (e.inference ≠ 0)))
      (putField (codePoints "glitch") (.int e.glitch.toNat)
        (putField (codePoints "wake_pulse") (.int e.wakePulse.toNat)
          (putField k (.float (readSpeed e.vortexSpeedMulX10)) fields))))

/-- The response has no control character but the line feed. -/
def ReadableResponse (e : OoVoiceStateEmit) : Prop := ∀ c ∈ e.responseChars, c = 10 ∨ 32 ≤ c

section All

variable {fields : List (CodePoints × JsonValue)} {k : CodePoints} {stack : List Frame}

/-- All fields up to the waveform. -/
theorem run_numbers (k : CodePoints) (fields : List (CodePoints × JsonValue)) (stack : List Frame)
    (e : OoVoiceStateEmit) : ∃ v F,
    putField (codePoints "waveform") v F = putNumbers e k fields ∧
    run (.idle, .value (.object fields k :: stack)) (emitFields e) =
      run (.idle, .complete v (.object F (codePoints "waveform") :: stack))
        (emitResponse e.responseChars ++ [125]) := by
  -- the literals begin with a comma and a quoted key
  refine ⟨_, _, rfl, ?_⟩
  have hwake : codePoints ",\"wake_pulse\":" = 44 :: 34 :: (codePoints "wake_pulse" ++ 34 :: 58 :: []) := rfl
  have hglitch : codePoints ",\"glitch\":" = 44 :: 34 :: (codePoints "glitch" ++ 34 :: 58 :: []) := rfl
  have hinference : codePoints ",\"inference\":" = 44 :: 34 :: (codePoints "inference" ++ 34 :: 58 :: []) := rfl
  have hwaveform : codePoints ",\"waveform\":[" = 44 :: 34 :: (codePoints "waveform" ++ 34 :: 58 :: [91]) := rfl
  have hlength : e.waveform.toList.length = 64 := Vector.length_toList
  have hne : e.waveform.toList ≠ [] := by
    intro hnil
    rw [hnil] at hlength
    cases hlength
  simp only [emitFields, hwake, hglitch, hinference, hwaveform, List.append_assoc, List.cons_append, List.nil_append]
  rw [run_speed (by decide), run_byte (by decide), run_byte (by decide), run_bool (by decide),
    run_cons_ok (t := (.idle, .first _)) rfl, run_waveform (by omega) hne fun n => rfl]
  rfl

theorem run_fields {e : OoVoiceStateEmit} (h : ReadableResponse e) :
    run (.idle, .value (.object fields k :: stack)) (emitFields e) =
      .ok (.idle, .complete (.object (putResponse e.responseChars (putNumbers e k fields))) stack) := by
  obtain ⟨v, F, hput, hrun⟩ := run_numbers k fields stack e
  rw [hrun, run_emitResponse h, hput]

theorem run_fields_ne_ok {e : OoVoiceStateEmit} (h : ¬ ReadableResponse e) (st : Decoder) :
    run (.idle, .value (.object fields k :: stack)) (emitFields e) ≠ .ok st := by
  obtain ⟨v, F, -, hrun⟩ := run_numbers k fields stack e
  rw [ReadableResponse] at h
  push Not at h
  rw [hrun]
  exact run_emitResponse_ne_ok (by simpa using h) v st

end All

/-! ### The text of a line -/

def speedKey : CodePoints := codePoints "vortex_speed_mul"

def emotionKey : CodePoints := codePoints "emotion"

/-- The object that is read where the string before the fields is the value of a key. -/
def lineState (e : OoVoiceStateEmit) (k s : CodePoints) (fields : List (CodePoints × JsonValue)) : JsonValue :=
  .object (putResponse e.responseChars (putNumbers e speedKey (putField k (.string s) fields)))

theorem emitTail_eq (e : OoVoiceStateEmit) :
    emitTail e = 34 :: 44 :: 34 :: (speedKey ++ 34 :: 58 :: emitFields e) := by
  have hopen : codePoints "\",\"vortex_speed_mul\":" = 34 :: 44 :: 34 :: (speedKey ++ 34 :: 58 :: []) := rfl
  simp only [emitTail, hopen, List.append_assoc, List.cons_append, List.nil_append]

/-- Text that ends inside of a string, and the fields. -/
theorem loads_append_tail {e : OoVoiceStateEmit} (h : ReadableResponse e) {text s k : CodePoints} {high : Option Nat}
    {fields : List (CodePoints × JsonValue)}
    (hrun : run (.idle, .value []) text = .ok (.text s high, .value [.object fields k])) :
    loads (text ++ emitTail e) = .ok (lineState e k s fields) := by
  rw [loads, run_append_ok hrun, emitTail_eq,
    run_cons_ok (t := (.idle, .complete (.string s) [.object fields k])) rfl, run_next (by decide), run_fields h]
  rfl

/-- The fields are read only where the text before them ends inside of a string. -/
theorem loads_append_tail_inv {e : OoVoiceStateEmit} {text : CodePoints} {v : JsonValue}
    (h : loads (text ++ emitTail e) = .ok v) : ReadableResponse e ∧ ∃ s high fields k,
      run (.idle, .value []) text = .ok (.text s high, .value [.object fields k]) ∧ v = lineState e k s fields := by
  have hspeed : speedKey = 118 :: codePoints "ortex_speed_mul" := rfl
  obtain ⟨st, hrun, hfinish⟩ := loads_eq_ok h
  obtain ⟨mid, hmid, htail⟩ := run_append_eq_ok hrun
  rw [emitTail_eq, hspeed] at htail
  -- the quote behind the emotion must end a string
  obtain ⟨s, high, fields, k, stack, rfl, hfields⟩ := run_closing (by decide) (fun _ => rfl) htail
  have hreadable : ReadableResponse e := by
    by_contra hnot
    exact run_fields_ne_ok hnot st hfields
  rw [run_fields hreadable] at hfields
  cases hfields
  cases stack with
  -- the brace at the end closes the outermost object
  | nil =>
    cases hfinish
    exact ⟨hreadable, s, high, fields, k, hmid, rfl⟩
  | cons frame stack => cases hfinish

/-- What is found in the object. -/
theorem field?_lineState (e : OoVoiceStateEmit) (k s key : CodePoints) (fields : List (CodePoints × JsonValue)) :
    (lineState e k s fields).field? key =
      if e.responseChars ≠ [] ∧ key = codePoints "response" then some (.string e.responseChars)
      else if key = codePoints "waveform" then some (.array (e.waveform.toList.map fun b => .int b.toNat))
      else if key = codePoints "inference" then some (.bool (decide (e.inference ≠ 0)))
      else if key = codePoints "glitch" then some (.int e.glitch.toNat)
      else if key = codePoints "wake_pulse" then some (.int e.wakePulse.toNat)
      else if key = speedKey then some (.float (readSpeed e.vortexSpeedMulX10))
      else if key = k then some (.string s)
      else (JsonValue.object fields).field? key := by
  have hnumbers : (JsonValue.object (putNumbers e speedKey (putField k (.string s) fields))).field? key =
      if key = codePoints "waveform" then some (.array (e.waveform.toList.map fun b => .int b.toNat))
      else if key = codePoints "inference" then some (.bool (decide (e.inference ≠ 0)))
      else if key = codePoints "glitch" then some (.int e.glitch.toNat)
      else if key = codePoints "wake_pulse" then some (.int e.wakePulse.toNat)
      else if key = speedKey then some (.float (readSpeed e.vortexSpeedMulX10))
      else if key = k then some (.string s)
      else (JsonValue.object fields).field? key := by
    simp only [putNumbers, field?_putField]
  rw [lineState, putResponse, ← hnumbers]
  by_cases hresponse : e.responseChars = []
  · rw [if_pos hresponse, if_neg fun h => h.1 hresponse]
  · rw [if_neg hresponse, field?_putField]
    simp only [hresponse, ne_eq, not_false_eq_true, true_and]

/-- The emotion that is read from a line is no heavier than what is between the prefix and the fields. -/
theorem textWeight_le_of_loads_append_tail {e : OoVoiceStateEmit} {text w : CodePoints} {v : JsonValue}
    (h : loads (text ++ emitTail e) = .ok v) (hw : v.field? emotionKey = some (.string w)) :
    textWeight w + 12 ≤ text.length := by
  obtain ⟨-, s, high, fields, k, hrun, rfl⟩ := loads_append_tail_inv h
  have hweight := weight_run_le hrun
  have hkey : textWeight emotionKey = 7 := by decide
  have hother : (lineState e k s fields).field? emotionKey =
      if emotionKey = k then some (.string s) else (JsonValue.object fields).field? emotionKey := by
    have hresponse : ¬ (e.responseChars ≠ [] ∧ emotionKey = codePoints "response") := fun h => absurd h.2 (by decide)
    rw [field?_lineState, if_neg hresponse, if_neg (by decide), if_neg (by decide), if_neg (by decide),
      if_neg (by decide), if_neg (by decide)]
  simp only [weight, Lexer.weight, Parser.weight, stackWeight, List.map_cons, List.map_nil, List.sum_cons,
    List.sum_nil, Frame.weight] at hweight
  rw [hother] at hw
  -- the emotion is the string that was open, or an earlier field
  split_ifs at hw with hk
  · obtain rfl : s = w := JsonValue.string.inj (Option.some.inj hw)
    rw [← hk, hkey] at hweight
    omega
  · have hfield := weight_field_le hw
    omega

end OperatingOrganism.Voice

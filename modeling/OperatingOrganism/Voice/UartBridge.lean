import OperatingOrganism.Voice.VoiceStateLine

/-!
# The bridge from the serial line

The bridge assembles lines from what it reads, and decodes what follows the prefix. Cutting the stream into reads has
no influence (`written_serialLoop`). Every record comes out as it went in if and only if no emotion has a character
that needs an escape, no response has a control character but the line feed, and no speed has more than seven digits
before the point (`recovers_iff`).
-/

set_option autoImplicit false

namespace OperatingOrganism.Voice

open JsonText

/-! ### The program -/

/-- `PREFIX` -/
def bridgePrefix : CodePoints := codePoints "OO_VOICE:"

/-- `parse_line`; `none` where it returns `None`, except for the JSON value `null`. -/
def parseLine (line : CodePoints) : Option JsonValue :=
  if bridgePrefix.isPrefixOf (strip line) then (loads ((strip line).drop bridgePrefix.length)).toOption else none

/-- The state that is written for a line. -/
def lineWritten (line : CodePoints) : Option JsonValue := (parseLine line).filter JsonValue.truthy

/-- The buffer of `serial_loop`, and the states that were written so far. -/
structure SerialLoop where
  buf : CodePoints
  written : List JsonValue

/-- One round of `serial_loop`, with the bytes of the read. -/
def SerialLoop.read (st : SerialLoop) (chunk : List Nat) : SerialLoop :=
  let drained := drain [] (st.buf ++ decodeAscii chunk)
  { buf := drained.2
    written := st.written ++ drained.1.filterMap lineWritten }

def serialLoop (reads : List (List Nat)) : SerialLoop := reads.foldl SerialLoop.read ⟨[], []⟩

/-! ### The property -/

/-- The bytes of all records. -/
def emitted (records : List OoVoiceStateEmit) : List Nat := records.flatMap ooVoiceStateEmit

/-- An object with the values of the record. A response that is not there is read as the empty text. -/
structure Recovers (e : OoVoiceStateEmit) (state : JsonValue) : Prop where
  emotion : state.field? (codePoints "emotion") = some (.string e.emotionChars)
  speed : state.field? (codePoints "vortex_speed_mul") = some (.float ((e.vortexSpeedMulX10.toNat : Rat) / 10))
  wakePulse : state.field? (codePoints "wake_pulse") = some (.int e.wakePulse.toNat)
  glitch : state.field? (codePoints "glitch") = some (.int e.glitch.toNat)
  inference : state.field? (codePoints "inference") = some (.bool (decide (e.inference ≠ 0)))
  waveform : state.field? (codePoints "waveform") = some (.array (e.waveform.toList.map fun b => .int b.toNat))
  response : (state.field? (codePoints "response")).getD (.string []) = .string e.responseChars

/-- What the encoder can write. -/
structure Encodable (e : OoVoiceStateEmit) : Prop where
  emotion : ∀ c ∈ e.emotionChars, Plain c
  response : ReadableResponse e
  speed : e.vortexSpeedMulX10.toNat < 10 ^ 8

/-! ### Reads -/

/-- However the stream is cut, the lines of the whole stream are decoded. -/
theorem serialLoop_eq (reads : List (List Nat)) :
    serialLoop reads =
      ⟨(drain [] (decodeAscii reads.flatten)).2, (drain [] (decodeAscii reads.flatten)).1.filterMap lineWritten⟩ := by
  induction reads using List.reverseRecOn with
  | nil => rfl
  | append_singleton reads chunk ih =>
    -- the buffer is the beginning of a line, so that nothing of it is seen twice
    have hbuf : 10 ∉ (drain [] (decodeAscii reads.flatten)).2 := not_mem_drain_snd List.not_mem_nil _
    rw [serialLoop, List.foldl_append, ← serialLoop, ih, List.foldl_cons, List.foldl_nil, SerialLoop.read]
    simp only [drain_buffer hbuf]
    rw [List.flatten_append, List.flatten_singleton, decodeAscii_append, drain_append, List.filterMap_append]

/-! ### Lines of a record -/

/-- What is between the line feeds of the stream. -/
def LineChar (c : Nat) : Prop := c < 128 ∧ c ≠ 10

instance : DecidablePred LineChar := fun _ => instDecidableAnd

theorem lineChar_of_isDigit {c : Nat} (h : isDigit c = true) : LineChar c := by
  simp only [isDigit, Bool.and_eq_true, decide_eq_true_eq] at h
  exact ⟨by omega, by omega⟩

theorem lineChar_emitByte (b : UInt8) : ∀ c ∈ emitByte b, LineChar c := fun c hc =>
  lineChar_of_isDigit ((emitByte_numeral b).1.isDigit c hc)

theorem lineChar_emitWaveform (i : Nat) (samples : List UInt8) : ∀ c ∈ emitWaveform i samples, LineChar c := by
  induction samples generalizing i with
  | nil => exact fun c hc => (nomatch hc)
  | cons b samples ih =>
    have hcomma : ∀ c ∈ (if i < 63 then [44] else []), LineChar c := by
      split <;> decide
    rw [emitWaveform]
    exact List.forall_mem_append.2 ⟨List.forall_mem_append.2 ⟨lineChar_emitByte b, hcomma⟩, ih _⟩

theorem lineChar_emitF10 (v10 : UInt32) : ∀ c ∈ emitF10 v10, LineChar c := by
  have hlt : v10.toNat < 2 ^ 32 := v10.toNat_lt
  have hmod : (v10 % 10).toNat = v10.toNat % 10 := rfl
  obtain ⟨hnumeral, -⟩ := itoaDec_nat (n := v10.toNat / 10) (by omega)
  rw [← toInt_toInt32_div] at hnumeral
  refine List.forall_mem_append.2 ⟨List.forall_mem_append.2 ⟨fun c hc => ?_, by decide⟩, ?_⟩
  · exact lineChar_of_isDigit (hnumeral.isDigit c hc)
  · rw [List.forall_mem_singleton, hmod]
    exact ⟨by omega, by omega⟩

theorem lineChar_escapeChar {d : Nat} (h : d < 128) : ∀ c ∈ escapeChar d, LineChar c := by
  unfold escapeChar
  split_ifs with hbackslash hquote hfeed
  · decide
  · decide
  · decide
  · exact List.forall_mem_singleton.2 ⟨h, hfeed⟩

theorem lineChar_emitResponse {response : List Nat} (h : ∀ c ∈ response, c < 128) :
    ∀ c ∈ emitResponse response, LineChar c := by
  have hescape : ∀ c ∈ response.flatMap escapeChar, LineChar c := by
    intro c hc
    obtain ⟨d, hd, hmem⟩ := List.mem_flatMap.1 hc
    exact lineChar_escapeChar (h d hd) c hmem
  unfold emitResponse
  split
  · exact fun c hc => (nomatch hc)
  · exact List.forall_mem_append.2 ⟨List.forall_mem_append.2 ⟨by decide, hescape⟩, by decide⟩

theorem OoVoiceStateEmit.responseChars_lt (e : OoVoiceStateEmit) : ∀ c ∈ e.responseChars, c < 128 := by
  unfold OoVoiceStateEmit.responseChars
  split
  · next s _ => exact fun c hc => (s.ascii c hc).2
  · exact fun c hc => (nomatch hc)

theorem OoVoiceStateEmit.emotionChars_lt (e : OoVoiceStateEmit) : ∀ c ∈ e.emotionChars, c < 128 := by
  unfold OoVoiceStateEmit.emotionChars
  split
  · next s _ => exact fun c hc => (s.ascii c hc).2
  · decide

theorem lineChar_emitTail (e : OoVoiceStateEmit) : ∀ c ∈ emitTail e, LineChar c := by
  have hbool : ∀ c ∈ codePoints (if e.inference ≠ 0 then "true" else "false"), LineChar c := by
    split <;> decide
  unfold emitTail emitFields
  simp only [List.forall_mem_append]
  refine ⟨by decide, ?_⟩
  refine ⟨⟨⟨⟨⟨⟨⟨⟨⟨⟨⟨lineChar_emitF10 _, by decide⟩, lineChar_emitByte _⟩, by decide⟩, lineChar_emitByte _⟩, by decide⟩,
    hbool⟩, by decide⟩, lineChar_emitWaveform _ _⟩, by decide⟩, lineChar_emitResponse e.responseChars_lt⟩, by decide⟩

theorem ooVoiceStateEmit_lt (e : OoVoiceStateEmit) : ∀ c ∈ ooVoiceStateEmit e, c < 128 := by
  have htail : ∀ c ∈ emitTail e, c < 128 := fun c hc => (lineChar_emitTail e c hc).1
  rw [ooVoiceStateEmit_eq]
  simp only [List.forall_mem_append]
  exact ⟨⟨⟨by decide, e.emotionChars_lt⟩, htail, by decide⟩, by decide⟩

theorem decodeAscii_emitted (records : List OoVoiceStateEmit) : decodeAscii (emitted records) = emitted records := by
  apply decodeAscii_of_ascii
  intro c hc
  obtain ⟨e, -, hmem⟩ := List.mem_flatMap.1 hc
  exact ooVoiceStateEmit_lt e c hmem

/-- The lines of a record: those that end in the emotion, and the one with the fields. -/
theorem drain_ooVoiceStateEmit (e : OoVoiceStateEmit) :
    drain [] (ooVoiceStateEmit e) =
      ((drain [] (linePrefix ++ e.emotionChars)).1 ++
        [(drain [] (linePrefix ++ e.emotionChars)).2 ++ (emitTail e ++ [13])], []) := by
  have htail : 10 ∉ emitTail e ++ [13] := by
    intro hmem
    rcases List.mem_append.1 hmem with h | h
    · exact (lineChar_emitTail e 10 h).2 rfl
    · cases List.mem_singleton.1 h
  rw [ooVoiceStateEmit_eq, drain_append, drain_append, drain_line _ _ htail, List.append_nil]
  rfl

/-- The states that are written for a record. -/
def statesOf (e : OoVoiceStateEmit) : List JsonValue := (drain [] (ooVoiceStateEmit e)).1.filterMap lineWritten

theorem drain_emitted (records : List OoVoiceStateEmit) :
    drain [] (emitted records) = (records.flatMap fun e => (drain [] (ooVoiceStateEmit e)).1, []) := by
  induction records with
  | nil => rfl
  | cons e records ih =>
    have hrest : (drain [] (ooVoiceStateEmit e)).2 = [] := by rw [drain_ooVoiceStateEmit]
    rw [emitted, List.flatMap_cons, ← emitted, drain_append, hrest, ih, List.flatMap_cons]

/-- However the stream of the records is cut, each of them gives its states. -/
theorem written_serialLoop {records : List OoVoiceStateEmit} {reads : List (List Nat)}
    (h : reads.flatten = emitted records) : (serialLoop reads).written = records.flatMap statesOf := by
  rw [serialLoop_eq, h, decodeAscii_emitted, drain_emitted, List.filterMap_flatMap]
  rfl

/-! ### What one record gives -/

/-- The line with the fields, stripped. -/
theorem strip_append_tail (e : OoVoiceStateEmit) (text : CodePoints) :
    strip (text ++ (emitTail e ++ [13])) = text.dropWhile isSpace ++ emitTail e := by
  have hblank : Blank [13] := by
    intro c hc
    rw [List.mem_singleton.1 hc]
    rfl
  -- the fields begin with a quote and end with a brace
  have hopen : (emitTail e).dropWhile isSpace = emitTail e := by
    rw [emitTail_eq]
    rfl
  have hdrop : (text ++ emitTail e).dropWhile isSpace = text.dropWhile isSpace ++ emitTail e := by
    rw [List.dropWhile_append]
    split
    · next hempty => rw [hopen, List.isEmpty_iff.1 hempty, List.nil_append]
    · rfl
  obtain ⟨front, hfront⟩ : ∃ front, emitTail e = front ++ [125] :=
    ⟨_, by rw [emitTail, emitFields, ← List.append_assoc]⟩
  rw [← List.append_assoc, strip_append_blank _ hblank, strip, hdrop, hfront, ← List.append_assoc]
  exact List.rdropWhile_concat_neg _ _ _ (by decide)

/-- The prefix of a line with the fields is in front of them. -/
theorem prefix_append_tail {e : OoVoiceStateEmit} {text : CodePoints} (h : bridgePrefix <+: text ++ emitTail e) :
    ∃ rest, text = bridgePrefix ++ rest := by
  obtain ⟨t, ht⟩ := h
  rcases List.append_eq_append_iff.1 ht with ⟨rest, htext, -⟩ | ⟨rest, hpre, htail⟩
  · exact ⟨rest, htext⟩
  · rcases rest with _ | ⟨c, rest⟩
    · exact ⟨[], by rw [hpre, List.append_nil, List.append_nil]⟩
    · -- the fields begin with a quote, the prefix has none
      rw [emitTail_eq, List.cons_append] at htail
      have hc : 34 = c := (List.cons_eq_cons.1 htail).1
      have hmem : 34 ∈ bridgePrefix := by
        rw [hpre, hc]
        exact List.mem_append_right _ List.mem_cons_self
      exact absurd hmem (by decide)

theorem parseLine_eq_some {line : CodePoints} {v : JsonValue} (h : parseLine line = some v) :
    ∃ rest, strip line = bridgePrefix ++ rest ∧ loads rest = .ok v := by
  unfold parseLine at h
  split at h
  · next hpre =>
    obtain ⟨rest, hrest⟩ := List.isPrefixOf_iff_prefix.1 hpre
    refine ⟨rest, hrest.symm, ?_⟩
    rw [← hrest, List.drop_left] at h
    cases hloads : loads rest with
    | error e =>
      rw [hloads] at h
      cases h
    | ok v' =>
      rw [hloads] at h
      cases h
      rfl
  · cases h

theorem parseLine_of_strip {line rest : CodePoints} (h : strip line = bridgePrefix ++ rest) :
    parseLine line = (loads rest).toOption := by
  rw [parseLine, h, if_pos (List.isPrefixOf_iff_prefix.2 (List.prefix_append _ _)), List.drop_left]

theorem lineWritten_eq_some {line : CodePoints} {v : JsonValue} (h : lineWritten line = some v) :
    parseLine line = some v := (Option.filter_eq_some_iff.1 h).1

/-- An emotion in a state of a record is no heavier than the emotion of the record is long. -/
theorem textWeight_le_of_mem_statesOf {e : OoVoiceStateEmit} {v : JsonValue} {w : CodePoints} (hv : v ∈ statesOf e)
    (hw : v.field? emotionKey = some (.string w)) : textWeight w ≤ e.emotionChars.length := by
  obtain ⟨line, hline, hwritten⟩ := List.mem_filterMap.1 hv
  obtain ⟨rest, hstrip, hloads⟩ := parseLine_eq_some (lineWritten_eq_some hwritten)
  have hpre : bridgePrefix.length = 9 := rfl
  have hfront : (linePrefix ++ e.emotionChars).length = 21 + e.emotionChars.length := List.length_append
  rw [drain_ooVoiceStateEmit] at hline
  rcases List.mem_append.1 hline with hinner | hlast
  · -- a line that ends in the emotion
    have hlength := length_drain_fst [] _ line hinner
    have hstripped := length_strip_le line
    have hweight := weight_le_of_loads hloads hw
    have hkey : textWeight emotionKey = 7 := by decide
    rw [hstrip, List.length_append, hpre] at hstripped
    rw [hfront, List.length_nil] at hlength
    omega
  · -- the line with the fields, with the end of the emotion in front
    obtain rfl := List.mem_singleton.1 hlast
    rw [strip_append_tail] at hstrip
    obtain ⟨text, htext⟩ := prefix_append_tail ⟨rest, hstrip.symm⟩
    rw [htext, List.append_assoc, List.append_cancel_left_eq] at hstrip
    have hweight := textWeight_le_of_loads_append_tail (hstrip ▸ hloads) hw
    have hdropped := congrArg List.length htext
    have hle := (List.dropWhile_suffix isSpace (l := (drain [] (linePrefix ++ e.emotionChars)).2)).length_le
    have hdrained := length_drain_snd_le [] (linePrefix ++ e.emotionChars)
    rw [List.length_append, hpre] at hdropped
    rw [hfront, List.length_nil] at hdrained
    omega

/-- The object of a record whose emotion needs no escape. -/
def OoVoiceStateEmit.state (e : OoVoiceStateEmit) : JsonValue := lineState e emotionKey e.emotionChars []

theorem putField_ne_nil (key : CodePoints) (v : JsonValue) (fields : List (CodePoints × JsonValue)) :
    putField key v fields ≠ [] := by
  cases fields with
  | nil => exact List.cons_ne_nil _ _
  | cons field fields =>
    rw [putField]
    split <;> exact List.cons_ne_nil _ _

theorem truthy_state (e : OoVoiceStateEmit) : e.state.truthy = true := by
  rw [OoVoiceStateEmit.state, lineState, JsonValue.truthy, putResponse]
  split
  · simp [putNumbers, putField_ne_nil]
  · simp [putField_ne_nil]

section Plain

variable {e : OoVoiceStateEmit}

/-- Such a record is one line. -/
theorem statesOf_of_plain (h : ∀ c ∈ e.emotionChars, Plain c) :
    statesOf e = ((loads (codePoints "\x7b\"emotion\":\"" ++ e.emotionChars ++ emitTail e)).toOption.filter
      JsonValue.truthy).toList := by
  have hfeed : 10 ∉ linePrefix ++ e.emotionChars := by
    intro hmem
    rcases List.mem_append.1 hmem with hpre | hemotion
    · exact absurd hpre (by decide)
    · exact absurd (h 10 hemotion).1 (by decide)
  have hline : linePrefix = bridgePrefix ++ codePoints "\x7b\"emotion\":\"" := rfl
  have hdrop : (linePrefix ++ e.emotionChars).dropWhile isSpace = linePrefix ++ e.emotionChars := rfl
  have hstrip : strip (linePrefix ++ e.emotionChars ++ (emitTail e ++ [13])) =
      bridgePrefix ++ (codePoints "\x7b\"emotion\":\"" ++ e.emotionChars ++ emitTail e) := by
    rw [strip_append_tail, hdrop, hline, List.append_assoc, List.append_assoc, List.append_assoc]
  rw [statesOf, drain_ooVoiceStateEmit, drain_line _ _ hfeed, List.nil_append, List.nil_append]
  simp only [List.filterMap_cons, List.filterMap_nil, lineWritten, parseLine_of_strip hstrip]
  generalize (loads (codePoints "\x7b\"emotion\":\"" ++ e.emotionChars ++ emitTail e)).toOption = loaded
  cases loaded.filter JsonValue.truthy <;> rfl

/-- It gives its object, if the response can be read. -/
theorem statesOf_of_readable (h : ∀ c ∈ e.emotionChars, Plain c) (hresponse : ReadableResponse e) :
    statesOf e = [e.state] := by
  have hopen : run (.idle, .value []) (codePoints "\x7b\"emotion\":\"") =
      .ok (.text [] none, .value [.object [] emotionKey]) := rfl
  have hrun : run (.idle, .value []) (codePoints "\x7b\"emotion\":\"" ++ e.emotionChars) =
      .ok (.text e.emotionChars none, .value [.object [] emotionKey]) := by
    have hplain := run_plain h [] [] (.value [.object [] emotionKey])
    rw [List.append_nil, List.nil_append] at hplain
    rw [run_append_ok hopen, hplain, run_nil]
  rw [statesOf_of_plain h, loads_append_tail hresponse hrun, ← OoVoiceStateEmit.state, Except.toOption,
    Option.filter_some_pos (truthy_state e)]
  rfl

theorem statesOf_of_not_readable (h : ∀ c ∈ e.emotionChars, Plain c) (hresponse : ¬ ReadableResponse e) :
    statesOf e = [] := by
  rw [statesOf_of_plain h]
  cases hloads : loads (codePoints "\x7b\"emotion\":\"" ++ e.emotionChars ++ emitTail e) with
  | error err => rfl
  | ok v => exact absurd (loads_append_tail_inv hloads).1 hresponse

end Plain

/-- The fields of the object. -/
theorem field?_state (e : OoVoiceStateEmit) :
    e.state.field? (codePoints "emotion") = some (.string e.emotionChars) ∧
    e.state.field? (codePoints "vortex_speed_mul") = some (.float (readSpeed e.vortexSpeedMulX10)) ∧
    e.state.field? (codePoints "wake_pulse") = some (.int e.wakePulse.toNat) ∧
    e.state.field? (codePoints "glitch") = some (.int e.glitch.toNat) ∧
    e.state.field? (codePoints "inference") = some (.bool (decide (e.inference ≠ 0))) ∧
    e.state.field? (codePoints "waveform") = some (.array (e.waveform.toList.map fun b => .int b.toNat)) ∧
    (e.state.field? (codePoints "response")).getD (.string []) = .string e.responseChars := by
  simp only [OoVoiceStateEmit.state, field?_lineState]
  refine ⟨?_, ?_, ?_, ?_, ?_, ?_, ?_⟩
  case refine_7 =>
    by_cases hresponse : e.responseChars = []
    · rw [hresponse]
      rfl
    · simp [hresponse]
  all_goals simp +decide

/-- The object has the values of the record, if the speed was not cut. -/
theorem recovers_state_iff (e : OoVoiceStateEmit) : Recovers e e.state ↔ e.vortexSpeedMulX10.toNat < 10 ^ 8 := by
  obtain ⟨hemotion, hspeed, hwake, hglitch, hinference, hwaveform, hresponse⟩ := field?_state e
  rw [← readSpeed_eq_iff]
  refine ⟨fun h => ?_, fun h => ⟨hemotion, h ▸ hspeed, hwake, hglitch, hinference, hwaveform, hresponse⟩⟩
  exact JsonValue.float.inj (Option.some.inj (hspeed.symm.trans h.speed))

/-! ### All records -/

section Records

variable {records : List OoVoiceStateEmit}

theorem exists_recovered {states : List JsonValue} (h : List.Forall₂ Recovers records states) {e : OoVoiceStateEmit}
    (he : e ∈ records) : ∃ v ∈ states, Recovers e v := by
  induction h with
  | nil => cases he
  | cons hv _ ih =>
    rcases List.mem_cons.1 he with rfl | he
    · exact ⟨_, List.mem_cons_self, hv⟩
    · obtain ⟨v, hmem, hrecovers⟩ := ih he
      exact ⟨v, List.mem_cons_of_mem _ hmem, hrecovers⟩

/-- An emotion that needs an escape can only come out of a longer one. -/
theorem exists_longer_emotion (h : List.Forall₂ Recovers records (records.flatMap statesOf)) {e : OoVoiceStateEmit}
    (he : e ∈ records) (hbad : ∃ c ∈ e.emotionChars, ¬ Plain c) :
    ∃ e' ∈ records, (∃ c ∈ e'.emotionChars, ¬ Plain c) ∧ e.emotionChars.length < e'.emotionChars.length := by
  obtain ⟨v, hv, hrecovers⟩ := exists_recovered h he
  obtain ⟨e', he', hmem⟩ := List.mem_flatMap.1 hv
  have hlonger : e.emotionChars.length < e'.emotionChars.length :=
    (length_lt_textWeight hbad).trans_le (textWeight_le_of_mem_statesOf hmem hrecovers.emotion)
  refine ⟨e', he', ?_, hlonger⟩
  by_contra hplain
  push Not at hplain
  by_cases hresponse : ReadableResponse e'
  · -- a plain emotion comes out as it is
    rw [statesOf_of_readable hplain hresponse] at hmem
    obtain rfl := List.mem_singleton.1 hmem
    have hemotion := hrecovers.emotion
    rw [(field?_state e').1] at hemotion
    rw [JsonValue.string.inj (Option.some.inj hemotion)] at hlonger
    exact lt_irrefl _ hlonger
  · rw [statesOf_of_not_readable hplain hresponse] at hmem
    cases hmem

theorem plain_of_recovered (h : List.Forall₂ Recovers records (records.flatMap statesOf)) :
    ∀ e ∈ records, ∀ c ∈ e.emotionChars, Plain c := by
  by_contra hnot
  push Not at hnot
  -- there would be such emotions of any length
  have hlong : ∀ n, ∃ e ∈ records, (∃ c ∈ e.emotionChars, ¬ Plain c) ∧ n ≤ e.emotionChars.length := by
    intro n
    induction n with
    | zero =>
      obtain ⟨e, he, hbad⟩ := hnot
      exact ⟨e, he, hbad, Nat.zero_le _⟩
    | succ n ih =>
      obtain ⟨e, he, hbad, hle⟩ := ih
      obtain ⟨e', he', hbad', hlt⟩ := exists_longer_emotion h he hbad
      exact ⟨e', he', hbad', hle.trans_lt hlt⟩
  obtain ⟨e, he, -, hle⟩ := hlong ((records.map fun e => e.emotionChars.length).sum + 1)
  have hsum := List.le_sum_of_mem (List.mem_map_of_mem (f := fun e : OoVoiceStateEmit => e.emotionChars.length) he)
  omega

theorem length_flatMap_le {α β : Type} {f : α → List β} {l : List α} (h : ∀ a ∈ l, (f a).length ≤ 1) :
    (l.flatMap f).length ≤ l.length := by
  induction l with
  | nil => exact le_rfl
  | cons a l ih =>
    obtain ⟨ha, hl⟩ := List.forall_mem_cons.1 h
    have hrest := ih hl
    rw [List.flatMap_cons, List.length_append, List.length_cons]
    omega

/-- Lists of at most one item that are one each on the whole. -/
theorem length_eq_one_of_flatMap {α β : Type} {f : α → List β} {l : List α} (h : ∀ a ∈ l, (f a).length ≤ 1)
    (hlength : l.length ≤ (l.flatMap f).length) : ∀ a ∈ l, (f a).length = 1 := by
  induction l with
  | nil => exact fun a ha => (nomatch ha)
  | cons a l ih =>
    obtain ⟨ha, hl⟩ := List.forall_mem_cons.1 h
    have hrest := length_flatMap_le hl
    rw [List.flatMap_cons, List.length_append, List.length_cons] at hlength
    exact List.forall_mem_cons.2 ⟨by omega, ih hl (by omega)⟩

theorem readable_of_recovered (h : List.Forall₂ Recovers records (records.flatMap statesOf)) :
    ∀ e ∈ records, ReadableResponse e := by
  have hplain := plain_of_recovered h
  have hle : ∀ e ∈ records, (statesOf e).length ≤ 1 := by
    intro e he
    by_cases hresponse : ReadableResponse e
    · exact (congrArg List.length (statesOf_of_readable (hplain e he) hresponse)).le
    · rw [statesOf_of_not_readable (hplain e he) hresponse]
      exact Nat.zero_le 1
  -- as many states as records: no record without one
  have hone := length_eq_one_of_flatMap hle h.length_eq.le
  intro e he
  by_contra hresponse
  have hlength := hone e he
  rw [statesOf_of_not_readable (hplain e he) hresponse] at hlength
  cases hlength

/-- Records that can be read give one object each. -/
theorem flatMap_statesOf (hplain : ∀ e ∈ records, ∀ c ∈ e.emotionChars, Plain c)
    (hresponse : ∀ e ∈ records, ReadableResponse e) :
    records.flatMap statesOf = records.map OoVoiceStateEmit.state := by
  rw [List.map_eq_flatMap]
  exact List.flatMap_congr fun e he => statesOf_of_readable (hplain e he) (hresponse e he)

end Records

/-- However the stream of the records is cut into reads, each record comes out as an object with its values, in order,
if and only if all records can be encoded. -/
theorem recovers_iff (records : List OoVoiceStateEmit) :
    (∀ reads : List (List Nat), reads.flatten = emitted records →
      List.Forall₂ Recovers records (serialLoop reads).written) ↔ ∀ e ∈ records, Encodable e := by
  constructor
  · intro h
    have hall := h [emitted records] List.flatten_singleton
    rw [written_serialLoop List.flatten_singleton] at hall
    have hplain := plain_of_recovered hall
    have hresponse := readable_of_recovered hall
    rw [flatMap_statesOf hplain hresponse, List.forall₂_map_right_iff, List.forall₂_same] at hall
    exact fun e he => ⟨hplain e he, hresponse e he, (recovers_state_iff e).1 (hall e he)⟩
  · intro h reads hreads
    rw [written_serialLoop hreads, flatMap_statesOf (fun e he => (h e he).emotion) fun e he => (h e he).response,
      List.forall₂_map_right_iff, List.forall₂_same]
    exact fun e he => (recovers_state_iff e).2 (h e he).speed

/-! ### A response with a tab -/

/-- A calm state with the response `a`, tab, `b`. -/
def tabbedRecord : OoVoiceStateEmit where
  emotion := none
  vortexSpeedMulX10 := 10
  wakePulse := 0
  glitch := 0
  inference := 1
  waveform := Vector.replicate 64 128
  response := some ⟨[97, 9, 98], by decide⟩

/-- The tab is sent as it is, and the decoder refuses it. -/
theorem exists_lost_record : ∃ records : List OoVoiceStateEmit,
    ¬ ∀ reads : List (List Nat), reads.flatten = emitted records →
      List.Forall₂ Recovers records (serialLoop reads).written := by
  refine ⟨[tabbedRecord], fun h => ?_⟩
  have hall := h [emitted [tabbedRecord]] List.flatten_singleton
  rw [written_serialLoop List.flatten_singleton] at hall
  have hreadable := readable_of_recovered hall tabbedRecord (List.mem_singleton_self _)
  exact absurd (hreadable 9 (by decide)) (by decide)

end OperatingOrganism.Voice

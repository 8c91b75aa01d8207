import OperatingOrganism.Library.JsonTorn

/-!
# Logs of objects

Every line of a log is the text of an object without an indent. A write that is cut off leaves the first bytes of a
line, and the next write goes on in the same line. A reader who passes over what is no JSON finds the objects that were
written whole, except for those that went on in a line that a cut had left (`readLog_eq`): a cut costs the object
that it cuts and the next one, and no other.
-/

set_option autoImplicit false

namespace OperatingOrganism.JsonText

/-! ### Values inside of others -/

/-- The same place, inside of further open arrays and objects. -/
def Parser.under (outer : List Frame) : Parser → Parser
  | .value stack => .value (stack ++ outer)
  | .first stack => .first (stack ++ outer)
  | .key isFirst fields stack => .key isFirst fields (stack ++ outer)
  | .colon fields k stack => .colon fields k (stack ++ outer)
  | .complete v stack => .complete v (stack ++ outer)

section Nested

variable {outer : List Frame} {p p' : Parser} {lexer lexer' : Lexer} {t : Token} {n : NumberState} {c : Nat}
  {v : JsonValue} {s : CodePoints}

theorem take_under {stack : List Frame} (h : Parser.take stack t = .ok p') :
    Parser.take (stack ++ outer) t = .ok (p'.under outer) := by
  cases t <;> cases h <;> rfl

/-- A token that is taken is taken inside of other values, too. -/
theorem feed_under (h : p.feed t = .ok p') : (p.under outer).feed t = .ok (p'.under outer) := by
  cases p with
  | value stack => exact take_under h
  | first stack => cases t <;> cases h <;> rfl
  | key isFirst fields stack => cases isFirst <;> cases t <;> cases h <;> rfl
  | colon fields k stack =>
    cases t <;> cases h
    rfl
  | complete v stack =>
    cases stack with
    | nil => cases t <;> cases h
    | cons frame stack => cases frame <;> cases t <;> cases h <;> rfl

theorem ends_under (h : n.ends p = .ok p') : n.ends (p.under outer) = .ok (p'.under outer) := by
  cases n with
  | minus => cases h
  | mantissa m => exact feed_under h
  | exponentDigits m negative digits => exact feed_under h
  | point m | exponent m | exponentSign m _ =>
    obtain ⟨_, -, herror⟩ := bind_eq_ok.1 h
    cases herror

/-- A token that ends here. -/
theorem map_idle_under (h : (p.feed t).map (Lexer.idle, ·) = .ok (lexer', p')) :
    ((p.under outer).feed t).map (Lexer.idle, ·) = .ok (lexer', p'.under outer) := by
  obtain ⟨q, hfeed, hst⟩ := map_idle_eq_ok h
  obtain ⟨rfl, rfl⟩ := Prod.mk.inj hst
  rw [feed_under hfeed]
  rfl

theorem scanIdle_under (h : scanIdle p c = .ok (lexer', p')) :
    scanIdle (p.under outer) c = .ok (lexer', p'.under outer) := by
  unfold scanIdle at h ⊢
  split_ifs at h ⊢
  · cases h
    rfl
  · cases h
    rfl
  · cases h
    rfl
  · cases h
    rfl
  · split at h
    · exact map_idle_under h
    · cases h
      rfl
    · cases h

/-- A character is read in the same way inside of other values. -/
theorem scan_under (h : scan (lexer, p) c = .ok (lexer', p')) :
    scan (lexer, p.under outer) c = .ok (lexer', p'.under outer) := by
  cases lexer with
  | idle => exact scanIdle_under h
  | text s high =>
    simp only [scan] at h ⊢
    split_ifs at h ⊢
    · exact map_idle_under h
    · cases h
      rfl
    · cases h
      rfl
  | escape s high =>
    simp only [scan] at h ⊢
    split_ifs at h ⊢
    · cases h
      rfl
    · split at h
      · cases h
        rfl
      · cases h
  | unicode s high left code =>
    simp only [scan] at h ⊢
    split at h
    · split_ifs at h ⊢
      · cases h
        rfl
      · cases h
        rfl
    · cases h
  | number n =>
    cases hstep : n.step c with
    | some n' => cases n <;> simp only [scan, hstep] at h ⊢ <;> cases h <;> rfl
    | none =>
      by_cases hminus : n = .minus
      · subst hminus
        simp only [scan, hstep] at h ⊢
        split_ifs at h ⊢
        cases h
        rfl
      · -- the number ends, and the character is read between tokens
        have hend : ∀ q, scan (.number n, q) c = n.ends q >>= fun q' => scanIdle q' c := by
          intro q
          cases n <;> simp only [scan, hstep]
          exact absurd rfl hminus
        rw [hend] at h ⊢
        obtain ⟨q, hends, hidle⟩ := bind_eq_ok.1 h
        rw [ends_under hends]
        exact scanIdle_under hidle
  | word w seen =>
    simp only [scan] at h ⊢
    split_ifs at h ⊢
    · exact map_idle_under h
    · cases h
      rfl

theorem run_under (h : run (lexer, p) s = .ok (lexer', p')) :
    run (lexer, p.under outer) s = .ok (lexer', p'.under outer) := by
  induction s generalizing lexer p with
  | nil =>
    cases h
    rfl
  | cons c s ih =>
    obtain ⟨⟨lexer'', q⟩, hscan, hrest⟩ := run_cons_eq_ok h
    rw [run_cons_ok (scan_under hscan), ih hrest]

theorem under_complete (h : p.under outer = .complete v []) : outer = [] := by
  cases p with
  | complete w stack => exact (List.append_eq_nil_iff.1 (Parser.complete.inj h).2).2
  | value stack | first stack | key isFirst fields stack | colon fields k stack => cases h

end Nested

/-! ### An object behind something else -/

section Behind

variable {p p' : Parser} {st st' : Decoder} {t : Token} {n : NumberState} {c : Nat} {v w : JsonValue}
  {s front text : CodePoints} {style : DumpStyle} {level : Nat} {fields : List (CodePoints × JsonValue)}

/-- Between tokens, the character is none of a token. -/
def BeginsNothing (c : Nat) : Prop := ∀ p, scanIdle p c = .error .decode

/-- Inside of something, an object is opened on a stack that is not empty. -/
theorem feed_openObject (hp : p ≠ .value []) (h : p.feed .openObject = .ok p') :
    ∃ outer, outer ≠ [] ∧ p' = .key true [] outer := by
  cases p with
  | value stack =>
    cases h
    refine ⟨stack, ?_, rfl⟩
    rintro rfl
    exact hp rfl
  | first stack =>
    cases h
    exact ⟨_, List.cons_ne_nil _ _, rfl⟩
  | key isFirst fields stack => cases isFirst <;> cases h
  | colon fields k stack => cases h
  | complete v stack =>
    cases stack with
    | nil => cases h
    | cons frame stack => cases frame <;> cases h

/-- No object is opened behind a number. -/
theorem feed_openObject_of_ends (hends : n.ends p = .ok p') : p'.feed .openObject = .error .decode := by
  obtain ⟨t, hfeed, hnumber⟩ := ends_cases hends
  have hcomplete : ∃ v stack, p' = .complete v stack := by
    rcases hnumber with rfl | ⟨v, rfl⟩
    all_goals cases p with
      | value stack =>
        cases hfeed
        try exact ⟨_, _, rfl⟩
      | first stack =>
        cases hfeed
        try exact ⟨_, _, rfl⟩
      | key isFirst fields stack => cases isFirst <;> cases hfeed
      | colon fields k stack => cases hfeed
      | complete v stack =>
        cases stack with
        | nil => cases hfeed
        | cons frame stack => cases frame <;> cases hfeed
  obtain ⟨v, stack, rfl⟩ := hcomplete
  cases stack with
  | nil => rfl
  | cons frame stack => cases frame <;> rfl

/-- In a text that has begun, a brace is a character of a string, or it opens an object inside of something. -/
theorem scan_brace (hst : st.2 ≠ .value []) (h : scan st 123 = .ok st') :
    (∃ s, st' = (.text s none, st.2)) ∨ ∃ outer, outer ≠ [] ∧ st' = (.idle, .key true [] outer) := by
  obtain ⟨lexer, p⟩ := st
  have hidle : ∀ {q : Parser}, scanIdle q 123 = (q.feed .openObject).map (Lexer.idle, ·) := rfl
  cases lexer with
  | idle =>
    obtain ⟨p', hfeed, rfl⟩ := map_idle_eq_ok (hidle.symm.trans h)
    obtain ⟨outer, houter, rfl⟩ := feed_openObject hst hfeed
    exact .inr ⟨outer, houter, rfl⟩
  | text s high =>
    cases h
    exact .inl ⟨_, rfl⟩
  | escape s high => cases h
  | unicode s high left code => cases h
  | number n =>
    rcases scan_number_cases h with ⟨n', hn, -⟩ | ⟨hc, -⟩ | ⟨q, hends, hbrace⟩
    · cases n <;> simp [NumberState.step, isDigit] at hn
    · cases hc
    · rw [hidle, feed_openObject_of_ends hends] at hbrace
      cases hbrace
  | word w seen =>
    have hword : w.text[seen]? ≠ some 123 := by
      intro hmem
      have hnone : ∀ c ∈ w.text, c ≠ 123 := by cases w <;> decide
      exact hnone 123 (List.mem_of_getElem? hmem) rfl
    simp only [scan, if_neg hword] at h
    cases h

/-- A string is a whole text only where a whole text begins. -/
theorem feed_text_ne_complete (hp : p ≠ .value []) : p.feed (.text s) ≠ .ok (.complete v []) := by
  intro h
  cases p with
  | value stack =>
    cases h
    exact hp rfl
  | first stack => cases h
  | key isFirst fields stack => cases isFirst <;> cases h
  | colon fields k stack => cases h
  | complete v stack =>
    cases stack with
    | nil => cases h
    | cons frame stack => cases frame <;> cases h

/-- Nothing is read where the first part of the text of an object stands behind an object that has begun. -/
theorem loads_behind {rest : CodePoints} (hfront : front.head? = some 123) (hread : loads text = .ok w)
    (htext : text = 123 :: 34 :: c :: rest) (hc : BeginsNothing c) (hs : s ≠ []) (hfirst : s <+: text) :
    ¬ ∃ v, loads (front ++ s) = .ok v := by
  rintro ⟨v, hv⟩
  obtain ⟨st, hrun, hfinish⟩ := loads_eq_ok hv
  obtain ⟨mid, hmid, hrest⟩ := run_append_eq_ok hrun
  have hbegun : mid.2 ≠ .value [] := by
    obtain ⟨more, rfl⟩ := List.head?_eq_some_iff.1 hfront
    have hopened : run (.idle, .key true [] []) more = .ok mid := hmid
    refine run_ne_value_nil ?_ hopened
    simp
  obtain rfl := finish_of_begun (run_ne_value_nil hbegun hrest) hfinish
  obtain ⟨d, s, rfl⟩ := List.exists_cons_of_ne_nil hs
  rw [htext] at hfirst
  obtain ⟨rfl, hmore⟩ := List.cons_prefix_cons.1 hfirst
  obtain ⟨st', hscan, hrest⟩ := run_cons_eq_ok hrest
  rcases scan_brace hbegun hscan with ⟨q, rfl⟩ | ⟨outer, houter, rfl⟩
  · -- the quote of the first key ends the string, and its first character is an error
    cases s with
    | nil => cases hrest
    | cons d s =>
      obtain ⟨rfl, hkeys⟩ := List.cons_prefix_cons.1 hmore
      obtain ⟨st', hquote, hrest⟩ := run_cons_eq_ok hrest
      obtain ⟨p', hfeed, rfl⟩ := map_idle_eq_ok hquote
      cases s with
      | nil =>
        cases hrest
        exact feed_text_ne_complete hbegun hfeed
      | cons d s =>
        obtain ⟨rfl, -⟩ := List.cons_prefix_cons.1 hkeys
        obtain ⟨st', hkey, -⟩ := run_cons_eq_ok hrest
        rw [scan, hc] at hkey
        cases hkey
  · -- what is read inside of the object ends on the stack that it was opened on
    obtain ⟨fin, hwhole, -⟩ := loads_eq_ok hread
    obtain ⟨more, hmore⟩ := hmore
    rw [htext, ← hmore, run_cons_ok (t := (.idle, .key true [] [])) rfl] at hwhole
    obtain ⟨⟨lexer, q⟩, hinner, -⟩ := run_append_eq_ok hwhole
    have hunder : run (.idle, .key true [] outer) s = .ok (lexer, q.under outer) := run_under hinner
    rw [hrest] at hunder
    obtain ⟨-, hcomplete⟩ := Prod.mk.inj (Except.ok.inj hunder)
    exact houter (under_complete hcomplete.symm)

end Behind

/-! ### Logs -/

/-- An object with the bytes of its line. -/
structure LogLine (style : DumpStyle) where
  fields : List (CodePoints × JsonValue)
  text : CodePoints
  bytes : List Nat
  dumped : dump style 0 (.object fields) = some text
  encoded : encodeUtf8 text = some bytes
  readable : Readable (.object fields)
  compact : style.indent = none
  opening : ∃ c rest, BeginsNothing c ∧ text = 123 :: 34 :: c :: rest

/-- How far a line was written: not at all, a part of its text, its text without the line break, or all of it. -/
inductive Extent where
  | nothing | part | text | line
  deriving DecidableEq

def Extent.of (written size : Nat) : Extent :=
  if written = 0 then .nothing else if written < size then .part else if written = size then .text else .line

variable {style : DumpStyle}

/-- The first bytes of a line with its line break. -/
structure LogWrite (style : DumpStyle) where
  line : LogLine style
  written : Nat

namespace LogWrite

def bytes (write : LogWrite style) : List Nat := (write.line.bytes ++ [10]).take write.written

/-- The object, and how far it was written. -/
def entry (write : LogWrite style) : JsonValue × Extent :=
  (.object write.line.fields, .of write.written write.line.bytes.length)

end LogWrite

/-- A line as it is read; `none` is one that is passed over. -/
def readLine (line : List Nat) : Option JsonValue := (decodeUtf8 line).bind fun text => (loads text).toOption

/-- The lines of a log that can be read, whether there is a line break behind the last one or not. -/
def readLog (bytes : List Nat) : List JsonValue := (bytes.splitOn 10).filterMap readLine

/-- What stands in the last line: nothing, an object without its line break, or something that is none. -/
inductive LogEnd where
  | fresh
  | complete (v : JsonValue)
  | broken

/-- The objects that are read behind a line that ends so. -/
def LogEnd.survivors : LogEnd → List (JsonValue × Extent) → List JsonValue
  | .complete v, [] => [v]
  | _, [] => []
  | e, (_, .nothing) :: entries => e.survivors entries
  | .fresh, (_, .part) :: entries => LogEnd.broken.survivors entries
  | .fresh, (v, .text) :: entries => (LogEnd.complete v).survivors entries
  | .fresh, (v, .line) :: entries => v :: LogEnd.fresh.survivors entries
  -- the line has something in it already
  | _, (_, .line) :: entries => LogEnd.fresh.survivors entries
  | _, _ :: entries => LogEnd.broken.survivors entries

section Logs

variable {line : LogLine style} {e : LogEnd} {front : List Nat} {n : Nat}

theorem LogLine.bytes_eq (line : LogLine style) :
    (∀ c ∈ line.text, IsScalar c) ∧ line.bytes = line.text.flatMap utf8Bytes := by
  have h := line.encoded
  rw [encodeUtf8, Option.ite_none_right_eq_some, Option.some.injEq] at h
  exact ⟨h.1, h.2.symm⟩

/-- The brace at the beginning. -/
theorem LogLine.exists_bytes (line : LogLine style) : ∃ more, line.bytes = 123 :: more := by
  obtain ⟨c, rest, -, htext⟩ := line.opening
  rw [line.bytes_eq.2, htext, List.flatMap_cons]
  exact ⟨_, rfl⟩

theorem LogLine.oneLine (line : LogLine style) : 10 ∉ line.bytes := by
  rw [line.bytes_eq.2, List.mem_flatMap]
  rintro ⟨c, hc, hmem⟩
  rw [← eq_of_mem_utf8Bytes (by decide) hmem] at hc
  exact line.readable.oneLine line.compact line.dumped hc

theorem LogLine.loads_text (line : LogLine style) : loads line.text = .ok (.object line.fields) :=
  loads_dump line.readable trivial line.dumped

/-- A line that stands alone is read. -/
theorem readLine_bytes (line : LogLine style) : readLine line.bytes = some (.object line.fields) := by
  rw [readLine, decodeUtf8_encodeUtf8 line.encoded, Option.bind_some, line.loads_text]
  rfl

/-- A line that is cut off is not read. -/
theorem readLine_take (hn : n < line.bytes.length) : readLine (line.bytes.take n) = none := by
  obtain ⟨hscalars, hbytes⟩ := line.bytes_eq
  rw [hbytes] at hn ⊢
  rw [readLine, decodeUtf8_take hscalars]
  cases hcut : utf8Cut n line.text with
  | none => rfl
  | some s =>
    have hne : s ≠ line.text := by
      rintro rfl
      exact utf8Cut_ne_self hn hcut
    exact loads_cut line.readable line.dumped (prefix_of_utf8Cut hcut) hne

/-- What is written behind the beginning of an object is not read. -/
theorem readLine_behind (hfront : front.head? = some 123) (hn : n ≠ 0) :
    readLine (front ++ line.bytes.take n) = none := by
  rw [readLine, Option.bind_eq_none_iff]
  intro text htext
  obtain ⟨m, rfl⟩ := Nat.exists_eq_succ_of_ne_zero hn
  obtain ⟨more, hmore⟩ := line.exists_bytes
  obtain ⟨back, rfl⟩ := List.head?_eq_some_iff.1 hfront
  rw [hmore, List.take_succ_cons] at htext
  obtain ⟨s, r, hs, hr, rfl⟩ := decodeUtf8_append_cons (by decide) htext
  rw [← List.take_succ_cons, ← hmore, line.bytes_eq.2, decodeUtf8_take line.bytes_eq.1] at hr
  obtain ⟨c, rest, hc, hopening⟩ := line.opening
  -- what is decoded begins with the brace on both sides
  have hbrace : decodeUtf8 [123] = some [123] := rfl
  have hfirst : s.head? = some 123 := by
    rw [← List.singleton_append, decodeUtf8_append hbrace, Option.map_eq_some_iff] at hs
    obtain ⟨s', -, rfl⟩ := hs
    rfl
  have hne : r ≠ [] := by
    rintro rfl
    rw [hopening, utf8Cut, if_neg hn, if_neg (by simp [utf8Bytes])] at hr
    obtain ⟨_, -, hnil⟩ := Option.map_eq_some_iff.1 hr
    cases hnil
  have hnone := loads_behind hfirst line.loads_text hopening hc hne (prefix_of_utf8Cut hr)
  cases hread : loads (s ++ r) with
  | error _ => rfl
  | ok v => exact absurd ⟨v, hread⟩ hnone

/-- The bytes of the last line. -/
def LogEnd.Holds (style : DumpStyle) : LogEnd → List Nat → Prop
  | .fresh, bytes => bytes = []
  | .complete v, bytes => ∃ line : LogLine style, v = .object line.fields ∧ bytes = line.bytes
  | .broken, bytes => bytes.head? = some 123 ∧ 10 ∉ bytes ∧ readLine bytes = none

theorem LogEnd.Holds.oneLine (h : e.Holds style front) : 10 ∉ front := by
  cases e with
  | fresh =>
    rw [show front = [] from h]
    exact List.not_mem_nil
  | complete v =>
    obtain ⟨line, -, rfl⟩ := h
    exact line.oneLine
  | broken => exact h.2.1

/-- Behind something, there is the beginning of an object in the line. -/
theorem LogEnd.Holds.head (h : e.Holds style front) : e = .fresh ∨ front.head? = some 123 := by
  cases e with
  | fresh => exact .inl rfl
  | complete v =>
    obtain ⟨line, -, rfl⟩ := h
    obtain ⟨more, hmore⟩ := line.exists_bytes
    rw [hmore]
    exact .inr rfl
  | broken => exact .inr h.1

/-- A part of a line in a line that is empty. -/
theorem holds_part (line : LogLine style) (hpos : n ≠ 0) (hn : n < line.bytes.length) :
    LogEnd.broken.Holds style (line.bytes.take n) := by
  obtain ⟨more, hmore⟩ := line.exists_bytes
  obtain ⟨m, rfl⟩ := Nat.exists_eq_succ_of_ne_zero hpos
  refine ⟨?_, fun hmem => line.oneLine (List.mem_of_mem_take hmem), readLine_take hn⟩
  rw [hmore]
  rfl

/-- A part of a line in a line with something in it. -/
theorem LogEnd.Holds.broken (h : e.Holds style front) (he : e ≠ .fresh) (line : LogLine style) (hpos : n ≠ 0) :
    LogEnd.broken.Holds style (front ++ line.bytes.take n) := by
  have hfront := h.head.resolve_left he
  refine ⟨?_, List.not_mem_append h.oneLine fun hmem => line.oneLine (List.mem_of_mem_take hmem),
    readLine_behind hfront hpos⟩
  rw [List.head?_append, hfront]
  rfl

theorem readLog_line (hfront : 10 ∉ front) (rest : List Nat) :
    readLog (front ++ 10 :: rest) = (readLine front).toList ++ readLog rest := by
  rw [readLog, List.splitOn_append_cons_self_of_not_mem hfront, List.filterMap_cons]
  cases readLine front <;> rfl

theorem readLog_last (hfront : 10 ∉ front) : readLog front = (readLine front).toList := by
  rw [readLog, List.splitOn_eq_singleton hfront, List.filterMap_cons]
  cases readLine front <;> rfl

/-- What is read of the writes behind an unfinished line. -/
theorem readLog_append (h : e.Holds style front) (writes : List (LogWrite style)) :
    readLog (front ++ writes.flatMap LogWrite.bytes) = e.survivors (writes.map LogWrite.entry) := by
  induction writes generalizing e front with
  | nil =>
    rw [List.flatMap_nil, List.append_nil, readLog_last h.oneLine]
    cases e with
    | fresh =>
      rw [show front = [] from h]
      rfl
    | complete v =>
      obtain ⟨line, rfl, rfl⟩ := h
      rw [readLine_bytes]
      rfl
    | broken =>
      rw [h.2.2]
      rfl
  | cons write writes ih =>
    obtain ⟨line, n⟩ := write
    rw [List.flatMap_cons, List.map_cons, LogWrite.entry, LogWrite.bytes, Extent.of]
    dsimp only
    split_ifs with hzero hpart htext
    · -- nothing was written
      rw [hzero, List.take_zero, List.nil_append, ih h]
      cases e <;> rfl
    · -- a part of the line, without its end
      rw [List.take_append_of_le_length (Nat.le_of_lt hpart), ← List.append_assoc]
      by_cases he : e = .fresh
      · subst he
        obtain rfl : front = [] := h
        rw [List.nil_append, ih (holds_part line hzero hpart)]
        rfl
      · rw [ih (h.broken he line hzero)]
        cases e <;> rfl
    · -- the text of the line without its end: behind an empty front it can still become a record
      rw [List.take_append_of_le_length (Nat.le_of_eq htext), ← List.append_assoc]
      by_cases he : e = .fresh
      · subst he
        obtain rfl : front = [] := h
        rw [List.nil_append, htext, List.take_length, ih (e := .complete (.object line.fields)) ⟨line, rfl, rfl⟩]
        rfl
      · rw [ih (h.broken he line hzero)]
        cases e with
        | fresh => exact absurd rfl he
        | complete _ | broken => rfl
    · -- the line is ended, and the next one is empty
      have hbreak : 10 ∉ front ++ line.bytes := List.not_mem_append h.oneLine line.oneLine
      have hrest : readLog ([] ++ writes.flatMap LogWrite.bytes) =
          LogEnd.fresh.survivors (writes.map LogWrite.entry) := ih (e := .fresh) rfl
      rw [List.nil_append] at hrest
      rw [List.take_of_length_le (by rw [List.length_append, List.length_singleton]; omega), List.append_assoc,
        List.singleton_append, ← List.append_assoc, readLog_line hbreak, hrest]
      by_cases he : e = .fresh
      · subst he
        rw [show front = [] from h, List.nil_append, readLine_bytes]
        rfl
      · -- a whole line behind an unfinished one is lost with it
        have hpos : line.bytes.length ≠ 0 := by
          obtain ⟨more, hmore⟩ := line.exists_bytes
          simp [hmore]
        have hnone : readLine (front ++ line.bytes.take line.bytes.length) = none :=
          readLine_behind (h.head.resolve_left he) hpos
        rw [List.take_length] at hnone
        rw [hnone]
        cases e with
        | fresh => exact absurd rfl he
        | complete _ | broken => rfl

/-- What a reader finds in a log. -/
theorem readLog_eq (writes : List (LogWrite style)) :
    readLog (writes.flatMap LogWrite.bytes) = LogEnd.fresh.survivors (writes.map LogWrite.entry) := by
  have hwhole : readLog ([] ++ writes.flatMap LogWrite.bytes) =
      LogEnd.fresh.survivors (writes.map LogWrite.entry) := readLog_append (e := .fresh) rfl writes
  exact hwhole

/-- The brace, the quote and the first character of the first key. -/
theorem exists_opening {c : Nat} {k text : CodePoints} {v : JsonValue} {fields : List (CodePoints × JsonValue)}
    (hindent : style.indent = none) (hc : escapeChar style.ensureAscii c = [c])
    (h : dump style 0 (.object ((c :: k, v) :: fields)) = some text) : ∃ rest, text = 123 :: 34 :: c :: rest := by
  simp only [dump, DumpStyle.newline, hindent, Option.bind_eq_bind, Option.bind_eq_some_iff, Option.pure_def,
    Option.some.injEq] at h
  obtain ⟨first, -, others, -, rfl⟩ := h
  simp [quoteText, hc]

/-! ### What is lost -/

/-- The line was not written to its end, but something of it was. -/
def Extent.isCut (x : Extent) : Bool := x = .part || x = .text

/-- A line with something in it costs the next whole line, if there is one. -/
theorem lines_le_survivors (e : LogEnd) (entries : List (JsonValue × Extent)) :
    entries.countP (fun entry => entry.2 = .line) ≤
      (e.survivors entries).length + entries.countP (fun entry => entry.2.isCut) +
        (match e with | .fresh => 0 | _ => 1) := by
  induction entries generalizing e with
  | nil => exact Nat.zero_le _
  | cons entry entries ih =>
    obtain ⟨v, x⟩ := entry
    have hfresh := ih .fresh
    have hbroken := ih .broken
    have hcomplete := ih (.complete v)
    have hsame := ih e
    rw [List.countP_cons, List.countP_cons]
    cases x <;> cases e <;>
      simp [LogEnd.survivors, Extent.isCut] at hfresh hbroken hcomplete hsame ⊢ <;> omega

end Logs

end OperatingOrganism.JsonText

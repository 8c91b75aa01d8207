import OperatingOrganism.Library.Execution
import OperatingOrganism.Library.JsonText

/-!
# Directives for the bot

The bridge reads the directives that the language model appends to a log, from the place where the last reading
ended. It reads to the end of the file, whether this is the end of a line or not, and passes over what is no message;
so a line that is not complete yet is lost. Where no poll takes a piece of a line, the polls return each directive
once and in order (`polls_return_each_once`).
-/

set_option autoImplicit false

namespace OperatingOrganism.Bridge

open Execution JsonText

/-! ### Messages -/

/-- The fields of `OOMessage` that a poll reads. -/
structure OOMessage where
  ooType : JsonValue
  timestamp : JsonValue
  msgId : JsonValue
  payload : JsonValue

structure LLMDirective where
  action : JsonValue
  target : JsonValue
  priority : JsonValue
  context : JsonValue
  expiresAt : JsonValue

/-- `cls(**d)` accepts the fields; it is a `TypeError` if `d` is not an object or has other ones. -/
def acceptsFields (names : List CodePoints) : JsonValue → Bool
  | .object fields => fields.all fun field => names.contains field.1
  | _ => false

/-- `OOMessage(**d)`, without `__post_init__`; `none` is a `TypeError`. -/
def OOMessage.ofDict (now : Rat) (d : JsonValue) : Option OOMessage :=
  if acceptsFields
    (["oo_type", "version", "timestamp", "from_entity", "to_entity", "msg_id", "payload"].map codePoints) d
  then (d.field? (codePoints "oo_type")).map fun ooType =>
    { ooType
      timestamp := (d.field? (codePoints "timestamp")).getD (.float now)
      msgId := (d.field? (codePoints "msg_id")).getD (.string [])
      payload := (d.field? (codePoints "payload")).getD (.object []) }
  else none

/-- A text with a surrogate, which cannot be encoded. Other values are formatted with escapes. -/
def hasSurrogate : JsonValue → Bool
  | .string s => s.any fun c => 0xd800 ≤ c && c ≤ 0xdfff
  | _ => false

mutual

/-- How many values are in one another below a value. -/
def height : JsonValue → Nat
  | .array items => itemsHeight items
  | .object fields => fieldsHeight fields
  | _ => 0

def itemsHeight : List JsonValue → Nat
  | [] => 0
  | v :: items => max (height v + 1) (itemsHeight items)

def fieldsHeight : List (CodePoints × JsonValue) → Nat
  | [] => 0
  | (_, v) :: fields => max (height v + 1) (fieldsHeight fields)

end

/-- The time of a poll, whether the log can be opened, and the room that the interpreter has left on its stack: for
open arrays and objects when a text is decoded, and for values in one another when a text is made of one. -/
structure Poll where
  now : Rat
  unreadable : Bool
  decodingRoom : Nat
  formattingRoom : Nat

/-- `__post_init__` raises a `RecursionError` or a `UnicodeEncodeError` when it makes the `msg_id`. -/
def OOMessage.postInitRaises (call : Poll) (msg : OOMessage) : Bool :=
  !msg.msgId.truthy &&
    (call.formattingRoom < height msg.timestamp || call.formattingRoom < height msg.ooType ||
      hasSurrogate msg.timestamp || hasSurrogate msg.ooType)

/-- `LLMDirective(**payload)`; `none` is a `TypeError`. -/
def LLMDirective.ofPayload (payload : JsonValue) : Option LLMDirective :=
  if acceptsFields (["action", "target", "priority", "context", "expires_at"].map codePoints) payload
  then (payload.field? (codePoints "action")).map fun action =>
    { action
      target := (payload.field? (codePoints "target")).getD (.string [])
      priority := (payload.field? (codePoints "priority")).getD (.string (codePoints "NORMAL"))
      context := (payload.field? (codePoints "context")).getD (.string [])
      expiresAt := (payload.field? (codePoints "expires_at")).getD (.float 0) }
  else none

/-- `expires_at == 0 or expires_at > time.time()`; what cannot be compared is a `TypeError`. -/
def LLMDirective.unexpired (now : Rat) (directive : LLMDirective) : Bool :=
  match directive.expiresAt with
  | .infinity negative => !negative
  | expiresAt =>
    match expiresAt.rational? with
    | some q => q = 0 || now < q
    | none => false

/-! ### One line -/

/-- What the loop makes of a line: a directive, nothing (where it passes, too), or an exception that it does not
catch. -/
inductive LineOutcome where
  | directive (d : LLMDirective)
  | passed
  | raised

/-- The body of the `try` in `poll_directives`. -/
def readLine (call : Poll) (line : CodePoints) : LineOutcome :=
  match loadsWithin call.decodingRoom line with
  | .error .decode => .passed
  | .error .value => .raised
  | .error .recursion => .raised
  -- `OOMessage.from_json`, then the type of the message, then the payload
  | .ok d =>
    match OOMessage.ofDict call.now d with
    | none => .passed
    | some msg =>
      if msg.postInitRaises call then .raised
      else if msg.ooType.rational? = some 10 then
        match LLMDirective.ofPayload msg.payload with
        | none => .passed
        | some directive => if directive.unexpired call.now then .directive directive else .passed
      else .passed

/-- The loop over the lines; `none` if an exception leaves it. -/
def readLines (call : Poll) : List LLMDirective → List CodePoints → Option (List LLMDirective)
  | directives, [] => some directives
  | directives, line :: lines =>
    if strip line = [] then readLines call directives lines
    else
      match readLine call (strip line) with
      | .directive d => readLines call (directives ++ [d]) lines
      | .passed => readLines call directives lines
      -- nothing is returned, and the position stays
      | .raised => none

/-! ### Polls -/

/-- The log, if there is one, `_last_directive_pos`, and what the polls have returned so far. -/
structure OOBridgeAgent where
  directivesLog : Option (List Nat)
  lastDirectivePos : Nat
  returned : List LLMDirective

namespace OOBridgeAgent

/-- What the log holds. -/
def content (st : OOBridgeAgent) : List Nat := st.directivesLog.getD []

/-- The text that a poll reads. -/
def unread (st : OOBridgeAgent) : Option CodePoints := decodeUtf8 (st.content.drop st.lastDirectivePos)

/-- `poll_directives`; it returns `none` where it raises. -/
def pollDirectives (st : OOBridgeAgent) (call : Poll) : OOBridgeAgent × Option (List LLMDirective) :=
  if st.directivesLog.isNone ∨ call.unreadable then (st, some [])
  else
    match st.unread with
    | none => (st, none)
    | some text =>
      match readLines call [] (textLines text) with
      | none => (st, none)
      | some directives =>
        -- `f.tell()` at the end of the file, complete line or not
        ({ st with lastDirectivePos := st.content.length, returned := st.returned ++ directives }, some directives)

end OOBridgeAgent

/-- What happens: bytes are appended to the log, or it is polled. -/
inductive BridgeOp where
  | append (bytes : List Nat)
  | poll (call : Poll)

def BridgeOp.run (st : OOBridgeAgent) : BridgeOp → OOBridgeAgent
  | .append bytes => { st with directivesLog := some (st.content ++ bytes) }
  | .poll call => (st.pollDirectives call).1

/-- A new bridge, and no log. -/
def OOBridgeAgent.start : OOBridgeAgent := ⟨none, 0, []⟩

/-! ### Lines of directives -/

/-- A line as it is appended: its bytes, the end of the line, and the directive that it is about. -/
structure DirectiveLine where
  body : List Nat
  ending : List Nat
  text : CodePoints
  directive : LLMDirective
  decodes : decodeUtf8 body = some text
  oneLine : ∀ c ∈ text, isLineEnd c = false
  ending_ne_nil : ending ≠ []
  isLineEnd_ending : ∀ c ∈ ending, isLineEnd c = true

def DirectiveLine.bytes (line : DirectiveLine) : List Nat := line.body ++ line.ending

/-- The lines, one behind the other, as bytes and as text. -/
def stream (lines : List DirectiveLine) : List Nat := lines.flatMap DirectiveLine.bytes

def streamText (lines : List DirectiveLine) : CodePoints := lines.flatMap fun line => line.text ++ line.ending

/-- All directives can be read, and none of them has expired. -/
def Current (lines : List DirectiveLine) (call : Poll) : Prop :=
  ∀ line ∈ lines, readLine call (strip line.text) = .directive line.directive

/-- What is appended is the next piece of the lines, wherever it ends. -/
def Feeds (lines : List DirectiveLine) (st : OOBridgeAgent) : BridgeOp → Prop
  | .append bytes => st.content ++ bytes <+: stream lines
  | .poll call => Current lines call

def BlankBytes (bytes : List Nat) : Prop := ∃ m, decodeUtf8 bytes = some m ∧ Blank m

/-- The log ends between two lines, or in the white space at the beginning or at the end of one. -/
def HarmlessCut (lines : List DirectiveLine) (done : List DirectiveLine) (bytes : List Nat) : Prop :=
  done <+: lines ∧
    ∃ margin, BlankBytes margin ∧ (bytes = stream done ++ margin ∨ bytes ++ margin = stream done)

/-- A poll that reads the log to its end finds no piece of a line there. -/
def TakesWholeLines (lines : List DirectiveLine) (st : OOBridgeAgent) : BridgeOp → Prop
  | .append _ => True
  | .poll call => call.unreadable = false → ∀ text, st.unread = some text →
      (∀ line ∈ textLines text, readLine call (strip line) ≠ .raised) →
      ∃ done, HarmlessCut lines done st.content

/-- The polls have returned the first directives, each once and in order. -/
def EachOnce (lines : List DirectiveLine) (st : OOBridgeAgent) : Prop :=
  ∃ done, done <+: lines ∧ st.returned = done.map DirectiveLine.directive

/-! ### Rows of directives -/

theorem decodeUtf8_ending {ending : List Nat} (h : ∀ c ∈ ending, isLineEnd c = true) :
    decodeUtf8 ending = some ending := by
  induction ending with
  | nil => rfl
  | cons c ending ih =>
    obtain ⟨hc, hending⟩ := List.forall_mem_cons.1 h
    have hone : decodeUtf8 [c] = some [c] := by
      simp only [isLineEnd, Bool.or_eq_true, decide_eq_true_eq] at hc
      rcases hc with rfl | rfl <;> rfl
    rw [← List.singleton_append, decodeUtf8_append hone, ih hending]
    rfl

theorem decodeUtf8_stream (lines : List DirectiveLine) : decodeUtf8 (stream lines) = some (streamText lines) := by
  induction lines with
  | nil => rfl
  | cons line lines ih =>
    rw [stream, List.flatMap_cons, ← stream, DirectiveLine.bytes, List.append_assoc, decodeUtf8_append line.decodes,
      decodeUtf8_append (decodeUtf8_ending line.isLineEnd_ending), ih]
    simp [streamText]

theorem blank_of_isLineEnd {s : CodePoints} (h : ∀ c ∈ s, isLineEnd c = true) : Blank s := by
  intro c hc
  have hend := h c hc
  simp only [isLineEnd, Bool.or_eq_true, decide_eq_true_eq] at hend
  rcases hend with rfl | rfl <;> rfl

/-- A directive is not blank. -/
theorem Current.strip_ne_nil {lines : List DirectiveLine} {call : Poll} (h : Current lines call)
    {line : DirectiveLine} (hline : line ∈ lines) : strip line.text ≠ [] := by
  intro hnil
  have hread := h line hline
  rw [hnil] at hread
  cases hread

/-- The rows of complete lines, and of what follows them. -/
theorem rows_streamText_append {lines : List DirectiveLine} (h : ∀ line ∈ lines, strip line.text ≠ [])
    (s : CodePoints) :
    rows isLineEnd (streamText lines ++ s) = lines.map (fun line => strip line.text) ++ rows isLineEnd s := by
  induction lines with
  | nil => rfl
  | cons line lines ih =>
    obtain ⟨hline, hlines⟩ := List.forall_mem_cons.1 h
    obtain ⟨e, es, hes⟩ := List.exists_cons_of_ne_nil line.ending_ne_nil
    have hends := line.isLineEnd_ending
    rw [hes] at hends
    obtain ⟨he, hblank⟩ := List.forall_mem_cons.1 hends
    rw [streamText, List.flatMap_cons, ← streamText, hes, List.append_assoc, List.append_assoc, List.cons_append,
      rows_append_cons _ _ he, rows_of_not_cut line.oneLine, if_neg hline,
      rows_blank_append (blank_of_isLineEnd hblank), ih hlines]
    rfl

theorem rows_streamText {lines : List DirectiveLine} (h : ∀ line ∈ lines, strip line.text ≠ []) :
    rows isLineEnd (streamText lines) = lines.map fun line => strip line.text := by
  simpa [rows, strip] using rows_streamText_append h []

section Cut

variable {lines done : List DirectiveLine} {bytes : List Nat} {text : CodePoints}

/-- The rows of a log that ends at a harmless place. -/
theorem HarmlessCut.rows_eq (h : HarmlessCut lines done bytes) (htext : decodeUtf8 bytes = some text)
    (hnot : ∀ line ∈ lines, strip line.text ≠ []) :
    rows isLineEnd text = done.map fun line => strip line.text := by
  obtain ⟨hdone, margin, ⟨m, hm, hblank⟩, hcut⟩ := h
  have hrows := rows_streamText fun line hline => hnot line (hdone.subset hline)
  rcases hcut with hcut | hcut
  · rw [hcut, decodeUtf8_append (decodeUtf8_stream done), hm] at htext
    rw [← Option.some.inj htext, rows_append_blank _ hblank, hrows]
  · have hall := decodeUtf8_append htext margin
    rw [hcut, decodeUtf8_stream, hm] at hall
    rw [← hrows, Option.some.inj hall, rows_append_blank _ hblank]

/-- What follows a harmless place has its own rows. -/
theorem HarmlessCut.rows_append (h : HarmlessCut lines done bytes) (htext : decodeUtf8 bytes = some text)
    (hnot : ∀ line ∈ lines, strip line.text ≠ []) {rest : List Nat} {next : CodePoints}
    (hrest : bytes ++ rest <+: stream lines) (hnext : decodeUtf8 rest = some next) :
    rows isLineEnd (text ++ next) = rows isLineEnd text ++ rows isLineEnd next := by
  rw [h.rows_eq htext hnot]
  obtain ⟨⟨todo, rfl⟩, margin, ⟨m, hm, hblank⟩, hcut⟩ := h
  have happend := rows_streamText_append fun line hline => hnot line (List.mem_append_left todo hline)
  rcases hcut with hcut | hcut
  · rw [hcut, decodeUtf8_append (decodeUtf8_stream done), hm] at htext
    rw [← Option.some.inj htext, List.append_assoc, happend, rows_blank_append hblank]
  · -- the rest of the margin comes next
    rw [stream, List.flatMap_append, ← stream, ← stream, ← hcut, List.append_assoc,
      List.prefix_append_right_inj] at hrest
    have hall := decodeUtf8_append htext margin
    rw [hcut, decodeUtf8_stream, hm] at hall
    have hdone : streamText done = text ++ m := Option.some.inj hall
    rcases List.prefix_or_prefix_of_prefix hrest (List.prefix_append margin (stream todo)) with hp | ⟨v, rfl⟩
    · -- not even the margin is complete: nothing but blanks is there
      obtain ⟨w, rfl⟩ := hp
      rw [decodeUtf8_append hnext] at hm
      obtain ⟨mw, -, rfl⟩ := Option.map_eq_some_iff.1 hm
      have hnextBlank : Blank next := (blank_append.1 hblank).1
      rw [rows_append_blank _ hnextBlank, rows_of_blank hnextBlank]
      have hself := happend []
      rw [List.append_nil, hdone, rows_append_blank _ hblank] at hself
      exact hself
    · -- the margin, and the beginning of further lines
      rw [decodeUtf8_append hm] at hnext
      obtain ⟨tv, -, rfl⟩ := Option.map_eq_some_iff.1 hnext
      rw [← List.append_assoc, ← hdone, happend, rows_blank_append hblank]

end Cut

/-! ### Polls of whole lines -/

/-- Lines whose rows are directives give these directives. -/
theorem readLines_directives {call : Poll} {ls : List DirectiveLine} {lines : List CodePoints}
    (hrows : (lines.map strip).filter (· ≠ []) = ls.map fun line => strip line.text)
    (hread : ∀ line ∈ ls, readLine call (strip line.text) = .directive line.directive)
    (directives : List LLMDirective) :
    readLines call directives lines = some (directives ++ ls.map DirectiveLine.directive) := by
  induction lines generalizing ls directives with
  | nil =>
    obtain rfl : ls = [] := List.map_eq_nil_iff.1 hrows.symm
    simp [readLines]
  | cons line lines ih =>
    rw [readLines]
    split
    · next hblank =>
      rw [List.map_cons, List.filter_cons_of_neg (by simp [hblank])] at hrows
      exact ih hrows hread directives
    · next hnot =>
      rw [List.map_cons, List.filter_cons_of_pos (by simpa using hnot)] at hrows
      obtain ⟨l, ls, rfl, hl, hls⟩ := List.map_eq_cons_iff.1 hrows.symm
      obtain ⟨hfirst, hothers⟩ := List.forall_mem_cons.1 hread
      rw [← hl, hfirst]
      simp only
      rw [ih hls.symm hothers, List.map_cons, ← List.append_cons]

/-- A loop that comes to its end has met no exception. -/
theorem not_raised_of_readLines {call : Poll} {lines : List CodePoints} {directives directives' : List LLMDirective}
    (h : readLines call directives lines = some directives') :
    ∀ line ∈ lines, readLine call (strip line) ≠ .raised := by
  induction lines generalizing directives with
  | nil => exact fun line hline => (nomatch hline)
  | cons line lines ih =>
    rw [readLines] at h
    split at h
    · next hblank =>
      refine List.forall_mem_cons.2 ⟨fun hraised => ?_, ih h⟩
      rw [hblank] at hraised
      cases hraised
    · split at h
      · next hread =>
        have hnot : readLine call (strip line) ≠ .raised := fun hraised =>
          LineOutcome.noConfusion (hread.symm.trans hraised)
        exact List.forall_mem_cons.2 ⟨hnot, ih h⟩
      · next hread =>
        have hnot : readLine call (strip line) ≠ .raised := fun hraised =>
          LineOutcome.noConfusion (hread.symm.trans hraised)
        exact List.forall_mem_cons.2 ⟨hnot, ih h⟩
      · cases h

/-- Where the position stands: at a harmless place, behind the lines whose directives were returned. -/
structure Positioned (lines : List DirectiveLine) (st : OOBridgeAgent) (done : List DirectiveLine) : Prop where
  written : st.content <+: stream lines
  pos_le : st.lastDirectivePos ≤ st.content.length
  cut : HarmlessCut lines done (st.content.take st.lastDirectivePos)
  decodes : ∃ text, decodeUtf8 (st.content.take st.lastDirectivePos) = some text
  returned : st.returned = done.map DirectiveLine.directive

/-- Bytes that are appended are not read yet. -/
theorem Positioned.append {lines : List DirectiveLine} {st : OOBridgeAgent} {done : List DirectiveLine}
    (h : Positioned lines st done) {bytes : List Nat} (hbytes : st.content ++ bytes <+: stream lines) :
    Positioned lines (BridgeOp.run st (.append bytes)) done := by
  have htake : (st.content ++ bytes).take st.lastDirectivePos = st.content.take st.lastDirectivePos :=
    List.take_append_of_le_length h.pos_le
  have hle : st.lastDirectivePos ≤ (st.content ++ bytes).length :=
    h.pos_le.trans (List.length_append ▸ Nat.le_add_right _ _)
  exact ⟨hbytes, hle, htake.symm ▸ h.cut, htake.symm ▸ h.decodes, h.returned⟩

/-- A poll that finds no piece of a line returns the directives of the lines that it finds. -/
theorem Positioned.pollDirectives {lines : List DirectiveLine} {st : OOBridgeAgent} {done done' : List DirectiveLine}
    (h : Positioned lines st done) {call : Poll} (hcurrent : Current lines call) {text : CodePoints}
    (hunread : st.unread = some text) (hcut : HarmlessCut lines done' st.content) :
    ∃ directives, readLines call [] (textLines text) = some directives ∧
      st.returned ++ directives = done'.map DirectiveLine.directive := by
  -- the text of the log is what was read and what is read now
  obtain ⟨before, hbefore⟩ := h.decodes
  have hnot : ∀ line ∈ lines, strip line.text ≠ [] := fun line hline => hcurrent.strip_ne_nil hline
  have hsplit : st.content.take st.lastDirectivePos ++ st.content.drop st.lastDirectivePos = st.content :=
    List.take_append_drop _ _
  have hall : decodeUtf8 st.content = some (before ++ text) := by
    rw [← hsplit, decodeUtf8_append hbefore, ← OOBridgeAgent.unread, hunread]
    rfl
  have hrows : done.map (fun line => strip line.text) ++ rows isLineEnd text =
      done'.map fun line => strip line.text := by
    rw [← h.cut.rows_eq hbefore hnot, ← hcut.rows_eq hall hnot]
    exact (h.cut.rows_append hbefore hnot (hsplit.symm ▸ h.written) hunread).symm
  -- the lines of both places are the first ones, and so the earlier are among the later
  have hlen : done.length ≤ done'.length := by
    have hlength := congrArg List.length hrows
    simp only [List.length_append, List.length_map] at hlength
    omega
  obtain ⟨found, rfl⟩ := List.prefix_of_prefix_length_le h.cut.1 hcut.1 hlen
  rw [List.map_append, List.append_cancel_left_eq] at hrows
  refine ⟨found.map DirectiveLine.directive, ?_, by rw [h.returned, List.map_append]⟩
  rw [readLines_directives ((rows_textLines text).trans hrows), List.nil_append]
  exact fun line hline => hcurrent line (hcut.1.subset (List.mem_append_right done hline))

/-- Every step leaves the position at a harmless place. -/
theorem Positioned.run {lines : List DirectiveLine} {st : OOBridgeAgent} {done : List DirectiveLine}
    (h : Positioned lines st done) {op : BridgeOp} (hfeeds : Feeds lines st op) (hwhole : TakesWholeLines lines st op) :
    ∃ done', Positioned lines (op.run st) done' := by
  cases op with
  | append bytes => exact ⟨done, h.append hfeeds⟩
  | poll call =>
    rw [BridgeOp.run, OOBridgeAgent.pollDirectives]
    split
    · exact ⟨done, h⟩
    · next hopen =>
      have hreadable : call.unreadable = false := Bool.eq_false_iff.2 (not_or.1 hopen).2
      rcases hunread : st.unread with _ | text
      · exact ⟨done, h⟩
      · rcases hlines : readLines call [] (textLines text) with _ | directives
        · exact ⟨done, by simpa only [hlines] using h⟩
        · obtain ⟨done', hcut⟩ := hwhole hreadable text hunread (not_raised_of_readLines hlines)
          obtain ⟨directives', hread, hreturned⟩ := h.pollDirectives hfeeds hunread hcut
          obtain rfl : directives = directives' := Option.some.inj (hlines.symm.trans hread)
          obtain ⟨before, hbefore⟩ := h.decodes
          have htake : st.content.take st.content.length = st.content := List.take_length
          refine ⟨done', ?_⟩
          simp only [hlines]
          refine ⟨h.written, le_rfl, htake.symm ▸ hcut, ⟨before ++ text, ?_⟩, hreturned⟩
          refine (congrArg decodeUtf8 htake).trans ?_
          rw [← List.take_append_drop st.lastDirectivePos st.content, decodeUtf8_append hbefore,
            ← OOBridgeAgent.unread, hunread]
          rfl

end OperatingOrganism.Bridge

import Mathlib.Data.List.DropRight
import OperatingOrganism.Library.Json

/-!
# Texts and their lines

How bytes become text, how a text is stripped, and how it is cut into lines. Decoding goes on where it was left
(`decodeUtf8_append`), and so does the assembly of lines from pieces (`drain_append`). The rows of a text are its
lines, stripped, without the blank ones; blanks around a text change nothing about them (`rows_append_blank`), and
they fall apart at the end of a line (`rows_append_cons`).
-/

set_option autoImplicit false

namespace OperatingOrganism

/-! ### White space -/

/-- `str.isspace` of a code point -/
def isSpace (c : Nat) : Bool :=
  (9 ≤ c && c ≤ 13) || (28 ≤ c && c ≤ 32) || (0x2000 ≤ c && c ≤ 0x200a) ||
    [0x85, 0xa0, 0x1680, 0x2028, 0x2029, 0x202f, 0x205f, 0x3000].contains c

/-- `str.strip` -/
def strip (s : CodePoints) : CodePoints := (s.dropWhile isSpace).rdropWhile isSpace

/-- Nothing but white space. -/
def Blank (s : CodePoints) : Prop := ∀ c ∈ s, isSpace c = true

theorem blank_append {s t : CodePoints} : Blank (s ++ t) ↔ Blank s ∧ Blank t := List.forall_mem_append

theorem strip_eq_nil_iff {s : CodePoints} : strip s = [] ↔ Blank s := by
  rw [strip, List.rdropWhile_eq_nil_iff]
  refine ⟨fun h c hc => ?_, fun h c hc => h c (List.dropWhile_suffix _ |>.subset hc)⟩
  rcases hd : s.dropWhile isSpace with _ | ⟨d, t⟩
  · exact List.dropWhile_eq_nil_iff.1 hd c hc
  · -- the first that is left would not be a space
    have hnot := List.head?_dropWhile_not isSpace s
    rw [hd, List.head?_cons] at hnot
    have hmem : d ∈ s.dropWhile isSpace := hd ▸ List.mem_cons_self
    simp [h d hmem] at hnot

theorem strip_blank_append {m : CodePoints} (h : Blank m) (s : CodePoints) : strip (m ++ s) = strip s := by
  rw [strip, strip, List.dropWhile_append_of_pos h]

theorem strip_append_blank (s : CodePoints) {m : CodePoints} (h : Blank m) : strip (s ++ m) = strip s := by
  by_cases hs : Blank s
  · rw [strip_eq_nil_iff.2 hs, strip_eq_nil_iff.2 (blank_append.2 ⟨hs, h⟩)]
  · have hne : s.dropWhile isSpace ≠ [] := fun hd => hs (List.dropWhile_eq_nil_iff.1 hd)
    rw [strip, strip, List.dropWhile_append, if_neg (by simpa using hne)]
    rw [List.rdropWhile, List.reverse_append, List.dropWhile_append_of_pos (by simpa [Blank] using h),
      ← List.rdropWhile]

theorem length_strip_le (s : CodePoints) : (strip s).length ≤ s.length :=
  (List.rdropWhile_prefix isSpace _).length_le.trans (List.dropWhile_suffix isSpace).length_le

/-! ### Rows -/

/-- The pieces between the characters at which a text is cut, stripped, without the blank ones. -/
def rows (p : Nat → Bool) (s : CodePoints) : List CodePoints := ((s.splitOnP p).map strip).filter (· ≠ [])

section Rows

variable {p : Nat → Bool} {s m : CodePoints}

theorem rows_of_not_cut (h : ∀ c ∈ s, p c = false) : rows p s = if strip s = [] then [] else [strip s] := by
  rw [rows, List.splitOnP_eq_singleton h]
  split <;> simp [*]

theorem rows_append_cons (s t : CodePoints) {c : Nat} (hc : p c = true) :
    rows p (s ++ c :: t) = rows p s ++ rows p t := by
  rw [rows, List.splitOnP_append_cons s t hc, List.map_append, List.filter_append]
  rfl

theorem rows_cons (s : CodePoints) {c : Nat} (hc : p c = true) : rows p (c :: s) = rows p s := by
  simpa [rows, strip] using rows_append_cons (p := p) [] s hc

/-- Blanks in front. -/
theorem rows_blank_append (h : Blank m) (s : CodePoints) : rows p (m ++ s) = rows p s := by
  induction m with
  | nil => rfl
  | cons c m ih =>
    obtain ⟨hc, hm⟩ := List.forall_mem_cons.1 h
    by_cases hp : p c = true
    · rw [List.cons_append, rows_cons _ hp, ih hm]
    · -- the blank belongs to the first piece, where it is stripped
      obtain ⟨head, tail, hsplit⟩ := List.exists_cons_of_ne_nil (List.splitOnP_ne_nil p (m ++ s))
      have hstrip : strip (c :: head) = strip head := strip_blank_append (m := [c]) (by simpa [Blank] using hc) head
      rw [← ih hm, List.cons_append, rows, rows, List.splitOnP_cons_eq_if_modifyHead, if_neg hp, hsplit,
        List.modifyHead_cons, List.map_cons, List.map_cons, hstrip]

theorem rows_of_blank (h : Blank m) : rows p m = [] := by
  have hnil := rows_blank_append (p := p) h []
  rw [List.append_nil] at hnil
  rw [hnil]
  rfl

/-- One blank behind. -/
theorem rows_concat_blank (s : CodePoints) {c : Nat} (hspace : isSpace c = true) (hc : p c = false) :
    rows p (s ++ [c]) = rows p s := by
  induction hlen : s.length using Nat.strong_induction_on generalizing s with
  | _ n ih =>
    -- behind the last cut the text is one piece; induction on the length
    by_cases hs : ∃ d ∈ s, p d = true
    · obtain ⟨d, hd, hp⟩ := hs
      obtain ⟨x, y, rfl⟩ := List.append_of_mem hd
      have hy : y.length < n := by
        rw [← hlen, List.length_append, List.length_cons]
        omega
      rw [List.append_assoc, List.cons_append, rows_append_cons _ _ hp, rows_append_cons _ _ hp, ih _ hy y rfl]
    · have huncut : ∀ d ∈ s, p d = false := fun d hd => Bool.eq_false_iff.2 fun hp => hs ⟨d, hd, hp⟩
      have hblank : Blank [c] := by simpa [Blank] using hspace
      rw [rows_of_not_cut huncut, rows_of_not_cut, strip_append_blank s hblank]
      exact List.forall_mem_append.2 ⟨huncut, List.forall_mem_singleton.2 hc⟩

/-- Blanks behind. -/
theorem rows_append_blank (s : CodePoints) (h : Blank m) : rows p (s ++ m) = rows p s := by
  induction m generalizing s with
  | nil => rw [List.append_nil]
  | cons c m ih =>
    obtain ⟨hc, hm⟩ := List.forall_mem_cons.1 h
    -- a blank that cuts leaves blanks, another one joins the last piece
    cases hp : p c with
    | true => rw [rows_append_cons _ _ hp, rows_of_blank hm, List.append_nil]
    | false => rw [List.append_cons, ih _ hm, rows_concat_blank s hc hp]

end Rows

/-! ### Reading in text mode -/

/-- The end of a line, as it is read. -/
def isLineEnd (c : Nat) : Bool := c = 10 || c = 13

/-- Universal newlines: a carriage return, with or without a line feed behind it, is read as a line feed. -/
def universalNewlines : CodePoints → CodePoints
  | 13 :: 10 :: s => 10 :: universalNewlines s
  | 13 :: s => 10 :: universalNewlines s
  | c :: s => c :: universalNewlines s
  | [] => []

/-- The lines of a text that is read in text mode; what follows the last line feed is one, if it is blank too. -/
def textLines (s : CodePoints) : List CodePoints := (universalNewlines s).splitOn 10

/-- In a line without an end there is nothing to cut at. -/
theorem rows_line {line : CodePoints} (hline : ∀ c ∈ line, isLineEnd c = false) :
    rows (· == 10) line = rows isLineEnd line := by
  rw [rows_of_not_cut hline, rows_of_not_cut]
  intro c hc
  have hnot := hline c hc
  simp only [isLineEnd, Bool.or_eq_false_iff, decide_eq_false_iff_not] at hnot
  simpa using hnot.1

theorem rows_append_universalNewlines (line s : CodePoints) (hline : ∀ c ∈ line, isLineEnd c = false) :
    rows (· == 10) (line ++ universalNewlines s) = rows isLineEnd (line ++ s) := by
  induction s using universalNewlines.induct generalizing line with
  | case1 s ih =>
    have hrest : rows (· == 10) (universalNewlines s) = rows isLineEnd s := ih [] fun _ hc => (nomatch hc)
    rw [universalNewlines, rows_append_cons line _ rfl, rows_append_cons line _ rfl, rows_cons _ rfl, rows_line hline,
      hrest]
  | case2 s hs ih =>
    have hrest : rows (· == 10) (universalNewlines s) = rows isLineEnd s := ih [] fun _ hc => (nomatch hc)
    rw [universalNewlines, rows_append_cons line _ rfl, rows_append_cons line _ rfl, rows_line hline, hrest]
    exact hs
  | case3 c s hs hs' ih =>
    rw [universalNewlines]
    · cases hc : isLineEnd c with
      | true =>
        have hten : c = 10 := by
          simp only [isLineEnd, Bool.or_eq_true, decide_eq_true_eq] at hc
          exact hc.resolve_right hs'
        have hrest : rows (· == 10) (universalNewlines s) = rows isLineEnd s := ih [] fun _ hc => (nomatch hc)
        rw [hten, rows_append_cons line _ rfl, rows_append_cons line _ rfl, rows_line hline, hrest]
      | false =>
        -- the character joins the line
        rw [List.append_cons, ih, ← List.append_cons]
        exact List.forall_mem_append.2 ⟨hline, List.forall_mem_singleton.2 hc⟩
    · exact hs
    · exact hs'
  | case4 => rw [universalNewlines, List.append_nil, rows_line hline]

/-- The rows of the lines that are read are those between any line ends. -/
theorem rows_textLines (s : CodePoints) :
    ((textLines s).map strip).filter (· ≠ []) = rows isLineEnd s :=
  rows_append_universalNewlines [] s fun _ hc => (nomatch hc)

/-! ### Assembling lines -/

/-- `while "\n" in buf: line, buf = buf.split("\n", 1)`: the lines, and what is left in the buffer. The first
argument is what has been seen of the present line. -/
def drain : CodePoints → CodePoints → List CodePoints × CodePoints
  | line, [] => ([], line)
  | line, c :: buf =>
    if c = 10 then (line :: (drain [] buf).1, (drain [] buf).2) else drain (line ++ [c]) buf

/-- More in the buffer. -/
theorem drain_append (line s t : CodePoints) :
    drain line (s ++ t) = ((drain line s).1 ++ (drain (drain line s).2 t).1, (drain (drain line s).2 t).2) := by
  induction s generalizing line with
  | nil => rfl
  | cons c s ih =>
    rw [List.cons_append, drain, drain]
    split
    · rw [ih]
      rfl
    · exact ih _

/-- Without a line feed nothing is taken out of the buffer. -/
theorem drain_line (line s : CodePoints) (h : 10 ∉ s) : drain line s = ([], line ++ s) := by
  induction s generalizing line with
  | nil => rw [List.append_nil, drain]
  | cons c s ih =>
    rw [List.mem_cons, not_or] at h
    obtain ⟨hc, hs⟩ := h
    rw [drain, if_neg (Ne.symm hc), ih _ hs, ← List.append_cons]

/-- What is left in the buffer has no line feed. -/
theorem not_mem_drain_snd {line : CodePoints} (hline : 10 ∉ line) (s : CodePoints) : 10 ∉ (drain line s).2 := by
  induction s generalizing line with
  | nil => exact hline
  | cons c s ih =>
    rw [drain]
    split
    · exact ih (List.not_mem_nil)
    · next hc =>
      refine ih fun hmem => ?_
      rcases List.mem_append.1 hmem with h | h
      · exact hline h
      · exact hc (List.mem_singleton.1 h).symm

/-- The buffer goes on where it was left. -/
theorem drain_buffer {line : CodePoints} (hline : 10 ∉ line) (s : CodePoints) :
    drain [] (line ++ s) = drain line s := by
  rw [drain_append, drain_line [] line hline]
  simp

theorem length_drain_fst (line s : CodePoints) : ∀ l ∈ (drain line s).1, l.length + 1 ≤ line.length + s.length := by
  induction s generalizing line with
  | nil => exact fun l hl => (nomatch hl)
  | cons c s ih =>
    rw [drain]
    split
    · refine List.forall_mem_cons.2 ⟨?_, fun l hl => ?_⟩
      · rw [List.length_cons]
        omega
      · have hle := ih [] l hl
        rw [List.length_nil] at hle
        rw [List.length_cons]
        omega
    · intro l hl
      have hle := ih (line ++ [c]) l hl
      rw [List.length_append, List.length_singleton] at hle
      rw [List.length_cons]
      omega

theorem length_drain_snd_le (line s : CodePoints) : (drain line s).2.length ≤ line.length + s.length := by
  induction s generalizing line with
  | nil => exact Nat.le_add_right _ _
  | cons c s ih =>
    rw [drain, List.length_cons]
    split
    · have hle := ih []
      rw [List.length_nil] at hle
      change (drain [] s).2.length ≤ _
      omega
    · have hle := ih (line ++ [c])
      rw [List.length_append, List.length_singleton] at hle
      omega

/-! ### Decoding -/

/-- `bytes.decode("ascii", errors="replace")` -/
def decodeAscii (bytes : List Nat) : CodePoints :=
  bytes.map fun b => if b < 0x80 then b else 0xfffd

theorem decodeAscii_append (s t : List Nat) : decodeAscii (s ++ t) = decodeAscii s ++ decodeAscii t := List.map_append

theorem decodeAscii_of_ascii {s : List Nat} (h : ∀ c ∈ s, c < 128) : decodeAscii s = s := by
  rw [decodeAscii]
  exact (List.map_congr_left fun c hc => if_pos (h c hc)).trans (List.map_id' s)

/-- A character that is not complete: its bits so far, the number of bytes that follow, and the bounds of the next. -/
structure Utf8Pending where
  value : Nat
  left : Nat
  low : Nat
  high : Nat

/-- One byte. Neither overlong forms nor surrogates nor numbers above `0x10ffff` are accepted. -/
def utf8Step : CodePoints × Option Utf8Pending → Nat → Option (CodePoints × Option Utf8Pending)
  | (text, none), b =>
    if b < 0x80 then some (text ++ [b], none)
    -- a continuation byte, or the beginning of an overlong form
    else if b < 0xc2 then none
    else if b < 0xe0 then some (text, some ⟨b - 0xc0, 1, 0x80, 0xbf⟩)
    else if b < 0xf0 then
      -- the bounds exclude overlong forms and surrogates
      some (text, some ⟨b - 0xe0, 2, if b = 0xe0 then 0xa0 else 0x80, if b = 0xed then 0x9f else 0xbf⟩)
    else if b < 0xf5 then
      -- and here numbers above 0x10ffff
      some (text, some ⟨b - 0xf0, 3, if b = 0xf0 then 0x90 else 0x80, if b = 0xf4 then 0x8f else 0xbf⟩)
    else none
  | (text, some p), b =>
    if p.low ≤ b ∧ b ≤ p.high then
      if p.left = 1 then some (text ++ [p.value * 64 + (b - 0x80)], none)
      else some (text, some ⟨p.value * 64 + (b - 0x80), p.left - 1, 0x80, 0xbf⟩)
    else none

def utf8Run (st : CodePoints × Option Utf8Pending) (bytes : List Nat) :
    Option (CodePoints × Option Utf8Pending) := bytes.foldlM (fun st b => utf8Step st b) st

/-- `bytes.decode("utf-8")`; `none` is a `UnicodeDecodeError`. -/
def decodeUtf8 (bytes : List Nat) : Option CodePoints :=
  match utf8Run ([], none) bytes with
  | some (text, none) => some text
  | _ => none

/-- What was decoded before has no influence. -/
theorem utf8Step_append (text text' : CodePoints) (pending : Option Utf8Pending) (b : Nat) :
    utf8Step (text ++ text', pending) b =
      (utf8Step (text', pending) b).map fun st => (text ++ st.1, st.2) := by
  cases pending <;> simp only [utf8Step] <;> split_ifs <;> simp

theorem utf8Run_append (text text' : CodePoints) (pending : Option Utf8Pending) (bytes : List Nat) :
    utf8Run (text ++ text', pending) bytes =
      (utf8Run (text', pending) bytes).map fun st => (text ++ st.1, st.2) := by
  -- each byte appends to the text at most, so the front is never looked at
  induction bytes generalizing text' pending with
  | nil => rfl
  | cons b bytes ih =>
    rw [utf8Run, utf8Run, List.foldlM_cons, List.foldlM_cons, utf8Step_append]
    cases utf8Step (text', pending) b with
    | none => rfl
    | some st => exact ih st.1 st.2

theorem utf8Run_of_decodeUtf8 {bytes : List Nat} {text : CodePoints} (h : decodeUtf8 bytes = some text) :
    utf8Run ([], none) bytes = some (text, none) := by
  unfold decodeUtf8 at h
  split at h
  · next hrun => rw [hrun, Option.some.inj h]
  · cases h

/-- Bytes that follow a text. -/
theorem decodeUtf8_append {bytes : List Nat} {text : CodePoints} (h : decodeUtf8 bytes = some text)
    (bytes' : List Nat) : decodeUtf8 (bytes ++ bytes') = (decodeUtf8 bytes').map (text ++ ·) := by
  have hrun : utf8Run ([], none) (bytes ++ bytes') =
      (utf8Run ([], none) bytes').map fun st => (text ++ st.1, st.2) := by
    rw [utf8Run, List.foldlM_append, ← utf8Run, utf8Run_of_decodeUtf8 h]
    have hshift := utf8Run_append text [] none bytes'
    rw [List.append_nil] at hshift
    exact hshift
  rw [decodeUtf8, decodeUtf8, hrun]
  rcases utf8Run ([], none) bytes' with _ | ⟨text', _ | pending⟩ <;> rfl

end OperatingOrganism

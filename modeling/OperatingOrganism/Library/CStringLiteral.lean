import Mathlib.Algebra.BigOperators.Group.List.Basic
import Mathlib.Algebra.GroupWithZero.Nat
import OperatingOrganism.Library.Utf8

/-!
# String literals of C

A source text is a list of characters, and a string literal in it stands for bytes. Trigraphs are replaced where the
dialect has them, lines that end in a backslash are joined, and the characters between two quotes are read, with the
escape sequences among them: simple ones, octal and hexadecimal numbers, and universal character names. A literal
that is not closed, the end of a line in it, an unknown escape sequence and a number that does not fit are ill-formed.
A line ends in a line feed, a carriage return, or both.

Every escape sequence, trigraph or joined line takes up more than it stands for. With a weight on the characters
that says how much more (`weight`), a text stands for at most half its weight (`le_weight_of_readString`), and it is
worth its full weight only if it is plain text with escaped quotes (`weight_sourceText`).
-/

set_option autoImplicit false

namespace OperatingOrganism.CStringLiteral

/-! ### Characters and lines -/

/-- The character that a trigraph with this last character stands for. -/
def trigraph? (c : Nat) : Option Nat :=
  [(0x3d, 0x23), (0x2f, 0x5c), (0x27, 0x5e), (0x28, 0x5b), (0x29, 0x5d), (0x21, 0x7c), (0x3c, 0x7b), (0x3e, 0x7d),
    (0x2d, 0x7e)].lookup c

/-- Two question marks and a third character that makes a trigraph of them are one character. -/
def replaceTrigraphs : CodePoints → CodePoints
  | 63 :: 63 :: c :: s =>
    match trigraph? c with
    | some d => d :: replaceTrigraphs s
    | none => 63 :: replaceTrigraphs (63 :: c :: s)
  | c :: s => c :: replaceTrigraphs s
  | [] => []

/-- A backslash at the end of a line joins it with the next one. -/
def joinLines : CodePoints → CodePoints
  | 92 :: 13 :: 10 :: s => joinLines s
  | 92 :: 13 :: s => joinLines s
  | 92 :: 10 :: s => joinLines s
  | c :: s => c :: joinLines s
  | [] => []

/-- No line ends in the text. -/
def OneLine (s : CodePoints) : Prop := 10 ∉ s ∧ 13 ∉ s

instance (s : CodePoints) : Decidable (OneLine s) := inferInstanceAs (Decidable (_ ∧ _))

@[simp] theorem oneLine_nil : OneLine [] := ⟨List.not_mem_nil, List.not_mem_nil⟩

theorem oneLine_cons_iff {c : Nat} {s : CodePoints} : OneLine (c :: s) ↔ (c ≠ 10 ∧ c ≠ 13) ∧ OneLine s := by
  simp only [OneLine, List.mem_cons, not_or, ne_eq, eq_comm (a := 10), eq_comm (a := 13)]
  tauto

/-- The text from which the tokens are read. -/
def sourceText (trigraphs : Bool) (s : CodePoints) : CodePoints :=
  joinLines (if trigraphs then replaceTrigraphs s else s)

/-! ### Reading a literal -/

def simpleEscape? (c : Nat) : Option Nat :=
  [(0x27, 0x27), (0x22, 0x22), (0x3f, 0x3f), (0x5c, 0x5c), (0x61, 7), (0x62, 8), (0x66, 12), (0x6e, 10), (0x72, 13),
    (0x74, 9), (0x76, 11)].lookup c

def octalDigit? (c : Nat) : Option Nat := if 0x30 ≤ c ∧ c < 0x38 then some (c - 0x30) else none

def hexDigit? (c : Nat) : Option Nat :=
  if 0x30 ≤ c ∧ c < 0x3a then some (c - 0x30)
  else if 0x41 ≤ c ∧ c < 0x47 then some (c - 0x41 + 10)
  else if 0x61 ≤ c ∧ c < 0x67 then some (c - 0x61 + 10)
  else none

/-- What is being read: plain text, what follows a backslash, or a number with its digits so far. -/
inductive LiteralState where
  | plain
  | escape
  | octal (value digits : Nat)
  | hex (value : Nat) (started : Bool)
  | universal (value digits left : Nat)
  deriving DecidableEq

/-- A universal character name names a character that has no simpler spelling. -/
def IsUniversal (c : Nat) : Prop := IsScalar c ∧ (0xa0 ≤ c ∨ c = 0x24 ∨ c = 0x40 ∨ c = 0x60)

instance (c : Nat) : Decidable (IsUniversal c) := inferInstanceAs (Decidable (_ ∧ _))

/-- The bytes that a character adds, and the next state; without one, the literal is closed. -/
abbrev LiteralMove := List Nat × Option LiteralState

def plainStep (c : Nat) : Option LiteralMove :=
  if c = 0x22 then some ([], none)
  else if c = 10 ∨ c = 13 then none
  else if c = 0x5c then some ([], some .escape)
  else some (utf8Bytes c, some .plain)

/-- A number that is complete is one byte; the character behind it is plain. -/
def numberStep (value c : Nat) : Option LiteralMove :=
  if value < 256 then (plainStep c).map fun m => (value :: m.1, m.2) else none

def literalStep : LiteralState → Nat → Option LiteralMove
  | .plain, c => plainStep c
  | .escape, c =>
    match simpleEscape? c with
    | some b => some ([b], some .plain)
    | none =>
      match octalDigit? c with
      | some d => some ([], some (.octal d 1))
      | none =>
        if c = 0x78 then some ([], some (.hex 0 false))
        else if c = 0x75 then some ([], some (.universal 0 0 4))
        else if c = 0x55 then some ([], some (.universal 0 0 8))
        else none
  | .octal value digits, c =>
    match octalDigit? c with
    | some d => if digits < 3 then some ([], some (.octal (8 * value + d) (digits + 1))) else numberStep value c
    | none => numberStep value c
  | .hex value started, c =>
    match hexDigit? c with
    | some d => some ([], some (.hex (16 * value + d) true))
    | none => if started then numberStep value c else none
  | .universal value digits left, c =>
    match hexDigit? c with
    | some d =>
      if left = 1 then
        if IsUniversal (16 * value + d) then some (utf8Bytes (16 * value + d), some .plain) else none
      else some ([], some (.universal (16 * value + d) (digits + 1) (left - 1)))
    | none => none

/-- The bytes up to the closing quote, and what follows it. -/
def readString : LiteralState → CodePoints → Option (List Nat × CodePoints)
  | _, [] => none
  | st, c :: s =>
    match literalStep st c with
    | none => none
    | some (bytes, none) => some (bytes, s)
    | some (bytes, some st') => (readString st' s).map fun r => (bytes ++ r.1, r.2)

/-- The bytes that the literal at the front of a text stands for, and what follows it. -/
def readLiteral (trigraphs : Bool) (s : CodePoints) : Option (List Nat × CodePoints) :=
  match sourceText trigraphs s with
  | 0x22 :: s => readString .plain s
  | _ => none

example : readLiteral true (codePoints "\"a\\x41\\n??/\"\\101b\" rest") =
    some ([0x61, 0x41, 10, 0x22, 0x41, 0x62], codePoints " rest") := by decide

/-! ### Weights -/

/-- Twice the bytes that a character stands for; a quote and a backslash, which escape each other, count once. -/
def weight (c : Nat) : Nat := if c = 0x22 ∨ c = 0x5c then 1 else 2 * (utf8Bytes c).length

def textWeight (s : CodePoints) : Nat := (s.map weight).sum

@[simp] theorem textWeight_nil : textWeight [] = 0 := rfl

@[simp] theorem textWeight_cons (c : Nat) (s : CodePoints) : textWeight (c :: s) = weight c + textWeight s := by
  simp [textWeight]

theorem weight_pos (c : Nat) : 0 < weight c := by
  have hlength := List.length_pos_of_ne_nil (utf8Bytes_ne_nil c)
  unfold weight
  split <;> omega

theorem two_le_weight {c : Nat} (hquote : c ≠ 0x22) (hbackslash : c ≠ 0x5c) : 2 ≤ weight c := by
  have hlength := List.length_pos_of_ne_nil (utf8Bytes_ne_nil c)
  rw [weight, if_neg (not_or.2 ⟨hquote, hbackslash⟩)]
  omega

theorem length_utf8Bytes_le (c : Nat) : (utf8Bytes c).length ≤ 4 := by
  unfold utf8Bytes
  split_ifs <;> simp

/-- What has been read of a number or an escape sequence, and stands for nothing yet. -/
def LiteralState.credit : LiteralState → Nat
  | .plain => 0
  | .escape => 1
  | .octal _ _ => 3
  | .hex _ _ => 3
  | .universal _ digits _ => 3 + 2 * digits

/-- A universal character name has at least four digits. -/
def LiteralState.Valid : LiteralState → Prop
  | .universal _ digits left => 4 ≤ digits + left ∧ 0 < left
  | _ => True

/-- A character that was read closes the literal or goes into the next state, and pays for the bytes that it adds. -/
structure Pays (credit c : Nat) (m : LiteralMove) : Prop where
  line : c ≠ 10 ∧ c ≠ 13
  closes : m.2 = none → c = 0x22 ∧ 2 * m.1.length ≤ credit
  goesOn : ∀ st, m.2 = some st → st.Valid ∧ 2 * m.1.length + st.credit ≤ credit + weight c

/-- A step that goes on, and pays for the bytes that it adds and for its state. -/
theorem pays_of_goesOn {credit c : Nat} {bytes : List Nat} {st : LiteralState} (hline : c ≠ 10 ∧ c ≠ 13)
    (hvalid : st.Valid) (hcredit : 2 * bytes.length + st.credit ≤ credit + weight c) : Pays credit c (bytes, some st) := by
  refine ⟨hline, fun hnone => ?_, fun st' hst' => ?_⟩
  · cases hnone
  · obtain rfl := Option.some.inj hst'
    exact ⟨hvalid, hcredit⟩

/-- A step that adds nothing. -/
theorem pays_of_state {credit c : Nat} {st : LiteralState} (hline : c ≠ 10 ∧ c ≠ 13) (hvalid : st.Valid)
    (hcredit : st.credit ≤ credit + weight c) : Pays credit c ([], some st) :=
  pays_of_goesOn hline hvalid (by simpa using hcredit)

theorem plainStep_pays {c : Nat} {m : LiteralMove} (h : plainStep c = some m) : Pays 0 c m := by
  unfold plainStep at h
  split_ifs at h with hquote hline hbackslash
  · obtain rfl := Option.some.inj h
    refine ⟨by omega, fun _ => ⟨hquote, Nat.le_refl _⟩, fun st hst => ?_⟩
    cases hst
  · obtain rfl := Option.some.inj h
    exact pays_of_state (not_or.1 hline) trivial (by rw [hbackslash]; decide)
  · obtain rfl := Option.some.inj h
    refine pays_of_goesOn (not_or.1 hline) trivial ?_
    rw [weight, if_neg (not_or.2 ⟨hquote, hbackslash⟩)]
    simp [LiteralState.credit]

/-- A complete number has been paid for by its digits. -/
theorem numberStep_pays {value c : Nat} {m : LiteralMove} (h : numberStep value c = some m) : Pays 3 c m := by
  unfold numberStep at h
  split at h
  · obtain ⟨m', hm', rfl⟩ := Option.map_eq_some_iff.1 h
    have hpays := plainStep_pays hm'
    refine ⟨hpays.line, fun hnone => ?_, fun st hst => ?_⟩
    · obtain ⟨hquote, hlength⟩ := hpays.closes hnone
      refine ⟨hquote, ?_⟩
      rw [List.length_cons]
      omega
    · obtain ⟨hvalid, hcredit⟩ := hpays.goesOn st hst
      refine ⟨hvalid, ?_⟩
      rw [List.length_cons]
      omega
  · cases h

theorem octalDigit?_range {c d : Nat} (h : octalDigit? c = some d) : 0x30 ≤ c ∧ c < 0x38 := by
  unfold octalDigit? at h
  split at h
  · next hrange => exact hrange
  · cases h

theorem hexDigit?_range {c d : Nat} (h : hexDigit? c = some d) : (c ≠ 10 ∧ c ≠ 13) ∧ 2 ≤ weight c := by
  have hrange : (0x30 ≤ c ∧ c < 0x3a) ∨ (0x41 ≤ c ∧ c < 0x47) ∨ (0x61 ≤ c ∧ c < 0x67) := by
    unfold hexDigit? at h
    split_ifs at h <;> omega
  exact ⟨by omega, two_le_weight (by omega) (by omega)⟩

theorem simpleEscape?_ne {c b : Nat} (h : simpleEscape? c = some b) : c ≠ 10 ∧ c ≠ 13 := by
  constructor
  · rintro rfl
    cases h
  · rintro rfl
    cases h

/-- The character behind a backslash ends no line, and pays. -/
theorem escapeStep_pays {c : Nat} {m : LiteralMove} (h : literalStep .escape c = some m) : Pays 1 c m := by
  rw [literalStep] at h
  split at h
  · next b hsimple =>
    obtain rfl := Option.some.inj h
    have hpos := weight_pos c
    refine pays_of_goesOn (simpleEscape?_ne hsimple) trivial ?_
    simp only [List.length_singleton, LiteralState.credit]
    omega
  · split at h
    · next d hoctal =>
      obtain rfl := Option.some.inj h
      have hrange := octalDigit?_range hoctal
      have hweight : 2 ≤ weight c := two_le_weight (by omega) (by omega)
      exact pays_of_state (by omega) trivial (by simp only [LiteralState.credit]; omega)
    · split_ifs at h with hx hu hU
      · obtain rfl := Option.some.inj h
        have hweight : 2 ≤ weight c := two_le_weight (by omega) (by omega)
        exact pays_of_state (by omega) trivial (by simp only [LiteralState.credit]; omega)
      · obtain rfl := Option.some.inj h
        have hweight : 2 ≤ weight c := two_le_weight (by omega) (by omega)
        exact pays_of_state (by omega) ⟨by decide, by decide⟩ (by simp only [LiteralState.credit]; omega)
      · obtain rfl := Option.some.inj h
        have hweight : 2 ≤ weight c := two_le_weight (by omega) (by omega)
        exact pays_of_state (by omega) ⟨by decide, by decide⟩ (by simp only [LiteralState.credit]; omega)

/-- Every step pays. -/
theorem literalStep_pays {st : LiteralState} (hvalid : st.Valid) {c : Nat} {m : LiteralMove}
    (h : literalStep st c = some m) : Pays st.credit c m := by
  cases st with
  | plain => exact plainStep_pays h
  | escape => exact escapeStep_pays h
  | octal value digits =>
    rw [literalStep] at h
    split at h
    · next d hoctal =>
      split at h
      · obtain rfl := Option.some.inj h
        have hrange := octalDigit?_range hoctal
        exact pays_of_state (by omega) trivial (by simp only [LiteralState.credit]; omega)
      · exact numberStep_pays h
    · exact numberStep_pays h
  | hex value started =>
    rw [literalStep] at h
    split at h
    · next d hhex =>
      obtain rfl := Option.some.inj h
      exact pays_of_state (hexDigit?_range hhex).1 trivial (by simp only [LiteralState.credit]; omega)
    · split at h
      · exact numberStep_pays h
      · cases h
  | universal value digits left =>
    rw [literalStep] at h
    split at h
    · next d hhex =>
      obtain ⟨hline, hweight⟩ := hexDigit?_range hhex
      obtain ⟨hdigits, hleft⟩ := hvalid
      split at h
      · next hone =>
        split at h
        · -- the last digit: at most four bytes, and at least six characters have been read
          obtain rfl := Option.some.inj h
          have hlength := length_utf8Bytes_le (16 * value + d)
          refine pays_of_goesOn hline trivial ?_
          simp only [LiteralState.credit]
          omega
        · cases h
      · obtain rfl := Option.some.inj h
        refine pays_of_state hline ⟨by omega, by omega⟩ ?_
        simp only [LiteralState.credit]
        omega
    · cases h

/-- What is read up to the closing quote is one line, and stands for at most half its weight. -/
theorem le_weight_of_readString {st : LiteralState} (hvalid : st.Valid) {s rest : CodePoints} {bytes : List Nat}
    (h : readString st s = some (bytes, rest)) :
    ∃ content, s = content ++ 0x22 :: rest ∧ OneLine content ∧ 2 * bytes.length ≤ textWeight content + st.credit := by
  induction s generalizing st bytes with
  | nil => cases h
  | cons c s ih =>
    rw [readString] at h
    split at h
    · cases h
    · next out hstep =>
      obtain ⟨rfl, rfl⟩ := Prod.mk.inj (Option.some.inj h)
      obtain ⟨rfl, hlength⟩ := (literalStep_pays hvalid hstep).closes rfl
      exact ⟨[], rfl, oneLine_nil, by simpa using hlength⟩
    · next out st' hstep =>
      have hpays := literalStep_pays hvalid hstep
      obtain ⟨hvalid', hcredit⟩ := hpays.goesOn st' rfl
      obtain ⟨⟨bytes', rest'⟩, hread, heq⟩ := Option.map_eq_some_iff.1 h
      obtain ⟨rfl, rfl⟩ := Prod.mk.inj heq
      obtain ⟨content, rfl, hline, hlength⟩ := ih hvalid' hread
      refine ⟨c :: content, rfl, oneLine_cons_iff.2 ⟨hpays.line, hline⟩, ?_⟩
      simp only [List.length_append, textWeight_cons] at hcredit ⊢
      omega

/-! ### What the first phases do to a text -/

/-- A trigraph stands for something lighter, and has no quote in it. -/
theorem trigraph?_spec {c d : Nat} (h : trigraph? c = some d) : weight d ≤ 2 ∧ 2 ≤ weight c ∧ c ≠ 0x22 ∧ d ≠ 0x22 := by
  have hmem : (c, d) ∈ [(0x3d, 0x23), (0x2f, 0x5c), (0x27, 0x5e), (0x28, 0x5b), (0x29, 0x5d), (0x21, 0x7c),
      (0x3c, 0x7b), (0x3e, 0x7d), (0x2d, 0x7e)] := by
    obtain ⟨l, r, hsplit, -⟩ := List.lookup_eq_some_iff.1 h
    rw [hsplit]
    simp
  have hall : ∀ p ∈ [(0x3d, 0x23), (0x2f, 0x5c), (0x27, 0x5e), (0x28, 0x5b), (0x29, 0x5d), (0x21, 0x7c),
      (0x3c, 0x7b), (0x3e, 0x7d), (0x2d, 0x7e)], weight p.2 ≤ 2 ∧ 2 ≤ weight p.1 ∧ p.1 ≠ 0x22 ∧ p.2 ≠ 0x22 := by
    decide
  exact hall _ hmem

/-- What is a text or lighter is not heavier. -/
theorem textWeight_le_of_eq_or_lt {s t : CodePoints} (h : t = s ∨ textWeight t < textWeight s) :
    textWeight t ≤ textWeight s := by
  rcases h with rfl | hlt
  · exact Nat.le_refl _
  · exact Nat.le_of_lt hlt

/-- A code point in front of both does not matter. -/
theorem cons_eq_or_lt {s t : CodePoints} (c : Nat) (h : t = s ∨ textWeight t < textWeight s) :
    c :: t = c :: s ∨ textWeight (c :: t) < textWeight (c :: s) := by
  rcases h with rfl | hlt
  · exact .inl rfl
  · refine .inr ?_
    simp only [textWeight_cons]
    exact Nat.add_lt_add_left hlt (weight c)

theorem weight_replaceTrigraphs (s : CodePoints) :
    replaceTrigraphs s = s ∨ textWeight (replaceTrigraphs s) < textWeight s := by
  induction s using replaceTrigraphs.induct with
  | case1 c s d hd ih =>
    rw [replaceTrigraphs, hd]
    obtain ⟨hlight, hheavy, -⟩ := trigraph?_spec hd
    have hmark : weight 63 = 2 := by decide
    have hle := textWeight_le_of_eq_or_lt ih
    refine .inr ?_
    simp only [textWeight_cons]
    omega
  | case2 c s hnone ih =>
    rw [replaceTrigraphs, hnone]
    exact cons_eq_or_lt 63 ih
  | case3 c s hnot ih =>
    rw [replaceTrigraphs]
    · exact cons_eq_or_lt c ih
    · exact hnot
  | case4 => exact .inl rfl

/-- Only a backslash before the end of a line is dropped. -/
theorem joinLines_cons {c : Nat} {s : CodePoints} (h : c = 92 → ∀ d s', s = d :: s' → d ≠ 10 ∧ d ≠ 13) :
    joinLines (c :: s) = c :: joinLines s := by
  rw [joinLines]
  · rintro s' rfl rfl
    exact (h rfl 13 (10 :: s') rfl).2 rfl
  · rintro s' rfl rfl
    exact (h rfl 13 s' rfl).2 rfl
  · rintro s' rfl rfl
    exact (h rfl 10 s' rfl).1 rfl

theorem weight_joinLines (s : CodePoints) : joinLines s = s ∨ textWeight (joinLines s) < textWeight s := by
  have hpos := weight_pos 92
  induction s using joinLines.induct with
  | case1 s ih | case3 s ih =>
    rw [joinLines]
    have hle := textWeight_le_of_eq_or_lt ih
    refine .inr ?_
    simp only [textWeight_cons]
    omega
  | case2 s hnot ih =>
    have hle := textWeight_le_of_eq_or_lt ih
    rw [joinLines]
    · refine .inr ?_
      simp only [textWeight_cons]
      omega
    · exact hnot
  | case4 c s hboth hreturn hfeed ih =>
    rw [joinLines]
    · exact cons_eq_or_lt c ih
    · exact hboth
    · exact hreturn
    · exact hfeed
  | case5 => exact .inl rfl

/-- A text is read as it stands, or loses weight. -/
theorem weight_sourceText (trigraphs : Bool) (s : CodePoints) :
    ((trigraphs = true → replaceTrigraphs s = s) ∧ sourceText trigraphs s = s) ∨
      textWeight (sourceText trigraphs s) < textWeight s := by
  unfold sourceText
  cases trigraphs with
  | false =>
    rcases weight_joinLines s with heq | hlt
    · exact .inl ⟨Bool.noConfusion, heq⟩
    · exact .inr hlt
  | true =>
    rcases weight_joinLines (replaceTrigraphs s) with hjoin | hjoin
    · rcases weight_replaceTrigraphs s with heq | hlt
      · exact .inl ⟨fun _ => heq, hjoin.trans heq⟩
      · exact .inr (by simpa [hjoin] using hlt)
    · exact .inr (Nat.lt_of_lt_of_le hjoin (textWeight_le_of_eq_or_lt (weight_replaceTrigraphs s)))

/-- Nothing happens across a quote. -/
theorem replaceTrigraphs_quote (s t : CodePoints) :
    replaceTrigraphs (s ++ 0x22 :: t) = replaceTrigraphs s ++ 0x22 :: replaceTrigraphs t := by
  induction s using replaceTrigraphs.induct with
  | case1 c s d hd ih => simp only [List.cons_append, replaceTrigraphs, hd, ih]
  | case2 c s hnone ih =>
    rw [List.cons_append, List.cons_append] at ih
    simp only [List.cons_append, replaceTrigraphs, hnone, ih]
  | case3 c s hnot ih =>
    have hquote : trigraph? 0x22 = none := by decide
    have hone : replaceTrigraphs (c :: s) = c :: replaceTrigraphs s := by
      rw [replaceTrigraphs]
      exact hnot
    rw [hone, List.cons_append, List.cons_append, ← ih]
    -- the quote is not the third character of a trigraph either
    rcases s with _ | ⟨c₁, _ | ⟨c₂, s⟩⟩
    · rw [List.nil_append, replaceTrigraphs]
      rintro c' s' - heq
      simp at heq
    · rw [List.cons_append, List.nil_append]
      by_cases hmarks : c = 63 ∧ c₁ = 63
      · obtain ⟨rfl, rfl⟩ := hmarks
        rw [replaceTrigraphs, hquote]
      · rw [replaceTrigraphs]
        rintro c' s' rfl heq
        simp only [List.cons.injEq] at heq
        exact hmarks ⟨rfl, heq.1⟩
    · rw [List.cons_append, List.cons_append, replaceTrigraphs]
      rintro c' s' rfl heq
      simp only [List.cons.injEq] at heq
      obtain ⟨rfl, rfl, -⟩ := heq
      exact hnot c₂ s rfl rfl
  | case4 => simp only [List.nil_append, replaceTrigraphs]

theorem joinLines_quote (s t : CodePoints) : joinLines (s ++ 0x22 :: t) = joinLines s ++ 0x22 :: joinLines t := by
  induction s using joinLines.induct with
  | case1 s ih | case3 s ih => simp only [List.cons_append, joinLines, ih]
  | case2 s hnot ih =>
    have hone : joinLines (92 :: 13 :: s) = joinLines s := by
      rw [joinLines]
      exact hnot
    rw [hone, ← ih, List.cons_append, List.cons_append, joinLines]
    rcases s with _ | ⟨c, s⟩
    · rintro s' heq
      simp at heq
    · rintro s' heq
      rw [List.cons_append, List.cons.injEq] at heq
      exact hnot s (by rw [heq.1])
  | case4 c s hboth hreturn hfeed ih =>
    have hone : joinLines (c :: s) = c :: joinLines s := joinLines_cons fun hc d s' hs => by
      subst hc hs
      exact ⟨fun hd => hfeed s' rfl (by rw [hd]), fun hd => hreturn s' rfl (by rw [hd])⟩
    rw [hone, List.cons_append, List.cons_append, ← ih]
    apply joinLines_cons
    rintro rfl d s' hs
    rcases s with _ | ⟨c₁, s⟩
    · rw [List.nil_append, List.cons.injEq] at hs
      omega
    · rw [List.cons_append, List.cons.injEq] at hs
      exact ⟨fun hd => hfeed s rfl (by rw [hs.1, hd]), fun hd => hreturn s rfl (by rw [hs.1, hd])⟩
  | case5 => simp only [List.nil_append, joinLines]

theorem sourceText_quote (trigraphs : Bool) (s t : CodePoints) :
    sourceText trigraphs (s ++ 0x22 :: t) = sourceText trigraphs s ++ 0x22 :: sourceText trigraphs t := by
  cases trigraphs with
  | false => exact joinLines_quote s t
  | true =>
    simp only [sourceText, if_true]
    rw [replaceTrigraphs_quote, joinLines_quote]

/-- A text with two question marks and a third character that makes a trigraph of them. -/
def HasTrigraph (s : CodePoints) : Prop := ∃ c d, trigraph? c = some d ∧ [63, 63, c] <:+: s

/-- A code point in front that starts none does not matter. -/
theorem hasTrigraph_cons_iff {x : Nat} {s : CodePoints}
    (h : ∀ c d, trigraph? c = some d → ¬ [63, 63, c] <+: x :: s) : HasTrigraph (x :: s) ↔ HasTrigraph s := by
  constructor
  · rintro ⟨c, d, hd, hinfix⟩
    rcases List.infix_cons_iff.1 hinfix with hfront | hinfix
    · exact absurd hfront (h c d hd)
    · exact ⟨c, d, hd, hinfix⟩
  · rintro ⟨c, d, hd, hinfix⟩
    exact ⟨c, d, hd, List.infix_cons hinfix⟩

theorem replaceTrigraphs_eq_self_iff {s : CodePoints} : replaceTrigraphs s = s ↔ ¬ HasTrigraph s := by
  induction s using replaceTrigraphs.induct with
  | case1 c s d hd ih =>
    refine iff_of_false (fun heq => ?_) (not_not_intro ⟨c, d, hd, List.prefix_append [63, 63, c] s |>.isInfix⟩)
    -- the trigraph makes the text shorter
    rcases weight_replaceTrigraphs s with hsame | hlt
    · rw [replaceTrigraphs, hd] at heq
      have hlength := congrArg List.length heq
      simp only [hsame, List.length_cons] at hlength
      omega
    · have hweight := congrArg textWeight heq
      rw [replaceTrigraphs, hd] at hweight
      obtain ⟨hlight, -⟩ := trigraph?_spec hd
      have hmark : weight 63 = 2 := by decide
      simp only [textWeight_cons] at hweight
      omega
  | case2 c s hnone ih =>
    rw [replaceTrigraphs, hnone]
    refine (List.cons_inj_right 63).trans (ih.trans (not_congr (hasTrigraph_cons_iff ?_).symm))
    rintro c' d hd ⟨rest, hrest⟩
    simp only [List.cons_append, List.cons.injEq, true_and] at hrest
    rw [hrest.1, hnone] at hd
    cases hd
  | case3 c s hnot ih =>
    have hone : replaceTrigraphs (c :: s) = c :: replaceTrigraphs s := by
      rw [replaceTrigraphs]
      exact hnot
    rw [hone]
    refine (List.cons_inj_right c).trans (ih.trans (not_congr (hasTrigraph_cons_iff ?_).symm))
    rintro c' d hd ⟨rest, hrest⟩
    simp only [List.cons_append, List.nil_append, List.cons.injEq] at hrest
    exact hnot c' rest hrest.1.symm hrest.2.symm
  | case4 =>
    refine iff_of_true rfl ?_
    rintro ⟨c, d, -, hinfix⟩
    exact absurd (List.infix_nil.1 hinfix) (List.cons_ne_nil _ _)

theorem joinLines_of_oneLine {s : CodePoints} (h : OneLine s) : joinLines s = s := by
  induction s with
  | nil => rfl
  | cons c s ih =>
    obtain ⟨-, hrest⟩ := oneLine_cons_iff.1 h
    rw [joinLines_cons, ih hrest]
    rintro - d s' rfl
    exact (oneLine_cons_iff.1 hrest).1

/-! ### Escaped quotes -/

/-- Every quote gets a backslash. -/
def escapeQuotes (s : CodePoints) : CodePoints := s.flatMap fun c => if c = 0x22 then [0x5c, 0x22] else [c]

@[simp] theorem escapeQuotes_quote (s : CodePoints) : escapeQuotes (0x22 :: s) = 0x5c :: 0x22 :: escapeQuotes s := rfl

theorem escapeQuotes_cons {c : Nat} (hc : c ≠ 0x22) (s : CodePoints) : escapeQuotes (c :: s) = c :: escapeQuotes s := by
  rw [escapeQuotes, List.flatMap_cons, if_neg hc]
  rfl

theorem escapeQuotes_of_not_mem {s : CodePoints} (h : 0x22 ∉ s) : escapeQuotes s = s := by
  induction s with
  | nil => rfl
  | cons c s ih =>
    rw [List.mem_cons, not_or] at h
    rw [escapeQuotes_cons (Ne.symm h.1), ih h.2]

/-- The characters of a text, apart from quotes and backslashes, are those of the escaped text. -/
theorem mem_escapeQuotes {c : Nat} (hquote : c ≠ 0x22) (hbackslash : c ≠ 0x5c) (s : CodePoints) :
    c ∈ escapeQuotes s ↔ c ∈ s := by
  induction s with
  | nil => rfl
  | cons d s ih =>
    by_cases hd : d = 0x22
    · subst hd
      simp [ih, hquote, hbackslash]
    · rw [escapeQuotes_cons hd, List.mem_cons, List.mem_cons, ih]

theorem oneLine_escapeQuotes {s : CodePoints} : OneLine (escapeQuotes s) ↔ OneLine s := by
  rw [OneLine, OneLine, mem_escapeQuotes (by decide) (by decide), mem_escapeQuotes (by decide) (by decide)]

section

variable {p : CodePoints} (hp : ∀ c ∈ p, c ≠ 0x22 ∧ c ≠ 0x5c)

include hp

theorem prefix_escapeQuotes (s : CodePoints) : p <+: escapeQuotes s ↔ p <+: s := by
  induction p generalizing s with
  | nil => simp
  | cons a p ih =>
    obtain ⟨ha, hp⟩ := List.forall_mem_cons.1 hp
    cases s with
    | nil => rfl
    | cons c s =>
      by_cases hc : c = 0x22
      · subst hc
        rw [escapeQuotes_quote, List.cons_prefix_cons, List.cons_prefix_cons]
        exact iff_of_false (fun h => ha.2 h.1) (fun h => ha.1 h.1)
      · rw [escapeQuotes_cons hc, List.cons_prefix_cons, List.cons_prefix_cons, ih hp]

theorem infix_escapeQuotes (hne : p ≠ []) (s : CodePoints) : p <:+: escapeQuotes s ↔ p <:+: s := by
  induction s with
  | nil => rfl
  | cons c s ih =>
    by_cases hc : c = 0x22
    · subst hc
      obtain ⟨a, p, rfl⟩ := List.exists_cons_of_ne_nil hne
      have ha := hp a List.mem_cons_self
      rw [escapeQuotes_quote, List.infix_cons_iff, List.infix_cons_iff, ih]
      have hopen : a :: p <:+: 0x22 :: s ↔ a :: p <+: 0x22 :: s ∨ a :: p <:+: s := List.infix_cons_iff
      rw [hopen, List.cons_prefix_cons, List.cons_prefix_cons, List.cons_prefix_cons]
      simp [ha.1, ha.2]
    · have hfront := prefix_escapeQuotes hp (c :: s)
      rw [escapeQuotes_cons hc] at hfront ⊢
      rw [List.infix_cons_iff, List.infix_cons_iff, ih, hfront]

end

theorem hasTrigraph_escapeQuotes (s : CodePoints) : HasTrigraph (escapeQuotes s) ↔ HasTrigraph s := by
  refine exists_congr fun c => exists_congr fun d => and_congr_right fun hd => infix_escapeQuotes ?_ (by simp) s
  have hc : c ≠ 0x5c := by
    rintro rfl
    cases hd
  have hquote := (trigraph?_spec hd).2.2.1
  simp [hc, hquote]

/-- Escaped quotes weigh what they stand for, and a backslash less. -/
theorem textWeight_escapeQuotes (s : CodePoints) :
    textWeight (escapeQuotes s) + s.count 0x5c = 2 * utf8Length s := by
  induction s with
  | nil => rfl
  | cons c s ih =>
    rw [utf8Length_cons]
    by_cases hc : c = 0x22
    · subst hc
      have hone : weight 0x5c = 1 ∧ weight 0x22 = 1 ∧ (utf8Bytes 0x22).length = 1 := by decide
      rw [escapeQuotes_quote, textWeight_cons, textWeight_cons, List.count_cons_of_ne (by decide)]
      omega
    · rw [escapeQuotes_cons hc, textWeight_cons]
      by_cases hbackslash : c = 0x5c
      · subst hbackslash
        have hone : weight 0x5c = 1 ∧ (utf8Bytes 0x5c).length = 1 := by decide
        rw [List.count_cons_self]
        omega
      · rw [List.count_cons_of_ne hbackslash, weight, if_neg (not_or.2 ⟨hc, hbackslash⟩)]
        omega

/-- A backslash before a quote weighs one. -/
theorem textWeight_add_count (s : CodePoints) : textWeight s + s.count 0x22 = textWeight (escapeQuotes s) := by
  induction s with
  | nil => rfl
  | cons c s ih =>
    by_cases hc : c = 0x22
    · subst hc
      have hone : weight 0x5c = 1 := by decide
      rw [escapeQuotes_quote, textWeight_cons, textWeight_cons, textWeight_cons, List.count_cons_self]
      omega
    · rw [escapeQuotes_cons hc, textWeight_cons, textWeight_cons, List.count_cons_of_ne hc]
      omega

/-- In one line without a backslash, the escaped text is read as the text. -/
theorem readString_escapeQuotes {s : CodePoints} (hbackslash : 0x5c ∉ s) (hline : OneLine s) (rest : CodePoints) :
    readString .plain (escapeQuotes s ++ 0x22 :: rest) = some (s.flatMap utf8Bytes, rest) := by
  induction s with
  | nil => rfl
  | cons c s ih =>
    rw [List.mem_cons, not_or] at hbackslash
    obtain ⟨hends, hline⟩ := oneLine_cons_iff.1 hline
    have hrest := ih hbackslash.2 hline
    by_cases hc : c = 0x22
    · subst hc
      have hescape : literalStep .plain 0x5c = some ([], some .escape) := rfl
      have hquote : literalStep .escape 0x22 = some ([0x22], some .plain) := rfl
      rw [escapeQuotes_quote, List.cons_append, List.cons_append, readString, hescape]
      dsimp only
      rw [readString, hquote]
      dsimp only
      rw [hrest]
      rfl
    · have hplain : literalStep .plain c = some (utf8Bytes c, some .plain) := by
        rw [literalStep, plainStep, if_neg hc, if_neg (not_or.2 hends), if_neg (Ne.symm hbackslash.1)]
      rw [escapeQuotes_cons hc, List.cons_append, readString, hplain]
      dsimp only
      rw [hrest]
      rfl

/-! ### What a literal stands for -/

theorem readLiteral_quoted (trigraphs : Bool) (s rest : CodePoints) :
    readLiteral trigraphs (0x22 :: (s ++ 0x22 :: rest)) =
      readString .plain (sourceText trigraphs s ++ 0x22 :: sourceText trigraphs rest) := by
  have hopen := sourceText_quote trigraphs [] (s ++ 0x22 :: rest)
  have hempty : sourceText trigraphs [] = [] := by cases trigraphs <;> rfl
  rw [hempty, List.nil_append, List.nil_append, sourceText_quote] at hopen
  rw [readLiteral, hopen]
  rfl

/-- A literal that ends at its closing quote stands for at most half its weight, and for exactly half only if it is
one line that is read as it stands. -/
theorem weight_of_readLiteral {trigraphs : Bool} {s rest : CodePoints} {bytes : List Nat}
    (h : readLiteral trigraphs (0x22 :: (s ++ 0x22 :: rest)) = some (bytes, sourceText trigraphs rest)) :
    2 * bytes.length ≤ textWeight s ∧
      (textWeight s ≤ 2 * bytes.length → OneLine s ∧ (trigraphs = true → ¬ HasTrigraph s)) := by
  rw [readLiteral_quoted] at h
  obtain ⟨content, hcontent, hline, hlength⟩ := le_weight_of_readString (show LiteralState.plain.Valid from trivial) h
  obtain rfl := List.append_cancel_right hcontent
  rw [LiteralState.credit, Nat.add_zero] at hlength
  rcases weight_sourceText trigraphs s with ⟨htrigraphs, hsame⟩ | hlt
  · rw [hsame] at hlength hline
    exact ⟨hlength, fun _ => ⟨hline, fun htrue => replaceTrigraphs_eq_self_iff.1 (htrigraphs htrue)⟩⟩
  · exact ⟨by omega, fun hle => absurd hle (by omega)⟩

/-- A text with escaped quotes stands for the text if and only if the text is one line without a backslash, and has
no trigraph where the dialect has them. -/
theorem readLiteral_escapeQuotes_iff (trigraphs : Bool) (s rest : CodePoints) :
    readLiteral trigraphs (0x22 :: (escapeQuotes s ++ 0x22 :: rest)) =
        some (s.flatMap utf8Bytes, sourceText trigraphs rest) ↔
      0x5c ∉ s ∧ OneLine s ∧ (trigraphs = true → ¬ HasTrigraph s) := by
  constructor
  · intro h
    obtain ⟨hle, hfull⟩ := weight_of_readLiteral h
    have hweight := textWeight_escapeQuotes s
    rw [← utf8Length] at hle hfull
    have hcount : s.count 0x5c = 0 := by omega
    obtain ⟨hline, htrigraphs⟩ := hfull (by omega)
    rw [oneLine_escapeQuotes] at hline
    refine ⟨List.count_eq_zero.1 hcount, hline, fun htrue => ?_⟩
    rw [← hasTrigraph_escapeQuotes]
    exact htrigraphs htrue
  · rintro ⟨hbackslash, hline, htrigraphs⟩
    have hline' : OneLine (escapeQuotes s) := oneLine_escapeQuotes.2 hline
    have hsource : sourceText trigraphs (escapeQuotes s) = escapeQuotes s := by
      cases trigraphs with
      | false => exact joinLines_of_oneLine hline'
      | true =>
        have hnone := htrigraphs rfl
        rw [← hasTrigraph_escapeQuotes, ← replaceTrigraphs_eq_self_iff] at hnone
        simp only [sourceText, if_true]
        rw [hnone, joinLines_of_oneLine hline']
    rw [readLiteral_quoted, hsource, readString_escapeQuotes hbackslash hline]

/-- A text that is not escaped stands for itself if and only if it has no quote either. -/
theorem readLiteral_plain_iff (trigraphs : Bool) (s rest : CodePoints) :
    readLiteral trigraphs (0x22 :: (s ++ 0x22 :: rest)) = some (s.flatMap utf8Bytes, sourceText trigraphs rest) ↔
      0x22 ∉ s ∧ 0x5c ∉ s ∧ OneLine s ∧ (trigraphs = true → ¬ HasTrigraph s) := by
  by_cases hquote : 0x22 ∈ s
  · refine iff_of_false (fun h => ?_) (fun h => h.1 hquote)
    -- a quote counts for half of what it would stand for
    have hle := (weight_of_readLiteral h).1
    rw [← utf8Length] at hle
    have hescaped := textWeight_escapeQuotes s
    have hbackslashes := textWeight_add_count s
    have hpos := List.count_pos_iff.2 hquote
    omega
  · have hplain := readLiteral_escapeQuotes_iff trigraphs s rest
    rw [escapeQuotes_of_not_mem hquote] at hplain
    rw [hplain, and_iff_right hquote]

end OperatingOrganism.CStringLiteral

import Mathlib.Algebra.BigOperators.Group.List.Basic
import OperatingOrganism.Library.PythonText

/-!
# Encoding a text, and cutting its bytes

A code point that is no surrogate is encoded in one to four bytes, and read back (`decodeUtf8_encodeUtf8`). The bytes
of a text that are cut off after some number can be decoded if and only if the cut falls between two characters, and
are then the bytes of the characters before it (`decodeUtf8_take`, `utf8Cut_isSome_iff`).
-/

set_option autoImplicit false

namespace OperatingOrganism

/-- A code point that has an encoding: no surrogate, and not too large. -/
def IsScalar (c : Nat) : Prop := c < 0xd800 ∨ (0xdfff < c ∧ c < 0x110000)

instance (c : Nat) : Decidable (IsScalar c) := inferInstanceAs (Decidable (_ ∨ _))

def utf8Bytes (c : Nat) : List Nat :=
  if c < 0x80 then [c]
  else if c < 0x800 then [0xc0 + c / 64, 0x80 + c % 64]
  else if c < 0x10000 then [0xe0 + c / 4096, 0x80 + c / 64 % 64, 0x80 + c % 64]
  else [0xf0 + c / 262144, 0x80 + c / 4096 % 64, 0x80 + c / 64 % 64, 0x80 + c % 64]

/-- `str.encode("utf-8")`; `none` is a `UnicodeEncodeError`. -/
def encodeUtf8 (s : CodePoints) : Option (List Nat) :=
  if ∀ c ∈ s, IsScalar c then some (s.flatMap utf8Bytes) else none

/-- `str.encode("ascii")` -/
def encodeAscii (s : CodePoints) : Option (List Nat) := if ∀ c ∈ s, c < 0x80 then some s else none

/-- `bytes.decode("ascii")` -/
def decodeAsciiStrict (bytes : List Nat) : Option CodePoints := if ∀ b ∈ bytes, b < 0x80 then some bytes else none

def utf8Length (s : CodePoints) : Nat := (s.flatMap utf8Bytes).length

/-! ### The bytes of one character -/

theorem utf8Bytes_ne_nil (c : Nat) : utf8Bytes c ≠ [] := by
  unfold utf8Bytes
  split_ifs <;> simp

/-- Only the NUL is encoded with a zero byte. -/
theorem pos_of_mem_utf8Bytes {c b : Nat} (hc : c ≠ 0) (hb : b ∈ utf8Bytes c) : 0 < b := by
  unfold utf8Bytes at hb
  split_ifs at hb <;> simp only [List.mem_cons, List.not_mem_nil, or_false] at hb <;> omega

/-- One byte after the other. -/
theorem utf8Run_cons {st st' : CodePoints × Option Utf8Pending} {b : Nat} (bytes : List Nat)
    (h : utf8Step st b = some st') : utf8Run st (b :: bytes) = utf8Run st' bytes := by
  rw [utf8Run, List.foldlM_cons, h]
  rfl

theorem utf8Run_singleton {st st' : CodePoints × Option Utf8Pending} {b : Nat} (h : utf8Step st b = some st') :
    utf8Run st [b] = some st' := utf8Run_cons [] h

/-- A byte that continues a character. -/
theorem utf8Step_tail {p : Utf8Pending} {x : Nat} (hlow : p.low ≤ 0x80 + x) (hhigh : 0x80 + x ≤ p.high)
    (text : CodePoints) :
    utf8Step (text, some p) (0x80 + x) =
      some (if p.left = 1 then (text ++ [p.value * 64 + x], none)
        else (text, some ⟨p.value * 64 + x, p.left - 1, 0x80, 0xbf⟩)) := by
  rw [utf8Step, if_pos ⟨hlow, hhigh⟩, Nat.add_sub_cancel_left]
  split <;> rfl

/-- What the decoder has after each byte of a character: the character after the last one, and a part of it before. -/
structure ReadsChar (c : Nat) : Prop where
  whole : utf8Run ([], none) (utf8Bytes c) = some ([c], none)
  part : ∀ k, 0 < k → k < (utf8Bytes c).length → ∃ p, utf8Run ([], none) ((utf8Bytes c).take k) = some ([], some p)

theorem readsChar_one {c : Nat} (hc : c < 0x80) : ReadsChar c := by
  have hbytes : utf8Bytes c = [c] := if_pos hc
  refine ⟨?_, fun k hpos hlt => ?_⟩
  · rw [hbytes]
    exact utf8Run_singleton (by rw [utf8Step, if_pos hc]; rfl)
  · rw [hbytes, List.length_singleton] at hlt
    omega

theorem readsChar_two {c : Nat} (hlow : 0x80 ≤ c) (hhigh : c < 0x800) : ReadsChar c := by
  have hbytes : utf8Bytes c = [0xc0 + c / 64, 0x80 + c % 64] := by
    rw [utf8Bytes, if_neg (Nat.not_lt.2 hlow), if_pos hhigh]
  have hfirst : utf8Step ([], none) (0xc0 + c / 64) = some ([], some ⟨c / 64, 1, 0x80, 0xbf⟩) := by
    rw [utf8Step, if_neg (by omega), if_neg (by omega), if_pos (by omega), Nat.add_sub_cancel_left]
  have hsecond : utf8Step ([], some ⟨c / 64, 1, 0x80, 0xbf⟩) (0x80 + c % 64) = some ([c], none) := by
    rw [utf8Step_tail (Nat.le_add_right _ _) (by dsimp only; omega), if_pos rfl, List.nil_append]
    dsimp only
    rw [Nat.div_add_mod' c 64]
  refine ⟨?_, fun k hpos hlt => ?_⟩
  · rw [hbytes, utf8Run_cons _ hfirst]
    exact utf8Run_singleton hsecond
  · rw [hbytes] at hlt ⊢
    obtain rfl : k = 1 := by
      rw [List.length_cons, List.length_singleton] at hlt
      omega
    exact ⟨_, utf8Run_singleton hfirst⟩

theorem readsChar_three {c : Nat} (hscalar : IsScalar c) (hlow : 0x800 ≤ c) (hhigh : c < 0x10000) : ReadsChar c := by
  have hbytes : utf8Bytes c = [0xe0 + c / 4096, 0x80 + c / 64 % 64, 0x80 + c % 64] := by
    rw [utf8Bytes, if_neg (by omega), if_neg (by omega), if_pos hhigh]
  have hfirst : utf8Step ([], none) (0xe0 + c / 4096) = some ([], some ⟨c / 4096, 2,
      if 0xe0 + c / 4096 = 0xe0 then 0xa0 else 0x80, if 0xe0 + c / 4096 = 0xed then 0x9f else 0xbf⟩) := by
    rw [utf8Step, if_neg (by omega), if_neg (by omega), if_neg (by omega), if_pos (by omega), Nat.add_sub_cancel_left]
  have hsecond : utf8Step ([], some ⟨c / 4096, 2, if 0xe0 + c / 4096 = 0xe0 then 0xa0 else 0x80,
      if 0xe0 + c / 4096 = 0xed then 0x9f else 0xbf⟩) (0x80 + c / 64 % 64) =
        some ([], some ⟨c / 64, 1, 0x80, 0xbf⟩) := by
    -- no overlong form, since the character is large enough, and no surrogate
    have hbounds : (if 0xe0 + c / 4096 = 0xe0 then 0xa0 else 0x80) ≤ 0x80 + c / 64 % 64 ∧
        0x80 + c / 64 % 64 ≤ if 0xe0 + c / 4096 = 0xed then 0x9f else 0xbf := by
      unfold IsScalar at hscalar
      split_ifs <;> omega
    have hvalue : c / 4096 * 64 + c / 64 % 64 = c / 64 := by omega
    rw [utf8Step_tail hbounds.1 hbounds.2, if_neg (show ¬ 2 = 1 by decide)]
    dsimp only
    rw [hvalue]
  have hthird : utf8Step ([], some ⟨c / 64, 1, 0x80, 0xbf⟩) (0x80 + c % 64) = some ([c], none) := by
    rw [utf8Step_tail (Nat.le_add_right _ _) (by dsimp only; omega), if_pos rfl, List.nil_append]
    dsimp only
    rw [Nat.div_add_mod' c 64]
  refine ⟨?_, fun k hpos hlt => ?_⟩
  · rw [hbytes, utf8Run_cons _ hfirst, utf8Run_cons _ hsecond]
    exact utf8Run_singleton hthird
  · rw [hbytes] at hlt ⊢
    simp only [List.length_cons, List.length_nil] at hlt
    obtain rfl | rfl : k = 1 ∨ k = 2 := by omega
    · exact ⟨_, utf8Run_singleton hfirst⟩
    · exact ⟨_, (utf8Run_cons _ hfirst).trans (utf8Run_singleton hsecond)⟩

theorem readsChar_four {c : Nat} (hlow : 0x10000 ≤ c) (hhigh : c < 0x110000) : ReadsChar c := by
  have hbytes : utf8Bytes c =
      [0xf0 + c / 262144, 0x80 + c / 4096 % 64, 0x80 + c / 64 % 64, 0x80 + c % 64] := by
    rw [utf8Bytes, if_neg (by omega), if_neg (by omega), if_neg (by omega)]
  have hfirst : utf8Step ([], none) (0xf0 + c / 262144) = some ([], some ⟨c / 262144, 3,
      if 0xf0 + c / 262144 = 0xf0 then 0x90 else 0x80, if 0xf0 + c / 262144 = 0xf4 then 0x8f else 0xbf⟩) := by
    rw [utf8Step, if_neg (by omega), if_neg (by omega), if_neg (by omega), if_neg (by omega), if_pos (by omega),
      Nat.add_sub_cancel_left]
  have hsecond : utf8Step ([], some ⟨c / 262144, 3, if 0xf0 + c / 262144 = 0xf0 then 0x90 else 0x80,
      if 0xf0 + c / 262144 = 0xf4 then 0x8f else 0xbf⟩) (0x80 + c / 4096 % 64) =
        some ([], some ⟨c / 4096, 2, 0x80, 0xbf⟩) := by
    -- no overlong form, and not too large
    have hbounds : (if 0xf0 + c / 262144 = 0xf0 then 0x90 else 0x80) ≤ 0x80 + c / 4096 % 64 ∧
        0x80 + c / 4096 % 64 ≤ if 0xf0 + c / 262144 = 0xf4 then 0x8f else 0xbf := by
      split_ifs <;> omega
    have hvalue : c / 262144 * 64 + c / 4096 % 64 = c / 4096 := by omega
    rw [utf8Step_tail hbounds.1 hbounds.2, if_neg (show ¬ 3 = 1 by decide)]
    dsimp only
    rw [hvalue]
  have hthird : utf8Step ([], some ⟨c / 4096, 2, 0x80, 0xbf⟩) (0x80 + c / 64 % 64) =
      some ([], some ⟨c / 64, 1, 0x80, 0xbf⟩) := by
    have hvalue : c / 4096 * 64 + c / 64 % 64 = c / 64 := by omega
    rw [utf8Step_tail (Nat.le_add_right _ _) (by dsimp only; omega), if_neg (show ¬ 2 = 1 by decide)]
    dsimp only
    rw [hvalue]
  have hfourth : utf8Step ([], some ⟨c / 64, 1, 0x80, 0xbf⟩) (0x80 + c % 64) = some ([c], none) := by
    rw [utf8Step_tail (Nat.le_add_right _ _) (by dsimp only; omega), if_pos rfl, List.nil_append]
    dsimp only
    rw [Nat.div_add_mod' c 64]
  refine ⟨?_, fun k hpos hlt => ?_⟩
  · rw [hbytes, utf8Run_cons _ hfirst, utf8Run_cons _ hsecond, utf8Run_cons _ hthird]
    exact utf8Run_singleton hfourth
  · rw [hbytes] at hlt ⊢
    simp only [List.length_cons, List.length_nil] at hlt
    obtain rfl | rfl | rfl : k = 1 ∨ k = 2 ∨ k = 3 := by omega
    · exact ⟨_, utf8Run_singleton hfirst⟩
    · exact ⟨_, (utf8Run_cons _ hfirst).trans (utf8Run_singleton hsecond)⟩
    · exact ⟨_, (utf8Run_cons _ hfirst).trans ((utf8Run_cons _ hsecond).trans (utf8Run_singleton hthird))⟩

theorem readsChar {c : Nat} (hc : IsScalar c) : ReadsChar c := by
  by_cases hone : c < 0x80
  · exact readsChar_one hone
  by_cases htwo : c < 0x800
  · exact readsChar_two (Nat.not_lt.1 hone) htwo
  by_cases hthree : c < 0x10000
  · exact readsChar_three hc (Nat.not_lt.1 htwo) hthree
  · have hmax : c < 0x110000 := by
      unfold IsScalar at hc
      omega
    exact readsChar_four (Nat.not_lt.1 hthree) hmax

/-! ### Texts -/

/-- The bytes of a text are read back as the text. -/
theorem decodeUtf8_flatMap {s : CodePoints} (hs : ∀ c ∈ s, IsScalar c) :
    decodeUtf8 (s.flatMap utf8Bytes) = some s := by
  induction s with
  | nil => rfl
  | cons c s ih =>
    obtain ⟨hc, hs⟩ := List.forall_mem_cons.1 hs
    have hone : decodeUtf8 (utf8Bytes c) = some [c] := by rw [decodeUtf8, (readsChar hc).whole]
    rw [List.flatMap_cons, decodeUtf8_append hone, ih hs]
    rfl

theorem decodeUtf8_encodeUtf8 {s : CodePoints} {bytes : List Nat} (h : encodeUtf8 s = some bytes) :
    decodeUtf8 bytes = some s := by
  unfold encodeUtf8 at h
  split at h
  · next hs =>
    obtain rfl := Option.some.inj h
    exact decodeUtf8_flatMap hs
  · cases h

/-- The characters of a text whose bytes are cut off after some number, unless the cut is inside of one. -/
def utf8Cut : Nat → CodePoints → Option CodePoints
  | _, [] => some []
  | n, c :: s =>
    if n = 0 then some []
    else if n < (utf8Bytes c).length then none
    else (utf8Cut (n - (utf8Bytes c).length) s).map (c :: ·)

/-- The bytes before a cut are those of whole characters, or they cannot be decoded. -/
theorem decodeUtf8_take {s : CodePoints} (hs : ∀ c ∈ s, IsScalar c) (n : Nat) :
    decodeUtf8 ((s.flatMap utf8Bytes).take n) = utf8Cut n s := by
  induction s generalizing n with
  | nil => rw [List.flatMap_nil, List.take_nil, utf8Cut, decodeUtf8, utf8Run, List.foldlM_nil]; rfl
  | cons c s ih =>
    obtain ⟨hc, hs⟩ := List.forall_mem_cons.1 hs
    rw [List.flatMap_cons, utf8Cut]
    split
    · next hzero =>
      rw [hzero, List.take_zero]
      rfl
    · next hpos =>
      split
      · next hlt =>
        obtain ⟨p, hp⟩ := (readsChar hc).part n (Nat.pos_of_ne_zero hpos) hlt
        rw [List.take_append_of_le_length (Nat.le_of_lt hlt), decodeUtf8, hp]
      · next hle =>
        have hone : decodeUtf8 (utf8Bytes c) = some [c] := by rw [decodeUtf8, (readsChar hc).whole]
        rw [List.take_append, List.take_of_length_le (Nat.not_lt.1 hle), decodeUtf8_append hone, ih hs]
        rfl

theorem prefix_of_utf8Cut {n : Nat} {s t : CodePoints} (h : utf8Cut n s = some t) : t <+: s := by
  induction s generalizing n t with
  | nil =>
    obtain rfl := Option.some.inj h
    exact List.prefix_rfl
  | cons c s ih =>
    rw [utf8Cut] at h
    split at h
    · obtain rfl := Option.some.inj h
      exact List.nil_prefix
    · split at h
      · cases h
      · obtain ⟨t', ht', rfl⟩ := Option.map_eq_some_iff.1 h
        exact (List.prefix_cons_inj c).2 (ih ht')

/-- The cut is behind the text, or between two characters of it. -/
def OnBoundary (n : Nat) (s : CodePoints) : Prop := utf8Length s ≤ n ∨ ∃ before, before <+: s ∧ utf8Length before = n

theorem utf8Length_cons (c : Nat) (s : CodePoints) :
    utf8Length (c :: s) = (utf8Bytes c).length + utf8Length s := by
  rw [utf8Length, List.flatMap_cons, List.length_append, utf8Length]

theorem utf8Cut_isSome_iff (n : Nat) (s : CodePoints) : (utf8Cut n s).isSome ↔ OnBoundary n s := by
  induction s generalizing n with
  | nil => exact iff_of_true rfl (.inl (Nat.zero_le n))
  | cons c s ih =>
    have hpos : 0 < (utf8Bytes c).length := List.length_pos_of_ne_nil (utf8Bytes_ne_nil c)
    rw [utf8Cut]
    split
    · next hzero => exact iff_of_true rfl (.inr ⟨[], List.nil_prefix, hzero.symm⟩)
    · next hne =>
      split
      · next hlt =>
        refine iff_of_false Bool.false_ne_true ?_
        rintro (hall | ⟨before, hbefore, hlength⟩)
        · rw [utf8Length_cons] at hall
          omega
        · -- a part of the text is empty or has the first character
          cases before with
          | nil => exact hne hlength.symm
          | cons d before =>
            obtain ⟨rfl, -⟩ := List.cons_prefix_cons.1 hbefore
            rw [utf8Length_cons] at hlength
            omega
      · next hle =>
        rw [Option.isSome_map, ih, OnBoundary, OnBoundary, utf8Length_cons]
        refine or_congr ⟨fun h => by omega, fun h => by omega⟩ ⟨?_, ?_⟩
        · rintro ⟨before, hbefore, hlength⟩
          refine ⟨c :: before, (List.prefix_cons_inj c).2 hbefore, ?_⟩
          rw [utf8Length_cons]
          omega
        · rintro ⟨before, hbefore, hlength⟩
          cases before with
          | nil => exact absurd hlength.symm hne
          | cons d before =>
            obtain ⟨rfl, hrest⟩ := List.cons_prefix_cons.1 hbefore
            rw [utf8Length_cons] at hlength
            exact ⟨before, hrest, by omega⟩

/-! ### Ascii characters between others -/

/-- A byte below 128 stands for itself. -/
theorem eq_of_mem_utf8Bytes {c b : Nat} (hb : b < 0x80) (hmem : b ∈ utf8Bytes c) : b = c := by
  unfold utf8Bytes at hmem
  split_ifs at hmem <;> simp only [List.mem_cons, List.not_mem_nil, or_false] at hmem <;> omega

/-- What goes on with a character is no ascii byte. -/
theorem low_of_utf8Step {st st' : CodePoints × Option Utf8Pending} {b : Nat} (h : utf8Step st b = some st') :
    ∀ p, st'.2 = some p → 0x80 ≤ p.low := by
  obtain ⟨text, pending⟩ := st
  cases pending with
  | none =>
    simp only [utf8Step] at h
    split_ifs at h <;> cases h <;> intro p hp <;>
      simp only [Option.some.injEq, reduceCtorEq] at hp <;> rw [← hp] <;> dsimp only <;> decide
  | some q =>
    simp only [utf8Step] at h
    split_ifs at h <;> cases h <;> intro p hp <;> simp only [Option.some.injEq, reduceCtorEq] at hp
    rw [← hp]

theorem low_of_utf8Run {bytes : List Nat} {st st' : CodePoints × Option Utf8Pending}
    (h : utf8Run st bytes = some st') (hst : ∀ p, st.2 = some p → 0x80 ≤ p.low) :
    ∀ p, st'.2 = some p → 0x80 ≤ p.low := by
  induction bytes generalizing st with
  | nil =>
    cases h
    exact hst
  | cons b bytes ih =>
    rw [utf8Run, List.foldlM_cons, Option.bind_eq_bind, Option.bind_eq_some_iff] at h
    obtain ⟨mid, hstep, hrest⟩ := h
    exact ih hrest (low_of_utf8Step hstep)

/-- In front of an ascii character a text can be taken apart. -/
theorem decodeUtf8_append_cons {a b : List Nat} {c : Nat} {t : CodePoints} (hc : c < 0x80)
    (h : decodeUtf8 (a ++ c :: b) = some t) :
    ∃ s r, decodeUtf8 a = some s ∧ decodeUtf8 (c :: b) = some r ∧ t = s ++ r := by
  have hrun := utf8Run_of_decodeUtf8 h
  rw [utf8Run, List.foldlM_append, Option.bind_eq_bind, Option.bind_eq_some_iff] at hrun
  obtain ⟨⟨s, pending⟩, hfront, hrest⟩ := hrun
  cases pending with
  | none =>
    have hs : decodeUtf8 a = some s := by rw [decodeUtf8, utf8Run, hfront]
    rw [decodeUtf8_append hs, Option.map_eq_some_iff] at h
    obtain ⟨r, hr, rfl⟩ := h
    exact ⟨s, r, hs, hr, rfl⟩
  | some p =>
    -- the character before is not complete
    have hlow := low_of_utf8Run hfront (fun _ hp => by cases hp) p rfl
    have hstep : utf8Step (s, some p) c = none := if_neg fun hin => by omega
    rw [List.foldlM_cons, hstep] at hrest
    cases hrest

end OperatingOrganism

import OperatingOrganism.Library.JsonTable

/-!
# Files that are cut off

A file is written from its beginning, and what is left when that is interrupted are its first bytes. The text of an
object ends with the brace that closes it, and nothing that is read before it is complete: no first part of the file
of an object is read as anything, except for the whole file (`readJson_take`).
-/

set_option autoImplicit false

namespace OperatingOrganism.JsonText

/-! ### Before the end -/

section Prefixes

variable {p p' : Parser} {t : Token} {st st' : Decoder} {n : NumberState} {c : Nat} {v w : JsonValue}
  {s q text : CodePoints}

/-- What stands between tokens and means nothing. -/
def IsBlank (c : Nat) : Prop := c = 32 ∨ c = 9 ∨ c = 10 ∨ c = 13

/-- A character between tokens is blank, begins a token, or is one that the parser takes. -/
theorem scanIdle_cases (h : scanIdle p c = .ok st') :
    (st'.2 = p ∧ (IsBlank c ∨ st'.1 ≠ .idle)) ∨ ∃ t p', p.feed t = .ok p' ∧ st' = (.idle, p') := by
  unfold scanIdle at h
  split at h
  · next hblank =>
    cases h
    exact .inl ⟨rfl, .inl hblank⟩
  · split at h
    · cases h
      exact .inl ⟨rfl, .inr (by simp)⟩
    · split at h
      · cases h
        exact .inl ⟨rfl, .inr (by simp)⟩
      · split at h
        · cases h
          exact .inl ⟨rfl, .inr (by simp)⟩
        · split at h
          · exact .inr ⟨_, map_idle_eq_ok h⟩
          · cases h
            exact .inl ⟨rfl, .inr (by simp)⟩
          · cases h

/-- The end of a number is a number that the parser takes. -/
theorem ends_cases (h : n.ends p = .ok p') : ∃ t, p.feed t = .ok p' ∧ (t = .longInt ∨ ∃ v, t = .scalar v) := by
  cases n with
  | minus => cases h
  | mantissa m =>
    refine ⟨m.token, h, ?_⟩
    unfold Mantissa.token
    split
    · exact .inr ⟨_, rfl⟩
    · split
      · exact .inl rfl
      · exact .inr ⟨_, rfl⟩
  | exponentDigits m negative digits => exact ⟨_, h, .inr ⟨_, rfl⟩⟩
  | point m | exponent m | exponentSign m _ =>
    obtain ⟨_, -, herror⟩ := bind_eq_ok.1 h
    cases herror

theorem appendCode_ne_idle (s : CodePoints) (high : Option Nat) (code : Nat) : appendCode s high code ≠ .idle := by
  unfold appendCode
  split
  · split <;> simp
  · simp

/-- A character goes on with a token, or is blank between tokens, or the parser takes a token; and behind a number it
is then read between tokens. -/
theorem scan_cases (h : scan st c = .ok st') :
    (st'.2 = st.2 ∧ (st'.1 ≠ .idle ∨ st.1 = .idle ∧ IsBlank c)) ∨
      ∃ t p', st.2.feed t = .ok p' ∧ (st' = (.idle, p') ∨ scanIdle p' c = .ok st') := by
  obtain ⟨lexer, p⟩ := st
  cases lexer with
  | idle =>
    rcases scanIdle_cases h with ⟨hsame, hblank | hbegun⟩ | ⟨t, p', hfeed, hst⟩
    · exact .inl ⟨hsame, .inr ⟨rfl, hblank⟩⟩
    · exact .inl ⟨hsame, .inl hbegun⟩
    · exact .inr ⟨t, p', hfeed, .inl hst⟩
  | text s high =>
    simp only [scan] at h
    split at h
    · obtain ⟨p', hfeed, hst⟩ := map_idle_eq_ok h
      exact .inr ⟨_, p', hfeed, .inl hst⟩
    · split at h
      · cases h
        exact .inl ⟨rfl, .inl (by simp)⟩
      · split at h
        · cases h
        · cases h
          exact .inl ⟨rfl, .inl (by simp)⟩
  | escape s high =>
    simp only [scan] at h
    split at h
    · cases h
      exact .inl ⟨rfl, .inl (by simp)⟩
    · split at h
      · cases h
        exact .inl ⟨rfl, .inl (by simp)⟩
      · cases h
  | unicode s high left code =>
    simp only [scan] at h
    split at h
    · split at h
      · cases h
        exact .inl ⟨rfl, .inl (appendCode_ne_idle _ _ _)⟩
      · cases h
        exact .inl ⟨rfl, .inl (by simp)⟩
    · cases h
  | number n =>
    rcases scan_number_cases h with ⟨n', -, rfl⟩ | ⟨-, rfl⟩ | ⟨p', hends, hidle⟩
    · exact .inl ⟨rfl, .inl (by simp)⟩
    · exact .inl ⟨rfl, .inl (by simp)⟩
    · obtain ⟨t, hfeed, -⟩ := ends_cases hends
      exact .inr ⟨t, p', hfeed, .inr hidle⟩
  | word w seen =>
    simp only [scan] at h
    split at h
    · split at h
      · obtain ⟨p', hfeed, hst⟩ := map_idle_eq_ok h
        exact .inr ⟨_, p', hfeed, .inl hst⟩
      · cases h
        exact .inl ⟨rfl, .inl (by simp)⟩
    · cases h

/-! ### A value that has begun -/

/-- No token leads back to where a whole text begins. -/
theorem feed_ne_value_nil (h : p.feed t = .ok p') : p' ≠ .value [] := by
  rintro rfl
  cases p with
  | value stack => cases t <;> simp [Parser.feed, Parser.take] at h
  | first stack => cases t <;> simp [Parser.feed, Parser.take] at h
  | key isFirst fields stack => cases isFirst <;> cases t <;> simp [Parser.feed] at h
  | colon fields k stack => cases t <;> simp [Parser.feed] at h
  | complete v stack =>
    cases stack with
    | nil => cases t <;> simp [Parser.feed] at h
    | cons frame stack => cases frame <;> cases t <;> simp [Parser.feed] at h

theorem scan_ne_value_nil (hst : st.2 ≠ .value []) (h : scan st c = .ok st') : st'.2 ≠ .value [] := by
  rcases scan_cases h with ⟨hsame, -⟩ | ⟨t, p', hfeed, rfl | hidle⟩
  · rwa [hsame]
  · exact feed_ne_value_nil hfeed
  · rcases scanIdle_cases hidle with ⟨hsame, -⟩ | ⟨t', p'', hfeed', rfl⟩
    · rw [hsame]
      exact feed_ne_value_nil hfeed
    · exact feed_ne_value_nil hfeed'

theorem run_ne_value_nil (hst : st.2 ≠ .value []) (h : run st s = .ok st') : st'.2 ≠ .value [] := by
  induction s generalizing st with
  | nil =>
    cases h
    exact hst
  | cons c s ih =>
    rw [run_cons] at h
    obtain ⟨mid, hscan, hrest⟩ := bind_eq_ok.1 h
    exact ih (scan_ne_value_nil hst hscan) hrest

/-- A number is a whole text only where a whole text begins. -/
theorem feed_number_ne_complete (hp : p ≠ .value []) (hnumber : t = .longInt ∨ ∃ w, t = .scalar w) :
    p.feed t ≠ .ok (.complete v []) := by
  intro h
  rcases hnumber with rfl | ⟨w, rfl⟩
  all_goals cases p with
    | value stack =>
      cases stack with
      | nil => exact hp rfl
      | cons frame stack => simp [Parser.feed, Parser.take] at h
    | first stack => simp [Parser.feed, Parser.take] at h
    | key isFirst fields stack => cases isFirst <;> simp [Parser.feed] at h
    | colon fields k stack => simp [Parser.feed] at h
    | complete v stack =>
      cases stack with
      | nil => simp [Parser.feed] at h
      | cons frame stack => cases frame <;> simp [Parser.feed] at h

/-- A text that has begun can only end between tokens, behind a complete value. -/
theorem finish_of_begun (hst : st.2 ≠ .value []) (h : finish st = .ok v) : st = (.idle, .complete v []) := by
  obtain ⟨lexer, p⟩ := st
  have hresult : ∀ {p : Parser}, p.result = .ok v → p = .complete v [] := by
    intro p hp
    unfold Parser.result at hp
    split at hp
    · cases hp
      rfl
    · cases hp
  cases lexer with
  | idle => rw [hresult h]
  | number n =>
    -- a number is the whole text, or inside of an array or an object
    obtain ⟨p', hends, hp'⟩ := bind_eq_ok.1 h
    obtain ⟨t, hfeed, hnumber⟩ := ends_cases hends
    rw [hresult hp'] at hfeed
    exact absurd hfeed (feed_number_ne_complete hst hnumber)
  | text s high | escape s high | unicode s high left code | word w seen => cases h

/-! ### A value that is complete -/

theorem feed_complete (v : JsonValue) (t : Token) : (Parser.complete v []).feed t = .error .decode := by
  cases t <;> rfl

/-- Behind a complete value a token may begin, but the parser takes none. -/
theorem scan_complete (hst : st.2 = .complete v []) (h : scan st c = .ok st') :
    st'.2 = .complete v [] ∧ (st'.1 = .idle → st.1 = .idle ∧ IsBlank c) := by
  rcases scan_cases h with ⟨hsame, hlexer⟩ | ⟨t, p', hfeed, -⟩
  · rw [hsame]
    exact ⟨hst, fun hidle => hlexer.resolve_left fun hne => hne hidle⟩
  · rw [hst, feed_complete] at hfeed
    cases hfeed

/-- What ends between tokens, behind a complete value, is blank. -/
theorem blank_of_run_complete (hst : st.2 = .complete v []) (h : run st q = .ok st') (hidle : st'.1 = .idle) :
    st.1 = .idle ∧ ∀ c ∈ q, IsBlank c := by
  induction q generalizing st with
  | nil =>
    cases h
    exact ⟨hidle, by simp⟩
  | cons c q ih =>
    rw [run_cons] at h
    obtain ⟨mid, hscan, hrest⟩ := bind_eq_ok.1 h
    obtain ⟨hmid, hback⟩ := scan_complete hst hscan
    obtain ⟨hidle, hblank⟩ := ih hmid hrest
    obtain ⟨hfront, hc⟩ := hback hidle
    exact ⟨hfront, List.forall_mem_cons.2 ⟨hc, hblank⟩⟩

/-- No first part of the text of an object is read as anything. -/
theorem loads_front (h : loads (s ++ q ++ [125]) = .ok v) (hs : s.head? = some 123) : ¬ ∃ w, loads s = .ok w := by
  rintro ⟨w, hw⟩
  obtain ⟨final, hrun, hfinish⟩ := bind_eq_ok.1 h
  obtain ⟨mid, hmid, hwhole⟩ := bind_eq_ok.1 hw
  rw [List.append_assoc, run_append, hmid] at hrun
  -- the brace opens an object, which is not at the beginning any more
  have hbegun : mid.2 ≠ .value [] := by
    obtain ⟨rest, rfl⟩ := List.head?_eq_some_iff.1 hs
    have hopened : run (.idle, .key true [] []) rest = .ok mid := hmid
    refine run_ne_value_nil ?_ hopened
    simp
  obtain rfl := finish_of_begun hbegun hwhole
  have hend := finish_of_begun (run_ne_value_nil hbegun hrun) hfinish
  have hblank := (blank_of_run_complete rfl hrun (congrArg Prod.fst hend)).2 125 (by simp)
  simp [IsBlank] at hblank

end Prefixes

/-! ### Files -/

section Files

variable {style : DumpStyle} {level n : Nat} {fields : List (CodePoints × JsonValue)} {text s : CodePoints}
  {bytes : List Nat}

/-- The braces of an object. -/
theorem dump_object (h : dump style level (.object fields) = some text) : ∃ inner, text = 123 :: inner ++ [125] := by
  cases fields with
  | nil =>
    simp only [dump, Option.some.injEq] at h
    exact ⟨[], h.symm⟩
  | cons field fields =>
    obtain ⟨k, v⟩ := field
    simp only [dump, Option.bind_eq_bind, Option.bind_eq_some_iff, Option.pure_def, Option.some.injEq] at h
    obtain ⟨first, -, others, -, rfl⟩ := h
    exact ⟨style.newline (level + 1) ++ (quoteText style.ensureAscii k ++ 58 :: 32 :: (first ++ (others ++
      style.newline level))), by simp [List.append_assoc]⟩

/-- What is left of a text by a cut before its end is shorter. -/
theorem utf8Cut_ne_self (hn : n < utf8Length s) : utf8Cut n s ≠ some s := by
  induction s generalizing n with
  | nil => exact absurd hn (Nat.not_lt_zero n)
  | cons c s ih =>
    rw [utf8Length_cons] at hn
    rw [utf8Cut]
    split
    · simp
    · split
      · simp
      · intro h
        obtain ⟨t, ht, heq⟩ := Option.map_eq_some_iff.1 h
        have hrest : n - (utf8Bytes c).length < utf8Length s := by omega
        rw [(List.cons.inj heq).2] at ht
        exact ih hrest ht

/-- The text of an object that is cut off before its end is not read at all. -/
theorem loads_cut (h : Readable (.object fields)) (htext : dump style level (.object fields) = some text)
    (hfirst : s <+: text) (hne : s ≠ text) : (loads s).toOption = none := by
  obtain ⟨inner, htext'⟩ := dump_object htext
  obtain ⟨rest, hrest⟩ := hfirst
  have hwhole : loads text = .ok (.object fields) := loads_dump h trivial htext
  rcases List.eq_nil_or_concat' rest with rfl | ⟨q, b, rfl⟩
  · rw [List.append_nil] at hrest
    exact absurd hrest hne
  · rw [htext', ← List.append_assoc] at hrest
    obtain ⟨hfront, hlast⟩ := List.append_inj' hrest rfl
    cases s with
    | nil => rfl
    | cons c s =>
      have hc : c = 123 := (List.cons.inj hfront).1
      rw [htext', ← hfront] at hwhole
      cases hread : loads (c :: s) with
      | error e => rfl
      | ok w => exact absurd ⟨w, hread⟩ (loads_front hwhole (congrArg some hc))

/-- A file of an object that is cut off before its end is not read at all. -/
theorem readJson_take (h : Readable (.object fields)) (hbytes : writeJson style (.object fields) = some bytes)
    (hn : n < bytes.length) : readJson (bytes.take n) = none := by
  obtain ⟨text, htext, hencoded⟩ := Option.bind_eq_some_iff.1 hbytes
  rw [encodeUtf8, Option.ite_none_right_eq_some, Option.some.injEq] at hencoded
  obtain ⟨hscalars, rfl⟩ := hencoded
  rw [readJson, decodeUtf8_take hscalars]
  cases hcut : utf8Cut n text with
  | none => rfl
  | some s =>
    have hfirst := prefix_of_utf8Cut hcut
    have hne : s ≠ text := by
      rintro rfl
      exact utf8Cut_ne_self hn hcut
    rw [Option.bind_some, universalNewlines_eq_self fun hmem => h.not_mem htext (hfirst.subset hmem)]
    exact loads_cut h htext hfirst hne

/-- No table is loaded from a file of one that is cut off. -/
theorem RecordFormat.readTable_take {α : Type} {format : RecordFormat α} {d : InsertionDict CodePoints α}
    (h : format.Storable d) (hbytes : writeJson style (format.tableJson d) = some bytes) (hn : n < bytes.length) :
    (readJson (bytes.take n)).bind format.loadTable = none := by
  rw [readJson_take (format.readable_tableJson h) hbytes hn, Option.bind_none]

end Files

end OperatingOrganism.JsonText

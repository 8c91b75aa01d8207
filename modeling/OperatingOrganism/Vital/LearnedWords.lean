import OperatingOrganism.Vital.MetabolicForth

/-!
# What a learned word means

`forth_learn_word` stores a name, at most eight characters of code and the length that it is given, and
`vital_forth_exec` runs the code of the first word of a name. So a longer code is cut, and the loop reads on behind
it; a second word of a name is never run; and a word without a name is none. In all other cases a learned word means
its code, unless the code leads to an earlier word that is too long itself (`learned_word_means_body_iff`).
-/

set_option autoImplicit false

namespace OperatingOrganism.Vital

open OperatingOrganism.WordMachine

/-! ## Executions and what they read -/

section

variable (d : ForthDictionary) (beyond : Nat → UInt8)

/-- The execution of a character ends in the state `t`. -/
def ForthDictionary.Executes (s : ForthState) (c : UInt8) (t : ForthState) : Prop :=
  ∃ fuel, vitalForthExec d beyond fuel s c = some t

/-- The execution of some characters, one after another, ends in the state `t`. -/
def ForthDictionary.ExecutesAll (s : ForthState) (cs : List UInt8) (t : ForthState) : Prop :=
  ∃ fuel, cs.foldlM (vitalForthExec d beyond fuel) s = some t

/-- The entries `dictionary[i].code[j]` that the execution of a character reads, with at most `fuel` nested calls. -/
def forthReads : Nat → UInt8 → List (Fin maxWords × Nat)
  | 0, _ => []
  | fuel + 1, c =>
    if c = 0 then []
    else if isForthDigit c then []
    else
      match d.find c with
      | some i => (d.code beyond i).zipIdx.flatMap fun e => (i, e.2) :: forthReads fuel e.1
      | none => []

/-- The entry was written when the word was learned. -/
def ForthDictionary.IsLearned (r : Fin maxWords × Nat) : Prop :=
  r.1.val < d.wordCount ∧ r.2 < min (d.words r.1).length.toNat 8

/-- However many calls are nested, only learned entries are read. -/
def ForthDictionary.ReadsLearned (c : UInt8) : Prop := ∀ fuel, ∀ r ∈ forthReads d beyond fuel c, d.IsLearned r

/-- Whatever is learned under the name with the length: where executing the code ends, executing the name ends in the
same state and reads learned entries only. -/
def LearnedWordMeansBody (name len : UInt8) : Prop :=
  ∀ (code : Nat → UInt8) (s t : ForthState),
    let d' := forthLearnWord d name code len
    d'.ExecutesAll beyond s ((List.range len.toNat).map code) t →
      d'.Executes beyond s name t ∧ d'.ReadsLearned beyond name

/-! ## The condition -/

/-- The character is executed by running the code of word `i`. -/
def ForthDictionary.IsWord (c : UInt8) (i : Fin maxWords) : Prop := c ≠ 0 ∧ ¬ isForthDigit c ∧ d.find c = some i

/-- The character is executed without running any code, and that does nothing. -/
def IsIdle (c : UInt8) : Prop :=
  c = 0 ∨ (¬ isForthDigit c ∧ c ∉ ['+', '-', '*', 'Y', 'y', 'P', 'T', 'L', '.', 'D'].map ascii)

/-- The first character leads to the second, through the code of words. -/
def ForthDictionary.Leads (c b : UInt8) : Prop := Relation.ReflTransGen (d.CalledBy beyond) b c

/-- The character leads to none that calls itself again. -/
def ForthDictionary.Ends (c : UInt8) : Prop :=
  ∀ b, d.Leads beyond c b → ¬ Relation.TransGen (d.CalledBy beyond) b b

/-- The loop over the code of the word stays in front of the next free entry of the dictionary. -/
def ForthDictionary.StaysInFront (i : Fin maxWords) : Prop :=
  forthWordSize * i + (ByteLayout.offsetOf forthWordFields 1 + (d.words i).length.toNat) ≤ forthWordSize * d.wordCount

/-- The character can be used in the code of a new word of the name: it ends, and leads neither to the name nor to a
word whose loop gets to the entry of the new word. -/
def ForthDictionary.Usable (name c : UInt8) : Prop :=
  d.Ends beyond c ∧ ∀ b, d.Leads beyond c b → b ≠ name ∧ ∀ i, d.IsWord b i → d.StaysInFront i

/-- A new word of the name leaves the meaning of the character alone. -/
def ForthDictionary.Keeps (name b : UInt8) : Prop := b = 0 ∨ b ≠ name ∨ d.find name ≠ none

/-- The name is a new one, the length fits, and if there is any code then no word that it can use is too long. -/
def FreshAndShort (name len : UInt8) : Prop :=
  name ≠ 0 ∧ d.find name = none ∧ len.toNat ≤ 8 ∧
    (len ≠ 0 → ∀ c, d.Usable beyond name c → ∀ i, d.IsWord c i → (d.words i).length.toNat ≤ 8)

/-- There is no code, and what the name means already is to do nothing, in words that are not too long. -/
def EmptyAndIdle (name len : UInt8) : Prop :=
  len = 0 ∧ d.Ends beyond name ∧
    ∀ b, d.Leads beyond name b →
      (∀ i, d.IsWord b i → (d.words i).length.toNat ≤ 8) ∧ ((∀ i, ¬ d.IsWord b i) → IsIdle b)

end

/-! ### The dictionary as a language -/

section

variable (d : ForthDictionary) (beyond : Nat → UInt8)

theorem calls_language : Calls (d.language beyond) = d.CalledBy beyond := by
  funext b c
  exact propext (calls_language_iff d beyond b c)

theorem exec_eq_run (fuel : Nat) : vitalForthExec d beyond fuel = run (d.language beyond) fuel := by
  funext s c
  exact vitalForthExec_eq_run d beyond fuel s c

/-- A character ends if and only if it starts no infinite descent of calls. -/
theorem ends_iff_acc (c : UInt8) : d.Ends beyond c ↔ Acc (Calls (d.language beyond)) c := by
  rw [acc_iff_no_cycle, calls_language]
  exact Iff.rfl

variable {d beyond} {b c : UInt8} {i : Fin maxWords}

theorem acc_of_executes {s t : ForthState} (h : d.Executes beyond s c t) : Acc (Calls (d.language beyond)) c := by
  obtain ⟨fuel, hrun⟩ := h
  rw [exec_eq_run] at hrun
  exact acc_of_isSome (Option.isSome_iff_exists.2 ⟨t, hrun⟩)

theorem body_eq_some_of_isWord (h : d.IsWord c i) : (d.language beyond).body c = some (d.code beyond i) := by
  change d.body beyond c = _
  rw [ForthDictionary.body, if_neg (not_or.2 ⟨h.1, h.2.1⟩), h.2.2, Option.map_some]

theorem body_eq_none_iff : (d.language beyond).body c = none ↔ ∀ i, ¬ d.IsWord c i := by
  change d.body beyond c = none ↔ _
  rw [ForthDictionary.body]
  split
  · next hplain => exact iff_of_true rfl fun i h => hplain.elim h.1 h.2.1
  · next hplain =>
    rw [not_or] at hplain
    rw [Option.map_eq_none_iff, Option.eq_none_iff_forall_ne_some]
    exact forall_congr' fun i => ⟨fun h hword => h hword.2.2, fun h hfind => h ⟨hplain.1, hplain.2, hfind⟩⟩

theorem calledBy_of_mem (h : d.IsWord c i) (hb : b ∈ d.code beyond i) : d.CalledBy beyond b c :=
  ⟨h.1, h.2.1, i, h.2.2, hb⟩

theorem isWord_of_calledBy (h : d.CalledBy beyond b c) : ∃ i, d.IsWord c i ∧ b ∈ d.code beyond i := by
  obtain ⟨hnull, hdigit, i, hfind, hb⟩ := h
  exact ⟨i, ⟨hnull, hdigit, hfind⟩, hb⟩

theorem lt_wordCount_of_isWord (h : d.IsWord c i) : i.val < d.wordCount := by
  have hfind := h.2.2
  rw [ForthDictionary.find] at hfind
  have hfound := List.find?_some hfind
  rw [decide_eq_true_iff] at hfound
  exact hfound.1

/-! ### What is read -/

/-- The reads of a word: those of its loop, and those of the characters in it. -/
theorem mem_forthReads_of_isWord (h : d.IsWord c i) {fuel : Nat} {r : Fin maxWords × Nat} :
    r ∈ forthReads d beyond (fuel + 1) c ↔
      ∃ b j, (d.code beyond i)[j]? = some b ∧ (r = (i, j) ∨ r ∈ forthReads d beyond fuel b) := by
  rw [forthReads, if_neg h.1, if_neg h.2.1, h.2.2]
  dsimp only
  rw [List.mem_flatMap]
  simp only [List.mem_cons, Prod.exists, List.mem_zipIdx_iff_getElem?]

theorem forthReads_of_not_isWord (h : ∀ i, ¬ d.IsWord c i) (fuel : Nat) : forthReads d beyond fuel c = [] := by
  cases fuel with
  | zero => rfl
  | succ fuel =>
    rw [forthReads]
    split
    · rfl
    · next hnull =>
      split
      · rfl
      · next hdigit =>
        split
        · next i hfind => exact absurd ⟨hnull, hdigit, hfind⟩ (h i)
        · rfl

theorem length_code (i : Fin maxWords) : (d.code beyond i).length = (d.words i).length.toNat := by
  rw [ForthDictionary.code, List.length_map, List.length_range]

/-- The loop of a word reads learned entries only if and only if the word is not too long. -/
theorem ForthDictionary.ReadsLearned.length_le (hreads : d.ReadsLearned beyond c) (h : d.IsWord c i) :
    (d.words i).length.toNat ≤ 8 := by
  by_contra hlong
  have hlt : 8 < (d.code beyond i).length := by
    rw [length_code]
    exact Nat.not_le.1 hlong
  have hread : (i, 8) ∈ forthReads d beyond 1 c :=
    (mem_forthReads_of_isWord h).2 ⟨_, 8, List.getElem?_eq_getElem hlt, .inl rfl⟩
  exact absurd (Nat.lt_of_lt_of_le (hreads 1 _ hread).2 (Nat.min_le_right _ _)) (Nat.lt_irrefl 8)

theorem ForthDictionary.ReadsLearned.of_calledBy (hreads : d.ReadsLearned beyond c) (h : d.CalledBy beyond b c) :
    d.ReadsLearned beyond b := by
  obtain ⟨i, hword, hb⟩ := isWord_of_calledBy h
  obtain ⟨j, hj⟩ := List.mem_iff_getElem?.1 hb
  intro fuel r hr
  exact hreads (fuel + 1) r ((mem_forthReads_of_isWord hword).2 ⟨b, j, hj, .inr hr⟩)

/-- Only learned entries are read if and only if all words that the character leads to fit into their code. -/
theorem readsLearned_iff :
    d.ReadsLearned beyond c ↔ ∀ b, d.Leads beyond c b → ∀ i, d.IsWord b i → (d.words i).length.toNat ≤ 8 := by
  constructor
  · intro hreads b hleads
    have hb : d.ReadsLearned beyond b := by
      induction hleads using Relation.ReflTransGen.head_induction_on with
      | refl => exact hreads
      | head hcall _ ih => exact ih.of_calledBy hcall
    exact fun i => hb.length_le
  · intro hfits fuel
    induction fuel generalizing c with
    | zero => exact nofun
    | succ fuel ih =>
      intro r hr
      by_cases hword : ∃ i, d.IsWord c i
      · obtain ⟨i, hword⟩ := hword
        obtain ⟨b, j, hj, rfl | hr⟩ := (mem_forthReads_of_isWord hword).1 hr
        · have hlt := (List.getElem?_eq_some_iff.1 hj).1
          rw [length_code] at hlt
          refine ⟨lt_wordCount_of_isWord hword, ?_⟩
          exact Nat.lt_min.2 ⟨hlt, Nat.lt_of_lt_of_le hlt (hfits c .refl i hword)⟩
        · have hcall := calledBy_of_mem hword (List.mem_of_getElem? hj)
          exact ih (fun b' hb' => hfits b' (hb'.tail hcall)) r hr
      · rw [forthReads_of_not_isWord (fun i h => hword ⟨i, h⟩)] at hr
        cases hr

end

/-! ### Characters without code -/

/-- A state of a resting body with a stack. -/
def resting (forthStack : List (BitVec 64)) : ForthState := ⟨forthStack, ⟨0, 0, 0, 0, 0, 0⟩, ⟨0, 0, 0⟩, 0⟩

theorem forthEffect_of_isIdle {c : UInt8} (h : IsIdle c) : forthEffect c = id := by
  funext s
  rw [forthEffect]
  split
  · rfl
  · next hnull =>
    obtain ⟨hdigit, hprimitive⟩ := h.resolve_left hnull
    rw [if_neg hdigit, forthPrimitive]
    simp only [List.map_cons, List.map_nil, List.mem_cons, List.not_mem_nil, or_false, not_or] at hprimitive
    obtain ⟨h₁, h₂, h₃, h₄, h₅, h₆, h₇, h₈, h₉, h₁₀⟩ := hprimitive
    rw [if_neg h₁, if_neg h₂, if_neg h₃, if_neg h₄, if_neg h₅, if_neg h₆, if_neg h₇, if_neg h₈, if_neg h₉, if_neg h₁₀]
    rfl

/-- A push on a stack with one place left gives the stack that a push on a full one leaves as it is. -/
theorem forthPush_full (v : BitVec 64) :
    forthPush (resting (.replicate 31 v)) v = forthPush (resting (.replicate 32 v)) v := rfl

theorem replicate_ne (v : BitVec 64) : resting (.replicate 31 v) ≠ resting (.replicate 32 v) := fun h =>
  absurd (congrArg (fun s => s.forthStack.length) h) (by simp [resting])

theorem empty_ne : resting [] ≠ resting [0] := fun h => absurd (congrArg ForthState.forthStack h) nofun

/-- A character that loses nothing does nothing: pushes lose on a full stack, pops on an empty one, and the beacon
loses the old aura. -/
theorem isIdle_of_injective {c : UInt8} (h : Function.Injective (forthEffect c)) : IsIdle c := by
  by_cases hnull : c = 0
  · exact .inl hnull
  by_cases hdigit : isForthDigit c
  · have heffect : forthEffect c = fun s => forthPush s ((c - ascii '0').toBitVec.setWidth 64) := by
      funext s
      rw [forthEffect, if_neg hnull, if_pos hdigit]
    rw [heffect] at h
    exact absurd (h (forthPush_full _)) (replicate_ne _)
  refine .inr ⟨hdigit, fun hprimitive => ?_⟩
  simp only [List.map_cons, List.map_nil, List.mem_cons, List.not_mem_nil, or_false] at hprimitive
  rcases hprimitive with rfl | rfl | rfl | rfl | rfl | rfl | rfl | rfl | rfl | rfl
  · exact absurd (@h (resting []) (resting [0]) rfl) empty_ne
  · exact absurd (@h (resting []) (resting [0]) rfl) empty_ne
  · exact absurd (@h (resting []) (resting [0]) rfl) empty_ne
  · exact absurd (@h (resting []) (resting [0]) rfl) empty_ne
  · exact absurd (@h (resting []) (resting [0]) rfl) empty_ne
  · exact absurd (@h (resting (.replicate 31 0)) (resting (.replicate 32 0)) rfl) (replicate_ne 0)
  · exact absurd (@h (resting (.replicate 31 0)) (resting (.replicate 32 0)) rfl) (replicate_ne 0)
  · exact absurd (@h (resting (.replicate 31 0)) (resting (.replicate 32 0)) rfl) (replicate_ne 0)
  · exact absurd (@h (resting []) (resting [0]) rfl) empty_ne
  · have hsame := @h (resting []) { resting [] with aura := ⟨255, 0, 0⟩ } rfl
    exact absurd (congrArg ForthState.aura hsame) (by decide)

/-! ### The dictionary with one more word -/

section

variable {d : ForthDictionary} {beyond : Nat → UInt8} {name len b : UInt8} {code : Nat → UInt8} {i : Fin maxWords}

theorem find_eq_some_iff :
    d.find b = some i ↔
      i.val < d.wordCount ∧ (d.words i).name = b ∧ ∀ j, j.val < i.val → (d.words j).name ≠ b := by
  rw [ForthDictionary.find, List.find?_eq_some_iff_getElem]
  simp only [decide_eq_true_eq, List.getElem_finRange, List.length_finRange, Bool.not_eq_true', decide_eq_false_iff_not]
  constructor
  · rintro ⟨⟨hcount, hname⟩, k, hk, rfl, hbefore⟩
    refine ⟨hcount, hname, fun j hj hsame => ?_⟩
    exact hbefore j hj ⟨Nat.lt_trans hj hcount, hsame⟩
  · rintro ⟨hcount, hname, hbefore⟩
    exact ⟨⟨hcount, hname⟩, i.val, i.isLt, rfl, fun j hj hsame => hbefore ⟨j, _⟩ hj hsame.2⟩

theorem find_eq_none_iff : d.find b = none ↔ ∀ j : Fin maxWords, j.val < d.wordCount → (d.words j).name ≠ b := by
  rw [ForthDictionary.find, List.find?_eq_none]
  simp only [List.mem_finRange, decide_eq_true_eq, true_implies, not_and]

/-- A word that is not too long stays in front of the next entry. -/
theorem staysInFront_of_length_le (hi : i.val < d.wordCount) (h : (d.words i).length.toNat ≤ 8) :
    d.StaysInFront i := by
  have hfront : forthWordSize * i.val + forthWordSize ≤ forthWordSize * d.wordCount := Nat.mul_le_mul_left _ hi
  have hoffset : ByteLayout.offsetOf forthWordFields 1 + 9 = forthWordSize := by decide
  rw [ForthDictionary.StaysInFront]
  omega

theorem ForthDictionary.Usable.leads {c : UInt8} (h : d.Usable beyond name c) (hb : d.Leads beyond c b) :
    d.Usable beyond name b :=
  ⟨fun b' hb' => h.1 b' (hb'.trans hb), fun b' hb' => h.2 b' (hb'.trans hb)⟩

/-- NUL and the names of earlier words change no meaning. -/
theorem keeps_of_not_new (h : ¬ (name ≠ 0 ∧ d.find name = none)) (b : UInt8) : d.Keeps name b := by
  by_contra hnone
  simp only [ForthDictionary.Keeps, not_or, not_not] at hnone
  exact h ⟨hnone.2.1 ▸ hnone.1, hnone.2.2⟩

variable (hroom : d.wordCount < maxWords)
include hroom

theorem wordCount_learn : (forthLearnWord d name code len).wordCount = d.wordCount + 1 := by
  rw [forthLearnWord, dif_pos hroom]

/-- The new word. -/
theorem words_learn_self :
    (forthLearnWord d name code len).words ⟨d.wordCount, hroom⟩ =
      ⟨name, fun j => if j.val < len.toNat then code j else (d.words ⟨d.wordCount, hroom⟩).code j, len⟩ := by
  rw [forthLearnWord, dif_pos hroom]
  exact Function.update_self ..

/-- The earlier words. -/
theorem words_learn_of_lt (hi : i.val < d.wordCount) : (forthLearnWord d name code len).words i = d.words i := by
  rw [forthLearnWord, dif_pos hroom]
  exact Function.update_of_ne (fun heq => absurd (congrArg Fin.val heq) (Nat.ne_of_lt hi)) ..

/-- The bytes in front of the new word. -/
theorem byte_learn_of_lt {k : Nat} (hk : k < forthWordSize * d.wordCount) :
    (forthLearnWord d name code len).byte beyond k = d.byte beyond k := by
  have hword : k / forthWordSize < d.wordCount := Nat.div_lt_of_lt_mul hk
  have hin : k / forthWordSize < maxWords := Nat.lt_trans hword hroom
  rw [ForthDictionary.byte, ForthDictionary.byte, dif_pos hin, dif_pos hin, words_learn_of_lt hroom hword]

/-- A byte of the new word. -/
theorem byte_learn_self {k : Nat} (hk : k < forthWordSize) :
    (forthLearnWord d name code len).byte beyond (forthWordSize * d.wordCount + k) =
      ((forthLearnWord d name code len).words ⟨d.wordCount, hroom⟩).byte k := by
  have hdiv : (forthWordSize * d.wordCount + k) / forthWordSize = d.wordCount := by
    rw [Nat.mul_add_div (by decide), Nat.div_eq_of_lt hk, Nat.add_zero]
  have hmod : (forthWordSize * d.wordCount + k) % forthWordSize = k := by
    rw [Nat.mul_add_mod, Nat.mod_eq_of_lt hk]
  simp only [ForthDictionary.byte, hdiv, hmod, hroom, ↓reduceDIte]

/-- The code of an earlier word whose loop stays in front of the new one. -/
theorem code_learn_of_staysInFront (hi : i.val < d.wordCount) (h : d.StaysInFront i) :
    (forthLearnWord d name code len).code beyond i = d.code beyond i := by
  rw [ForthDictionary.code, ForthDictionary.code, words_learn_of_lt hroom hi]
  refine List.map_congr_left fun j hj => byte_learn_of_lt hroom ?_
  rw [List.mem_range] at hj
  rw [ForthDictionary.StaysInFront] at h
  omega

/-- The code of an earlier word whose loop does not has the new name in it. -/
theorem mem_code_learn_of_not_staysInFront (hi : i.val < d.wordCount) (h : ¬ d.StaysInFront i) :
    name ∈ (forthLearnWord d name code len).code beyond i := by
  rw [ForthDictionary.StaysInFront, Nat.not_le] at h
  have hfront : forthWordSize * i.val + forthWordSize ≤ forthWordSize * d.wordCount := Nat.mul_le_mul_left _ hi
  have hoffset : ByteLayout.offsetOf forthWordFields 1 + 9 = forthWordSize := by decide
  rw [ForthDictionary.code, words_learn_of_lt hroom hi, List.mem_map]
  -- the place in the loop that reads the name of the new word
  refine ⟨forthWordSize * d.wordCount - (forthWordSize * i.val + ByteLayout.offsetOf forthWordFields 1), ?_, ?_⟩
  · rw [List.mem_range]
    omega
  · have hplace : forthWordSize * i.val + (ByteLayout.offsetOf forthWordFields 1 + (forthWordSize * d.wordCount -
        (forthWordSize * i.val + ByteLayout.offsetOf forthWordFields 1))) = forthWordSize * d.wordCount + 0 := by
      omega
    rw [hplace, byte_learn_self hroom (by decide), words_learn_self hroom]
    rfl

/-- A code that fits is the code of the new word. -/
theorem code_learn_self (h : len.toNat ≤ 8) :
    (forthLearnWord d name code len).code beyond ⟨d.wordCount, hroom⟩ = (List.range len.toNat).map code := by
  rw [ForthDictionary.code, words_learn_self hroom]
  refine List.map_congr_left fun j hj => ?_
  rw [List.mem_range] at hj
  have hj8 : j < 8 := Nat.lt_of_lt_of_le hj h
  have hoffset : ByteLayout.offsetOf forthWordFields 1 = 1 := by decide
  have hsize : forthWordSize = 10 := by decide
  rw [byte_learn_self hroom (by omega), words_learn_self hroom, ForthWord.byte, hoffset, if_neg (by omega),
    dif_pos (by omega)]
  simp only [Nat.add_sub_cancel_left, hj, ↓reduceIte]

/-- The search finds the earlier words as before. -/
theorem find_learn_of_some (h : d.find b = some i) : (forthLearnWord d name code len).find b = some i := by
  obtain ⟨hi, hname, hbefore⟩ := find_eq_some_iff.1 h
  refine find_eq_some_iff.2 ⟨?_, ?_, fun j hj => ?_⟩
  · rw [wordCount_learn hroom]
    exact Nat.lt_succ_of_lt hi
  · rw [words_learn_of_lt hroom hi]
    exact hname
  · rw [words_learn_of_lt hroom (Nat.lt_trans hj hi)]
    exact hbefore j hj

/-- It finds no others than the new one. -/
theorem find_learn_of_none (h : d.find b = none) :
    (forthLearnWord d name code len).find b = if b = name then some ⟨d.wordCount, hroom⟩ else none := by
  rw [find_eq_none_iff] at h
  have hlater : ∀ j : Fin maxWords, j.val < d.wordCount + 1 → ¬ j.val < d.wordCount →
      j = ⟨d.wordCount, hroom⟩ := fun j hj hnot => Fin.ext (Nat.le_antisymm (Nat.lt_succ_iff.1 hj) (Nat.not_lt.1 hnot))
  split
  · next heq =>
    refine find_eq_some_iff.2 ⟨?_, ?_, fun j hj => ?_⟩
    · rw [wordCount_learn hroom]
      exact Nat.lt_succ_self _
    · rw [words_learn_self hroom]
      exact heq.symm
    · rw [words_learn_of_lt hroom hj]
      exact h j hj
  · next hne =>
    refine find_eq_none_iff.2 fun j hj => ?_
    rw [wordCount_learn hroom] at hj
    by_cases hold : j.val < d.wordCount
    · rw [words_learn_of_lt hroom hold]
      exact h j hold
    · rw [hlater j hj hold, words_learn_self hroom]
      exact fun heq => hne heq.symm

/-- The characters that the new word does not define lead to the same words as before. -/
theorem isWord_learn_iff (hb : d.Keeps name b) :
    (forthLearnWord d name code len).IsWord b i ↔ d.IsWord b i := by
  refine and_congr_right fun hnull => and_congr_right fun _ => ?_
  cases hfind : d.find b with
  | some j => rw [find_learn_of_some hroom hfind]
  | none =>
    rw [find_learn_of_none hroom hfind, if_neg]
    rintro rfl
    exact (hb.resolve_left hnull).elim (fun hne => hne rfl) fun hsome => hsome hfind

/-- The new name leads to the new word if it is new. -/
theorem isWord_learn_self (hnull : name ≠ 0) (hdigit : ¬ isForthDigit name) (hfresh : d.find name = none) :
    (forthLearnWord d name code len).IsWord name i ↔ i = ⟨d.wordCount, hroom⟩ := by
  rw [ForthDictionary.IsWord, find_learn_of_none hroom hfresh, if_pos rfl, Option.some.injEq, eq_comm]
  exact ⟨fun h => h.2.2, fun h => ⟨hnull, hdigit, h⟩⟩

/-- Such a character has the same body as before if the loop of its word stays in front of the new one. -/
theorem body_learn (hb : d.Keeps name b) (hstays : ∀ i, d.IsWord b i → d.StaysInFront i) :
    ((forthLearnWord d name code len).language beyond).body b = (d.language beyond).body b := by
  by_cases hword : ∃ i, d.IsWord b i
  · obtain ⟨i, hword⟩ := hword
    rw [body_eq_some_of_isWord hword, body_eq_some_of_isWord ((isWord_learn_iff hroom hb).2 hword),
      code_learn_of_staysInFront hroom (lt_wordCount_of_isWord hword) (hstays i hword)]
  · have hnone : ∀ i, ¬ d.IsWord b i := fun i h => hword ⟨i, h⟩
    rw [body_eq_none_iff.2 hnone, body_eq_none_iff.2 fun i h => hnone i ((isWord_learn_iff hroom hb).1 h)]

/-- A character that leads to no new name and to no word behind the new entry is executed as before. -/
theorem agreesBelow_learn {c : UInt8}
    (h : ∀ b, d.Leads beyond c b → d.Keeps name b ∧ ∀ i, d.IsWord b i → d.StaysInFront i) :
    AgreesBelow (d.language beyond) ((forthLearnWord d name code len).language beyond) c := by
  intro b hb
  rw [calls_language] at hb
  exact ⟨body_learn hroom (h b hb).1 (h b hb).2, rfl⟩

/-- The same, seen from the new dictionary. -/
theorem agreesBelow_of_learn {c : UInt8}
    (h : ∀ b, (forthLearnWord d name code len).Leads beyond c b →
      d.Keeps name b ∧ ∀ i, d.IsWord b i → d.StaysInFront i) :
    AgreesBelow ((forthLearnWord d name code len).language beyond) (d.language beyond) c := by
  intro b hb
  rw [calls_language] at hb
  exact ⟨(body_learn hroom (h b hb).1 (h b hb).2).symm, rfl⟩

/-- A character that reads learned entries only and does not lead to a new name is executed as before. -/
theorem agreesBelow_of_readsLearned {c : UInt8} (hreads : (forthLearnWord d name code len).ReadsLearned beyond c)
    (h : ∀ b, d.Keeps name b) :
    AgreesBelow ((forthLearnWord d name code len).language beyond) (d.language beyond) c := by
  refine agreesBelow_of_learn hroom fun b hb => ⟨h b, fun i hword => ?_⟩
  have hfits := readsLearned_iff.1 hreads b hb i ((isWord_learn_iff hroom (h b)).2 hword)
  rw [words_learn_of_lt hroom (lt_wordCount_of_isWord hword)] at hfits
  exact staysInFront_of_length_le (lt_wordCount_of_isWord hword) hfits

/-! ### Words that mean their code -/

/-- Where the execution of a new word ends, the characters of its code are usable, and they are executed as
before. -/
theorem usable_of_mem {c : UInt8} (hacc : Acc (Calls ((forthLearnWord d name code len).language beyond)) name)
    (hcall : (forthLearnWord d name code len).CalledBy beyond c name) :
    AgreesBelow ((forthLearnWord d name code len).language beyond) (d.language beyond) c ∧
      d.Usable beyond name c := by
  have hnot : ¬ (forthLearnWord d name code len).Leads beyond c name := by
    intro hleads
    refine not_transGen_self_of_acc hacc ?_
    rw [calls_language]
    exact Relation.TransGen.tail' hleads hcall
  have hclear : ∀ b, (forthLearnWord d name code len).Leads beyond c b →
      b ≠ name ∧ ∀ i, d.IsWord b i → d.StaysInFront i := by
    intro b hb
    have hne : b ≠ name := fun heq => hnot (heq ▸ hb)
    refine ⟨hne, fun i hword => ?_⟩
    by_contra hbehind
    have hmem : name ∈ (forthLearnWord d name code len).code beyond i :=
      mem_code_learn_of_not_staysInFront hroom (lt_wordCount_of_isWord hword) hbehind
    exact hnot (.head (calledBy_of_mem ((isWord_learn_iff hroom (.inr (.inl hne))).2 hword) hmem) hb)
  have hagree := agreesBelow_of_learn hroom fun b hb => ⟨.inr (.inl (hclear b hb).1), (hclear b hb).2⟩
  refine ⟨hagree, (ends_iff_acc d beyond c).2 (hagree.symm.acc ?_), fun b hb => hclear b ?_⟩
  · rw [← calls_language] at hcall
    exact hacc.inv hcall
  · rw [ForthDictionary.Leads, ← calls_language] at hb ⊢
    exact hagree.reaches_iff.1 hb

/-- A new word that is short means its code. -/
theorem means_of_freshAndShort (hdigit : ¬ isForthDigit name) (h : FreshAndShort d beyond name len) :
    LearnedWordMeansBody d beyond name len := by
  obtain ⟨hnull, hfresh, hlen, hwords⟩ := h
  intro code s t d' hbody
  obtain ⟨fuel, hall⟩ := hbody
  have hself : d'.IsWord name ⟨d.wordCount, hroom⟩ := (isWord_learn_self hroom hnull hdigit hfresh).2 rfl
  have hcode : d'.code beyond ⟨d.wordCount, hroom⟩ = (List.range len.toNat).map code := code_learn_self hroom hlen
  have hrun : vitalForthExec d' beyond (fuel + 1) s name = some t := by
    rw [vitalForthExec, if_neg hnull, if_neg hdigit, hself.2.2]
    dsimp only
    rw [hcode]
    exact hall
  have hacc : Acc (Calls (d'.language beyond)) name := acc_of_executes ⟨fuel + 1, hrun⟩
  refine ⟨⟨fuel + 1, hrun⟩, readsLearned_iff.2 fun b hb i hword => ?_⟩
  by_cases hname : b = name
  · rw [hname, isWord_learn_self hroom hnull hdigit hfresh] at hword
    rw [hword, words_learn_self hroom]
    exact hlen
  · -- the character is below one of the code, which is usable
    rcases Relation.ReflTransGen.cases_tail hb with heq | ⟨c, hbc, hcall⟩
    · exact absurd heq.symm hname
    obtain ⟨hagree, husable⟩ := usable_of_mem hroom hacc hcall
    obtain ⟨j, hj, hc⟩ := isWord_of_calledBy hcall
    rw [(isWord_learn_self hroom hnull hdigit hfresh).1 hj, hcode] at hc
    have hsome : len ≠ 0 := by
      rintro rfl
      exact absurd hc List.not_mem_nil
    have hleads : d.Leads beyond c b := by
      rw [← calls_language] at hbc
      rw [ForthDictionary.Leads, ← calls_language]
      exact hagree.reaches_iff.2 hbc
    rw [isWord_learn_iff hroom (.inr (.inl hname))] at hword
    rw [words_learn_of_lt hroom (lt_wordCount_of_isWord hword)]
    exact hwords hsome b (husable.leads hleads) i hword

/-- An empty word means nothing under a name that means nothing already. -/
theorem means_of_emptyAndIdle (hdigit : ¬ isForthDigit name) (h : EmptyAndIdle d beyond name len) :
    LearnedWordMeansBody d beyond name len := by
  obtain ⟨rfl, hends, hidle⟩ := h
  by_cases hnew : name ≠ 0 ∧ d.find name = none
  · exact means_of_freshAndShort hroom hdigit ⟨hnew.1, hnew.2, Nat.zero_le 8, fun hsome => absurd rfl hsome⟩
  have hold := keeps_of_not_new hnew
  intro code s t d' hbody
  obtain ⟨fuel, hall⟩ := hbody
  obtain rfl : s = t := Option.some.inj hall
  have hagree : AgreesBelow (d.language beyond) (d'.language beyond) name := by
    refine agreesBelow_learn hroom fun b hb => ⟨hold b, fun i hword => ?_⟩
    exact staysInFront_of_length_le (lt_wordCount_of_isWord hword) ((hidle b hb).1 i hword)
  obtain ⟨leaves, hleaves, fuel', hrun⟩ := exists_leaves ((ends_iff_acc d beyond name).1 hends)
  refine ⟨⟨fuel', ?_⟩, readsLearned_iff.2 fun b hb i hword => ?_⟩
  · rw [vitalForthExec_eq_run, hagree.run_eq, hrun, effects_eq_self]
    intro b hb
    obtain ⟨hleads, hnone⟩ := (hleaves b).1 hb
    rw [calls_language] at hleads
    exact forthEffect_of_isIdle ((hidle b hleads).2 (body_eq_none_iff.1 hnone))
  · rw [isWord_learn_iff hroom (hold b)] at hword
    rw [words_learn_of_lt hroom (lt_wordCount_of_isWord hword)]
    refine (hidle b ?_).1 i hword
    rw [ForthDictionary.Leads, ← calls_language] at hb ⊢
    exact hagree.reaches_iff.1 hb

/-! ### Words that do not -/

/-- Code with one character and nothing behind it. -/
def onlyFirst (c : UInt8) (j : Nat) : UInt8 := if j = 0 then c else 0

omit hroom in
/-- Executing such code is executing its character. -/
theorem executesAll_onlyFirst {c : UInt8} {s t : ForthState} (hlen : len ≠ 0) (h : d.Executes beyond s c t) :
    d.ExecutesAll beyond s ((List.range len.toNat).map (onlyFirst c)) t := by
  obtain ⟨fuel, hrun⟩ := h
  obtain ⟨m, hm⟩ : ∃ m, len.toNat = m + 1 :=
    Nat.exists_eq_succ_of_ne_zero fun hzero => hlen (UInt8.toNat_inj.1 hzero)
  cases fuel with
  | zero => cases hrun
  | succ fuel =>
    have hnul : ∀ l : List UInt8, (∀ b ∈ l, b = 0) → l.foldlM (vitalForthExec d beyond (fuel + 1)) t = some t := by
      intro l
      induction l with
      | nil => exact fun _ => rfl
      | cons b l ih =>
        intro hall
        rw [List.foldlM_cons, hall b List.mem_cons_self]
        exact ih fun b hb => hall b (List.mem_cons_of_mem _ hb)
    refine ⟨fuel + 1, ?_⟩
    rw [hm, List.range_succ_eq_map, List.map_cons, List.foldlM_cons, onlyFirst, if_pos rfl, hrun]
    refine hnul _ fun b hb => ?_
    rw [List.map_map, List.mem_map] at hb
    obtain ⟨j, -, rfl⟩ := hb
    rfl

/-- Under a name that has a meaning already, executing the name is what it was. -/
theorem run_of_means (hold : ∀ b, d.Keeps name b) (h : LearnedWordMeansBody d beyond name len)
    {s t : ForthState}
    (hbody : (forthLearnWord d name code len).ExecutesAll beyond s ((List.range len.toNat).map code) t) :
    AgreesBelow ((forthLearnWord d name code len).language beyond) (d.language beyond) name ∧
      ∃ fuel, run (d.language beyond) fuel s name = some t := by
  obtain ⟨⟨fuel, hrun⟩, hreads⟩ := h code s t hbody
  have hagree := agreesBelow_of_readsLearned hroom hreads hold
  refine ⟨hagree, fuel, ?_⟩
  rw [hagree.run_eq, ← vitalForthExec_eq_run]
  exact hrun

/-- An empty word that means nothing has a new name, or one that means nothing already. -/
theorem condition_of_means_empty (h : LearnedWordMeansBody d beyond name 0) :
    FreshAndShort d beyond name 0 ∨ EmptyAndIdle d beyond name 0 := by
  by_cases hnew : name ≠ 0 ∧ d.find name = none
  · exact .inl ⟨hnew.1, hnew.2, Nat.zero_le 8, fun hsome => absurd rfl hsome⟩
  have hold := keeps_of_not_new hnew
  have hbody : ∀ s, (forthLearnWord d name (fun _ => 0) 0).ExecutesAll beyond s [] s := fun s => ⟨0, rfl⟩
  have hagree := (run_of_means hroom hold h (hbody (resting []))).1
  have hreads := readsLearned_iff.1 (h (fun _ => 0) _ _ (hbody (resting []))).2
  have hacc := hagree.symm.acc (acc_of_executes (h (fun _ => 0) _ _ (hbody (resting []))).1)
  obtain ⟨leaves, hleaves, fuel, hrun⟩ := exists_leaves hacc
  have heffects : ∀ s, effects (d.language beyond) leaves s = s := by
    intro s
    obtain ⟨fuel', hrun'⟩ := (run_of_means hroom hold h (hbody s)).2
    exact run_unique (hrun s) hrun'
  have hidle := effect_eq_id_of_effects (fun b _ hinj => forthEffect_of_isIdle (isIdle_of_injective hinj)) heffects
  refine .inr ⟨rfl, (ends_iff_acc d beyond name).2 hacc, fun b hb => ⟨fun i hword => ?_, fun hnone => ?_⟩⟩
  · rw [← words_learn_of_lt hroom (lt_wordCount_of_isWord hword)]
    refine hreads b ?_ i ((isWord_learn_iff hroom (hold b)).2 hword)
    rw [ForthDictionary.Leads, ← calls_language] at hb ⊢
    exact hagree.reaches_iff.1 hb
  · rw [ForthDictionary.Leads, ← calls_language] at hb
    refine isIdle_of_injective ?_
    change Function.Injective ((d.language beyond).effect b)
    rw [hidle b ((hleaves b).2 ⟨hb, body_eq_none_iff.2 hnone⟩)]
    exact Function.injective_id

/-- A word with code that means it has a new name: code that pushes a digit and code that does nothing cannot both
be meant by what the name was. -/
theorem new_of_means (hlen : len ≠ 0) (h : LearnedWordMeansBody d beyond name len) :
    name ≠ 0 ∧ d.find name = none := by
  by_contra hnew
  have hold := keeps_of_not_new hnew
  have hnul : (forthLearnWord d name (onlyFirst 0) len).Executes beyond (resting []) 0 (resting []) := ⟨1, rfl⟩
  have hfive : (forthLearnWord d name (onlyFirst (ascii '5')) len).Executes beyond (resting []) (ascii '5')
      (resting [5]) := ⟨1, rfl⟩
  obtain ⟨fuel, hrun⟩ := (run_of_means hroom hold h (executesAll_onlyFirst hlen hnul)).2
  obtain ⟨fuel', hrun'⟩ := (run_of_means hroom hold h (executesAll_onlyFirst hlen hfive)).2
  have hsame := congrArg ForthState.forthStack (run_unique hrun hrun')
  cases hsame

/-- A word with code that means it is fresh and short. -/
theorem freshAndShort_of_means (hdigit : ¬ isForthDigit name) (hlen : len ≠ 0)
    (h : LearnedWordMeansBody d beyond name len) : FreshAndShort d beyond name len := by
  obtain ⟨hnull, hfresh⟩ := new_of_means hroom hlen h
  have hself : ∀ code, (forthLearnWord d name code len).IsWord name ⟨d.wordCount, hroom⟩ := fun code =>
    (isWord_learn_self hroom hnull hdigit hfresh).2 rfl
  have hshort : len.toNat ≤ 8 := by
    have hnul : (forthLearnWord d name (onlyFirst 0) len).Executes beyond (resting []) 0 (resting []) := ⟨1, rfl⟩
    have hfits := (h _ _ _ (executesAll_onlyFirst hlen hnul)).2.length_le (hself _)
    rw [words_learn_self hroom] at hfits
    exact hfits
  refine ⟨hnull, hfresh, hshort, fun _ c husable i hword => ?_⟩
  have hne : c ≠ name := (husable.2 c .refl).1
  -- the code consists of the usable character
  have hagree : AgreesBelow (d.language beyond) ((forthLearnWord d name (onlyFirst c) len).language beyond) c :=
    agreesBelow_learn hroom fun b hb => ⟨.inr (.inl (husable.2 b hb).1), (husable.2 b hb).2⟩
  obtain ⟨leaves, -, fuel, hrun⟩ := exists_leaves (hagree.symm.acc ((ends_iff_acc d beyond c).1 husable.1))
  have hexec : (forthLearnWord d name (onlyFirst c) len).Executes beyond (resting []) c _ :=
    ⟨fuel, (vitalForthExec_eq_run _ _ _ _ _).trans (hrun (resting []))⟩
  have hreads := (h _ _ _ (executesAll_onlyFirst hlen hexec)).2
  have hmem : c ∈ (forthLearnWord d name (onlyFirst c) len).code beyond ⟨d.wordCount, hroom⟩ := by
    rw [code_learn_self hroom hshort, List.mem_map]
    refine ⟨0, List.mem_range.2 (Nat.pos_of_ne_zero fun hzero => hlen (UInt8.toNat_inj.1 hzero)), rfl⟩
  have hfits := (hreads.of_calledBy (calledBy_of_mem (hself _) hmem)).length_le
    ((isWord_learn_iff hroom (.inr (.inl hne))).2 hword)
  rw [words_learn_of_lt hroom (lt_wordCount_of_isWord hword)] at hfits
  exact hfits

end

/-! ### Both together -/

/-- For every dictionary with room, every name that is no digit and every length, whatever is learned is meant if
and only if the name is new and the code short, or there is no code and the name does nothing already. -/
theorem learned_word_means_body_iff (d : ForthDictionary) (beyond : Nat → UInt8) (name len : UInt8)
    (hroom : d.wordCount < maxWords) (hdigit : ¬ isForthDigit name) :
    LearnedWordMeansBody d beyond name len ↔ FreshAndShort d beyond name len ∨ EmptyAndIdle d beyond name len := by
  constructor
  · intro h
    by_cases hlen : len = 0
    · subst hlen
      exact condition_of_means_empty hroom h
    · exact .inl (freshAndShort_of_means hroom hdigit hlen h)
  · rintro (h | h)
    · exact means_of_freshAndShort hroom hdigit h
    · exact means_of_emptyAndIdle hroom hdigit h

/-- The first word that is learned, with eight characters. -/
theorem learned_word_means_body_first : LearnedWordMeansBody .boot (fun _ => 0) (ascii 'a') 8 := by
  refine (learned_word_means_body_iff .boot (fun _ => 0) (ascii 'a') 8 (by decide) (by decide)).2 (.inl ?_)
  refine ⟨by decide, find_eq_none_iff.2 fun j hj => absurd hj (Nat.not_lt_zero _), by decide, ?_⟩
  exact fun _ c _ i hword => absurd (lt_wordCount_of_isWord hword) (Nat.not_lt_zero _)

/-- A word with nine characters that push a one pushes eight: the ninth is read from the length of the word. -/
theorem exists_learned_word_cut :
    ∃ (d : ForthDictionary) (beyond : Nat → UInt8) (name len : UInt8), d.wordCount < maxWords ∧ ¬ isForthDigit name ∧
      ¬ LearnedWordMeansBody d beyond name len := by
  refine ⟨.boot, fun _ => 0, ascii 'a', 9, by decide, by decide, fun h => ?_⟩
  obtain ⟨⟨fuel, hrun⟩, -⟩ := h (fun _ => ascii '1') (resting []) (resting (.replicate 9 1)) ⟨1, rfl⟩
  have height : vitalForthExec (forthLearnWord .boot (ascii 'a') (fun _ => ascii '1') 9) (fun _ => 0) 2 (resting [])
      (ascii 'a') = some (resting (.replicate 8 1)) := rfl
  rw [exec_eq_run] at hrun height
  have hsame := congrArg (fun s => s.forthStack.length) (run_unique hrun height)
  exact absurd hsame (by decide)

end OperatingOrganism.Vital

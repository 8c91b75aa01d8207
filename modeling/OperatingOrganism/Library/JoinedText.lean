import Mathlib.Tactic.ByContra

/-!
# Texts joined with a separator

A list of texts, joined with a separator character, and the parts of a text between the separators.
Joining the parts of a text gives the text back (`intercalate_split`). The parts of a joined list are the
parts of its members (`split_intercalate`), so that the list can be read back only where no member
contains the separator.
-/

set_option autoImplicit false

namespace OperatingOrganism.JoinedText

/-- The parts of a text between the occurrences of a character. -/
def split (c : Char) (s : String) : List String := (s.toList.splitOn c).map String.ofList

/-- The texts of a list with a character between any two of them. -/
def join (c : Char) (l : List String) : String := (String.singleton c).intercalate l

variable {c : Char} {s t : String} {l m : List String}

/-! ## Parts -/

theorem split_ne_nil : split c s ≠ [] := by
  simp [split, List.splitOn_ne_nil]

/-- A text without the separator is its only part. -/
theorem split_of_not_mem (h : c ∉ s.toList) : split c s = [s] := by
  simp [split, List.splitOn_eq_singleton h]

/-- The parts of two texts with the separator between them. -/
theorem split_append : split c (s ++ String.singleton c ++ t) = split c s ++ split c t := by
  simp [split, List.splitOn_append_cons_self]

/-- The parts, joined again. -/
theorem join_split : join c (split c s) = s := by
  rw [← String.toList_inj, join, String.toList_intercalate, split, List.map_map]
  have hid : String.toList ∘ String.ofList = id := funext fun _ => String.toList_ofList
  rw [hid, List.map_id, String.toList_singleton, List.intercalate_splitOn]

/-- A text is determined by its parts. -/
theorem split_injective (h : split c s = split c t) : s = t := by
  rw [← join_split (c := c) (s := s), h, join_split]

/-- A text with the separator has a first part and a rest. -/
theorem exists_append_of_mem (h : c ∈ s.toList) : ∃ a b, s = a ++ String.singleton c ++ b := by
  obtain ⟨xs, ys, hxy⟩ := List.append_of_mem h
  refine ⟨String.ofList xs, String.ofList ys, ?_⟩
  rw [← String.toList_inj, hxy]
  simp

/-! ## Joined lists -/

theorem join_singleton : join c [s] = s := String.intercalate_singleton

theorem join_cons (hl : l ≠ []) : join c (s :: l) = s ++ String.singleton c ++ join c l :=
  String.intercalate_cons_of_ne_nil hl

theorem join_append (hl : l ≠ []) (hm : m ≠ []) :
    join c (l ++ m) = join c l ++ String.singleton c ++ join c m :=
  String.intercalate_append_of_ne_nil hl hm

/-- Joining a list one of whose members is a joined list. -/
theorem join_append_cons_join {r : List String} (hl : l ≠ []) :
    join c (m ++ join c l :: r) = join c (m ++ (l ++ r)) := by
  induction m with
  | nil =>
    cases r with
    | nil => rw [List.nil_append, join_singleton, List.append_nil, List.nil_append]
    | cons t r =>
      have hr : t :: r ≠ [] := List.cons_ne_nil t r
      rw [List.nil_append, List.nil_append, join_cons hr, join_append hl hr]
  | cons s m ih =>
    rw [List.cons_append, join_cons (by simp), ih, List.cons_append, join_cons (by simp [hl])]

/-- The parts of a joined list are the parts of its members. -/
theorem split_join (hl : l ≠ []) : split c (join c l) = l.flatMap (split c) := by
  induction l with
  | nil => exact absurd rfl hl
  | cons s l ih =>
    cases l with
    | nil => simp [join_singleton]
    | cons t l =>
      have hne : t :: l ≠ [] := List.cons_ne_nil t l
      rw [join_cons hne, split_append, ih hne, ← List.flatMap_cons]

/-- Texts without the separator are their own parts. -/
theorem flatMap_split_of_not_mem (h : ∀ s ∈ l, c ∉ s.toList) : l.flatMap (split c) = l := by
  induction l with
  | nil => rfl
  | cons s l ih =>
    rw [List.flatMap_cons, split_of_not_mem (h s List.mem_cons_self),
      ih fun t ht => h t (List.mem_cons_of_mem s ht)]
    rfl

/-- What comes after the last separator is continued by a text without it. -/
theorem split_append_of_not_mem (h : c ∉ t.toList) (s : String) : split c (s ++ t) =
    (split c s).dropLast ++ [(split c s).getLast split_ne_nil ++ t] := by
  by_cases hs : c ∈ s.toList
  · obtain ⟨a, b, rfl⟩ := exists_append_of_mem hs
    -- the separator found splits off a part, and what follows it is shorter
    have hlt : b.length < (a ++ String.singleton c ++ b).length := by
      simp only [String.length_append, String.length_singleton]
      omega
    rw [String.append_assoc, split_append, split_append_of_not_mem h b]
    simp only [split_append, List.dropLast_append_of_ne_nil split_ne_nil, List.append_assoc,
      List.getLast_append_of_ne_nil _ split_ne_nil]
  · have hst : c ∉ (s ++ t).toList := by
      rw [String.toList_append, List.mem_append, not_or]
      exact ⟨hs, h⟩
    simp only [split_of_not_mem hs, split_of_not_mem hst]
    rfl
termination_by s.length

/-! ## How many parts -/

/-- A text with one part is that part. -/
theorem split_of_length (h : (split c s).length = 1) : split c s = [s] := by
  obtain ⟨t, ht⟩ := List.length_eq_one_iff.1 h
  have hjoin := join_split (c := c) (s := s)
  rw [ht, join_singleton] at hjoin
  rw [ht, hjoin]

/-- A list of texts has no fewer parts than members. -/
theorem length_le_flatMap_split : l.length ≤ (l.flatMap (split c)).length := by
  induction l with
  | nil => exact Nat.le_refl 0
  | cons s l ih =>
    have hpos : 0 < (split c s).length := List.length_pos_iff.2 split_ne_nil
    rw [List.flatMap_cons, List.length_append, List.length_cons]
    omega

/-- A list of texts with as many parts as members has its members as parts. -/
theorem flatMap_split_of_length (h : (l.flatMap (split c)).length = l.length) :
    l.flatMap (split c) = l := by
  induction l with
  | nil => rfl
  | cons s l ih =>
    have hpos : 0 < (split c s).length := List.length_pos_iff.2 split_ne_nil
    have hle : l.length ≤ (l.flatMap (split c)).length := length_le_flatMap_split
    rw [List.flatMap_cons, List.length_append, List.length_cons] at h
    rw [List.flatMap_cons, ih (by omega), split_of_length (by omega)]
    rfl

/-- A joined list with two members or more contains the separator. -/
theorem mem_join (h : 1 < l.length) : c ∈ (join c l).toList := by
  match l, h with
  | s :: t :: l, _ => simp [join_cons (s := s) (List.cons_ne_nil t l)]

end OperatingOrganism.JoinedText

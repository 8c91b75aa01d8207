import OperatingOrganism.Adaptive.GenomeSync
import OperatingOrganism.Library.CStringLiteral

/-!
# Generated C headers

`GenomeSync._write_c_header` and `PatternStore.export_c_header` write the validated patterns into tables of C. The
first puts a backslash before the quotes of a name and leaves everything else as it is, the second escapes nothing. A
literal stands for its name if and only if the name can be encoded, is one line and has no backslash, no trigraph
where the compiler replaces them and, in the second header, no quote (`nameLiterals_iff`).

A source file is read as UTF-8, its lines end in a line feed, a carriage return or both, and the bytes of a literal
are those of its characters.
-/

set_option autoImplicit false

namespace OperatingOrganism.Adaptive.Export

open OperatingOrganism.CStringLiteral

/-- `{:.3f}` -/
class PrintedFloat (F : Type) where
  fixed3 : F → CodePoints

/-- `{}` of an integer -/
def decimalText (n : Int) : CodePoints := codePoints (toString n)

/-- `{:04X}` and `{:04x}`: the sign goes before the zeros. -/
def hexText (upper : Bool) (n : Int) : CodePoints :=
  let digits := (Nat.toDigits 16 n.natAbs).map fun c => (if upper then c.toUpper else c).toNat
  let sign := if n < 0 then codePoints "-" else []
  sign ++ List.replicate (4 - (sign.length + digits.length)) 48 ++ digits

/-- A text between two quotes. -/
def quoted (text : CodePoints) : CodePoints := 0x22 :: (text ++ [0x22])

/-- `safe_name` between its quotes. -/
def genomeNameLiteral (name : CodePoints) : CodePoints := quoted (escapeQuotes name)

/-- The name between its quotes, as `export_c_header` writes it. -/
def patternNameLiteral (name : CodePoints) : CodePoints := quoted name

variable {F : Type}

/-- What follows the name in a row of `PatternStore`. -/
def patternNumbers (e : StoreEntry F) : CodePoints :=
  codePoints ", 0x" ++ hexText false e.threatDomain ++ codePoints ", " ++ decimalText e.severity ++
    codePoints ", " ++ decimalText e.confidence ++ codePoints ", " ++ decimalText e.generation ++ codePoints "\x7d,"

/-- The row of a pattern in the header of `PatternStore`. -/
def patternRow (e : StoreEntry F) : CodePoints :=
  codePoints "    \x7b" ++ patternNameLiteral e.name ++ patternNumbers e

/-- `export_c_header`: the lines of the file. -/
def patternHeader (active : List (StoreEntry F)) : List CodePoints :=
  [codePoints "/* AUTO-GENERATED by PatternStore — DO NOT EDIT */",
    codePoints "/* " ++ decimalText active.length ++ codePoints " validated patterns */"] ++
  ["#ifndef BOT_PATTERNS_GENERATED_H", "#define BOT_PATTERNS_GENERATED_H", ""].map codePoints ++
  [codePoints "#define BOT_LEARNED_PATTERN_COUNT " ++ decimalText active.length] ++
  ["", "typedef struct \x7b", "    const char *name;", "    unsigned int threat_domain;", "    unsigned int severity;",
    "    unsigned int confidence;", "    unsigned int generation;", "\x7d BotLearnedPattern;", "",
    "static const BotLearnedPattern BOT_LEARNED_PATTERNS[] = \x7b"].map codePoints ++
  active.map patternRow ++ ["\x7d;", "", "#endif /* BOT_PATTERNS_GENERATED_H */", ""].map codePoints

variable [PrintedFloat F]

/-- What follows the name in a row of `GenomeSync`. -/
def genomeNumbers (e : StoreEntry F) : CodePoints :=
  codePoints ", 0x" ++ hexText true e.threatDomain ++ codePoints "u, " ++ decimalText e.severity ++
    codePoints "u, " ++ decimalText e.confidence ++ codePoints "u, " ++ decimalText e.generation ++
    codePoints "u, " ++ PrintedFloat.fixed3 e.fitnessScore ++ codePoints "f, " ++ decimalText e.hitCount ++
    codePoints "ULL\x7d,"

/-- The row of a pattern in the header of `GenomeSync`. -/
def genomeRow (e : StoreEntry F) : CodePoints :=
  codePoints "    \x7b" ++ quoted e.patternId ++ codePoints ", " ++ genomeNameLiteral e.name ++ genomeNumbers e

/-- `_write_c_header`: the lines of the file. -/
def genomeHeader (synced : CodePoints) (patterns : List (StoreEntry F)) : List CodePoints :=
  [codePoints "/* AUTO-GENERATED by GenomeSync — DO NOT EDIT MANUALLY */",
    codePoints "/* Synced: " ++ synced ++ codePoints " */",
    codePoints "/* Patterns: " ++ decimalText patterns.length ++ codePoints " validated */"] ++
  ["#ifndef BOT_GENOME_SYNC_H", "#define BOT_GENOME_SYNC_H", "", "#include <stdint.h>", "", "typedef struct \x7b",
    "    const char     *id;", "    const char     *name;", "    uint32_t        threat_domain;",
    "    uint32_t        severity;", "    uint32_t        confidence;", "    uint32_t        generation;",
    "    float           fitness;", "    uint64_t        hit_count;", "\x7d BotGenomePattern;", ""].map codePoints ++
  [codePoints "#define BOT_GENOME_COUNT " ++ decimalText patterns.length, [],
    codePoints "static const BotGenomePattern BOT_GENOME[] = \x7b"] ++
  patterns.map genomeRow ++ ["\x7d;", "", "#endif /* BOT_GENOME_SYNC_H */", ""].map codePoints

/-- The text of a header. -/
def headerText (lines : List CodePoints) : CodePoints := [10].intercalate lines

/-! ### What the literals stand for -/

/-- The name can be written, and its literal ends at its closing quote and stands for the bytes of the name. -/
def DenotesName (trigraphs : Bool) (literal name rest : CodePoints) : Prop :=
  ∃ bytes, encodeUtf8 name = some bytes ∧
    readLiteral trigraphs (literal ++ rest) = some (bytes, sourceText trigraphs rest)

/-- The literal stands for the name at a place of the header. -/
def EmitsName (trigraphs : Bool) (lines : List CodePoints) (literal name : CodePoints) : Prop :=
  ∃ before rest, headerText lines = before ++ literal ++ rest ∧ DenotesName trigraphs literal name rest

/-- A name that an escaped quote leaves readable. -/
structure PlainName (trigraphs : Bool) (name : CodePoints) : Prop where
  scalars : ∀ c ∈ name, IsScalar c
  noBackslash : 0x5c ∉ name
  oneLine : OneLine name
  noTrigraph : trigraphs = true → ¬ HasTrigraph name

theorem encodeUtf8_eq_some_iff {name : CodePoints} {bytes : List Nat} :
    encodeUtf8 name = some bytes ↔ (∀ c ∈ name, IsScalar c) ∧ name.flatMap utf8Bytes = bytes := by
  rw [encodeUtf8, Option.ite_none_right_eq_some, Option.some.injEq]

theorem denotesName_genome_iff (trigraphs : Bool) (name rest : CodePoints) :
    DenotesName trigraphs (genomeNameLiteral name) name rest ↔ PlainName trigraphs name := by
  have hliteral : genomeNameLiteral name ++ rest = 0x22 :: (escapeQuotes name ++ 0x22 :: rest) := by
    simp [genomeNameLiteral, quoted]
  rw [DenotesName, hliteral]
  constructor
  · rintro ⟨bytes, hbytes, hread⟩
    obtain ⟨hscalars, rfl⟩ := encodeUtf8_eq_some_iff.1 hbytes
    obtain ⟨hbackslash, hline, htrigraph⟩ := (readLiteral_escapeQuotes_iff trigraphs name rest).1 hread
    exact ⟨hscalars, hbackslash, hline, htrigraph⟩
  · intro h
    refine ⟨_, encodeUtf8_eq_some_iff.2 ⟨h.scalars, rfl⟩, ?_⟩
    exact (readLiteral_escapeQuotes_iff trigraphs name rest).2 ⟨h.noBackslash, h.oneLine, h.noTrigraph⟩

theorem denotesName_pattern_iff (trigraphs : Bool) (name rest : CodePoints) :
    DenotesName trigraphs (patternNameLiteral name) name rest ↔ 0x22 ∉ name ∧ PlainName trigraphs name := by
  have hliteral : patternNameLiteral name ++ rest = 0x22 :: (name ++ 0x22 :: rest) := by
    simp [patternNameLiteral, quoted]
  rw [DenotesName, hliteral]
  constructor
  · rintro ⟨bytes, hbytes, hread⟩
    obtain ⟨hscalars, rfl⟩ := encodeUtf8_eq_some_iff.1 hbytes
    obtain ⟨hquote, hbackslash, hline, htrigraph⟩ := (readLiteral_plain_iff trigraphs name rest).1 hread
    exact ⟨hquote, hscalars, hbackslash, hline, htrigraph⟩
  · rintro ⟨hquote, h⟩
    refine ⟨_, encodeUtf8_eq_some_iff.2 ⟨h.scalars, rfl⟩, ?_⟩
    exact (readLiteral_plain_iff trigraphs name rest).2 ⟨hquote, h.noBackslash, h.oneLine, h.noTrigraph⟩

/-- A line of a header is a part of its text. -/
theorem exists_headerText_of_mem {lines : List CodePoints} {line : CodePoints} (h : line ∈ lines) :
    ∃ before behind, headerText lines = before ++ line ++ behind := by
  induction lines with
  | nil => cases h
  | cons first lines ih =>
    rcases List.mem_cons.1 h with rfl | hrest
    · rcases lines with _ | ⟨second, lines⟩
      · exact ⟨[], [], by simp [headerText]⟩
      · exact ⟨[], [10] ++ headerText (second :: lines), by simp [headerText, List.intercalate_cons_cons]⟩
    · obtain ⟨before, behind, htext⟩ := ih hrest
      obtain ⟨second, lines, rfl⟩ := List.exists_cons_of_ne_nil (List.ne_nil_of_mem hrest)
      refine ⟨first ++ [10] ++ before, behind, ?_⟩
      rw [headerText, List.intercalate_cons_cons, ← headerText, htext]
      simp

/-- Whether a literal stands for its name does not depend on what is around it. -/
theorem emitsName_iff {trigraphs : Bool} {lines : List CodePoints} {literal name : CodePoints} {P : Prop}
    (before behind : CodePoints) (hline : before ++ literal ++ behind ∈ lines)
    (hdenotes : ∀ rest, DenotesName trigraphs literal name rest ↔ P) :
    EmitsName trigraphs lines literal name ↔ P := by
  constructor
  · rintro ⟨_, rest, -, hname⟩
    exact (hdenotes rest).1 hname
  · intro hP
    obtain ⟨before', behind', htext⟩ := exists_headerText_of_mem hline
    refine ⟨before' ++ before, behind ++ behind', ?_, (hdenotes _).2 hP⟩
    rw [htext]
    simp

/-- In every header that is generated, the literal of each pattern stands for its name if and only if the name can be
encoded, is one line and has no backslash, no trigraph where the dialect has them and, in the header of
`PatternStore`, no quote. -/
theorem nameLiterals_iff (trigraphs : Bool) (synced : CodePoints) (before behind : List (StoreEntry F))
    (e : StoreEntry F) :
    (EmitsName trigraphs (genomeHeader synced (before ++ e :: behind)) (genomeNameLiteral e.name) e.name ↔
        PlainName trigraphs e.name) ∧
      (EmitsName trigraphs (patternHeader (before ++ e :: behind)) (patternNameLiteral e.name) e.name ↔
        0x22 ∉ e.name ∧ PlainName trigraphs e.name) := by
  constructor
  · refine emitsName_iff (codePoints "    \x7b" ++ quoted e.patternId ++ codePoints ", ") (genomeNumbers e) ?_
      (denotesName_genome_iff trigraphs e.name)
    have hrow : genomeRow e ∈ (before ++ e :: behind).map genomeRow := List.mem_map_of_mem (by simp)
    exact List.mem_append_left _ (List.mem_append_right _ hrow)
  · refine emitsName_iff (codePoints "    \x7b") (patternNumbers e) ?_ (denotesName_pattern_iff trigraphs e.name)
    have hrow : patternRow e ∈ (before ++ e :: behind).map patternRow := List.mem_map_of_mem (by simp)
    exact List.mem_append_left _ (List.mem_append_right _ hrow)

/-! ### Names that are changed -/

/-- The numbers with three digits after the point, in thousandths. -/
structure Thousandths where
  count : Nat

instance : PrintedFloat Thousandths where
  fixed3 x :=
    let digits := (Nat.toDigits 10 (x.count % 1000)).map Char.toNat
    decimalText (x.count / 1000 : Nat) ++ [46] ++ List.replicate (3 - digits.length) 48 ++ digits

/-- A validated pattern with a fitness of 0.9. -/
def namedPattern (name : CodePoints) : StoreEntry Thousandths where
  patternId := codePoints "9f86d081884c7d65"
  name := name
  threatDomain := 17
  severity := 10
  confidence := 85
  status := PatternStatus.validated.toInt
  generation := 1
  fitnessScore := ⟨900⟩
  hitCount := 5

/-- A backslash in a name begins an escape sequence in the one header, and a quote ends the literal in the other. -/
theorem names_changed :
    ¬ EmitsName false (genomeHeader (codePoints "2026-01-01T00:00:00Z") [namedPattern (codePoints "C:\\temp")])
        (genomeNameLiteral (codePoints "C:\\temp")) (codePoints "C:\\temp") ∧
      ¬ EmitsName false (patternHeader [namedPattern (codePoints "the \"worm\"")])
        (patternNameLiteral (codePoints "the \"worm\"")) (codePoints "the \"worm\"") := by
  constructor
  · rintro ⟨_, rest, -, hname⟩
    exact absurd ((denotesName_genome_iff _ _ rest).1 hname).noBackslash (by decide)
  · rintro ⟨_, rest, -, hname⟩
    exact absurd ((denotesName_pattern_iff _ _ rest).1 hname).1 (by decide)

end OperatingOrganism.Adaptive.Export

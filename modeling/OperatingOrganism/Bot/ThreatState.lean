import Mathlib.Data.Nat.Notation
import Mathlib.Data.Vector.Defs

/-!
# The threat level

The state machine of `threat_state.c`: six levels, a matrix that says which moves are legal, and counters. A move
that the matrix forbids is refused, and the caller learns that from the returned value only. The times of
`ThreatState`, which nothing writes, and the messages to the console are left out.
-/

set_option autoImplicit false

namespace OperatingOrganism.Bot

def threatDormant : UInt8 := 0
def threatVigilance : UInt8 := 1
def threatAlert : UInt8 := 2
def threatCombat : UInt8 := 3
def threatSurvival : UInt8 := 4
def threatConfinement : UInt8 := 5

/-- `TRANSITION_MATRIX`: a row for each level that is left, a column for each that is entered. -/
def transitionMatrix : List (List Int) :=
  [[0, 1, 0, 0, 0, 0],
    [1, 0, 1, 0, 0, 0],
    [0, 1, 0, 1, 0, 0],
    [1, 0, 1, 0, 1, 1],
    [0, 0, 0, 1, 0, 1],
    [0, 0, 0, 0, 1, 0]]

/-- The size of the field `reason`. -/
def threatReasonSize : Nat := 128

/-- `ThreatState`; of the array `reason` it holds the text up to the NUL. -/
structure ThreatState where
  currentLevel : UInt8
  previousLevel : UInt8
  transitionCount : UInt64
  reason : List Char
  entriesPerLevel : Vector UInt32 6
  deriving DecidableEq

/-- `threat_state_init` -/
def threatStateInit : ThreatState where
  currentLevel := threatDormant
  previousLevel := threatDormant
  transitionCount := 0
  reason := "boot".toList
  entriesPerLevel := .replicate _ 0

/-- `threat_transition_is_valid` -/
def threatTransitionIsValid (source target : UInt8) : Int :=
  if source > 5 ∨ target > 5 then 0 else (transitionMatrix.getD source.toNat []).getD target.toNat 0

/-- The text in an array of `size` characters after a `strncpy` that leaves room for the NUL. -/
def copiedText (size : Nat) (text : List Char) : List Char := (text.take (size - 1)).takeWhile (·.toNat ≠ 0)

/-- The writes of a legal move; `reason` is `none` for the null pointer. -/
def ThreatState.move (s : ThreatState) (newLevel : UInt8) (reason : Option (List Char)) : ThreatState where
  previousLevel := s.currentLevel
  currentLevel := newLevel
  transitionCount := s.transitionCount + 1
  entriesPerLevel :=
    s.entriesPerLevel.setIfInBounds newLevel.toNat (s.entriesPerLevel[newLevel.toNat]?.getD 0 + 1)
  reason :=
    match reason with
    | none => s.reason
    | some reason => copiedText threatReasonSize reason

/-- `threat_transition`, with its return code. -/
def threatTransition (s : ThreatState) (newLevel : UInt8) (reason : Option (List Char)) : ThreatState × Int :=
  if newLevel > 5 then (s, 0)
  else if newLevel = s.currentLevel then (s, 1)
  else if threatTransitionIsValid s.currentLevel newLevel = 0 then (s, 0)
  else (s.move newLevel reason, 1)

/-- A proposed level is reached if and only if it is the current one or the matrix allows the move. -/
theorem currentLevel_transition_iff (s : ThreatState) (newLevel : UInt8) (reason : Option (List Char)) :
    (threatTransition s newLevel reason).1.currentLevel = newLevel ↔
      newLevel = s.currentLevel ∨ threatTransitionIsValid s.currentLevel newLevel ≠ 0 := by
  rw [threatTransition]
  by_cases hbig : newLevel > 5
  · -- the matrix has no column for such a level
    have hinvalid : threatTransitionIsValid s.currentLevel newLevel = 0 := if_pos (.inr hbig)
    rw [if_pos hbig, hinvalid]
    refine ⟨fun h => .inl h.symm, ?_⟩
    rintro (h | h)
    · exact h.symm
    · exact absurd rfl h
  · rw [if_neg hbig]
    by_cases hsame : newLevel = s.currentLevel
    · rw [if_pos hsame]
      exact ⟨fun h => .inl h.symm, fun _ => hsame.symm⟩
    · rw [if_neg hsame]
      by_cases hinvalid : threatTransitionIsValid s.currentLevel newLevel = 0
      · rw [if_pos hinvalid]
        refine ⟨fun h => absurd h.symm hsame, ?_⟩
        rintro (h | h)
        · exact absurd h hsame
        · exact absurd hinvalid h
      · rw [if_neg hinvalid]
        exact iff_of_true rfl (.inr hinvalid)

end OperatingOrganism.Bot

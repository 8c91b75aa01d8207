import OperatingOrganism.ColonyServer.Models

/-!
# The deduplication cache

`mark_gossip_seen` keeps the time at which a gossip identifier was first seen. An entry is dropped when it
is older than the deduplication window. Where the cache has 10,000 entries left and takes in a new
identifier, those older than half the window are dropped, and if 10,000 are still left, all of them.

`lookup_markGossipSeen` says for every entry whether it is still there after a mark.
-/

set_option autoImplicit false

namespace OperatingOrganism.ColonyServer

/-! ## The window -/

/-- `str::parse::<i64>` -/
def parseI64 (s : String) : Option Int :=
  let digits (ds : List Char) : Option Nat :=
    if ds ≠ [] ∧ ds.all Char.isDigit then some (Nat.ofDigitChars 10 ds 0) else none
  let value : Option Int :=
    match s.toList with
    | '-' :: ds => (digits ds).map fun n => -(n : Int)
    | '+' :: ds => (digits ds).map fun n => (n : Int)
    | ds => (digits ds).map fun n => (n : Int)
  value.filter fun n => -9223372036854775808 ≤ n ∧ n < 9223372036854775808

/-- `parse_gossip_dedup_window_s`, given the value of `COLONY_GOSSIP_DEDUP_WINDOW_S`. -/
def parseGossipDedupWindowS (value : Option String) : Int :=
  ((value.bind parseI64).filter fun n => 0 < n).getD 300

/-- A configured window is positive. -/
theorem parseGossipDedupWindowS_pos (value : Option String) : 0 < parseGossipDedupWindowS value := by
  rw [parseGossipDedupWindowS]
  cases hn : (value.bind parseI64).filter fun n => 0 < n with
  | none => decide
  | some n =>
    rw [Option.filter_eq_some_iff] at hn
    exact of_decide_eq_true hn.2

/-! ## The cache -/

/-- When an identifier was seen, in seconds. -/
abbrev SeenCache := AList fun _ : String => Int

/-- The size from which the cache is cut down. -/
def maxSeen : Nat := 10000

/-- The entries not older than `age`. -/
def SeenCache.recent (seen : SeenCache) (now age : Int) : SeenCache :=
  retain (fun _ seenAt => now - seenAt ≤ age) seen

/-- "Keep memory bounded in long-running mesh nodes." -/
def SeenCache.bound (seen : SeenCache) (now dedupWindowS : Int) : SeenCache :=
  if maxSeen ≤ seen.entries.length then
    let recent := seen.recent now (dedupWindowS.tdiv 2)
    if maxSeen ≤ recent.entries.length then ∅ else recent
  else seen

/-- `mark_gossip_seen`, at the time `now`: whether the identifier is new, and the cache. -/
def markGossipSeen (seen : SeenCache) (gossipId : String) (dedupWindowS now : Int) : Bool × SeenCache :=
  let seen := seen.recent now dedupWindowS
  if gossipId ∈ seen then (false, seen)
  else (true, (seen.bound now dedupWindowS).insert gossipId now)

/-- Marking `gossipId` at the time `now` drops an entry of the time `seenAt`: it is older than the window;
or the identifier is new, the cache is full, and the entry is older than half the window or the cache is
full of entries that are not. -/
def Drops (seen : SeenCache) (gossipId : String) (dedupWindowS now seenAt : Int) : Prop :=
  dedupWindowS < now - seenAt ∨
    gossipId ∉ seen.recent now dedupWindowS ∧ maxSeen ≤ (seen.recent now dedupWindowS).entries.length ∧
      (dedupWindowS.tdiv 2 < now - seenAt ∨
        maxSeen ≤ ((seen.recent now dedupWindowS).recent now (dedupWindowS.tdiv 2)).entries.length)

section

variable {seen : SeenCache} {gossipId id : String} {dedupWindowS now seenAt age : Int}

theorem lookup_recent : (seen.recent now age).lookup id = some seenAt ↔
    seen.lookup id = some seenAt ∧ now - seenAt ≤ age := by
  have h := mem_lookup_retain (f := fun _ seenAt => now - seenAt ≤ age) (m := seen) (k := id) (v := seenAt)
  rw [decide_eq_true_iff] at h
  exact h

/-- An identifier is new if the cache has no entry for it within the window. -/
theorem markGossipSeen_fst : (markGossipSeen seen gossipId dedupWindowS now).1 = true ↔
    gossipId ∉ seen.recent now dedupWindowS := by
  rw [markGossipSeen]
  split
  · rename_i hmem
    simp [hmem]
  · rename_i hmem
    simp [hmem]

theorem mem_recent_iff : id ∈ seen.recent now age ↔
    ∃ seenAt, seen.lookup id = some seenAt ∧ now - seenAt ≤ age := by
  rw [← AList.lookup_isSome, Option.isSome_iff_exists]
  exact exists_congr fun seenAt => lookup_recent

/-- A new identifier is entered with the time of the mark. -/
theorem lookup_markGossipSeen_self (h : (markGossipSeen seen gossipId dedupWindowS now).1 = true) :
    (markGossipSeen seen gossipId dedupWindowS now).2.lookup gossipId = some now := by
  rw [markGossipSeen, if_neg (markGossipSeen_fst.1 h)]
  exact AList.lookup_insert _

/-- What the bound keeps. -/
theorem lookup_bound : (seen.bound now dedupWindowS).lookup id = some seenAt ↔
    seen.lookup id = some seenAt ∧ ¬ (maxSeen ≤ seen.entries.length ∧
      (dedupWindowS.tdiv 2 < now - seenAt ∨
        maxSeen ≤ (seen.recent now (dedupWindowS.tdiv 2)).entries.length)) := by
  rw [SeenCache.bound]
  split
  · rename_i hfull
    dsimp only
    split
    · rename_i hrecent
      simp [hfull, hrecent]
    · rename_i hrecent
      rw [lookup_recent]
      simp [hfull, hrecent]
  · rename_i hfull
    simp [hfull]

/-- Every other entry stays exactly if it is not dropped. -/
theorem lookup_markGossipSeen
    (h : id ≠ gossipId ∨ (markGossipSeen seen gossipId dedupWindowS now).1 = false) :
    (markGossipSeen seen gossipId dedupWindowS now).2.lookup id = some seenAt ↔
      seen.lookup id = some seenAt ∧ ¬ Drops seen gossipId dedupWindowS now seenAt := by
  by_cases hmem : gossipId ∈ seen.recent now dedupWindowS
  · rw [markGossipSeen, if_pos hmem, lookup_recent, Drops]
    simp [hmem]
  · have hne : id ≠ gossipId := by
      apply h.resolve_right
      rw [markGossipSeen_fst.2 hmem]
      exact Bool.noConfusion
    rw [markGossipSeen, if_neg hmem, AList.lookup_insert_ne hne, lookup_bound, lookup_recent, Drops]
    simp only [hmem, not_false_eq_true, true_and, not_or, Int.not_lt, and_assoc]

end

end OperatingOrganism.ColonyServer

import Mathlib.Logic.Function.Basic
import OperatingOrganism.Library.Execution
import OperatingOrganism.Memory.BioAlloc

/-!
# The hedged word store

`hedged_read.c` keeps up to eight copies of 4096 words. A write covers the replicas that are configured at
the time, and a read takes one of the replicas that are configured now, chosen by a hash of the index. So a
read can take a replica that the last write did not cover, when the number of replicas was raised in between
(`readsLast_iff`).
-/

set_option autoImplicit false

namespace OperatingOrganism.Memory

open OperatingOrganism.Execution

/-- `HEDGED_MAX_REPLICAS` -/
def hedgedMaxReplicas : Nat := 8

/-- `HEDGED_MAX_WORDS` -/
def hedgedMaxWords : Nat := 4096

/-- The static variables of the file, and the address of `g_replica_store`. -/
structure HedgedWords where
  replicaCount : BitVec 32
  channelStride : BitVec 64
  replicaStore : Nat → Nat → BitVec 64
  storeAddress : Address
  le_max : replicaCount.toNat ≤ hedgedMaxReplicas

/-- `bio_hedged_result_t` -/
structure HedgedResult where
  logicalIndex : BitVec 32
  replicaAddr : Address
  simulatedLatencyNs : BitVec 32
  replicaIndex : BitVec 32
  deriving DecidableEq, Repr

/-- `pseudo_latency_ns` -/
def pseudoLatencyNs (logicalIndex replicaIndex : BitVec 32) : BitVec 32 :=
  let seed := (logicalIndex * 1103515245#32) ^^^ (replicaIndex * 2654435761#32)
  let seed := seed ^^^ (seed >>> 16)
  80#32 + seed % 220#32

/-- `bio_hedged_configure` -/
def bioHedgedConfigure (replicaCount : BitVec 32) (channelStrideBytes : BitVec 64) (s : HedgedWords) :
    Int × HedgedWords :=
  if h : replicaCount.toNat = 0 ∨ hedgedMaxReplicas < replicaCount.toNat then (-1, s)
  else if channelStrideBytes = 0 then (-1, s)
  else
    (0, { s with
      replicaCount := replicaCount
      channelStride := channelStrideBytes
      le_max := Nat.not_lt.1 (not_or.1 h).2 })

/-- The word at `index`, written to the first `count` replicas. -/
def writeWord (count index : Nat) (value : BitVec 64) (store : Nat → Nat → BitVec 64) :
    Nat → Nat → BitVec 64 :=
  (List.range count).foldl
    (fun store r => Function.update store r (Function.update (store r) index value)) store

/-- `bio_hedged_replicate_word` -/
def bioHedgedReplicateWord (logicalIndex : BitVec 32) (value : BitVec 64) (s : HedgedWords) :
    Int × HedgedWords :=
  if s.replicaCount.toNat = 0 ∨ hedgedMaxWords ≤ logicalIndex.toNat then (-1, s)
  else
    (0, { s with
      replicaStore := writeWord s.replicaCount.toNat logicalIndex.toNat value s.replicaStore })

/-- The loop of `bio_hedged_read_word`: the replica with the smallest latency, and that latency. -/
def bestWordReplica (logicalIndex : BitVec 32) (count : Nat) : Nat × BitVec 32 :=
  (List.range count).foldl
    (fun best r =>
      let latency := pseudoLatencyNs logicalIndex (.ofNat 32 r)
      if latency < best.2 then (r, latency) else best)
    (0, 0xffffffff#32)

/-- `bio_hedged_read_word`. `outIsNull` is the test of `out_result`. -/
def bioHedgedReadWord (logicalIndex : BitVec 32) (outIsNull : Bool) (s : HedgedWords) :
    Option HedgedResult :=
  if outIsNull ∨ s.replicaCount.toNat = 0 ∨ hedgedMaxWords ≤ logicalIndex.toNat then none
  else
    let (bestReplica, bestLatency) := bestWordReplica logicalIndex s.replicaCount.toNat
    some
      { logicalIndex := logicalIndex
        replicaAddr := s.storeAddress + BitVec.ofNat 64 ((bestReplica * hedgedMaxWords + logicalIndex.toNat) * 8) +
          BitVec.ofNat 64 bestReplica * s.channelStride
        simulatedLatencyNs := bestLatency
        replicaIndex := .ofNat 32 bestReplica }

/-- `bio_hedged_read_value` -/
def bioHedgedReadValue (logicalIndex : BitVec 32) (outIsNull : Bool) (s : HedgedWords) :
    Option (BitVec 64) :=
  if outIsNull then none
  else
    match bioHedgedReadWord logicalIndex false s with
    | none => none
    | some winner => some (s.replicaStore winner.replicaIndex.toNat logicalIndex.toNat)

/-! ## What a replica holds -/

/-- A write of a word, with the number of replicas that it covered. -/
structure WordWrite where
  value : BitVec 64
  replicas : Nat
  deriving DecidableEq, Repr

/-- What a replica holds after the writes: the value of the last one that covered it. -/
def held (writes : List WordWrite) (r : Nat) : BitVec 64 :=
  writes.foldl (fun old write => if r < write.replicas then write.value else old) 0

/-- The last write covered the replica, or the last one that did wrote the same value. -/
def Fresh (writes : List WordWrite) (r : Nat) : Prop :=
  ∀ last ∈ writes.getLast?, r < last.replicas ∨ held writes r = last.value

variable {writes : List WordWrite} {write : WordWrite} {count index i k r : Nat} {value : BitVec 64}
  {logicalIndex : BitVec 32} {store : Nat → Nat → BitVec 64}

theorem held_append (writes : List WordWrite) (write : WordWrite) (r : Nat) :
    held (writes ++ [write]) r = if r < write.replicas then write.value else held writes r := by
  rw [held, List.foldl_append]
  rfl

/-- A replica is fresh if and only if it holds what was written last. -/
theorem fresh_iff : Fresh writes r ↔ ∀ last ∈ writes.getLast?, held writes r = last.value := by
  refine forall₂_congr fun last hlast => ⟨fun h => h.elim (fun hr => ?_) id, .inr⟩
  -- a replica that the last write covered holds its value
  obtain ⟨earlier, rfl⟩ := List.getLast?_eq_some_iff.1 hlast
  rw [held_append, if_pos hr]

/-- The loop over the replicas. -/
theorem writeWord_apply :
    writeWord count index value store r k = if r < count ∧ k = index then value else store r k := by
  induction count with
  | zero => rw [if_neg fun h => Nat.not_lt_zero r h.1]; rfl
  | succ count ih =>
    have hstep : writeWord (count + 1) index value store =
        Function.update (writeWord count index value store) count
          (Function.update (writeWord count index value store count) index value) := by
      rw [writeWord, List.range_succ, List.foldl_append]
      rfl
    rw [hstep]
    -- the replica that is written last, and the earlier ones
    by_cases hr : r = count
    · subst hr
      rw [Function.update_self]
      by_cases hk : k = index
      · rw [hk, Function.update_self, if_pos ⟨Nat.lt_succ_self r, rfl⟩]
      · rw [Function.update_of_ne hk, ih, if_neg fun h => hk h.2, if_neg fun h => hk h.2]
    · have hlt : r < count + 1 ↔ r < count := by omega
      rw [Function.update_of_ne hr, ih]
      simp only [hlt]

/-- A search for the smallest latency ends at an index it has looked at, or at the first one. -/
theorem foldl_fastest_le (latency : Nat → BitVec 32) (best : BitVec 32) (n : Nat) :
    ((List.range n).foldl
      (fun best r => if latency r < best.2 then (r, latency r) else best) (0, best)).1 ≤ n - 1 := by
  induction n with
  | zero => exact Nat.le_refl 0
  | succ n ih =>
    rw [List.range_succ, List.foldl_append, List.foldl_cons, List.foldl_nil]
    split
    · exact Nat.le_refl n
    · exact ih.trans (by omega)

/-- The replica that is read is a configured one. -/
theorem bestWordReplica_lt (hcount : 0 < count) : (bestWordReplica logicalIndex count).1 < count := by
  have hle : (bestWordReplica logicalIndex count).1 ≤ count - 1 :=
    foldl_fastest_le (fun r => pseudoLatencyNs logicalIndex (.ofNat 32 r)) 0xffffffff#32 count
  omega

/-- As long as there are no more replicas than the last write covered, a read takes one that is fresh. -/
theorem fresh_of_le (hcount : 0 < count) (h : ∀ last ∈ writes.getLast?, count ≤ last.replicas) :
    Fresh writes (bestWordReplica logicalIndex count).1 :=
  fun last hlast => .inl ((bestWordReplica_lt hcount).trans_le (h last hlast))

/-- What a read returns, when it succeeds. -/
theorem bioHedgedReadValue_eq {s : HedgedWords} {outIsNull : Bool} :
    bioHedgedReadValue logicalIndex outIsNull s = some value ↔
      outIsNull = false ∧ s.replicaCount.toNat ≠ 0 ∧ logicalIndex.toNat < hedgedMaxWords ∧
        s.replicaStore (bestWordReplica logicalIndex s.replicaCount.toNat).1 logicalIndex.toNat = value := by
  have hmax := s.le_max
  rw [bioHedgedReadValue]
  by_cases hnull : outIsNull = true
  · rw [if_pos hnull, hnull]
    exact iff_of_false nofun nofun
  · rw [if_neg hnull, bioHedgedReadWord]
    have hfalse : outIsNull = false := Bool.eq_false_iff.2 hnull
    by_cases hrange : s.replicaCount.toNat = 0 ∨ hedgedMaxWords ≤ logicalIndex.toNat
    · rw [if_pos (.inr hrange)]
      refine iff_of_false nofun fun h => ?_
      exact hrange.elim h.2.1 (Nat.not_le.2 h.2.2.1)
    · rw [if_neg (not_or.2 ⟨Bool.false_ne_true, hrange⟩)]
      obtain ⟨hcount, hindex⟩ := not_or.1 hrange
      have hlt : (bestWordReplica logicalIndex s.replicaCount.toNat).1 < s.replicaCount.toNat :=
        bestWordReplica_lt (Nat.pos_of_ne_zero hcount)
      rw [hedgedMaxReplicas] at hmax
      -- the number of a replica fits in 32 bits
      have hmod : (BitVec.ofNat 32 (bestWordReplica logicalIndex s.replicaCount.toNat).1).toNat =
          (bestWordReplica logicalIndex s.replicaCount.toNat).1 := by
        rw [BitVec.toNat_ofNat, Nat.mod_eq_of_lt (by omega)]
      simp [hmod, hfalse, hcount, Nat.not_le.1 hindex]

/-! ## Runs -/

/-- The store, with the successful writes of each word. -/
structure TrackedWords where
  words : HedgedWords
  writes : BitVec 32 → List WordWrite

/-- A call of the interface. -/
inductive WordOp where
  | configure (replicaCount : BitVec 32) (channelStrideBytes : BitVec 64)
  | replicate (logicalIndex : BitVec 32) (value : BitVec 64)
  | read (logicalIndex : BitVec 32) (outIsNull : Bool)

/-- A call, and the writes up to then. -/
def WordOp.apply (s : TrackedWords) : WordOp → TrackedWords
  | .configure count stride => { s with words := (bioHedgedConfigure count stride s.words).2 }
  | .replicate i value =>
    let (code, words) := bioHedgedReplicateWord i value s.words
    ⟨words, if code = 0 then
      Function.update s.writes i (s.writes i ++ [⟨value, s.words.replicaCount.toNat⟩]) else s.writes⟩
  | .read _ _ => s

def WordStep (s : TrackedWords) (op : WordOp) (t : TrackedWords) : Prop := t = op.apply s

/-- Before the first call; the store is zeroed. -/
def TrackedWords.boot (storeAddress : Address) : TrackedWords :=
  ⟨⟨0, 0, fun _ _ => 0, storeAddress, by decide⟩, fun _ => []⟩

/-- A successful read returns the value that was written last. -/
def ReadsLast (s : TrackedWords) (op : WordOp) : Prop :=
  ∀ i outIsNull value, op = .read i outIsNull → bioHedgedReadValue i outIsNull s.words = some value →
    ∀ last ∈ (s.writes i).getLast?, value = last.value

/-- The replica that a read takes is fresh. -/
def WordOp.TakesFresh (s : TrackedWords) : WordOp → Prop
  | .read i false => Fresh (s.writes i) (bestWordReplica i s.words.replicaCount.toNat).1
  | .read _ true | .configure _ _ | .replicate _ _ => True

/-- The replicas hold what was written to them, and only words of the store were written. -/
structure Recorded (s : TrackedWords) : Prop where
  holds : ∀ r (i : BitVec 32), s.words.replicaStore r i.toNat = held (s.writes i) r
  configured : ∀ i, s.writes i ≠ [] → s.words.replicaCount.toNat ≠ 0 ∧ i.toNat < hedgedMaxWords

theorem recorded_boot (storeAddress : Address) : Recorded (.boot storeAddress) :=
  ⟨fun _ _ => rfl, fun _ h => absurd rfl h⟩

variable {s t : TrackedWords} {op : WordOp}

theorem Recorded.apply (h : Recorded s) (op : WordOp) : Recorded (op.apply s) := by
  cases op with
  | configure count stride =>
    rw [WordOp.apply, bioHedgedConfigure]
    split
    · exact h
    · rename_i hcount
      split
      · exact h
      · exact ⟨h.holds, fun i hi => ⟨(not_or.1 hcount).1, (h.configured i hi).2⟩⟩
  | replicate j value =>
    rw [WordOp.apply]
    by_cases hrange : s.words.replicaCount.toNat = 0 ∨ hedgedMaxWords ≤ j.toNat
    · have hres : bioHedgedReplicateWord j value s.words = (-1, s.words) := if_pos hrange
      rw [hres]
      exact h
    · have hres : bioHedgedReplicateWord j value s.words = (0, _) := if_neg hrange
      rw [hres]
      obtain ⟨hcount, hindex⟩ := not_or.1 hrange
      refine ⟨fun r i => ?_, fun i hi => ?_⟩
      · change writeWord _ _ _ _ r i.toNat =
          held (Function.update s.writes j (s.writes j ++ [⟨value, s.words.replicaCount.toNat⟩]) i) r
        rw [writeWord_apply]
        by_cases hij : i = j
        · rw [hij, Function.update_self, held_append, h.holds]
          simp only [and_true]
        · have hne : i.toNat ≠ j.toNat := fun heq => hij (BitVec.eq_of_toNat_eq heq)
          rw [Function.update_of_ne hij, if_neg fun h => hne h.2, h.holds]
      · refine ⟨hcount, ?_⟩
        by_cases hij : i = j
        · rw [hij]
          exact Nat.not_le.1 hindex
        · change Function.update s.writes j _ i ≠ [] at hi
          rw [Function.update_of_ne hij] at hi
          exact (h.configured i hi).2
  | read j outIsNull => exact h

/-- A read returns the last write if and only if it takes a replica that is fresh. -/
theorem Recorded.takes_fresh_iff (h : Recorded s) : ReadsLast s op ↔ op.TakesFresh s := by
  cases op with
  | configure count stride => exact iff_of_true (fun _ _ _ hop => nomatch hop) trivial
  | replicate j value => exact iff_of_true (fun _ _ _ hop => nomatch hop) trivial
  | read j outIsNull =>
    cases outIsNull with
    | true =>
      refine iff_of_true (fun i outIsNull value hop hread => ?_) trivial
      cases hop
      exact absurd (bioHedgedReadValue_eq.1 hread).1 nofun
    | false =>
      rw [WordOp.TakesFresh, fresh_iff, ← h.holds]
      constructor
      · intro hreads last hlast
        -- a word that was written is in range, so reading it succeeds
        have hne : s.writes j ≠ [] := by
          rintro hnil
          rw [hnil] at hlast
          cases hlast
        obtain ⟨hcount, hindex⟩ := h.configured j hne
        exact hreads j false _ rfl (bioHedgedReadValue_eq.2 ⟨rfl, hcount, hindex, rfl⟩) last hlast
      · rintro hfresh i outIsNull value ⟨⟩ hread last hlast
        rw [← (bioHedgedReadValue_eq.1 hread).2.2.2]
        exact hfresh last hlast

/-- In every run, the reads return what was written last if and only if they take replicas that are fresh. -/
theorem readsLast_iff (storeAddress : Address) {tr : List (WordOp × TrackedWords)}
    (h : Exec WordStep (.boot storeAddress) tr) :
    AllSteps ReadsLast (.boot storeAddress) tr ↔
      AllSteps (fun s op => op.TakesFresh s) (.boot storeAddress) tr := by
  refine h.allSteps_congr (recorded_boot storeAddress) ?_ fun s op hs => hs.takes_fresh_iff
  rintro s op t hs - rfl
  exact hs.apply op

/-- A word written with two replicas, and read. -/
theorem readsLast_two_replicas :
    let s₁ := WordOp.apply (.boot 0x200000) (.configure 2 64)
    let s₂ := WordOp.apply s₁ (.replicate 1 5)
    AllSteps ReadsLast (.boot 0x200000) [(.configure 2 64, s₁), (.replicate 1 5, s₂), (.read 1 false, s₂)] := by
  intro s₁ s₂
  have hexec : Exec WordStep (.boot 0x200000)
      [(.configure 2 64, s₁), (.replicate 1 5, s₂), (.read 1 false, s₂)] := ⟨rfl, rfl, rfl, trivial⟩
  refine (readsLast_iff 0x200000 hexec).2 ⟨trivial, trivial, ?_, trivial⟩
  apply fresh_of_le
  · decide
  · rintro last ⟨⟩
    exact Nat.le_refl 2

/-- A word written with one replica is read with two: the second one still holds zero. -/
theorem exists_stale_read :
    ∃ tr, Exec WordStep (.boot 0x200000) tr ∧ ¬ AllSteps ReadsLast (.boot 0x200000) tr := by
  let s₁ := WordOp.apply (.boot 0x200000) (.configure 1 64)
  let s₂ := WordOp.apply s₁ (.replicate 1 5)
  let s₃ := WordOp.apply s₂ (.configure 2 64)
  refine ⟨[(.configure 1 64, s₁), (.replicate 1 5, s₂), (.configure 2 64, s₃), (.read 1 false, s₃)],
    ⟨rfl, rfl, rfl, rfl, trivial⟩, fun hall => ?_⟩
  have hreads : ReadsLast s₃ (.read 1 false) := hall.2.2.2.1
  have hlast := hreads 1 false 0 rfl (by decide) ⟨5, 1⟩ (by decide)
  exact absurd hlast (by decide)

end OperatingOrganism.Memory

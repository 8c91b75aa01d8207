import OperatingOrganism.Bot.InstinctLayer
import OperatingOrganism.Library.RecentSlots

/-!
# The journal of the instinct layer

The head of the journal counts the triggers in 32 bits and is reduced only where it is used. Since 256 divides
`2 ^ 32`, neither the wrap of the head nor the step below zero changes a slot, and the journal shows the last 256
events of any run (`instinct_history`).
-/

set_option autoImplicit false

namespace OperatingOrganism.Bot

open OperatingOrganism.RecentSlots

/-- `instinct_dump_history`: the entries that it prints, in the order in which it prints them. -/
def instinctDumpHistory (inst : InstinctLayer) (n : UInt32) : List (Option InstinctEvent) :=
  let n := if n > inst.historyCount then inst.historyCount else n
  (List.range n.toNat).map fun i =>
    (inst.history[(inst.historyHead - 1 - .ofNat i + 256).toNat % instinctHistorySize]?).getD none

/-- The call is one of `instinct_trigger`. -/
def InstinctOp.isTrigger : InstinctOp → Bool
  | .trigger _ _ _ _ => true
  | _ => false

/-- The event of a call. -/
def InstinctOp.event? (inst : InstinctLayer) : InstinctOp → Option InstinctEvent
  | .trigger cause pid addr confidence => some (inst.event instinctRules cause pid addr confidence)
  | _ => none

/-- The events of all calls, oldest first. -/
def recorded (inst : InstinctLayer) : List InstinctOp → List InstinctEvent
  | [] => []
  | op :: ops => (op.event? inst).toList ++ recorded (op.run inst) ops

/-- What the journal must show after calls. -/
structure HistoryShows (inst : InstinctLayer) (ops : List InstinctOp) (events : List InstinctEvent) : Prop where
  count : inst.historyCount.toNat = min (ops.countP InstinctOp.isTrigger) 256
  last : instinctLastEvent inst = events.getLast?
  dump : ∀ n : UInt32, instinctDumpHistory inst n =
    (events.reverse.take (min n.toNat inst.historyCount.toNat)).map some

/-- The invariant: the journal keeps the last events, and its head and count follow their number. -/
structure InstinctLayer.Journals (inst : InstinctLayer) (events : List InstinctEvent) : Prop where
  kept : KeepsLast inst.history (events.map some)
  head : inst.historyHead.toNat = events.length % 2 ^ 32
  count : inst.historyCount.toNat = min events.length 256

/-! ## What the calls do to the journal -/

section Calls

variable {inst : InstinctLayer} {events : List InstinctEvent}

theorem journals_init : instinctInit.Journals [] := ⟨keepsLast_nil _, rfl, rfl⟩

/-- The slot that the head points to. -/
theorem InstinctLayer.Journals.index_head (h : inst.Journals events) :
    inst.historyHead.toNat % instinctHistorySize = (events.map some).length % instinctHistorySize := by
  rw [h.head, List.length_map]
  exact Nat.mod_mod_of_dvd _ (by decide)

theorem InstinctLayer.Journals.record (h : inst.Journals events) (ev : InstinctEvent) :
    (inst.record ev).Journals (events ++ [ev]) where
  kept := by
    have hrecord := h.kept.record (by decide) (some ev)
    rw [← h.index_head] at hrecord
    rw [List.map_append]
    exact hrecord
  head := by
    have hhead := h.head
    rw [InstinctLayer.record, List.length_append, List.length_singleton]
    dsimp only
    rw [UInt32.toNat_add, hhead]
    exact Nat.mod_add_mod _ _ _
  count := by
    have hcount := h.count
    rw [InstinctLayer.record, List.length_append, List.length_singleton]
    change (if inst.historyCount.toNat < 256 then inst.historyCount + 1 else inst.historyCount).toNat = _
    split
    · rw [UInt32.toNat_add]
      change (inst.historyCount.toNat + 1) % 2 ^ 32 = _
      omega
    · omega

/-- The move to another level and the reaction leave the journal alone. -/
theorem InstinctLayer.Journals.trigger (h : inst.Journals events) (cause : TriggerType) (pid : UInt32)
    (addr : UInt64) (confidence : UInt32) :
    (instinctTrigger instinctRules inst cause pid addr confidence).1.Journals
      (events ++ [inst.event instinctRules cause pid addr confidence]) := by
  have hrecord := h.record (inst.event instinctRules cause pid addr confidence)
  rw [instinctTrigger]
  dsimp only
  split
  · exact ⟨hrecord.kept, hrecord.head, hrecord.count⟩
  · exact ⟨hrecord.kept, hrecord.head, hrecord.count⟩

/-- One call. -/
theorem InstinctLayer.Journals.run (h : inst.Journals events) (op : InstinctOp) :
    (op.run inst).Journals (events ++ (op.event? inst).toList) := by
  cases op with
  | trigger cause pid addr confidence => exact h.trigger cause pid addr confidence
  | resetToDormant reason =>
    change (instinctResetToDormant inst reason).1.Journals (events ++ [])
    rw [List.append_nil, instinctResetToDormant]
    split
    · exact h
    · exact ⟨h.kept, h.head, h.count⟩
  | setCallbacks callbacks =>
    change InstinctLayer.Journals { inst with callbacks := callbacks } (events ++ [])
    rw [List.append_nil]
    exact ⟨h.kept, h.head, h.count⟩

/-- Any number of calls. -/
theorem InstinctLayer.Journals.foldl (h : inst.Journals events) (ops : List InstinctOp) :
    (ops.foldl InstinctOp.run inst).Journals (events ++ recorded inst ops) := by
  induction ops generalizing inst events with
  | nil =>
    rw [recorded, List.append_nil]
    exact h
  | cons op ops ih =>
    rw [List.foldl_cons, recorded, ← List.append_assoc]
    exact ih (h.run op)

/-- Each trigger records an event. -/
theorem length_recorded (inst : InstinctLayer) (ops : List InstinctOp) :
    (recorded inst ops).length = ops.countP InstinctOp.isTrigger := by
  induction ops generalizing inst with
  | nil => rfl
  | cons op ops ih =>
    rw [recorded, List.length_append, ih, List.countP_cons, Nat.add_comm]
    cases op with
    | trigger _ _ _ _ | resetToDormant _ | setCallbacks _ => rfl

end Calls

/-! ## Reading the journal -/

section Reading

variable {inst : InstinctLayer} {events : List InstinctEvent}

/-- The place `i` steps before the newest event. The head is as good as the number of the events. -/
theorem InstinctLayer.Journals.index_back (h : inst.Journals events) {i : Nat} (hi : i < events.length)
    (hsmall : i < 256) :
    (inst.historyHead - 1 - .ofNat i + 256).toNat % instinctHistorySize =
      (events.length - 1 - i) % instinctHistorySize := by
  have hhead := h.head
  have hindex : (UInt32.ofNat i).toNat = i := by rw [UInt32.toNat_ofNat', Nat.mod_eq_of_lt (by omega)]
  rw [UInt32.toNat_add, UInt32.toNat_sub, UInt32.toNat_sub, hindex, hhead]
  change ((2 ^ 32 - i + (2 ^ 32 - 1 + events.length % 2 ^ 32) % 2 ^ 32) % 2 ^ 32 + 256) % 2 ^ 32 % 256 =
    (events.length - 1 - i) % 256
  omega

/-- The entries that are printed are the newest ones. -/
theorem InstinctLayer.Journals.dump (h : inst.Journals events) (n : UInt32) :
    instinctDumpHistory inst n = (events.reverse.take (min n.toNat inst.historyCount.toNat)).map some := by
  have hnumber : (if n > inst.historyCount then inst.historyCount else n).toNat =
      min n.toNat inst.historyCount.toNat := by
    by_cases hmore : n > inst.historyCount
    · rw [if_pos hmore, Nat.min_eq_right (UInt32.le_iff_toNat_le.1 (UInt32.le_of_lt hmore))]
    · rw [if_neg hmore, Nat.min_eq_left (UInt32.le_iff_toNat_le.1 (UInt32.not_lt.1 hmore))]
  have hcount := h.count
  have hlength : (events.map some).length = events.length := List.length_map some
  have hnewest := h.kept.read_newest (n := min n.toNat inst.historyCount.toNat) (by omega)
    (by change _ ≤ 256; omega)
  rw [instinctDumpHistory, hnumber]
  calc
    _ = ((List.range (min n.toNat inst.historyCount.toNat)).map
          fun i => inst.history[((events.map some).length - 1 - i) % instinctHistorySize]?).map (·.getD none) := by
      rw [List.map_map]
      apply List.map_congr_left
      intro i hi
      rw [List.mem_range] at hi
      rw [h.index_back (by omega) (by omega), Function.comp_apply, hlength]
    _ = _ := by
      rw [hnewest, ← List.map_reverse, ← List.map_take, List.map_map, List.map_map]
      rfl

/-- The newest event, if there is one. -/
theorem InstinctLayer.Journals.lastEvent (h : inst.Journals events) : instinctLastEvent inst = events.getLast? := by
  have hcount := h.count
  rw [instinctLastEvent]
  rcases Nat.eq_zero_or_pos events.length with hnone | hpos
  · rw [if_pos (UInt32.toNat_inj.1 (by rw [hcount, hnone]; rfl)), List.eq_nil_of_length_eq_zero hnone]
    rfl
  · have hne : inst.historyCount ≠ 0 := by
      intro hzero
      rw [hzero] at hcount
      change 0 = min events.length 256 at hcount
      omega
    have hindex : (inst.historyHead - 1 + 256).toNat % instinctHistorySize =
        (events.length - 1) % instinctHistorySize := by
      rw [← UInt32.sub_zero (inst.historyHead - 1)]
      exact h.index_back hpos (by decide)
    obtain ⟨ev, hev⟩ : ∃ ev, events[events.length - 1]? = some ev :=
      ⟨_, List.getElem?_eq_getElem (Nat.sub_one_lt_of_lt hpos)⟩
    have hslot := h.kept (events.length - 1) (some ev) (by rw [List.getElem?_map, hev]; rfl) (by
      rw [List.length_map]
      change events.length ≤ events.length - 1 + 256
      omega)
    rw [if_neg hne, hindex, hslot, List.getLast?_eq_getElem?, hev]
    rfl

/-- For every sequence of calls, also of more than `2 ^ 32` triggers, the journal counts its events, gives the last
one, and prints the last `n` of those that it keeps, newest first. -/
theorem instinct_history (ops : List InstinctOp) :
    HistoryShows (ops.foldl InstinctOp.run instinctInit) ops (recorded instinctInit ops) := by
  have h : (ops.foldl InstinctOp.run instinctInit).Journals ([] ++ recorded instinctInit ops) :=
    journals_init.foldl ops
  rw [List.nil_append] at h
  refine ⟨?_, h.lastEvent, h.dump⟩
  rw [← length_recorded instinctInit ops]
  exact h.count

end Reading

end OperatingOrganism.Bot

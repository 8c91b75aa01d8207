import OperatingOrganism.Library.ByteLayout
import OperatingOrganism.UnitedBus.CalmRing

/-!
# Keystrokes

`sense_transduce_keystroke` writes the scancode to one static record and sends the cortex a RED globule that
refers to the record. The bus is a queue of references, so what the cortex reads through a globule is the scancode
of the last keystroke, whatever keystroke the globule stands for.

The specification is a queue of scancodes (`queueReads`), which loses none and keeps their order
(`queueReads_append`). On a bus that is never congested the cortex absorbs as
many globules as the queue has scancodes for it, and reads the right ones if and only if it never absorbs a
keystroke after another one with a different scancode at the end (`keystrokes_read_iff`).
-/

set_option autoImplicit false

namespace OperatingOrganism.Senses

open OperatingOrganism.ByteLayout OperatingOrganism.Execution OperatingOrganism.UnitedBus

/-- `oo_stimulus_type_t` -/
inductive StimulusType where
  | touch | vision | thermal | auditory | serial | timer | net
  deriving DecidableEq, Repr

/-- `oo_stimulus_t` -/
structure Stimulus where
  type : StimulusType
  intensity : UInt32
  timestamp : UInt64
  rawData : Vector UInt8 16
  deriving DecidableEq

/-- The layout of `oo_stimulus_t`. -/
def stimulusLayout : CType := .struct [.int 4, .int 4, .int 8, (CType.int 1).array 16]

/-- The bus and the static variable `last_stimulus`. -/
structure Touch where
  bus : Bus
  lastStimulus : Stimulus

/-- The static initialisers. -/
def Touch.boot : Touch := ⟨.boot, ⟨.touch, 0, 0, .replicate _ 0⟩⟩

section

variable (stimulusAddr : UInt64)

/-- The globule of a keystroke. -/
def keystrokeGlobule : Globule where
  globuleId := 0
  type := .red
  sourceOrgan := organSensory
  targetOrgan := organCortex
  payloadAddr := stimulusAddr
  payloadSize := .ofNat stimulusLayout.size

/-- `sense_transduce_keystroke` -/
def senseTransduceKeystroke (s : Touch) (scancode : UInt8) : Touch where
  bus := (unitedBusPump s.bus (keystrokeGlobule stimulusAddr)).1
  lastStimulus :=
    { type := .touch
      intensity := 100
      timestamp := 0
      rawData := s.lastStimulus.rawData.set 0 scancode }

/-- The scancode behind the payload of a globule. -/
def Touch.scancodeAt (s : Touch) (g : Globule) : Option UInt8 :=
  if g.payloadAddr = stimulusAddr then some s.lastStimulus.rawData[0] else none

/-- A keystroke, or a call of another organ that puts nothing on the bus. -/
inductive TouchOp where
  | keystroke (scancode : UInt8)
  | absorb (organId : UInt8) (maxGlobules : Int)
  | gc
  deriving DecidableEq, Repr

/-- A call that returns, with the scancodes that the cortex reads. -/
def TouchStep (s : Touch) (a : TouchOp × List (Option UInt8)) (t : Touch) : Prop :=
  match a.1 with
  | .keystroke scancode => a.2 = [] ∧ t = senseTransduceKeystroke stimulusAddr s scancode
  | .absorb organId maxGlobules => ∃ out bus, BusStep s.bus (.absorb organId maxGlobules, out) bus ∧
      t = { s with bus := bus } ∧
      a.2 = if organId = organCortex then out.map (s.scancodeAt stimulusAddr) else []
  | .gc => a.2 = [] ∧ t = { s with bus := unitedBusGc s.bus }

end

/-- The scancodes that the cortex reads over an execution. -/
def cortexReads (tr : List ((TouchOp × List (Option UInt8)) × Touch)) : List (Option UInt8) :=
  (tr.map fun e => e.1.2).flatten

/-- A keystroke does not find the bus congested. -/
def FindsRoom (s : Touch) (a : TouchOp × List (Option UInt8)) : Prop :=
  ∀ scancode, a.1 = .keystroke scancode → ¬ s.bus.congested

/-! ## The queue of scancodes -/

/-- What an absorb of the cortex takes from the queue. -/
def TouchOp.due (queue : List UInt8) : TouchOp → List UInt8
  | .absorb organId maxGlobules => if organId = organCortex then queue.take maxGlobules.toNat else []
  | _ => []

/-- The queue after a call. -/
def TouchOp.enqueue (queue : List UInt8) : TouchOp → List UInt8
  | .keystroke scancode => queue ++ [scancode]
  | .absorb organId maxGlobules => if organId = organCortex then queue.drop maxGlobules.toNat else queue
  | .gc => queue

/-- The transduced scancodes, each once and in order, as the absorbs of the cortex take them. -/
def queueReads : List UInt8 → List TouchOp → List UInt8
  | _, [] => []
  | queue, op :: ops => op.due queue ++ queueReads (op.enqueue queue) ops

/-- The scancodes of the keystrokes. -/
def transduced (ops : List TouchOp) : List UInt8 :=
  ops.filterMap fun op => match op with
    | .keystroke scancode => some scancode
    | _ => none

/-- One call takes from the front of the queue and appends what it transduces. -/
theorem due_append_enqueue (queue : List UInt8) (op : TouchOp) :
    op.due queue ++ op.enqueue queue = queue ++ transduced [op] := by
  cases op with
  | keystroke scancode => rfl
  | absorb organId maxGlobules =>
    rw [TouchOp.due, TouchOp.enqueue]
    split
    · simp [transduced]
    · simp [transduced]
  | gc => simp [TouchOp.due, TouchOp.enqueue, transduced]

/-- What is taken, followed by what is left at the end, is what was transduced: each scancode once, in order. -/
theorem queueReads_append (queue : List UInt8) (ops : List TouchOp) :
    queueReads queue ops ++ ops.foldl (fun queue op => op.enqueue queue) queue = queue ++ transduced ops := by
  induction ops generalizing queue with
  | nil => exact (List.append_nil queue).symm
  | cons op ops ih =>
    have hsplit : transduced (op :: ops) = transduced [op] ++ transduced ops := by
      rw [transduced, transduced, transduced, ← List.filterMap_append, List.singleton_append]
    rw [queueReads, List.foldl_cons, List.append_assoc, ih, ← List.append_assoc, due_append_enqueue, hsplit,
      List.append_assoc]

/-- The cortex takes only keystrokes with the scancode of the last one. -/
def Timely : List UInt8 → List TouchOp → Prop
  | _, [] => True
  | queue, op :: ops => (∀ c ∈ op.due queue, queue.getLast? = some c) ∧ Timely (op.enqueue queue) ops

/-! ## The bus as a queue of references -/

/-- The read head of the cortex. -/
def cortex : Fin maxOrgans := ⟨organCortex.toNat, by decide⟩

section

variable {stimulusAddr : UInt64} {s t : Touch} {queue : List UInt8}

/-- The unread globules of the cortex are as many references to the record as the queue has scancodes, and the
record holds the last of these. -/
structure Touch.Refers (stimulusAddr : UInt64) (s : Touch) (queue : List UInt8) : Prop where
  calm : s.bus.Calm cortex
  window : ∃ slots, s.bus.Unread cortex slots ∧ slots.length = queue.length ∧
    ∀ x ∈ slots, (s.bus.bloodStream x).targetOrgan = organCortex ∧ (s.bus.bloodStream x).payloadAddr = stimulusAddr
  last : ∀ c, queue.getLast? = some c → s.lastStimulus.rawData[0] = c

theorem boot_refers : Touch.boot.Refers stimulusAddr [] where
  calm := boot_calm cortex
  window := ⟨[], .here _, rfl, fun x hx => by cases hx⟩
  last c hc := by cases hc

theorem Touch.Refers.keystroke (h : s.Refers stimulusAddr queue) (hroom : ¬ s.bus.congested) (scancode : UInt8) :
    (senseTransduceKeystroke stimulusAddr s scancode).Refers stimulusAddr (queue ++ [scancode]) := by
  have hdata : (keystrokeGlobule stimulusAddr).type ≠ .white := fun h => by cases h
  have haccepts : s.bus.accepts (keystrokeGlobule stimulusAddr) :=
    ⟨fun hc => absurd hc hroom, fun hbarred => hbarred.2.2 rfl⟩
  have hp := (pump_of_accepts haccepts).2
  obtain ⟨slots, hw, hlen, hall⟩ := h.window
  refine ⟨h.calm.pump hroom haccepts hdata, ⟨_, h.calm.unread_pump hroom hp hdata hw, ?_, ?_⟩, ?_⟩
  · rw [List.length_append, List.length_append, hlen]
    rfl
  · intro x hx
    change ((unitedBusPump s.bus (keystrokeGlobule stimulusAddr)).1.bloodStream x).targetOrgan = _ ∧
      ((unitedBusPump s.bus (keystrokeGlobule stimulusAddr)).1.bloodStream x).payloadAddr = _
    rw [hp.stream]
    by_cases hsystole : x = s.bus.heartSystole
    · subst hsystole
      rw [Function.update_self]
      exact ⟨rfl, rfl⟩
    · rw [Function.update_of_ne hsystole]
      rcases List.mem_append.1 hx with hx | hx
      · exact hall x hx
      · exact absurd (List.mem_singleton.1 hx) hsystole
  · intro c hc
    rw [List.getLast?_append] at hc
    obtain rfl : scancode = c := Option.some.inj hc
    exact Vector.getElem_set_self _

/-- An absorb of the cortex reads the record once for each scancode that it takes from the queue. -/
theorem Touch.Refers.absorb (h : s.Refers stimulusAddr queue) {n : Int} {out : List Globule} {bus : Bus}
    (hst : BusStep s.bus (.absorb organCortex n, out) bus) :
    out.map (s.scancodeAt stimulusAddr) = (queue.take n.toNat).map (fun _ => some s.lastStimulus.rawData[0]) ∧
      ({ s with bus := bus } : Touch).Refers stimulusAddr (queue.drop n.toNat) := by
  obtain ⟨slots, hw, hlen, hall⟩ := h.window
  obtain ⟨hout, hstream, hleft⟩ := absorb_take (by decide) hw
    (fun x hx => by rw [Globule.addressedTo, (hall x hx).1]; rfl) hst
  constructor
  · have hread : ∀ x ∈ slots.take n.toNat,
        s.scancodeAt stimulusAddr (s.bus.bloodStream x) = some s.lastStimulus.rawData[0] := fun x hx =>
      if_pos (hall x (List.mem_of_mem_take hx)).2
    rw [hout, List.map_map]
    refine (List.map_congr_left hread).trans ?_
    rw [List.map_const', List.map_const', List.length_take, List.length_take, hlen]
  · refine ⟨h.calm.absorb hst, ⟨_, hleft, ?_, ?_⟩, ?_⟩
    · rw [List.length_drop, List.length_drop, hlen]
    · intro x hx
      rw [show ({ s with bus := bus } : Touch).bus = bus from rfl, hstream]
      exact hall x (List.mem_of_mem_drop hx)
    · intro c hc
      rw [List.getLast?_drop] at hc
      split at hc
      · cases hc
      · exact h.last c hc

/-- What the cortex reads in one call, and the queue after it. -/
theorem Touch.Refers.step (h : s.Refers stimulusAddr queue) {a : TouchOp × List (Option UInt8)}
    (hroom : FindsRoom s a) (hst : TouchStep stimulusAddr s a t) :
    a.2 = (a.1.due queue).map (fun _ => some s.lastStimulus.rawData[0]) ∧
      t.Refers stimulusAddr (a.1.enqueue queue) := by
  obtain ⟨op, read⟩ := a
  cases op with
  | keystroke scancode =>
    obtain ⟨rfl, rfl⟩ := hst
    exact ⟨rfl, h.keystroke (hroom scancode rfl) scancode⟩
  | absorb organId n =>
    obtain ⟨out, bus, hbus, rfl, rfl⟩ := hst
    by_cases horgan : organId = organCortex
    · subst horgan
      exact h.absorb hbus
    · -- another organ leaves the window of the cortex alone
      obtain ⟨slots, hw, hlen, hall⟩ := h.window
      have hcalm := h.calm.absorb hbus
      obtain ⟨fuel, habs⟩ := hbus
      have hleft := hw.absorb_other (fun heq => horgan (UInt8.toNat_inj.1 heq)) habs
      obtain ⟨heads, rfl, -⟩ := absorb_eq habs
      simp only [TouchOp.due, TouchOp.enqueue, if_neg horgan]
      exact ⟨rfl, hcalm, ⟨slots, hleft, hlen, hall⟩, h.last⟩
  | gc =>
    obtain ⟨rfl, rfl⟩ := hst
    obtain ⟨slots, hw, hlen, hall⟩ := h.window
    have hcalm := h.calm.gc
    refine ⟨rfl, hcalm, ?_, h.last⟩
    obtain ⟨m, -, e⟩ := gc_eq s.bus
    dsimp only
    rw [e]
    exact ⟨slots, hw, hlen, hall⟩

/-- The record is right for what is taken from the queue exactly when that ends with the last scancode. -/
theorem due_read_iff (h : s.Refers stimulusAddr queue) (op : TouchOp) :
    (op.due queue).map (fun _ => some s.lastStimulus.rawData[0]) = (op.due queue).map some ↔
      ∀ c ∈ op.due queue, queue.getLast? = some c := by
  have hmem : ∀ c ∈ op.due queue, c ∈ queue := by
    intro c hc
    cases op with
    | absorb organId n =>
      rw [TouchOp.due] at hc
      split at hc
      · exact List.mem_of_mem_take hc
      · cases hc
    | _ => cases hc
  rw [List.map_inj_left]
  refine forall₂_congr fun c hc => ?_
  have hne : queue ≠ [] := List.ne_nil_of_mem (hmem c hc)
  have hlast : s.lastStimulus.rawData[0] = queue.getLast hne := h.last _ (List.getLast?_eq_some_getLast hne)
  rw [List.getLast?_eq_some_getLast hne, hlast]

/-- From related states, for every execution. -/
theorem reads_iff_of_refers {tr : List ((TouchOp × List (Option UInt8)) × Touch)} (h : s.Refers stimulusAddr queue)
    (hexec : Exec (TouchStep stimulusAddr) s tr) (hroom : AllSteps FindsRoom s tr) :
    cortexReads tr = (queueReads queue (tr.map fun e => e.1.1)).map some ↔
      Timely queue (tr.map fun e => e.1.1) := by
  induction tr generalizing s queue with
  | nil => exact iff_of_true rfl trivial
  | cons e tr ih =>
    obtain ⟨a, t⟩ := e
    obtain ⟨hst, hrest⟩ := hexec
    obtain ⟨hread, hrefers⟩ := h.step hroom.1 hst
    have hlen : a.2.length = ((a.1.due queue).map some).length := by
      rw [hread, List.length_map, List.length_map]
    have hsplit : cortexReads ((a, t) :: tr) =
          (queueReads queue (((a, t) :: tr).map fun e => e.1.1)).map some ↔
        a.2 = (a.1.due queue).map some ∧
          cortexReads tr = (queueReads (a.1.enqueue queue) (tr.map fun e => e.1.1)).map some := by
      rw [List.map_cons, queueReads, List.map_append]
      constructor
      · intro heq
        exact List.append_inj heq hlen
      · rintro ⟨hnow, hlater⟩
        rw [← hnow, ← hlater]
        rfl
    rw [hsplit, ih hrefers hrest hroom.2, hread, due_read_iff h]
    rfl

end

/-- Over every execution in which no keystroke finds the bus congested, the cortex reads exactly the transduced
scancodes, each once and in order, if and only if it only ever takes keystrokes with the scancode of the last
one. -/
theorem keystrokes_read_iff {stimulusAddr : UInt64} {tr : List ((TouchOp × List (Option UInt8)) × Touch)}
    (h : Exec (TouchStep stimulusAddr) .boot tr) (hroom : AllSteps FindsRoom .boot tr) :
    cortexReads tr = (queueReads [] (tr.map fun e => e.1.1)).map some ↔ Timely [] (tr.map fun e => e.1.1) :=
  reads_iff_of_refers boot_refers h hroom

/-! ### Two keys -/

/-- The cortex absorbs what there is in slots 0 to `n - 1`. -/
def Touch.absorbed (s : Touch) (n : Nat) : Touch := { s with bus := s.bus.setHead cortex n }

/-- One key pressed. -/
def oneKey : Touch := senseTransduceKeystroke 4096 .boot 30

/-- A second one, after the cortex has absorbed the first. -/
def secondKey : Touch := senseTransduceKeystroke 4096 (oneKey.absorbed 1) 48

/-- The cortex drains the bus after each of the two keystrokes. -/
def drainedTrace : List ((TouchOp × List (Option UInt8)) × Touch) :=
  [((.keystroke 30, []), oneKey), ((.absorb organCortex 10, [some 30]), oneKey.absorbed 1),
    ((.keystroke 48, []), secondKey), ((.absorb organCortex 10, [some 48]), secondKey.absorbed 2)]

theorem exec_drainedTrace : Exec (TouchStep 4096) .boot drainedTrace :=
  ⟨⟨rfl, rfl⟩, ⟨_, _, ⟨1, rfl⟩, rfl, rfl⟩, ⟨rfl, rfl⟩, ⟨_, _, ⟨1, rfl⟩, rfl, rfl⟩, trivial⟩

/-- It reads both. -/
theorem drained_keystrokes_read : cortexReads drainedTrace =
    (queueReads [] (drainedTrace.map fun e => e.1.1)).map some := by
  refine (keystrokes_read_iff exec_drainedTrace ⟨?_, ?_, ?_, ?_, trivial⟩).2 ?_
  · exact fun _ _ => by decide
  · exact fun _ h => by cases h
  · exact fun _ _ => by decide
  · exact fun _ h => by cases h
  · exact ⟨fun _ hc => (by cases hc), fun _ hc => (by rw [List.mem_singleton.1 hc]; rfl),
      fun _ hc => (by cases hc), fun _ hc => (by rw [List.mem_singleton.1 hc]; rfl), trivial⟩

/-- Both keys pressed before the cortex looks. -/
def twoKeys : Touch := senseTransduceKeystroke 4096 oneKey 48

/-- It then reads the second scancode twice. -/
theorem exists_keystrokes_misread : ∃ (stimulusAddr : UInt64)
    (tr : List ((TouchOp × List (Option UInt8)) × Touch)),
    Exec (TouchStep stimulusAddr) .boot tr ∧ AllSteps FindsRoom .boot tr ∧
      cortexReads tr ≠ (queueReads [] (tr.map fun e => e.1.1)).map some := by
  refine ⟨4096, [((.keystroke 30, []), oneKey), ((.keystroke 48, []), twoKeys),
    ((.absorb organCortex 10, [some 48, some 48]), twoKeys.absorbed 2)],
    ⟨⟨rfl, rfl⟩, ⟨rfl, rfl⟩, ⟨_, _, ⟨2, rfl⟩, rfl, rfl⟩, trivial⟩, ⟨?_, ?_, ?_, trivial⟩, ?_⟩
  · exact fun _ _ => by decide
  · exact fun _ _ => by decide
  · exact fun _ h => by cases h
  · exact fun h => absurd (List.cons.inj h).1 (by decide)

end OperatingOrganism.Senses

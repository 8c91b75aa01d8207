import Mathlib.Algebra.GroupWithZero.Nat
import OperatingOrganism.Immune.SwarmMind
import OperatingOrganism.Library.InsertionDict

/-!
# The guard of the files

`FsWatchAgent` counts the modifications of each file and raises an alarm for an extension of ransomware, or when there
are fifty modifications. It adds the counters of all files up for this, each of them and the sum in 32 bits, so what
it says about the number of files is the number of calls since the last reset, whichever files they are about: it is
a bare counter (`fsWatch_counts`).
-/

set_option autoImplicit false

namespace OperatingOrganism.Immune

open OperatingOrganism.Execution

structure FsWatchAgent where
  recentModifications : InsertionDict String UInt32
  threatsCaught : UInt64
  massModifyThreshold : UInt32

namespace FsWatchAgent

/-- `FsWatchAgent::new` -/
def new : FsWatchAgent := ⟨.empty, 0, 50⟩

/-- `ransom_exts` -/
def ransomExts : List String := [".locked", ".encrypted", ".crypt", ".enc", ".pay2me", ".zzzzz", ".zepto"]

/-- One of the extensions is at the end. -/
def isRansom (ext : String) : Bool := ransomExts.any fun e => e.toList.isSuffixOf ext.toList

def ransomEvent (path : String) : SwarmEvent where
  fromRole := .fsWatch
  threatLevel := .combat
  description := "Ransomware extension detected: " ++ path
  timestampNs := 0
  confidence := 90
  signature := none

def massEvent (totalMods : UInt32) : SwarmEvent where
  fromRole := .fsWatch
  threatLevel := .alert
  description := "Mass file modification detected (" ++ toString totalMods ++ " files)"
  timestampNs := 0
  confidence := 70
  signature := none

/-- `total_mods` -/
def totalMods (agent : FsWatchAgent) : UInt32 := agent.recentModifications.values.foldl (· + ·) 0

/-- One more modification of a file. -/
def modified (agent : FsWatchAgent) (path : String) : FsWatchAgent :=
  { agent with
    recentModifications := agent.recentModifications.set path ((agent.recentModifications.get? path).getD 0 + 1) }

/-- `on_file_modified` -/
def onFileModified (agent : FsWatchAgent) (path ext : String) : FsWatchAgent × Option SwarmEvent :=
  let agent := agent.modified path
  if isRansom ext then ({ agent with threatsCaught := agent.threatsCaught + 1 }, some (ransomEvent path))
  else if agent.massModifyThreshold ≤ agent.totalMods then
    ({ agent with threatsCaught := agent.threatsCaught + 1 }, some (massEvent agent.totalMods))
  else (agent, none)

/-- `reset_counters` -/
def resetCounters (agent : FsWatchAgent) : FsWatchAgent := { agent with recentModifications := .empty }

end FsWatchAgent

inductive FsWatchOp where
  | onFileModified (path ext : String)
  | resetCounters

/-! ### A bare counter -/

/-- The modifications since the last reset, and all alarms. -/
structure ModificationCounter where
  modifications : Nat
  alarms : Nat

namespace ModificationCounter

/-- The alarm at a modification, when it is the last one of so many. -/
def alarm (modifications : Nat) (path ext : String) : Option SwarmEvent :=
  if FsWatchAgent.isRansom ext then some (FsWatchAgent.ransomEvent path)
  else if 50 ≤ modifications % 2 ^ 32 then some (FsWatchAgent.massEvent (UInt32.ofNat modifications))
  else none

def next (counter : ModificationCounter) : FsWatchOp → ModificationCounter
  | .onFileModified path ext =>
    let modifications := counter.modifications + 1
    ⟨modifications, counter.alarms + (alarm modifications path ext).toList.length⟩
  | .resetCounters => { counter with modifications := 0 }

end ModificationCounter

/-- An agent beside its counter. -/
abbrev FsWatchRecord := FsWatchAgent × ModificationCounter

def FsWatchOp.run (agent : FsWatchAgent) : FsWatchOp → FsWatchAgent
  | .onFileModified path ext => (agent.onFileModified path ext).1
  | .resetCounters => agent.resetCounters

def FsWatchOp.recorded (st : FsWatchRecord) (op : FsWatchOp) : FsWatchRecord := (op.run st.1, st.2.next op)

def FsWatchStep (st : FsWatchRecord) (op : FsWatchOp) (st' : FsWatchRecord) : Prop := st' = op.recorded st

def fsWatchRun (ops : List FsWatchOp) : List (FsWatchOp × FsWatchRecord) :=
  driven FsWatchOp.recorded (.new, ⟨0, 0⟩) ops

theorem exec_fsWatchRun (ops : List FsWatchOp) : Exec FsWatchStep (.new, ⟨0, 0⟩) (fsWatchRun ops) :=
  @exec_driven _ _ FsWatchStep FsWatchOp.recorded (fun _ _ => rfl) (FsWatchAgent.new, ⟨0, 0⟩) ops

/-- A modification is answered as the counter says. -/
def AnsweredByCount (st : FsWatchRecord) : FsWatchOp → Prop
  | .onFileModified path ext =>
    (st.1.onFileModified path ext).2 = ModificationCounter.alarm (st.2.modifications + 1) path ext
  | .resetCounters => True

/-- The counters of the files add up to the modifications and the threats are the alarms, in words. -/
structure CountsModifications (st : FsWatchRecord) : Prop where
  threshold : st.1.massModifyThreshold = 50
  total : (st.1.recentModifications.values.map UInt32.toNat).sum % 2 ^ 32 = st.2.modifications % 2 ^ 32
  threats : st.1.threatsCaught = UInt64.ofNat st.2.alarms

namespace FsWatchAgent

variable {agent : FsWatchAgent} {st : FsWatchRecord} {path ext : String}

theorem toNat_foldl_add (l : List UInt32) (start : UInt32) :
    (l.foldl (· + ·) start).toNat = (start.toNat + (l.map UInt32.toNat).sum) % 2 ^ 32 := by
  induction l generalizing start with
  | nil => simp [Nat.mod_eq_of_lt start.toNat_lt]
  | cons a l ih =>
    rw [List.foldl_cons, ih, UInt32.toNat_add, List.map_cons, List.sum_cons, ← Nat.add_assoc, Nat.mod_add_mod]

theorem totalMods_eq {n : Nat} (h : (agent.recentModifications.values.map UInt32.toNat).sum % 2 ^ 32 = n % 2 ^ 32) :
    agent.totalMods = UInt32.ofNat n := by
  apply UInt32.toNat_inj.1
  rw [totalMods, toNat_foldl_add, UInt32.toNat_ofNat', ← h]
  simp

theorem total_modified (agent : FsWatchAgent) (path : String) :
    ((agent.modified path).recentModifications.values.map UInt32.toNat).sum % 2 ^ 32 =
      ((agent.recentModifications.values.map UInt32.toNat).sum + 1) % 2 ^ 32 := by
  have hsum := agent.recentModifications.sum_values_set UInt32.toNat path
    ((agent.recentModifications.get? path).getD 0 + 1)
  have hold : ((agent.recentModifications.get? path).map UInt32.toNat).getD 0 =
      ((agent.recentModifications.get? path).getD 0).toNat := by
    cases agent.recentModifications.get? path <;> rfl
  -- the counter of the file may wrap, and the sum with it
  rw [hold, UInt32.toNat_add] at hsum
  have hlt := ((agent.recentModifications.get? path).getD 0).toNat_lt
  have hone : (1 : UInt32).toNat = 1 := rfl
  simp only [modified]
  omega

theorem modifications_modified (h : CountsModifications st) (path : String) :
    ((st.1.modified path).recentModifications.values.map UInt32.toNat).sum % 2 ^ 32 =
      (st.2.modifications + 1) % 2 ^ 32 := by
  rw [total_modified, Nat.add_mod, h.total, ← Nat.add_mod]

/-- What a modification does, with the threat that it counts if it raises an alarm. -/
theorem onFileModified_spec (h : CountsModifications st) (path ext : String) :
    AnsweredByCount st (.onFileModified path ext) ∧
      CountsModifications (FsWatchOp.recorded st (.onFileModified path ext)) := by
  have htotal := modifications_modified h path
  have hthreshold : (st.1.modified path).massModifyThreshold = 50 := h.threshold
  have hthreats : (st.1.modified path).threatsCaught = UInt64.ofNat st.2.alarms := h.threats
  have hreached : (50 : UInt32) ≤ UInt32.ofNat (st.2.modifications + 1) ↔ 50 ≤ (st.2.modifications + 1) % 2 ^ 32 := by
    rw [UInt32.le_iff_toNat_le, UInt32.toNat_ofNat']
    rfl
  simp only [AnsweredByCount, FsWatchOp.recorded, FsWatchOp.run, ModificationCounter.next, onFileModified,
    ModificationCounter.alarm, totalMods_eq htotal, hthreshold, hreached]
  split
  · exact ⟨rfl, rfl, htotal, by simp [hthreats]⟩
  · split
    · exact ⟨rfl, rfl, htotal, by simp [hthreats]⟩
    · exact ⟨rfl, hthreshold, htotal, hthreats⟩

theorem countsModifications_recorded (h : CountsModifications st) (op : FsWatchOp) :
    CountsModifications (op.recorded st) := by
  cases op with
  | onFileModified path ext => exact (onFileModified_spec h path ext).2
  | resetCounters => exact ⟨h.threshold, rfl, h.threats⟩

/-- In every run, each modification is answered as a counter of the calls since the last reset says, whichever files
they are about, and the threats are the alarms. -/
theorem fsWatch_counts {tr : List (FsWatchOp × FsWatchRecord)} (h : Exec FsWatchStep (.new, ⟨0, 0⟩) tr) :
    AllSteps AnsweredByCount (.new, ⟨0, 0⟩) tr ∧
      AllStates (fun st => st.1.threatsCaught = UInt64.ofNat st.2.alarms) (.new, ⟨0, 0⟩) tr := by
  have hnew : CountsModifications (.new, ⟨0, 0⟩) := ⟨rfl, rfl, rfl⟩
  have hkept : ∀ st op st', CountsModifications st → FsWatchStep st op st' → CountsModifications st' := by
    rintro st op _ hst rfl
    exact countsModifications_recorded hst op
  refine ⟨h.allSteps_of_invariant hnew hkept ?_, (h.invariant hnew hkept).imp fun st hst => hst.threats⟩
  intro st op hst
  cases op with
  | onFileModified path ext => exact (onFileModified_spec hst path ext).1
  | resetCounters => trivial

/-- Fifty modifications of one file are fifty files. -/
theorem fsWatch_counts_oneFile :
    let tr := fsWatchRun (List.replicate 50 (.onFileModified "notes.txt" ".txt"))
    AllSteps AnsweredByCount (.new, ⟨0, 0⟩) tr ∧
      AllStates (fun st => st.1.threatsCaught = UInt64.ofNat st.2.alarms) (.new, ⟨0, 0⟩) tr :=
  fsWatch_counts (exec_fsWatchRun _)

end FsWatchAgent

end OperatingOrganism.Immune

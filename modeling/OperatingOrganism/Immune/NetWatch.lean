import Mathlib.Algebra.BigOperators.Group.List.Basic
import Mathlib.Algebra.GroupWithZero.Nat
import OperatingOrganism.Immune.SwarmMind
import OperatingOrganism.Library.InsertionDict
import OperatingOrganism.Library.JoinedText

/-!
# The guard of the network

`NetWatchAgent` counts the connections to each destination and the bytes that leave, and raises two alarms from them:
a beacon at ten connections to one destination, an exfiltration at 50 MB. The beacon is looked for first and returns
at once, so from the tenth connection on it hides the worse finding. With the calls since the last reset as a ghost,
each call reports the worst finding if and only if the beacon does not hide an exfiltration and the counter of the
destination has not wrapped (`reportsWorst_iff`).
-/

set_option autoImplicit false

namespace OperatingOrganism.Immune

open OperatingOrganism.Execution OperatingOrganism.JoinedText

structure NetWatchAgent where
  connectionCounts : InsertionDict String UInt64
  outboundBytes : UInt64
  threatsCaught : UInt64
  beaconThreshold : UInt64
  exfilThresholdBytes : UInt64

namespace NetWatchAgent

/-- `NetWatchAgent::new` -/
def new : NetWatchAgent where
  connectionCounts := .empty
  outboundBytes := 0
  threatsCaught := 0
  beaconThreshold := 10
  exfilThresholdBytes := 50 * 1024 * 1024

/-- `{}:{}` -/
def destinationKey (destIp : String) (destPort : UInt16) : String := destIp ++ ":" ++ toString destPort

/-- `on_connection` -/
def onConnection (agent : NetWatchAgent) (destIp : String) (destPort : UInt16) (bytesSent : UInt64) :
    NetWatchAgent × Option SwarmEvent :=
  let key := destinationKey destIp destPort
  let count := (agent.connectionCounts.get? key).getD 0 + 1
  let agent :=
    { agent with
      connectionCounts := agent.connectionCounts.set key count
      outboundBytes := agent.outboundBytes + bytesSent }
  if agent.beaconThreshold ≤ count then
    ({ agent with threatsCaught := agent.threatsCaught + 1 }, some
      { fromRole := .netWatch
        threatLevel := .alert
        description := "C2 beacon suspected: " ++ key ++ " (" ++ toString count ++ " connections)"
        timestampNs := 0
        confidence := 72
        signature := none })
  else if agent.exfilThresholdBytes ≤ agent.outboundBytes then
    ({ agent with threatsCaught := agent.threatsCaught + 1 }, some
      { fromRole := .netWatch
        threatLevel := .combat
        description := "Data exfiltration suspected: " ++ toString agent.outboundBytes ++ " bytes sent"
        timestampNs := 0
        confidence := 80
        signature := none })
  else (agent, none)

/-- `reset_window` -/
def resetWindow (agent : NetWatchAgent) : NetWatchAgent :=
  { agent with outboundBytes := 0, connectionCounts := .empty }

end NetWatchAgent

/-! ### The calls since the last reset -/

structure Connection where
  destIp : String
  destPort : UInt16
  bytesSent : UInt64
  deriving DecidableEq

inductive NetWatchOp where
  | onConnection (call : Connection)
  | resetWindow

/-- An agent with the connections since the last reset. -/
abbrev NetWatchRecord := NetWatchAgent × List Connection

/-- The agent after a call, and the event that it returns. -/
def NetWatchAgent.report (agent : NetWatchAgent) (call : Connection) : NetWatchAgent × Option SwarmEvent :=
  agent.onConnection call.destIp call.destPort call.bytesSent

def NetWatchOp.recorded (st : NetWatchRecord) : NetWatchOp → NetWatchRecord
  | .onConnection call => ((st.1.report call).1, st.2 ++ [call])
  | .resetWindow => (st.1.resetWindow, [])

def NetWatchStep (st : NetWatchRecord) (op : NetWatchOp) (st' : NetWatchRecord) : Prop := st' = op.recorded st

def netWatchRun (ops : List NetWatchOp) : List (NetWatchOp × NetWatchRecord) :=
  driven NetWatchOp.recorded (.new, []) ops

theorem exec_netWatchRun (ops : List NetWatchOp) : Exec NetWatchStep (.new, []) (netWatchRun ops) :=
  @exec_driven _ _ NetWatchStep NetWatchOp.recorded (fun _ _ => rfl) (NetWatchAgent.new, []) ops

/-- The bytes of all connections. -/
def totalVolume (calls : List Connection) : Nat := (calls.map fun call => call.bytesSent.toNat).sum

/-- The connections to one destination. -/
def contacts (calls : List Connection) (destIp : String) (destPort : UInt16) : Nat :=
  calls.countP fun call => call.destIp = destIp ∧ call.destPort = destPort

/-- An exfiltration from 50 MB on, a beacon from ten connections on. -/
def worstFinding (volume connections : Nat) : Option ThreatLevel :=
  if 50 * 1024 * 1024 ≤ volume then some .combat else if 10 ≤ connections then some .alert else none

/-- A call whose total volume can be counted reports the worst finding. -/
def ReportsWorst (st : NetWatchRecord) : NetWatchOp → Prop
  | .onConnection call =>
    totalVolume (st.2 ++ [call]) < 2 ^ 64 →
      (st.1.report call).2.map SwarmEvent.threatLevel =
        worstFinding (totalVolume (st.2 ++ [call])) (contacts (st.2 ++ [call]) call.destIp call.destPort)
  | .resetWindow => True

/-- With an exfiltration, the counter of the destination is below ten; without one, a counter that has wrapped is
at least ten again. -/
def NotMasked (st : NetWatchRecord) : NetWatchOp → Prop
  | .onConnection call =>
    let connections := contacts (st.2 ++ [call]) call.destIp call.destPort
    totalVolume (st.2 ++ [call]) < 2 ^ 64 →
      if 50 * 1024 * 1024 ≤ totalVolume (st.2 ++ [call]) then connections % 2 ^ 64 < 10
      else connections < 10 ∨ 10 ≤ connections % 2 ^ 64
  | .resetWindow => True

/-! ### The keys of the counters -/

theorem colon_not_mem_toString (port : UInt16) : ':' ∉ (toString port).toList := by
  intro hcolon
  have hdigits : ':' ∈ Nat.toDigits 10 port.toNat := by
    rw [← Nat.toList_repr]
    exact hcolon
  exact absurd (Nat.isDigit_of_mem_toDigits (by decide) (by decide) hdigits) (by decide)

theorem toString_uInt16_inj {m n : UInt16} (h : toString m = toString n) : m = n := by
  have hrepr : m.toNat.repr = n.toNat.repr := h
  have hdigits := congrArg String.toList hrepr
  rw [Nat.toList_repr, Nat.toList_repr] at hdigits
  apply UInt16.toNat_inj.1
  calc
    m.toNat = Nat.ofDigitChars 10 (Nat.toDigits 10 m.toNat) 0 := Nat.ofDigitChars_ten_toDigits.symm
    _ = Nat.ofDigitChars 10 (Nat.toDigits 10 n.toNat) 0 := by rw [hdigits]
    _ = n.toNat := Nat.ofDigitChars_ten_toDigits

/-- Two destinations have two keys, whatever the text of the address. -/
theorem destinationKey_inj {ip ip' : String} {port port' : UInt16} :
    NetWatchAgent.destinationKey ip port = NetWatchAgent.destinationKey ip' port' ↔ ip = ip' ∧ port = port' := by
  constructor
  · intro hkey
    have hparts := congrArg (split ':') hkey
    have hcolon : ":" = String.singleton ':' := rfl
    simp only [NetWatchAgent.destinationKey, hcolon, split_append,
      split_of_not_mem (colon_not_mem_toString _)] at hparts
    obtain ⟨hip, hport⟩ := List.append_inj' hparts rfl
    exact ⟨split_injective hip, toString_uInt16_inj (List.cons.inj hport).1⟩
  · rintro ⟨rfl, rfl⟩
    rfl

/-! ### The counters and the calls -/

/-- The thresholds are those of `new`, the volume is the total of the calls and each counter counts the connections
to its destination, both up to a wrap. -/
structure CountsCalls (st : NetWatchRecord) : Prop where
  beacon : st.1.beaconThreshold = 10
  exfil : st.1.exfilThresholdBytes = 50 * 1024 * 1024
  volume : st.1.outboundBytes.toNat = totalVolume st.2 % 2 ^ 64
  counts : ∀ ip port, ((st.1.connectionCounts.get? (NetWatchAgent.destinationKey ip port)).getD 0).toNat =
    contacts st.2 ip port % 2 ^ 64

theorem totalVolume_append (calls : List Connection) (call : Connection) :
    totalVolume (calls ++ [call]) = totalVolume calls + call.bytesSent.toNat := by
  simp [totalVolume]

theorem contacts_append (calls : List Connection) (call : Connection) (ip : String) (port : UInt16) :
    contacts (calls ++ [call]) ip port =
      contacts calls ip port + if call.destIp = ip ∧ call.destPort = port then 1 else 0 := by
  simp [contacts, List.countP_append, List.countP_singleton]

/-- What a call leaves in the agent. -/
theorem report_fst (agent : NetWatchAgent) (call : Connection) :
    ∃ threats, (agent.report call).1 =
      { agent with
        connectionCounts := agent.connectionCounts.set (NetWatchAgent.destinationKey call.destIp call.destPort)
          ((agent.connectionCounts.get? (NetWatchAgent.destinationKey call.destIp call.destPort)).getD 0 + 1)
        outboundBytes := agent.outboundBytes + call.bytesSent
        threatsCaught := threats } := by
  simp only [NetWatchAgent.report, NetWatchAgent.onConnection]
  split
  · exact ⟨_, rfl⟩
  · split <;> exact ⟨_, rfl⟩

/-- The level of the event that a call returns. -/
theorem level_report (agent : NetWatchAgent) (call : Connection) :
    (agent.report call).2.map SwarmEvent.threatLevel =
      if agent.beaconThreshold ≤
          (agent.connectionCounts.get? (NetWatchAgent.destinationKey call.destIp call.destPort)).getD 0 + 1 then
        some .alert
      else if agent.exfilThresholdBytes ≤ agent.outboundBytes + call.bytesSent then some .combat
      else none := by
  simp only [NetWatchAgent.report, NetWatchAgent.onConnection]
  split
  · rfl
  · split <;> rfl

/-- One more connection to the destination of the call. -/
theorem CountsCalls.count_succ {st : NetWatchRecord} (h : CountsCalls st) (call : Connection) :
    ((st.1.connectionCounts.get? (NetWatchAgent.destinationKey call.destIp call.destPort)).getD 0 + 1).toNat =
      contacts (st.2 ++ [call]) call.destIp call.destPort % 2 ^ 64 := by
  rw [UInt64.toNat_add, h.counts, contacts_append, if_pos ⟨rfl, rfl⟩, ← Nat.add_mod_mod]
  simp [Nat.add_mod]

theorem CountsCalls.volume_add {st : NetWatchRecord} (h : CountsCalls st) (call : Connection) :
    (st.1.outboundBytes + call.bytesSent).toNat = totalVolume (st.2 ++ [call]) % 2 ^ 64 := by
  rw [UInt64.toNat_add, h.volume, totalVolume_append, Nat.mod_add_mod]

/-- Every call keeps the counters. -/
theorem countsCalls_recorded {st : NetWatchRecord} (h : CountsCalls st) (op : NetWatchOp) :
    CountsCalls (op.recorded st) := by
  cases op with
  | resetWindow => exact ⟨h.beacon, h.exfil, rfl, fun _ _ => rfl⟩
  | onConnection call =>
    obtain ⟨threats, hagent⟩ := report_fst st.1 call
    simp only [NetWatchOp.recorded, hagent]
    refine ⟨h.beacon, h.exfil, h.volume_add call, fun ip port => ?_⟩
    rw [InsertionDict.get?_set]
    split
    · next hkey =>
      obtain ⟨rfl, rfl⟩ := destinationKey_inj.1 hkey
      exact h.count_succ call
    · next hkey =>
      have hother : ¬ (call.destIp = ip ∧ call.destPort = port) := by
        rintro ⟨rfl, rfl⟩
        exact hkey rfl
      rw [contacts_append, if_neg hother]
      exact h.counts ip port

theorem countsCalls_new : CountsCalls (.new, []) := ⟨rfl, rfl, rfl, fun _ _ => rfl⟩

/-! ### What a call reports -/

/-- A call reports the worst finding exactly when nothing masks it. -/
theorem reportsWorst_step_iff {st : NetWatchRecord} (h : CountsCalls st) (op : NetWatchOp) :
    ReportsWorst st op ↔ NotMasked st op := by
  cases op with
  | resetWindow => exact Iff.rfl
  | onConnection call =>
    refine forall_congr' fun hvolume => ?_
    have hbeacon : st.1.beaconThreshold ≤
          (st.1.connectionCounts.get? (NetWatchAgent.destinationKey call.destIp call.destPort)).getD 0 + 1 ↔
        10 ≤ contacts (st.2 ++ [call]) call.destIp call.destPort % 2 ^ 64 := by
      rw [UInt64.le_iff_toNat_le, h.beacon, h.count_succ]
      rfl
    have hexfil : st.1.exfilThresholdBytes ≤ st.1.outboundBytes + call.bytesSent ↔
        50 * 1024 * 1024 ≤ totalVolume (st.2 ++ [call]) := by
      rw [UInt64.le_iff_toNat_le, h.exfil, h.volume_add, Nat.mod_eq_of_lt hvolume]
      rfl
    rw [level_report, worstFinding]
    simp only [hbeacon, hexfil]
    generalize contacts (st.2 ++ [call]) call.destIp call.destPort = connections
    have hmod := Nat.mod_le connections (2 ^ 64)
    generalize connections % 2 ^ 64 = counted at hmod ⊢
    by_cases hlarge : 50 * 1024 * 1024 ≤ totalVolume (st.2 ++ [call])
    · -- an exfiltration: the beacon must not be found
      simp only [if_pos hlarge]
      by_cases hmany : 10 ≤ counted
      · rw [if_pos hmany]
        exact iff_of_false (by decide) (Nat.not_lt.2 hmany)
      · rw [if_neg hmany]
        exact iff_of_true rfl (Nat.lt_of_not_le hmany)
    · -- none: the beacon is found if its counter has not wrapped below ten
      simp only [if_neg hlarge]
      by_cases hmany : 10 ≤ counted
      · rw [if_pos hmany, if_pos (Nat.le_trans hmany hmod)]
        exact iff_of_true rfl (.inr hmany)
      · rw [if_neg hmany]
        by_cases hten : 10 ≤ connections
        · rw [if_pos hten]
          refine iff_of_false (by decide) ?_
          rintro (hfew | hcounted)
          · exact Nat.not_lt.2 hten hfew
          · exact hmany hcounted
        · rw [if_neg hten]
          exact iff_of_true rfl (.inl (Nat.lt_of_not_le hten))

/-- In every run, each call reports the worst finding if and only if at each call nothing masks it. -/
theorem reportsWorst_iff {tr : List (NetWatchOp × NetWatchRecord)} (h : Exec NetWatchStep (.new, []) tr) :
    AllSteps ReportsWorst (.new, []) tr ↔ AllSteps NotMasked (.new, []) tr := by
  refine h.allSteps_congr countsCalls_new ?_ fun st op hst => reportsWorst_step_iff hst op
  rintro st op st' hst - rfl
  exact countsCalls_recorded hst op

instance (st : NetWatchRecord) (op : NetWatchOp) : Decidable (NotMasked st op) :=
  match op with
  | .onConnection _ => inferInstanceAs (Decidable (_ → _))
  | .resetWindow => isTrue trivial

/-- Nine connections to one destination, which gets 10 MB each time. -/
def slowUpload : List NetWatchOp := List.replicate 9 (.onConnection ⟨"10.0.0.1", 443, 10 * 1024 * 1024⟩)

/-- The exfiltration is reported from the fifth connection on. -/
theorem slowUpload_reported : AllSteps ReportsWorst (.new, []) (netWatchRun slowUpload) :=
  (reportsWorst_iff (exec_netWatchRun _)).2 (by decide +kernel)

/-- Ten connections to one destination, which gets 10 MB each time. -/
def steadyUpload : List NetWatchOp := List.replicate 10 (.onConnection ⟨"10.0.0.1", 443, 10 * 1024 * 1024⟩)

/-- The tenth connection is reported as a beacon, although 100 MB have left. -/
theorem steadyUpload_hidden : ¬ AllSteps ReportsWorst (.new, []) (netWatchRun steadyUpload) := by
  have hsplit : steadyUpload = List.replicate 9 (.onConnection ⟨"10.0.0.1", 443, 10 * 1024 * 1024⟩) ++
      [.onConnection ⟨"10.0.0.1", 443, 10 * 1024 * 1024⟩] := rfl
  rw [netWatchRun, hsplit, allSteps_driven_append]
  rintro ⟨-, hlast, -⟩
  exact absurd (hlast (by decide)) (by decide)

end OperatingOrganism.Immune

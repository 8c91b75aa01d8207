import OperatingOrganism.Immune.SwarmMind
import OperatingOrganism.Library.TableDiff

/-!
# The guard of the kernel

`KernelWatchAgent` compares the system call table with the snapshot of a healthy one; every divergence is a hook. The
comparison goes through the current table and looks the places up in the snapshot, so it does not see that entries
are missing or added: it reports the divergences if and only if neither table is the other one with entries added at
the end (`reportsDivergence_iff`). What the agent prints is left out.
-/

set_option autoImplicit false

namespace OperatingOrganism.Immune

open OperatingOrganism.TableDiff

inductive KernelThreatType where
  | ssdtHook | inlineHook | dkom | rootkitSignature | irpHook | hiddenDriver | bootkitIndicator
  deriving DecidableEq, Repr

structure KernelDetection where
  threatType : KernelThreatType
  address : UInt64
  module : String
  confidence : UInt8
  timestamp : UInt64
  deriving DecidableEq

structure KernelWatchAgent where
  detections : List KernelDetection
  totalScans : UInt64
  threatsFound : UInt64
  referenceSsdt : List UInt64

namespace KernelWatchAgent

/-- `KernelWatchAgent::new` -/
def new : KernelWatchAgent := ⟨[], 0, 0, []⟩

/-- `snapshot_ssdt` -/
def snapshotSsdt (agent : KernelWatchAgent) (ssdt : List UInt64) : KernelWatchAgent :=
  { agent with referenceSsdt := ssdt }

/-- `check_ssdt` -/
def checkSsdt (agent : KernelWatchAgent) (currentSsdt : List UInt64) : KernelWatchAgent × Option SwarmEvent :=
  let agent := { agent with totalScans := agent.totalScans + 1 }
  if agent.referenceSsdt = [] then (agent, none)
  else
    match changedPlaces agent.referenceSsdt currentSsdt with
    | [] => (agent, none)
    | first :: rest =>
      let hooked := first :: rest
      let confidence : UInt8 := if 5 < hooked.length then 95 else 85
      ({ agent with
          detections := agent.detections ++
            [{ threatType := .ssdtHook
               address := currentSsdt[first]?.getD 0
               module := "unknown"
               confidence := confidence
               timestamp := 0 }]
          threatsFound := agent.threatsFound + 1 },
        some
          { fromRole := .kernelWatch
            threatLevel := .combat
            description := "SSDT hook: " ++ toString hooked.length ++ " syscall(s) hijacked"
            timestampNs := 0
            confidence := confidence
            signature := none })

/-- `{:#x}` -/
def hexText (n : UInt64) : String := "0x" ++ String.ofList (Nat.toDigits 16 n.toNat)

/-- `check_hidden_driver` -/
def checkHiddenDriver (agent : KernelWatchAgent) (driverBase driverSize : UInt64) :
    KernelWatchAgent × Option SwarmEvent :=
  let agent := { agent with totalScans := agent.totalScans + 1 }
  let isStandardRange : Bool := 0xFFFF800000000000 ≤ driverBase && driverBase < 0xFFFFF80000000000
  if !isStandardRange ∧ 0 < driverSize then
    ({ agent with
        threatsFound := agent.threatsFound + 1
        detections := agent.detections ++
          [{ threatType := .hiddenDriver
             address := driverBase
             module := "hidden@" ++ hexText driverBase
             confidence := 80
             timestamp := 0 }] },
      some
        { fromRole := .kernelWatch
          threatLevel := .combat
          description :=
            "Hidden driver detected at " ++ hexText driverBase ++ " (" ++ toString driverSize ++ " bytes)"
          timestampNs := 0
          confidence := 80
          signature := none })
  else (agent, none)

/-- `check_dkom_eprocess` -/
def checkDkomEprocess (agent : KernelWatchAgent) (visiblePids realPids : List UInt32) :
    KernelWatchAgent × Option SwarmEvent :=
  let agent := { agent with totalScans := agent.totalScans + 1 }
  let hidden := realPids.filter fun pid => pid ∉ visiblePids
  if hidden = [] then (agent, none)
  else
    ({ agent with threatsFound := agent.threatsFound + 1 },
      some
        { fromRole := .kernelWatch
          threatLevel := .combat
          description := "DKOM detected: " ++ toString hidden.length ++ " process(es) hidden from OS list: [" ++
            ", ".intercalate (hidden.map toString) ++ "]"
          timestampNs := 0
          confidence := 92
          signature := none })

/-- The check returns an event if and only if the tables differ; and where they first differ in an entry of the
current table, a hook with this entry is recorded. -/
structure ReportsDivergence (agent : KernelWatchAgent) (currentSsdt : List UInt64) : Prop where
  event : (agent.checkSsdt currentSsdt).2.isSome ↔ currentSsdt ≠ agent.referenceSsdt
  address : ∀ i entry, FirstDifferent agent.referenceSsdt currentSsdt i → currentSsdt[i]? = some entry →
    ∃ detection, (agent.checkSsdt currentSsdt).1.detections = agent.detections ++ [detection] ∧
      detection.threatType = .ssdtHook ∧ detection.address = entry

/-- What a check with a snapshot does: it finds no changed place, or reports the first one. -/
theorem checkSsdt_cases {agent : KernelWatchAgent} (hreference : agent.referenceSsdt ≠ []) (currentSsdt : List UInt64) :
    (changedPlaces agent.referenceSsdt currentSsdt = [] ∧ (agent.checkSsdt currentSsdt).2 = none) ∨
      ∃ first rest event detection, changedPlaces agent.referenceSsdt currentSsdt = first :: rest ∧
        (agent.checkSsdt currentSsdt).2 = some event ∧
        (agent.checkSsdt currentSsdt).1.detections = agent.detections ++ [detection] ∧
        detection.threatType = .ssdtHook ∧ detection.address = currentSsdt[first]?.getD 0 := by
  unfold checkSsdt
  simp only [if_neg hreference]
  cases hplaces : changedPlaces agent.referenceSsdt currentSsdt with
  | nil => exact .inl ⟨rfl, rfl⟩
  | cons first rest => exact .inr ⟨first, rest, _, _, rfl, rfl, rfl, rfl, rfl⟩

/-- With a snapshot, the check reports the divergences if and only if neither table is the other one with entries
added at the end. -/
theorem reportsDivergence_iff {agent : KernelWatchAgent} (hreference : agent.referenceSsdt ≠ [])
    (currentSsdt : List UInt64) :
    agent.ReportsDivergence currentSsdt ↔
      ¬ ProperPrefix currentSsdt agent.referenceSsdt ∧ ¬ ProperPrefix agent.referenceSsdt currentSsdt := by
  rcases checkSsdt_cases hreference currentSsdt with
    ⟨hplaces, hevent⟩ | ⟨first, rest, event, detection, hplaces, hevent, hdetections, htype, haddress⟩
  · -- nothing is found: the report is right when the tables are equal
    have hfront := changedPlaces_eq_nil_iff.1 hplaces
    constructor
    · intro hreports
      have hsame : currentSsdt = agent.referenceSsdt := by
        by_contra hdiffers
        have hsome := hreports.event.2 hdiffers
        rw [hevent] at hsome
        cases hsome
      exact ⟨fun h => h.2 hsame, fun h => h.2 hsame.symm⟩
    · rintro ⟨hmissing, hadded⟩
      have hsame : currentSsdt = agent.referenceSsdt := by
        by_contra hdiffers
        rcases hfront with hfront | hfront
        · exact hmissing ⟨hfront, hdiffers⟩
        · exact hadded ⟨hfront, Ne.symm hdiffers⟩
      refine ⟨?_, fun i entry hfirst _ => ?_⟩
      · rw [hevent]
        simp [hsame]
      · exact absurd (congrArg (·[i]?) hsame.symm) hfirst.differs
  · -- a changed place is found, so neither table is a prefix of the other
    have hfirst := firstDifferent_of_changedPlaces hplaces
    have hfront : ¬ (currentSsdt <+: agent.referenceSsdt ∨ agent.referenceSsdt <+: currentSsdt) := by
      rw [← changedPlaces_eq_nil_iff, hplaces]
      exact List.cons_ne_nil first rest
    rw [not_or] at hfront
    refine iff_of_true ⟨?_, ?_⟩ ⟨fun h => hfront.1 h.1, fun h => hfront.2 h.1⟩
    · rw [hevent]
      refine iff_of_true rfl fun hsame => hfront.1 ?_
      rw [hsame]
    · intro i entry hi hentry
      obtain rfl := hi.unique hfirst
      refine ⟨detection, hdetections, htype, ?_⟩
      rw [haddress, hentry, Option.getD_some]

/-- A snapshot of four entries, of which one is hooked. -/
theorem hooked_entry_reported :
    (KernelWatchAgent.new.snapshotSsdt [0x1000, 0x2000, 0x3000, 0x4000]).ReportsDivergence
      [0x1000, 0xDEADBEEF, 0x3000, 0x4000] :=
  (reportsDivergence_iff (by decide) _).2 ⟨by unfold ProperPrefix; decide, by unfold ProperPrefix; decide⟩

/-- An added entry is not reported. -/
theorem added_entry_unreported :
    ¬ (KernelWatchAgent.new.snapshotSsdt [0x1000, 0x2000]).ReportsDivergence [0x1000, 0x2000, 0xDEADBEEF] := by
  intro h
  have hevent := h.event.2 (by decide)
  revert hevent
  decide

end KernelWatchAgent

end OperatingOrganism.Immune

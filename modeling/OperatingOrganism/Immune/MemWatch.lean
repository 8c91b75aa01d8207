import OperatingOrganism.Immune.SwarmMind
import OperatingOrganism.Library.Windows

/-!
# The guard of the memory

`MemWatchAgent` looks for sixteen `NOP` bytes in a row in the region that it is given, and for the header of a program
at its start. It knows nothing of the regions before. A memory that is scanned region by region, each with the last
bytes of what comes before, shows every sled if and only if at least fifteen bytes are taken twice
(`scanAll_complete_iff`).
-/

set_option autoImplicit false

namespace OperatingOrganism.Immune

open OperatingOrganism.Windows

structure MemWatchAgent where
  threatsCaught : UInt64
  scansPerformed : UInt64
  deriving DecidableEq

/-- `{:016x}` -/
def hex16 (n : UInt64) : String := String.ofList ((Nat.toDigits 16 n.toNat).leftpad 16 '0')

namespace MemWatchAgent

/-- `MemWatchAgent::new` -/
def new : MemWatchAgent := ⟨0, 0⟩

/-- `nop_run` -/
def nopRun (region : List UInt8) : Bool := (windows 16 region).any fun w => w.all fun b => b == 0x90

/-- The agent has caught a threat at an address. -/
def report (agent : MemWatchAgent) (what : String) (addr : UInt64) (confidence : UInt8) :
    MemWatchAgent × Option SwarmEvent :=
  ({ agent with threatsCaught := agent.threatsCaught + 1 }, some
    { fromRole := .memWatch
      threatLevel := .alert
      description := what ++ " at 0x" ++ hex16 addr
      timestampNs := 0
      confidence := confidence
      signature := none })

/-- `scan_region` -/
def scanRegion (agent : MemWatchAgent) (region : List UInt8) (addr : UInt64) : MemWatchAgent × Option SwarmEvent :=
  let agent := { agent with scansPerformed := agent.scansPerformed + 1 }
  if nopRun region then agent.report "NOP sled detected" addr 75
  else if 2 ≤ region.length ∧ region[0]? = some 0x4D ∧ region[1]? = some 0x5A then
    agent.report "MZ header in unexpected region" addr 80
  else (agent, none)

/-- Regions, each with its address, one after the other. -/
def scanAll (agent : MemWatchAgent) : List (List UInt8 × UInt64) → MemWatchAgent × List SwarmEvent
  | [] => (agent, [])
  | (region, addr) :: regions =>
    let (agent, event) := agent.scanRegion region addr
    let (agent, events) := agent.scanAll regions
    (agent, event.toList ++ events)

/-! ### Sleds -/

/-- Sixteen `NOP` bytes. -/
def sled : List UInt8 := List.replicate 16 0x90

variable {agent : MemWatchAgent} {region : List UInt8} {regions : List (List UInt8 × UInt64)}

theorem nopRun_iff : nopRun region = true ↔ sled <:+: region := by
  rw [nopRun, List.any_eq_true]
  constructor
  · rintro ⟨w, hw, hall⟩
    obtain ⟨hpiece, hlength⟩ := mem_windows_iff.1 hw
    have hsled : w = sled := by
      apply List.eq_replicate_iff.2
      exact ⟨hlength, by simpa using hall⟩
    rwa [← hsled]
  · intro h
    exact ⟨sled, mem_windows_iff.2 ⟨h, rfl⟩, rfl⟩

/-- Only a sled is reported with this confidence. -/
theorem scanRegion_sled_iff (agent : MemWatchAgent) (region : List UInt8) (addr : UInt64) :
    (∃ event ∈ (agent.scanRegion region addr).2, event.confidence = 75) ↔ sled <:+: region := by
  rw [← nopRun_iff, scanRegion]
  split
  · next hrun => simp [report, hrun]
  · next hrun =>
    split
    · simp [report, hrun]
    · simp [hrun]

theorem scanAll_sled_iff (agent : MemWatchAgent) (regions : List (List UInt8 × UInt64)) :
    (∃ event ∈ (agent.scanAll regions).2, event.confidence = 75) ↔ ∃ r ∈ regions.map Prod.fst, sled <:+: r := by
  induction regions generalizing agent with
  | nil => simp [scanAll]
  | cons entry regions ih =>
    obtain ⟨region, addr⟩ := entry
    have hfirst := scanRegion_sled_iff agent region addr
    have hrest := ih (agent.scanRegion region addr).1
    simp only [scanAll, List.mem_append, Option.mem_toList, or_and_right, exists_or, List.map_cons,
      List.exists_mem_cons_iff]
    rw [← hfirst, ← hrest]
    rfl

/-- Whatever the memory and wherever it is cut, its regions show a sled exactly when it has one, if and only if at
least fifteen bytes are taken twice. -/
theorem scanAll_complete_iff (overlap : Nat) :
    (∀ (agent : MemWatchAgent) (regions : List (List UInt8 × UInt64)) (pieces : List (List UInt8)),
      regions.map Prod.fst = overlapped overlap [] pieces →
        ((∃ event ∈ (agent.scanAll regions).2, event.confidence = 75) ↔ sled <:+: pieces.flatten)) ↔
      15 ≤ overlap := by
  have hsled : sled ≠ [] := List.cons_ne_nil _ _
  have hlength : sled.length = 16 := rfl
  constructor
  · intro hcomplete
    by_contra hfew
    have hcut := not_infix_overlapped_cut (k := overlap) hsled (by omega)
    -- a sled that is cut before its last byte
    have hregions : ((overlapped overlap [] [sled.dropLast, [sled.getLast hsled]]).map (·, (0 : UInt64))).map
        Prod.fst = overlapped overlap [] [sled.dropLast, [sled.getLast hsled]] := by
      simp [Function.comp_def]
    have hjoined : [sled.dropLast, [sled.getLast hsled]].flatten = sled := rfl
    have hfound := (hcomplete .new _ _ hregions).2 (by rw [hjoined])
    rw [scanAll_sled_iff, hregions] at hfound
    obtain ⟨r, hr, hpiece⟩ := hfound
    exact hcut r hr hpiece
  · -- fifteen bytes are one less than a sled, so that none falls between two regions
    intro hmany agent regions pieces hregions
    rw [scanAll_sled_iff, hregions]
    apply exists_overlapped_iff hsled
    omega

end MemWatchAgent

end OperatingOrganism.Immune

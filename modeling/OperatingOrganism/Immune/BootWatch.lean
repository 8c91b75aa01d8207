import Mathlib.Data.List.Induction
import OperatingOrganism.Immune.SwarmMind
import OperatingOrganism.Library.FirstMatch

/-!
# The guard of the boot files

`BootWatchAgent` compares the hash of a boot file with the one it was registered with. A file that is registered twice
has two entries, and only the first is ever checked: in every run a check is answered by the first registration, and
all files are intact if and only if each one was last seen as it was first registered (`bootWatch_answers`). The batch
scan hands the hashes that it expects back as the ones that it found. It makes every file intact, with no event,
whatever was found before, as long as no file was registered with two hashes (`mockScan_clears_iff`).
-/

set_option autoImplicit false

namespace OperatingOrganism.Immune

open OperatingOrganism.Execution OperatingOrganism.FirstMatch

inductive BootComponent where
  | mbrVbr | efiApplication | efiVariable | bootloader | ooKernel | ooManifest
  deriving DecidableEq, Repr

/-- `{:?}` -/
def BootComponent.debug : BootComponent → String
  | .mbrVbr => "MbrVbr"
  | .efiApplication => "EfiApplication"
  | .efiVariable => "EfiVariable"
  | .bootloader => "Bootloader"
  | .ooKernel => "OoKernel"
  | .ooManifest => "OoManifest"

abbrev FileHash : Type := Vector UInt8 32

structure BootFileEntry where
  component : BootComponent
  path : String
  expectedHash : FileHash
  currentHash : FileHash
  isIntact : Bool
  lastChecked : UInt64
  deriving DecidableEq

namespace BootFileEntry

/-- `BootFileEntry::new` -/
def new (component : BootComponent) (path : String) (hash : FileHash) : BootFileEntry :=
  ⟨component, path, hash, hash, true, 0⟩

/-- `check_integrity` -/
def checkIntegrity (entry : BootFileEntry) : Bool := entry.expectedHash = entry.currentHash

/-- The entry with the hash that was found. -/
def checked (actualHash : FileHash) (entry : BootFileEntry) : BootFileEntry :=
  let entry := { entry with currentHash := actualHash, lastChecked := 0 }
  { entry with isIntact := entry.checkIntegrity }

end BootFileEntry

structure BootWatchAgent where
  watched : List BootFileEntry
  violations : List String
  totalChecks : UInt64
  violationsCount : UInt64
  deriving DecidableEq

/-- `violation` -/
def violationText (component : BootComponent) (path : String) : String :=
  "Boot file modified: " ++ component.debug ++ " at '" ++ path ++ "'"

def violationEvent (component : BootComponent) (path : String) : SwarmEvent where
  fromRole := .bootWatch
  threatLevel := if component ∈ [.ooKernel, .ooManifest] then .confinement else .combat
  description := violationText component path
  timestampNs := 0
  confidence := 99
  signature := none

namespace BootWatchAgent

/-- `BootWatchAgent::new` -/
def new : BootWatchAgent := ⟨[], [], 0, 0⟩

/-- `watch` -/
def watch (agent : BootWatchAgent) (component : BootComponent) (path : String) (expectedHash : FileHash) :
    BootWatchAgent :=
  { agent with watched := agent.watched ++ [.new component path expectedHash] }

/-- `default_hash` -/
def defaultHash : FileHash := Vector.replicate 32 0xAB

/-- `defaults` -/
def ooDefaults : List (BootComponent × String) :=
  [(.ooKernel, "\\EFI\\BOOT\\KERNEL.EFI"), (.ooManifest, "\\ORGANISM_MANIFEST.md"),
    (.efiApplication, "\\EFI\\BOOT\\BOOTX64.EFI"), (.mbrVbr, "\\MBR")]

/-- `watch_oo_defaults` -/
def watchOoDefaults (agent : BootWatchAgent) : BootWatchAgent :=
  ooDefaults.foldl (fun agent file => agent.watch file.1 file.2 defaultHash) agent

/-- `verify_file` -/
def verifyFile (agent : BootWatchAgent) (path : String) (actualHash : FileHash) :
    BootWatchAgent × Option SwarmEvent :=
  let agent := { agent with totalChecks := agent.totalChecks + 1 }
  match agent.watched.find? fun entry => entry.path = path with
  | none => (agent, none)
  | some entry =>
    let entry := entry.checked actualHash
    let agent :=
      { agent with watched := modifyFirst BootFileEntry.path (BootFileEntry.checked actualHash) agent.watched path }
    if entry.isIntact then (agent, none)
    else
      ({ agent with
          violationsCount := agent.violationsCount + 1
          violations := agent.violations ++ [violationText entry.component path] },
        some (violationEvent entry.component path))

/-- The loop of `verify_all_with_mock`. -/
def verifyEach (agent : BootWatchAgent) : List (String × FileHash) → BootWatchAgent × List SwarmEvent
  | [] => (agent, [])
  | (path, hash) :: files =>
    let (agent, event) := agent.verifyFile path hash
    let (agent, events) := agent.verifyEach files
    (agent, event.toList ++ events)

/-- `verify_all_with_mock` -/
def verifyAllWithMock (agent : BootWatchAgent) : BootWatchAgent × List SwarmEvent :=
  agent.verifyEach (agent.watched.map fun entry => (entry.path, entry.expectedHash))

/-- `all_intact` -/
def allIntact (agent : BootWatchAgent) : Bool := agent.watched.all BootFileEntry.isIntact

end BootWatchAgent

inductive BootOp where
  | watch (component : BootComponent) (path : String) (expectedHash : FileHash)
  | watchOoDefaults
  | verifyFile (path : String) (actualHash : FileHash)
  | verifyAllWithMock

/-! ### What was registered and seen -/

structure Registration where
  component : BootComponent
  path : String
  hash : FileHash
  deriving DecidableEq

/-- All registrations in their order, the hash that was last found for each path, and all violations. -/
structure BootLedger where
  registered : List Registration
  seen : String → Option FileHash
  violations : List SwarmEvent

namespace BootLedger

def initial : BootLedger := ⟨[], fun _ => none, []⟩

/-- The registration that counts. -/
def first (ledger : BootLedger) (path : String) : Option Registration := ledger.registered.find? fun r => r.path = path

/-- A check is answered by the first registration. -/
def answer (ledger : BootLedger) (path : String) (hash : FileHash) : Option SwarmEvent :=
  (ledger.first path).bind fun r => if r.hash = hash then none else some (violationEvent r.component path)

def register (ledger : BootLedger) (r : Registration) : BootLedger :=
  { ledger with registered := ledger.registered ++ [r] }

/-- A hash was found for a path. -/
def verify (ledger : BootLedger) (path : String) (hash : FileHash) : BootLedger :=
  { ledger with
    seen := if (ledger.first path).isSome then Function.update ledger.seen path (some hash) else ledger.seen
    violations := ledger.violations ++ (ledger.answer path hash).toList }

def next (ledger : BootLedger) : BootOp → BootLedger
  | .watch component path expectedHash => ledger.register ⟨component, path, expectedHash⟩
  | .watchOoDefaults =>
    BootWatchAgent.ooDefaults.foldl
      (fun ledger file => ledger.register ⟨file.1, file.2, BootWatchAgent.defaultHash⟩) ledger
  | .verifyFile path actualHash => ledger.verify path actualHash
  | .verifyAllWithMock => ledger.registered.foldl (fun ledger r => ledger.verify r.path r.hash) ledger

/-- Every file was last seen as it was first registered. -/
def Intact (ledger : BootLedger) : Prop :=
  ∀ path r hash, ledger.first path = some r → ledger.seen path = some hash → hash = r.hash

/-- No file was registered with two hashes. -/
def Consistent (ledger : BootLedger) : Prop :=
  ∀ r ∈ ledger.registered, ∀ r' ∈ ledger.registered, r.path = r'.path → r.hash = r'.hash

end BootLedger

def BootOp.run (agent : BootWatchAgent) : BootOp → BootWatchAgent
  | .watch component path expectedHash => agent.watch component path expectedHash
  | .watchOoDefaults => agent.watchOoDefaults
  | .verifyFile path actualHash => (agent.verifyFile path actualHash).1
  | .verifyAllWithMock => agent.verifyAllWithMock.1

abbrev BootRecord := BootWatchAgent × BootLedger

def BootOp.recorded (st : BootRecord) (op : BootOp) : BootRecord := (op.run st.1, st.2.next op)

def BootStep (st : BootRecord) (op : BootOp) (st' : BootRecord) : Prop := st' = op.recorded st

def bootRun (ops : List BootOp) : List (BootOp × BootRecord) := driven BootOp.recorded (.new, .initial) ops

theorem exec_bootRun (ops : List BootOp) : Exec BootStep (.new, .initial) (bootRun ops) :=
  @exec_driven _ _ BootStep BootOp.recorded (fun _ _ => rfl) (BootWatchAgent.new, BootLedger.initial) ops

/-- A check is answered by the first registration, and a scan by those that differ from the first one. -/
def AnsweredByRegistration (st : BootRecord) : BootOp → Prop
  | .verifyFile path actualHash => (st.1.verifyFile path actualHash).2 = st.2.answer path actualHash
  | .verifyAllWithMock => st.1.verifyAllWithMock.2 = st.2.registered.filterMap fun r => st.2.answer r.path r.hash
  | _ => True

/-! ### Entries and registrations -/

def BootFileEntry.registration (entry : BootFileEntry) : Registration :=
  ⟨entry.component, entry.path, entry.expectedHash⟩

@[simp] theorem BootFileEntry.path_checked (hash : FileHash) (entry : BootFileEntry) :
    (entry.checked hash).path = entry.path := rfl

@[simp] theorem BootFileEntry.registration_checked (hash : FileHash) (entry : BootFileEntry) :
    (entry.checked hash).registration = entry.registration := rfl

/-- The entries are the registrations, and an entry is intact unless it is the first one of its path and another hash
was found there. -/
structure Tracks (st : BootRecord) : Prop where
  registered : st.1.watched.map BootFileEntry.registration = st.2.registered
  intact : ∀ i entry, st.1.watched[i]? = some entry →
    (entry.isIntact = true ↔
      (IsFirst BootFileEntry.path st.1.watched i → ∀ hash, st.2.seen entry.path = some hash →
        hash = entry.expectedHash))
  seen : ∀ path hash, st.2.seen path = some hash → (st.2.first path).isSome
  violations : st.1.violations = st.2.violations.map SwarmEvent.description
  count : st.1.violationsCount = UInt64.ofNat st.2.violations.length

namespace BootWatchAgent

variable {st : BootRecord} {agent : BootWatchAgent} {path : String} {hash : FileHash}

theorem Tracks.first_eq (h : Tracks st) (path : String) :
    st.2.first path = (st.1.watched.find? fun entry => entry.path = path).map BootFileEntry.registration := by
  rw [BootLedger.first, ← h.registered, List.find?_map]
  rfl

theorem Tracks.watch (h : Tracks st) (component : BootComponent) (path : String) (hash : FileHash) :
    Tracks (st.1.watch component path hash, st.2.register ⟨component, path, hash⟩) where
  registered := by
    simp only [BootWatchAgent.watch, BootLedger.register, List.map_append, h.registered]
    rfl
  intact := by
    intro i entry hentry
    simp only [BootWatchAgent.watch, BootLedger.register] at hentry ⊢
    rcases Nat.lt_trichotomy i st.1.watched.length with hi | rfl | hi
    · rw [List.getElem?_append_left hi] at hentry
      rw [isFirst_append_iff hi]
      exact h.intact i entry hentry
    · -- a path that was seen has an entry before the new one
      simp only [List.getElem?_concat_length, Option.some.injEq] at hentry
      subst hentry
      refine iff_of_true rfl ?_
      intro hfirst found hfound
      have hsome := h.seen _ found hfound
      rw [Tracks.first_eq h, Option.isSome_map, List.find?_isSome] at hsome
      obtain ⟨entry, hentry, hpath⟩ := hsome
      exact absurd (of_decide_eq_true hpath) (isFirst_length_iff.1 hfirst entry hentry)
    · have hlength : (st.1.watched ++ [BootFileEntry.new component path hash]).length ≤ i := by
        simpa [Nat.succ_le_iff] using hi
      rw [List.getElem?_eq_none hlength] at hentry
      cases hentry
  seen := by
    intro path' found hfound
    have hsome := h.seen path' found hfound
    rw [BootLedger.first, List.find?_isSome] at hsome ⊢
    obtain ⟨r, hr, hpath⟩ := hsome
    exact ⟨r, List.mem_append_left _ hr, hpath⟩
  violations := h.violations
  count := h.count

theorem Tracks.watchOoDefaults (h : Tracks st) : Tracks (BootOp.recorded st .watchOoDefaults) := by
  have hfold : ∀ (files : List (BootComponent × String)) (st : BootRecord), Tracks st →
      Tracks (files.foldl (fun agent file => agent.watch file.1 file.2 defaultHash) st.1,
        files.foldl (fun ledger file => ledger.register ⟨file.1, file.2, defaultHash⟩) st.2) := by
    intro files
    induction files with
    | nil => exact fun _ hst => hst
    | cons file files ih => exact fun st hst => ih _ (Tracks.watch hst file.1 file.2 defaultHash)
  exact hfold ooDefaults st h

/-- The found hash is seen at the first entry of the path. -/
theorem Tracks.checked (h : Tracks st) (path : String) (hash : FileHash) :
    ∀ i entry', (modifyFirst BootFileEntry.path (BootFileEntry.checked hash) st.1.watched path)[i]? = some entry' →
      (entry'.isIntact = true ↔
        (IsFirst BootFileEntry.path (modifyFirst BootFileEntry.path (BootFileEntry.checked hash) st.1.watched path) i →
          ∀ found, Function.update st.2.seen path (some hash) entry'.path = some found →
            found = entry'.expectedHash)) := by
  intro i entry' hentry'
  rw [getElem?_modifyFirst, Option.map_eq_some_iff] at hentry'
  obtain ⟨old, hold, rfl⟩ := hentry'
  rw [isFirst_modifyFirst_iff (BootFileEntry.path_checked hash)]
  -- only the first entry of the path was written
  by_cases hplace : IsFirst BootFileEntry.path st.1.watched i ∧ old.path = path
  · rw [if_pos hplace]
    simp [BootFileEntry.checked, BootFileEntry.checkIntegrity, hplace.1, hplace.2, eq_comm]
  · rw [if_neg hplace, h.intact i old hold]
    apply imp_congr_right
    intro hfirst
    have hother : old.path ≠ path := fun hpath => hplace ⟨hfirst, hpath⟩
    rw [Function.update_of_ne hother]

/-- A check is answered by the first registration, and the found hash is recorded. -/
theorem Tracks.verify (h : Tracks st) (path : String) (hash : FileHash) :
    (st.1.verifyFile path hash).2 = st.2.answer path hash ∧
      Tracks ((st.1.verifyFile path hash).1, st.2.verify path hash) := by
  have hfirst := Tracks.first_eq h path
  simp only [verifyFile, BootLedger.answer, BootLedger.verify, hfirst]
  cases hfind : st.1.watched.find? fun entry => entry.path = path with
  | none => exact ⟨rfl, h.registered, h.intact, h.seen, by simp [h.violations], by simp [h.count]⟩
  | some entry =>
    have hregistered : (modifyFirst BootFileEntry.path (BootFileEntry.checked hash) st.1.watched path).map
        BootFileEntry.registration = st.2.registered :=
      (map_modifyFirst_of_keeps (BootFileEntry.registration_checked hash) _ _).trans h.registered
    -- what was seen belongs to a registration: here the one that was found
    have hseen : ∀ path' found, Function.update st.2.seen path (some hash) path' = some found →
        (st.2.first path').isSome := by
      intro path' found hfound
      by_cases hpath : path' = path
      · rw [hpath, hfirst, hfind]
        rfl
      · rw [Function.update_of_ne hpath] at hfound
        exact h.seen path' found hfound
    have hchecked := Tracks.checked h path hash
    simp only [Option.map_some, Option.bind_some, Option.isSome_some, if_true, BootFileEntry.registration,
      BootFileEntry.checked, BootFileEntry.checkIntegrity, decide_eq_true_eq]
    by_cases hsame : entry.expectedHash = hash
    · rw [if_pos hsame, if_pos hsame]
      exact ⟨rfl, hregistered, hchecked, hseen, by simp [h.violations], by simp [h.count]⟩
    · rw [if_neg hsame, if_neg hsame]
      exact ⟨rfl, hregistered, hchecked, hseen, by simp [h.violations, violationEvent], by simp [h.count]⟩

/-- The checks of a scan, one after the other. -/
theorem Tracks.verifyEach (h : Tracks st) (files : List Registration) :
    (st.1.verifyEach (files.map fun r => (r.path, r.hash))).2 = files.filterMap (fun r => st.2.answer r.path r.hash) ∧
      Tracks ((st.1.verifyEach (files.map fun r => (r.path, r.hash))).1,
        files.foldl (fun ledger r => ledger.verify r.path r.hash) st.2) := by
  induction files generalizing st with
  | nil => exact ⟨rfl, h⟩
  | cons r files ih =>
    obtain ⟨hanswer, hverified⟩ := Tracks.verify h r.path r.hash
    obtain ⟨hanswers, hall⟩ := ih hverified
    refine ⟨?_, hall⟩
    -- a check leaves the registrations as they are, and with them the answers to come
    have hsplit : (st.1.verifyEach ((r :: files).map fun r => (r.path, r.hash))).2 =
        (st.2.answer r.path r.hash).toList ++ files.filterMap fun r => st.2.answer r.path r.hash := by
      rw [← hanswer]
      exact congrArg _ hanswers
    rw [hsplit, List.filterMap_cons]
    cases st.2.answer r.path r.hash <;> rfl

theorem Tracks.files_eq (h : Tracks st) :
    st.1.watched.map (fun entry => (entry.path, entry.expectedHash)) =
      st.2.registered.map fun r => (r.path, r.hash) := by
  rw [← h.registered, List.map_map]
  rfl

theorem Tracks.verifyAllWithMock (h : Tracks st) :
    AnsweredByRegistration st .verifyAllWithMock ∧ Tracks (BootOp.recorded st .verifyAllWithMock) := by
  have hscan := Tracks.verifyEach h st.2.registered
  rw [← Tracks.files_eq h] at hscan
  exact hscan

theorem tracks_recorded (h : Tracks st) (op : BootOp) : Tracks (op.recorded st) := by
  cases op with
  | watch component path expectedHash => exact Tracks.watch h component path expectedHash
  | watchOoDefaults => exact Tracks.watchOoDefaults h
  | verifyFile path actualHash => exact (Tracks.verify h path actualHash).2
  | verifyAllWithMock => exact (Tracks.verifyAllWithMock h).2

theorem tracks_new : Tracks (.new, .initial) where
  registered := rfl
  intact := by
    intro i entry hentry
    cases hentry
  seen := by
    intro path hash hseen
    cases hseen
  violations := rfl
  count := rfl

/-- All files are intact if the first entry of each path is. -/
theorem Tracks.allIntact_iff (h : Tracks st) : st.1.allIntact = true ↔ st.2.Intact := by
  rw [allIntact, List.all_eq_true]
  constructor
  · intro hall path r hash hr hhash
    rw [Tracks.first_eq h, Option.map_eq_some_iff] at hr
    obtain ⟨entry, hfind, rfl⟩ := hr
    obtain ⟨i, hentry, hfirst, rfl⟩ := find?_eq_some_iff_isFirst.1 hfind
    exact (h.intact i entry hentry).1 (hall entry (List.mem_of_getElem? hentry)) hfirst hash hhash
  · intro hintact entry hmem
    obtain ⟨i, hentry⟩ := List.getElem?_of_mem hmem
    apply (h.intact i entry hentry).2
    intro hfirst hash hhash
    -- only the first entry of a path can be damaged
    have hfind := find?_eq_some_iff_isFirst.2 ⟨i, hentry, hfirst, rfl⟩
    apply hintact entry.path entry.registration hash ?_ hhash
    rw [Tracks.first_eq h, hfind]
    rfl

/-- In every run, each check and each scan is answered by the first registrations, all files are intact if and only if
each was last seen as it was first registered, and the violations are those that were reported. -/
theorem bootWatch_answers {tr : List (BootOp × BootRecord)} (h : Exec BootStep (.new, .initial) tr) :
    AllSteps AnsweredByRegistration (.new, .initial) tr ∧
      AllStates (fun st => (st.1.allIntact = true ↔ st.2.Intact) ∧
        st.1.violations = st.2.violations.map SwarmEvent.description) (.new, .initial) tr := by
  have hkept : ∀ st op st', Tracks st → BootStep st op st' → Tracks st' := by
    rintro st op _ hst rfl
    exact tracks_recorded hst op
  refine ⟨h.allSteps_of_invariant tracks_new hkept ?_,
    (h.invariant tracks_new hkept).imp fun st hst => ⟨Tracks.allIntact_iff hst, hst.violations⟩⟩
  intro st op hst
  cases op with
  | verifyFile path actualHash => exact (Tracks.verify hst path actualHash).1
  | verifyAllWithMock => exact (Tracks.verifyAllWithMock hst).1
  | _ => trivial

/-- A kernel that is found changed, and a scan. -/
theorem bootWatch_answers_tampered :
    let tr := bootRun [.watchOoDefaults, .verifyFile "\\EFI\\BOOT\\KERNEL.EFI" (Vector.replicate 32 0xFF),
      .verifyAllWithMock]
    AllSteps AnsweredByRegistration (.new, .initial) tr ∧
      AllStates (fun st => (st.1.allIntact = true ↔ st.2.Intact) ∧
        st.1.violations = st.2.violations.map SwarmEvent.description) (.new, .initial) tr :=
  bootWatch_answers (exec_bootRun _)

/-! ### The batch scan -/

section Scan

variable {ledger : BootLedger} {files : List Registration} {r : Registration}

theorem first_foldl_verify (files : List Registration) (ledger : BootLedger) (path : String) :
    (files.foldl (fun ledger r => ledger.verify r.path r.hash) ledger).first path = ledger.first path := by
  induction files generalizing ledger with
  | nil => rfl
  | cons r files ih => exact ih (ledger.verify r.path r.hash)

/-- After a scan a file was seen with one of the hashes that it was registered with. -/
theorem seen_foldl_verify (hr : r ∈ files) (hwatched : ∀ r ∈ files, (ledger.first r.path).isSome) :
    ∃ r' ∈ files, r'.path = r.path ∧
      (files.foldl (fun ledger r => ledger.verify r.path r.hash) ledger).seen r.path = some r'.hash := by
  -- from the end: a file that is not scanned again was seen last at its own place
  induction files using List.reverseRecOn with
  | nil => cases hr
  | append_singleton files last ih =>
    have hlast : (ledger.first last.path).isSome := hwatched last (by simp)
    rw [List.foldl_append, List.foldl_cons, List.foldl_nil, BootLedger.verify, first_foldl_verify, if_pos hlast]
    by_cases hpath : r.path = last.path
    · refine ⟨last, by simp, hpath.symm, ?_⟩
      rw [hpath]
      exact Function.update_self _ _ _
    · have hmem : r ∈ files := by
        rcases List.mem_append.1 hr with hmem | hmem
        · exact hmem
        · exact absurd (congrArg Registration.path (List.mem_singleton.1 hmem)) hpath
      obtain ⟨r', hr', hsame, hseen⟩ := ih hmem fun r hr => hwatched r (List.mem_append_left _ hr)
      refine ⟨r', List.mem_append_left _ hr', hsame, ?_⟩
      rw [← hseen]
      exact Function.update_of_ne hpath _ _

theorem exists_first (hr : r ∈ ledger.registered) :
    ∃ r', ledger.first r.path = some r' ∧ r' ∈ ledger.registered ∧ r'.path = r.path := by
  have hsome : (ledger.first r.path).isSome := by
    rw [BootLedger.first, List.find?_isSome]
    exact ⟨r, hr, decide_eq_true rfl⟩
  obtain ⟨r', hfirst⟩ := Option.isSome_iff_exists.1 hsome
  exact ⟨r', hfirst, List.mem_of_find?_eq_some hfirst, by simpa using List.find?_some hfirst⟩

/-- A scan reports nothing exactly when no file was registered with two hashes. -/
theorem scan_silent_iff :
    ledger.registered.filterMap (fun r => ledger.answer r.path r.hash) = [] ↔ ledger.Consistent := by
  rw [List.filterMap_eq_nil_iff]
  have hanswer : ∀ r r' : Registration, ledger.first r.path = some r' →
      (ledger.answer r.path r.hash = none ↔ r'.hash = r.hash) := by
    intro r r' hfirst
    simp [BootLedger.answer, hfirst]
  constructor
  · intro hsilent r hr r' hr' hpath
    obtain ⟨first, hfirst, -, -⟩ := exists_first hr
    -- both hashes are that of the first registration of the path
    have hleft := (hanswer r first hfirst).1 (hsilent r hr)
    rw [hpath] at hfirst
    exact hleft.symm.trans ((hanswer r' first hfirst).1 (hsilent r' hr'))
  · intro hconsistent r hr
    obtain ⟨first, hfirst, hmem, hpath⟩ := exists_first hr
    exact (hanswer r first hfirst).2 (hconsistent first hmem r hr hpath)

/-- Then every file is intact after it. -/
theorem intact_scan (h : ledger.Consistent) :
    (ledger.registered.foldl (fun ledger r => ledger.verify r.path r.hash) ledger).Intact := by
  intro path r hash hfirst hseen
  rw [first_foldl_verify] at hfirst
  have hmem := List.mem_of_find?_eq_some hfirst
  have hpath : r.path = path := by simpa using List.find?_some hfirst
  have hwatched : ∀ r ∈ ledger.registered, (ledger.first r.path).isSome := by
    intro r hr
    obtain ⟨first, hfirst, -, -⟩ := exists_first hr
    rw [hfirst]
    rfl
  obtain ⟨r', hr', hsame, hfound⟩ := seen_foldl_verify hmem hwatched
  rw [hpath, hseen, Option.some.injEq] at hfound
  rw [hfound]
  exact h r' hr' r hmem hsame

end Scan

/-- In every run, wherever it stands: a batch scan reports nothing and leaves all files intact, whatever was found
before, if and only if no file was registered with two hashes. -/
theorem mockScan_clears_iff {tr : List (BootOp × BootRecord)} (h : Exec BootStep (.new, .initial) tr) :
    AllStates (fun st => (st.1.verifyAllWithMock.2 = [] ∧ st.1.verifyAllWithMock.1.allIntact = true) ↔
      st.2.Consistent) (.new, .initial) tr := by
  have hkept : ∀ st op st', Tracks st → BootStep st op st' → Tracks st' := by
    rintro st op _ hst rfl
    exact tracks_recorded hst op
  apply (h.invariant tracks_new hkept).imp
  intro st hst
  obtain ⟨hanswers, hscanned⟩ := Tracks.verifyAllWithMock hst
  have hintact : st.1.verifyAllWithMock.1.allIntact = true ↔ _ := Tracks.allIntact_iff hscanned
  rw [hintact, show st.1.verifyAllWithMock.2 = _ from hanswers, scan_silent_iff]
  exact and_iff_left_of_imp intact_scan

/-- A kernel that was found changed is intact after a scan. -/
theorem mockScan_clears_tampered :
    AllStates (fun st => (st.1.verifyAllWithMock.2 = [] ∧ st.1.verifyAllWithMock.1.allIntact = true) ↔
      st.2.Consistent) (.new, .initial)
      (bootRun [.watchOoDefaults, .verifyFile "\\EFI\\BOOT\\KERNEL.EFI" (Vector.replicate 32 0xFF)]) :=
  mockScan_clears_iff (exec_bootRun _)

end BootWatchAgent

end OperatingOrganism.Immune

import Mathlib.Algebra.GroupWithZero.Nat
import Mathlib.Algebra.Ring.Int.Defs
import OperatingOrganism.Library.Buckets
import OperatingOrganism.Library.Execution

/-!
# Indexes of the pattern store

`PatternStore` keeps its entries under their ids, and lists of ids for each status, each of the eight domains and each
severity. A call changes an entry in place and rebuilds the lists at its end. `update` assigns its keyword arguments
one by one: an assignment that raises, as to the read-only `is_active`, leaves the entry changed and the lists as they
were. And a rebuild that raises, at a value with neither bits nor hash, leaves the lists cut off there. The indexes
are exact in every state if and only if what is left behind by such a call makes no difference to them
(`indexesExact_iff`).

Of the entries, the model has what the indexes read. A keyword is a name and a value; what an assignment to an
attribute of every Python object does (`__dict__`, `__class__` and the like) is a parameter. Whether the file can be
written has no influence on the indexes, which have been rebuilt by then.
-/

set_option autoImplicit false

namespace OperatingOrganism.Adaptive

inductive PatternStatus where
  | testing | validated | mutating | archived | fused
  deriving DecidableEq, Repr

def PatternStatus.toInt : PatternStatus → Int
  | .testing => 0
  | .validated => 1
  | .mutating => 2
  | .archived => 3
  | .fused => 4

end OperatingOrganism.Adaptive

namespace OperatingOrganism.Adaptive.Indexes

open OperatingOrganism.Execution

/-! ### Values -/

/-- A value: an integer (a truth value and a member of an enumeration are integers), a float that is equal to one,
another hashable value, or one that is not hashable. -/
inductive PyValue where
  | int (n : Int)
  | float (n : Int)
  | hashable (id : Nat)
  | unhashable
  deriving DecidableEq

/-- What a value is as a key of a dictionary: equal numbers are one key. -/
inductive PyKey where
  | number (n : Int)
  | other (id : Nat)
  deriving DecidableEq

/-- The key that a value is; `none` is a `TypeError`. -/
def PyValue.key? : PyValue → Option PyKey
  | .int n => some (.number n)
  | .float n => some (.number n)
  | .hashable id => some (.other id)
  | .unhashable => none

/-- The integer whose bits are tested; `none` is a `TypeError`. -/
def PyValue.bits? : PyValue → Option Int
  | .int n => some n
  | _ => none

/-- `n & (1 << bit)` -/
def hasBit (n : Int) (bit : Nat) : Bool := n / 2 ^ bit % 2 = 1

/-- The attributes of a `StoreEntry` that the indexes read. A missing one is a value with neither bits nor hash. -/
structure StoreEntry where
  patternId : String
  threatDomain : PyValue
  severity : PyValue
  status : PyValue
  deriving DecidableEq

namespace StoreEntry

def hasStatus (n : Int) (e : StoreEntry) : Bool := e.status.key? = some (.number n)

def hasDomain (bit : Nat) (e : StoreEntry) : Bool := e.threatDomain.bits?.any fun n => hasBit n bit

/-- The rebuild goes over the entry without an exception. -/
def indexable (e : StoreEntry) : Bool :=
  e.threatDomain.bits?.isSome && e.status.key?.isSome && e.severity.key?.isSome

end StoreEntry

/-! ### The store -/

structure PatternStore where
  entries : InsertionDict String StoreEntry
  byDomain : Buckets Nat String
  byStatus : Buckets PyKey String
  bySeverity : Buckets PyKey String

namespace PatternStore

/-- One entry in `_rebuild_indexes`, and whether it got through. -/
def indexEntry (store : PatternStore) (eid : String) (e : StoreEntry) : PatternStore × Bool :=
  match e.threatDomain.bits? with
  | none => (store, false)
  | some n =>
    let store := { store with
      byDomain := (List.range 8).foldl
        (fun d bit => if hasBit n bit then d.append (2 ^ bit) eid else d) store.byDomain }
    match e.status.key? with
    | none => (store, false)
    | some status =>
      let store := { store with byStatus := store.byStatus.append status eid }
      match e.severity.key? with
      | none => (store, false)
      | some severity => ({ store with bySeverity := store.bySeverity.append severity eid }, true)

/-- The loop of `_rebuild_indexes`, which an exception leaves. -/
def indexAll : PatternStore → List (String × StoreEntry) → PatternStore × Bool
  | store, [] => (store, true)
  | store, (eid, e) :: rest =>
    match store.indexEntry eid e with
    | (store, true) => store.indexAll rest
    | (store, false) => (store, false)

/-- `_rebuild_indexes` -/
def rebuildIndexes (store : PatternStore) : PatternStore × Bool :=
  { store with byDomain := .empty, byStatus := .empty, bySeverity := .empty }.indexAll store.entries.items

/-- A store that has loaded its entries. -/
def opened (entries : InsertionDict String StoreEntry) : PatternStore :=
  (rebuildIndexes ⟨entries, .empty, .empty, .empty⟩).1

/-- `by_status` -/
def queryStatus (store : PatternStore) (status : Int) : List StoreEntry :=
  (store.byStatus.list (.number status)).filterMap store.entries.get?

/-- `by_domain` -/
def queryDomain (store : PatternStore) (domainBit : Nat) : List StoreEntry :=
  (store.byDomain.list domainBit).filterMap store.entries.get?

end PatternStore

/-- How a call ends. -/
inductive CallResult where
  | returned (result : Bool)
  | raised
  deriving DecidableEq

namespace PatternStore

/-- The end of a call that has changed the entries: the rebuild, and the attempt to save. -/
def rebuildAndSave (store : PatternStore) (saved : Bool) : PatternStore × CallResult :=
  match store.rebuildIndexes with
  | (store, true) => (store, if saved then .returned true else .raised)
  | (store, false) => (store, .raised)

/-- `add` -/
def add (store : PatternStore) (entry : StoreEntry) (saved : Bool) : PatternStore × CallResult :=
  if (store.entries.get? entry.patternId).isSome then (store, .returned false)
  else { store with entries := store.entries.set entry.patternId entry }.rebuildAndSave saved

end PatternStore

/-- What an assignment to an attribute of every object does to an entry; `none` is an exception. -/
abbrev SpecialSetter := String → PyValue → StoreEntry → Option StoreEntry

/-- `if hasattr(e, k): setattr(e, k, v)`: the properties are read-only, and names that the class does not have are
skipped. -/
def StoreEntry.setAttr (special : SpecialSetter) (e : StoreEntry) (name : String) (v : PyValue) : Option StoreEntry :=
  if name = "threat_domain" then some { e with threatDomain := v }
  else if name = "severity" then some { e with severity := v }
  else if name = "status" then some { e with status := v }
  else if name = "is_active" ∨ name = "false_positive_rate" then none
  else if "__".toList <+: name.toList then special name v e
  else some e

/-- The loop over the keyword arguments, which an exception leaves. -/
def StoreEntry.assignAll (special : SpecialSetter) : StoreEntry → List (String × PyValue) → StoreEntry × Bool
  | e, [] => (e, true)
  | e, (name, v) :: rest =>
    match e.setAttr special name v with
    | some e => e.assignAll special rest
    | none => (e, false)

namespace PatternStore

/-- `update`; a keyword that is the name of a parameter is refused by the call itself. -/
def update (special : SpecialSetter) (store : PatternStore) (patternId : String) (kwargs : List (String × PyValue))
    (saved : Bool) : PatternStore × CallResult :=
  if kwargs.any fun kv => kv.1 = "self" || kv.1 = "pattern_id" then (store, .raised)
  else
    match store.entries.get? patternId with
    | none => (store, .returned false)
    | some e =>
      match e.assignAll special kwargs with
      | (e, true) => { store with entries := store.entries.set patternId e }.rebuildAndSave saved
      | (e, false) => ({ store with entries := store.entries.set patternId e }, .raised)

end PatternStore

/-- `set_status`, whose reason is only printed. -/
def PatternStore.setStatus (special : SpecialSetter) (store : PatternStore) (patternId : String)
    (status : PatternStatus) (saved : Bool) : PatternStore × CallResult :=
  store.update special patternId [("status", .int status.toInt)] saved

inductive StoreOp where
  | add (entry : StoreEntry) (saved : Bool)
  | update (patternId : String) (kwargs : List (String × PyValue)) (saved : Bool)
  | setStatus (patternId : String) (status : PatternStatus) (saved : Bool)

def StoreOp.run (special : SpecialSetter) (store : PatternStore) : StoreOp → PatternStore × CallResult
  | .add entry saved => store.add entry saved
  | .update patternId kwargs saved => store.update special patternId kwargs saved
  | .setStatus patternId status saved => store.setStatus special patternId status saved

def StoreStep (special : SpecialSetter) (store : PatternStore) (op : StoreOp) (store' : PatternStore) : Prop :=
  store' = (op.run special store).1

/-- The run of a list of calls on a store that has been opened. -/
def storeRun (special : SpecialSetter) (entries : InsertionDict String StoreEntry) (ops : List StoreOp) :
    List (StoreOp × PatternStore) :=
  driven (fun store op => (op.run special store).1) (.opened entries) ops

theorem exec_storeRun (special : SpecialSetter) (entries : InsertionDict String StoreEntry) (ops : List StoreOp) :
    Exec (StoreStep special) (.opened entries) (storeRun special entries ops) :=
  @exec_driven _ _ (StoreStep special) (fun store op => (op.run special store).1) (fun _ _ => rfl)
    (PatternStore.opened entries) ops

/-! ### Exact indexes -/

/-- Every query returns exactly the entries that it is for, each once, and every entry is stored under its own id. -/
structure IndexesExact (store : PatternStore) : Prop where
  status : ∀ n, (store.queryStatus n).Perm (store.entries.values.filter fun e => e.hasStatus n)
  domain : ∀ bit < 8, (store.queryDomain (2 ^ bit)).Perm (store.entries.values.filter fun e => e.hasDomain bit)
  ownId : ∀ id e, store.entries.get? id = some e → e.patternId = id

/-- Queries do not tell the two apart. -/
structure SameVisible (e e' : StoreEntry) : Prop where
  status : ∀ n, e'.hasStatus n = e.hasStatus n
  domain : ∀ bit < 8, e'.hasDomain bit = e.hasDomain bit

/-- No query is for the entry. -/
structure Invisible (e : StoreEntry) : Prop where
  status : ∀ n, e.hasStatus n = false
  domain : ∀ bit < 8, e.hasDomain bit = false

/-- The entries that a rebuild reaches: those that it gets through, and the next one, if its domains are read. -/
def reached : List (String × StoreEntry) → List (String × StoreEntry)
  | [] => []
  | x :: rest =>
    if x.2.indexable then x :: reached rest
    else if x.2.threatDomain.bits?.isSome then [x]
    else []

/-- The rebuild gets through, or no query is for the entries that it does not reach. -/
def RebuildHarmless (items : List (String × StoreEntry)) : Prop :=
  ∀ x ∈ items.drop (reached items).length, Invisible x.2

/-- What a call with keyword arguments leaves behind is indexed: when an assignment raises, the assignments before it
leave what the queries see; otherwise the rebuild is harmless. The entry keeps its id. -/
def UpdateHarmless (special : SpecialSetter) (store : PatternStore) (patternId : String)
    (kwargs : List (String × PyValue)) : Prop :=
  ∀ e, store.entries.get? patternId = some e →
    let assigned := e.assignAll special kwargs
    assigned.1.patternId = patternId ∧
      if assigned.2 then RebuildHarmless (store.entries.set patternId assigned.1).items
      else SameVisible e assigned.1

/-- The calls that leave the indexes exact. -/
def LeavesExact (special : SpecialSetter) (store : PatternStore) : StoreOp → Prop
  | .add entry _ =>
    store.entries.get? entry.patternId = none → RebuildHarmless (store.entries.items ++ [(entry.patternId, entry)])
  | .update patternId kwargs _ =>
    (∀ kv ∈ kwargs, kv.1 ≠ "self" ∧ kv.1 ≠ "pattern_id") → UpdateHarmless special store patternId kwargs
  | .setStatus patternId status _ => UpdateHarmless special store patternId [("status", .int status.toInt)]

/-! ### The rebuild -/

/-- The entries that every query on the status or a domain reads have their ids in the lists, in the order of the
store, and every entry is stored under its own id. -/
structure Indexed (store : PatternStore) : Prop where
  status : ∀ n, store.byStatus.list (.number n) =
    (store.entries.items.filter fun x => x.2.hasStatus n).map Prod.fst
  domain : ∀ bit < 8, store.byDomain.list (2 ^ bit) =
    (store.entries.items.filter fun x => x.2.hasDomain bit).map Prod.fst
  ownId : ∀ id e, store.entries.get? id = some e → e.patternId = id

theorem nodup_domains : ((List.range 8).map fun bit => 2 ^ bit).Nodup := by decide

theorem PatternStore.indexEntry_entries (store : PatternStore) (eid : String) (e : StoreEntry) :
    (store.indexEntry eid e).1.entries = store.entries := by
  rw [indexEntry]
  split
  · rfl
  · dsimp only
    split
    · rfl
    · split <;> rfl

theorem PatternStore.indexEntry_snd (store : PatternStore) (eid : String) (e : StoreEntry) :
    (store.indexEntry eid e).2 = e.indexable := by
  rw [indexEntry, StoreEntry.indexable]
  cases e.threatDomain.bits? with
  | none => rfl
  | some n =>
    cases e.status.key? with
    | none => rfl
    | some status => cases e.severity.key? <;> rfl

/-- Where the domains are read, the status has been filed too, if it is one that can be asked for. -/
theorem PatternStore.indexEntry_status (store : PatternStore) (eid : String) {e : StoreEntry}
    (hbits : e.threatDomain.bits?.isSome) (n : Int) :
    (store.indexEntry eid e).1.byStatus.list (.number n) =
      store.byStatus.list (.number n) ++ if e.hasStatus n then [eid] else [] := by
  obtain ⟨m, hm⟩ := Option.isSome_iff_exists.1 hbits
  rw [indexEntry, StoreEntry.hasStatus, hm]
  cases hstatus : e.status.key? with
  | none => simp
  | some status =>
    have hfiled : (store.byStatus.append status eid).list (.number n) =
        store.byStatus.list (.number n) ++ if some status = some (PyKey.number n) then [eid] else [] := by
      rw [Buckets.list_append]
      by_cases hs : PyKey.number n = status
      · rw [if_pos hs, hs, if_pos rfl]
      · rw [if_neg hs, if_neg fun h => hs (Option.some.inj h).symm, List.append_nil]
    simp only [decide_eq_true_eq]
    cases e.severity.key? with
    | none => exact hfiled
    | some severity => exact hfiled

theorem PatternStore.indexEntry_domain (store : PatternStore) (eid : String) {e : StoreEntry}
    (hbits : e.threatDomain.bits?.isSome) {bit : Nat} (hbit : bit < 8) :
    (store.indexEntry eid e).1.byDomain.list (2 ^ bit) =
      store.byDomain.list (2 ^ bit) ++ if e.hasDomain bit then [eid] else [] := by
  obtain ⟨m, hm⟩ := Option.isSome_iff_exists.1 hbits
  have hfiled := Buckets.list_foldl_append store.byDomain (fun bit => 2 ^ bit) (hasBit m) eid nodup_domains
    (List.mem_range.2 hbit)
  rw [indexEntry, StoreEntry.hasDomain, hm, Option.any_some]
  cases e.status.key? with
  | none => exact hfiled
  | some status =>
    cases e.severity.key? with
    | none => exact hfiled
    | some severity => exact hfiled

/-- The first entry is not reached. -/
theorem PatternStore.indexEntry_of_unread (store : PatternStore) (eid : String) {e : StoreEntry}
    (hbits : ¬ e.threatDomain.bits?.isSome) : store.indexEntry eid e = (store, false) := by
  rw [indexEntry, Option.not_isSome_iff_eq_none.1 hbits]

/-- What the loop leaves: the lists have grown by the entries that it has reached. -/
theorem PatternStore.indexAll_spec (store : PatternStore) (items : List (String × StoreEntry)) :
    (store.indexAll items).1.entries = store.entries ∧
      (∀ n, (store.indexAll items).1.byStatus.list (.number n) =
        store.byStatus.list (.number n) ++ ((reached items).filter fun x => x.2.hasStatus n).map Prod.fst) ∧
      ∀ bit < 8, (store.indexAll items).1.byDomain.list (2 ^ bit) =
        store.byDomain.list (2 ^ bit) ++ ((reached items).filter fun x => x.2.hasDomain bit).map Prod.fst := by
  induction items generalizing store with
  | nil => simp [indexAll, reached]
  | cons x rest ih =>
    obtain ⟨eid, e⟩ := x
    have hsnd := store.indexEntry_snd eid e
    rw [indexAll, reached]
    by_cases hindexable : e.indexable
    · -- the entry is filed, and the loop goes on
      have hbits : e.threatDomain.bits?.isSome := by
        rw [StoreEntry.indexable, Bool.and_eq_true, Bool.and_eq_true] at hindexable
        exact hindexable.1.1
      rw [if_pos hindexable]
      rw [hindexable] at hsnd
      obtain ⟨hentries, hstatus, hdomain⟩ := ih (store.indexEntry eid e).1
      have hloop : (match store.indexEntry eid e with
          | (store, true) => store.indexAll rest
          | (store, false) => (store, false)) = (store.indexEntry eid e).1.indexAll rest := by
        rw [← Prod.eta (store.indexEntry eid e), hsnd]
      rw [hloop]
      refine ⟨hentries.trans (store.indexEntry_entries eid e), ?_, ?_⟩
      · intro n
        rw [hstatus, store.indexEntry_status eid hbits, List.append_assoc, List.filter_cons]
        split <;> rfl
      · intro bit hbit
        rw [hdomain bit hbit, store.indexEntry_domain eid hbits hbit, List.append_assoc, List.filter_cons]
        split <;> rfl
    · rw [if_neg hindexable]
      rw [Bool.not_eq_true] at hindexable
      rw [hindexable] at hsnd
      have hstop : (match store.indexEntry eid e with
          | (store, true) => store.indexAll rest
          | (store, false) => (store, false)).1 = (store.indexEntry eid e).1 := by
        rw [← Prod.eta (store.indexEntry eid e), hsnd]
      rw [hstop]
      by_cases hbits : e.threatDomain.bits?.isSome
      · rw [if_pos hbits]
        refine ⟨store.indexEntry_entries eid e, ?_, ?_⟩
        · intro n
          rw [store.indexEntry_status eid hbits, List.filter_cons]
          split <;> rfl
        · intro bit hbit
          rw [store.indexEntry_domain eid hbits hbit, List.filter_cons]
          split <;> rfl
      · rw [if_neg hbits, store.indexEntry_of_unread eid hbits]
        simp

theorem reached_append_drop (items : List (String × StoreEntry)) :
    reached items ++ items.drop (reached items).length = items := by
  induction items with
  | nil => rfl
  | cons x rest ih =>
    rw [reached]
    split
    · rw [List.length_cons, List.drop_succ_cons, List.cons_append, ih]
    · split <;> rfl

theorem filter_append_perm_iff {α : Type} {p : α → Bool} {as bs : List α} :
    (as.filter p).Perm ((as ++ bs).filter p) ↔ ∀ b ∈ bs, p b = false := by
  rw [List.filter_append]
  constructor
  · intro hperm b hb
    have hlength := hperm.length_eq
    rw [List.length_append, Nat.left_eq_add, List.length_eq_zero_iff, List.filter_eq_nil_iff] at hlength
    exact Bool.eq_false_iff.2 (hlength b hb)
  · intro hnone
    rw [List.filter_eq_nil_iff.2 fun b hb => Bool.eq_false_iff.1 (hnone b hb), List.append_nil]

namespace PatternStore

variable {store : PatternStore}

theorem rebuildIndexes_entries (store : PatternStore) : store.rebuildIndexes.1.entries = store.entries :=
  (indexAll_spec _ _).1

theorem rebuildIndexes_status (store : PatternStore) (n : Int) :
    store.rebuildIndexes.1.byStatus.list (.number n) =
      ((reached store.entries.items).filter fun x => x.2.hasStatus n).map Prod.fst :=
  (indexAll_spec _ _).2.1 n

theorem rebuildIndexes_domain (store : PatternStore) {bit : Nat} (hbit : bit < 8) :
    store.rebuildIndexes.1.byDomain.list (2 ^ bit) =
      ((reached store.entries.items).filter fun x => x.2.hasDomain bit).map Prod.fst :=
  (indexAll_spec _ _).2.2 bit hbit

/-- The call returns or raises; the store is that of the rebuild. -/
theorem rebuildAndSave_fst (store : PatternStore) (saved : Bool) :
    (store.rebuildAndSave saved).1 = store.rebuildIndexes.1 := by
  rw [rebuildAndSave]
  rcases store.rebuildIndexes with ⟨store', _ | _⟩ <;> rfl

/-- Every id that is listed leads to its entry. -/
theorem found_map_fst {l : List (String × StoreEntry)} (hl : ∀ x ∈ l, x ∈ store.entries.items)
    (p : StoreEntry → Bool) :
    ((l.filter fun x => p x.2).map Prod.fst).filterMap store.entries.get? = (l.map Prod.snd).filter p := by
  rw [store.entries.filterMap_get?_map_fst fun x hx => hl x (List.mem_of_mem_filter hx), List.filter_map]
  rfl

end PatternStore

theorem Indexed.indexesExact {store : PatternStore} (h : Indexed store) : IndexesExact store where
  status n := by
    rw [PatternStore.queryStatus, h.status n, PatternStore.found_map_fst (fun _ hx => hx), InsertionDict.values]
  domain bit hbit := by
    rw [PatternStore.queryDomain, h.domain bit hbit, PatternStore.found_map_fst (fun _ hx => hx),
      InsertionDict.values]
  ownId := h.ownId

/-- A rebuild over entries under their own ids that is harmless leaves the lists in order. -/
theorem PatternStore.rebuildIndexes_indexed {store : PatternStore}
    (hown : ∀ id e, store.entries.get? id = some e → e.patternId = id)
    (hharmless : RebuildHarmless store.entries.items) : Indexed store.rebuildIndexes.1 := by
  have hreached : ∀ p : StoreEntry → Bool, (∀ x ∈ store.entries.items.drop (reached store.entries.items).length,
      p x.2 = false) → (reached store.entries.items).filter (fun x => p x.2) =
        store.entries.items.filter fun x => p x.2 := by
    intro p hp
    conv_rhs => rw [← reached_append_drop store.entries.items, List.filter_append]
    rw [List.filter_eq_nil_iff.2 fun x hx => Bool.eq_false_iff.1 (hp x hx), List.append_nil]
  refine ⟨?_, ?_, ?_⟩
  · intro n
    rw [store.rebuildIndexes_status, store.rebuildIndexes_entries, hreached _ fun x hx => (hharmless x hx).status n]
  · intro bit hbit
    rw [store.rebuildIndexes_domain hbit, store.rebuildIndexes_entries,
      hreached _ fun x hx => (hharmless x hx).domain bit hbit]
  · rw [store.rebuildIndexes_entries]
    exact hown

/-- The other way round, exact queries after a rebuild show that it was harmless. -/
theorem PatternStore.harmless_of_rebuildIndexes {store : PatternStore} (h : IndexesExact store.rebuildIndexes.1) :
    RebuildHarmless store.entries.items := by
  have hitems := reached_append_drop store.entries.items
  have hsub : ∀ x ∈ reached store.entries.items, x ∈ store.entries.items := by
    intro x hx
    rw [← hitems]
    exact List.mem_append_left _ hx
  have hvalues : store.entries.values = (reached store.entries.items).map Prod.snd ++
      (store.entries.items.drop (reached store.entries.items).length).map Prod.snd := by
    rw [InsertionDict.values, ← List.map_append, hitems]
  intro x hx
  have hlast := List.mem_map_of_mem (f := Prod.snd) hx
  constructor
  · intro n
    have hperm := h.status n
    rw [queryStatus, store.rebuildIndexes_status, store.rebuildIndexes_entries, found_map_fst hsub, hvalues] at hperm
    exact filter_append_perm_iff.1 hperm x.2 hlast
  · intro bit hbit
    have hperm := h.domain bit hbit
    rw [queryDomain, store.rebuildIndexes_domain hbit, store.rebuildIndexes_entries, found_map_fst hsub,
      hvalues] at hperm
    exact filter_append_perm_iff.1 hperm x.2 hlast

/-! ### One call -/

section SetEntry

variable {store : PatternStore} {patternId : String} {e e' : StoreEntry}

theorem ownId_set (hown : ∀ id e, store.entries.get? id = some e → e.patternId = id) (hid : e.patternId = patternId) :
    ∀ id e', (store.entries.set patternId e).get? id = some e' → e'.patternId = id := by
  intro id e' hfound
  rw [InsertionDict.get?_set] at hfound
  split at hfound
  · next heq => rw [heq, ← Option.some.inj hfound, hid]
  · exact hown id e' hfound

/-- The ids of the entries with a property are the same after an entry has been changed in place, if it has the
property as before. -/
theorem map_fst_filter_set (hfound : store.entries.get? patternId = some e) (p : StoreEntry → Bool)
    (hp : p e' = p e) :
    ((store.entries.set patternId e').items.filter fun x => p x.2).map Prod.fst =
      (store.entries.items.filter fun x => p x.2).map Prod.fst := by
  rw [InsertionDict.items_set_of_some hfound, List.filter_map, List.map_map]
  have hsame : ∀ x ∈ store.entries.items,
      ((fun x : String × StoreEntry => p x.2) ∘ fun x => (x.1, if x.1 = patternId then e' else x.2)) x = p x.2 := by
    intro x hx
    rw [Function.comp_apply]
    split
    · next hkey =>
      have hx' : store.entries.get? x.1 = some x.2 := InsertionDict.mem_items_iff.1 hx
      rw [hkey, hfound] at hx'
      rw [hp, Option.some.inj hx']
    · rfl
  rw [List.filter_congr hsame]
  rfl

/-- An entry that queries do not tell from the old one leaves the lists in order. -/
theorem Indexed.set (h : Indexed store) (hfound : store.entries.get? patternId = some e) (hsame : SameVisible e e')
    (hid : e'.patternId = patternId) : Indexed { store with entries := store.entries.set patternId e' } where
  status n := (h.status n).trans (map_fst_filter_set hfound _ (hsame.status n)).symm
  domain bit hbit := (h.domain bit hbit).trans (map_fst_filter_set hfound _ (hsame.domain bit hbit)).symm
  ownId := ownId_set h.ownId hid

/-- Where a list has the ids that it had and the query is exact for the changed entry, the entry has the property of
the query as before. -/
theorem same_of_query_perm (hfound : store.entries.get? patternId = some e) {p : StoreEntry → Bool}
    (hown : ∀ id e₁, (store.entries.set patternId e').get? id = some e₁ → e₁.patternId = id)
    (hperm : (((store.entries.items.filter fun x => p x.2).map Prod.fst).filterMap
      (store.entries.set patternId e').get?).Perm ((store.entries.set patternId e').values.filter p)) :
    p e' = p e := by
  have hset : (store.entries.set patternId e').get? patternId = some e' := by
    rw [InsertionDict.get?_set, if_pos rfl]
  have hlisted : ∀ id, id ∈ (store.entries.items.filter fun x => p x.2).map Prod.fst ↔
      ∃ e, store.entries.get? id = some e ∧ p e = true := by
    intro id
    rw [List.mem_map]
    constructor
    · rintro ⟨x, hx, rfl⟩
      obtain ⟨hmem, hpx⟩ := List.mem_filter.1 hx
      exact ⟨x.2, InsertionDict.mem_items_iff.1 hmem, hpx⟩
    · rintro ⟨e, he, hpe⟩
      exact ⟨(id, e), List.mem_filter.2 ⟨InsertionDict.mem_items_iff.2 he, hpe⟩, rfl⟩
  rw [Bool.eq_iff_iff]
  constructor
  · -- the query returns the changed entry, so its id was listed
    intro hp
    have hmem : e' ∈ (store.entries.set patternId e').values.filter p :=
      List.mem_filter.2 ⟨InsertionDict.mem_values_iff.2 ⟨patternId, hset⟩, hp⟩
    obtain ⟨id, hid, hget⟩ := List.mem_filterMap.1 (hperm.mem_iff.2 hmem)
    obtain ⟨e₁, he₁, hpe₁⟩ := (hlisted id).1 hid
    have hsameId : patternId = id := by rw [← hown patternId e' hset, ← hown id e' hget]
    rw [← hsameId, hfound] at he₁
    rw [Option.some.inj he₁]
    exact hpe₁
  · intro hp
    have hmem := List.mem_filterMap.2 ⟨patternId, (hlisted patternId).2 ⟨e, hfound, hp⟩, hset⟩
    exact (List.mem_filter.1 (hperm.mem_iff.1 hmem)).2

end SetEntry

section Calls

variable {special : SpecialSetter} {store : PatternStore} {patternId : String} {kwargs : List (String × PyValue)}

/-- The store of a call whose entry has been changed to `e'` and whose lists have been built again. -/
theorem indexed_rebuilt {e' : StoreEntry} (hown : ∀ id e, store.entries.get? id = some e → e.patternId = id)
    (hid : e'.patternId = patternId) (saved : Bool)
    (hharmless : RebuildHarmless (store.entries.set patternId e').items) :
    Indexed ({ store with entries := store.entries.set patternId e' }.rebuildAndSave saved).1 := by
  rw [PatternStore.rebuildAndSave_fst]
  exact PatternStore.rebuildIndexes_indexed (ownId_set hown hid) hharmless

/-- The arguments of a call that `update` takes. -/
theorem kwargs_any_eq_false_iff : (kwargs.any fun kv => kv.1 = "self" || kv.1 = "pattern_id") = false ↔
    ∀ kv ∈ kwargs, kv.1 ≠ "self" ∧ kv.1 ≠ "pattern_id" := by
  rw [List.any_eq_false]
  exact forall₂_congr fun kv _ => by simp

/-- `update` keeps the lists in order where it leaves nothing behind. -/
theorem Indexed.update (h : Indexed store) (saved : Bool)
    (hharmless : (∀ kv ∈ kwargs, kv.1 ≠ "self" ∧ kv.1 ≠ "pattern_id") →
      UpdateHarmless special store patternId kwargs) :
    Indexed (store.update special patternId kwargs saved).1 := by
  rw [PatternStore.update]
  split
  · exact h
  · next hkwargs =>
    have hupdate := hharmless (kwargs_any_eq_false_iff.1 (Bool.eq_false_iff.2 hkwargs))
    split
    · exact h
    · next e hfound =>
      obtain ⟨hid, hleft⟩ := hupdate e hfound
      split
      · next e' hassigned =>
        rw [hassigned] at hid hleft
        exact indexed_rebuilt h.ownId hid saved hleft
      · next e' hassigned =>
        rw [hassigned] at hid hleft
        exact h.set hfound hleft hid

/-- What `update` leaves behind, where the queries are exact after it. -/
theorem updateHarmless_of_update (h : Indexed store) {saved : Bool}
    (hexact : IndexesExact (store.update special patternId kwargs saved).1)
    (hkwargs : ∀ kv ∈ kwargs, kv.1 ≠ "self" ∧ kv.1 ≠ "pattern_id") :
    UpdateHarmless special store patternId kwargs := by
  intro e hfound
  have hown : ∀ id e', (store.update special patternId kwargs saved).1.entries.get? id = some e' → e'.patternId = id :=
    hexact.ownId
  have htaken : ¬ (kwargs.any fun kv => kv.1 = "self" || kv.1 = "pattern_id") = true :=
    Bool.eq_false_iff.1 (kwargs_any_eq_false_iff.2 hkwargs)
  rw [PatternStore.update, if_neg htaken, hfound] at hexact hown
  rcases hassigned : e.assignAll special kwargs with ⟨e', _ | _⟩
  · -- an assignment raised
    simp only [hassigned] at hexact hown
    refine ⟨hown patternId e' ?_, ?_⟩
    · rw [InsertionDict.get?_set, if_pos rfl]
    · constructor
      · intro n
        have hperm := hexact.status n
        rw [PatternStore.queryStatus, h.status n] at hperm
        exact same_of_query_perm hfound hown hperm
      · intro bit hbit
        have hperm := hexact.domain bit hbit
        rw [PatternStore.queryDomain, h.domain bit hbit] at hperm
        exact same_of_query_perm hfound hown hperm
  · simp only [hassigned, PatternStore.rebuildAndSave_fst] at hexact hown
    refine ⟨hown patternId e' ?_, PatternStore.harmless_of_rebuildIndexes hexact⟩
    rw [PatternStore.rebuildIndexes_entries, InsertionDict.get?_set, if_pos rfl]

theorem setStatus_kwargs (status : PatternStatus) :
    ∀ kv ∈ [("status", PyValue.int status.toInt)], kv.1 ≠ "self" ∧ kv.1 ≠ "pattern_id" := by
  intro kv hkv
  rw [List.mem_singleton.1 hkv]
  exact ⟨(by decide : "status" ≠ "self"), (by decide : "status" ≠ "pattern_id")⟩

/-- A call that leaves nothing behind keeps the lists in order. -/
theorem Indexed.run (h : Indexed store) {op : StoreOp} (hharmless : LeavesExact special store op) :
    Indexed (op.run special store).1 := by
  cases op with
  | add entry saved =>
    rw [StoreOp.run, PatternStore.add]
    split
    · exact h
    · next hnew =>
      have hnone := Option.not_isSome_iff_eq_none.1 hnew
      have hrebuild := hharmless hnone
      rw [← InsertionDict.items_set_of_none hnone] at hrebuild
      exact indexed_rebuilt h.ownId rfl saved hrebuild
  | update patternId kwargs saved => exact h.update saved hharmless
  | setStatus patternId status saved => exact h.update saved fun _ => hharmless

/-- A call after which the queries are exact has left nothing behind. -/
theorem leavesExact_of_run (h : Indexed store) {op : StoreOp} (hexact : IndexesExact (op.run special store).1) :
    LeavesExact special store op := by
  cases op with
  | add entry saved =>
    intro hnone
    have hnew : ¬ (store.entries.get? entry.patternId).isSome = true := Option.not_isSome_iff_eq_none.2 hnone
    rw [StoreOp.run, PatternStore.add, if_neg hnew, PatternStore.rebuildAndSave_fst] at hexact
    have hharmless := PatternStore.harmless_of_rebuildIndexes hexact
    rwa [InsertionDict.items_set_of_none hnone] at hharmless
  | update patternId kwargs saved => exact updateHarmless_of_update h hexact
  | setStatus patternId status saved => exact updateHarmless_of_update h hexact (setStatus_kwargs status)

end Calls

/-! ### Runs -/

/-- The file that was loaded has every entry under its own id, and the first rebuild is harmless. -/
structure LoadedInOrder (entries : InsertionDict String StoreEntry) : Prop where
  ownId : ∀ id e, entries.get? id = some e → e.patternId = id
  harmless : RebuildHarmless entries.items

/-- In every state of a run the queries return exactly the entries that they are for, if and only if the file was in
order and every call leaves nothing behind that they would miss. -/
theorem indexesExact_iff (special : SpecialSetter) (entries : InsertionDict String StoreEntry) (ops : List StoreOp) :
    AllStates IndexesExact (.opened entries) (storeRun special entries ops) ↔
      LoadedInOrder entries ∧ AllSteps (LeavesExact special) (.opened entries) (storeRun special entries ops) := by
  have hexec := exec_storeRun special entries ops
  have hindexed : LoadedInOrder entries → Indexed (.opened entries) := fun hloaded =>
    PatternStore.rebuildIndexes_indexed hloaded.ownId hloaded.harmless
  have hrun : Indexed (.opened entries) → (AllStates IndexesExact (.opened entries) (storeRun special entries ops) ↔
      AllSteps (LeavesExact special) (.opened entries) (storeRun special entries ops)) := by
    intro h₀
    refine hexec.allStates_iff_of_strengthening h₀ (fun _ h => h.indexesExact) ?_ ?_
    · rintro store op _ h rfl hharmless
      exact h.run hharmless
    · rintro store op _ h rfl hexact
      exact leavesExact_of_run h hexact
  constructor
  · intro hexact
    have hopened := hexact.1
    have hloaded : LoadedInOrder entries := by
      refine ⟨?_, PatternStore.harmless_of_rebuildIndexes hopened⟩
      have hown := hopened.ownId
      rwa [PatternStore.opened, PatternStore.rebuildIndexes_entries] at hown
    exact ⟨hloaded, (hrun (hindexed hloaded)).1 hexact⟩
  · rintro ⟨hloaded, hsteps⟩
    exact (hrun (hindexed hloaded)).2 hsteps

/-- A pattern is added in status 0 and then given a new status and, in the same call, a value for `is_active`. -/
def halfUpdate : List StoreOp :=
  [.add ⟨"x", .int 4, .int 3, .int 0⟩ true, .update "x" [("status", .int 1), ("is_active", .int 1)] true]

/-- The store after these calls, where the attributes of every object refuse everything. -/
def halfUpdated : PatternStore := final (.opened .empty) (storeRun (fun _ _ _ => none) .empty halfUpdate)

/-- The entry has its new status, and the query for that status does not find it. -/
theorem readOnly_update_stale :
    halfUpdated.entries.values = [⟨"x", .int 4, .int 3, .int 1⟩] ∧ halfUpdated.queryStatus 1 = [] ∧
      ¬ AllStates IndexesExact (.opened .empty) (storeRun (fun _ _ _ => none) .empty halfUpdate) := by
  have hvalues : halfUpdated.entries.values = [⟨"x", .int 4, .int 3, .int 1⟩] := by decide +kernel
  have hquery : halfUpdated.queryStatus 1 = [] := by decide +kernel
  refine ⟨hvalues, hquery, ?_⟩
  intro hexact
  have hperm : (halfUpdated.queryStatus 1).Perm (halfUpdated.entries.values.filter fun e => e.hasStatus 1) :=
    hexact.final.status 1
  rw [hquery, hvalues] at hperm
  exact absurd hperm.length_eq (by decide)

end OperatingOrganism.Adaptive.Indexes

import OperatingOrganism.Library.InsertionDict
import OperatingOrganism.Library.JsonDump

/-!
# Tables in Json files

A dictionary of records is written into a file as an object, with the record of each key as its field, and read back
field by field. A format that reads its own records back reads back the table (`loadTable_tableJson`), and the file
(`readTable_writeTable`).
-/

set_option autoImplicit false

namespace OperatingOrganism

namespace JsonValue

/-! ### Values of one type -/

def string? : JsonValue → Option CodePoints
  | string s => some s
  | _ => none

def int? : JsonValue → Option Int
  | int n => some n
  | _ => none

def nat? : JsonValue → Option Nat
  | int n => if 0 ≤ n then some n.toNat else none
  | _ => none

def bool? : JsonValue → Option Bool
  | bool b => some b
  | _ => none

def float? : JsonValue → Option Rat
  | float q => some q
  | _ => none

def array? : JsonValue → Option (List JsonValue)
  | array items => some items
  | _ => none

end JsonValue

end OperatingOrganism

namespace OperatingOrganism.JsonText

universe u

/-! ### Tables -/

/-- How a record is written and read. -/
structure RecordFormat (α : Type u) where
  encode : α → JsonValue
  decode : JsonValue → Option α
  decode_encode : ∀ a, decode (encode a) = some a

namespace RecordFormat

variable {α : Type u} (format : RecordFormat α)

/-- The object of a table. -/
def tableJson (d : InsertionDict CodePoints α) : JsonValue :=
  .object (d.items.map fun kv => (kv.1, format.encode kv.2))

/-- The table of an object, one field after the other; `none` is an exception. -/
def loadTable : JsonValue → Option (InsertionDict CodePoints α)
  | .object fields => fields.foldlM (fun d kv => (format.decode kv.2).map (d.set kv.1)) .empty
  | _ => none

/-- What can be written and read back. -/
def Storable (d : InsertionDict CodePoints α) : Prop :=
  ∀ kv ∈ d.items, (∀ c ∈ kv.1, IsScalar c) ∧ Readable (format.encode kv.2)

/-- Further records behind those that were read. -/
theorem foldlM_encode (d : InsertionDict CodePoints α) {items : List (CodePoints × α)}
    (h : ((d.items ++ items).map Prod.fst).Nodup) :
    (items.map fun kv => (kv.1, format.encode kv.2)).foldlM
      (fun (d : InsertionDict CodePoints α) kv => (format.decode kv.2).map (d.set kv.1)) d =
      some ⟨d.items ++ items, h⟩ := by
  induction items generalizing d with
  | nil => simp
  | cons kv items ih =>
    obtain ⟨k, a⟩ := kv
    have hnew : d.get? k = none := by
      rw [InsertionDict.get?_eq_none_iff]
      intro hmem
      rw [List.map_append] at h
      exact (List.nodup_append.1 h).2.2 k hmem k List.mem_cons_self rfl
    have hset := InsertionDict.items_set_of_none hnew a
    have hrest : (((d.set k a).items ++ items).map Prod.fst).Nodup := by
      rw [hset, ← List.append_cons]
      exact h
    rw [List.map_cons, List.foldlM_cons, format.decode_encode, Option.map_some, Option.bind_eq_bind, Option.bind_some,
      ih (d.set k a) hrest]
    simp [hset]

theorem loadTable_tableJson (d : InsertionDict CodePoints α) : format.loadTable (format.tableJson d) = some d :=
  format.foldlM_encode .empty d.nodup

theorem readable_tableJson {d : InsertionDict CodePoints α} (h : format.Storable d) :
    Readable (format.tableJson d) := by
  refine .object ?_ ?_ ?_
  · rw [List.map_map]
    exact d.nodup
  · rintro _ hmem
    obtain ⟨kv, hkv, rfl⟩ := List.mem_map.1 hmem
    exact (h kv hkv).1
  · rintro _ hmem
    obtain ⟨kv, hkv, rfl⟩ := List.mem_map.1 hmem
    exact (h kv hkv).2

/-- A file with a table in it is read back. -/
theorem readTable_writeTable {style : DumpStyle} {d : InsertionDict CodePoints α} {bytes : List Nat}
    (h : format.Storable d) (hbytes : writeJson style (format.tableJson d) = some bytes) :
    (readJson bytes).bind format.loadTable = some d := by
  rw [readJson_writeJson (format.readable_tableJson h) trivial hbytes, Option.bind_some, format.loadTable_tableJson]

end RecordFormat

end OperatingOrganism.JsonText

import OperatingOrganism.ColonyServer.HeartbeatStorage
import OperatingOrganism.Library.LexicalPath
import Mathlib.Data.Set.Function

/-!
# The file of an organism

`store_heartbeat` appends to `fossil/organisms/{organism_id}.ndjson` under the base directory, and nothing
looks at the identifier. One with a `/` names a file in another directory, unless what stands before its last
`/` leads back to the directory of the fossils; and identifiers that differ there only share a file
(`fossilsConfined_iff`).
-/

set_option autoImplicit false

namespace OperatingOrganism.ColonyServer

open OperatingOrganism.JoinedText
open OperatingOrganism.LexicalPath
open OperatingOrganism.FaultyIo

/-! ## Paths -/

/-- `Path::is_absolute` -/
def isAbsolute (path : String) : Bool := path.toList.head? = some '/'

/-- What a part between two `/` does. -/
def component (name : String) : Option (Component String) :=
  if name = "" ∨ name = "." then none
  else if name = ".." then some .up
  else some (.name name)

/-- `Path::components`, without the root. -/
def components (path : String) : List (Component String) := (split '/' path).filterMap component

/-- Where a path leads by its text. -/
def lexically (path : String) : Place String :=
  (if isAbsolute path then .root else .here : Place String).walk (components path)

/-- `Path::join` -/
def joinPath (base relative : String) : String :=
  if isAbsolute relative then relative
  else if base = "" ∨ base.toList.getLast? = some '/' then base ++ relative
  else base ++ "/" ++ relative

/-- `ORGANISMS_DIR` -/
def organismsDir : String := "fossil/organisms"

/-- `self.path(&format!("{}/{}.ndjson", ORGANISMS_DIR, organism_id))` -/
def organismFile (baseDir organismId : String) : String :=
  joinPath baseDir (organismsDir ++ "/" ++ organismId ++ ".ndjson")

/-- What stands before the last `/` of an identifier, and what stands after it. -/
def dirPart (organismId : String) : List String := (split '/' organismId).dropLast

def filePart (organismId : String) : String := (split '/' organismId).getLast split_ne_nil

section

variable {base relative path organismId : String}

theorem components_append_slash : components (base ++ "/" ++ relative) =
    components base ++ components relative := by
  rw [components, show "/" = String.singleton '/' from rfl, split_append, List.filterMap_append]
  rfl

theorem components_empty : components "" = [] := rfl

theorem isAbsolute_append (h : base ≠ "") : isAbsolute (base ++ relative) = isAbsolute base := by
  have hne : base.toList ≠ [] := fun hnil => h (String.toList_inj.1 hnil)
  rw [isAbsolute, isAbsolute, String.toList_append, List.head?_append_of_ne_nil _ hne]

/-- A relative path is joined by walking on. -/
theorem lexically_joinPath (h : isAbsolute relative = false) :
    lexically (joinPath base relative) = (lexically base).walk (components relative) := by
  rw [joinPath, if_neg (by simp [h])]
  by_cases hempty : base = ""
  · subst hempty
    rw [if_pos (.inl rfl), String.empty_append, lexically, h]
    rfl
  · have habs : ∀ rest, isAbsolute (base ++ rest) = isAbsolute base := fun rest =>
      isAbsolute_append hempty
    split
    · rename_i hlast
      obtain ⟨front, hfront⟩ := List.getLast?_eq_some_iff.1 (hlast.resolve_left hempty)
      -- the separator that the base ends with stands for the one that is not inserted
      obtain rfl : base = String.ofList front ++ "/" := by
        rw [← String.toList_inj, hfront, String.toList_append, String.toList_ofList]
        rfl
      have hbase : components (String.ofList front ++ "/") = components (String.ofList front) := by
        rw [← String.append_empty (s := String.ofList front ++ "/"), components_append_slash, components_empty,
          List.append_nil]
      rw [lexically, lexically, habs, components_append_slash, hbase, Place.walk_append]
    · rw [lexically, lexically, String.append_assoc, habs, ← String.append_assoc, components_append_slash,
        Place.walk_append]

/-- The name of the file in its directory. -/
def fileName (organismId : String) : String := filePart organismId ++ ".ndjson"

/-- A name with the extension is a name. -/
theorem component_append_ndjson (name : String) :
    component (name ++ ".ndjson") = some (.name (name ++ ".ndjson")) := by
  have hlength : (name ++ ".ndjson").length = name.length + 7 := String.length_append name ".ndjson"
  have hne : ∀ other : String, other.length < 7 → name ++ ".ndjson" ≠ other := by
    rintro other hlt rfl
    omega
  rw [component, if_neg, if_neg]
  · exact hne ".." (by decide)
  · rintro (h | h)
    · exact hne "" (by decide) h
    · exact hne "." (by decide) h

/-- The path that is joined to the base directory. -/
theorem components_organismFile (organismId : String) :
    components (organismsDir ++ "/" ++ organismId ++ ".ndjson") =
      components organismsDir ++ (dirPart organismId).filterMap component ++
        [.name (fileName organismId)] := by
  have hsplit : split '/' (organismId ++ ".ndjson") = dirPart organismId ++ [fileName organismId] :=
    split_append_of_not_mem (by decide) organismId
  have hname : components (organismId ++ ".ndjson") =
      (dirPart organismId).filterMap component ++ [.name (fileName organismId)] := by
    rw [components, hsplit, List.filterMap_append]
    simp [fileName, component_append_ndjson]
  rw [String.append_assoc, components_append_slash, hname, List.append_assoc]

theorem isAbsolute_organismFile (organismId : String) :
    isAbsolute (organismsDir ++ "/" ++ organismId ++ ".ndjson") = false := by
  rw [String.append_assoc, String.append_assoc, isAbsolute_append (by decide)]
  rfl

/-- The directory of the fossils. -/
def fossilDir (baseDir : String) : Place String := lexically (joinPath baseDir organismsDir)

/-- The file of an organism. -/
def fossilFile (baseDir organismId : String) : Place String := lexically (organismFile baseDir organismId)

/-- What stands before the last `/` of the identifier is walked from the directory of the fossils on. -/
theorem fossilFile_eq (baseDir organismId : String) : fossilFile baseDir organismId =
    ((fossilDir baseDir).walk ((dirPart organismId).filterMap component)).child (fileName organismId) := by
  rw [fossilFile, organismFile, lexically_joinPath (isAbsolute_organismFile organismId),
    components_organismFile, fossilDir, lexically_joinPath rfl, Place.walk_append, Place.walk_append]
  rfl

end

/-! ## Where the logs are -/

/-- Where a log of the storage is. -/
def logPlace (baseDir : String) (path : LogPath) : Place String :=
  (lexically baseDir).walk (path.filterMap component)

/-- No part of the path is empty or a `.`. -/
def Plain (path : List String) : Prop := ∀ name ∈ path, name ≠ "" ∧ name ≠ "."

section

variable {path : List String} {name : String} {p : Place String}

theorem Plain.step (h : Plain path) (name : String) : Plain (resolveStep path name) := by
  rw [resolveStep.eq_def]
  split
  · exact h
  · rename_i hplain
    split
    · cases path with
      | nil => exact List.forall_mem_singleton.2 ⟨by decide, by decide⟩
      | cons last rest =>
        dsimp only
        split
        · exact List.forall_mem_cons.2 ⟨⟨by decide, by decide⟩, h⟩
        · exact (List.forall_mem_cons.1 h).2
    · exact List.forall_mem_cons.2 ⟨not_or.1 hplain, h⟩

/-- One more part of a path leads where it leads from the place so far. -/
theorem walk_resolveStep (h : Plain path) (name : String) :
    p.walk ((resolveStep path name).reverse.filterMap component) =
      (p.walk (path.reverse.filterMap component)).walk ([name].filterMap component) := by
  rw [resolveStep.eq_def]
  split
  · -- an empty part or a `.` leads nowhere
    rename_i hskip
    have hnone : component name = none := if_pos hskip
    simp [hnone]
  · rename_i hplain
    split
    · rename_i hup
      subst hup
      cases path with
      -- `..` takes the last name away, unless there is none to take
      | nil => rfl
      | cons last rest =>
        dsimp only
        split
        · rw [List.reverse_cons, List.filterMap_append, Place.walk_append]
        · rename_i hname
          have hlast : component last = some (.name last) := by
            rw [component, if_neg (not_or.2 (List.forall_mem_cons.1 h).1), if_neg hname]
          rw [List.reverse_cons, List.filterMap_append, Place.walk_append, List.filterMap_cons_some hlast]
          rfl
    · rw [List.reverse_cons, List.filterMap_append, Place.walk_append]

/-- A path that is resolved first leads to where it leads. -/
theorem walk_resolve (p : Place String) (path : String) :
    p.walk ((resolve path).filterMap component) = p.walk (components path) := by
  have hparts : ∀ (parts : List String) (done : List String), Plain done →
      p.walk ((parts.foldl resolveStep done).reverse.filterMap component) =
        (p.walk (done.reverse.filterMap component)).walk (parts.filterMap component) := by
    -- induction on the parts, from any that are resolved before them
    intro parts
    induction parts with
    | nil => exact fun _ _ => rfl
    | cons name parts ih =>
      intro done hdone
      rw [List.foldl_cons, ih _ (hdone.step name), walk_resolveStep hdone,
        ← Place.walk_append, ← List.filterMap_append]
      rfl
  exact hparts (split '/' path) [] (fun _ hmem => absurd hmem List.not_mem_nil)

/-- The first write of `store_heartbeat` is to the file of the organism. -/
theorem storeHeartbeat_appends (baseDir : String) (heartbeat : Heartbeat) (w : World) :
    ∃ path rest, Performs (storeHeartbeat heartbeat) w (appendLine path (.heartbeat heartbeat) :: rest)
        (heartbeatSteps heartbeat) (heartbeatReadings heartbeat) ∧
      logPlace baseDir path = fossilFile baseDir heartbeat.organismId := by
  refine ⟨fossilPath heartbeat.organismId, _, performs_storeHeartbeat heartbeat w, ?_⟩
  rw [logPlace, fossilPath, walk_resolve, fossilFile, organismFile,
    lexically_joinPath (isAbsolute_organismFile heartbeat.organismId)]
  rfl

end

/-! ## Confinement -/

/-- The file of every organism is directly in the directory of the fossils, and no two share one. -/
structure FossilsConfined (baseDir : String) (ids : Set String) : Prop where
  inside : ∀ id ∈ ids, ∃ name, fossilFile baseDir id = (fossilDir baseDir).child name
  apart : ids.InjOn (fossilFile baseDir)

section

variable {baseDir organismId : String} {ids : Set String}

/-- A file is directly in the directory if and only if what stands before the last `/` of its identifier leads
back to the directory. -/
theorem inside_iff : (∃ name, fossilFile baseDir organismId = (fossilDir baseDir).child name) ↔
    (fossilDir baseDir).Returns ((dirPart organismId).filterMap component) := by
  rw [← Place.walk_eq_self_iff, fossilFile_eq]
  constructor
  · rintro ⟨name, heq⟩
    exact (Place.child_inj.1 heq).1
  · intro hback
    exact ⟨fileName organismId, by rw [hback]⟩

theorem fileName_inj {id id' : String} : fileName id = fileName id' ↔ filePart id = filePart id' := by
  constructor
  · intro h
    rw [fileName, fileName, ← String.toList_inj, String.toList_append, String.toList_append] at h
    exact String.toList_inj.1 (List.append_cancel_right h)
  · intro h
    rw [fileName, fileName, h]

theorem FossilsConfined.injOn_filePart (h : FossilsConfined baseDir ids) : ids.InjOn filePart := by
  intro id hid id' hid' heq
  apply h.apart hid hid'
  rw [fossilFile_eq, fossilFile_eq, Place.walk_eq_self_iff.2 (inside_iff.1 (h.inside id hid)),
    Place.walk_eq_self_iff.2 (inside_iff.1 (h.inside id' hid')), fileName_inj.2 heq]

theorem FossilsConfined.of_injOn
    (hback : ∀ id ∈ ids, (fossilDir baseDir).Returns ((dirPart id).filterMap component))
    (hinj : ids.InjOn filePart) : FossilsConfined baseDir ids where
  inside id hid := inside_iff.2 (hback id hid)
  apart id hid id' hid' heq := by
    rw [fossilFile_eq, fossilFile_eq, Place.child_inj] at heq
    exact hinj hid hid' (fileName_inj.1 heq.2)

/-- Of a set of identifiers, the files are confined and apart if and only if what stands before the last `/` of
each leads back to the directory of the fossils, and what stands after it differs. -/
theorem fossilsConfined_iff (baseDir : String) (ids : Set String) : FossilsConfined baseDir ids ↔
    (∀ id ∈ ids, (fossilDir baseDir).Returns ((dirPart id).filterMap component)) ∧ ids.InjOn filePart := by
  constructor
  · intro h
    exact ⟨fun id hid => inside_iff.1 (h.inside id hid), h.injOn_filePart⟩
  · rintro ⟨hback, hinj⟩
    exact .of_injOn hback hinj

/-- Identifiers without a `/` are confined, whatever else is in them. -/
theorem fossilsConfined_of_not_mem (h : ∀ id ∈ ids, '/' ∉ id.toList) : FossilsConfined baseDir ids := by
  have hparts : ∀ id ∈ ids, dirPart id = [] ∧ filePart id = id := by
    intro id hid
    simp only [dirPart, filePart, split_of_not_mem (h id hid)]
    exact ⟨rfl, rfl⟩
  apply FossilsConfined.of_injOn
  · intro id hid
    rw [(hparts id hid).1, ← Place.walk_eq_self_iff]
    rfl
  · intro id hid id' hid' heq
    rwa [(hparts id hid).2, (hparts id' hid').2] at heq

end

example : fossilPath "../mesh/gossip" = gossipFile := by decide

/-- A heartbeat of `../mesh/gossip` is appended to a file outside the directory, the log of the gossip, and one
of `./a` to the file of `a`. -/
theorem fossils_not_confined :
    (¬ ∃ name, fossilFile "." "../mesh/gossip" = (fossilDir ".").child name) ∧
      fossilFile "." "a" = fossilFile "." "./a" ∧ ¬ FossilsConfined "." Set.univ := by
  have hinside : ¬ ∃ name, fossilFile "." "../mesh/gossip" = (fossilDir ".").child name := by
    intro h
    -- `../mesh` goes down by another name than it left
    exact absurd (inside_iff.1 h).names (by decide)
  have hdir : (dirPart "./a").filterMap component = (dirPart "a").filterMap component := by decide
  have hfile : fileName "a" = fileName "./a" := by decide
  refine ⟨hinside, ?_, fun h => hinside (h.inside _ (Set.mem_univ _))⟩
  rw [fossilFile_eq, fossilFile_eq, hdir, hfile]

end OperatingOrganism.ColonyServer

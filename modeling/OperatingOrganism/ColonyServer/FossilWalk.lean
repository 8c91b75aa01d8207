import OperatingOrganism.Library.ForestWalk
import Mathlib.Data.List.Count

/-!
# The size of the fossil record

`compute_fossil_size` walks the directory tree with the iterator of the module `walkdir`: a stack of directories and
the files of the directory that was read last. Over a tree without links the walk ends, and gives every file below
readable directories once and an error for every directory among them that cannot be read (`fossil_walk`). What is
below such a directory stays unseen. The sizes are added in 64 bits.
-/

set_option autoImplicit false

namespace OperatingOrganism.ColonyServer

/-! ## Directory trees -/

/-- `std::io::Error`, by its kind. -/
inductive IoError where
  | notFound
  | permissionDenied
  | notADirectory
  | other
  deriving DecidableEq, Repr

/-- What is found at a place of the file system. A directory that cannot be read has the error that says so. -/
inductive FsNode where
  | file (len : UInt64)
  /-- a socket, a pipe or a device -/
  | special
  | dir (denied : Option IoError) (entries : List (String × FsNode))

/-- The names on the way from the root of a tree. -/
abbrev PathBuf := List String

/-- The node that a path leads to. -/
def FsNode.at (node : FsNode) : PathBuf → Option FsNode
  | [] => some node
  | name :: path =>
    match node with
    | .dir _ entries => (entries.lookup name).bind fun child => child.at path
    | _ => none

/-- The names in a directory differ. -/
def FsNode.Distinct (node : FsNode) : Prop :=
  ∀ path denied entries, node.at path = some (.dir denied entries) → (entries.map Prod.fst).Nodup

/-- A directory tree. -/
structure DirTree where
  denied : Option IoError
  entries : List (String × FsNode)
  distinct : (FsNode.dir denied entries).Distinct

namespace DirTree

variable (tree : DirTree)

/-- What is at a path. -/
def node (path : PathBuf) : Option FsNode := (FsNode.dir tree.denied tree.entries).at path

/-- `fs::read_dir`, with `e.path()` of the entries. -/
def readDir (path : PathBuf) : Except IoError (List PathBuf) :=
  match tree.node path with
  | some (.dir none entries) => .ok (entries.map fun e => path ++ [e.1])
  | some (.dir (some denied) _) => .error denied
  | some _ => .error .notADirectory
  | none => .error .notFound

/-- `Path::is_dir` -/
def isDir (path : PathBuf) : Bool :=
  match tree.node path with
  | some (.dir _ _) => true
  | _ => false

/-- `Path::is_file` -/
def isFile (path : PathBuf) : Bool :=
  match tree.node path with
  | some (.file _) => true
  | _ => false

/-- `fs::metadata(path)?.len()`, which is asked of files only. -/
def metadataLen (path : PathBuf) : Except IoError UInt64 :=
  match tree.node path with
  | some (.file len) => .ok len
  | some _ => .ok 0
  | none => .error .notFound

end DirTree

/-! ## The iterator -/

/-- `WalkDirIter`; the top of the stack is its last entry. -/
structure WalkDirIter where
  dirs : List PathBuf
  current : Option (List PathBuf)

/-- What the iterator gives. -/
abbrev WalkItem := Except IoError PathBuf

section

variable (tree : DirTree)

/-- `WalkDirIter::next`, for so many turns of its loop: what it returns, with the iterator. -/
def WalkDirIter.next : Nat → WalkDirIter → Option (Option WalkItem × WalkDirIter)
  | 0, _ => none
  | turns + 1, it =>
    match it.current with
    | some (path :: current) => some (some (.ok path), { it with current := some current })
    | _ =>
      match it.dirs.getLast? with
      | none => some (none, it)
      | some dirPath =>
        let it := { it with dirs := it.dirs.dropLast }
        match tree.readDir dirPath with
        | .ok entries =>
          next turns
            { dirs := it.dirs ++ entries.filter tree.isDir
              current := some (entries.filter fun path => ¬ tree.isDir path) }
        | .error e => some (some (.error e), it)

/-- What the `for` loop gets from the iterator in so many calls. -/
def WalkDirIter.collect (turns : Nat) : Nat → WalkDirIter → Option (List WalkItem)
  | 0, _ => none
  | calls + 1, it =>
    match it.next tree turns with
    | none => none
    | some (none, _) => some []
    | some (some item, it) => (collect turns calls it).map (item :: ·)

/-- `WalkDir::new(path).into_iter()`, for the path of the root, and the items in a number of turns and calls. -/
def walkDir (fuel : Nat) : Option (List WalkItem) := WalkDirIter.collect tree fuel fuel ⟨[[]], none⟩

/-- One round of the loop over the entries. -/
def addFossilSize (totalSize : UInt64) (entry : PathBuf) : Except IoError UInt64 :=
  if tree.isFile entry then (tree.metadataLen entry).map (totalSize + ·) else .ok totalSize

/-- `compute_fossil_size`. The conversion of the bytes to megabytes in floating point is a parameter. -/
def computeFossilSize {F : Type} (toMegabytes : UInt64 → F) (fuel : Nat) : Option (Except IoError F) :=
  (walkDir tree fuel).map fun items =>
    ((items.filterMap Except.toOption).foldlM (addFossilSize tree) 0).map toMegabytes

end

/-! ## The directories as a forest -/

namespace DirTree

variable {tree : DirTree} {path : PathBuf} {name : String} {denied : Option IoError}
  {entries : List (String × FsNode)} {child : FsNode}

theorem at_append (node : FsNode) (path : PathBuf) (name : String) :
    node.at (path ++ [name]) = (node.at path).bind fun n => n.at [name] := by
  induction path generalizing node with
  | nil => rfl
  | cons first path ih =>
    cases node with
    | file len => rfl
    | special => rfl
    | dir denied entries =>
      rw [List.cons_append, FsNode.at, FsNode.at]
      cases entries.lookup first with
      | none => rfl
      | some child => exact ih child

/-- An entry of a directory is found under its name, since the names differ. -/
theorem lookup_of_mem {l : List (String × FsNode)} (hnodup : (l.map Prod.fst).Nodup) (h : (name, child) ∈ l) :
    l.lookup name = some child := by
  induction l with
  | nil => cases h
  | cons e l ih =>
    rw [List.map_cons, List.nodup_cons] at hnodup
    rcases List.mem_cons.1 h with rfl | h
    · exact List.lookup_cons_self
    · have hne : (name == e.1) = false := by
        rw [beq_eq_false_iff_ne]
        intro heq
        exact hnodup.1 (List.mem_map.2 ⟨(name, child), h, heq⟩)
      rw [List.lookup_cons, hne]
      exact ih hnodup.2 h

theorem node_of_mem (h : tree.node path = some (.dir denied entries)) (hmem : (name, child) ∈ entries) :
    tree.node (path ++ [name]) = some child := by
  have hlookup : entries.lookup name = some child := lookup_of_mem (tree.distinct path denied entries h) hmem
  rw [node, at_append]
  rw [node] at h
  rw [h, Option.bind_some, FsNode.at, hlookup]
  rfl

/-- The entries of a directory that pass a test, if it can be read. -/
def entriesOf (tree : DirTree) (keep : PathBuf → Bool) (path : PathBuf) : List PathBuf :=
  match tree.readDir path with
  | .ok entries => entries.filter keep
  | .error _ => []

/-- The directories that the iterator finds in one. -/
def subdirs (tree : DirTree) : PathBuf → List PathBuf := tree.entriesOf tree.isDir

/-- The files that it finds there. -/
def filesOf (tree : DirTree) : PathBuf → List PathBuf := tree.entriesOf fun path => ¬ tree.isDir path

/-- A measure of what is at a path. -/
noncomputable def weight (tree : DirTree) (path : PathBuf) : Nat :=
  match tree.node path with
  | some node => 1 + sizeOf node
  | none => 1

/-- What `read_dir` returns, if it succeeds. -/
theorem readDir_ok {paths : List PathBuf} (h : tree.readDir path = .ok paths) :
    ∃ entries, tree.node path = some (.dir none entries) ∧ paths = entries.map fun e => path ++ [e.1] := by
  rw [readDir] at h
  split at h
  · next entries hnode => exact ⟨entries, hnode, (Except.ok.inj h).symm⟩
  all_goals cases h

theorem readDir_of_readable (h : tree.node path = some (.dir none entries)) :
    tree.readDir path = .ok (entries.map fun e => path ++ [e.1]) := by
  rw [readDir, h]

/-- The names of the entries make different paths. -/
theorem nodup_paths (h : tree.node path = some (.dir none entries)) :
    (entries.map fun e => path ++ [e.1]).Nodup := by
  have hnames := tree.distinct path none entries h
  have hmap : (entries.map fun e => path ++ [e.1]) = (entries.map Prod.fst).map fun name => path ++ [name] := by
    rw [List.map_map]
    rfl
  rw [hmap]
  refine hnames.map fun a b hab => ?_
  exact List.singleton_inj.1 (List.append_cancel_left hab)

section Entries

variable {keep : PathBuf → Bool}

theorem mem_entriesOf {p : PathBuf} : p ∈ tree.entriesOf keep path ↔
    ∃ entries e, tree.node path = some (.dir none entries) ∧ e ∈ entries ∧ p = path ++ [e.1] ∧ keep p := by
  rw [entriesOf]
  constructor
  · intro hmem
    split at hmem
    · next paths hread =>
      obtain ⟨entries, hnode, rfl⟩ := readDir_ok hread
      obtain ⟨hmap, hkeep⟩ := List.mem_filter.1 hmem
      obtain ⟨e, he, rfl⟩ := List.mem_map.1 hmap
      exact ⟨entries, e, hnode, he, rfl, hkeep⟩
    · cases hmem
  · rintro ⟨entries, e, hnode, he, rfl, hkeep⟩
    rw [readDir_of_readable hnode]
    exact List.mem_filter.2 ⟨List.mem_map.2 ⟨e, he, rfl⟩, hkeep⟩

/-- A path says which directory it is in. -/
theorem eq_of_mem_entriesOf {p dir dir' : PathBuf} {keep' : PathBuf → Bool} (h : p ∈ tree.entriesOf keep dir)
    (h' : p ∈ tree.entriesOf keep' dir') : dir = dir' := by
  obtain ⟨_, _, _, _, rfl, _⟩ := mem_entriesOf.1 h
  obtain ⟨_, _, _, _, heq, _⟩ := mem_entriesOf.1 h'
  exact (List.append_inj' heq rfl).1

theorem nodup_entriesOf (tree : DirTree) (keep : PathBuf → Bool) (dir : PathBuf) :
    (tree.entriesOf keep dir).Nodup := by
  rw [entriesOf]
  split
  · next paths hread =>
    obtain ⟨entries, hnode, rfl⟩ := readDir_ok hread
    exact (nodup_paths hnode).filter _
  · exact List.nodup_nil

theorem entriesOf_of_ok {paths : List PathBuf} (h : tree.readDir path = .ok paths) :
    tree.entriesOf keep path = paths.filter keep := by
  rw [entriesOf, h]

theorem entriesOf_of_error {e : IoError} (h : tree.readDir path = .error e) : tree.entriesOf keep path = [] := by
  rw [entriesOf, h]

end Entries

/-- The weights of the entries, of some or all of them. -/
theorem sum_weight_le (keep : PathBuf → Bool) (l : List (String × FsNode))
    (h : ∀ e ∈ l, tree.weight (path ++ [e.1]) = 1 + sizeOf e.2) :
    (((l.map fun e => path ++ [e.1]).filter keep).map tree.weight).sum ≤ sizeOf l := by
  induction l with
  | nil => exact Nat.zero_le _
  | cons e l ih =>
    have htail := ih fun e' he' => h e' (List.mem_cons_of_mem e he')
    have hhead := h e List.mem_cons_self
    have hsize : sizeOf (e :: l) = 1 + (1 + sizeOf e.1 + sizeOf e.2) + sizeOf l := rfl
    rw [List.map_cons, List.filter_cons]
    split
    · rw [List.map_cons, List.sum_cons]
      omega
    · omega

theorem sum_weight_lt (tree : DirTree) (path : PathBuf) :
    ((tree.subdirs path).map tree.weight).sum < tree.weight path := by
  rw [subdirs, entriesOf]
  split
  · next paths hread =>
    obtain ⟨entries, hnode, rfl⟩ := readDir_ok hread
    have hentries : ∀ e ∈ entries, tree.weight (path ++ [e.1]) = 1 + sizeOf e.2 := by
      intro e he
      rw [weight, node_of_mem hnode he]
    have hsum := sum_weight_le tree.isDir entries hentries
    have hsize : sizeOf (FsNode.dir none entries) = 1 + sizeOf (none : Option IoError) + sizeOf entries :=
      FsNode.dir.sizeOf_spec _ _
    rw [weight, hnode]
    dsimp only
    omega
  · rw [weight]
    split
    · exact Nat.lt_of_lt_of_le Nat.one_pos (Nat.le_add_right 1 _)
    · exact Nat.one_pos

/-- The directories of a tree, as far as they are found. -/
noncomputable def forest (tree : DirTree) : Forest PathBuf := ⟨tree.subdirs, tree.weight, tree.sum_weight_lt⟩

/-- No directory is found twice. -/
theorem nodup_below (tree : DirTree) : (tree.forest.below []).Nodup :=
  tree.forest.nodup_below (fun _ _ _ h h' => eq_of_mem_entriesOf h h') (fun dir => tree.nodup_entriesOf _ dir) []

/-- A path that is reached through readable directories. -/
inductive Reachable (tree : DirTree) : PathBuf → Prop
  | root : Reachable tree []
  | entry {path : PathBuf} {entries : List (String × FsNode)} {name : String} {child : FsNode} :
    Reachable tree path → tree.node path = some (.dir none entries) → (name, child) ∈ entries →
      Reachable tree (path ++ [name])

/-- The directories of the forest are those that are reached. -/
theorem mem_below_iff : path ∈ tree.forest.below [] ↔ tree.Reachable path ∧ tree.isDir path := by
  rw [Forest.mem_below_iff]
  constructor
  · intro h
    induction h with
    | refl => exact ⟨.root, rfl⟩
    | tail _ hchild ih =>
      obtain ⟨entries, e, hnode, he, rfl, hdir⟩ := mem_entriesOf.1 hchild
      exact ⟨ih.1.entry hnode he, hdir⟩
  · rintro ⟨hreach, hdir⟩
    induction hreach with
    | root => exact .refl
    | @entry path entries name child _ hnode hmem ih =>
      refine (ih (by rw [isDir, hnode])).tail ?_
      exact mem_entriesOf.2 ⟨entries, (name, child), hnode, hmem, rfl, hdir⟩

/-! ## The iterator over the tree -/

/-- What the iterator gives for a directory that it takes from the stack. -/
def emitted (tree : DirTree) (path : PathBuf) : List WalkItem :=
  match tree.readDir path with
  | .ok entries => (entries.filter fun path => ¬ tree.isDir path).map .ok
  | .error e => [.error e]

/-- The weights on the stack. -/
noncomputable def pending (tree : DirTree) (it : WalkDirIter) : Nat := (it.dirs.map tree.weight).sum

/-- The iterator ends, and gives these items in some order. -/
def Yields (tree : DirTree) (it : WalkDirIter) (expected : List WalkItem) : Prop :=
  ∃ items, items.Perm expected ∧ ∀ turns calls, tree.pending it < turns → items.length < calls →
    WalkDirIter.collect tree turns calls it = some items

section Iterator

variable {it : WalkDirIter} {dirs : List PathBuf} {current : Option (List PathBuf)} {turns : Nat}

/-- A turn that finds neither a file nor a directory. -/
theorem next_nil (h : current = none ∨ current = some []) :
    WalkDirIter.next tree (turns + 1) ⟨[], current⟩ = some (none, ⟨[], current⟩) := by
  rcases h with rfl | rfl
  · rfl
  · rfl

/-- A turn that takes a directory from the stack. -/
theorem next_pop (h : current = none ∨ current = some []) (dirs : List PathBuf) (dir : PathBuf) :
    WalkDirIter.next tree (turns + 1) ⟨dirs ++ [dir], current⟩ =
      match tree.readDir dir with
      | .ok entries =>
        WalkDirIter.next tree turns
          ⟨dirs ++ entries.filter tree.isDir, some (entries.filter fun path => ¬ tree.isDir path)⟩
      | .error e => some (some (.error e), ⟨dirs, current⟩) := by
  rcases h with rfl | rfl
  · simp only [WalkDirIter.next, List.getLast?_concat, List.dropLast_concat]
  · simp only [WalkDirIter.next, List.getLast?_concat, List.dropLast_concat]

/-- The stack after a directory that could be read was taken from it is lighter. -/
theorem pending_pop {entries : List PathBuf} {dir : PathBuf} (hread : tree.readDir dir = .ok entries)
    (dirs : List PathBuf) (current files : Option (List PathBuf)) :
    tree.pending ⟨dirs ++ entries.filter tree.isDir, files⟩ < tree.pending ⟨dirs ++ [dir], current⟩ := by
  have hlt := tree.forest.sum_rank_expand dirs dir
  have hchildren : tree.forest.children dir = entries.filter tree.isDir := entriesOf_of_ok hread
  rw [hchildren] at hlt
  exact hlt

/-- Enough turns are as good as more. -/
theorem next_stable (n : Nat) : ∀ it, tree.pending it = n → ∀ f g, n < f → n < g →
    WalkDirIter.next tree f it = WalkDirIter.next tree g it := by
  induction n using Nat.strongRecOn with
  | ind n ih =>
    rintro ⟨dirs, current⟩ hn f g hf hg
    obtain ⟨f, rfl⟩ := Nat.exists_eq_add_one.2 (show 0 < f by omega)
    obtain ⟨g, rfl⟩ := Nat.exists_eq_add_one.2 (show 0 < g by omega)
    have hexhausted : current = none ∨ current = some [] →
        WalkDirIter.next tree (f + 1) ⟨dirs, current⟩ = WalkDirIter.next tree (g + 1) ⟨dirs, current⟩ := by
      intro h
      rcases List.eq_nil_or_concat dirs with rfl | ⟨dirs, dir, rfl⟩
      · rw [next_nil h, next_nil h]
      · rw [List.concat_eq_append] at hn ⊢
        rw [next_pop h, next_pop h]
        cases hread : tree.readDir dir with
        | error e => rfl
        | ok entries =>
          -- the loop goes on with a lighter stack, and a turn less
          have hless := pending_pop hread dirs current
            (some (entries.filter fun path => ¬ tree.isDir path))
          exact ih _ (hn ▸ hless) _ rfl f g (by omega) (by omega)
    match current with
    | none => exact hexhausted (.inl rfl)
    | some [] => exact hexhausted (.inr rfl)
    -- a file of the batch is returned in the first turn
    | some (_ :: _) => rfl

/-- The files of a batch come first. -/
theorem Yields.files {expected : List WalkItem} (h : tree.Yields ⟨dirs, some []⟩ expected) (files : List PathBuf) :
    tree.Yields ⟨dirs, some files⟩ (files.map .ok ++ expected) := by
  induction files with
  | nil => exact h
  | cons path files ih =>
    obtain ⟨items, hperm, hcollect⟩ := ih
    refine ⟨.ok path :: items, hperm.cons _, ?_⟩
    intro turns calls hturns hcalls
    rw [List.length_cons] at hcalls
    obtain ⟨calls, rfl⟩ := Nat.exists_eq_add_one.2 (show 0 < calls by omega)
    obtain ⟨turns, rfl⟩ := Nat.exists_eq_add_one.2 (show 0 < turns by omega)
    have hrest := hcollect (turns + 1) calls hturns (by omega)
    change (WalkDirIter.collect tree (turns + 1) calls ⟨dirs, some files⟩).map _ = _
    rw [hrest]
    rfl

/-- A directory that cannot be read gives its error. -/
theorem Yields.error {expected : List WalkItem} {dir : PathBuf} {e : IoError}
    (hcurrent : current = none ∨ current = some []) (hread : tree.readDir dir = .error e)
    (h : tree.Yields ⟨dirs, current⟩ expected) :
    tree.Yields ⟨dirs ++ [dir], current⟩ (.error e :: expected) := by
  obtain ⟨items, hperm, hcollect⟩ := h
  refine ⟨.error e :: items, hperm.cons _, ?_⟩
  intro turns calls hturns hcalls
  rw [List.length_cons] at hcalls
  obtain ⟨calls, rfl⟩ := Nat.exists_eq_add_one.2 (show 0 < calls by omega)
  obtain ⟨turns, rfl⟩ := Nat.exists_eq_add_one.2 (show 0 < turns by omega)
  -- the next call starts with the directory gone from the stack
  have hless : tree.pending ⟨dirs, current⟩ ≤ tree.pending ⟨dirs ++ [dir], current⟩ := by
    rw [pending, pending, List.map_append, List.sum_append]
    exact Nat.le_add_right _ _
  have hrest := hcollect (turns + 1) calls (by omega) (by omega)
  rw [WalkDirIter.collect, next_pop hcurrent, hread]
  dsimp only
  rw [hrest]
  rfl

/-- A directory that can be read is replaced by its files and its directories. -/
theorem Yields.descend {expected : List WalkItem} {entries : List PathBuf} {dir : PathBuf}
    (hcurrent : current = none ∨ current = some []) (hread : tree.readDir dir = .ok entries)
    (h : tree.Yields ⟨dirs ++ entries.filter tree.isDir, some (entries.filter fun path => ¬ tree.isDir path)⟩
      expected) :
    tree.Yields ⟨dirs ++ [dir], current⟩ expected := by
  obtain ⟨items, hperm, hcollect⟩ := h
  refine ⟨items, hperm, ?_⟩
  intro turns calls hturns hcalls
  obtain ⟨calls, rfl⟩ := Nat.exists_eq_add_one.2 (show 0 < calls by omega)
  obtain ⟨turns, rfl⟩ := Nat.exists_eq_add_one.2 (show 0 < turns by omega)
  have hless := pending_pop hread dirs current
    (some (entries.filter fun path => ¬ tree.isDir path))
  -- the same call goes on with the new stack, and one turn less does not matter
  have hrest := hcollect (turns + 1) (calls + 1) (by omega) hcalls
  rw [WalkDirIter.collect, next_stable _ _ rfl (turns + 1) turns (by omega) (by omega)] at hrest
  rw [WalkDirIter.collect, next_pop hcurrent, hread]
  exact hrest

theorem Yields.perm {l l' : List WalkItem} (h : tree.Yields it l) (hperm : l.Perm l') : tree.Yields it l' := by
  obtain ⟨items, hitems, hcollect⟩ := h
  exact ⟨items, hitems.trans hperm, hcollect⟩

/-- From any stack, the iterator gives what the directories below it emit. -/
theorem yields (tree : DirTree) (n : Nat) : ∀ dirs current, (current = none ∨ current = some []) →
    (dirs.map tree.weight).sum = n →
    tree.Yields ⟨dirs, current⟩ ((dirs.flatMap tree.forest.below).flatMap tree.emitted) := by
  -- the weights on the stack become fewer
  induction n using Nat.strongRecOn with
  | ind n ih =>
    intro dirs current hcurrent hn
    rcases List.eq_nil_or_concat dirs with rfl | ⟨dirs, dir, rfl⟩
    · refine ⟨[], List.Perm.refl _, ?_⟩
      intro turns calls hturns hcalls
      obtain ⟨calls, rfl⟩ := Nat.exists_eq_add_one.2 (show 0 < calls by omega)
      obtain ⟨turns, rfl⟩ := Nat.exists_eq_add_one.2 (show 0 < turns by omega)
      rw [WalkDirIter.collect, next_nil hcurrent]
    · rw [List.concat_eq_append] at hn ⊢
      have hless : ((dirs ++ tree.subdirs dir).map tree.weight).sum < n :=
        hn ▸ tree.forest.sum_rank_expand dirs dir
      have hvisit : (tree.emitted dir ++ ((dirs ++ tree.subdirs dir).flatMap tree.forest.below).flatMap
          tree.emitted).Perm (((dirs ++ [dir]).flatMap tree.forest.below).flatMap tree.emitted) := by
        rw [← List.flatMap_cons]
        exact (tree.forest.expand_perm dirs dir).flatMap_right _
      cases hread : tree.readDir dir with
      | error e =>
        have hnone : tree.subdirs dir = [] := entriesOf_of_error hread
        have hitem : tree.emitted dir = [.error e] := by rw [emitted, hread]
        rw [hnone, List.append_nil] at hless hvisit
        rw [hitem] at hvisit
        exact ((ih _ hless dirs current hcurrent rfl).error hcurrent hread).perm hvisit
      | ok entries =>
        have hsome : tree.subdirs dir = entries.filter tree.isDir := entriesOf_of_ok hread
        have hitems : tree.emitted dir = (entries.filter fun path => ¬ tree.isDir path).map .ok := by
          rw [emitted, hread]
        rw [hsome] at hless hvisit
        rw [hitems] at hvisit
        have hrest := (ih _ hless (dirs ++ entries.filter tree.isDir) (some []) (.inr rfl) rfl).files
          (entries.filter fun path => ¬ tree.isDir path)
        exact (hrest.descend hcurrent hread).perm hvisit

end Iterator

/-! ## What the walk gives -/

/-- The error of a directory that cannot be read. -/
def deniedWith (tree : DirTree) (path : PathBuf) : Option IoError :=
  match tree.node path with
  | some (.dir denied _) => denied
  | _ => none

/-- The size of a file. -/
def fileSize (tree : DirTree) (path : PathBuf) : Nat :=
  match tree.node path with
  | some (.file len) => len.toNat
  | _ => 0

end DirTree

/-- The paths among the items. -/
def walkedPaths (items : List WalkItem) : List PathBuf := items.filterMap Except.toOption

/-- The errors among the items. -/
def walkErrors (items : List WalkItem) : List IoError :=
  items.filterMap fun item =>
    match item with
    | .ok _ => none
    | .error e => some e

/-- What is asked of the items: every file that is reached is given once, nothing is given that is not reached, and
there is one error for each directory that is reached and cannot be read. -/
structure WalkExact (tree : DirTree) (items : List WalkItem) : Prop where
  files : ∀ path, tree.Reachable path → tree.isFile path → (walkedPaths items).count path = 1
  reached : ∀ path ∈ walkedPaths items, tree.Reachable path
  errors : ∃ dirs : List PathBuf, dirs.Nodup ∧ (∀ dir, dir ∈ dirs ↔ tree.Reachable dir ∧ tree.deniedWith dir ≠ none) ∧
    (walkErrors items).Perm (dirs.filterMap tree.deniedWith)

namespace DirTree

section Walk

variable {tree : DirTree} {path : PathBuf} {items : List WalkItem}

theorem walkedPaths_emitted (tree : DirTree) (path : PathBuf) :
    walkedPaths (tree.emitted path) = tree.filesOf path := by
  rw [emitted, filesOf, entriesOf]
  cases tree.readDir path with
  | ok entries =>
    dsimp only
    rw [walkedPaths, List.filterMap_map]
    exact List.filterMap_some
  | error e => rfl

/-- A directory emits an error if it is denied. -/
theorem walkErrors_emitted (hdir : tree.isDir path) :
    walkErrors (tree.emitted path) = (tree.deniedWith path).toList := by
  rw [isDir] at hdir
  split at hdir
  · next denied entries hnode =>
    cases denied with
    | none =>
      rw [deniedWith, hnode, emitted, readDir, hnode]
      dsimp only
      rw [walkErrors, List.filterMap_map]
      exact List.filterMap_eq_nil_iff.2 fun _ _ => rfl
    | some e =>
      rw [deniedWith, hnode, emitted, readDir, hnode]
      rfl
  · cases hdir

/-- The paths that are found below the root. -/
noncomputable def found (tree : DirTree) : List PathBuf := (tree.forest.below []).flatMap tree.filesOf

/-- No path is found twice. -/
theorem nodup_found (tree : DirTree) : tree.found.Nodup := by
  rw [found, List.nodup_flatMap]
  refine ⟨fun dir _ => tree.nodup_entriesOf _ dir, tree.nodup_below.imp fun {dir dir'} hne => ?_⟩
  exact fun path hpath hpath' => hne (eq_of_mem_entriesOf hpath hpath')

theorem mem_found : path ∈ tree.found ↔ tree.Reachable path ∧ ¬ tree.isDir path := by
  rw [found, List.mem_flatMap]
  constructor
  · rintro ⟨dir, hdir, hpath⟩
    obtain ⟨entries, e, hnode, he, rfl, hfile⟩ := mem_entriesOf.1 hpath
    exact ⟨(mem_below_iff.1 hdir).1.entry hnode he, of_decide_eq_true hfile⟩
  · rintro ⟨hreach, hfile⟩
    cases hreach with
    -- the root is a directory
    | root => exact absurd rfl hfile
    | @entry dir entries name child hdir hnode hmem =>
      refine ⟨dir, mem_below_iff.2 ⟨hdir, by rw [isDir, hnode]⟩, ?_⟩
      exact mem_entriesOf.2 ⟨entries, (name, child), hnode, hmem, rfl, decide_eq_true hfile⟩

theorem not_isDir_of_isFile (h : tree.isFile path) : ¬ tree.isDir path := by
  rw [isFile] at h
  rw [isDir]
  split at h
  · next len hnode =>
    rw [hnode]
    exact Bool.false_ne_true
  · cases h

/-- The paths of the walk, in its order. -/
theorem walkedPaths_perm (h : items.Perm ((tree.forest.below []).flatMap tree.emitted)) :
    (walkedPaths items).Perm tree.found := by
  refine (h.filterMap Except.toOption).trans (List.Perm.of_eq ?_)
  rw [List.filterMap_flatMap, found]
  exact List.flatMap_congr fun dir _ => tree.walkedPaths_emitted dir

/-- The items of the walk are what is asked of them. -/
theorem walkExact_of_perm (h : items.Perm ((tree.forest.below []).flatMap tree.emitted)) : WalkExact tree items := by
  have hpaths : (walkedPaths items).Perm tree.found := walkedPaths_perm h
  refine ⟨?_, ?_, ?_⟩
  · intro path hreach hfile
    rw [hpaths.count_eq]
    exact List.count_eq_one_of_mem tree.nodup_found (mem_found.2 ⟨hreach, not_isDir_of_isFile hfile⟩)
  · intro path hpath
    exact (mem_found.1 (hpaths.mem_iff.1 hpath)).1
  · refine ⟨(tree.forest.below []).filter fun dir => (tree.deniedWith dir).isSome, tree.nodup_below.filter _, ?_, ?_⟩
    · intro dir
      rw [List.mem_filter, mem_below_iff, Option.isSome_iff_ne_none, and_assoc]
      refine and_congr_right fun _ => and_iff_right_of_imp fun hdenied => ?_
      rw [deniedWith] at hdenied
      rw [isDir]
      split at hdenied
      · rfl
      · exact absurd rfl hdenied
    · refine (h.filterMap _).trans (List.Perm.of_eq ?_)
      rw [List.filterMap_flatMap, List.filterMap_filter, List.filterMap_eq_flatMap_toList]
      refine List.flatMap_congr fun dir hdir => ?_
      refine (walkErrors_emitted (mem_below_iff.1 hdir).2).trans ?_
      cases tree.deniedWith dir with
      | none => rfl
      | some e => rfl

/-! ## The sizes -/

theorem addFossilSize_ok (tree : DirTree) (totalSize : UInt64) (path : PathBuf) :
    ∃ total, addFossilSize tree totalSize path = .ok total ∧
      total.toNat = (totalSize.toNat + tree.fileSize path) % 2 ^ 64 := by
  rw [addFossilSize, isFile, metadataLen, fileSize]
  split
  · next len hnode =>
    rw [if_pos rfl, hnode]
    exact ⟨totalSize + len, rfl, UInt64.toNat_add _ _⟩
  · refine ⟨totalSize, rfl, ?_⟩
    rw [Nat.add_zero]
    exact (Nat.mod_eq_of_lt totalSize.toNat_lt).symm

/-- The loop over the entries adds their sizes in 64 bits. -/
theorem foldlM_addFossilSize (tree : DirTree) (paths : List PathBuf) (totalSize : UInt64) :
    ∃ total, paths.foldlM (addFossilSize tree) totalSize = .ok total ∧
      total.toNat = (totalSize.toNat + (paths.map tree.fileSize).sum) % 2 ^ 64 := by
  induction paths generalizing totalSize with
  | nil => exact ⟨totalSize, rfl, (Nat.mod_eq_of_lt totalSize.toNat_lt).symm⟩
  | cons path paths ih =>
    obtain ⟨next, hnext, hvalue⟩ := tree.addFossilSize_ok totalSize path
    obtain ⟨total, htotal, hsum⟩ := ih next
    refine ⟨total, ?_, ?_⟩
    · rw [List.foldlM_cons, hnext]
      exact htotal
    · rw [hsum, hvalue, Nat.mod_add_mod, List.map_cons, List.sum_cons, Nat.add_assoc]

/-- What is not a file adds nothing. -/
theorem sum_fileSize_filter (tree : DirTree) (paths : List PathBuf) :
    ((paths.filter tree.isFile).map tree.fileSize).sum = (paths.map tree.fileSize).sum := by
  induction paths with
  | nil => rfl
  | cons path paths ih =>
    rw [List.filter_cons, List.map_cons, List.sum_cons, ← ih]
    split
    · rw [List.map_cons, List.sum_cons]
    · next hfile =>
      have hzero : tree.fileSize path = 0 := by
        rw [isFile] at hfile
        rw [fileSize]
        split
        · next len hnode =>
          rw [hnode] at hfile
          exact absurd rfl hfile
        · rfl
      rw [hzero, Nat.zero_add]

/-- The files of a tree, which the walk adds up. -/
theorem exists_files (h : items.Perm ((tree.forest.below []).flatMap tree.emitted)) :
    ∃ files : List PathBuf, files.Nodup ∧ (∀ path, path ∈ files ↔ tree.Reachable path ∧ tree.isFile path) ∧
      (files.map tree.fileSize).sum = ((walkedPaths items).map tree.fileSize).sum := by
  refine ⟨tree.found.filter tree.isFile, tree.nodup_found.filter _, ?_, ?_⟩
  · intro path
    rw [List.mem_filter, mem_found, and_assoc]
    exact and_congr_right fun _ => and_iff_right_of_imp not_isDir_of_isFile
  · rw [sum_fileSize_filter]
    exact ((walkedPaths_perm h).map _).sum_eq.symm

end Walk

end DirTree

/-- In every tree, whatever cannot be read in it, the walk ends and gives what is asked of it: every file that is
reached once, and one error for each directory that is reached and cannot be read. The size is the sum of the sizes of
the files that are reached, in 64 bits. -/
theorem fossil_walk {F : Type} (tree : DirTree) (toMegabytes : UInt64 → F) :
    ∃ fuel items total,
      (∀ more, fuel ≤ more → walkDir tree more = some items ∧
        computeFossilSize tree toMegabytes more = some (.ok (toMegabytes total))) ∧
      WalkExact tree items ∧
      ∃ files : List PathBuf, files.Nodup ∧ (∀ path, path ∈ files ↔ tree.Reachable path ∧ tree.isFile path) ∧
        total.toNat = (files.map tree.fileSize).sum % 2 ^ 64 := by
  obtain ⟨items, hperm, hcollect⟩ := tree.yields _ [[]] none (.inl rfl) rfl
  rw [List.flatMap_singleton] at hperm
  obtain ⟨total, htotal, hsum⟩ := tree.foldlM_addFossilSize (walkedPaths items) 0
  obtain ⟨files, hnodup, hfiles, hsizes⟩ := DirTree.exists_files hperm
  -- a turn for each unit of weight, and a call for each item and for the end
  refine ⟨max (tree.pending ⟨[[]], none⟩) items.length + 1, items, total, ?_, DirTree.walkExact_of_perm hperm,
    files, hnodup, hfiles, ?_⟩
  · intro more hmore
    have hwalk : walkDir tree more = some items := hcollect more more (by omega) (by omega)
    refine ⟨hwalk, ?_⟩
    rw [walkedPaths] at htotal
    rw [computeFossilSize, hwalk, Option.map_some, htotal]
    rfl
  · rw [hsum, hsizes]
    change (0 + _) % _ = _
    rw [Nat.zero_add]

/-! ## Trees whose walk tells less -/

theorem FsNode.distinct_file (len : UInt64) : (FsNode.file len).Distinct := by
  intro path denied entries h
  cases path with
  | nil => cases h
  | cons name path => cases h

/-- A directory with different names, over children of which that is so. -/
theorem FsNode.distinct_dir {denied : Option IoError} {entries : List (String × FsNode)}
    (hnames : (entries.map Prod.fst).Nodup) (hchildren : ∀ e ∈ entries, e.2.Distinct) :
    (FsNode.dir denied entries).Distinct := by
  intro path denied' entries' h
  cases path with
  | nil =>
    cases h
    exact hnames
  | cons name path =>
    obtain ⟨child, hlookup, hchild⟩ := Option.bind_eq_some_iff.1 h
    obtain ⟨l, l', rfl, -⟩ := List.lookup_eq_some_iff.1 hlookup
    exact hchildren (name, child) (List.mem_append_right l List.mem_cons_self) path denied' entries' hchild

/-- A directory that cannot be read, in another. -/
def nestedDenied : DirTree where
  denied := none
  entries := [("a", .dir (some .permissionDenied) [("b", .dir (some .permissionDenied) [])])]
  distinct := by
    refine FsNode.distinct_dir (List.nodup_singleton _) (List.forall_mem_singleton.2 ?_)
    refine FsNode.distinct_dir (List.nodup_singleton _) (List.forall_mem_singleton.2 ?_)
    exact FsNode.distinct_dir List.nodup_nil fun _ h => absurd h List.not_mem_nil

/-- Three files of the largest size that a file can have. -/
def hugeFiles : DirTree where
  denied := none
  entries := [("a", .file 0x7fffffffffffffff), ("b", .file 0x7fffffffffffffff), ("c", .file 0x7fffffffffffffff)]
  distinct := by
    refine FsNode.distinct_dir (by decide) ?_
    simp [FsNode.distinct_file]

/-- A directory that cannot be read has one error also if another is below it, and sizes beyond 64 bits are not
added up. -/
theorem exists_fossil_walk_short :
    (∃ (tree : DirTree) (items : List WalkItem), walkDir tree 3 = some items ∧
      tree.deniedWith ["a"] = some .permissionDenied ∧ tree.deniedWith ["a", "b"] = some .permissionDenied ∧
      walkErrors items = [.permissionDenied]) ∧
    ∃ (tree : DirTree) (total : UInt64), computeFossilSize tree id 4 = some (.ok total) ∧
      (∀ path ∈ [["a"], ["b"], ["c"]], tree.isFile path) ∧
      total.toNat < ([["a"], ["b"], ["c"]].map tree.fileSize).sum := by
  refine ⟨⟨nestedDenied, [.error .permissionDenied], rfl, rfl, rfl, rfl⟩, ?_⟩
  refine ⟨hugeFiles, 0x7ffffffffffffffd, rfl, by decide, ?_⟩
  decide

end OperatingOrganism.ColonyServer

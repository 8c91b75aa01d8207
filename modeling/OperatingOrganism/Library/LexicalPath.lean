import Mathlib.Data.List.Basic

/-!
# Paths, resolved by their text

A path is a list of components, each of which goes up or down, and a place is where a path leads if nothing is
looked up: so many steps above where it started, and then down by names. Above the root there is the root.

Where a path leads from a place depends only on where it leads by itself (`walk_eq_follow`), so a path comes
back to the place where it started if and only if it goes up and down again by the names that it left
(`walk_eq_self_iff`).
-/

set_option autoImplicit false

namespace OperatingOrganism.LexicalPath

universe u

variable {α : Type u}

/-- A component of a path. -/
inductive Component (α : Type u) where
  | up
  | name (a : α)
  deriving DecidableEq

/-- Where a path leads. -/
@[ext]
structure Place (α : Type u) where
  absolute : Bool
  /-- How many steps it is above the start, before it goes down. -/
  ups : Nat
  /-- The names that it goes down by, the last one first. -/
  names : List α
  ups_eq_zero : absolute = true → ups = 0
  deriving DecidableEq

namespace Place

/-- The start of a relative path. -/
def here : Place α := ⟨false, 0, [], nofun⟩

/-- The start of an absolute one. -/
def root : Place α := ⟨true, 0, [], fun _ => rfl⟩

def child (p : Place α) (a : α) : Place α := { p with names := a :: p.names }

def parent (p : Place α) : Place α :=
  match p.names with
  | _ :: names => { p with names := names }
  | [] =>
    if h : p.absolute = true then p
    else { p with ups := p.ups + 1, ups_eq_zero := fun h' => absurd h' h }

def enter (p : Place α) : Component α → Place α
  | .up => p.parent
  | .name a => p.child a

/-- Where a path leads from a place. -/
def walk (p : Place α) (path : List (Component α)) : Place α := path.foldl enter p

/-- So many steps up. -/
def climb (p : Place α) : Nat → Place α
  | 0 => p
  | k + 1 => (p.climb k).parent

/-- Where a relative place is, seen from another place. -/
def follow (p r : Place α) : Place α := { p.climb r.ups with names := r.names ++ (p.climb r.ups).names }

variable {p q r : Place α} {a b : α} {path path' : List (Component α)}

@[simp] theorem walk_nil : p.walk [] = p := rfl

@[simp] theorem walk_cons (c : Component α) : p.walk (c :: path) = (p.enter c).walk path := rfl

@[simp] theorem walk_append : p.walk (path ++ path') = (p.walk path).walk path' := List.foldl_append

theorem child_inj : p.child a = q.child b ↔ p = q ∧ a = b := by
  simp only [Place.ext_iff, child, List.cons.injEq]
  tauto

/-! ## Steps up -/

@[simp] theorem absolute_parent : p.parent.absolute = p.absolute := by
  rw [parent]
  split
  · rfl
  · split
    · rfl
    · rfl

@[simp] theorem names_parent : p.parent.names = p.names.tail := by
  rw [parent]
  split
  · simp [*]
  · split
    · simp [*]
    · simp [*]

/-- A relative place without names is left behind. -/
theorem ups_parent (h : p.absolute = false) :
    p.parent.ups = if p.names = [] then p.ups + 1 else p.ups := by
  rw [parent]
  split
  · simp [*]
  · simp [*]

@[simp] theorem absolute_climb (k : Nat) : (p.climb k).absolute = p.absolute := by
  induction k with
  | zero => rfl
  | succ k ih => rw [climb, absolute_parent, ih]

@[simp] theorem names_climb (k : Nat) : (p.climb k).names = p.names.drop k := by
  induction k with
  | zero => rfl
  | succ k ih => rw [climb, names_parent, ih, List.tail_drop]

theorem ups_climb (h : p.absolute = false) (k : Nat) : (p.climb k).ups = p.ups + (k - p.names.length) := by
  induction k with
  | zero => simp [climb]
  | succ k ih =>
    have hclimb : (p.climb k).absolute = false := (absolute_climb k).trans h
    rw [climb, ups_parent hclimb, names_climb, ih]
    split
    · rename_i hdrop
      have hle := List.drop_eq_nil_iff.1 hdrop
      omega
    · rename_i hdrop
      have hlt := Nat.not_le.1 (mt List.drop_eq_nil_iff.2 hdrop)
      omega

/-! ## Where a path leads -/

@[simp] theorem absolute_enter (c : Component α) : (p.enter c).absolute = p.absolute := by
  cases c with
  | up => exact absolute_parent
  | name a => rfl

@[simp] theorem follow_here : p.follow here = p := rfl

/-- A step of a relative place is a step of where it is. -/
theorem follow_enter (hr : r.absolute = false) (c : Component α) :
    p.follow (r.enter c) = (p.follow r).enter c := by
  cases c with
  | name a => rfl
  | up =>
    obtain ⟨absolute, ups, names, hups⟩ := r
    cases names with
    -- without names the step goes up from the place itself, since a relative place has no root
    | cons a names => rfl
    | nil =>
      obtain rfl : absolute = false := hr
      rfl

theorem follow_walk (hr : r.absolute = false) : p.follow (r.walk path) = (p.follow r).walk path := by
  -- induction on the path, from any relative place
  induction path generalizing r with
  | nil => rfl
  | cons c path ih => rw [walk_cons, walk_cons, ih ((absolute_enter c).trans hr), follow_enter hr]

/-- Where a path leads depends on where it leads by itself. -/
theorem walk_eq_follow (p : Place α) (path : List (Component α)) : p.walk path = p.follow (here.walk path) := by
  rw [follow_walk rfl, follow_here]

/-- From the place the path comes back to it: it goes down again by the names that it left, and did not come
above the start. -/
structure Returns (p : Place α) (path : List (Component α)) : Prop where
  names : (here.walk path).names = p.names.take (here.walk path).ups
  below : p.absolute = true ∨ (here.walk path).ups ≤ p.names.length

theorem follow_eq_self_iff : p.follow r = p ↔
    r.names = p.names.take r.ups ∧ (p.absolute = true ∨ r.ups ≤ p.names.length) := by
  have hnames : r.names ++ p.names.drop r.ups = p.names ↔ r.names = p.names.take r.ups := by
    constructor
    · intro h
      exact List.append_cancel_right (h.trans (List.take_append_drop r.ups p.names).symm)
    · intro h
      rw [h, List.take_append_drop]
  -- coming above the start is what cannot be undone; at the root there is no above
  have hups : (p.climb r.ups).ups = p.ups ↔ p.absolute = true ∨ r.ups ≤ p.names.length := by
    cases habs : p.absolute with
    | true =>
      have hclimb : (p.climb r.ups).ups = 0 := (p.climb r.ups).ups_eq_zero ((absolute_climb _).trans habs)
      rw [hclimb, p.ups_eq_zero habs]
      simp
    | false =>
      rw [ups_climb habs]
      simp only [Bool.false_eq_true, false_or]
      omega
  rw [← hnames, ← hups, Place.ext_iff, follow]
  simp only [names_climb, absolute_climb, true_and]
  exact and_comm

/-- A path comes back if and only if it goes up and down again by the names that it left. -/
theorem walk_eq_self_iff : p.walk path = p ↔ p.Returns path := by
  rw [walk_eq_follow, follow_eq_self_iff]
  exact ⟨fun h => ⟨h.1, h.2⟩, fun h => ⟨h.names, h.below⟩⟩

end Place

end OperatingOrganism.LexicalPath

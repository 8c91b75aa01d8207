import Mathlib.Logic.Basic

/-!
# Operations on a disk that can fail

An operation is a function of a world: a disk, the outcome of every step still to come and every reading of
the clock still to come. It ends with a value or with an error, and what it did before an error stays done.

A step that writes can be cut short, and then leaves a part of what it was to write. `Performs x w l m k`
says what an operation does to the disk: if it succeeds, all of the writes `l`, after `m` steps and `k`
readings of the clock; if it fails, some of them from the first on, and perhaps a part of the next one.
Operations in sequence perform their writes in sequence (`Performs.bind`).
-/

set_option autoImplicit false

namespace OperatingOrganism.FaultyIo

/-- How a step ends. -/
inductive Outcome where
  | ok
  /-- It fails and the disk is as before. -/
  | failed
  /-- A write fails, or the process ends, after a part of it. -/
  | cutShort
  deriving DecidableEq, Repr

/-- The disk, and what the surroundings will answer. -/
@[ext]
structure World (D T : Type) where
  disk : D
  outcomes : Nat → Outcome
  clock : Nat → T

/-- An operation. -/
def Io (D T E α : Type) : Type := World D T → Except E α × World D T

variable {D T E α β : Type}

instance : Monad (Io D T E) where
  pure a w := (.ok a, w)
  bind x f w :=
    match x w with
    | (.ok a, w') => f a w'
    | (.error e, w') => (.error e, w')

/-- After `m` steps and `k` readings of the clock. -/
def World.after (w : World D T) (disk : D) (m k : Nat) : World D T where
  disk := disk
  outcomes n := w.outcomes (n + m)
  clock n := w.clock (n + k)

@[simp] theorem World.after_disk (w : World D T) (d : D) (m k : Nat) : (w.after d m k).disk = d := rfl

@[simp] theorem World.after_outcomes (w : World D T) (d : D) (m k n : Nat) :
    (w.after d m k).outcomes n = w.outcomes (n + m) := rfl

@[simp] theorem World.after_clock (w : World D T) (d : D) (m k n : Nat) :
    (w.after d m k).clock n = w.clock (n + k) := rfl

@[simp] theorem World.after_after (w : World D T) (d d' : D) (m k m' k' : Nat) :
    (w.after d m k).after d' m' k' = w.after d' (m + m') (k + k') := by
  ext n
  · rfl
  · simp [World.after, Nat.add_assoc, Nat.add_comm m]
  · simp [World.after, Nat.add_assoc, Nat.add_comm k]

/-! ## Operations -/

/-- An operation that fails. -/
def fail (e : E) : Io D T E α := fun w => (.error e, w)

/-- The outcome of the next step. -/
def nextOutcome : Io D T E Outcome := fun w => (.ok (w.outcomes 0), w.after w.disk 1 0)

/-- The next reading of the clock. -/
def now : Io D T E T := fun w => (.ok (w.clock 0), w.after w.disk 0 1)

/-- A change of the disk. -/
def modifyDisk (f : D → D) : Io D T E Unit := fun w => (.ok (), { w with disk := f w.disk })

/-- The value, or a default in the place of an error. -/
def Io.unwrapOr (x : Io D T E α) (default : α) : Io D T E α := fun w =>
  match x w with
  | (.ok a, w') => (.ok a, w')
  | (.error _, w') => (.ok default, w')

/-- A step that leaves the disk as it is. -/
def attempt (e : E) : Io D T E Unit := do
  match ← nextOutcome with
  | .ok => pure ()
  | .failed | .cutShort => fail e

/-- What a write makes of the disk, as a whole and if it is cut short. -/
structure Write (D : Type) where
  whole : D → D
  cut : D → D

/-- A step that writes. -/
def Write.perform (write : Write D) (e : E) : Io D T E Unit := do
  match ← nextOutcome with
  | .ok => modifyDisk write.whole
  | .failed => fail e
  | .cutShort =>
    modifyDisk write.cut
    fail e

/-- The disk after a list of writes. -/
def writeAll (l : List (Write D)) (disk : D) : D := l.foldl (fun d write => write.whole d) disk

@[simp] theorem writeAll_cons (write : Write D) (l : List (Write D)) (disk : D) :
    writeAll (write :: l) disk = writeAll l (write.whole disk) := rfl

@[simp] theorem writeAll_append (l l' : List (Write D)) (disk : D) :
    writeAll (l ++ l') disk = writeAll l' (writeAll l disk) := List.foldl_append

/-! ## Sequences -/

section Bind

variable {x : Io D T E α} {f : α → Io D T E β} {w w' w'' : World D T} {a : α} {b : β} {e : E}

theorem bind_of_ok (h : x w = (.ok a, w')) : (x >>= f) w = f a w' := by
  simp only [bind, h]

theorem bind_of_error (h : x w = (.error e, w')) : (x >>= f) w = (.error e, w') := by
  simp only [bind, h]

/-- A sequence of two operations succeeds if both do. -/
theorem bind_eq_ok :
    (x >>= f) w = (.ok b, w'') ↔ ∃ a w', x w = (.ok a, w') ∧ f a w' = (.ok b, w'') := by
  rcases hx : x w with ⟨_ | a, w'⟩
  · simp [bind_of_error hx]
  · rw [bind_of_ok hx]
    constructor
    · intro h
      exact ⟨a, w', rfl, h⟩
    · rintro ⟨_, _, ⟨⟩, h⟩
      exact h

/-- It fails if one of them does. -/
theorem bind_eq_error :
    (x >>= f) w = (.error e, w'') ↔
      x w = (.error e, w'') ∨ ∃ a w', x w = (.ok a, w') ∧ f a w' = (.error e, w'') := by
  rcases hx : x w with ⟨_ | a, w'⟩
  · simp [bind_of_error hx]
  · rw [bind_of_ok hx]
    constructor
    · intro h
      exact .inr ⟨a, w', rfl, h⟩
    · rintro (⟨⟨⟩⟩ | ⟨_, _, ⟨⟩, h⟩)
      exact h

end Bind

/-! ## Single steps -/

section Step

theorem nextOutcome_bind (w : World D T) {f : Outcome → Io D T E α} :
    (nextOutcome >>= f) w = f (w.outcomes 0) (w.after w.disk 1 0) := rfl

theorem now_eq (w : World D T) : (now : Io D T E T) w = (.ok (w.clock 0), w.after w.disk 0 1) := rfl

theorem attempt_eq (e : E) (w : World D T) : (attempt e : Io D T E Unit) w =
    (if w.outcomes 0 = .ok then .ok () else .error e, w.after w.disk 1 0) := by
  rw [attempt, nextOutcome_bind]
  cases w.outcomes 0 <;> rfl

theorem perform_eq (write : Write D) (e : E) (w : World D T) : (write.perform e : Io D T E Unit) w =
    match w.outcomes 0 with
    | .ok => (.ok (), w.after (write.whole w.disk) 1 0)
    | .failed => (.error e, w.after w.disk 1 0)
    | .cutShort => (.error e, w.after (write.cut w.disk) 1 0) := by
  rw [Write.perform, nextOutcome_bind]
  cases w.outcomes 0 <;> rfl

end Step

/-! ## What an operation keeps -/

/-- The operation reads its outcomes and its clock in order, and keeps `f` of the disk, whether it succeeds
or fails. -/
def Keeps {γ : Type} (x : Io D T E α) (f : D → γ) : Prop :=
  ∀ w, ∃ disk m k, (x w).2 = w.after disk m k ∧ f disk = f w.disk

section Keeps

variable {γ : Type} {f : D → γ} {w : World D T}

theorem keeps_pure (a : α) : Keeps (pure a : Io D T E α) f :=
  fun w => ⟨w.disk, 0, 0, rfl, rfl⟩

theorem keeps_now : Keeps (now : Io D T E T) f := fun w => ⟨w.disk, 0, 1, rfl, rfl⟩

theorem keeps_attempt (e : E) : Keeps (attempt e : Io D T E Unit) f :=
  fun w => ⟨w.disk, 1, 0, by rw [attempt_eq], rfl⟩

theorem keeps_perform {write : Write D} {e : E} (hwhole : ∀ d, f (write.whole d) = f d)
    (hcut : ∀ d, f (write.cut d) = f d) : Keeps (write.perform e : Io D T E Unit) f := by
  intro w
  rw [perform_eq]
  cases w.outcomes 0 with
  | ok => exact ⟨write.whole w.disk, 1, 0, rfl, hwhole w.disk⟩
  | failed => exact ⟨w.disk, 1, 0, rfl, rfl⟩
  | cutShort => exact ⟨write.cut w.disk, 1, 0, rfl, hcut w.disk⟩

theorem Keeps.bind {x : Io D T E α} {g : α → Io D T E β} (hx : Keeps x f) (hg : ∀ a, Keeps (g a) f) :
    Keeps (x >>= g) f := by
  intro w
  obtain ⟨disk, m, k, hw, hf⟩ := hx w
  rcases hres : x w with ⟨e | a, w'⟩
  · rw [bind_of_error hres]
    rw [hres] at hw
    exact ⟨disk, m, k, hw, hf⟩
  · rw [bind_of_ok hres]
    rw [hres] at hw
    obtain ⟨disk', m', k', hw', hf'⟩ := hg a w'
    dsimp only at hw
    subst hw
    exact ⟨disk', m + m', k + k', by rw [hw', World.after_after], hf'.trans hf⟩

theorem Keeps.forM {δ : Type} {g : δ → Io D T E Unit} (hg : ∀ c, Keeps (g c) f) (cs : List δ) :
    Keeps (cs.forM g) f := by
  induction cs with
  | nil => exact keeps_pure ()
  | cons c cs ih => exact (hg c).bind fun _ => ih

end Keeps

/-! ## What an operation writes -/

/-- What is left of a list of writes that came to an end: those before the last one begun, and perhaps a
part of that one. -/
def CutOff (l : List (Write D)) (disk disk' : D) : Prop :=
  ∃ l₁ write l₂, l = l₁ ++ write :: l₂ ∧
    (disk' = writeAll l₁ disk ∨ disk' = write.cut (writeAll l₁ disk))

theorem CutOff.append_right {l : List (Write D)} {disk disk' : D} (h : CutOff l disk disk')
    (l' : List (Write D)) : CutOff (l ++ l') disk disk' := by
  obtain ⟨l₁, write, l₂, rfl, hdisk⟩ := h
  exact ⟨l₁, write, l₂ ++ l', by simp, hdisk⟩

theorem CutOff.append_left {l' : List (Write D)} {disk disk' : D} (l : List (Write D))
    (h : CutOff l' (writeAll l disk) disk') : CutOff (l ++ l') disk disk' := by
  obtain ⟨l₁, write, l₂, rfl, hdisk⟩ := h
  refine ⟨l ++ l₁, write, l₂, by simp, ?_⟩
  rwa [writeAll_append]

/-- The operation performs the writes, in `m` steps and with `k` readings of the clock. -/
structure Performs (x : Io D T E Unit) (w : World D T) (l : List (Write D)) (m k : Nat) : Prop where
  ok : ∀ w', x w = (.ok (), w') → w' = w.after (writeAll l w.disk) m k
  error : ∀ e w', x w = (.error e, w') → CutOff l w.disk w'.disk
  succeeds : (∀ n < m, w.outcomes n = .ok) → x w = (.ok (), w.after (writeAll l w.disk) m k)

section Performs

variable {x : Io D T E Unit} {w : World D T} {l l' : List (Write D)} {m m' k k' : Nat}

theorem performs_pure : Performs (pure () : Io D T E Unit) w [] 0 0 where
  ok w' h := by
    cases h
    rfl
  error e w' h := by cases h
  succeeds _ := rfl

theorem performs_perform (write : Write D) (e : E) : Performs (write.perform e) w [write] 1 0 where
  ok w' h := by
    rw [perform_eq] at h
    cases ho : w.outcomes 0 <;> rw [ho] at h <;> cases h
    rfl
  error e' w' h := by
    refine ⟨[], write, [], rfl, ?_⟩
    rw [perform_eq] at h
    cases ho : w.outcomes 0 <;> rw [ho] at h <;> cases h
    · exact .inl rfl
    · exact .inr rfl
  succeeds h := by
    rw [perform_eq, h 0 Nat.one_pos]
    rfl

/-- Operations in sequence perform their writes in sequence. -/
theorem Performs.bind {f : Unit → Io D T E Unit} (hx : Performs x w l m k)
    (hf : Performs (f ()) (w.after (writeAll l w.disk) m k) l' m' k') :
    Performs (x >>= f) w (l ++ l') (m + m') (k + k') where
  ok w' h := by
    obtain ⟨⟨⟩, w₁, h₁, h₂⟩ := bind_eq_ok.1 h
    obtain rfl := hx.ok w₁ h₁
    rw [hf.ok w' h₂]
    simp
  error e w' h := by
    rcases bind_eq_error.1 h with h₁ | ⟨⟨⟩, w₁, h₁, h₂⟩
    · exact (hx.error e w' h₁).append_right l'
    · obtain rfl := hx.ok w₁ h₁
      exact (hf.error e w' h₂).append_left l
  succeeds h := by
    have h₁ := hx.succeeds fun n hn => h n (Nat.lt_of_lt_of_le hn (Nat.le_add_right m m'))
    have h₂ := hf.succeeds fun n hn => by
      rw [World.after_outcomes]
      exact h (n + m) (by omega)
    rw [bind_of_ok h₁, h₂]
    simp

/-- A step that leaves the disk as it is, before an operation that writes. -/
theorem Performs.attempt_bind {e : E} {f : Unit → Io D T E Unit} {write : Write D}
    (hf : Performs (f ()) (w.after w.disk 1 0) (write :: l) m k) :
    Performs (attempt e >>= f) w (write :: l) (1 + m) k where
  ok w' h := by
    obtain ⟨⟨⟩, w₁, h₁, h₂⟩ := bind_eq_ok.1 h
    rw [attempt_eq] at h₁
    obtain rfl := (Prod.mk.inj h₁).2
    rw [hf.ok w' h₂]
    simp
  error e' w' h := by
    rcases bind_eq_error.1 h with h₁ | ⟨⟨⟩, w₁, h₁, h₂⟩
    · rw [attempt_eq] at h₁
      obtain rfl := (Prod.mk.inj h₁).2
      exact ⟨[], write, l, rfl, .inl rfl⟩
    · rw [attempt_eq] at h₁
      obtain rfl := (Prod.mk.inj h₁).2
      exact hf.error e' w' h₂
  succeeds h := by
    have h₁ : (attempt e : Io D T E Unit) w = (.ok (), w.after w.disk 1 0) := by
      rw [attempt_eq, if_pos (h 0 (by omega))]
    have h₂ := hf.succeeds fun n hn => by
      rw [World.after_outcomes]
      exact h (n + 1) (by omega)
    rw [bind_of_ok h₁, h₂]
    simp

/-- A step that succeeds whatever its outcome and leaves the disk as it is, before an operation that uses
its result. -/
theorem Performs.ok_bind {x : Io D T E α} {f : α → Io D T E Unit} {a : α}
    (hx : x w = (.ok a, w.after w.disk m k)) (hf : Performs (f a) (w.after w.disk m k) l m' k') :
    Performs (x >>= f) w l (m + m') (k + k') where
  ok w' h := by
    rw [bind_of_ok hx] at h
    rw [hf.ok w' h]
    simp
  error e w' h := by
    rw [bind_of_ok hx] at h
    exact hf.error e w' h
  succeeds h := by
    have h₂ := hf.succeeds fun n hn => by
      rw [World.after_outcomes]
      exact h (n + m) (by omega)
    rw [bind_of_ok hx, h₂]
    simp

/-- A loop over a list performs the writes of its rounds. Each round takes `m` steps and one reading of the
clock. -/
theorem Performs.forM {γ : Type} {f : γ → Io D T E Unit} {g : T → γ → Write D}
    (hf : ∀ w c, Performs (f c) w [g (w.clock 0) c] m 1) (cs : List γ) (w : World D T) :
    Performs (cs.forM f) w (cs.mapIdx fun n c => g (w.clock n) c) (m * cs.length) cs.length := by
  induction cs generalizing w with
  | nil => exact performs_pure
  | cons c cs ih =>
    have hseq := (hf w c).bind (f := fun _ => cs.forM f) (ih _)
    rw [List.mapIdx_cons]
    have hm : m * (c :: cs).length = m + m * cs.length := by
      rw [List.length_cons, Nat.mul_add, Nat.mul_one, Nat.add_comm]
    rw [hm, List.length_cons, Nat.add_comm cs.length 1]
    exact hseq

end Performs

end OperatingOrganism.FaultyIo

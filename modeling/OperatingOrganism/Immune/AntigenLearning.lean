import Mathlib.Algebra.GroupWithZero.Nat
import OperatingOrganism.Immune.SwarmMind
import OperatingOrganism.Library.KeyedTable

/-!
# What the coordinator learns

An event may carry the signature of a threat, which `learn_antigen` adds to a list of at most 256 antigens or counts
once more. `process_event` calls it after two returns, for an event that proposes the level that is already reached
and for one that changes the level, so those events teach nothing.

In every run, each event teaches its signature if and only if none that carries a signature with a place in the list
takes one of the returns, as long as fewer than `2^32` events carry the same one (`every_signature_learned_iff`).
-/

set_option autoImplicit false

namespace OperatingOrganism.Immune

open OperatingOrganism.Execution
open OperatingOrganism.KeyedTable

/-- The signature of a threat. -/
abbrev Signature : Type := Vector UInt8 32

/-- What the list of antigens says about a signature. -/
abbrev AntigenContent : Type := Signature → Option Antigen

/-- The coordinator together with the events that it has processed. -/
structure Observed where
  mind : SwarmMind
  log : List SwarmEvent

/-- The number of events that carry a signature. -/
def carriers (log : List SwarmEvent) (signature : Signature) : Nat :=
  log.countP fun event => event.signature = some signature

namespace Observed

/-- The next event is processed. -/
def next (s : Observed) (event : SwarmEvent) : Observed where
  mind := (s.mind.processEvent event).1
  log := s.log ++ [event]

/-- The coordinator right after it is made. -/
def initial : Observed := ⟨SwarmMind.new, []⟩

end Observed

def LearningStep (s : Observed) (event : SwarmEvent) (s' : Observed) : Prop := s' = s.next event

/-- The signature is in the list or can still be added. -/
def SwarmMind.HasPlace (mind : SwarmMind) (signature : Signature) : Prop :=
  (∃ a ∈ mind.antigens, a.signature = signature) ∨ mind.antigens.length < 256

/-- `process_event` gets to the learning: the event neither proposes the current level nor changes the level. -/
def SwarmMind.ReachesLearning (mind : SwarmMind) (event : SwarmEvent) : Prop :=
  event.threatLevel ≠ mind.currentLevel ∧
    ¬ (mind.currentLevel.canTransitionTo event.threatLevel ∧ 60 ≤ event.confidence)

instance (mind : SwarmMind) (event : SwarmEvent) : Decidable (mind.ReachesLearning event) :=
  inferInstanceAs (Decidable (_ ∧ _))

/-- The signatures of the antigens are distinct, and there are at most 256. -/
def DistinctAntigens (s : Observed) : Prop :=
  (s.mind.antigens.map Antigen.signature).Nodup ∧ s.mind.antigens.length ≤ 256

/-- The event leaves its signature in the list, if that has a place for it, with the number of the events that
carried it. -/
def Learned (s : Observed) (event : SwarmEvent) : Prop :=
  ∀ signature, event.signature = some signature → s.mind.HasPlace signature →
    ∃ a ∈ (s.next event).mind.antigens, a.signature = signature ∧
      a.frequency.toNat = carriers (s.next event).log signature

/-- An event whose signature has a place gets to the learning, and the count of its carriers fits. -/
def Attended (s : Observed) (event : SwarmEvent) : Prop :=
  ∀ signature, event.signature = some signature → s.mind.HasPlace signature →
    s.mind.ReachesLearning event ∧ carriers (s.log ++ [event]) signature < 2 ^ 32

/-! ### The list as a table -/

/-- What `learn_antigen` makes of the content of a list with `count` antigens. -/
def learnedContent (count : Nat) (content : AntigenContent) (signature : Signature) : AntigenContent :=
  match content signature with
  | some a => Function.update content signature (some { a with frequency := a.frequency + 1 })
  | none => if count < 256 then Function.update content signature (some ⟨signature, 1, 0⟩) else content

/-- The list after `learn_antigen` has the learned content. -/
theorem lists_learnAntigen {mind : SwarmMind} {content : AntigenContent}
    (h : Lists Antigen.signature mind.antigens content) (signature : Signature) :
    Lists Antigen.signature (mind.learnAntigen signature).antigens
      (learnedContent mind.antigens.length content signature) := by
  have hfind := h.getElem?_findIdx? signature
  unfold SwarmMind.learnAntigen
  cases hidx : mind.antigens.findIdx? fun a => a.signature = signature with
  | some i =>
    rw [hidx, Option.bind_some] at hfind
    obtain ⟨hi, hsame, -⟩ := List.findIdx?_eq_some_iff_getElem.1 hidx
    have hsig := of_decide_eq_true hsame
    have hget := List.getElem?_eq_getElem hi
    rw [learnedContent, ← hfind, hget]
    dsimp only
    rw [List.modify_eq_set_getElem?, hget, ← hsig]
    exact h.set hget rfl
  | none =>
    rw [hidx, Option.bind_none] at hfind
    rw [learnedContent, ← hfind]
    dsimp only
    split
    · exact h.append (x := ⟨signature, 1, 0⟩) hfind.symm
    · exact h

/-- The list grows by at most one antigen, and only while there are fewer than 256. -/
theorem length_learnAntigen (mind : SwarmMind) (signature : Signature) :
    mind.antigens.length ≤ (mind.learnAntigen signature).antigens.length ∧
      (mind.antigens.length ≤ 256 → (mind.learnAntigen signature).antigens.length ≤ 256) := by
  unfold SwarmMind.learnAntigen
  split
  · dsimp only
    rw [List.length_modify]
    exact ⟨Nat.le_refl _, id⟩
  · split
    · next hroom =>
      dsimp only
      rw [List.length_append, List.length_singleton]
      exact ⟨Nat.le_succ _, fun _ => hroom⟩
    · exact ⟨Nat.le_refl _, id⟩

/-- A signature without a place is not added. -/
theorem antigens_learnAntigen_of_not_hasPlace {mind : SwarmMind} {signature : Signature}
    (h : ¬ mind.HasPlace signature) : (mind.learnAntigen signature).antigens = mind.antigens := by
  rw [SwarmMind.HasPlace, not_or] at h
  have hfind : mind.antigens.findIdx? (fun a => a.signature = signature) = none := by
    rw [List.findIdx?_eq_none_iff]
    exact fun a ha => decide_eq_false fun hsame => h.1 ⟨a, ha, hsame⟩
  rw [SwarmMind.learnAntigen, hfind]
  dsimp only
  rw [if_neg h.2]

/-- The count of events plays no part in the learning. -/
theorem antigens_learnAntigen_counted (mind : SwarmMind) (signature : Signature) :
    (mind.counted.learnAntigen signature).antigens = (mind.learnAntigen signature).antigens := by
  unfold SwarmMind.learnAntigen SwarmMind.counted
  dsimp only
  split
  · rfl
  · split
    · rfl
    · rfl

/-- The antigens change only by the learning. -/
theorem antigens_processEvent (mind : SwarmMind) (event : SwarmEvent) :
    (∃ signature, event.signature = some signature ∧ mind.ReachesLearning event ∧
      (mind.processEvent event).1.antigens = (mind.learnAntigen signature).antigens) ∨
    ((event.signature = none ∨ ¬ mind.ReachesLearning event) ∧
      (mind.processEvent event).1.antigens = mind.antigens) := by
  rcases mind.processEvent_cases event with ⟨hsame, heq⟩ | ⟨-, hmoves, heq⟩ | ⟨hne, hstays, heq⟩
  · rw [heq]
    exact .inr ⟨.inr fun h => h.1 hsame, rfl⟩
  · rw [heq]
    exact .inr ⟨.inr fun h => h.2 hmoves, rfl⟩
  · rw [heq]
    cases hsig : event.signature with
    | none => exact .inr ⟨.inl rfl, rfl⟩
    | some signature => exact .inl ⟨signature, rfl, ⟨hne, hstays⟩, antigens_learnAntigen_counted mind signature⟩

/-! ### One event -/

theorem exists_lists_of_distinct {s : Observed} (h : DistinctAntigens s) :
    ∃ content, Lists Antigen.signature s.mind.antigens content :=
  Lists.exists_lists h.1

/-- Every event keeps the signatures distinct and their number bounded. -/
theorem DistinctAntigens.next {s : Observed} (h : DistinctAntigens s) (event : SwarmEvent) :
    DistinctAntigens (s.next event) := by
  rcases antigens_processEvent s.mind event with ⟨signature, -, -, heq⟩ | ⟨-, heq⟩
  · obtain ⟨content, hlists⟩ := exists_lists_of_distinct h
    rw [DistinctAntigens, Observed.next, heq]
    exact ⟨(lists_learnAntigen hlists signature).nodup, (length_learnAntigen _ signature).2 h.2⟩
  · rw [DistinctAntigens, Observed.next, heq]
    exact h

/-- One more event. -/
theorem carriers_concat (log : List SwarmEvent) (event : SwarmEvent) (signature : Signature) :
    carriers (log ++ [event]) signature =
      carriers log signature + if event.signature = some signature then 1 else 0 := by
  rw [carriers, List.countP_append, List.countP_singleton, ← carriers]
  simp only [decide_eq_true_eq]

/-- The list says how often each of its signatures was carried, and unless it is full it has every signature that
was. -/
structure Counted (s : Observed) (content : AntigenContent) : Prop where
  lists : Lists Antigen.signature s.mind.antigens content
  frequency : ∀ signature a, content signature = some a → a.frequency.toNat = carriers s.log signature
  unknown : s.mind.antigens.length < 256 → ∀ signature, content signature = none → carriers s.log signature = 0

namespace Counted

variable {s : Observed} {content : AntigenContent} {event : SwarmEvent}

theorem hasPlace_iff (h : Counted s content) (signature : Signature) :
    s.mind.HasPlace signature ↔ content signature ≠ none ∨ s.mind.antigens.length < 256 := by
  rw [SwarmMind.HasPlace, ne_eq, h.lists.eq_none_iff]
  simp only [not_forall, not_not, exists_prop]

/-- An event that leaves the list alone, because it carries nothing or nothing with a place. -/
theorem keep (h : Counted s content) (hsame : (s.next event).mind.antigens = s.mind.antigens)
    (hnew : ∀ signature, event.signature = some signature → ¬ s.mind.HasPlace signature) :
    Counted (s.next event) content where
  lists := by
    rw [hsame]
    exact h.lists
  frequency signature a ha := by
    have hother : event.signature ≠ some signature := fun hsig =>
      hnew signature hsig ((h.hasPlace_iff signature).2 (.inl (by rw [ha]; exact nofun)))
    rw [Observed.next, carriers_concat, if_neg hother]
    exact h.frequency signature a ha
  unknown hroom signature hnone := by
    rw [hsame] at hroom
    have hother : event.signature ≠ some signature := fun hsig =>
      hnew signature hsig ((h.hasPlace_iff signature).2 (.inr hroom))
    rw [Observed.next, carriers_concat, if_neg hother]
    exact h.unknown hroom signature hnone

/-- An event that teaches its signature. -/
theorem learn {signature : Signature} (h : Counted s content) (hsig : event.signature = some signature)
    (hplace : s.mind.HasPlace signature) (hfits : carriers (s.log ++ [event]) signature < 2 ^ 32)
    (hlearned : (s.next event).mind.antigens = (s.mind.learnAntigen signature).antigens) :
    ∃ a, Counted (s.next event) (Function.update content signature (some a)) := by
  have hlists := lists_learnAntigen h.lists signature
  have hgrows := (length_learnAntigen s.mind signature).1
  rw [← hlearned] at hlists hgrows
  have hcount : carriers (s.next event).log signature = carriers s.log signature + 1 := by
    rw [Observed.next, carriers_concat, if_pos hsig]
  have hother : ∀ k, k ≠ signature → carriers (s.next event).log k = carriers s.log k := by
    intro k hk
    rw [Observed.next, carriers_concat, if_neg fun heq => hk (Option.some.inj (heq.symm.trans hsig))]
    rfl
  -- the antigen that the list has for the signature now
  obtain ⟨a, hcontent, hfrequency⟩ : ∃ a, learnedContent s.mind.antigens.length content signature =
      Function.update content signature (some a) ∧ a.frequency.toNat = carriers s.log signature + 1 := by
    rw [learnedContent]
    cases hknown : content signature with
    | some a =>
      refine ⟨_, rfl, ?_⟩
      have hbefore := h.frequency signature a hknown
      change (a.frequency + 1).toNat = _
      rw [UInt32.toNat_add, hbefore]
      exact Nat.mod_eq_of_lt (hcount ▸ hfits)
    | none =>
      have hroom := ((h.hasPlace_iff signature).1 hplace).resolve_left (not_not.2 hknown)
      dsimp only
      rw [if_pos hroom]
      refine ⟨_, rfl, ?_⟩
      rw [h.unknown hroom signature hknown]
      rfl
  rw [hcontent] at hlists
  refine ⟨a, hlists, ?_, ?_⟩
  · intro k b hb
    by_cases hk : k = signature
    · rw [hk, Function.update_self] at hb
      rw [hk, hcount, ← Option.some.inj hb]
      exact hfrequency
    · rw [Function.update_of_ne hk] at hb
      rw [hother k hk]
      exact h.frequency k b hb
  · intro hroom k hnone
    by_cases hk : k = signature
    · rw [hk, Function.update_self] at hnone
      cases hnone
    · rw [Function.update_of_ne hk] at hnone
      rw [hother k hk]
      exact h.unknown (Nat.lt_of_le_of_lt hgrows hroom) k hnone

/-- Where the event is attended, the list still says how often each signature was carried. -/
theorem next_of_attended (h : Counted s content) (hattended : Attended s event) :
    ∃ content', Counted (s.next event) content' ∧ ∀ signature, event.signature = some signature →
      s.mind.HasPlace signature → ∃ a, content' signature = some a := by
  by_cases hnew : ∃ signature, event.signature = some signature ∧ s.mind.HasPlace signature
  · obtain ⟨signature, hsig, hplace⟩ := hnew
    obtain ⟨hreaches, hfits⟩ := hattended signature hsig hplace
    have hlearned : (s.next event).mind.antigens = (s.mind.learnAntigen signature).antigens := by
      rcases antigens_processEvent s.mind event with ⟨signature', hsig', -, heq⟩ | ⟨hnot, -⟩
      · rw [Option.some.inj (hsig.symm.trans hsig')]
        exact heq
      · rcases hnot with hnone | hnot
        · exact absurd (hnone.symm.trans hsig) nofun
        · exact absurd hreaches hnot
    obtain ⟨a, hcounted⟩ := h.learn hsig hplace hfits hlearned
    refine ⟨_, hcounted, fun signature' hsig' _ => ⟨a, ?_⟩⟩
    rw [Option.some.inj (hsig'.symm.trans hsig), Function.update_self]
  · have hnone : ∀ signature, event.signature = some signature → ¬ s.mind.HasPlace signature :=
      fun signature hsig hplace => hnew ⟨signature, hsig, hplace⟩
    refine ⟨content, h.keep ?_ hnone, fun signature hsig hplace => absurd hplace (hnone signature hsig)⟩
    rcases antigens_processEvent s.mind event with ⟨signature, hsig, -, heq⟩ | ⟨-, heq⟩
    · exact heq.trans (antigens_learnAntigen_of_not_hasPlace (hnone signature hsig))
    · exact heq

/-- An event teaches its signature if and only if it is attended. -/
theorem learned_iff_attended (h : Counted s content) : Learned s event ↔ Attended s event := by
  constructor
  · intro hlearned signature hsig hplace
    obtain ⟨a, ha, hkey, hfrequency⟩ := hlearned signature hsig hplace
    have hfits : a.frequency.toNat < 2 ^ 32 := a.frequency.toNat_lt
    rw [hfrequency] at hfits
    refine ⟨?_, hfits⟩
    by_contra hnot
    -- the list is the old one, so the antigen has not counted this event
    have hsame : (s.next event).mind.antigens = s.mind.antigens := by
      rcases antigens_processEvent s.mind event with ⟨_, -, hreaches, -⟩ | ⟨-, heq⟩
      · exact absurd hreaches hnot
      · exact heq
    rw [hsame] at ha
    have hbefore := h.frequency signature a (hkey ▸ h.lists.content_of_mem ha)
    rw [Observed.next, carriers_concat, if_pos hsig, hbefore] at hfrequency
    exact absurd hfrequency (Nat.succ_ne_self _).symm
  · intro hattended signature hsig hplace
    obtain ⟨content', hcounted, hknown⟩ := h.next_of_attended hattended
    obtain ⟨a, ha⟩ := hknown signature hsig hplace
    obtain ⟨hmem, hkey⟩ := (hcounted.lists.eq_some_iff signature a).1 ha
    exact ⟨a, hmem, hkey, hcounted.frequency signature a ha⟩

end Counted

/-! ### Whole runs -/

theorem distinctAntigens_initial : DistinctAntigens Observed.initial := ⟨List.nodup_nil, Nat.zero_le _⟩

theorem counted_initial : ∃ content, Counted Observed.initial content :=
  ⟨_, Lists.nil, nofun, fun _ _ _ => rfl⟩

/-- In every run, the antigens stay distinct and at most 256, and each event teaches its signature if and only if
each one is attended. -/
theorem every_signature_learned_iff {tr : List (SwarmEvent × Observed)}
    (h : Exec LearningStep Observed.initial tr) :
    AllStates DistinctAntigens Observed.initial tr ∧ AllSteps Learned Observed.initial tr ↔
      AllSteps Attended Observed.initial tr := by
  have hdistinct : AllStates DistinctAntigens Observed.initial tr := by
    refine h.invariant distinctAntigens_initial ?_
    rintro s event _ hs rfl
    exact hs.next event
  have hexact : AllSteps Learned Observed.initial tr ↔ AllSteps Attended Observed.initial tr := by
    refine h.allSteps_congr (I := fun s => ∃ content, Counted s content) counted_initial ?_ ?_
    · rintro s event _ ⟨content, hcounted⟩ hattended rfl
      obtain ⟨content', hnext, -⟩ := hcounted.next_of_attended hattended
      exact ⟨content', hnext⟩
    · rintro s event ⟨content, hcounted⟩
      exact hcounted.learned_iff_attended
  rw [← hexact]
  exact and_iff_right hdistinct

/-- An event that carries the signature of zeros. -/
def carryingEvent (level : ThreatLevel) (confidence : UInt8) : SwarmEvent where
  fromRole := .memWatch
  threatLevel := level
  description := ""
  timestampNs := 0
  confidence := confidence
  signature := some (.replicate 32 0)

/-- A run on a list of events. -/
def learningRun (events : List SwarmEvent) : List (SwarmEvent × Observed) :=
  driven Observed.next Observed.initial events

theorem exec_learningRun (events : List SwarmEvent) : Exec LearningStep Observed.initial (learningRun events) :=
  @exec_driven _ _ LearningStep Observed.next (fun _ _ => rfl) _ events

/-- A doubtful event and a refused one teach their signature. -/
theorem every_signature_learned_twice :
    let tr := learningRun [carryingEvent .vigilance 10, carryingEvent .combat 90]
    AllStates DistinctAntigens Observed.initial tr ∧ AllSteps Learned Observed.initial tr := by
  refine (every_signature_learned_iff (exec_learningRun _)).2 ⟨?_, ?_, trivial⟩
  · rintro signature hsig -
    obtain rfl := Option.some.inj hsig
    exact ⟨by decide, by decide⟩
  · rintro signature hsig -
    obtain rfl := Option.some.inj hsig
    exact ⟨by decide, by decide⟩

/-- The first event says that all is calm, as it is, and its signature is lost. -/
theorem exists_signature_not_learned : ∃ tr, Exec LearningStep Observed.initial tr ∧
    ¬ (AllStates DistinctAntigens Observed.initial tr ∧ AllSteps Learned Observed.initial tr) := by
  refine ⟨learningRun [carryingEvent .dormant 90], exec_learningRun _, fun hall => ?_⟩
  obtain ⟨a, ha, -⟩ := hall.2.1 (.replicate 32 0) rfl (.inr (by decide))
  exact absurd ha List.not_mem_nil

end OperatingOrganism.Immune

import Mathlib.Algebra.Order.Group.Defs
import Mathlib.Data.List.Chain
import Mathlib.Tactic.Linarith

/-!
# Publishing on change, with a heartbeat

A value is offered now and then, and each offer is looked at only if the last look lies an interval
back. A look publishes the value if it is not the one published last, or if the last publication
lies a period back; otherwise it is only noted that there was a look. What was published last may be
forgotten, and then the next look publishes.

A look that publishes nothing still holds the next one off, so neither clock alone bounds the wait.
The bounds are these: two publications lie an interval apart, and a period if the value is the same;
a changed value is published by the first offer an interval after the change, and an unchanged one
by the first offer a period and an interval after its last publication. None of this needs the
offers to come in the order of their times.
-/

/-- The times of the last look and of the last publication, and what was published then unless it
was forgotten. -/
@[ext]
structure Heartbeat (T σ : Type) where
  looked : T
  published : T
  last : Option σ

inductive HeartbeatEvent (T σ : Type)
  | offer (now : T) (value : σ)
  | forget

namespace Heartbeat

variable {T σ : Type} [AddCommGroup T] [LinearOrder T] [DecidableEq σ]

section Step

variable (interval period : T)

/-- The offer comes too early to be looked at. -/
def early (h : Heartbeat T σ) (now : T) : Prop := now - h.looked < interval

/-- There is nothing new, and the last publication lies less than a period back. -/
def quiet (h : Heartbeat T σ) (now : T) (value : σ) : Prop :=
  h.last = some value ∧ now - h.published < period

instance (h : Heartbeat T σ) (now : T) : Decidable (h.early interval now) :=
  inferInstanceAs (Decidable (_ < _))

instance (h : Heartbeat T σ) (now : T) (value : σ) : Decidable (h.quiet period now value) :=
  inferInstanceAs (Decidable (_ ∧ _))

def step (h : Heartbeat T σ) : HeartbeatEvent T σ → Heartbeat T σ
  | .forget => { h with last := none }
  | .offer now value =>
    if h.early interval now then h
    else if h.quiet period now value then { h with looked := now }
    else ⟨now, now, some value⟩

/-- What an event publishes, with its time. -/
def publication (h : Heartbeat T σ) : HeartbeatEvent T σ → Option (T × σ)
  | .forget => none
  | .offer now value =>
    if h.early interval now then none
    else if h.quiet period now value then none
    else some (now, value)

/-- What a run publishes. -/
def publications : Heartbeat T σ → List (HeartbeatEvent T σ) → List (T × σ)
  | _, [] => []
  | h, event :: events =>
    (h.publication interval period event).toList ++
      publications (h.step interval period event) events

end Step

variable {interval period : T} {h : Heartbeat T σ} {event : HeartbeatEvent T σ}

/-- **What an event does.** -/
theorem step_cases (interval period : T) (h : Heartbeat T σ) (event : HeartbeatEvent T σ) :
    (event = .forget ∧ h.step interval period event = { h with last := none } ∧
      h.publication interval period event = none) ∨
    ∃ now value, event = .offer now value ∧
      ((now - h.looked < interval ∧ h.step interval period event = h ∧
          h.publication interval period event = none) ∨
        (interval ≤ now - h.looked ∧ h.last = some value ∧ now - h.published < period ∧
          h.step interval period event = { h with looked := now } ∧
          h.publication interval period event = none) ∨
        (interval ≤ now - h.looked ∧ (h.last = some value → period ≤ now - h.published) ∧
          h.step interval period event = ⟨now, now, some value⟩ ∧
          h.publication interval period event = some (now, value))) := by
  cases event with
  | forget => exact .inl ⟨rfl, rfl, rfl⟩
  | offer now value =>
    refine .inr ⟨now, value, rfl, ?_⟩
    rw [step, publication]
    split
    · next hearly => exact .inl ⟨hearly, rfl, rfl⟩
    · next hlate =>
      have hlate' : interval ≤ now - h.looked := not_lt.mp hlate
      split
      · next hquiet => exact .inr (.inl ⟨hlate', hquiet.1, hquiet.2, rfl, rfl⟩)
      · next hloud =>
        refine .inr (.inr ⟨hlate', fun hlast ↦ not_lt.mp fun hlt ↦ hloud ⟨hlast, hlt⟩, rfl, rfl⟩)

/-- Behind a publication the clocks stand at its time. -/
theorem step_of_publication {now : T} {value : σ}
    (hpublication : h.publication interval period event = some (now, value)) :
    h.step interval period event = ⟨now, now, some value⟩ := by
  obtain ⟨-, -, hnone⟩ | ⟨now', value', -, ⟨-, -, hnone⟩ | ⟨-, -, -, -, hnone⟩ |
    ⟨-, -, hstep, hsome⟩⟩ := h.step_cases interval period event
  · rw [hnone] at hpublication
    simp at hpublication
  · rw [hnone] at hpublication
    simp at hpublication
  · rw [hnone] at hpublication
    simp at hpublication
  · rw [hsome, Option.some.injEq, Prod.mk.injEq] at hpublication
    rw [hstep, hpublication.1, hpublication.2]

theorem publications_append (h : Heartbeat T σ) (events more : List (HeartbeatEvent T σ)) :
    h.publications interval period (events ++ more) =
      h.publications interval period events ++
        (events.foldl (step interval period) h).publications interval period more := by
  induction events generalizing h with
  | nil => rfl
  | cons event events ih =>
    rw [List.cons_append, publications, publications, ih, List.append_assoc, List.foldl_cons]

/-- What a run has published last is what the state has, unless it was forgotten. -/
theorem getLast_publications {events : List (HeartbeatEvent T σ)} {value : σ}
    (hlast : (events.foldl (step interval period) h).last = some value) :
    (∃ now, (h.publications interval period events).getLast? = some (now, value)) ∨
      (h.publications interval period events = [] ∧ h.last = some value) := by
  induction events generalizing h with
  | nil => exact .inr ⟨rfl, hlast⟩
  | cons event events ih =>
    rw [publications]
    rcases ih hlast with ⟨now, hnow⟩ | ⟨hnothing, hsame⟩
    · exact .inl ⟨now, by rw [List.getLast?_append, hnow, Option.some_or]⟩
    · rw [hnothing, List.append_nil]
      obtain ⟨-, hstep, hnone⟩ | ⟨now, value', -, ⟨-, hstep, hnone⟩ |
        ⟨-, -, -, hstep, hnone⟩ | ⟨-, -, hstep, hsome⟩⟩ :=
        h.step_cases interval period event <;> rw [hstep] at hsame
      · simp at hsame
      · exact .inr ⟨by rw [hnone]; rfl, hsame⟩
      · exact .inr ⟨by rw [hnone]; rfl, hsame⟩
      · refine .inl ⟨now, ?_⟩
        rw [hsome, ← Option.some.inj hsame]
        rfl

/-- No look comes later than all offers. -/
theorem looked_le {events : List (HeartbeatEvent T σ)} {c : T} (hlooked : h.looked ≤ c)
    (hevents : ∀ now value, HeartbeatEvent.offer now value ∈ events → now ≤ c) :
    (events.foldl (step interval period) h).looked ≤ c := by
  refine List.foldlRecOn (motive := fun h : Heartbeat T σ ↦ h.looked ≤ c) events _ hlooked
    fun h hle event hevent ↦ ?_
  obtain ⟨-, hstep, -⟩ | ⟨now, value, rfl, ⟨-, hstep, -⟩ | ⟨-, -, -, hstep, -⟩ |
    ⟨-, -, hstep, -⟩⟩ := h.step_cases interval period event <;> rw [hstep]
  · exact hle
  · exact hle
  · exact hevents now value hevent
  · exact hevents now value hevent

/-! ### How far publications lie apart -/

/-- **Equal publications lie a period apart** while nothing is forgotten, and so does the first of a
run from an equal one before it. -/
theorem isChain_equal (interval period : T) (h : Heartbeat T σ)
    {events : List (HeartbeatEvent T σ)} (hkept : .forget ∉ events) :
    (∀ b ∈ (h.publications interval period events).head?,
        h.last = some b.2 → period ≤ b.1 - h.published) ∧
      (h.publications interval period events).IsChain
        fun a b ↦ a.2 = b.2 → period ≤ b.1 - a.1 := by
  induction events generalizing h with
  | nil => exact ⟨by simp [publications], .nil⟩
  | cons event events ih =>
    have ih := fun h ↦ ih h fun hmem ↦ hkept (List.mem_cons_of_mem _ hmem)
    rw [publications]
    obtain ⟨rfl, -, -⟩ | ⟨now, value, -, ⟨-, hstep, hnone⟩ | ⟨-, -, -, hstep, hnone⟩ |
      ⟨-, hloud, hstep, hsome⟩⟩ := h.step_cases interval period event
    · exact absurd List.mem_cons_self hkept
    · rw [hstep, hnone]
      exact ih h
    · rw [hstep, hnone]
      exact ih { h with looked := now }
    · rw [hstep, hsome]
      obtain ⟨hfirst, hchain⟩ := ih ⟨now, now, some value⟩
      refine ⟨fun b hb ↦ ?_, List.isChain_cons.mpr ⟨fun b hb heq ↦ ?_, hchain⟩⟩
      · rw [← Option.some.inj hb]
        exact hloud
      · exact hfirst b hb (congrArg some heq)

variable [IsOrderedAddMonoid T]

/-- **Publications lie an interval apart**, and the first of a run lies an interval behind the last
look. -/
theorem isChain_publications (period : T) (hinterval : 0 ≤ interval) (h : Heartbeat T σ)
    (events : List (HeartbeatEvent T σ)) :
    (∀ b ∈ (h.publications interval period events).head?, interval ≤ b.1 - h.looked) ∧
      (h.publications interval period events).IsChain fun a b ↦ interval ≤ b.1 - a.1 := by
  induction events generalizing h with
  | nil => exact ⟨by simp [publications], .nil⟩
  | cons event events ih =>
    rw [publications]
    obtain ⟨-, hstep, hnone⟩ | ⟨now, value, -, ⟨-, hstep, hnone⟩ |
      ⟨hlate, -, -, hstep, hnone⟩ | ⟨hlate, -, hstep, hsome⟩⟩ := h.step_cases interval period event
    · rw [hstep, hnone]
      exact ih _
    · rw [hstep, hnone]
      exact ih _
    · rw [hstep, hnone]
      obtain ⟨hfirst, hchain⟩ := ih { h with looked := now }
      refine ⟨fun b hb ↦ ?_, hchain⟩
      have hb' : interval ≤ b.1 - now := hfirst b hb
      calc interval ≤ b.1 - now := hb'
        _ ≤ b.1 - h.looked := sub_le_sub_left (sub_nonneg.mp (hinterval.trans hlate)) b.1
    · rw [hstep, hsome]
      obtain ⟨hfirst, hchain⟩ := ih (⟨now, now, some value⟩ : Heartbeat T σ)
      refine ⟨fun b hb ↦ ?_, List.isChain_cons.mpr ⟨fun b hb ↦ hfirst b hb, hchain⟩⟩
      rw [← Option.some.inj hb]
      exact hlate

/-! ### How long a value waits -/

/-- An offer of this value, or forgetting. -/
def Offers (value : σ) (event : HeartbeatEvent T σ) : Prop :=
  ∀ now value', event = .offer now value' → value' = value

omit [IsOrderedAddMonoid T] in
theorem publications_offer {now : T} {value : σ} (hlate : interval ≤ now - h.looked)
    (hloud : h.last = some value → period ≤ now - h.published) :
    h.publications interval period [.offer now value] = [(now, value)] := by
  have hearly : ¬h.early interval now := not_lt.mpr hlate
  have hquiet : ¬h.quiet period now value := fun hq ↦ not_lt.mpr (hloud hq.1) hq.2
  rw [publications, publication, if_neg hearly, if_neg hquiet]
  rfl

/-- **A changed value is published in time**: by the first offer that comes an interval after the
change, if there was no look since. -/
theorem published_of_changed {events : List (HeartbeatEvent T σ)} {value : σ} {c now : T}
    (hchanged : h.last ≠ some value) (hlooked : h.looked ≤ c)
    (hevents : ∀ event ∈ events, Offers value event) (hnow : c + interval ≤ now) :
    ∃ t, (t, value) ∈ h.publications interval period (events ++ [.offer now value]) := by
  induction events generalizing h with
  | nil =>
    have hlate : interval ≤ now - h.looked :=
      calc interval ≤ now - c := le_sub_iff_add_le'.mpr hnow
        _ ≤ now - h.looked := sub_le_sub_left hlooked now
    rw [List.nil_append, publications_offer hlate fun hlast ↦ absurd hlast hchanged]
    exact ⟨now, List.mem_cons_self⟩
  | cons event events ih =>
    rw [List.forall_mem_cons] at hevents
    rw [List.cons_append, publications]
    obtain ⟨-, hstep, hnone⟩ | ⟨t, value', hoffer, ⟨-, hstep, hnone⟩ |
      ⟨-, hsame, -, -, -⟩ | ⟨-, -, -, hsome⟩⟩ := h.step_cases interval period event
    · rw [hstep, hnone]
      exact ih (h := { h with last := none }) (by simp) hlooked hevents.2
    · rw [hstep, hnone]
      exact ih hchanged hlooked hevents.2
    · exact absurd (hevents.1 t value' hoffer ▸ hsame) hchanged
    · rw [hsome, hevents.1 t value' hoffer]
      exact ⟨t, List.mem_append_left _ List.mem_cons_self⟩

/-- **An unchanged value is published again in time**: by the first offer that comes a period and an
interval after its last publication. -/
theorem republished (hinterval : 0 ≤ interval) {events : List (HeartbeatEvent T σ)} {value : σ}
    {p now : T} (hpublished : h.published = p) (hlooked : h.looked ≤ p + period)
    (hevents : ∀ event ∈ events, Offers value event) (hnow : p + period + interval ≤ now) :
    ∃ t, (t, value) ∈ h.publications interval period (events ++ [.offer now value]) := by
  induction events generalizing h with
  | nil =>
    have hlate : interval ≤ now - h.looked :=
      calc interval ≤ now - (p + period) := le_sub_iff_add_le'.mpr hnow
        _ ≤ now - h.looked := sub_le_sub_left hlooked now
    have hdue : period ≤ now - h.published := by
      rw [hpublished, le_sub_iff_add_le']
      exact (le_add_of_nonneg_right hinterval).trans hnow
    rw [List.nil_append, publications_offer hlate fun _ ↦ hdue]
    exact ⟨now, List.mem_cons_self⟩
  | cons event events ih =>
    rw [List.forall_mem_cons] at hevents
    rw [List.cons_append, publications]
    obtain ⟨-, hstep, hnone⟩ | ⟨t, value', hoffer, ⟨-, hstep, hnone⟩ |
      ⟨-, -, hlt, hstep, hnone⟩ | ⟨-, -, -, hsome⟩⟩ := h.step_cases interval period event
    · rw [hstep, hnone]
      exact ih (h := { h with last := none }) hpublished hlooked hevents.2
    · rw [hstep, hnone]
      exact ih hpublished hlooked hevents.2
    · -- a look comes less than a period after the publication
      rw [hstep, hnone]
      rw [hpublished, sub_lt_iff_lt_add'] at hlt
      exact ih (h := { h with looked := t }) hpublished hlt.le hevents.2
    · rw [hsome, hevents.1 t value' hoffer]
      exact ⟨t, List.mem_append_left _ List.mem_cons_self⟩

end Heartbeat

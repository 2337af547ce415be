import Mathlib.Data.List.Chain

/-!
# Pacing

A value is offered now and then, with an interval that must have passed since the last publication.
An offer after it publishes, unless the value is the one published last and a longer period has not
passed. A fresh start forgets the last publication, so that nothing holds the next offer back.

Nothing is assumed of times: what counts is whether one of them comes too early after another. The
marks a run leaves, its fresh starts and publications, tell what a later offer meets: the last mark
alone decides (`due_or_held`).
-/

/-- What paces a value: whether a time comes too early after another one, which values are the same,
how long the same value is kept back, and a time before all others. -/
structure Pacing (T ι σ : Type) where
  early : T → T → ι → Bool
  same : σ → σ → Bool
  period : ι
  never : T

/-- When something was published last, and what it was. -/
structure Pacer (T σ : Type) where
  sent : T
  last : Option σ

inductive PacingEvent (T ι σ : Type)
  | offer (now : T) (interval : ι) (value : σ)
  | fresh

inductive PacingMark (T ι σ : Type)
  | published (now : T) (interval : ι) (value : σ)
  | fresh

namespace Pacing

variable {T ι σ : Type} (p : Pacing T ι σ)

def due (state : Pacer T σ) (now : T) (interval : ι) (value : σ) : Bool :=
  !p.early now state.sent interval &&
    !(state.last.any (p.same value) && p.early now state.sent p.period)

def step (state : Pacer T σ) : PacingEvent T ι σ → Pacer T σ
  | .fresh => ⟨p.never, none⟩
  | .offer now interval value =>
    if p.due state now interval value then ⟨now, some value⟩ else state

/-- The mark an event leaves. -/
def mark (state : Pacer T σ) : PacingEvent T ι σ → Option (PacingMark T ι σ)
  | .fresh => some .fresh
  | .offer now interval value =>
    if p.due state now interval value then some (.published now interval value) else none

def marks : Pacer T σ → List (PacingEvent T ι σ) → List (PacingMark T ι σ)
  | _, [] => []
  | state, event :: events => (p.mark state event).toList ++ marks (p.step state event) events

/-- The state behind a mark. -/
def after : PacingMark T ι σ → Pacer T σ
  | .published now _ value => ⟨now, some value⟩
  | .fresh => ⟨p.never, none⟩

/-- Two publications one after the other keep the interval of the second, and the same value keeps
the period. -/
def Spaced : PacingMark T ι σ → PacingMark T ι σ → Prop
  | .published sent _ last, .published now interval value =>
    p.early now sent interval = false ∧
      (p.same value last = true → p.early now sent p.period = false)
  | _, _ => True

/-- The last mark holds an offer back: it is a publication too short ago. -/
def Held (now : T) (interval : ι) (value : σ) : PacingMark T ι σ → Prop
  | .published sent _ last =>
    p.early now sent interval = true ∨ p.same value last = true ∧ p.early now sent p.period = true
  | .fresh => False

variable {p}

/-- The state stays, or the event leaves a mark and the state is the one behind it. -/
theorem step_cases (state : Pacer T σ) (event : PacingEvent T ι σ) :
    p.mark state event = none ∧ p.step state event = state ∨
      ∃ mark, p.mark state event = some mark ∧ p.step state event = p.after mark := by
  cases event with
  | fresh => exact .inr ⟨.fresh, rfl, rfl⟩
  | offer now interval value =>
    rw [mark, step]
    split
    · exact .inr ⟨.published now interval value, rfl, rfl⟩
    · exact .inl ⟨rfl, rfl⟩

/-- **The last mark tells the state.** -/
theorem foldl_step (first : PacingMark T ι σ) (events : List (PacingEvent T ι σ)) :
    events.foldl p.step (p.after first) =
      p.after ((first :: p.marks (p.after first) events).getLast (List.cons_ne_nil _ _)) := by
  induction events generalizing first with
  | nil => rfl
  | cons event events ih =>
    obtain ⟨hmark, hstep⟩ | ⟨mark, hmark, hstep⟩ := step_cases (p := p) (p.after first) event
    · simp only [List.foldl_cons, marks, hmark, hstep, Option.toList_none, List.nil_append]
      exact ih first
    · simp only [List.foldl_cons, marks, hmark, hstep, Option.toList_some, List.singleton_append]
      rw [List.getLast_cons_cons]
      exact ih mark

/-- What is published behind a mark keeps its distance from it. -/
theorem spaced_mark {first mark : PacingMark T ι σ} {event : PacingEvent T ι σ}
    (h : p.mark (p.after first) event = some mark) : p.Spaced first mark := by
  cases event with
  | fresh =>
    obtain rfl : .fresh = mark := Option.some.inj h
    cases first <;> trivial
  | offer now interval value =>
    rw [Pacing.mark] at h
    split at h
    · next hdue =>
      obtain rfl := Option.some.inj h
      cases first with
      | fresh => trivial
      | published sent interval' last =>
        simp only [due, after, Option.any_some, Bool.and_eq_true, Bool.not_eq_true',
          Bool.and_eq_false_iff] at hdue
        refine ⟨hdue.1, fun hsame ↦ hdue.2.resolve_left ?_⟩
        rw [hsame]
        exact Bool.noConfusion
    · simp at h

/-- **Publications keep their distance.** -/
theorem isChain_marks (first : PacingMark T ι σ) (events : List (PacingEvent T ι σ)) :
    (first :: p.marks (p.after first) events).IsChain p.Spaced := by
  induction events generalizing first with
  | nil => exact List.isChain_singleton first
  | cons event events ih =>
    obtain ⟨hmark, hstep⟩ | ⟨mark, hmark, hstep⟩ := step_cases (p := p) (p.after first) event
    · simp only [marks, hmark, hstep, Option.toList_none, List.nil_append]
      exact ih first
    · simp only [marks, hmark, hstep, Option.toList_some, List.singleton_append]
      exact List.isChain_cons_cons.mpr ⟨spaced_mark hmark, ih mark⟩

/-- **An offer is published unless the last mark holds it back.** -/
theorem due_or_held (last : PacingMark T ι σ) {now : T} {interval : ι} {value : σ}
    (hnever : p.early now p.never interval = false) :
    p.due (p.after last) now interval value = true ↔ ¬p.Held now interval value last := by
  cases last with
  | fresh => simp [due, after, Held, hnever]
  | published sent interval' last =>
    simp only [due, after, Held, Option.any_some, Bool.and_eq_true, Bool.not_eq_true',
      not_or, Bool.not_eq_true, Bool.and_eq_false_iff, not_and]
    refine and_congr_right fun _ ↦ ⟨fun h hsame ↦ h.resolve_left ?_, fun h ↦ ?_⟩
    · rw [hsame]
      exact Bool.noConfusion
    · rcases hsame : p.same value last with - | -
      · exact .inl rfl
      · exact .inr (h hsame)

end Pacing

import Mathlib.Tactic.Common

/-!
# Runs under a condition

A system is a step function on states and events, and a run is the fold of it over a list of events.
`Along step cond s events` says that every step of the run from `s` meets `cond`, which may look at
the state before the step. An invariant that each such step keeps holds at the end of the run, and
hence in every state the run passes through, since these are the ends of its initial segments.
-/

variable {σ ε : Type}

/-- Every step of the run meets the condition. -/
def Along (step : σ → ε → σ) (cond : σ → ε → Prop) : σ → List ε → Prop
  | _, [] => True
  | s, e :: events => cond s e ∧ Along step cond (step s e) events

namespace Along

variable {step : σ → ε → σ} {cond : σ → ε → Prop} {s : σ} {events : List ε}

/-- **The invariant rule.** -/
theorem invariant {I : σ → Prop} (hstep : ∀ s e, I s → cond s e → I (step s e))
    (h : Along step cond s events) (hs : I s) : I (events.foldl step s) := by
  induction events generalizing s with
  | nil => exact hs
  | cons e events ih => exact ih h.2 (hstep s e hs h.1)

/-- What an invariant implies is met by every step of every run. -/
theorem of_invariant {I : σ → Prop} (hstep : ∀ s e, I s → I (step s e))
    (hcond : ∀ s e, I s → cond s e) (hs : I s) (events : List ε) : Along step cond s events := by
  induction events generalizing s with
  | nil => trivial
  | cons e events ih => exact ⟨hcond s e hs, ih (hstep s e hs)⟩

/-- **The exact rule.** A statement that is never regained once lost, and that a step keeps exactly
when the condition is met, holds at the end of a run exactly when every step meets the condition. -/
theorem iff_invariant {I : σ → Prop} (hlost : ∀ s e, I (step s e) → I s)
    (hstep : ∀ s e, I s → (I (step s e) ↔ cond s e)) (hs : I s) :
    I (events.foldl step s) ↔ Along step cond s events := by
  have hback (events : List ε) (s : σ) (h : I (events.foldl step s)) : I s := by
    induction events generalizing s with
    | nil => exact h
    | cons e events ih => exact hlost s e (ih (step s e) h)
  induction events generalizing s with
  | nil => exact ⟨fun _ ↦ trivial, fun _ ↦ hs⟩
  | cons e events ih =>
    constructor
    · intro h
      have hnext := hback events (step s e) h
      exact ⟨(hstep s e hs).mp hnext, (ih hnext).mp h⟩
    · intro h
      exact (ih ((hstep s e hs).mpr h.1)).mpr h.2

/-- **The exact rule for every state of a run.** A statement that a step keeps exactly when the
condition is met holds all the way exactly when every step meets the condition. Here it may be lost
and regained. -/
theorem forall_take_iff {I : σ → Prop} (hstep : ∀ s e, I s → (I (step s e) ↔ cond s e)) (hs : I s) :
    (∀ k, I ((events.take k).foldl step s)) ↔ Along step cond s events := by
  induction events generalizing s with
  | nil => exact ⟨fun _ ↦ trivial, fun _ k ↦ by simpa using hs⟩
  | cons e events ih =>
    constructor
    · intro h
      have hnext : I (step s e) := h 1
      exact ⟨(hstep s e hs).mp hnext, (ih hnext).mp fun k ↦ h (k + 1)⟩
    · intro h k
      cases k with
      | zero => exact hs
      | succ k => exact (ih ((hstep s e hs).mpr h.1)).mpr h.2 k

/-- A run in two parts. -/
theorem append {more : List ε} (h : Along step cond s events)
    (hmore : Along step cond (events.foldl step s) more) :
    Along step cond s (events ++ more) := by
  induction events generalizing s with
  | nil => exact hmore
  | cons e events ih => exact ⟨h.1, ih h.2 hmore⟩

theorem left {more : List ε} (h : Along step cond s (events ++ more)) :
    Along step cond s events := by
  induction events generalizing s with
  | nil => trivial
  | cons e events ih => exact ⟨h.1, ih h.2⟩

theorem right {more : List ε} (h : Along step cond s (events ++ more)) :
    Along step cond (events.foldl step s) more := by
  induction events generalizing s with
  | nil => exact h
  | cons e events ih => exact ih h.2

/-- A condition on the events alone may be joined to one on the steps. -/
theorem and_forall {p : ε → Prop} (h : Along step cond s events) (hp : ∀ e ∈ events, p e) :
    Along step (fun s e ↦ cond s e ∧ p e) s events := by
  induction events generalizing s with
  | nil => trivial
  | cons e events ih =>
    exact ⟨⟨h.1, hp e List.mem_cons_self⟩, ih h.2 fun e' he' ↦ hp e' (List.mem_cons_of_mem _ he')⟩

/-- What a condition implies wherever an invariant holds, if meeting it keeps the invariant. -/
theorem imp_of_kept {I : σ → Prop} {cond' : σ → ε → Prop}
    (hstep : ∀ s e, I s → cond s e → I (step s e)) (hcond : ∀ s e, I s → cond s e → cond' s e)
    (hs : I s) (h : Along step cond s events) : Along step cond' s events := by
  induction events generalizing s with
  | nil => trivial
  | cons e events ih => exact ⟨hcond s e hs h.1, ih (hstep s e hs h.1) h.2⟩

/-- Two conditions that agree wherever an invariant holds are met by the same runs, if meeting them
keeps the invariant. -/
theorem congr_of_kept {I : σ → Prop} {cond' : σ → ε → Prop}
    (hstep : ∀ s e, I s → cond s e → I (step s e)) (hcond : ∀ s e, I s → (cond s e ↔ cond' s e))
    (hs : I s) : Along step cond s events ↔ Along step cond' s events := by
  constructor
  · exact imp_of_kept hstep (fun s e hs ↦ (hcond s e hs).mp) hs
  · exact imp_of_kept (fun s e hs h ↦ hstep s e hs ((hcond s e hs).mpr h))
      (fun s e hs ↦ (hcond s e hs).mpr) hs

/-- Two conditions that agree wherever an invariant holds are met by the same runs. -/
theorem congr_of_invariant {I : σ → Prop} {cond' : σ → ε → Prop}
    (hstep : ∀ s e, I s → I (step s e)) (hcond : ∀ s e, I s → (cond s e ↔ cond' s e)) (hs : I s) :
    Along step cond s events ↔ Along step cond' s events :=
  congr_of_kept (fun s e hs _ ↦ hstep s e hs) hcond hs

end Along

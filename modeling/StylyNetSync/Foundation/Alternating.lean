import StylyNetSync.Foundation.TwoRuns

/-!
# Alternating reports

Something is there or it is not, and whenever this changes it is reported, once. Then the reports
alternate, whatever else happens: each says the opposite of the one before it, and the first one the
opposite of how things stood at the start.
-/

variable {σ ε : Type}

/-- The reports alternate, and the first of them is `next`. -/
inductive Alternates : Bool → List Bool → Prop
  | nil (next : Bool) : Alternates next []
  | cons {next : Bool} {reports : List Bool} (h : Alternates (!next) reports) :
    Alternates next (next :: reports)

/-- What is to be reported of a step: how things stand after it, if they stood otherwise before. -/
def toggled (before after : Bool) : List Bool := if before = after then [] else [after]

/-- Reports may be put in front of alternating ones. -/
theorem Alternates.toggled_append {before after : Bool} {reports : List Bool}
    (h : Alternates (!after) reports) : Alternates (!before) (toggled before after ++ reports) := by
  rw [toggled]
  split
  · next heq =>
    rw [heq]
    exact h
  · next hne =>
    have hafter : after = !before := Bool.eq_not_of_ne (Ne.symm hne)
    rw [← hafter]
    exact Alternates.cons h

/-- Looking twice is looking once. -/
theorem map_trace {ω ω' : Type} (f : ω → ω') (step : σ → ε → σ) (look : σ → ε → ω) (s : σ)
    (events : List ε) :
    (trace step look s events).map f = trace step (fun s e ↦ f (look s e)) s events := by
  induction events generalizing s with
  | nil => rfl
  | cons e events ih => rw [trace, List.map_cons, ih, trace]

/-- **Reports of changes alternate** along every run on which an invariant makes each step report
exactly its change. -/
theorem alternates_trace {step : σ → ε → σ} {look : σ → ε → List Bool} {present : σ → Bool}
    {I : σ → Prop} (hstep : ∀ s e, I s → I (step s e))
    (hlook : ∀ s e, I s → look s e = toggled (present s) (present (step s e))) {s : σ} (hs : I s)
    (events : List ε) : Alternates (!present s) (trace step look s events).flatten := by
  induction events generalizing s with
  | nil => exact Alternates.nil _
  | cons e events ih =>
    rw [trace, List.flatten_cons, hlook s e hs]
    exact (ih (hstep s e hs)).toggled_append

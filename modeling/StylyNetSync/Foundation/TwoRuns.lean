import Mathlib.Tactic.Common

/-!
# Two runs side by side

What two runs of one system have in common is a relation `R` between their states. A call answers
alike in two states if its answers are equal and the states after it are related again (`Replies`);
for a call with several answers this is said once for each of them. A run over a list of items keeps
the relation if each item does, and items that the relation does not mind may be missing on either
side. If related states look the same, then so do the traces of the two runs.
-/

variable {σ ε α ω : Type} {R : σ → σ → Prop}

/-- Equal answers, and related states after them. -/
def Replies (R : σ → σ → Prop) (r r' : α × σ) : Prop := r'.1 = r.1 ∧ R r.2 r'.2

namespace Replies

theorem mk {a : α} {s s' : σ} (h : R s s') : Replies R (a, s) (a, s') := ⟨rfl, h⟩

/-- The answers can be given one name. -/
theorem exists_eq {r r' : α × σ} (h : Replies R r r') :
    ∃ a s s', r = (a, s) ∧ r' = (a, s') ∧ R s s' := by
  obtain ⟨a, s⟩ := r
  obtain ⟨a', s'⟩ := r'
  obtain ⟨rfl, hs⟩ := h
  exact ⟨a', s, s', rfl, rfl, hs⟩

end Replies

/-- The two sides take the same branch. -/
theorem ite_rel {p p' : Prop} [Decidable p] [Decidable p'] (hp : p' ↔ p) {s s' t t' : σ}
    (hpos : p → R s s') (hneg : ¬p → R t t') : R (if p then s else t) (if p' then s' else t') := by
  by_cases h : p
  · rw [if_pos h, if_pos (hp.mpr h)]
    exact hpos h
  · rw [if_neg h, if_neg (mt hp.mp h)]
    exact hneg h

section Fold

variable {f : σ → ε → σ} {p : ε → Bool}

/-- Items that the relation does not mind on the right. -/
theorem foldl_rel_right (hright : ∀ s s' e, p e = false → R s s' → R s (f s' e)) {items : List ε}
    (h : ∀ e ∈ items, p e = false) {s s' : σ} (hs : R s s') : R s (items.foldl f s') := by
  induction items generalizing s' with
  | nil => exact hs
  | cons e items ih =>
    exact ih (fun e' he' ↦ h e' (List.mem_cons_of_mem _ he'))
      (hright s s' e (h e List.mem_cons_self) hs)

/-- **Two runs over lists that agree in all items that matter.** -/
theorem foldl_rel_filter (hstep : ∀ s s' e, R s s' → R (f s e) (f s' e))
    (hleft : ∀ s s' e, p e = false → R s s' → R (f s e) s')
    (hright : ∀ s s' e, p e = false → R s s' → R s (f s' e)) {items items' : List ε}
    (h : items'.filter p = items.filter p) {s s' : σ} (hs : R s s') :
    R (items.foldl f s) (items'.foldl f s') := by
  induction items generalizing s s' items' with
  | nil =>
    refine foldl_rel_right hright (fun e he ↦ ?_) hs
    have hnone := List.filter_eq_nil_iff.mp h e he
    simpa using hnone
  | cons e items ih =>
    by_cases he : p e = true
    · -- the same item comes on the right, after some that do not matter
      rw [List.filter_cons_of_pos he, List.filter_eq_cons_iff] at h
      obtain ⟨skipped, rest, rfl, hskipped, -, hrest⟩ := h
      rw [List.foldl_append, List.foldl_cons, List.foldl_cons]
      refine ih hrest (hstep s _ e (foldl_rel_right hright (fun e' he' ↦ ?_) hs))
      simpa using hskipped e' he'
    · rw [List.filter_cons_of_neg he] at h
      exact ih h (hleft s s' e (by simpa using he) hs)

end Fold

/-! ### Traces -/

/-- What there is to see after each step of a run. -/
def trace (step : σ → ε → σ) (look : σ → ε → ω) : σ → List ε → List ω
  | _, [] => []
  | s, e :: events => look s e :: trace step look (step s e) events

/-- **Related runs look the same**, to whoever looks at each in the way that suits it. -/
theorem trace_eq_of_rel {step : σ → ε → σ} {look look' : σ → ε → ω} {events : List ε}
    (hstep : ∀ s s', ∀ e ∈ events, R s s' → R (step s e) (step s' e))
    (hlook : ∀ s s', ∀ e ∈ events, R s s' → look s e = look' s' e) {s s' : σ} (hs : R s s') :
    trace step look s events = trace step look' s' events := by
  induction events generalizing s s' with
  | nil => rfl
  | cons e events ih =>
    rw [trace, trace, hlook s s' e List.mem_cons_self hs]
    rw [ih (fun s s' e' he' ↦ hstep s s' e' (List.mem_cons_of_mem _ he'))
      (fun s s' e' he' ↦ hlook s s' e' (List.mem_cons_of_mem _ he'))
      (hstep s s' e List.mem_cons_self hs)]

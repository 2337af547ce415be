import Mathlib.Tactic.Common

/-!
# Reaching a goal in a mixed run

A run mixes the steps of one party, its own steps, with those of others. A rank that every own step
lowers and no other step raises is used up after as many own steps as it says, and a state of rank
zero is one of the goal. So a run with that many own steps passes through the goal, wherever the
other steps fall.
-/

variable {σ ε : Type}

/-- A rank for a goal, on the states of an invariant and for the events that may occur. -/
structure Ranking (step : σ → ε → σ) (own : ε → Bool) (may : ε → Prop) (I goal : σ → Prop) where
  rank : σ → ℕ
  kept : ∀ s e, I s → ¬goal s → may e → I (step s e)
  lowered : ∀ s e, I s → ¬goal s → may e → own e = true → rank (step s e) < rank s
  not_raised : ∀ s e, I s → ¬goal s → may e → own e = false → rank (step s e) ≤ rank s
  goal_of_zero : ∀ s, I s → rank s = 0 → goal s

namespace Ranking

variable {step : σ → ε → σ} {own : ε → Bool} {may : ε → Prop} {I goal : σ → Prop}

/-- **The ranking rule.** -/
theorem reaches (r : Ranking step own may I goal) {s : σ} {events : List ε} (hs : I s)
    (hmay : ∀ e ∈ events, may e) (hcount : r.rank s ≤ events.countP own) :
    ∃ k, goal ((events.take k).foldl step s) := by
  induction events generalizing s with
  | nil => exact ⟨0, r.goal_of_zero s hs (Nat.le_zero.mp hcount)⟩
  | cons e events ih =>
    by_cases hgoal : goal s
    · exact ⟨0, hgoal⟩
    have he := hmay e List.mem_cons_self
    have hnext : r.rank (step s e) ≤ events.countP own := by
      rw [List.countP_cons] at hcount
      cases hown : own e with
      | true =>
        have hlt := r.lowered s e hs hgoal he hown
        rw [hown, if_pos rfl] at hcount
        omega
      | false =>
        have hle := r.not_raised s e hs hgoal he hown
        rw [hown, if_neg Bool.false_ne_true] at hcount
        omega
    obtain ⟨k, hk⟩ :=
      ih (r.kept s e hs hgoal he) (fun e' he' ↦ hmay e' (List.mem_cons_of_mem _ he')) hnext
    exact ⟨k + 1, hk⟩

end Ranking

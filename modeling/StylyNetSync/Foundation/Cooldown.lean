import StylyNetSync.Foundation.DoubleArith

/-!
# Cooldowns

Something is done now and then, and each time a cooldown begins. The end of the cooldown is kept,
and so may be a deadline for what had to wait. If neither lies before the end of the cooldown of
anything done so far, and nothing is done before one of them has passed, then any two times at which
something was done are an interval apart.

Times are compared as the program compares them. The laws of the order are those of rounded
arithmetic: they hold for floating-point numbers, a not-a-number being comparable with nothing, and
adding the same small number to both sides keeps the order.
-/

/-- The laws of comparison that rounded arithmetic keeps. -/
class DoubleOrder (D : Type) [Double D] : Prop where
  le_self_left {x y : D} : Double.le x y = true → Double.le x x = true
  le_self_right {x y : D} : Double.le x y = true → Double.le y y = true
  le_trans {x y z : D} : Double.le x y = true → Double.le y z = true → Double.le x z = true
  le_of_not_lt {x y : D} : Double.le x x = true → Double.le y y = true →
    Double.lt x y = false → Double.le y x = true
  add_lit_le {x y : D} {q : ℚ} : 0 ≤ q → q ≤ 1 → Double.le x y = true →
    Double.le (x + Double.lit q) (y + Double.lit q) = true

instance : DoubleOrder ℚ where
  le_self_left _ := decide_eq_true le_rfl
  le_self_right _ := decide_eq_true le_rfl
  le_trans h₁ h₂ := decide_eq_true (le_trans (of_decide_eq_true h₁) (of_decide_eq_true h₂))
  le_of_not_lt _ _ h := decide_eq_true (not_lt.mp (of_decide_eq_false h))
  add_lit_le _ _ h := decide_eq_true (add_le_add_left (of_decide_eq_true h) _)

section

variable {D : Type} [Double D]

/-- Something was done at these times; the cooldown of the last one ends at `next`, and what waits
is due at `due`. -/
structure Cooling (interval now : D) (times : List D) (next due : Option D) : Prop where
  spaced : times.Pairwise fun t t' ↦ Double.le (t + interval) t' = true
  past : ∀ t ∈ times, Double.le t now = true
  next : ∀ t ∈ times, ∃ n, next = some n ∧ Double.le (t + interval) n = true
  due : ∀ t ∈ times, ∀ d, due = some d → Double.le (t + interval) d = true

namespace Cooling

variable {interval now : D} {times : List D} {next due : Option D}

theorem nil (interval now : D) (next due : Option D) : Cooling interval now [] next due := by
  constructor <;> simp

/-- What waited may be dropped. -/
theorem drop (h : Cooling interval now times next due) : Cooling interval now times next none :=
  ⟨h.spaced, h.past, h.next, by simp⟩

/-- Inside the cooldown whatever comes waits until the end of it. -/
theorem wait (h : Cooling interval now times next due) {n : D} (hnext : next = some n) :
    Cooling interval now times next (some (due.getD n)) where
  spaced := h.spaced
  past := h.past
  next := h.next
  due t ht d hd := by
    rw [← Option.some.inj hd]
    cases due with
    | some d' => exact h.due t ht d' rfl
    | none =>
      obtain ⟨n', hn', hle⟩ := h.next t ht
      rw [hnext] at hn'
      rwa [← Option.some.inj hn'] at hle

section Interval

variable (hmono : ∀ {x y : D}, Double.le x y = true →
  Double.le (x + interval) (y + interval) = true)
include hmono

/-- Outside the cooldown, what could not be done is due an interval from now. -/
theorem defer (h : Cooling interval now times next due) :
    Cooling interval now times next (some (due.getD (now + interval))) where
  spaced := h.spaced
  past := h.past
  next := h.next
  due t ht d hd := by
    rw [← Option.some.inj hd]
    cases due with
    | some d' => exact h.due t ht d' rfl
    | none => exact hmono (h.past t ht)

/-- **Something is done**, once everything before lies an interval back. No deadline may be left
from before. -/
theorem act (h : Cooling interval now times next due) (hnow : Double.le now now = true)
    (hover : ∀ t ∈ times, Double.le (t + interval) now = true) {due' : Option D}
    (hdue : ∀ d, due' = some d → d = now + interval) :
    Cooling interval now (times ++ [now]) (some (now + interval)) due' := by
  have hall : ∀ t ∈ times ++ [now], Double.le t now = true := by
    intro t ht
    rcases List.mem_append.mp ht with ht | ht
    · exact h.past t ht
    · rw [List.mem_singleton.mp ht]
      exact hnow
  refine ⟨?_, hall, fun t ht ↦ ⟨_, rfl, hmono (hall t ht)⟩, fun t ht d hd ↦ ?_⟩
  · refine List.pairwise_append.mpr ⟨h.spaced, List.pairwise_singleton _ _, fun t ht t' ht' ↦ ?_⟩
    rw [List.mem_singleton.mp ht']
    exact hover t ht
  · rw [hdue d hd]
    exact hmono (hall t ht)

end Interval

variable [DoubleOrder D]

/-- Time passes. -/
theorem later (h : Cooling interval now times next due) {now' : D}
    (hle : Double.le now now' = true) : Cooling interval now' times next due :=
  ⟨h.spaced, fun t ht ↦ DoubleOrder.le_trans (h.past t ht) hle, h.next, h.due⟩

/-- The cooldown is over: everything done so far lies an interval back. -/
theorem over_of_next (h : Cooling interval now times next due)
    (hover : ∀ n, next = some n → Double.le n now = true) :
    ∀ t ∈ times, Double.le (t + interval) now = true := by
  intro t ht
  obtain ⟨n, hn, hle⟩ := h.next t ht
  exact DoubleOrder.le_trans hle (hover n hn)

/-- The deadline has passed: everything done so far lies an interval back. -/
theorem over_of_due (h : Cooling interval now times next due) (hnow : Double.le now now = true)
    {d : D} (hdue : due = some d) (hpassed : Double.lt now d = false) :
    ∀ t ∈ times, Double.le (t + interval) now = true := by
  intro t ht
  have hle := h.due t ht d hdue
  exact DoubleOrder.le_trans hle
    (DoubleOrder.le_of_not_lt hnow (DoubleOrder.le_self_right hle) hpassed)

end Cooling

end

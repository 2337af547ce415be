import Mathlib.Data.List.TakeWhile
import StylyNetSync.Foundation.Cooldown

/-!
# Sliding windows

A limiter keeps the times of what it granted and forgets those that have left the window. It grants
no more than a fixed number at a time within the window that ends now; what is shown is that it
grants no more within any window, wherever it lies.

The laws are those that rounded subtraction keeps: a difference grows with its first operand and
shrinks with its second, and the comparison with the length of the window respects that.
-/

/-- The laws of elapsed time that rounded arithmetic keeps. -/
class DoubleElapsed (D : Type) [Double D] : Prop extends DoubleOrder D where
  lt_elapsed_mono {x x' y y' w : D} : Double.le x' x = true → Double.le y y' = true →
    Double.lt w (y - x) = true → Double.lt w (y' - x') = true
  not_lt_of_le {x y : D} : Double.le x y = true → Double.lt y x = false
  lt_trans {x y z : D} : Double.lt x y = true → Double.lt y z = true → Double.lt x z = true
  zero_lt_lit {q : ℚ} : 1 / 100 ≤ q → Double.lt (Double.lit 0 : D) (Double.lit q) = true
  not_lt_sub_self {x w : D} : Double.lt (Double.lit 0) w = true → Double.lt w (x - x) = false

instance : DoubleElapsed ℚ where
  lt_elapsed_mono hx hy h := by
    have hx' := of_decide_eq_true hx
    have hy' := of_decide_eq_true hy
    have h' := of_decide_eq_true h
    exact decide_eq_true (h'.trans_le (sub_le_sub hy' hx'))
  not_lt_of_le h := decide_eq_false (not_lt.mpr (of_decide_eq_true h))
  lt_trans h₁ h₂ := decide_eq_true ((of_decide_eq_true h₁).trans (of_decide_eq_true h₂))
  zero_lt_lit h := decide_eq_true (lt_of_lt_of_le (show (0 : ℚ) < 1 / 100 by norm_num) h)
  not_lt_sub_self h := by
    have hpos := of_decide_eq_true h
    exact decide_eq_false (not_lt.mpr ((sub_self _).le.trans hpos.le))

section

variable {D : Type} [Double D]

/-- The times never run backwards, and each is a number. -/
structure Nondecreasing (times : List D) : Prop where
  le : times.Pairwise fun t t' ↦ Double.le t t' = true
  self : ∀ t ∈ times, Double.le t t = true

/-- The closed interval from `a` to `b` contains this time. -/
def within (a b t : D) : Bool := Double.le a t && Double.le t b

/-- Every closed interval of at most this length contains at most `limit` of these times. -/
def WindowBounded (limit : ℕ) (window : D) (times : List D) : Prop :=
  ∀ a b : D, Double.le (b - a) window = true → (times.filter (within a b)).length ≤ limit

theorem WindowBounded.sublist {limit : ℕ} {window : D} {times times' : List D}
    (h : WindowBounded limit window times) (hsub : times'.Sublist times) :
    WindowBounded limit window times' :=
  fun a b hlength ↦ (hsub.filter _).length_le.trans (h a b hlength)

/-- The times at which something was granted, and those that the limiter still keeps: the ones it
has forgotten lie more than a window back. -/
structure WindowLog (limit : ℕ) (window now : D) (granted hits : List D) : Prop where
  kept : ∃ gone, granted = gone ++ hits ∧ ∀ t ∈ gone, Double.lt window (now - t) = true
  sorted : granted.Pairwise fun t t' ↦ Double.le t t' = true
  past : ∀ t ∈ granted, Double.le t now = true
  size : hits.length ≤ limit
  bounded : WindowBounded limit window granted

namespace WindowLog

variable {limit : ℕ} {window now : D} {granted hits : List D}

theorem nil (limit : ℕ) (window now : D) : WindowLog limit window now [] [] where
  kept := ⟨[], rfl, by simp⟩
  sorted := .nil
  past := by simp
  size := Nat.zero_le _
  bounded := fun _ _ _ ↦ Nat.zero_le _

/-- What the limiter keeps is sorted. -/
theorem sorted_hits (h : WindowLog limit window now granted hits) :
    hits.Pairwise fun t t' ↦ Double.le t t' = true := by
  obtain ⟨gone, rfl, -⟩ := h.kept
  exact (List.pairwise_append.mp h.sorted).2.1

/-- Times that have left the window may be forgotten. -/
theorem evict (h : WindowLog limit window now granted hits) :
    WindowLog limit window now granted
      (hits.dropWhile fun hit ↦ Double.lt window (now - hit)) where
  kept := by
    obtain ⟨gone, hgranted, hgone⟩ := h.kept
    refine ⟨gone ++ hits.takeWhile fun hit ↦ Double.lt window (now - hit), ?_, fun t ht ↦ ?_⟩
    · rw [List.append_assoc, List.takeWhile_append_dropWhile, hgranted]
    · rcases List.mem_append.mp ht with hold | hnew
      · exact hgone t hold
      · exact List.mem_takeWhile_imp (p := fun hit ↦ Double.lt window (now - hit)) hnew
  sorted := h.sorted
  past := h.past
  size := (List.dropWhile_suffix _).length_le.trans h.size
  bounded := h.bounded

variable [DoubleElapsed D]

/-- Time passes. -/
theorem later (h : WindowLog limit window now granted hits) {now' : D}
    (hle : Double.le now now' = true) : WindowLog limit window now' granted hits where
  kept := by
    obtain ⟨gone, hgranted, hgone⟩ := h.kept
    refine ⟨gone, hgranted, fun t ht ↦ ?_⟩
    have hpast := h.past t (by rw [hgranted]; exact List.mem_append_left _ ht)
    exact DoubleElapsed.lt_elapsed_mono (DoubleOrder.le_self_left hpast) hle (hgone t ht)
  sorted := h.sorted
  past t ht := DoubleOrder.le_trans (h.past t ht) hle
  size := h.size
  bounded := h.bounded

/-- **Granting keeps every window bounded.** A window that contains this moment contains nothing
that was forgotten, and there was room for one more among what is kept. -/
theorem grant (h : WindowLog limit window now granted hits) (hnow : Double.le now now = true)
    (hroom : hits.length < limit) :
    WindowLog limit window now (granted ++ [now]) (hits ++ [now]) where
  kept := by
    obtain ⟨gone, hgranted, hgone⟩ := h.kept
    exact ⟨gone, by rw [hgranted, List.append_assoc], hgone⟩
  sorted := by
    refine List.pairwise_append.mpr ⟨h.sorted, List.pairwise_singleton _ _, fun t ht t' ht' ↦ ?_⟩
    rw [List.mem_singleton.mp ht']
    exact h.past t ht
  past t ht := by
    rcases List.mem_append.mp ht with hold | hnew
    · exact h.past t hold
    · rwa [List.mem_singleton.mp hnew]
  size := by
    rw [List.length_append, List.length_singleton]
    exact hroom
  bounded := by
    intro a b hlength
    rw [List.filter_append, List.length_append]
    by_cases hin : within a b now = true
    · obtain ⟨gone, hgranted, hgone⟩ := h.kept
      have hforgotten : gone.filter (within a b) = [] := by
        refine List.filter_eq_nil_iff.mpr fun t ht hwithin ↦ ?_
        rw [within, Bool.and_eq_true] at hin hwithin
        have hlong := DoubleElapsed.lt_elapsed_mono hwithin.1 hin.2 (hgone t ht)
        rw [DoubleElapsed.not_lt_of_le hlength] at hlong
        exact absurd hlong (by decide)
      have hkept : (hits.filter (within a b)).length ≤ hits.length :=
        List.length_filter_le _ _
      rw [hgranted, List.filter_append, hforgotten, List.nil_append,
        List.filter_cons_of_pos hin, List.filter_nil, List.length_singleton]
      omega
    · rw [List.filter_cons_of_neg hin, List.filter_nil, List.length_nil, Nat.add_zero]
      exact h.bounded a b hlength

end WindowLog

end

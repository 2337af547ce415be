import Mathlib.Data.List.Chain

/-!
# Routes

Something moves along a relation and names each station it comes to. A **route** from `a` to `b` is
the list of these names: each station is reached from the one before, the first one from `a`, and
the last one is `b`. If there is no station, nothing has moved. Whoever was told `a` once and writes
down the stations knows at any time where it stands.
-/

universe u

variable {α : Type u} {R : α → α → Prop} {a b c : α} {stations more : List α}

/-- The stations of a way from `a` to `b`. -/
structure Route (R : α → α → Prop) (a : α) (stations : List α) (b : α) : Prop where
  chain : (a :: stations).IsChain R
  ends : stations.getLastD a = b

namespace Route

@[simp] theorem nil_iff : Route R a [] b ↔ a = b :=
  ⟨fun h ↦ h.ends, fun h ↦ ⟨List.IsChain.singleton a, h⟩⟩

@[simp] theorem cons_iff : Route R a (c :: stations) b ↔ R a c ∧ Route R c stations b := by
  constructor
  · intro h
    obtain ⟨hstep, hrest⟩ := List.isChain_cons_cons.mp h.chain
    exact ⟨hstep, hrest, List.getLastD_cons.symm.trans h.ends⟩
  · rintro ⟨hstep, hrest⟩
    refine ⟨List.isChain_cons_cons.mpr ⟨hstep, hrest.chain⟩, ?_⟩
    rw [List.getLastD_cons]
    exact hrest.ends

theorem refl (a : α) : Route R a [] a := nil_iff.mpr rfl

/-- One station. -/
theorem single (h : R a b) : Route R a [b] b := cons_iff.mpr ⟨h, refl b⟩

/-- One way after another. -/
theorem append (h : Route R a stations b) (hmore : Route R b more c) :
    Route R a (stations ++ more) c := by
  induction stations generalizing a with
  | nil =>
    obtain rfl := nil_iff.mp h
    exact hmore
  | cons d stations ih =>
    obtain ⟨hstep, hrest⟩ := cons_iff.mp h
    exact cons_iff.mpr ⟨hstep, ih hrest⟩

end Route

import Mathlib.Data.List.Nodup
import Mathlib.Tactic.Common

/-!
# Ordered maps and loops over their entries

A map whose iteration is in key order, with equality of keys the equality of the type. The lookup
lemmas are restated with that equality, and a loop over the entries of a map is reasoned about one
entry at a time: each key occurs once, so what an entry relies on when the loop begins it can still
rely on when its round comes.
-/

/-- A map kept in the order of its keys. -/
abbrev OrderedMap (K V : Type) [Ord K] : Type := Std.ExtTreeMap K V compare

namespace OrderedMap

variable {K V : Type}

/-- **Loops over distinct keys.** `Ahead s e` is what an entry that the loop has not reached yet may
rely on. It holds of every entry at the start, a round for another key keeps it, and a round for an
entry it holds of keeps the invariant `P`. -/
theorem foldl_keyed {σ : Type} {step : σ → K × V → σ} (P : σ → Prop) (Ahead : σ → K × V → Prop)
    (hkeep : ∀ s e e', Ahead s e → Ahead s e' → e.1 ≠ e'.1 → Ahead (step s e) e')
    (hstep : ∀ s e, Ahead s e → P s → P (step s e)) {entries : List (K × V)} {s : σ}
    (hnodup : (entries.map Prod.fst).Nodup) (hahead : ∀ e ∈ entries, Ahead s e) (hP : P s) :
    P (entries.foldl step s) := by
  induction entries generalizing s with
  | nil => exact hP
  | cons e rest ih =>
    rw [List.map_cons, List.nodup_cons] at hnodup
    have he := hahead e List.mem_cons_self
    refine ih hnodup.2 (fun e' he' ↦ ?_) (hstep s e he hP)
    refine hkeep s e e' he (hahead e' (List.mem_cons_of_mem _ he')) fun hkey ↦ hnodup.1 ?_
    rw [hkey]
    exact List.mem_map_of_mem he'

/-- A loop whose rounds all leave something alone leaves it alone. `R` is agreement on it. -/
theorem foldl_agree {σ : Type} {step : σ → K × V → σ} {R : σ → σ → Prop} (hrefl : ∀ s, R s s)
    (htrans : ∀ s₁ s₂ s₃, R s₁ s₂ → R s₂ s₃ → R s₁ s₃) {entries : List (K × V)}
    (hround : ∀ s, ∀ e ∈ entries, R s (step s e)) (s : σ) : R s (entries.foldl step s) := by
  induction entries generalizing s with
  | nil => exact hrefl s
  | cons e rest ih =>
    exact htrans _ _ _ (hround s e List.mem_cons_self)
      (ih (fun s e' he' ↦ hround s e' (List.mem_cons_of_mem _ he')) (step s e))

/-- A loop with one round for a key does to it what that round does. `R` is agreement at the key. -/
theorem foldl_agree_of_mem {σ : Type} {step : σ → K × V → σ} {R : σ → σ → Prop} {k : K} {v : V}
    (hrefl : ∀ s, R s s) (htrans : ∀ s₁ s₂ s₃, R s₁ s₂ → R s₂ s₃ → R s₁ s₃)
    (hother : ∀ s e, e.1 ≠ k → R s (step s e))
    (hcongr : ∀ s s', R s s' → R (step s (k, v)) (step s' (k, v))) {entries : List (K × V)}
    (hnodup : (entries.map Prod.fst).Nodup) (hmem : (k, v) ∈ entries) (s : σ) :
    R (step s (k, v)) (entries.foldl step s) := by
  induction entries generalizing s with
  | nil => simp at hmem
  | cons e rest ih =>
    rw [List.map_cons, List.nodup_cons] at hnodup
    rcases List.mem_cons.mp hmem with rfl | hrest
    · refine foldl_agree hrefl htrans (fun s e he ↦ hother s e ?_) (step s (k, v))
      rintro rfl
      exact hnodup.1 (List.mem_map.mpr ⟨e, he, rfl⟩)
    · have hne : e.1 ≠ k := by
        rintro rfl
        exact hnodup.1 (List.mem_map.mpr ⟨(e.1, v), hrest, rfl⟩)
      exact htrans _ _ _ (hcongr _ _ (hother s e hne)) (ih hnodup.2 hrest (step s e))

/-- Selecting entries by key keeps the order of the keys. -/
theorem keys_filterMap_sublist {V' : Type} {f : K × V → Option (K × V')}
    (hf : ∀ e e', f e = some e' → e'.1 = e.1) (entries : List (K × V)) :
    ((entries.filterMap f).map Prod.fst).Sublist (entries.map Prod.fst) := by
  induction entries with
  | nil => exact List.Sublist.refl _
  | cons e rest ih =>
    rcases he : f e with - | e'
    · rw [List.filterMap_cons_none he]
      exact ih.cons _
    · rw [List.filterMap_cons_some he, List.map_cons, List.map_cons, hf e e' he]
      exact ih.cons_cons _

variable [Ord K] [Std.TransOrd K]

/-- The entries of a map have distinct keys. -/
theorem nodup_keys_toList (m : OrderedMap K V) : (m.toList.map Prod.fst).Nodup := by
  rw [Std.ExtTreeMap.map_fst_toList_eq_keys]
  exact Std.ExtTreeMap.nodup_keys

variable [Std.LawfulEqOrd K]

theorem mem_keys_toList {m : OrderedMap K V} {k : K} : k ∈ m.toList.map Prod.fst ↔ k ∈ m := by
  rw [Std.ExtTreeMap.map_fst_toList_eq_keys, Std.ExtTreeMap.mem_keys]

/-- Inserting one entry after the other. -/
theorem mem_foldl_insert {α : Type} {key : α → K} {value : α → V} (items : List α)
    (m : OrderedMap K V) (a : K) :
    a ∈ items.foldl (fun m item ↦ m.insert (key item) (value item)) m ↔
      a ∈ items.map key ∨ a ∈ m := by
  induction items generalizing m with
  | nil => simp
  | cons item items ih =>
    rw [List.foldl_cons, ih, Std.ExtTreeMap.mem_insert, Std.LawfulEqOrd.compare_eq_iff_eq,
      List.map_cons, List.mem_cons]
    tauto

variable [DecidableEq K]

@[simp] theorem get?_insert (m : OrderedMap K V) (k a : K) (v : V) :
    (m.insert k v)[a]? = if k = a then some v else m[a]? := by
  rw [Std.ExtTreeMap.getElem?_insert]
  simp only [Std.LawfulEqOrd.compare_eq_iff_eq]

@[simp] theorem get?_erase (m : OrderedMap K V) (k a : K) :
    (m.erase k)[a]? = if k = a then none else m[a]? := by
  rw [Std.ExtTreeMap.getElem?_erase]
  simp only [Std.LawfulEqOrd.compare_eq_iff_eq]

/-- Erasing one key after the other. -/
theorem get?_foldl_erase (keys : List K) (m : OrderedMap K V) (a : K) :
    (keys.foldl (fun m k ↦ m.erase k) m)[a]? = if a ∈ keys then none else m[a]? := by
  induction keys generalizing m with
  | nil => simp
  | cons k keys ih =>
    rw [List.foldl_cons, ih, get?_erase]
    by_cases ha : a ∈ keys
    · rw [if_pos ha, if_pos (List.mem_cons_of_mem k ha)]
    · rw [if_neg ha]
      by_cases hk : k = a
      · rw [if_pos hk, if_pos (hk ▸ List.mem_cons_self)]
      · rw [if_neg hk, if_neg (by simp [ha, Ne.symm hk])]

/-- Copying some entries of another map. -/
theorem get?_foldl_insert {source : OrderedMap K V} {entries : List (K × V)}
    (h : ∀ e ∈ entries, source[e.1]? = some e.2) (m : OrderedMap K V) (a : K) :
    (entries.foldl (fun m e ↦ m.insert e.1 e.2) m)[a]? =
      if a ∈ entries.map Prod.fst then source[a]? else m[a]? := by
  induction entries generalizing m with
  | nil => simp
  | cons e entries ih =>
    rw [List.foldl_cons, ih fun e' he' ↦ h e' (List.mem_cons_of_mem _ he'), get?_insert,
      List.map_cons]
    by_cases ha : a ∈ entries.map Prod.fst
    · rw [if_pos ha, if_pos (List.mem_cons_of_mem e.1 ha)]
    · rw [if_neg ha]
      by_cases hk : e.1 = a
      · rw [if_pos hk, if_pos (hk ▸ List.mem_cons_self), ← hk, h e List.mem_cons_self]
      · have hnot : a ∉ e.1 :: entries.map Prod.fst := by
          rw [List.mem_cons, not_or]
          exact ⟨Ne.symm hk, ha⟩
        rw [if_neg hk, if_neg hnot]

/-- What is selected for a key comes from the entry of the key. -/
theorem filter_filterMap_toList {V' : Type} {f : K × V → Option (K × V')}
    (hf : ∀ e e', f e = some e' → e'.1 = e.1) (m : OrderedMap K V) (k : K) :
    ((m.toList.filterMap f).filter fun e ↦ e.1 = k) = (m[k]?.bind fun v ↦ f (k, v)).toList := by
  have hother (entries : List (K × V)) (hne : ∀ e ∈ entries, e.1 ≠ k) :
      ((entries.filterMap f).filter fun e ↦ e.1 = k) = [] := by
    refine List.filter_eq_nil_iff.mpr fun e' he' ↦ ?_
    obtain ⟨e, he, hfe⟩ := List.mem_filterMap.mp he'
    rw [hf e e' hfe, decide_eq_true_iff]
    exact hne e he
  rcases hv : m[k]? with - | v
  · refine hother _ fun e he hk ↦ ?_
    have hmem := Std.ExtTreeMap.mem_toList_iff_getElem?_eq_some.mp he
    rw [hk, hv] at hmem
    simp at hmem
  · obtain ⟨before, after, hsplit⟩ :=
      List.append_of_mem (Std.ExtTreeMap.mem_toList_iff_getElem?_eq_some.mpr hv)
    -- the key occurs nowhere else
    have hnodup := nodup_keys_toList m
    rw [hsplit, List.map_append, List.map_cons, List.nodup_append, List.nodup_cons] at hnodup
    have hbefore : ∀ e ∈ before, e.1 ≠ k := fun e he ↦
      hnodup.2.2 e.1 (List.mem_map_of_mem he) k List.mem_cons_self
    have hafter : ∀ e ∈ after, e.1 ≠ k := by
      rintro e he rfl
      exact hnodup.2.1.1 (List.mem_map.mpr ⟨e, he, rfl⟩)
    rw [hsplit, List.filterMap_append, List.filter_append, hother before hbefore, List.nil_append,
      Option.bind_some]
    rcases hfv : f (k, v) with - | e'
    · rw [List.filterMap_cons_none hfv]
      exact hother after hafter
    · rw [List.filterMap_cons_some hfv, List.filter_cons_of_pos, hother after hafter]
      · rfl
      · exact decide_eq_true (hf _ _ hfv)

end OrderedMap

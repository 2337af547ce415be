import Mathlib.Data.List.Basic
import Mathlib.Tactic.Common

/-!
# Recursive-descent parsers over the rest of a text

A parser of this kind walks over a text with one item of lookahead and records the first message it
fails with. It is a state-passing function on what is left of the text; `loop` is its `while
(true)`, and `loop_eq` is the equation of that loop, which holds whenever every round that goes on
has read something.

* `Takes n p` — an accepting run reads at least `n` items. With `n = 1` this is what a loop asks of
  its rounds.
* `Complete p chunk b` — wherever `chunk` stands, `p` reads it and returns `b`; on a text that is
  only the beginning of `chunk`, `p` fails. This is what a round-trip proof composes when texts may
  arrive cut short.

Nothing here knows what the items are or which language is parsed.
-/

/-- What is left of a text, and the first message a parser failed with. -/
@[ext]
structure TextCursor (α ε : Type) where
  rest : List α
  error : Option ε := none

/-- A parser: the result, or nothing, and the cursor afterwards. -/
def TextParser (α ε β : Type) : Type := TextCursor α ε → Option β × TextCursor α ε

namespace TextParser

variable {α ε β γ σ : Type}

protected def bind (p : TextParser α ε β) (f : β → TextParser α ε γ) : TextParser α ε γ := fun c ↦
  match p c with
  | (none, c') => (none, c')
  | (some b, c') => f b c'

instance : Monad (TextParser α ε) where
  pure b := fun c ↦ (some b, c)
  bind := TextParser.bind

theorem pure_apply (b : β) (c : TextCursor α ε) :
    (pure b : TextParser α ε β) c = (some b, c) := rfl

theorem bind_apply_some {p : TextParser α ε β} {f : β → TextParser α ε γ} {c c' : TextCursor α ε}
    {b : β} (h : p c = (some b, c')) : (p >>= f) c = f b c' := by
  show TextParser.bind p f c = f b c'
  rw [TextParser.bind, h]

theorem bind_apply_none {p : TextParser α ε β} {f : β → TextParser α ε γ} {c : TextCursor α ε}
    (h : (p c).1 = none) : ((p >>= f) c).1 = none := by
  show (TextParser.bind p f c).1 = none
  rcases hp : p c with ⟨- | b, c'⟩
  · rw [TextParser.bind, hp]
  · rw [hp] at h
    simp at h

/-- Sequences that go on alike wherever the first half ends. -/
theorem bind_apply_congr {p : TextParser α ε β} {f g : β → TextParser α ε γ} {c : TextCursor α ε}
    (h : ∀ b c', p c = (some b, c') → f b c' = g b c') : (p >>= f) c = (p >>= g) c := by
  rcases hp : p c with ⟨- | b, c'⟩
  · show TextParser.bind p f c = TextParser.bind p g c
    rw [TextParser.bind, TextParser.bind, hp]
  · rw [bind_apply_some hp, bind_apply_some hp]
    exact h b c' hp

/-- An accepting run of a sequence splits into accepting runs of its two halves. -/
theorem bind_eq_some {p : TextParser α ε β} {f : β → TextParser α ε γ} {c c₂ : TextCursor α ε}
    {g : γ} (h : (p >>= f) c = (some g, c₂)) :
    ∃ b c₁, p c = (some b, c₁) ∧ f b c₁ = (some g, c₂) := by
  rcases hp : p c with ⟨- | b, c₁⟩
  · have hnone := bind_apply_none (f := f) (congrArg Prod.fst hp)
    rw [h] at hnone
    simp at hnone
  · exact ⟨b, c₁, rfl, by rwa [bind_apply_some hp] at h⟩

/-! ### Primitives -/

/-- Fail. The message is recorded unless an earlier one is. -/
def reject (message : ε) : TextParser α ε β := fun c ↦
  (none, { c with error := c.error <|> some message })

/-- A look at the next item, which must be there. -/
def look (message : ε) : TextParser α ε α := fun c ↦
  match c.rest with
  | [] => reject message c
  | a :: _ => (some a, c)

/-- Move past the next item. -/
def advance : TextParser α ε Unit := fun c ↦ (some (), { c with rest := c.rest.drop 1 })

/-- Read the next item, which must be there and pass a test. -/
def satisfy (test : α → Bool) (message : ε) : TextParser α ε α := fun c ↦
  match c.rest with
  | [] => reject message c
  | a :: rest => if test a then (some a, { c with rest := rest }) else reject message c

/-- Read items while they pass a test. -/
def takeWhile (test : α → Bool) : TextParser α ε (List α) := fun c ↦
  (some (c.rest.takeWhile test), { c with rest := c.rest.dropWhile test })

/-- Move past the items that pass a test. -/
def skipWhile (test : α → Bool) : TextParser α ε Unit := fun c ↦
  (some (), { c with rest := c.rest.dropWhile test })

/-- Read one item if it passes a test. -/
def takeIf (test : α → Bool) : TextParser α ε (List α) := fun c ↦
  if (c.rest.head?.map test).getD false then
    (some (c.rest.take 1), { c with rest := c.rest.drop 1 })
  else (some [], c)

/-- Rounds of a loop, each of which goes on with a new state or ends with a result. -/
def rounds (step : σ → TextParser α ε (σ ⊕ β)) : ℕ → σ → TextParser α ε β
  | 0, _ => fun c ↦ (none, c)
  | n + 1, s => step s >>= Sum.elim (rounds step n) pure

/-- A loop that runs until a round ends it. A loop whose rounds read something has no more rounds
than the text has items. -/
def loop (step : σ → TextParser α ε (σ ⊕ β)) (s : σ) : TextParser α ε β := fun c ↦
  rounds step (c.rest.length + 1) s c

/-! ### Reading at least so much -/

/-- An accepting run from this cursor reads at least `n` items. -/
def TakesAt (n : ℕ) (p : TextParser α ε β) (c : TextCursor α ε) : Prop :=
  ∀ b c', p c = (some b, c') → c'.rest.length + n ≤ c.rest.length

/-- An accepting run reads at least `n` items. -/
def Takes (n : ℕ) (p : TextParser α ε β) : Prop := ∀ c, TakesAt n p c

theorem Takes.pure (b : β) : Takes 0 (pure b : TextParser α ε β) := by
  intro c b' c' h
  rw [pure_apply, Prod.mk.injEq] at h
  rw [h.2]
  exact Nat.le_refl _

theorem Takes.reject (n : ℕ) (message : ε) : Takes n (reject message : TextParser α ε β) := by
  intro c b c' h
  simp [TextParser.reject] at h

theorem Takes.mono {m n : ℕ} {p : TextParser α ε β} (hp : Takes n p) (h : m ≤ n) : Takes m p := by
  intro c b c' hc
  have := hp c b c' hc
  omega

theorem TakesAt.bind {m n : ℕ} {p : TextParser α ε β} {f : β → TextParser α ε γ}
    {c : TextCursor α ε} (hp : TakesAt m p c) (hf : ∀ b, Takes n (f b)) :
    TakesAt (m + n) (p >>= f) c := by
  intro g c₂ h
  obtain ⟨b, c₁, h₁, h₂⟩ := bind_eq_some h
  have hfirst := hp b c₁ h₁
  have hsecond := hf b c₁ g c₂ h₂
  omega

theorem Takes.bind {m n : ℕ} {p : TextParser α ε β} {f : β → TextParser α ε γ} (hp : Takes m p)
    (hf : ∀ b, Takes n (f b)) : Takes (m + n) (p >>= f) := fun c ↦ (hp c).bind hf

theorem Takes.ite {n : ℕ} {P : Prop} [Decidable P] {p q : TextParser α ε β} (hp : Takes n p)
    (hq : Takes n q) : Takes n (if P then p else q) := by
  split
  · exact hp
  · exact hq

theorem Takes.advance : Takes 0 (advance : TextParser α ε Unit) := by
  intro c b c' h
  rw [TextParser.advance, Prod.mk.injEq] at h
  rw [← h.2, List.length_drop]
  omega

/-- Moving past an item that is there reads it. -/
theorem TakesAt.advance {c : TextCursor α ε} {a : α} (hc : c.rest.head? = some a) :
    TakesAt 1 (advance : TextParser α ε Unit) c := by
  intro b c' h
  rw [TextParser.advance, Prod.mk.injEq] at h
  obtain ⟨rest, hrest⟩ := List.head?_eq_some_iff.mp hc
  rw [← h.2, List.length_drop, hrest, List.length_cons]
  omega

/-- What follows a look at the next item may count on it. -/
theorem Takes.look {n : ℕ} {message : ε} {f : α → TextParser α ε γ}
    (h : ∀ a c, c.rest.head? = some a → TakesAt n (f a) c) : Takes n (look message >>= f) := by
  intro c g c' hrun
  obtain ⟨a, c₁, hlook, hf⟩ := bind_eq_some hrun
  rw [TextParser.look] at hlook
  split at hlook
  · simp [TextParser.reject] at hlook
  · next b rest hrest =>
    rw [Prod.mk.injEq, Option.some.injEq] at hlook
    obtain ⟨rfl, rfl⟩ := hlook
    exact h b c (by rw [hrest]; rfl) g c' hf

theorem Takes.satisfy (test : α → Bool) (message : ε) : Takes 1 (satisfy test message) := by
  intro c a c' h
  rw [TextParser.satisfy] at h
  split at h
  · exact Takes.reject 1 message c a c' h
  · next b rest hrest =>
    split at h
    · rw [Prod.mk.injEq] at h
      rw [← h.2, hrest]
      exact Nat.le_refl _
    · exact Takes.reject 1 message c a c' h

/-- Reading a run of items reads as many as it returns. -/
theorem takeWhile_eq_some {test : α → Bool} {c c' : TextCursor α ε} {items : List α}
    (h : takeWhile test c = (some items, c')) : c.rest = items ++ c'.rest := by
  rw [takeWhile, Prod.mk.injEq, Option.some.injEq] at h
  rw [← h.1, ← h.2, List.takeWhile_append_dropWhile]

theorem takeIf_eq_some {test : α → Bool} {c c' : TextCursor α ε} {items : List α}
    (h : takeIf test c = (some items, c')) : c.rest = items ++ c'.rest := by
  rw [takeIf] at h
  split at h <;> rw [Prod.mk.injEq, Option.some.injEq] at h <;> rw [← h.1, ← h.2]
  · exact (List.take_append_drop 1 c.rest).symm
  · rfl

theorem Takes.takeWhile (test : α → Bool) :
    Takes 0 (takeWhile test : TextParser α ε (List α)) := by
  intro c items c' h
  rw [takeWhile_eq_some h, List.length_append]
  omega

theorem Takes.skipWhile (test : α → Bool) : Takes 0 (skipWhile test : TextParser α ε Unit) := by
  intro c items c' h
  rw [TextParser.skipWhile, Prod.mk.injEq] at h
  rw [← h.2]
  exact (List.dropWhile_sublist test).length_le

theorem Takes.takeIf (test : α → Bool) : Takes 0 (takeIf test : TextParser α ε (List α)) := by
  intro c items c' h
  rw [takeIf_eq_some h, List.length_append]
  omega

/-! ### Loops -/

section Loop

variable {step : σ → TextParser α ε (σ ⊕ β)}

/-- Once there are as many rounds as items, more of them change nothing. -/
theorem rounds_eq (h : ∀ s, Takes 1 (step s)) {n : ℕ} (s : σ) (c : TextCursor α ε)
    (hn : c.rest.length < n) : rounds step n s c = loop step s c := by
  have hmore : ∀ m n : ℕ, ∀ s c, c.rest.length < m → c.rest.length < n →
      rounds step m s c = rounds step n s c := by
    intro m
    induction m with
    | zero => intro n s c hm; omega
    | succ m ih =>
      intro n s c hm hn
      obtain ⟨n, rfl⟩ : ∃ k, n = k + 1 := ⟨n - 1, by omega⟩
      rw [rounds, rounds]
      refine bind_apply_congr fun r c' hstep ↦ ?_
      cases r with
      | inr b => rfl
      | inl s' =>
        have hshort := h s c _ _ hstep
        exact ih n s' c' (by omega) (by omega)
  exact hmore n _ s c hn (Nat.lt_succ_self _)

/-- **The equation of a loop** whose rounds read something. -/
theorem loop_eq (h : ∀ s, Takes 1 (step s)) (s : σ) :
    loop step s = step s >>= Sum.elim (loop step) pure := by
  funext c
  rw [loop, rounds]
  refine bind_apply_congr fun r c' hstep ↦ ?_
  cases r with
  | inr b => rfl
  | inl s' =>
    have hshort := h s c _ _ hstep
    exact rounds_eq h s' c' (by omega)

theorem Takes.loop (h : ∀ s, Takes 1 (step s)) (s : σ) : Takes 1 (loop step s) := by
  have hrounds : ∀ n s, Takes 1 (rounds step n s) := by
    intro n
    induction n with
    | zero =>
      intro s c b c' hc
      simp [rounds] at hc
    | succ n ih =>
      intro s
      refine ((h s).bind (n := 0) fun r ↦ ?_).mono (Nat.le_refl 1)
      cases r with
      | inl s' => exact (ih s').mono (Nat.zero_le 1)
      | inr b => exact Takes.pure b
  intro c b c' hc
  exact hrounds _ s c b c' hc

end Loop

/-! ### Texts that are read completely or not at all -/

/-- Wherever `chunk` stands it is read and yields `b`, and no text that is only the beginning of
`chunk` is accepted. -/
structure Complete (p : TextParser α ε β) (chunk : List α) (b : β) : Prop where
  reads : ∀ after error, p ⟨chunk ++ after, error⟩ = (some b, ⟨after, error⟩)
  cut : ∀ short, short <+: chunk → short ≠ chunk → ∀ error, (p ⟨short, error⟩).1 = none

namespace Complete

theorem pure (b : β) : Complete (pure b : TextParser α ε β) [] b where
  reads _ _ := rfl
  cut _ hpre hne _ := absurd (List.prefix_nil.mp hpre) hne

theorem bind {p : TextParser α ε β} {f : β → TextParser α ε γ} {chunk chunk' : List α} {b : β}
    {g : γ} (hp : Complete p chunk b) (hf : Complete (f b) chunk' g) :
    Complete (p >>= f) (chunk ++ chunk') g where
  reads after error := by
    rw [List.append_assoc, bind_apply_some (hp.reads _ error)]
    exact hf.reads after error
  cut short hpre hne error := by
    by_cases hchunk : chunk <+: short
    · -- the first chunk is there, and the cut lies in the second
      obtain ⟨tail, rfl⟩ := hchunk
      rw [bind_apply_some (hp.reads tail error)]
      exact hf.cut tail ((List.prefix_append_right_inj chunk).mp hpre)
        (fun heq ↦ hne (by rw [heq])) error
    · have hshort := (List.prefix_or_prefix_of_prefix hpre (List.prefix_append _ _)).resolve_right
        hchunk
      have hne : short ≠ chunk := fun heq ↦ hchunk (heq ▸ List.prefix_refl _)
      exact bind_apply_none (hp.cut short hshort hne error)

/-- A parser followed by one that reads nothing. -/
theorem bind_nil {p : TextParser α ε β} {f : β → TextParser α ε γ} {chunk : List α} {b : β} {g : γ}
    (hp : Complete p chunk b) (hf : Complete (f b) [] g) : Complete (p >>= f) chunk g := by
  rw [← List.append_nil chunk]
  exact hp.bind hf

/-- A parser of one item: only the empty text is cut short. -/
theorem item {p : TextParser α ε β} {a : α} {b : β}
    (hreads : ∀ after error, p ⟨a :: after, error⟩ = (some b, ⟨after, error⟩))
    (hnil : ∀ error, (p ⟨[], error⟩).1 = none) : Complete p [a] b where
  reads := hreads
  cut short hpre hne error := by
    rcases List.prefix_cons_iff.mp hpre with rfl | ⟨tail, rfl, htail⟩
    · exact hnil error
    · rw [List.prefix_nil.mp htail] at hne
      exact absurd rfl hne

theorem satisfy {test : α → Bool} {a : α} (message : ε) (h : test a = true) :
    Complete (satisfy test message) [a] a := by
  refine item (fun after error ↦ ?_) fun _ ↦ rfl
  simp [TextParser.satisfy, h]

/-- A parser that does one thing on every text that begins like `chunk`, and fails on the empty
one. -/
theorem of_cons {p q : TextParser α ε β} {a : α} {chunk : List α} {b : β}
    (hnil : ∀ error, (p ⟨[], error⟩).1 = none)
    (hcons : ∀ rest error, p ⟨a :: rest, error⟩ = q ⟨a :: rest, error⟩)
    (hq : Complete q (a :: chunk) b) : Complete p (a :: chunk) b where
  reads after error := by
    rw [List.cons_append, hcons, ← List.cons_append]
    exact hq.reads after error
  cut short hpre hne error := by
    rcases List.prefix_cons_iff.mp hpre with rfl | ⟨tail, rfl, -⟩
    · exact hnil error
    · rw [hcons]
      exact hq.cut _ hpre hne error

theorem look {message : ε} {f : α → TextParser α ε γ} {a : α} {chunk : List α} {g : γ}
    (hf : Complete (f a) (a :: chunk) g) : Complete (look message >>= f) (a :: chunk) g :=
  of_cons (q := f a) (fun _ ↦ rfl) (fun _ _ ↦ rfl) hf

/-- Skipping items that are not there. -/
theorem skipWhile {test : α → Bool} {f : Unit → TextParser α ε γ} {a : α} {chunk : List α} {g : γ}
    (h : test a = false) (hf : Complete (f ()) (a :: chunk) g) :
    Complete (skipWhile test >>= f) (a :: chunk) g := by
  refine of_cons (fun error ↦ hf.cut [] List.nil_prefix (by simp) error) (fun rest error ↦ ?_) hf
  have hread : (TextParser.skipWhile test : TextParser α ε Unit) ⟨a :: rest, error⟩ =
      (some (), ⟨a :: rest, error⟩) := by
    simp [TextParser.skipWhile, h]
  rw [bind_apply_some hread]

theorem takeIf {test : α → Bool} {f : List α → TextParser α ε γ} {a : α} {chunk : List α} {g : γ}
    (h : test a = false) (hf : Complete (f []) (a :: chunk) g) :
    Complete (takeIf test >>= f) (a :: chunk) g := by
  refine of_cons (fun error ↦ hf.cut [] List.nil_prefix (by simp) error) (fun rest error ↦ ?_) hf
  have hread : (TextParser.takeIf test : TextParser α ε (List α)) ⟨a :: rest, error⟩ =
      (some [], ⟨a :: rest, error⟩) := by
    simp [TextParser.takeIf, h]
  rw [bind_apply_some hread]

/-- Moving past an item that more follows. -/
theorem advance {f : Unit → TextParser α ε γ} (a : α) {chunk : List α} {g : γ} (hne : chunk ≠ [])
    (hf : Complete (f ()) chunk g) : Complete (advance >>= f) (a :: chunk) g where
  reads after error := hf.reads after error
  cut short hpre hshort error := by
    rcases List.prefix_cons_iff.mp hpre with rfl | ⟨tail, rfl, htail⟩
    · exact hf.cut [] List.nil_prefix hne.symm error
    · exact hf.cut tail htail (fun heq ↦ hshort (by rw [heq])) error

/-- A round that goes on. -/
theorem loop_cons {step : σ → TextParser α ε (σ ⊕ β)} (h : ∀ s, Takes 1 (step s)) {s s' : σ}
    {chunk chunk' : List α} {b : β} (hstep : Complete (step s) chunk (.inl s'))
    (hloop : Complete (loop step s') chunk' b) : Complete (loop step s) (chunk ++ chunk') b := by
  rw [loop_eq h]
  exact hstep.bind hloop

/-- The round that ends a loop. -/
theorem loop_end {step : σ → TextParser α ε (σ ⊕ β)} (h : ∀ s, Takes 1 (step s)) {s : σ}
    {chunk : List α} {b : β} (hstep : Complete (step s) chunk (.inr b)) :
    Complete (loop step s) chunk b := by
  rw [loop_eq h]
  exact hstep.bind_nil (Complete.pure b)

end Complete

/-! ### Texts that are read up to what follows them -/

/-- Wherever `chunk` stands in front of a text of this kind, it is read and yields `b`. -/
def Reads (p : TextParser α ε β) (chunk : List α) (b : β) (follow : List α → Prop) : Prop :=
  ∀ after error, follow after → p ⟨chunk ++ after, error⟩ = (some b, ⟨after, error⟩)

/-- The text is empty or begins with an item that fails the test. -/
def StopsAt (test : α → Bool) (after : List α) : Prop := ∀ a ∈ after.head?, test a = false

/-- Any text may follow. -/
def Anything (_ : List α) : Prop := True

theorem Complete.toReads {p : TextParser α ε β} {chunk : List α} {b : β} (h : Complete p chunk b)
    (follow : List α → Prop) : Reads p chunk b follow := fun after error _ ↦ h.reads after error

namespace Reads

variable {follow : List α → Prop}

theorem mono {p : TextParser α ε β} {chunk : List α} {b : β} {follow' : List α → Prop}
    (h : Reads p chunk b follow) (hfollow : ∀ after, follow' after → follow after) :
    Reads p chunk b follow' := fun after error hafter ↦ h after error (hfollow after hafter)

theorem pure (b : β) : Reads (pure b : TextParser α ε β) [] b follow := fun _ _ _ ↦ rfl

theorem bind {p : TextParser α ε β} {f : β → TextParser α ε γ} {chunk chunk' : List α} {b : β}
    {g : γ} {follow' : List α → Prop} (hp : Reads p chunk b follow)
    (hf : Reads (f b) chunk' g follow')
    (hfollow : ∀ after, follow' after → follow (chunk' ++ after)) :
    Reads (p >>= f) (chunk ++ chunk') g follow' := by
  intro after error hafter
  rw [List.append_assoc, bind_apply_some (hp _ error (hfollow after hafter))]
  exact hf after error hafter

/-- A parser followed by one that reads nothing. -/
theorem bind_nil {p : TextParser α ε β} {f : β → TextParser α ε γ} {chunk : List α} {b : β} {g : γ}
    (hp : Reads p chunk b follow) (hf : Reads (f b) [] g follow) :
    Reads (p >>= f) chunk g follow := by
  have hboth := hp.bind hf fun _ h ↦ h
  rwa [List.append_nil] at hboth

/-- A parser that reads nothing followed by another. -/
theorem nil_bind {p : TextParser α ε β} {f : β → TextParser α ε γ} {chunk : List α} {b : β} {g : γ}
    {follow' : List α → Prop} (hp : Reads p [] b follow) (hf : Reads (f b) chunk g follow')
    (hfollow : ∀ after, follow' after → follow (chunk ++ after)) :
    Reads (p >>= f) chunk g follow' := hp.bind hf hfollow

theorem satisfy {test : α → Bool} {a : α} (message : ε) (h : test a = true) :
    Reads (satisfy test message) [a] a follow := (Complete.satisfy message h).toReads follow

theorem look {message : ε} {f : α → TextParser α ε γ} {a : α} {chunk : List α} {g : γ}
    (hf : Reads (f a) (a :: chunk) g follow) :
    Reads (look message >>= f) (a :: chunk) g follow := fun after error h ↦ hf after error h

theorem advance (a : α) : Reads (advance : TextParser α ε Unit) [a] () Anything :=
  fun _ _ _ ↦ rfl

theorem takeWhile {test : α → Bool} {chunk : List α} (h : ∀ a ∈ chunk, test a = true) :
    Reads (takeWhile test : TextParser α ε (List α)) chunk chunk (StopsAt test) := by
  intro after error hafter
  have hstop : after.takeWhile test = [] ∧ after.dropWhile test = after := by
    cases after with
    | nil => exact ⟨rfl, rfl⟩
    | cons a after =>
      have hfails := hafter a rfl
      exact ⟨by simp [hfails], by simp [hfails]⟩
  simp only [TextParser.takeWhile, List.takeWhile_append_of_pos h, List.dropWhile_append_of_pos h,
    hstop, List.append_nil]

theorem skipWhile {test : α → Bool} {chunk : List α} (h : ∀ a ∈ chunk, test a = true) :
    Reads (skipWhile test : TextParser α ε Unit) chunk () (StopsAt test) := by
  intro after error hafter
  have hread := takeWhile (ε := ε) h after error hafter
  rw [TextParser.takeWhile, Prod.mk.injEq] at hread
  rw [TextParser.skipWhile, hread.2]

theorem takeIf_pos {test : α → Bool} {a : α} (h : test a = true) :
    Reads (takeIf test : TextParser α ε (List α)) [a] [a] follow := by
  intro after error _
  simp [TextParser.takeIf, h]

theorem takeIf_neg {test : α → Bool} :
    Reads (takeIf test : TextParser α ε (List α)) [] [] (StopsAt test) := by
  intro after error hafter
  cases after with
  | nil => rfl
  | cons a after =>
    have hfails := hafter a rfl
    simp [TextParser.takeIf, hfails]

/-- A round that goes on. -/
theorem loop_cons {step : σ → TextParser α ε (σ ⊕ β)} (h : ∀ s, Takes 1 (step s)) {s s' : σ}
    {chunk chunk' : List α} {b : β} {follow' : List α → Prop}
    (hstep : Reads (step s) chunk (.inl s') follow) (hloop : Reads (loop step s') chunk' b follow')
    (hfollow : ∀ after, follow' after → follow (chunk' ++ after)) :
    Reads (loop step s) (chunk ++ chunk') b follow' := by
  rw [loop_eq h]
  exact hstep.bind hloop hfollow

/-- The round that ends a loop. -/
theorem loop_end {step : σ → TextParser α ε (σ ⊕ β)} (h : ∀ s, Takes 1 (step s)) {s : σ}
    {chunk : List α} {b : β} (hstep : Reads (step s) chunk (.inr b) follow) :
    Reads (loop step s) chunk b follow := by
  rw [loop_eq h]
  exact hstep.bind_nil (Reads.pure b)

end Reads

end TextParser

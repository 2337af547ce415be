import StylyNetSync.Foundation.TextParse

/-!
# Parsers that build different things from the same text

A parser is an image of another if it runs like it and yields the images of its results under a
function. The combinators keep this, so a parser that is generic in what it builds can be run on
symbols first and interpreted afterwards.
-/

namespace TextParser

variable {α ε β β' γ γ' σ σ' : Type} {φ : β → β'} {ψ : γ → γ'}

/-- The second parser runs like the first and yields the images of its results. -/
def Image (φ : β → β') (p : TextParser α ε β) (q : TextParser α ε β') : Prop :=
  ∀ c, q c = Prod.map (Option.map φ) id (p c)

namespace Image

theorem pure (φ : β → β') (b : β) :
    Image φ (pure b : TextParser α ε β) (pure (φ b) : TextParser α ε β') := fun _ ↦ rfl

theorem reject (φ : β → β') (message : ε) :
    Image φ (reject message : TextParser α ε β) (reject message) := fun _ ↦ rfl

theorem bind {p : TextParser α ε β} {q : TextParser α ε β'} {f : β → TextParser α ε γ}
    {g : β' → TextParser α ε γ'} (hp : Image φ p q) (hf : ∀ b, Image ψ (f b) (g (φ b))) :
    Image ψ (p >>= f) (q >>= g) := by
  intro c
  have hq := hp c
  show TextParser.bind q g c = Prod.map (Option.map ψ) id (TextParser.bind p f c)
  rcases hc : p c with ⟨- | b, c'⟩ <;> rw [hc] at hq
  · rw [TextParser.bind, TextParser.bind, hq, hc]
    rfl
  · rw [TextParser.bind, TextParser.bind, hq, hc]
    exact hf b c'

/-- Two parsers that begin alike. -/
theorem bind_left (p : TextParser α ε β) {f : β → TextParser α ε γ} {g : β → TextParser α ε γ'}
    (hf : ∀ b, Image ψ (f b) (g b)) : Image ψ (p >>= f) (p >>= g) := by
  have hp : Image id p p := fun c ↦ by rw [Option.map_id, Prod.map_id, id]
  exact hp.bind hf

theorem ite {test : Prop} [Decidable test] {p p' : TextParser α ε β} {q q' : TextParser α ε β'}
    (hp : Image φ p q) (hp' : Image φ p' q') :
    Image φ (if test then p else p') (if test then q else q') := by
  split
  · exact hp
  · exact hp'

/-- A loop whose rounds are images is an image. -/
theorem loop {χ : σ → σ'} {step : σ → TextParser α ε (σ ⊕ β)}
    {step' : σ' → TextParser α ε (σ' ⊕ β')}
    (h : ∀ s, Image (Sum.map χ φ) (step s) (step' (χ s))) (s : σ) :
    Image φ (loop step s) (loop step' (χ s)) := by
  have hrounds : ∀ n s, Image φ (rounds step n s) (rounds step' n (χ s)) := by
    intro n
    induction n with
    | zero => exact fun s c ↦ rfl
    | succ n ih =>
      refine fun s ↦ (h s).bind fun r ↦ ?_
      cases r with
      | inl s' => exact ih s'
      | inr b => exact Image.pure φ b
  exact fun c ↦ hrounds _ s c

end Image

end TextParser

import ClassUsage.Proofs.ReadingSimulation

set_option autoImplicit false

/-!
How deep expressions can be nested. A shape asks only for the uses of texts shorter than the one it is
read off, so an expression has all its uses as soon as the limit on depth reaches its length.
-/
namespace ClassUsage

/-- A reading within a limit corresponds to one without if it has the same answer. -/
def Simulation.answering : Simulation (Except TooDeep) Id where
  Relates limited unlimited := limited = .ok unlimited.run
  relates_pure _ := rfl
  relates_bind := by
    intro α β first second next other same later
    rw [same]
    exact later second.run

/-- The uses of an expression, however deep it is nested. -/
def expressionUses (text : Text) : Id (List ClassUse) :=
  match usesWithin (text.length + 1) text with
  | .ok uses => uses
  | .error _ => []

/-- An expression cannot be nested more deeply than it is long. -/
theorem usesWithin_eq_ok {levels : Nat} {text : Text} (enough : text.length < levels) :
    usesWithin levels text = .ok (expressionUses text).run := by
  generalize size : text.length = length at enough
  induction length using Nat.strongRecOn generalizing text levels with
  | ind length ih =>
    subst size
    have shorter := Text.length_trim_le text
    have inside : ∀ {below : Nat}, text.length ≤ below → ∀ inner : Text,
        inner.length < text.trim.length → usesWithin below inner = .ok (expressionUses inner).run := by
      intro below fits inner short
      exact ih inner.length (by omega) rfl (by omega)
    have read : ∀ {below : Nat}, text.length ≤ below →
        usesWithin (below + 1) text = .ok (Shape.usesOf expressionUses text.trim).run := by
      intro below fits
      exact Simulation.answering.relates_usesOf (inside fits)
    obtain ⟨below, rfl⟩ : ∃ below, levels = below + 1 :=
      Nat.exists_eq_succ_of_ne_zero (Nat.ne_of_gt (Nat.zero_lt_of_lt enough))
    rw [expressionUses, read (Nat.le_refl _), read (Nat.le_of_lt_succ enough)]
    rfl

/-- The uses of an expression are read off its shape and the uses of the expressions inside it. -/
theorem expressionUses_eq (text : Text) :
    expressionUses text = Shape.usesOf expressionUses text.trim := by
  have shorter := Text.length_trim_le text
  have read : usesWithin (text.length + 1) text =
      .ok (Shape.usesOf expressionUses text.trim).run := by
    apply Simulation.answering.relates_usesOf
    intro inner short
    exact usesWithin_eq_ok (by omega)
  rw [expressionUses, read]
  rfl

theorem expressionUses_trim (text : Text) : expressionUses text.trim = expressionUses text := by
  rw [expressionUses_eq, Text.trim_trim, ← expressionUses_eq]

/-- The uses of an expression of the given form, however deep it is nested. -/
def formUses (form : ExpressionForm) (text : Text) : Id (List ClassUse) :=
  form.usesOf expressionUses expressionUses text

/-- Where the limit reaches the length of an expression, no part of it is nested too deeply. -/
theorem usesOf_eq_ok (form : ExpressionForm) {limit : Int} {text : Text}
    (enough : (text.length : Int) ≤ limit) :
    form.usesOf (usesWithin (levelsLeft limit 0)) (usesWithin (levelsLeft limit 1)) text =
      .ok (formUses form text).run := by
  apply Simulation.answering.relates_form
  · intro inner short
    apply usesWithin_eq_ok
    simp only [levelsLeft]
    omega
  · intro inner short
    apply usesWithin_eq_ok
    simp only [levelsLeft]
    omega

theorem parseForm_eq_matchOf (form : ExpressionForm) {limit : Int} {text : Text}
    (enough : (text.length : Int) ≤ limit) :
    parseForm form limit text = matchOf (.ok (formUses form text).run) := by
  rw [parseForm, usesOf_eq_ok form enough]

theorem parseForm_eq {limit : Int} {text : Text} (enough : (text.length : Int) ≤ limit) :
    parseForm .any limit text = matchOf (.ok (expressionUses text).run) := by
  rw [parseForm_eq_matchOf .any enough, formUses, ExpressionForm.usesOf, expressionUses_trim]

end ClassUsage

import ClassUsage.Proofs.ExpressionProvenance

set_option autoImplicit false

/-!
Reading the same expressions in two ways. A shape asks only for the uses of texts shorter than the one it
is read off, and it puts the answers together alike whatever comes with them; so where the answers
correspond, the results do.
-/
namespace ClassUsage

theorem Text.InOrder.length_le {pieces : List Text} {text : Text} (placed : Text.InOrder pieces text) :
    ∀ piece ∈ pieces, piece.length ≤ text.length := by
  induction pieces generalizing text with
  | nil => exact fun _ member => absurd member List.not_mem_nil
  | cons first pieces ih =>
    obtain ⟨before, after, rfl, others⟩ := placed
    intro piece member
    simp only [List.length_append]
    rcases List.mem_cons.mp member with rfl | later
    · omega
    · have short := ih others piece later
      omega

theorem length_stripParens_le (text : Text) : (stripParens text).length ≤ text.length :=
  (stripParens_inOrder text).length_le _ List.mem_cons_self

namespace Shape

/-- The expressions that a shape asks for are shorter than the bound. -/
def AsksBelow (bound : Nat) : Shape → Prop
  | .literal _ => True
  | .guarded _ operand => operand.length < bound
  | .branches _ yes no => yes.length < bound ∧ no.length < bound
  | .template parts => ∀ piece ∈ parts.pieces, piece.content.length < bound

theorem length_of_sides {token text condition operand : Text} {looser : List Text}
    (tokenFilled : token ≠ []) (found : sides token looser text = some (condition, operand)) :
    operand.length < text.length := by
  obtain ⟨before, behind, rfl, -, equal⟩ := exists_of_sides found
  cases equal
  have trimmed := Text.length_trim_le behind
  have tokenLong := List.length_pos_iff.mpr tokenFilled
  simp only [List.length_append]
  omega

theorem asksBelow_of_conditional? {text : Text} {shape : Shape}
    (found : conditional? text = some shape) : shape.AsksBelow text.length := by
  obtain ⟨before, yes, no, rfl, -, -, -, rfl⟩ := exists_of_conditional? found
  simp only [AsksBelow, List.length_append, List.length_cons]
  constructor
  · omega
  · omega

theorem asksBelow_of_template? {text : Text} {shape : Shape}
    (found : template? text = some shape) : shape.AsksBelow text.length := by
  obtain ⟨parts, read, rfl⟩ := Option.map_eq_some_iff.mp found
  unfold Template.read at read
  split at read
  · rename_i body
    split at read
    · rename_i last
      cases read
      obtain ⟨inner, rfl⟩ := List.getLast?_eq_some_iff.mp last
      rw [List.dropLast_concat]
      intro piece member
      obtain ⟨rest, decomposed⟩ := Template.ofBody_written inner
      have placed := (Piece.contents_inOrder (Template.ofBody inner).pieces).append_right rest
      rw [← decomposed] at placed
      have short := placed.length_le _ (List.mem_map_of_mem member)
      simp only [List.length_cons, List.length_append]
      omega
    · cases read
  · cases read

/-- Every reading of a text asks only for shorter expressions. -/
theorem asksBelow_of_mem_readings {reading : Text → Option Shape} (listed : reading ∈ readings)
    {text : Text} {shape : Shape} (found : reading text = some shape) :
    shape.AsksBelow text.length := by
  simp only [readings, List.mem_cons, List.not_mem_nil, or_false] at listed
  rcases listed with rfl | rfl | rfl | rfl | rfl | rfl | rfl
  · cases found
    trivial
  · obtain ⟨classes, read, rfl⟩ := Option.map_eq_some_iff.mp found
    trivial
  · obtain ⟨pair, read, rfl⟩ := Option.map_eq_some_iff.mp found
    exact length_of_sides (by decide) read
  · obtain ⟨pair, read, rfl⟩ := Option.map_eq_some_iff.mp found
    exact length_of_sides (by decide) read
  · obtain ⟨pair, read, rfl⟩ := Option.map_eq_some_iff.mp found
    exact length_of_sides (by decide) read
  · exact asksBelow_of_conditional? found
  · exact asksBelow_of_template? found

end Shape

/-- A correspondence between computations of two kinds: equal results correspond, and so do computations
that go on from corresponding ones in corresponding ways. -/
structure Simulation (m n : Type → Type) [Monad m] [Monad n] where
  Relates : {α : Type} → m α → n α → Prop
  relates_pure : ∀ {α : Type} (value : α), Relates (pure value) (pure value)
  relates_bind : ∀ {α β : Type} {first : m α} {second : n α} {next : α → m β} {other : α → n β},
    Relates first second → (∀ value, Relates (next value) (other value)) →
      Relates (first >>= next) (second >>= other)

namespace Simulation

variable {m n : Type → Type} [Monad m] [Monad n] (simulation : Simulation m n)
  {uses : Text → m (List ClassUse)} {others : Text → n (List ClassUse)}

section

variable {bound : Nat}
  (answers : ∀ inner : Text, inner.length < bound → simulation.Relates (uses inner) (others inner))

include answers

theorem relates_resolvePiece {piece : Piece} (short : piece.content.length < bound) :
    simulation.Relates (Shape.resolvePiece uses piece) (Shape.resolvePiece others piece) := by
  cases piece with
  | static text => exact simulation.relates_pure _
  | interpolation text => exact answers text short

variable [LawfulMonad m] [LawfulMonad n]

theorem relates_mapM {pieces : List Piece}
    (short : ∀ piece ∈ pieces, piece.content.length < bound) :
    simulation.Relates (pieces.mapM (Shape.resolvePiece uses))
      (pieces.mapM (Shape.resolvePiece others)) := by
  induction pieces with
  | nil =>
    rw [List.mapM_nil, List.mapM_nil]
    exact simulation.relates_pure _
  | cons piece pieces ih =>
    have later := ih fun other member => short other (List.mem_cons_of_mem piece member)
    rw [List.mapM_cons, List.mapM_cons]
    apply simulation.relates_bind
    · exact simulation.relates_resolvePiece answers (short piece List.mem_cons_self)
    · intro found
      apply simulation.relates_bind later
      intro behind
      exact simulation.relates_pure _

theorem relates_resolve {shape : Shape} (asks : shape.AsksBelow bound) :
    simulation.Relates (shape.resolve uses) (shape.resolve others) := by
  cases shape with
  | literal found => exact simulation.relates_pure _
  | guarded condition operand =>
    have short : (stripParens operand).length < bound :=
      Nat.lt_of_le_of_lt (length_stripParens_le operand) asks
    simp only [Shape.resolve]
    split
    · exact simulation.relates_pure _
    · apply simulation.relates_bind (answers _ short)
      intro found
      exact simulation.relates_pure _
  | branches condition yes no =>
    apply simulation.relates_bind (answers yes asks.1)
    intro whenTrue
    apply simulation.relates_bind (answers no asks.2)
    intro whenFalse
    exact simulation.relates_pure _
  | template parts =>
    apply simulation.relates_bind (simulation.relates_mapM answers asks)
    intro found
    exact simulation.relates_pure _

end

section

variable {text : Text} (answers : ∀ inner : Text, inner.length < text.length →
  simulation.Relates (uses inner) (others inner))

include answers

variable [LawfulMonad m] [LawfulMonad n]

theorem relates_firstUses {tried : List (Text → Option Shape)}
    (listed : ∀ reading ∈ tried, reading ∈ Shape.readings) :
    simulation.Relates (Shape.firstUses uses text tried) (Shape.firstUses others text tried) := by
  induction tried with
  | nil => exact simulation.relates_pure _
  | cons reading behind ih =>
    have later := ih fun other member => listed other (List.mem_cons_of_mem reading member)
    rw [Shape.firstUses, Shape.firstUses]
    cases found : reading text with
    | none => exact later
    | some shape =>
      have asks := Shape.asksBelow_of_mem_readings (listed reading List.mem_cons_self) found
      apply simulation.relates_bind (simulation.relates_resolve answers asks)
      intro inner
      split
      · exact later
      · exact simulation.relates_pure _

/-- Where the answers about all shorter expressions correspond, the uses of an expression do. -/
theorem relates_usesOf :
    simulation.Relates (Shape.usesOf uses text) (Shape.usesOf others text) := by
  unfold Shape.usesOf
  split
  · exact simulation.relates_pure _
  · exact simulation.relates_firstUses answers fun _ member => member

end

/-- An expression of any form asks for itself at the outermost level and for shorter expressions one
level inside. -/
theorem relates_form [LawfulMonad m] [LawfulMonad n] (form : ExpressionForm)
    {inside : Text → m (List ClassUse)} {othersInside : Text → n (List ClassUse)} {text : Text}
    (answers : ∀ inner : Text, inner.length ≤ text.length →
      simulation.Relates (uses inner) (others inner))
    (answersInside : ∀ inner : Text, inner.length < text.length →
      simulation.Relates (inside inner) (othersInside inner)) :
    simulation.Relates (form.usesOf uses inside text) (form.usesOf others othersInside text) := by
  have shorter := Text.length_trim_le text
  cases form with
  | any => exact answers text.trim shorter
  | object => exact simulation.relates_pure _
  | template =>
    simp only [ExpressionForm.usesOf]
    split
    · exact simulation.relates_pure _
    · rename_i shape found
      have asks := Shape.asksBelow_of_template? found
      have below : ∀ inner : Text, inner.length < text.trim.length →
          simulation.Relates (inside inner) (othersInside inner) := by
        intro inner short
        exact answersInside inner (Nat.lt_of_lt_of_le short shorter)
      exact simulation.relates_resolve below asks

end Simulation
end ClassUsage

import ClassUsage.Expression.Parser
import ClassUsage.Proofs.ClassExpression
import ClassUsage.Proofs.ExpressionProvenance
import Mathlib.Data.List.Forall2

set_option autoImplicit false

/-!
The uses of a class expression have its literals in order, each under a condition that holds exactly
when the literal is the outcome of the expression.
-/
namespace ClassUsage

/-- The condition of a use is the text of a formula that is true exactly when the test holds. -/
def Means : Option Text → (Environment → Bool) → Prop
  | none, holds => ∀ environment, holds environment = true
  | some text, holds => ∃ formula : Formula, formula.text = text ∧
      ∀ environment, (formula.value environment).isTruthy = holds environment

structure StandsFor (use : ClassUse) (alternative : Alternative) : Prop where
  classes : use.classes = alternative.quoted.body.trim
  condition : Means use.condition alternative.applies

theorem means_conjoin {guard : Formula} {test holds : Environment → Bool}
    (guards : ∀ environment, (guard.value environment).isTruthy = test environment)
    {condition : Option Text} (means : Means condition holds) :
    Means (some (Condition.conjoin guard.text condition))
      fun environment => test environment && holds environment := by
  cases condition with
  | none =>
    refine ⟨guard, rfl, ?_⟩
    intro environment
    have always : holds environment = true := means environment
    simp only [guards, always, Bool.and_true]
  | some text =>
    obtain ⟨formula, rfl, value⟩ := means
    obtain ⟨both, bothText, bothValue⟩ := guard.exists_conjoin formula
    refine ⟨both, bothText, ?_⟩
    intro environment
    rw [bothValue, guards, value]

theorem standsFor_guardAll {guard : Formula} {test : Environment → Bool}
    (guards : ∀ environment, (guard.value environment).isTruthy = test environment)
    {uses : List ClassUse} {alternatives : List Alternative}
    (stand : List.Forall₂ StandsFor uses alternatives) :
    List.Forall₂ StandsFor (guardAll guard.text uses) (alternatives.map (·.within test)) := by
  induction stand with
  | nil => exact List.Forall₂.nil
  | cons first others ih =>
    exact List.Forall₂.cons ⟨first.classes, means_conjoin guards first.condition⟩ ih

theorem ne_nil_of_standsFor {uses : List ClassUse} {expression : ClassExpression}
    (stand : List.Forall₂ StandsFor uses expression.alternatives) : uses ≠ [] := by
  rintro rfl
  exact expression.alternatives_ne_nil (List.forall₂_nil_left_iff.mp stand)

theorem map_classes_of_standsFor {uses : List ClassUse} {alternatives : List Alternative}
    (stand : List.Forall₂ StandsFor uses alternatives) :
    uses.map (·.classes) = alternatives.map fun alternative => alternative.quoted.body.trim := by
  induction stand with
  | nil => rfl
  | cons first others ih => rw [List.map_cons, List.map_cons, first.classes, ih]

theorem exists_alternative {uses : List ClassUse} {alternatives : List Alternative}
    (stand : List.Forall₂ StandsFor uses alternatives) {index : Nat} {use : ClassUse}
    (listed : uses[index]? = some use) :
    ∃ alternative, alternatives[index]? = some alternative ∧ StandsFor use alternative := by
  induction stand generalizing index with
  | nil => cases listed
  | cons first others ih =>
    cases index with
    | zero =>
      cases listed
      exact ⟨_, rfl, first⟩
    | succ index => exact ih listed

theorem stripParens_unless {text : Text} (clean : text.IsClean) (fits : Bool) :
    stripParens (bracketedUnless fits text) = stripParens text := by
  cases fits with
  | true => rfl
  | false => exact stripParens_bracketed clean.isSelfContained

/-- Only a literal without brackets is read as a literal. -/
theorem eq_literal_of_literalBody {operand : ClassExpression} {fits : Bool} {classes : Text}
    (read : literalBody (bracketedUnless fits operand.text) = some classes) :
    ∃ quoted, operand = .literal quoted ∧ classes = quoted.body.trim := by
  have notOperand : ¬ (bracketedUnless fits operand.text).BeginsOperand := by
    intro begins
    rw [literalBody_eq_none (operand.phrase.unless fits).tidy.trimmed begins.startsUnquoted] at read
    cases read
  cases operand with
  | literal quoted =>
    cases fits with
    | true =>
      have plain : quoted.body.IsQuotable '\x27' := quoted.plain.isQuotable rfl
      have same := literalBody_quoted rfl (by decide) plain quoted.filled
      exact ⟨quoted, rfl, Option.some.inj (read.symm.trans same)⟩
    | false => exact absurd ⟨'(', _, rfl, by decide, by decide⟩ notOperand
  | guarded op condition operand enclosed =>
    have begins : (ClassExpression.guarded op condition operand enclosed).text.BeginsOperand :=
      ClassExpression.beginsOperand (by simp)
    exact absurd (Formula.beginsOperand_unless begins fits) notOperand
  | choice condition yes no =>
    have begins : (ClassExpression.choice condition yes no).text.BeginsOperand :=
      ClassExpression.beginsOperand (by simp)
    exact absurd (Formula.beginsOperand_unless begins fits) notOperand

/-- The uses of the right side of an operator, under the condition in front of it. -/
theorem resolve_guarded {uses : Text → Except TooDeep (List ClassUse)} {operand : ClassExpression}
    {found : List ClassUse} (inner : uses operand.text = .ok found)
    (stand : List.Forall₂ StandsFor found operand.alternatives) (condition : Text) (fits : Bool) :
    ∃ found, Shape.resolve uses (.guarded condition (bracketedUnless fits operand.text)) =
        .ok (guardAll condition found) ∧
      List.Forall₂ StandsFor found operand.alternatives := by
  have stripped : stripParens (bracketedUnless fits operand.text) = operand.text := by
    rw [stripParens_unless operand.phrase.clean, operand.stripParens_text]
  cases body : literalBody (bracketedUnless fits operand.text) with
  | none =>
    refine ⟨found, ?_, stand⟩
    simp only [Shape.resolve, body, stripped, inner]
    rfl
  | some classes =>
    obtain ⟨quoted, rfl, rfl⟩ := eq_literal_of_literalBody body
    refine ⟨[⟨quoted.body.trim, none⟩], ?_, ?_⟩
    · simp only [Shape.resolve, body]
      rfl
    · exact List.Forall₂.cons ⟨rfl, fun _ => rfl⟩ List.Forall₂.nil

/-- The blanks around a branch do not matter. -/
theorem usesWithin_branches (levels : Nat) (yes no : Text) :
    usesWithin levels (' ' :: yes ++ [' ']) = usesWithin levels yes ∧
      usesWithin levels (' ' :: no) = usesWithin levels no := by
  constructor
  · rw [← usesWithin_trim, trim_blank_right, trim_blank_left, usesWithin_trim]
  · rw [← usesWithin_trim, trim_blank_left, usesWithin_trim]

theorem exists_usesOf_guarded {levels : Nat} {op : Operator} {condition : Formula}
    {operand : ClassExpression} (enclosed : Bool)
    (leading : (op.fitted condition.binding).shows op = false) {found : List ClassUse}
    (read : usesWithin levels operand.text = .ok found)
    (stand : List.Forall₂ StandsFor found operand.alternatives) :
    ∃ uses, Shape.usesOf (usesWithin levels)
        (ClassExpression.guarded op condition operand enclosed).text = .ok uses ∧
      List.Forall₂ StandsFor uses
        (ClassExpression.guarded op condition operand enclosed).alternatives := by
  obtain ⟨guard, guardText, guardValue⟩ := condition.stripped.exists_render op
  obtain ⟨inner, resolved, means⟩ := resolve_guarded read stand guard.text
    (!enclosed && op.admits operand.binding)
  have stripped : stripParens (bracketedUnless (op.admits condition.binding) condition.text) =
      condition.stripped.text := by
    rw [stripParens_unless condition.phrase.clean, condition.stripParens_text]
  have guards : ∀ environment, (guard.value environment).isTruthy =
      op.goesOn (condition.value environment) := by
    intro environment
    rw [guardValue, condition.value_stripped]
  have whole : List.Forall₂ StandsFor (guardAll guard.text inner)
      (ClassExpression.guarded op condition operand enclosed).alternatives :=
    standsFor_guardAll guards means
  refine ⟨guardAll guard.text inner, ?_, whole⟩
  rw [ClassExpression.text, usesOf_joined (condition.phrase.unless _) (operand.phrase.unless _)
    (op.admits_fitted _) (ClassExpression.admits_unless op operand.binding enclosed) leading
    (Formula.beginsOperand_unless condition.beginsOperand _), stripped, ← guardText]
  exact resolved

theorem exists_usesOf_choice {levels : Nat} {condition : Formula} {yes no : ClassExpression}
    {whenTrue whenFalse : List ClassUse} (readTrue : usesWithin levels yes.text = .ok whenTrue)
    (standTrue : List.Forall₂ StandsFor whenTrue yes.alternatives)
    (readFalse : usesWithin levels no.text = .ok whenFalse)
    (standFalse : List.Forall₂ StandsFor whenFalse no.alternatives) :
    ∃ uses, Shape.usesOf (usesWithin levels) (ClassExpression.choice condition yes no).text =
        .ok uses ∧
      List.Forall₂ StandsFor uses (ClassExpression.choice condition yes no).alternatives := by
  obtain ⟨negated, negatedText, negatedValue⟩ := condition.stripped.exists_negate
  obtain ⟨branchTrue, branchFalse⟩ := usesWithin_branches levels yes.text no.text
  have guards : ∀ environment, (condition.stripped.value environment).isTruthy =
      (condition.value environment).isTruthy := by
    intro environment
    rw [condition.value_stripped]
  have negates : ∀ environment, (negated.value environment).isTruthy =
      !(condition.value environment).isTruthy := by
    intro environment
    rw [negatedValue, condition.value_stripped]
  have whole : List.Forall₂ StandsFor
      (guardAll condition.stripped.text whenTrue ++ guardAll negated.text whenFalse)
      (ClassExpression.choice condition yes no).alternatives :=
    List.rel_append (standsFor_guardAll guards standTrue) (standsFor_guardAll negates standFalse)
  have resolved : Shape.resolve (usesWithin levels)
      (.branches condition.stripped.text (' ' :: yes.text ++ [' ']) (' ' :: no.text)) =
        .ok (guardAll condition.stripped.text whenTrue ++ guardAll negated.text whenFalse) := by
    simp only [Shape.resolve, branchTrue, branchFalse, readTrue, readFalse, negatedText]
    rfl
  have trimmed := (ClassExpression.choice condition yes no).phrase.tidy.trimmed
  refine ⟨_, ?_, whole⟩
  rw [ClassExpression.text, chosen_eq_branching] at trimmed ⊢
  rw [usesOf_branching condition.phrase condition.binding_ne_conditional yes.phrase.isBranch _
    condition.beginsOperand _ trimmed, condition.stripParens_text]
  · exact resolved
  · rw [condition.stripParens_text]
    exact condition.stripped.phrase.tidy.filled

/-- With a level for each operator and one more, every literal has its use. -/
theorem exists_usesWithin (expression : ClassExpression) {levels : Nat}
    (enough : expression.operators < levels) :
    ∃ uses, usesWithin levels expression.text = .ok uses ∧
      List.Forall₂ StandsFor uses expression.alternatives := by
  generalize size : expression.operators = operators
  induction operators using Nat.strongRecOn generalizing expression levels with
  | ind operators ih =>
    subst size
    obtain ⟨below, rfl⟩ : ∃ below, levels = below + 1 :=
      Nat.exists_eq_succ_of_ne_zero (Nat.ne_of_gt (Nat.zero_lt_of_lt enough))
    rw [usesWithin, expression.phrase.tidy.trimmed]
    cases expression with
    | literal quoted =>
      refine ⟨_, usesOf_literal (quoted.plain.isQuotable rfl) quoted.filled _, ?_⟩
      exact List.Forall₂.cons ⟨rfl, fun _ => rfl⟩ List.Forall₂.nil
    | guarded op condition operand enclosed =>
      obtain ⟨first, rest, inner, leading, text_eq, operators_eq, alternatives_eq⟩ :=
        ClassExpression.exists_leading op condition operand enclosed
      rw [← operators_eq] at enough ih
      rw [← text_eq, ← alternatives_eq]
      rw [ClassExpression.operators] at enough ih
      have restEnough : rest.operators < below := by omega
      obtain ⟨found, read, stand⟩ := ih rest.operators (by omega) rest restEnough rfl
      exact exists_usesOf_guarded inner leading read stand
    | choice condition yes no =>
      rw [ClassExpression.operators] at enough ih
      have yesEnough : yes.operators < below := by omega
      have noEnough : no.operators < below := by omega
      obtain ⟨whenTrue, readTrue, standTrue⟩ := ih yes.operators (by omega) yes yesEnough rfl
      obtain ⟨whenFalse, readFalse, standFalse⟩ := ih no.operators (by omega) no noEnough rfl
      exact exists_usesOf_choice readTrue standTrue readFalse standFalse

/-- The condition, read as a formula in any way it can be, is true exactly when the claim holds. A use
without a condition always applies. -/
def ReadsAs (environment : Environment) (claim : Prop) : Option Text → Prop
  | none => claim
  | some text => (∃ formula : Formula, formula.text = text) ∧ ∀ formula : Formula,
      formula.text = text → ((formula.value environment).isTruthy = true ↔ claim)

theorem Means.readsAs {condition : Option Text} {holds : Environment → Bool}
    (means : Means condition holds) (environment : Environment) :
    ReadsAs environment (holds environment = true) condition := by
  cases condition with
  | none => exact means environment
  | some text =>
    obtain ⟨formula, rfl, value⟩ := means
    refine ⟨⟨formula, rfl⟩, ?_⟩
    intro other same
    rw [Formula.value_eq_of_text_eq same, value]

/-- The uses of a class expression are its literals in order, each with a condition that is true
exactly when the literal is the outcome. -/
theorem parseExpression_faithful (expression : ClassExpression)
    (small : expression.operators ≤ 200) :
    ∃ uses, parseExpression expression.text = some uses ∧
      uses.map (·.classes) = expression.literals.map (fun quoted => quoted.body.trim) ∧
      ∀ (environment : Environment) (index : Nat) (use : ClassUse), uses[index]? = some use →
        ReadsAs environment (expression.outcome environment = .literal index) use.condition := by
  have enough : expression.operators < levelsLeft defaultDepthLimit 0 := Nat.lt_succ_of_le small
  obtain ⟨uses, read, stand⟩ := exists_usesWithin expression enough
  refine ⟨uses, ?_, ?_, ?_⟩
  · have filled := ne_nil_of_standsFor stand
    unfold parseExpression parseForm
    rw [ExpressionForm.usesOf, expression.phrase.tidy.trimmed, read]
    cases uses with
    | nil => exact absurd rfl filled
    | cons use others => rfl
  · rw [map_classes_of_standsFor stand, ← expression.map_quoted_alternatives, List.map_map]
    rfl
  · intro environment index use listed
    obtain ⟨alternative, found, stands⟩ := exists_alternative stand listed
    have reads := stands.condition.readsAs environment
    rw [ClassExpression.applies_iff found environment] at reads
    exact reads

def identifierA : Identifier := ⟨"a".toList, by decide, List.all_eq_true.mp (by decide), by decide⟩

def identifierB : Identifier := ⟨"b".toList, by decide, List.all_eq_true.mp (by decide), by decide⟩

def literalXY : ClassLiteral := ⟨" x y".toList, by decide, Text.forall_mem_of_all (by decide)⟩

def fallbackExpression : ClassExpression :=
  .guarded .nullish (.name identifierA)
    (.guarded .or (.not (.name identifierB)) (.literal literalXY) false) false

theorem parseExpression_faithful_fallback :
    fallbackExpression.text = "a ?? (!b || \x27 x y\x27)".toList ∧ fallbackExpression.operators ≤ 200 ∧
    ∃ uses, parseExpression fallbackExpression.text = some uses ∧
      uses.map (·.classes) =
        fallbackExpression.literals.map (fun quoted => quoted.body.trim) ∧
      ∀ (environment : Environment) (index : Nat) (use : ClassUse), uses[index]? = some use →
        ReadsAs environment (fallbackExpression.outcome environment = .literal index)
          use.condition :=
  ⟨by decide, by decide, parseExpression_faithful fallbackExpression (by decide)⟩

end ClassUsage

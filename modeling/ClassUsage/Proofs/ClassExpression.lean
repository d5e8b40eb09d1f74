import ClassUsage.Proofs.FormulaReading

set_option autoImplicit false

/-!
Class expressions that choose between string literals by conditions: their text, and the literal that
is their outcome once the identifiers have values.
-/
namespace ClassUsage

structure ClassLiteral where
  body : Text
  filled : body.trim ≠ []
  plain : body.IsLiteralBody

/-- An expression whose outcome is one of its literals, or the value of a condition. -/
inductive ClassExpression where
  | literal (quoted : ClassLiteral)
  /-- A condition, an operator and what counts if the operator goes on. The operand may stand in
  brackets that it can do without. -/
  | guarded (op : Operator) (condition : Formula) (operand : ClassExpression) (enclosed : Bool)
  | choice (condition : Formula) (yes no : ClassExpression)

inductive Evaluation where
  | value (result : Value)
  /-- The literal at an index among the literals of the expression. -/
  | literal (index : Nat)
deriving DecidableEq, Repr

/-- The outcome of a part of an expression that further literals stand before. -/
def Evaluation.behind (literals : Nat) : Evaluation → Evaluation
  | value result => value result
  | literal index => literal (literals + index)

def Formula.operators : Formula → Nat
  | name _ => 0
  | not inner => inner.operators
  | isNull inner => inner.operators
  | binary _ left right => left.operators + right.operators + 1
  | group inner => inner.operators

/-- A literal and the values of the identifiers under which it is the outcome. -/
structure Alternative where
  quoted : ClassLiteral
  applies : Environment → Bool

def Alternative.within (guard : Environment → Bool) (alternative : Alternative) : Alternative :=
  ⟨alternative.quoted, fun environment => guard environment && alternative.applies environment⟩

namespace ClassExpression

def binding : ClassExpression → Binding
  | literal _ => .tight
  | guarded op _ _ _ => .operator op
  | choice _ _ _ => .conditional

def text : ClassExpression → Text
  | literal quoted => '\x27' :: quoted.body ++ ['\x27']
  | guarded op condition operand enclosed =>
    op.joined (bracketedUnless (op.admits condition.binding) condition.text)
      (bracketedUnless (!enclosed && op.admits operand.binding) operand.text)
  | choice condition yes no => chosen condition.text yes.text no.text

def literals : ClassExpression → List ClassLiteral
  | literal quoted => [quoted]
  | guarded _ _ operand _ => operand.literals
  | choice _ yes no => yes.literals ++ no.literals

def operators : ClassExpression → Nat
  | literal _ => 0
  | guarded _ condition operand _ => condition.operators + operand.operators + 1
  | choice condition yes no => condition.operators + yes.operators + no.operators + 1

def outcome (environment : Environment) : ClassExpression → Evaluation
  | literal _ => .literal 0
  | guarded op condition operand _ =>
    if op.goesOn (condition.value environment) then operand.outcome environment
    else .value (condition.value environment)
  | choice condition yes no =>
    if (condition.value environment).isTruthy then yes.outcome environment
    else (no.outcome environment).behind yes.literals.length

def alternatives : ClassExpression → List Alternative
  | literal quoted => [⟨quoted, fun _ => true⟩]
  | guarded op condition operand _ =>
    operand.alternatives.map (·.within fun environment => op.goesOn (condition.value environment))
  | choice condition yes no =>
    yes.alternatives.map (·.within fun environment => (condition.value environment).isTruthy) ++
      no.alternatives.map (·.within fun environment => !(condition.value environment).isTruthy)

theorem map_quoted_within (guard : Environment → Bool) (alternatives : List Alternative) :
    (alternatives.map (·.within guard)).map (·.quoted) = alternatives.map (·.quoted) := by
  rw [List.map_map]
  rfl

theorem map_quoted_alternatives (expression : ClassExpression) :
    expression.alternatives.map (·.quoted) = expression.literals := by
  induction expression with
  | literal quoted => rfl
  | guarded op condition operand enclosed ih => rw [alternatives, map_quoted_within, ih, literals]
  | choice condition yes no first second =>
    rw [alternatives, List.map_append, map_quoted_within, map_quoted_within, first, second, literals]

theorem alternatives_ne_nil (expression : ClassExpression) : expression.alternatives ≠ [] := by
  induction expression with
  | literal quoted => exact List.cons_ne_nil _ _
  | guarded op condition operand enclosed ih => simpa [alternatives] using ih
  | choice condition yes no first second => simp [alternatives, first]

theorem behind_eq_literal_iff {outcome : Evaluation} {literals index : Nat} :
    outcome.behind literals = .literal index ↔ literals ≤ index ∧ outcome = .literal (index - literals) := by
  cases outcome with
  | value result => simp [Evaluation.behind]
  | literal inner =>
    simp only [Evaluation.behind, Evaluation.literal.injEq]
    omega

theorem index_lt {expression : ClassExpression} {environment : Environment} {index : Nat}
    (result : expression.outcome environment = .literal index) :
    index < expression.literals.length := by
  induction expression generalizing index with
  | literal quoted =>
    cases result
    exact Nat.one_pos
  | guarded op condition operand enclosed ih =>
    rw [outcome] at result
    split at result
    · exact ih result
    · cases result
  | choice condition yes no first second =>
    rw [outcome] at result
    rw [literals, List.length_append]
    split at result
    · have inYes := first result
      omega
    · obtain ⟨later, inner⟩ := behind_eq_literal_iff.mp result
      have inNo := second inner
      omega

/-- An alternative applies exactly when its literal is the outcome. -/
theorem applies_iff {expression : ClassExpression} {index : Nat} {alternative : Alternative}
    (listed : expression.alternatives[index]? = some alternative) (environment : Environment) :
    alternative.applies environment = true ↔ expression.outcome environment = .literal index := by
  induction expression generalizing index alternative with
  | literal quoted =>
    cases index with
    | zero =>
      cases listed
      exact ⟨fun _ => rfl, fun _ => rfl⟩
    | succ index => cases listed
  | guarded op condition operand enclosed ih =>
    rw [alternatives, List.getElem?_map] at listed
    obtain ⟨inner, found, rfl⟩ := Option.map_eq_some_iff.mp listed
    rw [Alternative.within, outcome]
    cases goes : op.goesOn (condition.value environment) with
    | true => simpa [goes] using ih found
    | false => simp [goes]
  | choice condition yes no first second =>
    have lengths := congrArg List.length yes.map_quoted_alternatives
    rw [List.length_map] at lengths
    rw [alternatives, List.getElem?_append, List.length_map, List.getElem?_map,
      List.getElem?_map, lengths] at listed
    rw [outcome]
    split at listed
    · rename_i inYes
      obtain ⟨inner, found, rfl⟩ := Option.map_eq_some_iff.mp listed
      cases truthy : (condition.value environment).isTruthy with
      | true => simpa [Alternative.within, truthy] using first found
      | false =>
        have notLater : (no.outcome environment).behind yes.literals.length ≠ .literal index := by
          intro result
          have later := (behind_eq_literal_iff.mp result).1
          omega
        simp [Alternative.within, truthy, notLater]
    · rename_i inNo
      obtain ⟨inner, found, rfl⟩ := Option.map_eq_some_iff.mp listed
      have later : yes.literals.length ≤ index := Nat.le_of_not_lt inNo
      cases truthy : (condition.value environment).isTruthy with
      | true =>
        have notEarlier : yes.outcome environment ≠ .literal index := by
          intro result
          exact inNo (index_lt result)
        simp [Alternative.within, truthy, notEarlier]
      | false =>
        simpa [Alternative.within, truthy, behind_eq_literal_iff, later] using second found

theorem admits_unless (op : Operator) (binding : Binding) (enclosed : Bool) :
    op.admits (if !enclosed && op.admits binding then binding else .tight) = true := by
  split
  · rename_i fits
    simp only [Bool.and_eq_true] at fits
    exact fits.2
  · rfl

theorem phrase (expression : ClassExpression) : Phrase expression.binding expression.text := by
  induction expression with
  | literal quoted => exact Phrase.literal rfl (quoted.plain.isQuotable rfl)
  | guarded op condition operand enclosed ih =>
    exact (condition.phrase.unless _).joined (ih.unless _) (op.admits_fitted _)
      (admits_unless op operand.binding enclosed)
  | choice condition yes no first second => exact condition.phrase.chosen first second

theorem beginsOperand {expression : ClassExpression}
    (notLiteral : ∀ quoted, expression ≠ literal quoted) : expression.text.BeginsOperand := by
  cases expression with
  | literal quoted => exact absurd rfl (notLiteral quoted)
  | guarded op condition operand enclosed =>
    rw [text, Operator.joined, List.append_assoc]
    exact (Formula.beginsOperand_unless condition.beginsOperand _).append _
  | choice condition yes no =>
    simp only [text, chosen, List.append_assoc]
    exact condition.beginsOperand.append _

/-- No class expression is enclosed in brackets as a whole. -/
theorem unwrap_text (expression : ClassExpression) :
    unwrap .round .round expression.text = none := by
  have tidy := expression.phrase.tidy
  cases expression with
  | literal quoted =>
    apply unwrap_eq_none_of_head
    rw [tidy.trimmed]
    exact fun head => absurd (Option.some.inj head) (by decide)
  | guarded op condition operand enclosed =>
    have shape : (guarded op condition operand enclosed).text =
        bracketedUnless (op.admits condition.binding) condition.text ++ (op.spaced ++
          bracketedUnless (!enclosed && op.admits operand.binding) operand.text) := by
      rw [text, Operator.joined, List.append_assoc]
    rw [shape] at tidy ⊢
    exact (condition.phrase.unless _).unwrap_append (List.cons_ne_nil _ _) tidy.trimmed
  | choice condition yes no =>
    have shape : (choice condition yes no).text =
        condition.text ++ (" ? ".toList ++ (yes.text ++ (" : ".toList ++ no.text))) := by
      simp only [text, chosen, List.append_assoc]
    rw [shape] at tidy ⊢
    exact condition.phrase.unwrap_append (List.cons_ne_nil _ _) tidy.trimmed

theorem stripParens_text (expression : ClassExpression) :
    stripParens expression.text = expression.text := by
  rw [stripParens_of_unwrap expression.unwrap_text, expression.phrase.tidy.trimmed]

theorem text_assoc (op : Operator) (first second : Formula) (operand : ClassExpression)
    (enclosed : Bool) :
    (guarded op first (guarded op second operand enclosed) false).text =
      (guarded op (.binary op first second) operand enclosed).text := by
  have inner : bracketedUnless (!false && op.admits (guarded op second operand enclosed).binding)
      (guarded op second operand enclosed).text = (guarded op second operand enclosed).text := by
    rw [binding, Formula.admits_self]
    rfl
  have left : bracketedUnless (op.admits (Formula.binary op first second).binding)
      (Formula.binary op first second).text = (Formula.binary op first second).text := by
    rw [Formula.binding, Formula.admits_self]
    rfl
  rw [text, inner]
  conv => rhs; rw [text, left, Formula.text, Formula.joined_assoc]
  rw [text]

theorem within_within (first second : Environment → Bool) (alternative : Alternative) :
    (alternative.within second).within first =
      alternative.within fun environment => first environment && second environment := by
  simp only [Alternative.within, Bool.and_assoc]

theorem alternatives_assoc (op : Operator) (first second : Formula) (operand : ClassExpression)
    (enclosed : Bool) :
    (guarded op first (guarded op second operand enclosed) false).alternatives =
      (guarded op (.binary op first second) operand enclosed).alternatives := by
  simp only [alternatives, List.map_map, Function.comp_def, within_within, Formula.goesOn_value]

/-- The condition can be taken to end at the first operator; the rest of it belongs to the operand. -/
theorem exists_leading (op : Operator) (condition : Formula) (operand : ClassExpression)
    (enclosed : Bool) :
    ∃ first rest inner, (op.fitted first.binding).shows op = false ∧
      (guarded op first rest inner).text = (guarded op condition operand enclosed).text ∧
      (guarded op first rest inner).operators = (guarded op condition operand enclosed).operators ∧
      (guarded op first rest inner).alternatives =
        (guarded op condition operand enclosed).alternatives := by
  induction condition using Formula.induction_leading op generalizing operand enclosed with
  | leading condition hidden => exact ⟨condition, operand, enclosed, hidden, rfl, rfl, rfl⟩
  | chained one two ih =>
    obtain ⟨first, rest, inner, hidden, text_eq, operators_eq, alternatives_eq⟩ :=
      ih (guarded op two operand enclosed) false
    refine ⟨first, rest, inner, hidden, text_eq.trans (text_assoc ..), operators_eq.trans ?_,
      alternatives_eq.trans (alternatives_assoc ..)⟩
    simp only [operators, Formula.operators]
    omega

end ClassExpression
end ClassUsage

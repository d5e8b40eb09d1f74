import ClassUsage.Proofs.Formula

set_option autoImplicit false

/-!
A text can be read as a formula in one way only, up to how operands of one operator are grouped, and
so it has one value.
-/
namespace ClassUsage.Formula

/-- The formula as an operand, in brackets unless it fits. -/
def operand (fits : Bool) (formula : Formula) : Formula := if fits then formula else group formula

theorem text_operand (fits : Bool) (formula : Formula) :
    (operand fits formula).text = bracketedUnless fits formula.text := by
  cases fits <;> rfl

theorem value_operand (fits : Bool) (formula : Formula) (environment : Environment) :
    (operand fits formula).value environment = formula.value environment := by
  cases fits <;> rfl

theorem text_binary (op : Operator) (left right : Formula) :
    (binary op left right).text = op.joined (operand (op.admits left.binding) left).text
      (operand (op.admits right.binding) right).text := by
  rw [text_operand, text_operand]
  rfl

def beginsWithBlank (_ : Option Char) (text : Text) : Bool := text.head? == some ' '

theorem beginsWithBlank_of_ne {c : Char} (solid : c ≠ ' ') (before : Option Char) (behind : Text) :
    beginsWithBlank before (c :: behind) = false := by
  simp [beginsWithBlank, solid]

theorem passes_blank_bracketed {text : Text} (contained : text.IsSelfContained)
    (previous : Option Char) :
    Scan.fresh.Passes beginsWithBlank previous (Condition.bracketed text) := by
  apply Scan.passes_enclosed
  · decide
  · exact Scan.trace_opened contained
  · exact beginsWithBlank_of_ne (by decide)

theorem passes_blank {formula : Formula} (tight : formula.binding = .tight)
    (previous : Option Char) : Scan.fresh.Passes beginsWithBlank previous formula.text := by
  induction formula generalizing previous with
  | name identifier =>
    apply Scan.passes_of_forall
    intro c member
    exact beginsWithBlank_of_ne (ne_of_isIdentifierChar (identifier.inside c member) (by decide))
  | not inner ih =>
    refine ⟨fun _ => beginsWithBlank_of_ne (by decide) previous, ?_⟩
    by_cases fits : inner.binding = .tight
    · rw [fits]
      exact ih fits _
    · rw [beq_eq_false_iff_ne.mpr fits]
      exact passes_blank_bracketed inner.phrase.clean.isSelfContained _
  | isNull inner => cases tight
  | binary op left right => cases tight
  | group inner => exact passes_blank_bracketed inner.phrase.clean.isSelfContained previous

theorem isSome_blank {binding : Binding} {text : Text} (phrase : Phrase binding text) (rest : Text) :
    (Scan.findNeutral (fun _ => beginsWithBlank) 0 none Scan.fresh (text ++ ' ' :: rest)).isSome =
      true := by
  apply Scan.isSome_findNeutral_append
  rw [phrase.clean.closed]
  rfl

theorem holds_blank {formula : Formula} (loose : formula.binding ≠ .tight) :
    (Scan.findNeutral (fun _ => beginsWithBlank) 0 none Scan.fresh formula.text).isSome = true := by
  cases formula with
  | name identifier => exact absurd rfl loose
  | not inner => exact absurd rfl loose
  | group inner => exact absurd rfl loose
  | isNull inner => exact isSome_blank inner.phrase.unlessTight _
  | binary op left right =>
    rw [text_binary, Operator.joined, List.append_assoc]
    exact isSome_blank (operand _ left).phrase _

theorem shown_of_binding {formula : Formula} {op : Operator} (binds : formula.binding = .operator op) :
    (findOperator op.token 0 formula.text).isSome = true := by
  cases formula with
  | binary other left right =>
    cases binds
    exact isSome_findOperator_joined (left.phrase.unless _) op _
  | name identifier => cases binds
  | not inner => cases binds
  | isNull inner => cases binds
  | group inner => cases binds

theorem binding_eq_tight_of_text_eq {first second : Formula} (same : first.text = second.text)
    (tight : first.binding = .tight) : second.binding = .tight := by
  apply Classical.byContradiction
  intro loose
  have holds := holds_blank loose
  rw [← same, Scan.findNeutral_eq_none (passes_blank tight none)] at holds
  cases holds

/-- An operator at the top level of a formula is shown by each formula with the same text. -/
theorem shows_of_text_eq {first second : Formula} {op : Operator} (same : first.text = second.text)
    (binds : first.binding = .operator op) : second.binding.shows op = true := by
  cases shown : second.binding.shows op with
  | true => rfl
  | false =>
    have found := shown_of_binding binds
    rw [same, second.phrase.findOperator_eq_none shown] at found
    cases found

theorem binding_eq_of_text_eq {first second : Formula} (same : first.text = second.text) :
    first.binding = second.binding := by
  cases one : first.binding with
  | tight => exact (binding_eq_tight_of_text_eq same one).symm
  | conditional => exact absurd one first.binding_ne_conditional
  | comparison =>
    cases two : second.binding with
    | tight =>
      have tight := binding_eq_tight_of_text_eq same.symm two
      rw [one] at tight
      cases tight
    | comparison => rfl
    | conditional => exact absurd two second.binding_ne_conditional
    | operator op =>
      have shown := shows_of_text_eq same.symm two
      rw [one] at shown
      cases shown
  | operator op =>
    have shown := shows_of_text_eq same one
    cases two : second.binding with
    | tight =>
      rw [two] at shown
      cases shown
    | comparison =>
      rw [two] at shown
      cases shown
    | conditional => exact absurd two second.binding_ne_conditional
    | operator other =>
      have back := shows_of_text_eq same.symm two
      rw [one] at back
      rw [two] at shown
      revert shown back
      cases op <;> cases other <;> decide

theorem eq_of_fitted_shows {op inner : Operator}
    (shows : (op.fitted (.operator inner)).shows op = true) : inner = op := by
  revert shows
  cases op <;> cases inner <;> decide

/-- What holds of formulas that show no operator, and of each formula that goes on one with a further
operand, holds of all formulas. -/
@[elab_as_elim]
theorem induction_leading (op : Operator) {motive : Formula → Prop}
    (leading : ∀ formula, (op.fitted formula.binding).shows op = false → motive formula)
    (chained : ∀ one two, motive one → motive (binary op one two)) (formula : Formula) :
    motive formula := by
  induction formula with
  | binary inner one two first second =>
    cases shows : (op.fitted (binary inner one two).binding).shows op with
    | false => exact leading _ shows
    | true =>
      obtain rfl := eq_of_fitted_shows shows
      exact chained one two first
  | name identifier => exact leading _ rfl
  | not inner => exact leading _ rfl
  | isNull inner => exact leading _ (by cases op <;> rfl)
  | group inner => exact leading _ rfl

theorem admits_self (op : Operator) : op.admits (.operator op) = true := by
  cases op <;> rfl

theorem joined_assoc (op : Operator) (first second third : Text) :
    op.joined (op.joined first second) third = op.joined first (op.joined second third) := by
  simp only [Operator.joined, List.append_assoc]

theorem text_assoc (op : Operator) (first second third : Formula) :
    (binary op (binary op first second) third).text =
      (binary op first (binary op second third)).text := by
  have inner : ∀ left right : Formula,
      bracketedUnless (op.admits (binary op left right).binding) (binary op left right).text =
        (binary op left right).text := by
    intro left right
    rw [binding, admits_self]
    rfl
  rw [text, inner, text, joined_assoc]
  conv => rhs; rw [text, inner, text]

theorem goesOn_value (op : Operator) (left right : Formula) (environment : Environment) :
    op.goesOn ((binary op left right).value environment) =
      (op.goesOn (left.value environment) && op.goesOn (right.value environment)) := by
  rw [value]
  cases goes : op.goesOn (left.value environment) with
  | true => rw [if_pos rfl, Bool.true_and]
  | false => rw [if_neg (by simp), goes, Bool.false_and]

theorem value_assoc (op : Operator) (first second third : Formula) (environment : Environment) :
    (binary op (binary op first second) third).value environment =
      (binary op first (binary op second third)).value environment := by
  rw [value, goesOn_value]
  cases goes : op.goesOn (first.value environment) with
  | true => simp only [value, goes, Bool.true_and, ↓reduceIte]
  | false => simp only [value, goes, Bool.false_and, Bool.false_eq_true, ↓reduceIte]

/-- The left operand can be taken to end at the first operator. -/
theorem exists_leading (op : Operator) (left right : Formula) :
    ∃ first rest, (op.fitted first.binding).shows op = false ∧
      (binary op first rest).text = (binary op left right).text ∧
      ∀ environment, (binary op first rest).value environment =
        (binary op left right).value environment := by
  induction left using induction_leading op generalizing right with
  | leading left hidden => exact ⟨left, right, hidden, rfl, fun _ => rfl⟩
  | chained one two ih =>
    obtain ⟨first, rest, hidden, text_eq, value_eq⟩ := ih (binary op two right)
    refine ⟨first, rest, hidden, text_eq.trans (text_assoc ..).symm, ?_⟩
    intro environment
    rw [value_eq, value_assoc]

/-- Two formulas of one operator with the same text have operands with the same texts, once both end
their left operand at the first operator. -/
theorem operands_eq {op : Operator} {left right one two : Formula}
    (leading : (op.fitted left.binding).shows op = false)
    (also_leading : (op.fitted one.binding).shows op = false)
    (same : (binary op left right).text = (binary op one two).text) :
    (operand (op.admits left.binding) left).text = (operand (op.admits one.binding) one).text ∧
      (operand (op.admits right.binding) right).text =
        (operand (op.admits two.binding) two).text := by
  have found := findOperator_joined (left.phrase.unless (op.admits left.binding))
    (right.phrase.unless (op.admits right.binding)) leading
  have also_found := findOperator_joined (one.phrase.unless (op.admits one.binding))
    (two.phrase.unless (op.admits two.binding)) also_leading
  rw [text_binary, text_binary, text_operand, text_operand, text_operand, text_operand] at same
  rw [same, also_found] at found
  simp only [Option.some.injEq, Occurrence.mk.injEq] at found
  rw [text_operand, text_operand, text_operand, text_operand]
  exact ⟨found.2.1.symm, found.2.2.symm⟩

theorem length_operands (op : Operator) (left right : Formula) :
    (operand (op.admits left.binding) left).text.length < (binary op left right).text.length ∧
      (operand (op.admits right.binding) right).text.length < (binary op left right).text.length := by
  rw [text_binary, Operator.joined, Operator.spaced]
  simp only [List.length_append, List.length_cons]
  omega

theorem text_ne_cons (identifier : Identifier) {c : Char} (absent : isIdentifierChar c = false)
    (rest : Text) : identifier.text ≠ c :: rest := by
  intro same
  have inside := identifier.inside c (by rw [same]; exact List.mem_cons_self)
  exact ne_of_isIdentifierChar inside absent rfl

theorem length_operand_not (inner : Formula) :
    (operand (inner.binding == .tight) inner).text.length < (not inner).text.length := by
  rw [text_operand]
  exact Nat.lt_succ_self _

theorem length_operand_isNull (inner : Formula) :
    (operand (inner.binding == .tight) inner).text.length < (isNull inner).text.length := by
  rw [text_operand, text, List.length_append]
  exact Nat.lt_add_of_pos_right (by decide)

theorem length_group (inner : Formula) : inner.text.length < (group inner).text.length := by
  rw [text, Condition.bracketed, List.length_append]
  simp only [List.length_cons]
  omega

/-- Whatever formulas a text is the text of, they have the same value. -/
theorem value_eq_of_text_eq {first second : Formula} (same : first.text = second.text)
    (environment : Environment) : first.value environment = second.value environment := by
  generalize size : first.text.length = length
  induction length using Nat.strongRecOn generalizing first second with
  | ind length ih =>
    subst size
    -- operands are shorter, brackets included
    have operands_value : ∀ {fits also_fits : Bool} {one other : Formula},
        (operand fits one).text.length < first.text.length →
          (operand fits one).text = (operand also_fits other).text →
            one.value environment = other.value environment := by
      intro fits also_fits one other shorter texts
      have equal := ih _ shorter texts rfl
      rw [value_operand, value_operand] at equal
      exact equal
    have bindings := binding_eq_of_text_eq same
    cases first with
    | name identifier =>
      cases second with
      | name other =>
        cases identifier
        cases other
        cases same
        rfl
      | not inner => exact absurd same (text_ne_cons identifier (by decide) _)
      | group inner => exact absurd same (text_ne_cons identifier (by decide) _)
      | _ => cases bindings
    | not inner =>
      cases second with
      | name other => exact absurd same.symm (text_ne_cons other (by decide) _)
      | not other =>
        have texts : (operand (inner.binding == .tight) inner).text =
            (operand (other.binding == .tight) other).text := by
          rw [text_operand, text_operand]
          exact (List.cons.inj same).2
        rw [value, value, operands_value (length_operand_not inner) texts]
      | group other => cases (List.cons.inj same).1
      | _ => cases bindings
    | isNull inner =>
      cases second with
      | isNull other =>
        have texts : (operand (inner.binding == .tight) inner).text =
            (operand (other.binding == .tight) other).text := by
          rw [text_operand, text_operand]
          exact List.append_cancel_right same
        rw [value, value, operands_value (length_operand_isNull inner) texts]
      | _ => cases bindings
    | binary op left right =>
      cases second with
      | binary other one two =>
        cases bindings
        obtain ⟨lead, rest, leading, text_eq, value_eq⟩ := exists_leading op left right
        obtain ⟨also_lead, also_rest, also_leading, also_text_eq, also_value_eq⟩ :=
          exists_leading op one two
        have texts : (binary op lead rest).text = (binary op also_lead also_rest).text := by
          rw [text_eq, same, also_text_eq]
        obtain ⟨before, after⟩ := operands_eq leading also_leading texts
        obtain ⟨shorter, also_shorter⟩ := length_operands op lead rest
        rw [text_eq] at shorter also_shorter
        rw [← value_eq, ← also_value_eq, value, value, operands_value shorter before,
          operands_value also_shorter after]
      | _ => cases bindings
    | group inner =>
      cases second with
      | name other => exact absurd same.symm (text_ne_cons other (by decide) _)
      | not other => cases (List.cons.inj same).1
      | group other =>
        have texts : inner.text = other.text := List.append_cancel_right (List.cons.inj same).2
        have equal := ih _ (length_group inner) texts rfl
        exact equal
      | _ => cases bindings

end ClassUsage.Formula

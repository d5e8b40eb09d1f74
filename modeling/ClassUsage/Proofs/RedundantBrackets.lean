import ClassUsage.Proofs.Composition

set_option autoImplicit false

/-!
Brackets around a whole expression. Beside an operator they are taken off, but an expression or a branch
that stands in brackets as a whole is not read at all.
-/
namespace ClassUsage

/-- An operand without operators at its top level, and no literal, has no uses. -/
theorem Phrase.usesOf_eq_nil {text : Text} (phrase : Phrase .tight text) (begins : text.BeginsOperand)
    {m : Type → Type} [Monad m] [LawfulMonad m] (uses : Text → m (List ClassUse)) :
    Shape.usesOf uses text = pure [] := by
  have noBrace : text.head? ≠ some '{' := by
    obtain ⟨c, rest, rfl, -, notBrace⟩ := begins
    exact fun head => notBrace (Option.some.inj head)
  rw [phrase.usesOf_eq_objectUses begins.startsUnquoted, objectUses_eq_nil phrase.tidy.trimmed noBrace]

/-- An expression in brackets has no uses at any depth. -/
theorem usesWithin_bracketed {text : Text} (contained : text.IsSelfContained) (levels : Nat) :
    usesWithin (levels + 1) (Condition.bracketed text) = .ok [] := by
  rw [usesWithin, trim_bracketed]
  exact (Phrase.ofBrackets contained).usesOf_eq_nil (beginsOperand_bracketed text) _

theorem parseForm_bracketed {text : Text} (contained : text.IsSelfContained) (limit : Int) :
    parseForm .any limit (Condition.bracketed text) = none := by
  rw [parseForm, ExpressionForm.usesOf, trim_bracketed]
  cases levelsLeft limit 0 with
  | zero => rfl
  | succ levels =>
    rw [usesWithin_bracketed contained]
    rfl

/-- A name with two branches in brackets has no uses. -/
theorem parseForm_chosen_bracketed {name yes no : Text} (ascii : name.isAsciiName = true)
    (whenTrue : yes.IsSelfContained) (whenFalse : no.IsSelfContained) {limit : Int}
    (enough : ((chosen name (Condition.bracketed yes) (Condition.bracketed no)).length : Int) ≤
      limit) :
    parseForm .any limit (chosen name (Condition.bracketed yes) (Condition.bracketed no)) = none := by
  have branch := (Phrase.ofBrackets whenTrue).isBranch
  rw [parseForm_chosen ascii branch enough, parseForm_bracketed whenTrue,
    parseForm_bracketed whenFalse]
  rfl

/-- A conditional expression on a name is a match if one of its branches is. -/
theorem parseForm_chosen_eq_none {name yes no : Text} (ascii : name.isAsciiName = true)
    (whenTrue : IsBranch yes) {limit : Int} (enough : ((chosen name yes no).length : Int) ≤ limit) :
    parseForm .any limit (chosen name yes no) = none ↔
      parseForm .any limit yes = none ∧ parseForm .any limit no = none := by
  rw [parseForm_chosen ascii whenTrue enough, Option.merge_eq_none_iff, Option.map_eq_none_iff,
    Option.map_eq_none_iff]

theorem trim_joined_bracketed {test operand : Text} (left : test.IsSelfContained)
    (right : operand.IsSelfContained) (op : Operator) :
    Text.trim (op.joined (Condition.bracketed test) (Condition.bracketed operand)) =
      op.joined (Condition.bracketed test) (Condition.bracketed operand) :=
  ((Phrase.ofBrackets left).tidy.surround (Phrase.ofBrackets right).tidy _).trimmed

/-- All brackets around either side of an operator are taken off. -/
theorem usesWithin_joined_bracketed {test operand : Text} (left : test.IsSelfContained)
    (right : operand.IsSelfContained) (op : Operator) (levels : Nat) :
    usesWithin (levels + 1) (op.joined (Condition.bracketed test) (Condition.bracketed operand)) =
      usesWithin levels (stripParens operand) >>= fun found =>
        pure (guardAll (op.render (stripParens test)) found) := by
  rw [usesWithin, trim_joined_bracketed left right,
    usesOf_joined_bracketed (Phrase.ofBrackets left) rfl rfl (beginsOperand_bracketed test) right,
    stripParens_bracketed left]

theorem parseForm_joined_bracketed {test operand : Text} (left : test.IsSelfContained)
    (right : operand.IsSelfContained) (op : Operator) (limit : Int) :
    parseForm .any limit (op.joined (Condition.bracketed (Condition.bracketed test))
        (Condition.bracketed (Condition.bracketed operand))) =
      parseForm .any limit (op.joined (Condition.bracketed test) (Condition.bracketed operand)) := by
  have testInside := (Phrase.ofBrackets left).clean.isSelfContained
  have operandInside := (Phrase.ofBrackets right).clean.isSelfContained
  rw [parseForm, parseForm, ExpressionForm.usesOf, ExpressionForm.usesOf,
    trim_joined_bracketed left right, trim_joined_bracketed testInside operandInside]
  cases levelsLeft limit 0 with
  | zero => rfl
  | succ levels =>
    rw [usesWithin_joined_bracketed left right, usesWithin_joined_bracketed testInside operandInside,
      stripParens_bracketed left, stripParens_bracketed right]

/-- Brackets around an expression or around both branches of a conditional one are without effect only
where there is nothing to be read. On either side of an operator they are without effect wherever there
are brackets already. -/
theorem parse_bracketed_eq_iff (limit : Int) :
    (∀ text : Text, text.IsSelfContained →
      (parseForm .any limit (Condition.bracketed text) = parseForm .any limit text ↔
        parseForm .any limit text = none)) ∧
    (∀ name yes no : Text, name.isAsciiName = true → yes.IsSelfContained → no.IsSelfContained →
      yes.PairsBranches →
      ((chosen name (Condition.bracketed yes) (Condition.bracketed no)).length : Int) ≤ limit →
      (parseForm .any limit (chosen name (Condition.bracketed yes) (Condition.bracketed no)) =
          parseForm .any limit (chosen name yes no) ↔
        parseForm .any limit yes = none ∧ parseForm .any limit no = none)) ∧
    ∀ (op : Operator) (test operand : Text), test.IsSelfContained → operand.IsSelfContained →
      parseForm .any limit (op.joined (Condition.bracketed (Condition.bracketed test))
          (Condition.bracketed (Condition.bracketed operand))) =
        parseForm .any limit
          (op.joined (Condition.bracketed test) (Condition.bracketed operand)) := by
  refine ⟨?_, ?_, ?_⟩
  · intro text contained
    rw [parseForm_bracketed contained]
    exact eq_comm
  · intro name yes no ascii whenTrue whenFalse pairs enough
    have shorter : ((chosen name yes no).length : Int) ≤ limit := by
      simp only [chosen, Condition.bracketed, List.length_append, List.length_cons] at enough ⊢
      omega
    rw [parseForm_chosen_bracketed ascii whenTrue whenFalse enough, eq_comm]
    exact parseForm_chosen_eq_none ascii (whenTrue.isBranch pairs) shorter
  · intro op test operand left right
    exact parseForm_joined_bracketed left right op limit

theorem parse_bracketed_literal :
    parseForm .any 200 "('a')".toList ≠ parseForm .any 200 "'a'".toList ∧
      parseForm .any 200 "x ? ('a') : ('b')".toList ≠ parseForm .any 200 "x ? 'a' : 'b'".toList ∧
      parseForm .any 200 "((x)) && (('a'))".toList = parseForm .any 200 "(x) && ('a')".toList := by
  have first : Text.IsSelfContained "'a'".toList := ⟨by decide, by decide⟩
  have second : Text.IsSelfContained "'b'".toList := ⟨by decide, by decide⟩
  have name : Text.IsSelfContained "x".toList := ⟨by decide, by decide⟩
  obtain ⟨whole, branches, sides⟩ := parse_bracketed_eq_iff 200
  refine ⟨?_, ?_, sides .and "x".toList "'a'".toList name first⟩
  · exact (whole "'a'".toList first).not.mpr (by decide +kernel)
  · exact (branches "x".toList "'a'".toList "'b'".toList (by decide) first second .nil
      (by decide)).not.mpr (by decide +kernel)

theorem bracketed_literal_lost :
    parseExpression "'a'".toList = some [⟨"a".toList, none⟩] ∧
      parseExpression "('a')".toList = none ∧
      parseExpression "x ? 'a' : 'b'".toList =
        some [⟨"a".toList, some "x".toList⟩, ⟨"b".toList, some "!x".toList⟩] ∧
      parseExpression "x ? ('a') : ('b')".toList = none := by
  decide +kernel

end ClassUsage

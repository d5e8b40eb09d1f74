import ClassUsage.Proofs.BlankCharacters
import ClassUsage.Proofs.PhraseReading

set_option autoImplicit false

/-!
Conditions as expressions: their text, with the brackets that it needs, and their value once the
identifiers have values.
-/
namespace ClassUsage

/-- Values, as far as conditions tell them apart. -/
inductive Value where
  | null
  /-- A value that is false as a condition, but not null. -/
  | falsy
  | truthy
deriving DecidableEq, Repr

namespace Value

def isTruthy (value : Value) : Bool := value == truthy

def isNull (value : Value) : Bool := value == null

def ofBool (holds : Bool) : Value := if holds then truthy else falsy

end Value

/-- Whether the value of the left side makes an operator go on to its right side. -/
def Operator.goesOn : Operator → Value → Bool
  | and, value => value.isTruthy
  | or, value => !value.isTruthy
  | nullish, value => value.isNull

/-- The characters of identifiers: outside ASCII all but blanks. -/
def isIdentifierChar (c : Char) : Bool :=
  isAsciiWordChar c || c == '$' || (128 ≤ c.toNat && !isBlank c)

/-- An identifier, which does not begin with a digit. -/
structure Identifier where
  text : Text
  filled : text ≠ []
  inside : ∀ c ∈ text, isIdentifierChar c = true
  start : text.head?.any Char.isDigit = false

abbrev Environment := Identifier → Value

/-- Expressions that serve as conditions. -/
inductive Formula where
  | name (identifier : Identifier)
  | not (inner : Formula)
  | isNull (inner : Formula)
  | binary (op : Operator) (left right : Formula)
  /-- Brackets that the expression may do without. -/
  | group (inner : Formula)

/-- A text in brackets, unless it can do without. -/
def bracketedUnless (fits : Bool) (text : Text) : Text :=
  if fits then text else Condition.bracketed text

namespace Formula

def binding : Formula → Binding
  | name _ => .tight
  | not _ => .tight
  | isNull _ => .comparison
  | binary op _ _ => .operator op
  | group _ => .tight

def text : Formula → Text
  | name identifier => identifier.text
  | not inner => '!' :: bracketedUnless (inner.binding == .tight) inner.text
  | isNull inner => bracketedUnless (inner.binding == .tight) inner.text ++ " == null".toList
  | binary op left right =>
    op.joined (bracketedUnless (op.admits left.binding) left.text)
      (bracketedUnless (op.admits right.binding) right.text)
  | group inner => Condition.bracketed inner.text

def value (environment : Environment) : Formula → Value
  | name identifier => environment identifier
  | not inner => .ofBool !(inner.value environment).isTruthy
  | isNull inner => .ofBool (inner.value environment).isNull
  | binary op left right =>
    if op.goesOn (left.value environment) then right.value environment
    else left.value environment
  | group inner => inner.value environment

end Formula

theorem ne_of_isIdentifierChar {c d : Char} (inside : isIdentifierChar c = true)
    (absent : isIdentifierChar d = false) : c ≠ d := by
  rintro rfl
  rw [inside] at absent
  cases absent

theorem isInert_of_isIdentifierChar {c : Char} (inside : isIdentifierChar c = true) :
    IsInert c ∧ isBlank c = false := by
  have differs : ∀ {d : Char}, isIdentifierChar d = false → c ≠ d :=
    fun absent => ne_of_isIdentifierChar inside absent
  have solid : isBlank c = false := by
    simp only [isIdentifierChar, Bool.or_eq_true, Bool.and_eq_true, beq_iff_eq,
      Bool.not_eq_true'] at inside
    rcases inside with (word | rfl) | ⟨-, solid⟩
    · exact isBlank_of_isAsciiWordChar word
    · decide
    · exact solid
  have ordinary : Text.IsOrdinary c := by
    apply Text.isOrdinary_of_forall_ne
    have absent : ∀ d ∈ Text.scanMarks, isIdentifierChar d = false :=
      Text.forall_mem_of_all (by decide)
    exact fun d listed => differs (absent d listed)
  exact ⟨⟨ordinary, differs (by decide), differs (by decide), differs (by decide),
    differs (by decide)⟩, solid⟩

/-- How an operand binds beside the operator, brackets included. -/
def Operator.fitted (op : Operator) (binding : Binding) : Binding :=
  if op.admits binding then binding else .tight

theorem Operator.admits_fitted (op : Operator) (binding : Binding) :
    op.admits (op.fitted binding) = true := by
  unfold fitted
  split
  · assumption
  · rfl

theorem Phrase.unless {binding : Binding} {text : Text} (phrase : Phrase binding text) (fits : Bool) :
    Phrase (if fits then binding else .tight) (bracketedUnless fits text) := by
  cases fits with
  | true => exact phrase
  | false => exact phrase.bracketed

theorem Phrase.unlessTight {binding : Binding} {text : Text} (phrase : Phrase binding text) :
    Phrase .tight (bracketedUnless (binding == .tight) text) := by
  have enclosed := phrase.unless (binding == .tight)
  split at enclosed
  · rename_i isTight
    rw [beq_iff_eq.mp isTight] at enclosed ⊢
    exact enclosed
  · exact enclosed

namespace Formula

theorem phrase (formula : Formula) : Phrase formula.binding formula.text := by
  induction formula with
  | name identifier =>
    apply Phrase.ofInert identifier.filled
    intro c member
    exact isInert_of_isIdentifierChar (identifier.inside c member)
  | not inner ih =>
    have operand := ih.unlessTight
    have shape : (not inner).text =
        ['!'] ++ bracketedUnless (inner.binding == .tight) inner.text ++ [] := by
      rw [List.append_nil]
      rfl
    have mark : Text.IsTidy ['!'] := ⟨by decide, by decide⟩
    rw [shape]
    apply operand.surround (Text.forall_mem_of_all (by decide)) (Text.forall_mem_of_all rfl)
    rw [List.append_nil]
    exact mark.surround operand.tidy []
  | isNull inner ih =>
    have operand := ih.unlessTight
    have null : Text.IsTidy "null".toList := ⟨by decide, by decide⟩
    have inert : ∀ c ∈ " == null".toList, IsInert c := Text.forall_mem_of_all (by decide)
    have tidy := operand.tidy.surround null " == ".toList
    rw [List.append_assoc] at tidy
    have whole : Phrase .tight ([] ++ bracketedUnless (inner.binding == .tight) inner.text ++
        " == null".toList) := operand.surround (Text.forall_mem_of_all rfl) inert tidy
    exact whole.weaken (by decide) fun _ _ => rfl
  | binary op left right first second =>
    exact (first.unless _).joined (second.unless _) (op.admits_fitted _) (op.admits_fitted _)
  | group inner ih => exact ih.bracketed

theorem binding_ne_conditional (formula : Formula) : formula.binding ≠ .conditional := by
  cases formula with
  | name identifier => exact nofun
  | not inner => exact nofun
  | isNull inner => exact nofun
  | binary op left right => exact nofun
  | group inner => exact nofun

theorem beginsOperand_unless {text : Text} (begins : text.BeginsOperand) (fits : Bool) :
    (bracketedUnless fits text).BeginsOperand := by
  cases fits with
  | true => exact begins
  | false => exact beginsOperand_bracketed text

theorem beginsOperand (formula : Formula) : formula.text.BeginsOperand := by
  induction formula with
  | name identifier =>
    cases chars : identifier.text with
    | nil => exact absurd chars identifier.filled
    | cons c rest =>
      have inside := identifier.inside c (by rw [chars]; exact List.mem_cons_self)
      obtain ⟨noQuote, noOpener, -⟩ := (isInert_of_isIdentifierChar inside).1.1
      refine ⟨c, rest, chars, noQuote, ?_⟩
      rintro rfl
      cases noOpener
  | not inner ih => exact ⟨'!', _, rfl, by decide, by decide⟩
  | isNull inner ih => exact (beginsOperand_unless ih _).append _
  | binary op left right first second =>
    rw [text, Operator.joined, List.append_assoc]
    exact (beginsOperand_unless first _).append _
  | group inner ih => exact beginsOperand_bracketed inner.text

/-- The formula without brackets around all of it. -/
def stripped : Formula → Formula
  | group inner => inner.stripped
  | formula => formula

theorem value_stripped (formula : Formula) (environment : Environment) :
    formula.stripped.value environment = formula.value environment := by
  induction formula with
  | group inner ih => exact ih
  | name identifier => rfl
  | not inner => rfl
  | isNull inner => rfl
  | binary op left right => rfl

/-- Only a group is enclosed in brackets as a whole. -/
theorem unwrap_text {formula : Formula} (notGroup : ∀ inner, formula ≠ group inner) :
    unwrap .round .round formula.text = none := by
  have tidy := formula.phrase.tidy
  cases formula with
  | name identifier =>
    apply unwrap_eq_none_of_head
    rw [tidy.trimmed]
    intro head
    have inside := identifier.inside '(' (List.mem_of_head? head)
    revert inside
    decide
  | not inner =>
    apply unwrap_eq_none_of_head
    rw [tidy.trimmed]
    exact fun head => absurd (Option.some.inj head) (by decide)
  | isNull inner =>
    exact inner.phrase.unlessTight.unwrap_append (List.cons_ne_nil _ _) tidy.trimmed
  | binary op left right =>
    have shape : (binary op left right).text =
        bracketedUnless (op.admits left.binding) left.text ++
          (op.spaced ++ bracketedUnless (op.admits right.binding) right.text) := by
      rw [text, Operator.joined, List.append_assoc]
    rw [shape] at tidy ⊢
    exact (left.phrase.unless _).unwrap_append (List.cons_ne_nil _ _) tidy.trimmed
  | group inner => exact absurd rfl (notGroup inner)

theorem stripParens_text (formula : Formula) : stripParens formula.text = formula.stripped.text := by
  have done : ∀ {other : Formula}, (∀ inner, other ≠ group inner) →
      stripParens other.text = other.text := by
    intro other notGroup
    rw [stripParens_of_unwrap (unwrap_text notGroup), other.phrase.tidy.trimmed]
  induction formula with
  | group inner ih =>
    rw [text, stripParens_bracketed inner.phrase.clean.isSelfContained]
    exact ih
  | name identifier => exact done (by simp)
  | not inner => exact done (by simp)
  | isNull inner => exact done (by simp)
  | binary op left right => exact done (by simp)

/-- Reading the text as a simple operand fails or ends in a name. -/
def ReadsName (text : Text) : Prop :=
  text.foldlM OperandState.step .start = none ∨
    text.foldlM OperandState.step .start = some .name

theorem suffix_eq_none {c : Char} (inside : isIdentifierChar c = true) :
    OperandState.suffix c = none := by
  have noQuestion : c ≠ '?' := ne_of_isIdentifierChar inside (by decide)
  have noPoint : c ≠ '.' := ne_of_isIdentifierChar inside (by decide)
  have noSquare : c ≠ '[' := ne_of_isIdentifierChar inside (by decide)
  have noRound : c ≠ '(' := ne_of_isIdentifierChar inside (by decide)
  simp only [OperandState.suffix, noQuestion, noPoint, noSquare, noRound, ↓reduceIte]

theorem foldlM_name {text : Text} (inside : ∀ c ∈ text, isIdentifierChar c = true) :
    text.foldlM OperandState.step .name = none ∨
      text.foldlM OperandState.step .name = some .name := by
  induction text with
  | nil => exact Or.inr rfl
  | cons c rest ih =>
    rw [List.foldlM_cons, OperandState.step, suffix_eq_none (inside c List.mem_cons_self)]
    split
    · exact ih fun d member => inside d (List.mem_cons_of_mem c member)
    · exact Or.inl rfl

theorem readsName_identifier (identifier : Identifier) : ReadsName identifier.text := by
  cases chars : identifier.text with
  | nil => exact absurd chars identifier.filled
  | cons c rest =>
    have inside : ∀ d ∈ c :: rest, isIdentifierChar d = true := chars ▸ identifier.inside
    have noMark : c ≠ '!' := ne_of_isIdentifierChar (inside c List.mem_cons_self) (by decide)
    unfold ReadsName
    rw [List.foldlM_cons, OperandState.step, if_neg noMark]
    split
    · exact foldlM_name fun d member => inside d (List.mem_cons_of_mem c member)
    · exact Or.inl rfl

theorem readsName_bracketed (text : Text) : ReadsName (Condition.bracketed text) := Or.inl rfl

theorem ReadsName.unless {text : Text} (reads : ReadsName text) (fits : Bool) :
    ReadsName (bracketedUnless fits text) := by
  cases fits with
  | true => exact reads
  | false => exact readsName_bracketed text

/-- Behind a name, a blank ends the reading. -/
theorem ReadsName.append_blank {text : Text} (reads : ReadsName text) (rest : Text) :
    (text ++ ' ' :: rest).foldlM OperandState.step .start = none := by
  rw [List.foldlM_append]
  rcases reads with failed | read
  · rw [failed]
    rfl
  · rw [read]
    rfl

theorem readsName (formula : Formula) : ReadsName formula.text := by
  induction formula with
  | name identifier => exact readsName_identifier identifier
  | not inner ih => exact ih.unless _
  | isNull inner ih => exact Or.inl ((ih.unless _).append_blank _)
  | binary op left right first second =>
    rw [text, Operator.joined, List.append_assoc]
    exact Or.inl ((first.unless _).append_blank _)
  | group inner ih => exact readsName_bracketed inner.text

theorem isSimpleOperand_eq_false {formula : Formula}
    (fails : formula.text.foldlM OperandState.step .start = none) :
    formula.text.isSimpleOperand = false := by
  have noNewline : formula.text.getLast? ≠ some '\n' := by
    intro last
    have trimmed := Text.isTrimmed_of_trim_eq formula.phrase.tidy.trimmed
    cases trimmed.last '\n' last
  unfold Text.isSimpleOperand Text.dropFinalNewline
  rw [if_neg noNewline, fails]
  rfl

/-- What a `!` may stand before without brackets binds tightly. -/
theorem binding_eq_tight {formula : Formula} (simple : Condition.isSimple formula.text = true) :
    formula.binding = .tight := by
  have notSimple : formula.text.foldlM OperandState.step .start = none →
      (∀ inner, formula ≠ group inner) → False := by
    intro fails notGroup
    rw [Condition.isSimple, isSimpleOperand_eq_false fails, unwrap_text notGroup] at simple
    cases simple
  cases formula with
  | name identifier => rfl
  | not inner => rfl
  | group inner => rfl
  | isNull inner =>
    exact absurd (by simp) (notSimple ((inner.readsName.unless _).append_blank _))
  | binary op left right =>
    rw [text, Operator.joined, List.append_assoc] at notSimple
    exact absurd (by simp) (notSimple ((left.readsName.unless _).append_blank _))

theorem isTruthy_ofBool (holds : Bool) : (Value.ofBool holds).isTruthy = holds := by
  cases holds <;> rfl

theorem exists_negate (formula : Formula) :
    ∃ negated : Formula, negated.text = Condition.negate formula.text ∧
      ∀ environment, (negated.value environment).isTruthy =
        !(formula.value environment).isTruthy := by
  by_cases simple : Condition.isSimple formula.text = true
  · refine ⟨not formula, ?_, fun _ => isTruthy_ofBool _⟩
    rw [text, binding_eq_tight simple, Condition.negate, if_pos simple]
    rfl
  · refine ⟨not (group formula), ?_, fun _ => isTruthy_ofBool _⟩
    rw [Condition.negate, if_neg simple]
    rfl

theorem exists_isNull (formula : Formula) :
    ∃ test : Formula, test.text = Condition.isNull formula.text ∧
      ∀ environment, (test.value environment).isTruthy = (formula.value environment).isNull := by
  by_cases simple : Condition.isSimple formula.text = true
  · refine ⟨isNull formula, ?_, fun _ => isTruthy_ofBool _⟩
    rw [text, binding_eq_tight simple, Condition.isNull, if_pos simple]
    rfl
  · refine ⟨isNull (group formula), ?_, fun _ => isTruthy_ofBool _⟩
    rw [Condition.isNull, if_neg simple]
    rfl

/-- The condition under which an operator goes on to its right side, as a formula. -/
theorem exists_render (op : Operator) (formula : Formula) :
    ∃ condition : Formula, condition.text = op.render formula.text ∧
      ∀ environment, (condition.value environment).isTruthy =
        op.goesOn (formula.value environment) := by
  cases op with
  | and => exact ⟨formula, rfl, fun _ => rfl⟩
  | or => exact exists_negate formula
  | nullish => exact exists_isNull formula

/-- An operand that holds a looser operator is put in brackets. -/
theorem exists_group (formula : Formula) :
    ∃ operand : Formula, operand.text = Condition.group formula.text ∧
      Operator.and.admits operand.binding = true ∧
      ∀ environment, operand.value environment = formula.value environment := by
  by_cases looser : hasOperator [orToken, nullishToken] formula.text || isConditional formula.text
  · refine ⟨group formula, ?_, rfl, fun _ => rfl⟩
    rw [Condition.group, if_pos looser]
    rfl
  · refine ⟨formula, ?_, ?_, fun _ => rfl⟩
    · rw [Condition.group, if_neg looser]
    · have shown : ∀ op left right, formula = binary op left right →
          (findOperator op.token 0 formula.text).isSome = true := by
        rintro op left right rfl
        exact isSome_findOperator_joined (left.phrase.unless _) op _
      cases formula with
      | binary op left right =>
        cases op with
        | and => rfl
        | or =>
          have found : (findOperator orToken 0 _).isSome = true := shown .or left right rfl
          simp [hasOperator, found] at looser
        | nullish =>
          have found : (findOperator nullishToken 0 _).isSome = true := shown .nullish left right rfl
          simp [hasOperator, found] at looser
      | name identifier => rfl
      | not inner => rfl
      | isNull inner => rfl
      | group inner => rfl

theorem exists_conjoin (left right : Formula) :
    ∃ both : Formula, both.text = Condition.conjoin left.text (some right.text) ∧
      ∀ environment, (both.value environment).isTruthy =
        ((left.value environment).isTruthy && (right.value environment).isTruthy) := by
  obtain ⟨first, firstText, admitsFirst, firstValue⟩ := left.exists_group
  obtain ⟨second, secondText, admitsSecond, secondValue⟩ := right.exists_group
  refine ⟨binary .and first second, ?_, ?_⟩
  · rw [text, admitsFirst, admitsSecond, Condition.conjoin, ← firstText, ← secondText]
    rfl
  · intro environment
    rw [value, firstValue, secondValue, Operator.goesOn]
    cases truthy : (left.value environment).isTruthy with
    | true => rw [if_pos rfl, Bool.true_and]
    | false => rw [if_neg (by simp), truthy, Bool.false_and]

end Formula
end ClassUsage

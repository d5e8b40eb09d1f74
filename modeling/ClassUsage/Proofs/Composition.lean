import ClassUsage.Proofs.BranchPairing
import ClassUsage.Proofs.Formula
import ClassUsage.Proofs.NestingDepth

set_option autoImplicit false

/-!
Expressions put together from a name and other expressions. The uses of the whole are those of the
parts, each under the condition that the name gives, whatever the parts hold.
-/
namespace ClassUsage

def isAsciiNamePart (c : Char) : Bool := isAsciiWordChar c || c == '$'

def Text.isAsciiName : Text → Bool
  | [] => false
  | c :: rest => isNameStart c && rest.all isAsciiNamePart

theorem toNat_lt_of_isAsciiWordChar {c : Char} (word : isAsciiWordChar c = true) : c.toNat < 128 := by
  obtain ⟨range, listed, -, upper⟩ :=
    (CodeRange.cover_eq_true_iff _ _).mp (cover_of_isAsciiWordChar word)
  have small : ∀ range ∈ asciiWordRanges, range.2 < 128 := by decide
  exact Nat.lt_of_le_of_lt upper (small range listed)

theorem isAsciiNamePart_of_isNameStart {c : Char} (start : isNameStart c = true) :
    isAsciiNamePart c = true := by
  simp only [isNameStart, isAsciiNamePart, isAsciiWordChar, Bool.or_eq_true] at start ⊢
  rcases start with ((lower | upper) | underscore) | dollar
  · exact Or.inl (Or.inl (Or.inl (Or.inl lower)))
  · exact Or.inl (Or.inl (Or.inl (Or.inr upper)))
  · exact Or.inl (Or.inr underscore)
  · exact Or.inr dollar

theorem isNamePart_of_isAsciiNamePart {c : Char} (part : isAsciiNamePart c = true) :
    isNamePart c = true := by
  simp only [isAsciiNamePart, isNamePart, Bool.or_eq_true] at part ⊢
  rcases part with word | dollar
  · left
    rw [isWordChar_of_ascii (toNat_lt_of_isAsciiWordChar word), word]
  · exact Or.inr dollar

theorem isIdentifierChar_of_isAsciiNamePart {c : Char} (part : isAsciiNamePart c = true) :
    isIdentifierChar c = true := by
  rw [isIdentifierChar, show (isAsciiWordChar c || c == '$') = true from part, Bool.true_or]

theorem isDigit_of_isNameStart {c : Char} (start : isNameStart c = true) : c.isDigit = false := by
  simp only [isNameStart, Char.le_def, UInt32.le_iff_toNat_le, Bool.or_eq_true, Bool.and_eq_true,
    decide_eq_true_eq, beq_iff_eq] at start
  simp only [Char.isDigit, Bool.and_eq_false_iff, decide_eq_false_iff_not, ge_iff_le,
    UInt32.le_iff_toNat_le]
  rcases start with ((lower | upper) | rfl) | rfl
  · right
    exact Nat.not_le.mpr (Nat.lt_of_lt_of_le (by decide) lower.1)
  · right
    exact Nat.not_le.mpr (Nat.lt_of_lt_of_le (by decide) upper.1)
  · decide
  · decide

theorem foldlM_asciiName {parts : Text} (inside : ∀ c ∈ parts, isAsciiNamePart c = true) :
    parts.foldlM OperandState.step .name = some .name := by
  induction parts with
  | nil => rfl
  | cons c rest ih =>
    obtain ⟨here, later⟩ := List.forall_mem_cons.mp inside
    rw [List.foldlM_cons, OperandState.step, if_pos (isNamePart_of_isAsciiNamePart here)]
    exact ih later

section

variable {name : Text} (ascii : name.isAsciiName = true)

include ascii

theorem exists_cons_of_isAsciiName :
    ∃ c rest, name = c :: rest ∧ isNameStart c = true ∧ ∀ d ∈ rest, isAsciiNamePart d = true := by
  cases name with
  | nil => cases ascii
  | cons c rest =>
    obtain ⟨start, parts⟩ := (Bool.and_eq_true _ _).mp ascii
    exact ⟨c, rest, rfl, start, List.all_eq_true.mp parts⟩

theorem exists_identifier : ∃ identifier : Identifier, identifier.text = name := by
  obtain ⟨c, rest, rfl, start, parts⟩ := exists_cons_of_isAsciiName ascii
  refine ⟨⟨c :: rest, List.cons_ne_nil c rest, ?_, isDigit_of_isNameStart start⟩, rfl⟩
  rw [List.forall_mem_cons]
  constructor
  · exact isIdentifierChar_of_isAsciiNamePart (isAsciiNamePart_of_isNameStart start)
  · exact fun d member => isIdentifierChar_of_isAsciiNamePart (parts d member)

theorem isSimple_of_isAsciiName : Condition.isSimple name = true := by
  obtain ⟨c, rest, rfl, start, parts⟩ := exists_cons_of_isAsciiName ascii
  have noMark : c ≠ '!' := by
    rintro rfl
    cases start
  have noNewline : (c :: rest).getLast? ≠ some '\n' := by
    intro last
    rcases List.mem_cons.mp (List.mem_of_getLast? last) with rfl | member
    · cases start
    · cases parts '\n' member
  have reads : (c :: rest).foldlM OperandState.step .start = some .name := by
    rw [List.foldlM_cons, OperandState.step, if_neg noMark, if_pos start]
    exact foldlM_asciiName parts
  rw [Condition.isSimple, Text.isSimpleOperand, Text.dropFinalNewline, if_neg noNewline, reads]
  rfl

end

/-- The condition on a name under which the right side of an operator counts. -/
def Operator.guard : Operator → Text → Text
  | and, name => name
  | or, name => '!' :: name
  | nullish, name => name ++ " == null".toList

def ClassUse.under (guard : Text) (use : ClassUse) : ClassUse :=
  ⟨use.classes, some (match use.condition with
    | none => guard
    | some condition => guard ++ " && ".toList ++ Condition.group condition)⟩

/-- A condition that may stand beside `&&` needs no brackets there. -/
theorem Phrase.group_eq {binding : Binding} {text : Text} (phrase : Phrase binding text)
    (admits : Operator.and.admits binding = true) : Condition.group text = text := by
  have unconditional : binding ≠ .conditional := by
    rintro rfl
    cases admits
  have hidesOr : binding.shows .or = false := hides_of_admits admits rfl
  have hidesNullish : binding.shows .nullish = false := hides_of_admits admits rfl
  have noOr : findOperator orToken 0 text = none := phrase.findOperator_eq_none hidesOr
  have noNullish : findOperator nullishToken 0 text = none :=
    phrase.findOperator_eq_none hidesNullish
  rw [Condition.group, phrase.isConditional_eq_false unconditional, hasOperator, List.any_cons,
    List.any_cons, noOr, noNullish]
  rfl

theorem guardAll_eq_map {guard : Text} (whole : Condition.group guard = guard)
    (uses : List ClassUse) : guardAll guard uses = uses.map (ClassUse.under guard) := by
  apply List.map_congr_left
  intro use _
  unfold ClassUse.under
  cases use.condition with
  | none => rfl
  | some condition => rw [Condition.conjoin, whole]

/-- Trimming takes off a conditional expression only what is blank behind its colon. -/
theorem exists_trim_chosen {condition : Text} (tidy : condition.IsTidy) (yes no : Text) :
    ∃ rest : Text, rest.trim = no.trim ∧
      Text.trim (chosen condition yes no) = branching condition yes rest := by
  obtain ⟨blanks, are, decomposed⟩ := Text.exists_trimEnd (' ' :: no)
  generalize shown : Text.trimEnd (' ' :: no) = rest at decomposed
  have last : ∀ c ∈ rest.getLast?, isBlank c = false := shown ▸ Text.last_trimEnd (' ' :: no)
  have same : Text.trim (rest ++ blanks) = rest.trim := Text.trim_padded Text.isBlanks_nil are
  have trimmed : Text.IsTrimmed (branching condition yes rest) := by
    constructor
    · rw [branching, Text.head?_append_of_filled tidy.filled]
      exact (Text.isTrimmed_of_trim_eq tidy.trimmed).head
    · have shape : branching condition yes rest =
          (condition ++ " ? ".toList ++ yes ++ " :".toList) ++ rest := by
        simp only [branching, List.append_assoc]
      rw [shape]
      cases rest with
      | nil =>
        rw [List.append_nil, Text.getLast?_append_of_filled _ (by decide)]
        intro c ends
        cases ends
        decide
      | cons c behind =>
        rw [Text.getLast?_append_of_filled _ (List.cons_ne_nil c behind)]
        exact last
  refine ⟨rest, ?_, ?_⟩
  · rw [← same, ← decomposed, trim_blank_left]
  · have padded : chosen condition yes no = [] ++ branching condition yes rest ++ blanks := by
      rw [chosen_eq_branching, decomposed]
      simp only [branching, List.nil_append, List.append_assoc]
    rw [padded]
    exact trimmed.trim_padded Text.isBlanks_nil are

section

variable {name : Text} (ascii : name.isAsciiName = true)

include ascii

theorem group_guard (op : Operator) : Condition.group (op.guard name) = op.guard name := by
  obtain ⟨identifier, rfl⟩ := exists_identifier ascii
  cases op with
  | and => exact (Formula.name identifier).phrase.group_eq rfl
  | or => exact (Formula.not (.name identifier)).phrase.group_eq rfl
  | nullish => exact (Formula.isNull (.name identifier)).phrase.group_eq rfl

theorem render_eq_guard (op : Operator) : op.render name = op.guard name := by
  have simple := isSimple_of_isAsciiName ascii
  cases op with
  | and => rfl
  | or => rw [Operator.render, Condition.negate, if_pos simple, Operator.guard]
  | nullish => rw [Operator.render, Condition.isNull, if_pos simple, Operator.guard]

theorem guardAll_render (op : Operator) (uses : List ClassUse) :
    guardAll (op.render name) uses = uses.map (ClassUse.under (op.guard name)) := by
  rw [render_eq_guard ascii, guardAll_eq_map (group_guard ascii op)]

theorem phrase_of_isAsciiName : Phrase .tight name := by
  obtain ⟨identifier, rfl⟩ := exists_identifier ascii
  exact (Formula.name identifier).phrase

theorem beginsOperand_of_isAsciiName : name.BeginsOperand := by
  obtain ⟨identifier, rfl⟩ := exists_identifier ascii
  exact (Formula.name identifier).beginsOperand

theorem stripParens_of_isAsciiName : stripParens name = name := by
  obtain ⟨identifier, rfl⟩ := exists_identifier ascii
  exact (Formula.name identifier).stripParens_text

/-- Between brackets, the right side of an operator is read for itself. -/
theorem expressionUses_joined (op : Operator) {operand : Text} (contained : operand.IsSelfContained) :
    expressionUses (op.joined name (Condition.bracketed operand)) =
      (expressionUses (stripParens operand)).map (ClassUse.under (op.guard name)) := by
  have front := phrase_of_isAsciiName ascii
  have whole : Phrase (.operator op) (op.joined name (Condition.bracketed operand)) :=
    front.joined (Phrase.ofBrackets contained) rfl rfl
  rw [expressionUses_eq, whole.tidy.trimmed,
    usesOf_joined_bracketed front rfl rfl (beginsOperand_of_isAsciiName ascii) contained,
    stripParens_of_isAsciiName ascii]
  exact guardAll_render ascii op _

/-- A conditional expression on a name has the uses of its branches, those of the first under the name
and those of the second under its negation. -/
theorem usesOf_chosen {m : Type → Type} [Monad m] [LawfulMonad m] {uses : Text → m (List ClassUse)}
    (trims : ∀ text : Text, uses text.trim = uses text) {yes : Text} (whenTrue : IsBranch yes)
    (no : Text) :
    Shape.usesOf uses (Text.trim (chosen name yes no)) = (do
      let found ← uses yes
      let others ← uses no
      pure (found.map (ClassUse.under name) ++ others.map (ClassUse.under ('!' :: name)))) := by
  have test := phrase_of_isAsciiName ascii
  have stripped := stripParens_of_isAsciiName ascii
  obtain ⟨rest, restTrimmed, whole⟩ := exists_trim_chosen test.tidy yes no
  have trimmed : Text.trim (branching name yes rest) = branching name yes rest := by
    rw [← whole, Text.trim_trim]
  have filled : stripParens name ≠ [] := by
    rw [stripped]
    exact test.tidy.filled
  have padded : Text.trim (' ' :: yes ++ [' ']) = yes.trim :=
    Text.trim_padded isBlanks_blank isBlanks_blank
  have first : uses (' ' :: yes ++ [' ']) = uses yes := by rw [← trims, padded, trims]
  have second : uses rest = uses no := by rw [← trims, restTrimmed, trims]
  have whenHolds : ∀ found, guardAll name found = found.map (ClassUse.under name) :=
    guardAll_eq_map (group_guard ascii .and)
  have otherwise : ∀ found, guardAll (Condition.negate name) found =
      found.map (ClassUse.under ('!' :: name)) := guardAll_render ascii .or
  rw [whole,
    usesOf_branching test (by simp) whenTrue rest (beginsOperand_of_isAsciiName ascii) filled trimmed,
    stripped, Shape.resolve, first, second]
  simp only [whenHolds, otherwise]

theorem expressionUses_chosen {yes : Text} (whenTrue : IsBranch yes) (no : Text) :
    expressionUses (chosen name yes no) =
      (expressionUses yes).map (ClassUse.under name) ++
        (expressionUses no).map (ClassUse.under ('!' :: name)) := by
  rw [expressionUses_eq, usesOf_chosen ascii expressionUses_trim whenTrue no]
  rfl

theorem usesWithin_chosen {yes : Text} (whenTrue : IsBranch yes) (no : Text) (levels : Nat) :
    usesWithin (levels + 1) (chosen name yes no) = (do
      let found ← usesWithin levels yes
      let others ← usesWithin levels no
      pure (found.map (ClassUse.under name) ++ others.map (ClassUse.under ('!' :: name)))) := by
  rw [usesWithin, usesOf_chosen ascii (usesWithin_trim levels) whenTrue no]

end

theorem matchOf_map (change : ClassUse → ClassUse) (uses : List ClassUse) :
    matchOf (.ok (uses.map change)) = (matchOf (.ok uses)).map (List.map change) := by
  cases uses with
  | nil => rfl
  | cons use rest => rfl

theorem matchOf_append (first second : List ClassUse) :
    matchOf (.ok (first ++ second)) =
      Option.merge (· ++ ·) (matchOf (.ok first)) (matchOf (.ok second)) := by
  cases first with
  | nil =>
    cases second with
    | nil => rfl
    | cons use rest => rfl
  | cons use rest =>
    cases second with
    | nil => rw [List.append_nil]; rfl
    | cons other behind => rfl

section

variable {name : Text} (ascii : name.isAsciiName = true) {limit : Int}

include ascii

theorem parseForm_joined (op : Operator) {operand : Text} (contained : operand.IsSelfContained)
    (unbracketed : stripParens operand = operand.trim)
    (enough : ((op.joined name (Condition.bracketed operand)).length : Int) ≤ limit) :
    parseForm .any limit (op.joined name (Condition.bracketed operand)) =
      (parseForm .any limit operand).map (List.map (ClassUse.under (op.guard name))) := by
  have inside : (operand.length : Int) ≤ limit := by
    simp only [Operator.joined, Condition.bracketed, List.length_append, List.length_cons] at enough
    omega
  rw [parseForm_eq enough, parseForm_eq inside, expressionUses_joined ascii op contained,
    unbracketed, expressionUses_trim]
  exact matchOf_map _ _

theorem parseForm_chosen {yes no : Text} (whenTrue : IsBranch yes)
    (enough : ((chosen name yes no).length : Int) ≤ limit) :
    parseForm .any limit (chosen name yes no) =
      Option.merge (· ++ ·) ((parseForm .any limit yes).map (List.map (ClassUse.under name)))
        ((parseForm .any limit no).map (List.map (ClassUse.under ('!' :: name)))) := by
  have lengths : yes.length + no.length ≤ (chosen name yes no).length := by
    simp only [chosen, List.length_append]
    omega
  have first : (yes.length : Int) ≤ limit := by omega
  have second : (no.length : Int) ≤ limit := by omega
  rw [parseForm_eq enough, parseForm_eq first, parseForm_eq second,
    expressionUses_chosen ascii whenTrue no, ← matchOf_map, ← matchOf_map]
  exact matchOf_append _ _

end

/-- A name with an operator and brackets around any self-contained text, and a name with two branches
of which the first holds no question mark or colon without its partner, are read by parts. -/
theorem parse_composes {name : Text} (ascii : name.isAsciiName = true) (limit : Int) :
    (∀ (op : Operator) (operand : Text), operand.IsSelfContained →
      stripParens operand = operand.trim →
      ((op.joined name (Condition.bracketed operand)).length : Int) ≤ limit →
      parseForm .any limit (op.joined name (Condition.bracketed operand)) =
        (parseForm .any limit operand).map (List.map (ClassUse.under (op.guard name)))) ∧
    ∀ yes no : Text, yes.IsSelfContained → yes.PairsBranches →
      ((chosen name yes no).length : Int) ≤ limit →
      parseForm .any limit (chosen name yes no) =
        Option.merge (· ++ ·) ((parseForm .any limit yes).map (List.map (ClassUse.under name)))
          ((parseForm .any limit no).map (List.map (ClassUse.under ('!' :: name)))) := by
  constructor
  · intro op operand contained unbracketed enough
    exact parseForm_joined ascii op contained unbracketed enough
  · intro yes no contained pairs enough
    exact parseForm_chosen ascii (contained.isBranch pairs) enough

theorem parse_composes_nested :
    parseForm .any 200 "c && (x || 'a')".toList = some [⟨"a".toList, some "c && !x".toList⟩] ∧
      parseForm .any 200 "c ? y ? 'a' : {b} : 'd'".toList =
        some [⟨"a".toList, some "c && y".toList⟩, ⟨"b".toList, some "c && !y && b".toList⟩,
          ⟨"d".toList, some "!c".toList⟩] := by
  have ascii : Text.isAsciiName "c".toList = true := by decide
  obtain ⟨operators, branches⟩ := parse_composes ascii 200
  constructor
  · have unbracketed : stripParens "x || 'a'".toList = Text.trim "x || 'a'".toList :=
      stripParens_of_unwrap (by decide)
    exact (operators .and "x || 'a'".toList ⟨by decide, by decide⟩ unbracketed (by decide)).trans
      (by decide +kernel)
  · have pairs : Text.PairsBranches "y ? 'a' : {b}".toList := BranchMark.Paired.nest .nil .nil
    exact (branches "y ? 'a' : {b}".toList "'d'".toList ⟨by decide, by decide⟩ pairs
      (by decide)).trans (by decide +kernel)

end ClassUsage

import ClassUsage.Expression.Shape
import ClassUsage.Proofs.EnclosingBrackets
import ClassUsage.Proofs.Phrases

set_option autoImplicit false

/-! How phrases are read: which brackets are taken off, and where operators and branches are found. -/
namespace ClassUsage

/-- A bracket at the start encloses the whole text only if nothing stands behind its closing one. -/
theorem unwrap_of_trim (bracket : Bracket) {text inner rest : Text}
    (contained : inner.IsSelfContained) (trimmed : text.trim = bracket.enclose inner ++ rest) :
    unwrap bracket bracket text = if rest.isEmpty then some inner else none := by
  have shape : text.trim = bracket.opener :: (inner ++ bracket.closer :: rest) := by
    rw [trimmed, Bracket.enclose]
    simp only [List.append_assoc, List.cons_append, List.nil_append]
  have closes := Scan.closesAfter_of_isSelfContained contained bracket rest
  unfold unwrap
  rw [shape]
  dsimp only
  rw [if_pos rfl, closes]
  cases rest with
  | nil => rfl
  | cons c behind => rfl

theorem trim_bracketed (text : Text) :
    Text.trim (Condition.bracketed text) = Condition.bracketed text := trim_enclose .round text

/-- A phrase with something behind it is not enclosed in brackets. -/
theorem Phrase.unwrap_append {binding : Binding} {text more : Text} (phrase : Phrase binding text)
    (filled : more ≠ []) (trimmed : Text.trim (text ++ more) = text ++ more) :
    unwrap .round .round (text ++ more) = none := by
  rcases phrase.round with notRound | ⟨inner, rest, contained, opens⟩
  · apply unwrap_eq_none_of_head
    rw [trimmed, Text.head?_append_of_filled phrase.tidy.filled]
    exact notRound
  · have shape : Text.trim (text ++ more) = Condition.bracketed inner ++ (rest ++ more) := by
      rw [trimmed, opens, List.append_assoc]
    have notEmpty : (rest ++ more).isEmpty = false := by simp [filled]
    rw [unwrap_of_trim .round contained shape, notEmpty]
    rfl

theorem stripParens_bracketed {text : Text} (contained : text.IsSelfContained) :
    stripParens (Condition.bracketed text) = stripParens text :=
  stripParens_of_enclosed (unwrap_enclose .round contained)

theorem isBlanks_blank : Text.IsBlanks [' '] := by
  intro c member
  rw [List.mem_singleton.mp member]
  decide

theorem trim_blank_left (text : Text) : Text.trim (' ' :: text) = text.trim := by
  have padded : Text.trim ([' '] ++ text ++ []) = text.trim :=
    Text.trim_padded isBlanks_blank Text.isBlanks_nil
  rwa [List.append_nil] at padded

theorem trim_blank_right (text : Text) : Text.trim (text ++ [' ']) = text.trim :=
  Text.trim_padded Text.isBlanks_nil isBlanks_blank

theorem Phrase.findOperator_eq_none {binding : Binding} {text : Text} (phrase : Phrase binding text)
    {op : Operator} (hidden : binding.shows op = false) : findOperator op.token 0 text = none :=
  ClassUsage.findOperator_eq_none (phrase.hides op hidden none)

theorem Phrase.isConditional_eq_false {binding : Binding} {text : Text} (phrase : Phrase binding text)
    (unconditional : binding ≠ .conditional) : isConditional text = false :=
  ClassUsage.isConditional_eq_false (phrase.unconditional unconditional none (by decide))

theorem isSome_findOperator_joined {binding : Binding} {left : Text} (front : Phrase binding left)
    (op : Operator) (right : Text) :
    (findOperator op.token 0 (op.joined left right)).isSome = true := by
  rw [findOperator_eq, Option.isSome_map, Operator.joined, List.append_assoc]
  apply Scan.isSome_findNeutral_append
  rw [front.clean.closed]
  cases op with
  | and => rfl
  | or => rfl
  | nullish => rfl

/-- The operator between two phrases is the first one if it is not in the left phrase. -/
theorem findOperator_joined {first second : Binding} {left right : Text} (front : Phrase first left)
    (back : Phrase second right) {op : Operator} (leading : first.shows op = false) :
    findOperator op.token 0 (op.joined left right) = some ⟨left.length + 1, left, right⟩ := by
  have passes := front.hides op leading none
  have behind : Scan.findNeutral (fun _ => beginsWith op.token) (0 + left.length)
      (left.getLast?.or none) Scan.fresh (op.spaced ++ right) =
        some ([' '], op.token ++ ' ' :: right) := by
    cases op with
    | and => rfl
    | or => rfl
    | nullish => rfl
  have before : Text.trim (left ++ [' ']) = left := by
    rw [trim_blank_right, front.tidy.trimmed]
  have after : Text.trim ((op.token ++ ' ' :: right).drop op.token.length) = right := by
    rw [List.drop_left, trim_blank_left, back.tidy.trimmed]
  rw [findOperator_eq, Operator.joined, List.append_assoc, Scan.findNeutral_append passes,
    front.clean.closed, behind]
  simp only [Option.map_some, before, after, List.length_append, List.length_cons, List.length_nil,
    Nat.zero_add]

/-- The text begins neither an object nor a string literal. -/
def Text.BeginsOperand (text : Text) : Prop :=
  ∃ c rest, text = c :: rest ∧ isQuote c = false ∧ c ≠ '{'

theorem Text.BeginsOperand.append {text : Text} (begins : text.BeginsOperand) (more : Text) :
    Text.BeginsOperand (text ++ more) := by
  obtain ⟨c, rest, rfl, noQuote, noBrace⟩ := begins
  exact ⟨c, rest ++ more, rfl, noQuote, noBrace⟩

theorem beginsOperand_bracketed (text : Text) : (Condition.bracketed text).BeginsOperand :=
  ⟨'(', text ++ [')'], rfl, by decide, by decide⟩

theorem objectUses_eq_nil {text : Text} (trimmed : text.trim = text) (head : text.head? ≠ some '{') :
    objectUses text = [] := by
  have notEnclosed : unwrap .curly .curly text = none := by
    apply unwrap_eq_none_of_head
    rw [trimmed]
    exact head
  unfold objectUses
  rw [notEnclosed]

/-- The text begins no string literal. -/
def Text.StartsUnquoted (text : Text) : Prop := ∀ c ∈ text.head?, isQuote c = false

theorem Text.BeginsOperand.startsUnquoted {text : Text} (begins : text.BeginsOperand) :
    text.StartsUnquoted := by
  obtain ⟨c, rest, rfl, noQuote, -⟩ := begins
  intro d head
  cases head
  exact noQuote

theorem literalBody_eq_none {text : Text} (trimmed : text.trim = text)
    (unquoted : text.StartsUnquoted) : literalBody text = none := by
  unfold literalBody
  rw [trimmed]
  cases text with
  | nil => rfl
  | cons c rest =>
    rw [enclosedBody, unquoted c rfl]
    rfl

namespace Shape

section

variable {m : Type → Type} [Monad m] {uses : Text → m (List ClassUse)} {text : Text}
  {reading : Text → Option Shape} {others : List (Text → Option Shape)}

theorem firstUses_skip (unread : reading text = none) :
    firstUses uses text (reading :: others) = firstUses uses text others := by
  rw [firstUses, unread]

theorem firstUses_eq_nil (unread : ∀ other ∈ others, other text = none) :
    firstUses uses text others = pure [] := by
  induction others with
  | nil => rfl
  | cons other others ih =>
    rw [firstUses_skip (unread other List.mem_cons_self)]
    exact ih fun later member => unread later (List.mem_cons_of_mem other member)

variable [LawfulMonad m]

theorem firstUses_found {shape : Shape} {found : List ClassUse} (read : reading text = some shape)
    (resolved : shape.resolve uses = pure found) (filled : found ≠ []) :
    firstUses uses text (reading :: others) = pure found := by
  rw [firstUses, read]
  dsimp only
  rw [resolved, pure_bind]
  cases found with
  | nil => exact absurd rfl filled
  | cons use rest => rfl

/-- The only reading of a text decides about its uses, even if it finds none. -/
theorem firstUses_eq_resolve {shape : Shape} (read : reading text = some shape)
    (unread : ∀ other ∈ others, other text = none) :
    firstUses uses text (reading :: others) = shape.resolve uses := by
  have kept : (fun found : List ClassUse =>
      if found.isEmpty then firstUses uses text others else pure found) = pure := by
    funext found
    cases found with
    | nil => exact firstUses_eq_nil unread
    | cons use rest => rfl
  rw [firstUses, read]
  dsimp only
  rw [kept, bind_pure]

theorem firstUses_readings (noObject : objectUses text = []) :
    firstUses uses text readings = firstUses uses text readings.tail := by
  rw [readings, firstUses, object?, noObject]
  dsimp only
  rw [resolve, pure_bind]
  rfl

/-- A text that begins an operand is read as an operator expression, a conditional one or a
template. -/
theorem usesOf_eq (tidy : text.IsTidy) (begins : text.BeginsOperand)
    (unmixed : mixesNullish text = false) :
    usesOf uses text =
      firstUses uses text [conjunction?, disjunction?, nullish?, conditional?, template?] := by
  have notEmpty : text.isEmpty = false := List.isEmpty_eq_false_iff.mpr tidy.filled
  have noObject : objectUses text = [] := by
    apply objectUses_eq_nil tidy.trimmed
    obtain ⟨c, rest, rfl, -, noBrace⟩ := begins
    exact fun head => noBrace (Option.some.inj head)
  have noString : string? text = none := by
    rw [string?, literalBody_eq_none tidy.trimmed begins.startsUnquoted]
    rfl
  rw [usesOf, notEmpty, unmixed, firstUses_readings noObject]
  exact firstUses_skip noString

end

theorem template?_eq_none {text : Text} (unquoted : text.StartsUnquoted) : template? text = none := by
  unfold template? Template.read
  split
  · rename_i body
    exact absurd (unquoted '\x60' rfl) (by decide)
  · rfl

theorem conditional?_eq_none {text : Text} (unconditional : isConditional text = false) :
    conditional? text = none := by
  have noQuestion : splitQuestion text = none :=
    Option.isNone_iff_eq_none.mp (Option.isSome_eq_false_iff.mp unconditional)
  unfold conditional?
  rw [noQuestion]

end Shape

theorem sides_eq_none_of_absent {token text : Text} (absent : findOperator token 0 text = none)
    (looser : List Text) : Shape.sides token looser text = none := by
  unfold Shape.sides
  rw [absent]
  split
  · rfl
  · rfl

theorem sides_eq_none_of_looser {token text : Text} {looser : List Text}
    (holds : hasOperator looser text = true) : Shape.sides token looser text = none := by
  unfold Shape.sides
  rw [holds, Bool.or_true]
  rfl

/-- A text without operators at its top level, and no literal, is read as an object or not at all. -/
theorem Phrase.usesOf_eq_objectUses {text : Text} (phrase : Phrase .tight text)
    (unquoted : text.StartsUnquoted) {m : Type → Type} [Monad m] [LawfulMonad m]
    (uses : Text → m (List ClassUse)) : Shape.usesOf uses text = pure (objectUses text) := by
  have absent : ∀ op : Operator, findOperator op.token 0 text = none :=
    fun op => phrase.findOperator_eq_none rfl
  have noAnd : findOperator andToken 0 text = none := absent .and
  have noOr : findOperator orToken 0 text = none := absent .or
  have noNullish : findOperator nullishToken 0 text = none := absent .nullish
  have unmixed : mixesNullish text = false := by
    simp only [mixesNullish, hasOperator, List.any_cons, List.any_nil, noNullish,
      Option.isSome_none, Bool.or_self, Bool.and_false, Bool.false_and]
  have notEmpty : text.isEmpty = false := List.isEmpty_eq_false_iff.mpr phrase.tidy.filled
  have unread : ∀ reading ∈ Shape.readings.tail, reading text = none := by
    simp only [Shape.readings, List.tail_cons, List.forall_mem_cons, List.not_mem_nil, false_implies,
      implies_true, and_true]
    refine ⟨?_, ?_, ?_, ?_, ?_, Shape.template?_eq_none unquoted⟩
    · rw [Shape.string?, literalBody_eq_none phrase.tidy.trimmed unquoted]
      rfl
    · rw [Shape.conjunction?, sides_eq_none_of_absent noAnd]
      rfl
    · rw [Shape.disjunction?, sides_eq_none_of_absent noOr]
      rfl
    · rw [Shape.nullish?, sides_eq_none_of_absent noNullish]
      rfl
    · exact Shape.conditional?_eq_none (phrase.isConditional_eq_false (by simp))
  have read : Shape.object? text = some (.literal (objectUses text)) := rfl
  rw [Shape.usesOf, notEmpty, unmixed]
  exact Shape.firstUses_eq_resolve read unread

/-- The condition under which the right side of an operator counts. -/
def Operator.render : Operator → Text → Text
  | and, condition => condition
  | or, condition => Condition.negate condition
  | nullish, condition => Condition.isNull condition

section

variable {first second : Binding} {left right : Text} {op : Operator}
  (front : Phrase first left) (back : Phrase second right) (admitsFirst : op.admits first = true)
  (admitsSecond : op.admits second = true)

include front back admitsFirst admitsSecond

theorem mixesNullish_joined : mixesNullish (op.joined left right) = false := by
  have whole := front.joined back admitsFirst admitsSecond
  have absent : ∀ other, (Binding.operator op).shows other = false →
      (findOperator other.token 0 (op.joined left right)).isSome = false := by
    intro other hidden
    rw [whole.findOperator_eq_none hidden]
    rfl
  unfold mixesNullish hasOperator
  simp only [List.any_cons, List.any_nil, Bool.or_false, Bool.and_eq_false_iff, Bool.or_eq_false_iff]
  cases op with
  | and => exact Or.inl (Or.inr (absent .nullish rfl))
  | or => exact Or.inl (Or.inr (absent .nullish rfl))
  | nullish => exact Or.inr ⟨absent .and rfl, absent .or rfl⟩

theorem sides_joined (leading : first.shows op = false) {looser : List Text}
    (tightest : hasOperator looser (op.joined left right) = false) :
    Shape.sides op.token looser (op.joined left right) = some (stripParens left, right) := by
  have notConditional : isConditional (op.joined left right) = false :=
    (front.joined back admitsFirst admitsSecond).isConditional_eq_false (by simp)
  have leftFilled : left.isEmpty = false := List.isEmpty_eq_false_iff.mpr front.tidy.filled
  have rightFilled : right.isEmpty = false := List.isEmpty_eq_false_iff.mpr back.tidy.filled
  unfold Shape.sides
  rw [notConditional, tightest, findOperator_joined front back leading]
  dsimp only
  rw [leftFilled, rightFilled]
  rfl

/-- An operator expression is read off its first operator. -/
theorem usesOf_joined (leading : first.shows op = false) (begins : left.BeginsOperand)
    {m : Type → Type} [Monad m] [LawfulMonad m] (uses : Text → m (List ClassUse)) :
    Shape.usesOf uses (op.joined left right) =
      (Shape.guarded (op.render (stripParens left)) right).resolve uses := by
  have whole := front.joined back admitsFirst admitsSecond
  have absent : ∀ other, (Binding.operator op).shows other = false →
      findOperator other.token 0 (op.joined left right) = none :=
    fun other hidden => whole.findOperator_eq_none hidden
  have startsOperand : Text.BeginsOperand (op.joined left right) := by
    rw [Operator.joined, List.append_assoc]
    exact begins.append _
  have read : ∀ looser, hasOperator looser (op.joined left right) = false →
      Shape.sides op.token looser (op.joined left right) = some (stripParens left, right) :=
    fun _ => sides_joined front back admitsFirst admitsSecond leading
  have noConditional : Shape.conditional? (op.joined left right) = none :=
    Shape.conditional?_eq_none (whole.isConditional_eq_false (by simp))
  have noTemplate : Shape.template? (op.joined left right) = none :=
    Shape.template?_eq_none startsOperand.startsUnquoted
  have noDisjunction : (Binding.operator op).shows .or = false →
      Shape.disjunction? (op.joined left right) = none := by
    intro hidden
    have noOr : findOperator orToken 0 _ = none := absent .or hidden
    rw [Shape.disjunction?, sides_eq_none_of_absent noOr]
    rfl
  have noNullish : (Binding.operator op).shows .nullish = false →
      Shape.nullish? (op.joined left right) = none := by
    intro hidden
    have absentNullish : findOperator nullishToken 0 _ = none := absent .nullish hidden
    rw [Shape.nullish?, sides_eq_none_of_absent absentNullish]
    rfl
  rw [Shape.usesOf_eq whole.tidy startsOperand
    (mixesNullish_joined front back admitsFirst admitsSecond)]
  cases op with
  | and =>
    have tightest : hasOperator [orToken, nullishToken] (Operator.and.joined left right) = false := by
      have noOr : findOperator orToken 0 _ = none := absent .or rfl
      have absentNullish : findOperator nullishToken 0 _ = none := absent .nullish rfl
      simp only [hasOperator, List.any_cons, List.any_nil, noOr, absentNullish, Option.isSome_none,
        Bool.or_self]
    apply Shape.firstUses_eq_resolve
    · rw [Shape.conjunction?, show andToken = Operator.and.token from rfl, read _ tightest]
      rfl
    · simp only [List.forall_mem_cons, List.not_mem_nil, false_implies, implies_true, and_true]
      exact ⟨noDisjunction rfl, noNullish rfl, noConditional, noTemplate⟩
  | or =>
    have looser : hasOperator [orToken, nullishToken] (Operator.or.joined left right) = true := by
      have first_or : findOperator orToken 0 _ = _ := findOperator_joined front back leading
      simp only [hasOperator, List.any_cons, first_or, Option.isSome_some, Bool.true_or]
    have noConjunction : Shape.conjunction? (Operator.or.joined left right) = none := by
      rw [Shape.conjunction?, sides_eq_none_of_looser looser]
      rfl
    rw [Shape.firstUses_skip noConjunction]
    apply Shape.firstUses_eq_resolve
    · rw [Shape.disjunction?, show orToken = Operator.or.token from rfl, read _ rfl]
      rfl
    · simp only [List.forall_mem_cons, List.not_mem_nil, false_implies, implies_true, and_true]
      exact ⟨noNullish rfl, noConditional, noTemplate⟩
  | nullish =>
    have noConjunction : Shape.conjunction? (Operator.nullish.joined left right) = none := by
      have noAnd : findOperator andToken 0 _ = none := absent .and rfl
      rw [Shape.conjunction?, sides_eq_none_of_absent noAnd]
      rfl
    rw [Shape.firstUses_skip noConjunction, Shape.firstUses_skip (noDisjunction rfl)]
    apply Shape.firstUses_eq_resolve
    · rw [Shape.nullish?, show nullishToken = Operator.nullish.token from rfl, read _ rfl]
      rfl
    · simp only [List.forall_mem_cons, List.not_mem_nil, false_implies, implies_true, and_true]
      exact ⟨noConditional, noTemplate⟩

end

/-- All brackets around the right side of an operator are taken off. -/
theorem usesOf_joined_bracketed {first : Binding} {left operand : Text} {op : Operator}
    (front : Phrase first left) (admits : op.admits first = true) (leading : first.shows op = false)
    (begins : left.BeginsOperand) (contained : operand.IsSelfContained)
    {m : Type → Type} [Monad m] [LawfulMonad m] (uses : Text → m (List ClassUse)) :
    Shape.usesOf uses (op.joined left (Condition.bracketed operand)) =
      uses (stripParens operand) >>= fun found =>
        pure (guardAll (op.render (stripParens left)) found) := by
  have back := Phrase.ofBrackets contained
  have noLiteral : literalBody (Condition.bracketed operand) = none :=
    literalBody_eq_none back.tidy.trimmed (beginsOperand_bracketed operand).startsUnquoted
  rw [usesOf_joined front back admits rfl leading begins, Shape.resolve, noLiteral,
    stripParens_bracketed contained]

theorem literalBody_quoted {mark : Char} {body : Text} (quote : isQuote mark = true)
    (notTemplate : mark ≠ '\x60') (plain : body.IsQuotable mark) (filled : body.trim ≠ []) :
    literalBody (mark :: body ++ [mark]) = some body.trim := by
  have notBlank : body.trim.isEmpty = false := List.isEmpty_eq_false_iff.mpr filled
  rw [literalBody_between quote, plain.holdsBareMark, beq_eq_false_iff_ne.mpr notTemplate, notBlank]
  rfl

theorem usesOf_literal {body : Text} (plain : body.IsQuotable '\x27') (filled : body.trim ≠ [])
    (uses : Text → Except TooDeep (List ClassUse)) :
    Shape.usesOf uses ('\x27' :: body ++ ['\x27']) = .ok [⟨body.trim, none⟩] := by
  have whole := Phrase.literal rfl plain
  have noNullish : findOperator nullishToken 0 ('\x27' :: body ++ ['\x27']) = none :=
    ClassUsage.findOperator_eq_none (whole.hides .nullish rfl none)
  have unmixed : mixesNullish ('\x27' :: body ++ ['\x27']) = false := by
    simp only [mixesNullish, hasOperator, List.any_cons, List.any_nil, noNullish, Option.isSome_none,
      Bool.or_self, Bool.and_false, Bool.false_and]
  have noObject : objectUses ('\x27' :: body ++ ['\x27']) = [] := by
    apply objectUses_eq_nil whole.tidy.trimmed
    exact fun head => absurd (Option.some.inj head) (by decide)
  have string : Shape.string? ('\x27' :: body ++ ['\x27']) =
      some (.literal [⟨body.trim, none⟩]) := by
    rw [Shape.string?, literalBody_quoted rfl (by decide) plain filled]
    rfl
  rw [Shape.usesOf, unmixed, Shape.firstUses_readings noObject]
  exact Shape.firstUses_found string rfl (List.cons_ne_nil _ _)

def branching (condition yes rest : Text) : Text :=
  condition ++ (" ? ".toList ++ (yes ++ " :".toList ++ rest))

theorem chosen_eq_branching (condition yes no : Text) :
    chosen condition yes no = branching condition yes (' ' :: no) := by
  have colon : " : ".toList ++ no = " :".toList ++ ' ' :: no := rfl
  rw [chosen, branching, List.append_assoc, List.append_assoc, List.append_assoc, colon]
  simp only [List.append_assoc]

/-- The text can stand in front of the colon of a conditional expression, with a blank between: the
colons in it belong to question marks in it. -/
structure IsBranch (text : Text) : Prop where
  clean : Text.IsClean (text ++ [' '])
  passes : Scan.fresh.PassesBranches (some ' ') (text ++ [' '])

theorem Phrase.isBranch {binding : Binding} {text : Text} (phrase : Phrase binding text) :
    IsBranch text := by
  have inert : ∀ c ∈ [' '], IsInert c := Text.forall_mem_of_all (by decide)
  constructor
  case clean => exact phrase.clean.append (Text.isClean_of_forall fun c member => (inert c member).1)
  case passes =>
    apply (phrase.branches _ (by decide)).append
    exact passesBranches_of_inert inert _ _

section

variable {binding : Binding} {condition yes : Text} (test : Phrase binding condition)
  (unconditional : binding ≠ .conditional) (whenTrue : IsBranch yes) (rest : Text)

include test unconditional

theorem splitQuestion_branching :
    splitQuestion (branching condition yes rest) =
      some (condition ++ [' '], ' ' :: (yes ++ " :".toList ++ rest)) := by
  have passes := test.unconditional unconditional none (by decide)
  have behind : Scan.findNeutral (fun _ => startsConditional) (0 + condition.length)
      (condition.getLast?.or none) Scan.fresh (" ? ".toList ++ (yes ++ " :".toList ++ rest)) =
        some ([' '], "? ".toList ++ (yes ++ " :".toList ++ rest)) := rfl
  rw [branching, splitQuestion_eq, Scan.findNeutral_append passes, test.clean.closed, behind]
  rfl

theorem isConditional_branching : isConditional (branching condition yes rest) = true := by
  rw [isConditional, splitQuestion_branching test unconditional]
  rfl

omit test unconditional

include whenTrue

theorem splitBranches_branching :
    splitBranches (' ' :: (yes ++ " :".toList ++ rest)) = some (' ' :: yes ++ [' '], rest) := by
  have first_blank : splitBranches (' ' :: (yes ++ " :".toList ++ rest)) =
      (Scan.splitColon 0 (some ' ') Scan.fresh (yes ++ [' '] ++ ':' :: rest)).map fun found =>
        (' ' :: found.1, found.2) := by
    rw [List.append_assoc, List.append_assoc]
    rfl
  have colon : ∀ previous, Scan.splitColon 0 previous Scan.fresh (':' :: rest) = some ([], rest) :=
    fun _ => rfl
  rw [first_blank, whenTrue.passes, whenTrue.clean.closed, colon]
  simp only [Option.map_some, List.append_nil, List.cons_append]

include test unconditional

theorem conditional?_branching (filled : stripParens condition ≠ []) :
    Shape.conditional? (branching condition yes rest) =
      some (.branches (stripParens condition) (' ' :: yes ++ [' ']) rest) := by
  have stripped : stripParens (condition ++ [' ']) = stripParens condition := by
    rw [← stripParens_trim, trim_blank_right, stripParens_trim]
  have notEmpty : (stripParens condition).isEmpty = false := List.isEmpty_eq_false_iff.mpr filled
  unfold Shape.conditional?
  rw [splitQuestion_branching test unconditional]
  dsimp only
  rw [splitBranches_branching whenTrue]
  dsimp only
  rw [stripped, notEmpty]
  rfl

/-- A conditional expression is read as one before any operator in it is. -/
theorem usesOf_branching (begins : condition.BeginsOperand) (filled : stripParens condition ≠ [])
    (trimmed : Text.trim (branching condition yes rest) = branching condition yes rest)
    {m : Type → Type} [Monad m] [LawfulMonad m] (uses : Text → m (List ClassUse)) :
    Shape.usesOf uses (branching condition yes rest) =
      (Shape.branches (stripParens condition) (' ' :: yes ++ [' ']) rest).resolve uses := by
  have conditional : isConditional (branching condition yes rest) = true :=
    isConditional_branching test unconditional rest
  have noSides : ∀ token looser,
      Shape.sides token looser (branching condition yes rest) = none := by
    intro token looser
    unfold Shape.sides
    rw [conditional]
    rfl
  have unmixed : mixesNullish (branching condition yes rest) = false := by
    unfold mixesNullish
    rw [conditional]
    rfl
  have startsOperand : Text.BeginsOperand (branching condition yes rest) := begins.append _
  have tidy : Text.IsTidy (branching condition yes rest) := by
    refine ⟨?_, trimmed⟩
    obtain ⟨c, others, shape, -⟩ := startsOperand
    rw [shape]
    exact List.cons_ne_nil c others
  have noConjunction : Shape.conjunction? (branching condition yes rest) = none := by
    rw [Shape.conjunction?, noSides]
    rfl
  have noDisjunction : Shape.disjunction? (branching condition yes rest) = none := by
    rw [Shape.disjunction?, noSides]
    rfl
  have noNullish : Shape.nullish? (branching condition yes rest) = none := by
    rw [Shape.nullish?, noSides]
    rfl
  rw [Shape.usesOf_eq tidy startsOperand unmixed, Shape.firstUses_skip noConjunction,
    Shape.firstUses_skip noDisjunction, Shape.firstUses_skip noNullish]
  apply Shape.firstUses_eq_resolve (conditional?_branching test unconditional whenTrue rest filled)
  intro other member
  rw [List.mem_singleton.mp member]
  exact Shape.template?_eq_none startsOperand.startsUnquoted

end

end ClassUsage

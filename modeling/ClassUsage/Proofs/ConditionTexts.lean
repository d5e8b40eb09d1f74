import ClassUsage.Proofs.DepthLimit
import ClassUsage.Proofs.HollowOperands
import ClassUsage.Proofs.NestedText

set_option autoImplicit false

/-!
The conditions of uses as texts. They are cut out of the expression at its top level and put together
again with operators and brackets, so they are as well nested as the expression is. Three things are not
looked at: the brackets in the interpolations of a template literal, the brackets around the colon of an
object entry, and whether anything is left of an operand or a value without its brackets.
-/
namespace ClassUsage

/-- A condition as a reader expects it: not empty, no blank at either end, and nested. -/
structure Condition.IsUsable (condition : Text) : Prop where
  tidy : condition.IsTidy
  nested : condition.IsNested

section

variable {condition : Text}

theorem usable_bracketed (nested : condition.IsNested) :
    Condition.IsUsable (Condition.bracketed condition) :=
  ⟨⟨List.cons_ne_nil _ _, trim_bracketed condition⟩, nested.enclose .round⟩

/-- As an operand of a prefix or a comparison even an empty condition can be used. -/
theorem usable_operand (trimmed : condition.trim = condition) (nested : condition.IsNested) :
    Condition.IsUsable
      (if Condition.isSimple condition then condition else Condition.bracketed condition) := by
  split
  · rename_i simple
    have filled : condition ≠ [] := by
      rintro rfl
      cases simple
    exact ⟨⟨filled, trimmed⟩, nested⟩
  · exact usable_bracketed nested

theorem usable_negate (trimmed : condition.trim = condition) (nested : condition.IsNested) :
    Condition.IsUsable (Condition.negate condition) := by
  obtain ⟨tidy, inner⟩ := usable_operand trimmed nested
  have sign : Text.IsTidy ['!'] := Text.isTidy_of_forall (by decide) (Text.forall_mem_of_all (by decide))
  exact ⟨sign.surround tidy [], inner.cons (by decide)⟩

theorem usable_isNull (trimmed : condition.trim = condition) (nested : condition.IsNested) :
    Condition.IsUsable (Condition.isNull condition) := by
  obtain ⟨tidy, inner⟩ := usable_operand trimmed nested
  have comparison : " == null".toList = " == ".toList ++ "null".toList := by decide
  have word : Text.IsTidy "null".toList := Text.isTidy_of_forall (by decide) (Text.forall_mem_of_all (by decide))
  have plain : Text.IsNested "null".toList := by decide
  rw [Condition.isNull, comparison, ← List.append_assoc]
  exact ⟨tidy.surround word _, inner.surround plain (Text.forall_mem_of_all (by decide)) (by decide)⟩

theorem usable_group (usable : Condition.IsUsable condition) :
    Condition.IsUsable (Condition.group condition) := by
  unfold Condition.group
  split
  · exact usable_bracketed usable.nested
  · exact usable

theorem usable_conjoin (left : Condition.IsUsable condition) {right : Option Text}
    (others : ∀ other ∈ right, Condition.IsUsable other) :
    Condition.IsUsable (Condition.conjoin condition right) := by
  cases right with
  | none => exact left
  | some other =>
    have front := usable_group left
    have back := usable_group (others other rfl)
    have ordinary : ∀ c ∈ " && ".toList, Text.IsOrdinary c := Text.forall_mem_of_all (by decide)
    exact ⟨front.tidy.surround back.tidy _, front.nested.surround back.nested ordinary (by decide)⟩

end

def AllUsable (uses : List ClassUse) : Prop :=
  ∀ use ∈ uses, ∀ condition ∈ use.condition, Condition.IsUsable condition

theorem allUsable_nil : AllUsable [] := fun _ member => absurd member List.not_mem_nil

theorem allUsable_unconditional (classes : Text) : AllUsable [⟨classes, none⟩] := by
  intro use member condition held
  cases List.mem_singleton.mp member
  cases held

theorem AllUsable.append {first second : List ClassUse} (front : AllUsable first)
    (back : AllUsable second) : AllUsable (first ++ second) := by
  intro use member
  rcases List.mem_append.mp member with inFirst | inSecond
  · exact front use inFirst
  · exact back use inSecond

theorem AllUsable.guardAll {uses : List ClassUse} (inner : AllUsable uses) {condition : Text}
    (usable : Condition.IsUsable condition) : AllUsable (guardAll condition uses) := by
  intro use member held isHeld
  obtain ⟨guarded, listed, rfl⟩ := List.mem_map.mp member
  cases isHeld
  exact usable_conjoin usable (inner guarded listed)

/-- If the entry stands for a use with a condition, its first colon stands outside all brackets and its
value is more than brackets. -/
def Text.IsRegularEntry (entry : Text) : Prop :=
  ∀ use ∈ useOfEntry entry, use.condition ≠ none →
    ∀ pair ∈ splitKey entry, pair.1.IsNested ∧ stripParens pair.2 ≠ []

instance (entry : Text) : Decidable entry.IsRegularEntry :=
  inferInstanceAs (Decidable (∀ use ∈ useOfEntry entry, use.condition ≠ none →
    ∀ pair ∈ splitKey entry, pair.1.IsNested ∧ stripParens pair.2 ≠ []))

def Piece.expression? : Piece → Option Text
  | static _ => none
  | interpolation text => some text

/-- The parts of one expression at which nothing is looked at but what is sound. -/
structure Text.HasRegularParts (text : Text) : Prop where
  operand : ∀ pair ∈ Shape.sides andToken [orToken, nullishToken] text, pair.1 ≠ []
  entries : ∀ body ∈ unwrap .curly .curly text, ∀ entry ∈ splitCommas body, entry.IsRegularEntry
  interpolations : ∀ template ∈ Template.read text,
    ∀ inner ∈ template.pieces.filterMap Piece.expression?, inner.IsNested

instance (text : Text) : Decidable text.HasRegularParts :=
  decidable_of_iff
    ((∀ pair ∈ Shape.sides andToken [orToken, nullishToken] text, pair.1 ≠ []) ∧
      (∀ body ∈ unwrap .curly .curly text, ∀ entry ∈ splitCommas body, entry.IsRegularEntry) ∧
      ∀ template ∈ Template.read text,
        ∀ inner ∈ template.pieces.filterMap Piece.expression?, inner.IsNested)
    ⟨fun ⟨operand, entries, interpolations⟩ => ⟨operand, entries, interpolations⟩,
      fun parts => ⟨parts.operand, parts.entries, parts.interpolations⟩⟩

def Shape.asked : Shape → List Text
  | .literal _ => []
  | .guarded _ operand => if (literalBody operand).isSome then [] else [stripParens operand]
  | .branches _ yes no => [yes, no]
  | .template parts => parts.pieces.filterMap Piece.expression?

def Text.asked (text : Text) : List Text :=
  (Shape.readings.filterMap fun reading => reading text.trim).flatMap Shape.asked

/-- The parts of the expression and of every expression inside it are regular. -/
inductive Text.IsRegular : Text → Prop
  | intro {text : Text} (parts : text.trim.HasRegularParts)
      (inside : ∀ inner ∈ text.asked, inner.IsRegular) : IsRegular text

theorem Text.IsRegular.of_asked {text : Text} {others : List Text} (parts : text.trim.HasRegularParts)
    (asks : text.asked = others) (inside : ∀ inner ∈ others, inner.IsRegular) : text.IsRegular :=
  .intro parts (asks ▸ inside)

/-- The condition of an object entry is its value without brackets. -/
theorem condition_of_useOfPair {key value condition : Text} {use : ClassUse}
    (found : useOfPair key value = some use) (held : condition ∈ use.condition) :
    condition = stripParens value := by
  obtain ⟨classes, -, rfl | rfl⟩ := exists_of_useOfPair found
  · cases held
  · exact (Option.some.inj held).symm

theorem usable_of_useOfEntry {entry : Text} {use : ClassUse} (tidy : entry.IsTidy)
    (nested : entry.IsNested) (regular : entry.IsRegularEntry) (found : useOfEntry entry = some use) :
    ∀ condition ∈ use.condition, Condition.IsUsable condition := by
  intro condition held
  have holds : use.condition ≠ none := by
    rw [Option.mem_def.mp held]
    exact Option.some_ne_none condition
  have parts := regular use found holds
  rcases cases_of_useOfEntry found with rfl | ⟨key, value, split, read⟩
  · cases held
    exact ⟨tidy, nested⟩
  · obtain ⟨front, filled⟩ := parts (key, value) split
    have behind : value.IsNested := by
      rw [Scan.eq_of_splitKey split] at nested
      exact nested.of_key front
    have usable : Condition.IsUsable (stripParens value.trim) := by
      rw [stripParens_trim]
      exact ⟨⟨filled, trim_stripParens value⟩, behind.stripParens⟩
    rw [condition_of_useOfPair read held]
    exact usable

theorem usable_objectUses {text : Text} (nested : text.IsNested)
    (entries : ∀ body ∈ unwrap .curly .curly text, ∀ entry ∈ splitCommas body, entry.IsRegularEntry) :
    AllUsable (objectUses text) := by
  unfold objectUses
  split
  · exact allUsable_nil
  · rename_i body found
    intro use member
    obtain ⟨entry, listed, read⟩ := List.mem_filterMap.mp member
    have inside := (nested.unwrap found).of_mem_splitCommas listed
    exact usable_of_useOfEntry (isTidy_of_mem_splitTopLevel listed) inside (entries body found entry listed)
      read

/-- What stands on the two sides of an operator. -/
theorem nested_sides (op : Operator) {text : Text} {looser : List Text} {pair : Text × Text}
    (nested : text.IsNested) (found : Shape.sides op.token looser text = some pair) :
    pair.1.IsNested ∧ pair.1.trim = pair.1 ∧ pair.2.IsNested := by
  have ordinary : ∀ c ∈ op.token, Text.IsOrdinary c := by
    intro c member
    exact op.ordinary_spaced c (by simp [Operator.spaced, member])
  obtain ⟨before, behind, rfl, neutral, rfl⟩ := Shape.exists_of_sides found
  obtain ⟨c, letters, spelled⟩ : ∃ c letters, op.token = c :: letters := by
    cases op
    all_goals exact ⟨_, _, rfl⟩
  rw [spelled] at ordinary
  obtain ⟨isFirst, others⟩ := List.forall_mem_cons.mp ordinary
  rw [spelled, List.cons_append] at nested
  obtain ⟨front, rest⟩ := nested.cut isFirst (neutral c letters spelled)
  exact ⟨front.trim.stripParens, trim_stripParens before.trim, (rest.of_append_left others).trim⟩

theorem usable_of_conditional? {text : Text} {shape : Shape} (nested : text.IsNested)
    (found : Shape.conditional? text = some shape) :
    ∃ condition yes no, shape = .branches condition yes no ∧ Condition.IsUsable condition ∧
      yes.IsNested ∧ no.IsNested := by
  obtain ⟨before, yes, no, rfl, question, colon, filled, rfl⟩ := Shape.exists_of_conditional? found
  obtain ⟨front, others⟩ := nested.cut (by decide) question
  obtain ⟨whenTrue, whenFalse⟩ := others.cut (by decide) colon
  exact ⟨_, yes, no, rfl, ⟨⟨filled, trim_stripParens before⟩, front.stripParens⟩, whenTrue, whenFalse⟩

/-- The conditions of a shape can be used, and what it asks for is nested. -/
def Shape.IsSound : Shape → Prop
  | .literal uses => AllUsable uses
  | .guarded condition operand => Condition.IsUsable condition ∧ operand.IsNested
  | .branches condition yes no => Condition.IsUsable condition ∧ yes.IsNested ∧ no.IsNested
  | .template parts => ∀ inner ∈ parts.pieces.filterMap Piece.expression?, inner.IsNested

theorem isSound_of_mem_readings {reading : Text → Option Shape} (listed : reading ∈ Shape.readings)
    {text : Text} (nested : text.IsNested) (parts : text.HasRegularParts) {shape : Shape}
    (found : reading text = some shape) : shape.IsSound := by
  simp only [Shape.readings, List.mem_cons, List.not_mem_nil, or_false] at listed
  rcases listed with rfl | rfl | rfl | rfl | rfl | rfl | rfl
  · cases found
    exact usable_objectUses nested parts.entries
  · obtain ⟨classes, -, rfl⟩ := Option.map_eq_some_iff.mp found
    exact allUsable_unconditional classes
  · obtain ⟨pair, read, rfl⟩ := Option.map_eq_some_iff.mp found
    obtain ⟨front, trimmed, back⟩ := nested_sides .and nested read
    exact ⟨⟨⟨parts.operand pair read, trimmed⟩, front⟩, back⟩
  · obtain ⟨pair, read, rfl⟩ := Option.map_eq_some_iff.mp found
    obtain ⟨front, trimmed, back⟩ := nested_sides .or nested read
    exact ⟨usable_negate trimmed front, back⟩
  · obtain ⟨pair, read, rfl⟩ := Option.map_eq_some_iff.mp found
    obtain ⟨front, trimmed, back⟩ := nested_sides .nullish nested read
    exact ⟨usable_isNull trimmed front, back⟩
  · obtain ⟨condition, yes, no, rfl, usable, whenTrue, whenFalse⟩ :=
      usable_of_conditional? nested found
    exact ⟨usable, whenTrue, whenFalse⟩
  · obtain ⟨template, read, rfl⟩ := Option.map_eq_some_iff.mp found
    exact parts.interpolations template read

theorem usable_pieces {uses : Text → Id (List ClassUse)} {pieces : List Piece}
    (answers : ∀ inner ∈ pieces.filterMap Piece.expression?, AllUsable (uses inner).run) :
    AllUsable (pieces.mapM (Shape.resolvePiece uses)).run.flatten := by
  induction pieces with
  | nil => exact allUsable_nil
  | cons piece pieces ih =>
    rw [List.mapM_cons]
    have first : AllUsable (Shape.resolvePiece uses piece).run := by
      cases piece with
      | interpolation text => exact answers text (by simp [Piece.expression?])
      | static text =>
        simp only [Shape.resolvePiece]
        split
        · exact allUsable_nil
        · exact allUsable_unconditional _
    have others := ih fun inner listed => answers inner (by
      rw [List.filterMap_cons]
      split
      · exact listed
      · exact List.mem_cons_of_mem _ listed)
    exact first.append others

/-- A sound shape is resolved to usable conditions if what it asks for is. -/
theorem usable_resolve {uses : Text → Id (List ClassUse)} {shape : Shape} (sound : shape.IsSound)
    (answers : ∀ inner ∈ shape.asked, inner.IsNested → AllUsable (uses inner).run) :
    AllUsable (shape.resolve uses).run := by
  cases shape with
  | literal found => exact sound
  | guarded condition operand =>
    obtain ⟨usable, nested⟩ := sound
    cases body : literalBody operand with
    | some classes =>
      simp only [Shape.resolve, body]
      exact (allUsable_unconditional classes).guardAll usable
    | none =>
      simp only [Shape.asked, body, Option.isSome_none, Bool.false_eq_true, ↓reduceIte,
        List.forall_mem_singleton] at answers
      simp only [Shape.resolve, body]
      exact (answers nested.stripParens).guardAll usable
  | branches condition yes no =>
    obtain ⟨usable, whenTrue, whenFalse⟩ := sound
    have negated := usable_negate usable.tidy.trimmed usable.nested
    have first := answers yes (by simp [Shape.asked]) whenTrue
    have second := answers no (by simp [Shape.asked]) whenFalse
    exact (first.guardAll usable).append (second.guardAll negated)
  | template parts =>
    have inner : AllUsable (parts.pieces.mapM (Shape.resolvePiece uses)).run.flatten :=
      usable_pieces fun inner listed => answers inner listed (sound inner listed)
    simp only [Shape.resolve]
    split
    · exact inner
    · exact allUsable_nil

theorem usable_firstUses {uses : Text → Id (List ClassUse)} {text : Text}
    {tried : List (Text → Option Shape)}
    (each : ∀ reading ∈ tried, ∀ shape, reading text = some shape → AllUsable (shape.resolve uses).run) :
    AllUsable (Shape.firstUses uses text tried).run := by
  induction tried with
  | nil => exact allUsable_nil
  | cons reading others ih =>
    obtain ⟨here, behind⟩ := List.forall_mem_cons.mp each
    have later := ih behind
    cases found : reading text with
    | none =>
      rw [Shape.firstUses_skip found]
      exact later
    | some shape =>
      simp only [Shape.firstUses, found]
      change AllUsable (Id.run (if (shape.resolve uses).run.isEmpty then
        Shape.firstUses uses text others else pure (shape.resolve uses).run))
      split
      · exact later
      · exact here shape found

/-- Whatever way an expression is read in, its conditions can be used if those inside it can. -/
theorem usable_reading {text : Text} (nested : text.IsNested) (parts : text.trim.HasRegularParts)
    (answers : ∀ inner ∈ text.asked, inner.IsNested → AllUsable (expressionUses inner).run)
    {reading : Text → Option Shape} (listed : reading ∈ Shape.readings) {shape : Shape}
    (found : reading text.trim = some shape) : AllUsable (shape.resolve expressionUses).run := by
  apply usable_resolve (isSound_of_mem_readings listed nested.trim parts found)
  intro inner asked
  apply answers
  exact List.mem_flatMap.mpr ⟨shape, List.mem_filterMap.mpr ⟨reading, listed, found⟩, asked⟩

theorem usable_expressionUses {text : Text} (regular : text.IsRegular) (nested : text.IsNested) :
    AllUsable (expressionUses text).run := by
  induction regular with
  | @intro text parts inside ih =>
    rw [expressionUses_eq, Shape.usesOf]
    split
    · exact allUsable_nil
    · apply usable_firstUses
      intro reading listed shape found
      exact usable_reading nested parts ih listed found

theorem usable_formUses (form : ExpressionForm) {text : Text} (regular : text.IsRegular)
    (nested : text.IsNested) : AllUsable (formUses form text).run := by
  obtain ⟨parts, inside⟩ := regular
  cases form with
  | any =>
    rw [formUses, ExpressionForm.usesOf, expressionUses_trim]
    exact usable_expressionUses (.intro parts inside) nested
  | object => exact usable_objectUses nested.trim parts.entries
  | template =>
    rw [formUses, ExpressionForm.usesOf]
    cases found : Shape.template? text.trim with
    | none => exact allUsable_nil
    | some shape =>
      exact usable_reading nested parts (fun inner asked => usable_expressionUses (inside inner asked))
        Shape.template?_mem_readings found

/-- The conditions of a nested expression are not empty, have no blanks at their ends and are nested
themselves, unless the expression or one inside it holds something that is not looked at. -/
theorem conditions_usable {text : Text} (nested : text.IsNested) (regular : text.IsRegular)
    (form : ExpressionForm) (limit : Int) {uses : List ClassUse}
    (parsed : parseForm form limit text = some uses) :
    ∀ use ∈ uses, ∀ condition ∈ use.condition,
      condition ≠ [] ∧ condition.trim = condition ∧ condition.IsNested := by
  have same : (formUses form text).run = uses := by
    have matched := (matchOf_eq_some (matchOf_formUses parsed)).1
    exact Except.ok.inj matched
  intro use member condition held
  rw [← same] at member
  obtain ⟨tidy, inner⟩ := usable_formUses form regular nested use member condition held
  exact ⟨tidy.filled, tidy.trimmed, inner⟩

theorem conditions_usable_interpolated :
    let text : Text := "`p $\x7b(x || y) && \x7b 'a': (z), b \x7d\x7d`".toList
    let uses : List ClassUse := [⟨"p".toList, none⟩, ⟨"a".toList, some "(x || y) && z".toList⟩,
      ⟨"b".toList, some "(x || y) && b".toList⟩]
    text.IsNested ∧ text.IsRegular ∧ parseForm .any 200 text = some uses ∧
      ∀ use ∈ uses, ∀ condition ∈ use.condition,
        condition ≠ [] ∧ condition.trim = condition ∧ condition.IsNested := by
  intro text uses
  have nested : text.IsNested := by decide +kernel
  have object : Text.IsRegular "\x7b 'a': (z), b \x7d".toList :=
    .of_asked (by decide +kernel) (by decide +kernel) fun _ asked => absurd asked List.not_mem_nil
  have guarded : Text.IsRegular "(x || y) && \x7b 'a': (z), b \x7d".toList :=
    .of_asked (by decide +kernel) (by decide +kernel) (List.forall_mem_singleton.mpr object)
  have regular : text.IsRegular :=
    .of_asked (by decide +kernel) (by decide +kernel) (List.forall_mem_singleton.mpr guarded)
  have parsed : parseForm .any 200 text = some uses := by decide +kernel
  exact ⟨nested, regular, parsed, conditions_usable nested regular .any 200 parsed⟩

/-- Brackets around a colon, brackets in an interpolation and brackets around nothing make conditions that
cannot be used. -/
theorem conditions_not_usable :
    (Text.IsNested "\x7b(a: b)\x7d".toList ∧
      parseObject "\x7b(a: b)\x7d".toList = some [⟨"(a".toList, some "b)".toList⟩] ∧
      ¬ Text.IsNested "b)".toList) ∧
    (Text.IsNested "`$\x7b(x] && 'a'\x7d`".toList ∧
      parseExpression "`$\x7b(x] && 'a'\x7d`".toList = some [⟨"a".toList, some "(x]".toList⟩] ∧
      ¬ Text.IsNested "(x]".toList) ∧
    Text.IsNested "() && 'a'".toList ∧
      parseExpression "() && 'a'".toList = some [⟨"a".toList, some []⟩] := by
  refine ⟨by decide +kernel, by decide +kernel, by decide, ?_⟩
  let string : ClassString := ⟨"a".toList, by decide, Text.forall_mem_of_all (by decide)⟩
  have nothing : Text.IsHollow [] := .blank rfl
  have spelled : "() && 'a'".toList = Operator.and.joined (Condition.bracketed []) string.text := by
    decide
  rw [spelled, parseExpression, parseForm_hollow_operand nothing]
  decide

end ClassUsage

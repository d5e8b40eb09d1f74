import ClassUsage.Proofs.DialectAgreement
import ClassUsage.Proofs.EscapedMarks
import ClassUsage.Proofs.TemplateReading

set_option autoImplicit false

/-!
Template literals read as any expression. Where every backtick inside stands behind a backslash, no
reading sees anything of the literal but the literal, and the one as a string finds what the one as a
template does.
-/
namespace ClassUsage

/-- Each of the marks in the text, the first and the last character apart, stands behind a backslash. -/
def Text.EscapesInside (mark : Char) (text : Text) : Prop :=
  ∀ before after : Text, before ≠ [] → after ≠ [] → text = before ++ mark :: after →
    before.getLast? = some '\\'

/-- The marks inside a literal are escaped exactly if none of them closes it. -/
theorem Text.escapesInside_iff {mark : Char} {body : Text} (notEscape : mark ≠ '\\') :
    Text.EscapesInside mark (mark :: body ++ [mark]) ↔ ClassUsage.holdsBareMark mark false body = false := by
  have start : (some mark == some '\\') = false := beq_eq_false_iff_ne.mpr fun same =>
    notEscape (Option.some.inj same)
  have bare : ClassUsage.holdsBareMark mark false body = false ↔ _ :=
    start ▸ holdsBareMark_eq_false_iff (some mark)
  rw [bare]
  constructor
  · rintro escaped before after rfl
    rw [← Scan.getLast?_or_cons, Option.or_none]
    exact escaped (mark :: before) (after ++ [mark]) (List.cons_ne_nil _ _) (by simp) (by simp)
  · intro escaped before after frontFilled backFilled parts
    obtain ⟨c, before, rfl⟩ := List.exists_cons_of_ne_nil frontFilled
    obtain ⟨after, d, rfl⟩ := (List.eq_nil_or_concat' after).resolve_left backFilled
    obtain ⟨rfl, rest⟩ := List.cons.inj parts
    have regrouped : body ++ [mark] = before ++ mark :: after ++ [d] := by
      rw [List.append_assoc]
      exact rest
    have body_eq := (List.append_inj' regrouped rfl).1
    have behindEscape : before.getLast?.or (some mark) = some '\\' := escaped before after body_eq
    rwa [← Scan.getLast?_or_cons, Option.or_none] at behindEscape

theorem holdsBareMark_append {mark : Char} (notEscape : mark ≠ '\\') {escaped : Bool} {body rest : Text}
    (noBare : holdsBareMark mark escaped body = false) (last : body.getLast? = some '\\')
    (absent : mark ∉ rest) : holdsBareMark mark escaped (body ++ mark :: rest) = false := by
  induction body generalizing escaped with
  | nil => cases last
  | cons c behind ih =>
    obtain ⟨here, later⟩ := Bool.or_eq_false_iff.mp noBare
    rw [List.cons_append, holdsBareMark, here, Bool.false_or]
    cases behind with
    | nil =>
      obtain rfl : c = '\\' := Option.some.inj last
      have unescaped : (mark == '\\') = false := beq_eq_false_iff_ne.mpr notEscape
      rw [List.nil_append, holdsBareMark, unescaped, holdsBareMark_eq_false absent, beq_self_eq_true]
      simp
    | cons d behind => exact ih later last

section

variable {body : Text} (noBare : holdsBareMark '\x60' false body = false)

include noBare

/-- Nothing stands at the top level of the literal but its last backtick. -/
theorem passes_backticked {wanted : Option Char → Text → Bool} {previous : Option Char}
    (unwanted : ∀ before behind, wanted before ('\x60' :: behind) = false) :
    Scan.fresh.Passes wanted previous (backticked body) := by
  apply Scan.passes_enclosed _ _ unwanted
  · rw [Scan.step_fresh_quote rfl]
    rfl
  · rw [Scan.step_fresh_quote rfl]
    exact Scan.trace_quoting noBare

theorem findOperator_backticked (op : Operator) : findOperator op.token 0 (backticked body) = none := by
  apply findOperator_eq_none
  apply passes_backticked noBare
  apply beginsWith_token
  cases op <;> decide

theorem isConditional_backticked : isConditional (backticked body) = false := by
  apply isConditional_eq_false
  exact passes_backticked noBare (startsConditional_of_ne (by decide))

theorem mixesNullish_backticked : mixesNullish (backticked body) = false := by
  have noNullish : findOperator nullishToken 0 (backticked body) = none :=
    findOperator_backticked noBare .nullish
  simp only [mixesNullish, hasOperator, List.any_cons, List.any_nil, noNullish, Option.isSome_none,
    Bool.or_self, Bool.and_false, Bool.false_and]

theorem literalBody_backticked :
    literalBody (backticked body) =
      if holdsInterpolation body || body.trim.isEmpty then none else some body.trim := by
  rw [backticked, literalBody_between rfl, noBare, beq_self_eq_true, Bool.false_or, Bool.true_and]
  by_cases inserted : holdsInterpolation body = true
  · rw [inserted]
    rfl
  · rw [Bool.eq_false_iff.mpr inserted]
    rfl

/-- Only the readings as a string and as a template can find anything. -/
theorem usesOf_backticked {m : Type → Type} [Monad m] [LawfulMonad m]
    (uses : Text → m (List ClassUse)) :
    Shape.usesOf uses (backticked body) =
      Shape.firstUses uses (backticked body) [Shape.string?, Shape.template?] := by
  have tidy := isTidy_backticked body
  have notEmpty : (backticked body).isEmpty = false := List.isEmpty_eq_false_iff.mpr tidy.filled
  have noObject : objectUses (backticked body) = [] := by
    apply objectUses_eq_nil tidy.trimmed
    exact fun head => absurd (Option.some.inj head) (by decide)
  have noSides : ∀ (op : Operator) (looser : List Text),
      Shape.sides op.token looser (backticked body) = none :=
    fun op looser => sides_eq_none_of_absent (findOperator_backticked noBare op) looser
  have noConjunction : Shape.conjunction? (backticked body) = none :=
    congrArg (Option.map _) (noSides .and _)
  have noDisjunction : Shape.disjunction? (backticked body) = none :=
    congrArg (Option.map _) (noSides .or _)
  have noNullish : Shape.nullish? (backticked body) = none :=
    congrArg (Option.map _) (noSides .nullish _)
  have noConditional : Shape.conditional? (backticked body) = none :=
    Shape.conditional?_eq_none (isConditional_backticked noBare)
  have others : Shape.firstUses uses (backticked body) [Shape.conjunction?, Shape.disjunction?,
      Shape.nullish?, Shape.conditional?, Shape.template?] =
        Shape.firstUses uses (backticked body) [Shape.template?] := by
    rw [Shape.firstUses_skip noConjunction, Shape.firstUses_skip noDisjunction,
      Shape.firstUses_skip noNullish, Shape.firstUses_skip noConditional]
  rw [Shape.usesOf, notEmpty, mixesNullish_backticked noBare, Shape.firstUses_readings noObject]
  simp only [Bool.or_self, Bool.false_eq_true, ↓reduceIte, Shape.readings, List.tail_cons]
  conv => lhs; rw [Shape.firstUses, others]
  conv => rhs; rw [Shape.firstUses]

/-- What is found of a literal read as a template is found of it as any expression. -/
theorem usesOf_backticked_of_template {uses : Text → Except TooDeep (List ClassUse)}
    {found : List ClassUse}
    (resolved : (Shape.template (Template.ofBody body)).resolve uses = .ok found)
    (filled : found ≠ []) : Shape.usesOf uses (backticked body) = .ok found := by
  rw [usesOf_backticked noBare]
  by_cases inserted : holdsInterpolation body = true
  · have noString : Shape.string? (backticked body) = none := by
      rw [Shape.string?, literalBody_backticked noBare, inserted]
      rfl
    rw [Shape.firstUses_skip noString, Shape.firstUses_eq_resolve (template?_backticked body) (by simp)]
    exact resolved
  · have closed : holdsInterpolation body = false := Bool.eq_false_iff.mpr inserted
    have complete := Template.complete_of_resolve resolved filled
    rw [Template.ofBody_of_closed closed complete, Template.resolve_staticPieces] at resolved
    obtain rfl : staticUses body = found := (pure_eq_ok _ _).mp resolved
    have notBlank : body.trim.isEmpty = false := by
      rw [Bool.eq_false_iff]
      intro blank
      exact filled (if_pos blank)
    have string : Shape.string? (backticked body) = some (.literal (staticUses body)) := by
      rw [Shape.string?, literalBody_backticked noBare, closed, notBlank, staticUses, notBlank]
      rfl
    exact Shape.firstUses_found string rfl filled

end

/-- A fragment that is read as a template is a text between backticks. -/
theorem exists_backticked {text : Text} {shape : Shape} (read : Shape.template? text = some shape) :
    ∃ body, text = backticked body ∧ shape = .template (Template.ofBody body) := by
  obtain ⟨parts, found, rfl⟩ := Option.map_eq_some_iff.mp read
  unfold Template.read at found
  split at found
  · rename_i inside
    split at found
    · rename_i last
      cases found
      obtain ⟨body, rfl⟩ := List.getLast?_eq_some_iff.mp last
      exact ⟨body, rfl, by rw [List.dropLast_concat]⟩
    · cases found
  · cases found

theorem exists_backticked_of_parsed {text : Text} {limit : Int} {uses : List ClassUse}
    (parsed : parseForm .template limit text = some uses) :
    ∃ body, text.trim = backticked body ∧
      (Shape.template (Template.ofBody body)).resolve (usesWithin (levelsLeft limit 1)) = .ok uses := by
  obtain ⟨answered, filled⟩ := matchOf_eq_some parsed
  rw [ExpressionForm.usesOf] at answered
  cases read : Shape.template? text.trim with
  | none =>
    rw [read] at answered
    exact absurd ((pure_eq_ok _ _).mp answered).symm filled
  | some shape =>
    rw [read] at answered
    obtain ⟨body, literal, rfl⟩ := exists_backticked read
    exact ⟨body, literal, answered⟩

theorem parseForm_any_of_template {text : Text} (escaped : text.trim.EscapesInside '\x60')
    {limit : Int} (allowed : 0 ≤ limit) {uses : List ClassUse}
    (parsed : parseForm .template limit text = some uses) : parseForm .any limit text = some uses := by
  obtain ⟨body, literal, resolved⟩ := exists_backticked_of_parsed parsed
  have filled := (matchOf_eq_some parsed).2
  have levels : levelsLeft limit 0 = levelsLeft limit 1 + 1 := by
    simp only [levelsLeft]
    omega
  rw [literal] at escaped
  have noBare := (Text.escapesInside_iff (by decide)).mp escaped
  rw [parseForm, ExpressionForm.usesOf, levels, usesWithin, Text.trim_trim, literal,
    usesOf_backticked_of_template noBare resolved filled, matchOf_ok, if_neg filled]

section

variable {body before after : Text} (noBare : holdsBareMark '\x60' false body = false)
  (front : Text.IsBlanks before) (back : Text.IsBlanks after)

include noBare front

/-- A literal that escapes its last backtick goes on to the end, and no bracket around it closes. -/
theorem balanced_eq_none_of_open (last : body.getLast? = some '\\') (closing : Bracket) {behind : Text}
    (absent : '\x60' ∉ behind) :
    Scan.opened.balanced closing (before ++ backticked body ++ behind) = none := by
  have goesOn : holdsBareMark '\x60' false (body ++ '\x60' :: behind) = false :=
    holdsBareMark_append (by decide) noBare last absent
  have opens : (Scan.opened.run before).step '\x60' = (Scan.quoting '\x60').deeper 1 := by
    rw [Scan.opened_eq_deeper, Scan.run_deeper, front.isClean.closed, Scan.step_deeper,
      Scan.step_fresh_quote rfl]
  have hidden : ∀ scan ∈ Scan.opened.trace (before ++ backticked body ++ behind),
      scan.isNeutral = false := by
    have regrouped : before ++ backticked body ++ behind =
        before ++ '\x60' :: (body ++ '\x60' :: behind) := by
      simp only [backticked, List.append_assoc, List.cons_append, List.nil_append]
    intro scan member
    rw [regrouped, Scan.trace_append, Scan.trace, opens, Scan.trace_deeper] at member
    rcases List.mem_append.mp member with inFront | later
    · exact Scan.trace_opened front.isClean.isSelfContained scan inFront
    · rcases List.mem_cons.mp later with rfl | inLiteral
      · rfl
      · obtain ⟨inner, inTrace, rfl⟩ := List.mem_map.mp inLiteral
        rw [Scan.isNeutral, Scan.deeper, ((Scan.run_quoting goesOn).2 inner inTrace).2]
        rfl
  apply Option.eq_none_iff_forall_ne_some.mpr
  rintro ⟨inner, rest⟩ found
  obtain ⟨closes, parts⟩ := Scan.balanced_eq_some_iff.mp found
  rw [parts] at hidden
  have neutral := hidden _ (Scan.mem_trace_append _ inner _ rest)
  rw [closes.isNeutral] at neutral
  cases neutral

include back

/-- The last backtick closes the literal if it is not escaped. -/
theorem isSelfContained_backticked (settled : body.getLast? ≠ some '\\') :
    Text.IsSelfContained (before ++ backticked body ++ after) :=
  ((front.isClean.append (Text.isClean_literal rfl noBare settled)).append back.isClean).isSelfContained

/-- A template literal is one argument of a helper. -/
theorem argumentUses_backticked :
    argumentUses (helperArguments (before ++ backticked body ++ after)) =
      (parseExpression (backticked body)).getD [] := by
  have trimmed : Text.trim (before ++ backticked body ++ after) = backticked body := by
    rw [Text.trim_padded front back, (isTidy_backticked body).trimmed]
  have noArray : ∀ text : Text, text.trim = backticked body → unwrap .square .square text = none := by
    intro text same
    apply unwrap_eq_none_of_head
    rw [same]
    exact fun head => absurd (Option.some.inj head) (by decide)
  have noComma : ∀ {blanks : Text}, blanks.IsBlanks →
      ∀ c ∈ blanks, ∀ (previous : Option Char) (behind : Text),
        beginsWithSeparator (· == ',') previous (c :: behind) = false := by
    intro blanks are c member previous behind
    apply beq_eq_false_iff_ne.mpr
    rintro rfl
    exact absurd (are ',' member) (by decide)
  have passes : Scan.fresh.Passes (beginsWithSeparator (· == ',')) none
      (before ++ backticked body ++ after) := by
    refine Scan.Passes.append (Scan.Passes.append ?_ ?_) ?_
    · exact Scan.passes_of_forall (noComma front)
    · rw [front.isClean.closed]
      exact passes_backticked noBare fun _ _ => rfl
    · exact Scan.passes_of_forall (noComma back)
  have filled : (backticked body).isEmpty = false :=
    List.isEmpty_eq_false_iff.mpr (isTidy_backticked body).filled
  have single : splitCommas (before ++ backticked body ++ after) = [backticked body] := by
    rw [splitCommas, splitTopLevel, Scan.segments_eq_singleton passes, List.map_singleton, trimmed,
      List.filter_singleton, filled]
    rfl
  rw [helperArguments, noArray _ trimmed, Option.getD_none, single]
  simp only [argumentUses, List.flatMap_cons, List.flatMap_nil, argumentElements,
    noArray _ (isTidy_backticked body).trimmed, List.append_nil]

end

theorem usesAtStart_template {text : Text} (contained : text.IsSelfContained)
    (backtick : text.trim.head? = some '\x60') :
    jsxTemplate.usesAtStart (braced text) = parseTemplate text := by
  have filled : braced text ≠ [] := Spelling.document_ne_nil text .expression
  have reads : jsxTemplate.usesAtStart (braced text) = matchOf (.ok ((parseTemplate text).getD [])) := by
    apply Locator.usesAtStart_eq filled
    intro found
    have finds : jsxTemplate.Finds none (braced text ++ []) found ↔ _ :=
      jsxTemplate_finds_braced contained rfl
    rw [List.append_nil, and_iff_right backtick] at finds
    exact finds
  rw [reads]
  exact matchOf_getD_parseForm .template _ _

/-- Where no bracket around the literal closes, neither attribute is complete. -/
theorem usesAtStart_of_open {text : Text}
    (isOpen : ∀ (closing : Bracket) (behind : Text), '\x60' ∉ behind →
      Scan.opened.balanced closing (text ++ behind) = none) :
    jsxTemplate.usesAtStart (braced text) = none ∧ Spelling.call.usesOf text = none := by
  have begins : ∀ inner, braceOpening? none (braced inner) =
      some ("className".toList, inner ++ ['}']) := by
    intro inner
    have opened : braceOpening? none (braced inner ++ []) = _ := braceOpening?_braced rfl inner []
    rwa [List.append_nil] at opened
  constructor
  · have filled : braced text ≠ [] := Spelling.document_ne_nil text .expression
    apply Locator.usesAtStart_eq_none filled
    intro found finds
    obtain ⟨name, inside, inner, rest, opened, closed, -, -⟩ := jsxTemplate_finds_iff.mp finds
    rw [begins] at opened
    cases opened
    rw [isOpen .curly ['}'] (by decide)] at closed
    cases closed
  · apply Locator.usesAtStart_eq_none (Spelling.document_ne_nil text .call)
    intro found finds
    obtain ⟨name, inside, content, inner, behind, rest, opened, called, closed, -⟩ :=
      helperCall_finds_iff.mp finds
    have shape : Spelling.call.document text =
        braced ("clsx".toList ++ Bracket.round.enclose text) := rfl
    rw [shape, begins] at opened
    cases opened
    have callee : IsCallee "clsx".toList :=
      ⟨[], "clsx".toList, [], Text.isBlanks_nil, by decide, Text.isBlanks_nil, rfl⟩
    have content_eq : helperCall? ("clsx".toList ++ Bracket.round.enclose text ++ ['}']) =
        some (text ++ [')', '}']) :=
      helperCall?_eq_some_iff.mpr ⟨"clsx".toList, callee, by simp [Bracket.enclose, Bracket.opener, Bracket.closer]⟩
    rw [content_eq] at called
    cases called
    rw [isOpen .round [')', '}'] (by decide)] at closed
    cases closed

/-- A template literal of which every inner backtick is escaped is read alike as a template and as any
expression, and so is an attribute that holds it, by itself or as the argument of a helper. -/
theorem template_read_alike {text : Text} (escaped : text.trim.EscapesInside '\x60')
    {uses : List ClassUse} :
    (∀ limit : Int, 0 ≤ limit → parseForm .template limit text = some uses →
      parseForm .any limit text = some uses) ∧
    (parseTemplate text = some uses →
      jsxTemplate.usesAtStart (braced text) = Spelling.call.usesOf text ∧
        (text.IsSelfContained → Spelling.call.usesOf text = some uses)) := by
  refine ⟨fun limit allowed => parseForm_any_of_template escaped allowed, fun parsed => ?_⟩
  obtain ⟨body, literal, -⟩ := exists_backticked_of_parsed parsed
  obtain ⟨before, after, front, back, shape⟩ := Text.exists_trim text
  have general : parseExpression text = some uses := parseForm_any_of_template escaped (by decide) parsed
  rw [literal] at escaped shape
  have noBare := (Text.escapesInside_iff (by decide)).mp escaped
  have asCall : text.IsSelfContained → Spelling.call.usesOf text = some uses := by
    intro contained
    have arguments := argumentUses_backticked noBare front back
    rw [← shape, ← literal, parseExpression, parseForm_trim] at arguments
    rw [usesOf_call contained, arguments, matchOf_getD_parseForm]
    exact general
  refine ⟨?_, asCall⟩
  by_cases last : body.getLast? = some '\\'
  · have isOpen : ∀ (closing : Bracket) (behind : Text), '\x60' ∉ behind →
        Scan.opened.balanced closing (text ++ behind) = none := by
      intro closing behind absent
      have absentBehind : '\x60' ∉ after ++ behind := by
        intro member
        rcases List.mem_append.mp member with inBlanks | inBehind
        · exact absurd (back '\x60' inBlanks) (by decide)
        · exact absent inBehind
      rw [shape, List.append_assoc]
      exact balanced_eq_none_of_open noBare front last closing absentBehind
    obtain ⟨asTemplate, asArgument⟩ := usesAtStart_of_open isOpen
    rw [asTemplate, asArgument]
  · have contained : text.IsSelfContained := shape ▸ isSelfContained_backticked noBare front back last
    have backtick : text.trim.head? = some '\x60' := by
      rw [literal]
      rfl
    rw [asCall contained, usesAtStart_template contained backtick, parsed]

def escapedTemplate : Text := " \x60a \\\x60 $\x7bx && 'b'\x7d\x60".toList

theorem template_read_alike_escaped :
    escapedTemplate.trim.EscapesInside '\x60' ∧ escapedTemplate.IsSelfContained ∧
      parseForm .any 20 escapedTemplate =
        some [⟨"a \\\x60".toList, none⟩, ⟨"b".toList, some "x".toList⟩] ∧
      jsxTemplate.usesAtStart (braced escapedTemplate) = Spelling.call.usesOf escapedTemplate ∧
      Spelling.call.usesOf escapedTemplate =
        some [⟨"a \\\x60".toList, none⟩, ⟨"b".toList, some "x".toList⟩] := by
  have literal : escapedTemplate.trim =
      '\x60' :: "a \\\x60 $\x7bx && 'b'\x7d".toList ++ ['\x60'] := by decide
  have escaped : escapedTemplate.trim.EscapesInside '\x60' := by
    rw [literal]
    exact (Text.escapesInside_iff (by decide)).mpr (by decide)
  have contained : escapedTemplate.IsSelfContained := ⟨by decide, by decide⟩
  obtain ⟨general, attributes⟩ := template_read_alike escaped
  have parsed : parseTemplate escapedTemplate =
      some [⟨"a \\\x60".toList, none⟩, ⟨"b".toList, some "x".toList⟩] := by decide +kernel
  obtain ⟨same, asCall⟩ := attributes parsed
  exact ⟨escaped, contained, general 20 (by decide) (by decide +kernel), same, asCall contained⟩

end ClassUsage

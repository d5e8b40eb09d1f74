import ClassUsage.Proofs.CleanScan
import ClassUsage.Proofs.DocumentExtraction

set_option autoImplicit false

/-!
A tag with one attribute, an expression in braces. The start of the expression alone decides which
locator reads it, and where that one does not accept the whole of it, no other steps in.
-/
namespace ClassUsage

/-- Nothing opens in the name of the tag. -/
theorem locate_tag (form : AttributeForm) (rest : Text) :
    form.locator.locate ("<a ".toList ++ rest) = form.locator.locateFrom 3 0 (some ' ') rest := by
  cases form <;> rfl

theorem exists_finds_of_mem_tag {rest : Text} {extraction : Extraction}
    (located : extraction ∈ allLocators.flatMap (·.locate ("<a ".toList ++ rest))) :
    ∃ (form : AttributeForm) (front behind : Text) (found : Attribute), rest = front ++ behind ∧
      form.locator.Finds (front.getLast?.or (some ' ')) behind found ∧
      extraction = found.extractionAt (3 + front.length) := by
  rw [← AttributeForm.map_locator_all] at located
  obtain ⟨locator, listed, reported⟩ := List.mem_flatMap.mp located
  obtain ⟨form, -, rfl⟩ := List.mem_map.mp listed
  rw [locate_tag] at reported
  exact ⟨form, Locator.reports_of_mem_locateFrom reported⟩

/-- An extraction right behind the name of the tag is what some locator finds there. -/
theorem exists_finds_of_mem_extractAll {rest : Text} {extraction : Extraction}
    (extracted : extraction ∈ extractAll ("<a ".toList ++ rest))
    (start : extraction.range.start = 3) :
    ∃ (form : AttributeForm) (found : Attribute), form.locator.Finds (some ' ') rest found ∧
      extraction = found.extractionAt 3 := by
  obtain ⟨form, front, behind, found, rfl, finds, rfl⟩ :=
    exists_finds_of_mem_tag (mem_of_mem_removeOverlaps extracted)
  have atStart : front = [] := by
    apply List.eq_nil_of_length_eq_zero
    simp only [Attribute.extractionAt] at start
    omega
  subst atStart
  exact ⟨form, found, finds, rfl⟩

/-- No attribute begins in the end of the tag. -/
theorem of?_tagEnd {front behind : Text} (parts : " />".toList = front ++ behind) :
    AttributeForm.of? behind = none := by
  have short := congrArg List.length parts
  rw [List.length_append] at short
  have place : front.length < 4 := Nat.lt_succ_of_le (Nat.le.intro short.symm)
  have cut : behind = " />".toList.drop front.length := by rw [parts, List.drop_left]
  have none_begins : ∀ place < 4, AttributeForm.of? (" />".toList.drop place) = none := by decide
  rw [cut, none_begins front.length place]

/-- An attribute that takes up all of the tag but its name is the only extraction. -/
theorem extractAll_tag {form : AttributeForm} {taken : Text} {found : Attribute}
    (filled : taken ≠ []) (finds : form.locator.Finds (some ' ') (taken ++ " />".toList) found)
    (length : found.length = taken.length) :
    extractAll ("<a ".toList ++ (taken ++ " />".toList)) = [found.extractionAt 3] := by
  have member : found.extractionAt 3 ∈
      allLocators.flatMap (·.locate ("<a ".toList ++ (taken ++ " />".toList))) := by
    apply List.mem_flatMap.mpr
    refine ⟨form.locator, ?_, ?_⟩
    · rw [← AttributeForm.map_locator_all]
      exact List.mem_map_of_mem form.mem_all
    · rw [locate_tag]
      exact Locator.mem_locateFrom_of_finds finds (by simp [filled]) 3
  apply removeOverlaps_eq_singleton member
  · simp only [Attribute.extractionAt]
    omega
  · intro other located
    obtain ⟨otherForm, front, behind, otherFound, parts, otherFinds, rfl⟩ :=
      exists_finds_of_mem_tag located
    by_contra late
    have long : taken.length ≤ front.length := by
      simp only [Attribute.extractionAt, length] at late
      omega
    have atEnd : ∃ more, " />".toList = more ++ behind := by
      rcases List.append_eq_append_iff.mp parts with ⟨more, -, tail⟩ | ⟨more, extended, tail⟩
      · exact ⟨more, tail⟩
      · have short := congrArg List.length extended
        rw [List.length_append] at short
        have noMore : more = [] := List.eq_nil_of_length_eq_zero (by omega)
        rw [noMore, List.nil_append] at tail
        exact ⟨[], tail.symm⟩
    obtain ⟨more, tail⟩ := atEnd
    have none_begins := of?_tagEnd tail
    rw [AttributeForm.of?_of_finds otherForm otherFinds] at none_begins
    cases none_begins
  · intro other located
    obtain ⟨otherForm, front, behind, otherFound, parts, otherFinds, rfl⟩ :=
      exists_finds_of_mem_tag located
    cases front with
    | cons c front =>
      right
      simp only [Attribute.extractionAt, List.length_cons]
      omega
    | nil =>
      left
      rw [List.nil_append] at parts
      rw [List.getLast?_nil, Option.none_or, ← parts] at otherFinds
      obtain rfl := AttributeForm.found_eq_of_finds otherFinds finds
      rfl

theorem IsCallee.isClean {callee : Text} (is : IsCallee callee) : Text.IsClean callee := by
  obtain ⟨before, helper, after, front, listed, back, rfl⟩ := is
  have ordinary : ∀ helper ∈ helperNames, ∀ c ∈ helper, Text.IsOrdinary c := by
    have all : (helperNames.all fun helper => helper.all fun c => decide (Text.IsOrdinary c)) =
        true := by decide
    exact fun helper listed => Text.forall_mem_of_all (List.all_eq_true.mp all helper listed)
  exact (front.isClean.append (Text.isClean_of_forall (ordinary helper listed))).append back.isClean

/-- What closes the braces around an expression that begins with a call stands right behind it. -/
theorem isBlanks_behind_call {callee inner behind tail rest : Text} (is : IsCallee callee)
    (contained : Text.IsSelfContained (callee ++ '(' :: (inner ++ ')' :: behind)))
    (closes : Scan.opened.ClosesAfter .round inner)
    (brace : Text.afterBlanksAnd? '}' (behind ++ '}' :: tail) = some rest) :
    Text.IsBlanks behind ∧ rest = tail := by
  obtain ⟨blanks, are, parts⟩ := (Text.afterBlanksAnd?_eq_some_iff (by decide)).mp brace
  have outside : ∀ more, behind ≠ blanks ++ '}' :: more := by
    rintro more rfl
    have called : Scan.fresh.run (callee ++ '(' :: (inner ++ ')' :: blanks)) = Scan.fresh := by
      have opens : Scan.fresh.step '(' = Scan.opened := rfl
      have returns : (Scan.opened.run inner).step ')' = Scan.fresh := closes.step_eq_fresh
      rw [Scan.run_append, is.isClean.closed, Scan.run_cons, opens, Scan.run_append, Scan.run_cons,
        returns, are.isClean.closed]
    have below := Scan.mem_trace_append Scan.fresh (callee ++ '(' :: (inner ++ ')' :: blanks)) '}' more
    rw [called] at below
    have covered := contained.covered (Scan.fresh.step '}')
    simp only [List.append_assoc, List.cons_append] at below covered
    exact absurd (covered below) (by decide)
  have noBrace : '}' ∉ blanks := by
    intro member
    exact absurd (are '}' member) (by decide)
  obtain ⟨more, extended, tails⟩ := exists_append_of_not_mem noBrace parts
  cases more with
  | nil =>
    rw [List.append_nil] at extended
    exact ⟨extended ▸ are, (List.cons.inj tails).2⟩
  | cons c more =>
    obtain rfl := (List.cons.inj tails).1
    exact absurd extended (outside more)

theorem parseForm_trim (form : ExpressionForm) (limit : Int) (text : Text) :
    parseForm form limit text.trim = parseForm form limit text := by
  unfold parseForm ExpressionForm.usesOf
  rw [Text.trim_trim]

def braced (inner : Text) : Text := "className".toList ++ '=' :: '{' :: inner ++ ['}']

theorem braced_append (inner behind : Text) :
    braced inner ++ behind = "className".toList ++ (['='] ++ '{' :: (inner ++ '}' :: behind)) := by
  have shape : ∀ name : Text, name ++ '=' :: '{' :: inner ++ ['}'] ++ behind =
      name ++ (['='] ++ '{' :: (inner ++ '}' :: behind)) := by
    intro name
    simp only [List.append_assoc, List.cons_append, List.nil_append]
  exact shape "className".toList

theorem length_braced (inner : Text) : (braced inner).length = 12 + inner.length := by
  have shape : ∀ name : Text, (name ++ '=' :: '{' :: inner ++ ['}']).length =
      name.length + (3 + inner.length) := by
    intro name
    simp only [List.length_append, List.length_cons, List.length_nil]
    omega
  have letters : "className".toList.length = 9 := by decide
  have whole : (braced inner).length = _ := shape "className".toList
  rw [whole, letters]
  omega

theorem braceOpening?_braced {previous : Option Char} (begins : mayBeginAttribute previous = true)
    (inner behind : Text) :
    braceOpening? previous (braced inner ++ behind) =
      some ("className".toList, inner ++ '}' :: behind) := by
  have equals : Text.IsEquals ['='] := ⟨[], [], Text.isBlanks_nil, Text.isBlanks_nil, rfl⟩
  exact braceOpening?_eq_some_iff.mpr
    ⟨begins, Or.inl rfl, ['='], equals, braced_append inner behind⟩

theorem of?_braced (inner behind : Text) :
    AttributeForm.of? (braced inner ++ behind) =
      some (AttributeForm.ofBraces (inner ++ '}' :: behind)) := by
  have equals : Text.IsEquals ['='] := ⟨[], [], Text.isBlanks_nil, Text.isBlanks_nil, rfl⟩
  rw [braced_append]
  exact AttributeForm.of?_braces (Or.inl rfl) equals (inner ++ '}' :: behind)

section

variable {previous : Option Char} {inner behind : Text} {found : Attribute}
  (contained : inner.IsSelfContained)

include contained

theorem balanced_braced :
    Scan.opened.balanced .curly (inner ++ '}' :: behind) = some (inner, behind) :=
  Scan.closesAfter_of_isSelfContained contained .curly behind

variable (begins : mayBeginAttribute previous = true)

include begins

theorem jsxTemplate_finds_braced :
    jsxTemplate.Finds previous (braced inner ++ behind) found ↔
      inner.trim.head? = some '\x60' ∧ (parseTemplate inner).getD [] ≠ [] ∧
        found = ⟨.template, "className".toList, (parseTemplate inner).getD [], (braced inner).length⟩ := by
  have sameParse : parseTemplate inner.trim = parseTemplate inner := parseForm_trim .template _ inner
  rw [jsxTemplate_finds_iff]
  constructor
  · rintro ⟨name, inside, content, rest, opened, closed, backtick, whole⟩
    rw [braceOpening?_braced begins] at opened
    cases opened
    rw [balanced_braced contained] at closed
    cases closed
    rw [attributeUpTo_eq_some_iff, sameParse] at whole
    exact ⟨backtick, whole⟩
  · rintro ⟨backtick, whole⟩
    rw [← sameParse] at whole
    exact ⟨_, _, inner, behind, braceOpening?_braced begins inner behind, balanced_braced contained, backtick,
      attributeUpTo_eq_some_iff.mpr whole⟩

theorem jsxExpression_finds_braced :
    jsxExpression.Finds previous (braced inner ++ behind) found ↔
      inner.trim.head? ≠ some '\x60' ∧ helperCall? inner = none ∧
        (parseExpression inner).getD [] ≠ [] ∧
        found = ⟨.mixed, "className".toList, (parseExpression inner).getD [], (braced inner).length⟩ := by
  have sameParse : parseExpression inner.trim = parseExpression inner := parseForm_trim .any _ inner
  rw [jsxExpression_finds_iff]
  constructor
  · rintro ⟨name, inside, content, rest, opened, closed, backtick, noCall, whole⟩
    rw [braceOpening?_braced begins] at opened
    cases opened
    rw [balanced_braced contained] at closed
    cases closed
    rw [attributeUpTo_eq_some_iff, sameParse] at whole
    rw [helperCall?_append, Option.map_eq_none_iff] at noCall
    exact ⟨backtick, noCall, whole⟩
  · rintro ⟨backtick, noCall, whole⟩
    rw [← sameParse] at whole
    have noCallBehind : helperCall? (inner ++ '}' :: behind) = none := by
      rw [helperCall?_append, noCall]
      rfl
    exact ⟨_, _, inner, behind, braceOpening?_braced begins inner behind, balanced_braced contained, backtick,
      noCallBehind, attributeUpTo_eq_some_iff.mpr whole⟩

theorem helperCall_finds_braced (noRound : ')' ∉ behind) :
    helperCall.Finds previous (braced inner ++ behind) found ↔
      ∃ content arguments blanks, helperCall? inner = some content ∧
        Scan.opened.balanced .round content = some (arguments, blanks) ∧ Text.IsBlanks blanks ∧
        argumentUses (helperArguments arguments) ≠ [] ∧
        found = ⟨.helper, "className".toList, argumentUses (helperArguments arguments),
          (braced inner).length⟩ := by
  have absent : Bracket.round.closer ∉ '}' :: behind := by
    intro member
    rcases List.mem_cons.mp member with equal | later
    · exact absurd equal (by decide)
    · exact noRound later
  rw [helperCall_finds_iff]
  constructor
  · rintro ⟨name, inside, content, arguments, closed, rest, opened, called, balanced, brace, whole⟩
    rw [braceOpening?_braced begins] at opened
    cases opened
    rw [helperCall?_append] at called
    obtain ⟨content, calledInside, rfl⟩ := Option.map_eq_some_iff.mp called
    obtain ⟨blanks, within, rfl⟩ := (Scan.balanced_append_iff absent).mp balanced
    obtain ⟨callee, is, shape⟩ := helperCall?_sound calledInside
    obtain ⟨closes, rfl⟩ := Scan.balanced_eq_some_iff.mp within
    rw [shape] at contained
    obtain ⟨are, rfl⟩ := isBlanks_behind_call is contained closes brace
    rw [attributeUpTo_eq_some_iff] at whole
    exact ⟨_, arguments, blanks, calledInside, within, are, whole⟩
  · rintro ⟨content, arguments, blanks, called, within, are, whole⟩
    have calledBehind : helperCall? (inner ++ '}' :: behind) = some (content ++ '}' :: behind) := by
      rw [helperCall?_append, called]
      rfl
    have balanced := (Scan.balanced_append_iff absent).mpr ⟨blanks, within, rfl⟩
    have brace : Text.afterBlanksAnd? '}' (blanks ++ '}' :: behind) = some behind :=
      (Text.afterBlanksAnd?_eq_some_iff (by decide)).mpr ⟨blanks, are, rfl⟩
    exact ⟨_, _, _, arguments, _, behind, braceOpening?_braced begins inner behind, calledBehind, balanced,
      brace, attributeUpTo_eq_some_iff.mpr whole⟩

end

/-- The uses that a locator finds in the braces, where it can be known from the start of the expression
which locator it is. -/
theorem exists_finds_braced_iff {inner : Text} (contained : inner.IsSelfContained)
    {uses : List ClassUse} (parsed : parseExpression inner = some uses) :
    (∃ (form : AttributeForm) (found : Attribute),
      form.locator.Finds (some ' ') (braced inner ++ " />".toList) found ∧
        found.length = (braced inner).length ∧ found.uses = uses) ↔
      (inner.trim.head? = some '\x60' → parseTemplate inner = some uses) ∧
        ∀ content, helperCall? inner = some content →
          ∃ arguments blanks, Scan.opened.balanced .round content = some (arguments, blanks) ∧
            Text.IsBlanks blanks ∧ argumentUses (helperArguments arguments) = uses := by
  have filled : uses ≠ [] := (matchOf_eq_some parsed).2
  have begins : mayBeginAttribute (some ' ') = true := by decide
  have noRound : ')' ∉ " />".toList := by decide
  have callForm : ∀ content, helperCall? inner = some content →
      AttributeForm.ofBraces (inner ++ '}' :: " />".toList) = .call := by
    intro content called
    have calledBehind : helperCall? (inner ++ '}' :: " />".toList) =
        some (content ++ '}' :: " />".toList) := by
      rw [helperCall?_append, called]
      rfl
    exact AttributeForm.ofBraces_call calledBehind
  constructor
  · rintro ⟨form, found, finds, -, rfl⟩
    have known := AttributeForm.of?_of_finds form finds
    rw [of?_braced] at known
    by_cases backtick : inner.trim.head? = some '\x60'
    · have isTemplate := AttributeForm.ofBraces_template backtick " />".toList
      rw [isTemplate] at known
      cases known
      obtain ⟨-, matched, rfl⟩ := (jsxTemplate_finds_braced contained begins).mp finds
      constructor
      · intro _
        cases read : parseTemplate inner with
        | none =>
          rw [read] at matched
          exact absurd rfl matched
        | some found => rfl
      · intro content called
        rw [callForm content called] at isTemplate
        cases isTemplate
    · refine ⟨fun first => absurd first backtick, ?_⟩
      intro content called
      rw [callForm content called] at known
      cases known
      obtain ⟨other, arguments, blanks, also_called, within, are, -, rfl⟩ :=
        (helperCall_finds_braced contained begins noRound).mp finds
      rw [called] at also_called
      cases also_called
      exact ⟨arguments, blanks, within, are, rfl⟩
  · rintro ⟨asTemplate, asCall⟩
    by_cases backtick : inner.trim.head? = some '\x60'
    · have read : (parseTemplate inner).getD [] = uses := by
        rw [asTemplate backtick]
        rfl
      exact ⟨.template, _,
        (jsxTemplate_finds_braced contained begins).mpr ⟨backtick, by rwa [read], rfl⟩, rfl, read⟩
    · cases called : helperCall? inner with
      | none =>
        have read : (parseExpression inner).getD [] = uses := by
          rw [parsed]
          rfl
        exact ⟨.expression, _,
          (jsxExpression_finds_braced contained begins).mpr ⟨backtick, called, by rwa [read], rfl⟩, rfl, read⟩
      | some content =>
        obtain ⟨arguments, blanks, within, are, read⟩ := asCall content called
        exact ⟨.call, _, (helperCall_finds_braced contained begins noRound).mpr
          ⟨content, arguments, blanks, called, within, are, by rwa [read], rfl⟩, rfl, read⟩

/-- In a tag with an expression in braces, a self-contained expression that is a match is extracted with
its uses exactly if it goes on to its end as it starts: with a backtick as a template literal, and with
the name of a helper as the call of that helper, each with the same uses. -/
theorem extractAll_braced_iff {inner : Text} (contained : inner.IsSelfContained)
    {uses : List ClassUse} (parsed : parseExpression inner = some uses) :
    (∃ extraction, extractAll ("<a className=\x7b".toList ++ inner ++ "\x7d />".toList) = [extraction] ∧
      extraction.range = ⟨3, 15 + inner.length⟩ ∧ extraction.uses = uses) ↔
      (inner.trim.head? = some '\x60' → parseTemplate inner = some uses) ∧
        ∀ content, helperCall? inner = some content →
          ∃ arguments blanks, Scan.opened.balanced .round content = some (arguments, blanks) ∧
            Text.IsBlanks blanks ∧ argumentUses (helperArguments arguments) = uses := by
  have document : "<a className=\x7b".toList ++ inner ++ "\x7d />".toList =
      "<a ".toList ++ (braced inner ++ " />".toList) := by
    rw [braced_append]
    exact List.append_assoc "<a className=\x7b".toList inner "\x7d />".toList
  have length := length_braced inner
  rw [← exists_finds_braced_iff contained parsed, document]
  constructor
  · rintro ⟨extraction, single, range, rfl⟩
    have extracted : extraction ∈ extractAll ("<a ".toList ++ (braced inner ++ " />".toList)) := by
      rw [single]
      exact List.mem_singleton_self extraction
    obtain ⟨form, found, finds, rfl⟩ := exists_finds_of_mem_extractAll extracted (by rw [range])
    refine ⟨form, found, finds, ?_, rfl⟩
    simp only [Attribute.extractionAt, SourceRange.mk.injEq] at range
    omega
  · rintro ⟨form, found, finds, whole, rfl⟩
    have filled : braced inner ≠ [] := List.cons_ne_nil _ _
    refine ⟨_, extractAll_tag filled finds whole, ?_, rfl⟩
    simp only [Attribute.extractionAt, SourceRange.mk.injEq]
    omega

theorem extractAll_braced_started :
    (∃ extraction, extractAll ("<a className=\x7b".toList ++ "x && 'b'".toList ++ "\x7d />".toList) =
        [extraction] ∧
      extraction.range = ⟨3, 23⟩ ∧ extraction.uses = [⟨"b".toList, some "x".toList⟩]) ∧
    ¬ ∃ extraction, extractAll
          ("<a className=\x7b".toList ++ "cn(x) && 'b'".toList ++ "\x7d />".toList) = [extraction] ∧
        extraction.range = ⟨3, 27⟩ ∧ extraction.uses = [⟨"b".toList, some "cn(x)".toList⟩] := by
  have parsed : parseExpression "x && 'b'".toList = some [⟨"b".toList, some "x".toList⟩] := by
    decide +kernel
  have also_parsed : parseExpression "cn(x) && 'b'".toList =
      some [⟨"b".toList, some "cn(x)".toList⟩] := by decide +kernel
  constructor
  · apply (extractAll_braced_iff ⟨by decide, by decide⟩ parsed).mpr
    refine ⟨fun backtick => absurd backtick (by decide), ?_⟩
    intro content called
    exact absurd (called ▸ (by decide : helperCall? "x && 'b'".toList = none)) nofun
  · apply (extractAll_braced_iff ⟨by decide, by decide⟩ also_parsed).not.mpr
    rintro ⟨-, asCall⟩
    obtain ⟨arguments, blanks, within, are, -⟩ := asCall "x) && 'b'".toList (by decide)
    have read : Scan.opened.balanced .round "x) && 'b'".toList = some ("x".toList, " && 'b'".toList) := by
      decide
    rw [read] at within
    cases within
    exact absurd (are '&' (by decide)) (by decide)

theorem call_with_operator_lost :
    Text.IsSelfContained "cn(x) && 'b'".toList ∧
      parseExpression "cn(x) && 'b'".toList = some [⟨"b".toList, some "cn(x)".toList⟩] ∧
      extractAll "<a className=\x7bcn(x) && 'b'\x7d />".toList = [] :=
  ⟨⟨by decide, by decide⟩, by decide +kernel, by decide +kernel⟩

end ClassUsage

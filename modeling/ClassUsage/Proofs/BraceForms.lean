import ClassUsage.Proofs.AttributeForms

set_option autoImplicit false

/-!
Attributes with an expression in braces. What tells them apart, a backtick or the call of a helper at
the start of the expression, is decided in front of the closing brace.
-/
namespace ClassUsage

theorem braceOpening?_eq_some_iff {previous : Option Char} {text name inside : Text} :
    braceOpening? previous text = some (name, inside) ↔
      mayBeginAttribute previous = true ∧ Text.IsClassName name ∧
        ∃ gap, Text.IsEquals gap ∧ text = name ++ (gap ++ '{' :: inside) := by
  simp only [braceOpening?, Option.bind_eq_bind, Option.bind_eq_some_iff, Prod.exists,
    Option.guard_eq_some', Option.some.injEq, Prod.mk.injEq, exists_const]
  constructor
  · rintro ⟨known, behind, named, begins, opened, equals, inner, brace, rfl, rfl⟩
    obtain ⟨isName, rfl⟩ := Text.className?_eq_some named
    obtain ⟨gap, isGap, rfl, -⟩ := Text.afterEquals?_eq_some_iff.mp equals
    rw [Text.after?_eq_some_iff.mp brace]
    exact ⟨begins, isName, gap, isGap, rfl⟩
  · rintro ⟨begins, isName, gap, isGap, rfl⟩
    refine ⟨name, _, Text.className?_of_equals isName isGap _, begins, '{' :: inside, ?_, inside,
      Text.after?_append ['{'] inside, rfl, rfl⟩
    exact Text.afterEquals?_append isGap (by decide) inside

/-- The call of a helper at the start of an expression, up to the bracket of its arguments. -/
def helperCall? (inside : Text) : Option Text :=
  helperNames.findSome? fun helper => do
    let rest ← inside.trimStart.after? helper
    rest.afterBlanksAnd? '('

theorem helperOpening?_eq (previous : Option Char) (text : Text) :
    helperOpening? previous text =
      (braceOpening? previous text).bind fun opened =>
        (helperCall? opened.2).map fun inside => (opened.1, inside) := by
  unfold helperOpening? helperCall?
  cases braceOpening? previous text with
  | none => rfl
  | some opened =>
    simp only [Option.bind_eq_bind, Option.bind_some]
    exact (Option.map_eq_bind ..).symm

/-- A helper name with blanks around it, as it stands in front of the bracket of its arguments. -/
def IsCallee (callee : Text) : Prop :=
  ∃ before helper after, Text.IsBlanks before ∧ helper ∈ helperNames ∧ Text.IsBlanks after ∧
    callee = before ++ helper ++ after

theorem helperNames_solid : ∀ helper ∈ helperNames,
    helper ≠ [] ∧ ∀ c ∈ helper, c ≠ '(' ∧ c ≠ '}' ∧ c ≠ '\x60' ∧ isBlank c = false := by
  have solid : (helperNames.all fun helper => !helper.isEmpty && helper.all fun c =>
      decide (c ≠ '(' ∧ c ≠ '}' ∧ c ≠ '\x60' ∧ isBlank c = false)) = true := by decide
  intro helper listed
  obtain ⟨filled, inside⟩ := Bool.and_eq_true_iff.mp (List.all_eq_true.mp solid helper listed)
  exact ⟨by simpa using filled, Text.forall_mem_of_all inside⟩

theorem IsCallee.not_mem {callee : Text} (is : IsCallee callee) : '(' ∉ callee ∧ '}' ∉ callee := by
  obtain ⟨before, helper, after, front, listed, back, rfl⟩ := is
  have solid := (helperNames_solid helper listed).2
  have absent : ∀ c : Char, isBlank c = false → (∀ d ∈ helper, d ≠ c) →
      c ∉ before ++ helper ++ after := by
    intro c notBlank notHelper member
    rcases List.mem_append.mp member with inFront | inAfter
    · rcases List.mem_append.mp inFront with inBefore | inHelper
      · rw [front c inBefore] at notBlank
        cases notBlank
      · exact notHelper c inHelper rfl
    · rw [back c inAfter] at notBlank
      cases notBlank
  exact ⟨absent '(' (by decide) fun d member => (solid d member).1,
    absent '}' (by decide) fun d member => (solid d member).2.1⟩

/-- A text is cut at the first place of a character in one way only. -/
theorem eq_of_append_cons {c : Char} {first second front back : Text} (inFirst : c ∉ first)
    (inSecond : c ∉ second) (same : first ++ c :: front = second ++ c :: back) : front = back := by
  induction first generalizing second with
  | nil =>
    cases second with
    | nil => exact (List.cons.inj same).2
    | cons d second => exact absurd (List.cons.inj same).1 (List.ne_of_not_mem_cons inSecond)
  | cons d first ih =>
    cases second with
    | nil => exact absurd (List.cons.inj same).1.symm (List.ne_of_not_mem_cons inFirst)
    | cons e second =>
      exact ih (List.not_mem_of_not_mem_cons inFirst) (List.not_mem_of_not_mem_cons inSecond)
        (List.cons.inj same).2

/-- If a text begins with one that does not hold a character, so does its part in front of that
character. -/
theorem exists_append_of_not_mem {c : Char} {first second front back : Text} (absent : c ∉ second)
    (same : first ++ c :: front = second ++ back) :
    ∃ more, first = second ++ more ∧ back = more ++ c :: front := by
  rcases List.append_eq_append_iff.mp same with ⟨more, extended, tail⟩ | ⟨more, extended, tail⟩
  · cases more with
    | nil => exact ⟨[], by rw [extended, List.append_nil, List.append_nil], tail.symm⟩
    | cons d more =>
      obtain rfl := (List.cons.inj tail).1
      exact absurd (by rw [extended]; simp) absent
  · exact ⟨more, extended, tail⟩

theorem helperCall?_sound {text inside : Text} (found : helperCall? text = some inside) :
    ∃ callee, IsCallee callee ∧ text = callee ++ '(' :: inside := by
  obtain ⟨helper, listed, read⟩ := List.exists_of_findSome?_eq_some found
  obtain ⟨rest, named, opened⟩ := Option.bind_eq_some_iff.mp read
  obtain ⟨after, back, rfl⟩ := (Text.afterBlanksAnd?_eq_some_iff (by decide)).mp opened
  obtain ⟨before, front, decomposed⟩ := Text.exists_trimStart text
  refine ⟨before ++ helper ++ after, ⟨before, helper, after, front, listed, back, rfl⟩, ?_⟩
  rw [decomposed, Text.eq_of_after named]
  simp only [List.append_assoc]

theorem IsCallee.trimStart_append {callee : Text} (is : IsCallee callee) :
    ∃ helper after, helper ∈ helperNames ∧ Text.IsBlanks after ∧ ∀ inside : Text,
      Text.trimStart (callee ++ '(' :: inside) = helper ++ (after ++ '(' :: inside) := by
  obtain ⟨before, helper, after, front, listed, back, rfl⟩ := is
  refine ⟨helper, after, listed, back, ?_⟩
  intro inside
  obtain ⟨filled, solid⟩ := helperNames_solid helper listed
  rw [List.append_assoc, List.append_assoc, Text.trimStart_append_of_isBlanks front]
  apply Text.trimStart_of_head
  intro c head
  rw [Text.head?_append_of_filled filled] at head
  exact (solid c (List.mem_of_head? head)).2.2.2

theorem helperCall?_eq_some_iff {text inside : Text} :
    helperCall? text = some inside ↔ ∃ callee, IsCallee callee ∧ text = callee ++ '(' :: inside := by
  constructor
  · exact helperCall?_sound
  · rintro ⟨callee, is, rfl⟩
    obtain ⟨helper, after, listed, back, skipped⟩ := is.trimStart_append
    have some_read : (helperCall? (callee ++ '(' :: inside)).isSome := by
      refine List.findSome?_isSome_iff.mpr ⟨helper, listed, ?_⟩
      rw [skipped, Text.after?_append]
      simp only [Option.bind_eq_bind, Option.bind_some]
      rw [(Text.afterBlanksAnd?_eq_some_iff (by decide)).mpr ⟨after, back, rfl⟩]
      rfl
    -- whichever name is tried first, it ends at the first opening bracket
    obtain ⟨other, read⟩ := Option.isSome_iff_exists.mp some_read
    obtain ⟨name, isCallee, same⟩ := helperCall?_sound read
    rw [read, eq_of_append_cons is.not_mem.1 isCallee.not_mem.1 same]

/-- A callee with its bracket in front of a closing brace stands there by itself. -/
theorem IsCallee.exists_of_append_brace {callee inside inner rest : Text} (is : IsCallee callee)
    (same : inner ++ '}' :: rest = callee ++ '(' :: inside) :
    ∃ content, inner = callee ++ '(' :: content := by
  obtain ⟨more, rfl, tail⟩ := exists_append_of_not_mem is.not_mem.2 same
  cases more with
  | nil => simp at tail
  | cons c content =>
    obtain rfl := (List.cons.inj tail).1
    exact ⟨content, rfl⟩

/-- A closing brace and what stands behind it make no difference to the call of a helper. -/
theorem helperCall?_append (inner rest : Text) :
    helperCall? (inner ++ '}' :: rest) = (helperCall? inner).map (· ++ '}' :: rest) := by
  cases read : helperCall? inner with
  | some content =>
    obtain ⟨callee, is, rfl⟩ := helperCall?_sound read
    rw [List.append_assoc, List.cons_append]
    exact helperCall?_eq_some_iff.mpr ⟨callee, is, rfl⟩
  | none =>
    cases also_read : helperCall? (inner ++ '}' :: rest) with
    | none => rfl
    | some inside =>
      obtain ⟨callee, is, shape⟩ := helperCall?_sound also_read
      obtain ⟨content, rfl⟩ := is.exists_of_append_brace shape
      rw [helperCall?_eq_some_iff.mpr ⟨callee, is, rfl⟩] at read
      cases read

theorem helperCall?_eq_none {inner rest : Text} (none_read : helperCall? (inner ++ '}' :: rest) = none)
    (other : Text) : helperCall? (inner ++ '}' :: other) = none := by
  rw [helperCall?_append, Option.map_eq_none_iff] at none_read
  rw [helperCall?_append, none_read]
  rfl

theorem jsxTemplate_finds_iff {previous : Option Char} {text : Text} {found : Attribute} :
    jsxTemplate.Finds previous text found ↔
      ∃ name inside inner rest, braceOpening? previous text = some (name, inside) ∧
        Scan.opened.balanced .curly inside = some (inner, rest) ∧ inner.trim.head? = some '\x60' ∧
        attributeUpTo text rest .template name ((parseTemplate inner.trim).getD []) = some found := by
  simp only [Locator.Finds, jsxTemplate, openingUpTo, Option.bind_eq_bind, Option.bind_eq_some_iff,
    Prod.exists, Option.guard_eq_some', Option.some.injEq, Opening.mk.injEq, exists_const]
  constructor
  · rintro ⟨-, name, inside, opened, -, inner, rest, closed, backtick, whole⟩
    exact ⟨name, inside, inner, rest, opened, closed, backtick, whole⟩
  · rintro ⟨name, inside, inner, rest, opened, closed, backtick, whole⟩
    exact ⟨_, name, inside, opened, rfl, inner, rest, closed, backtick, whole⟩

theorem jsxExpression_finds_iff {previous : Option Char} {text : Text} {found : Attribute} :
    jsxExpression.Finds previous text found ↔
      ∃ name inside inner rest, braceOpening? previous text = some (name, inside) ∧
        Scan.opened.balanced .curly inside = some (inner, rest) ∧ inner.trim.head? ≠ some '\x60' ∧
        helperCall? inside = none ∧
        attributeUpTo text rest .mixed name ((parseExpression inner.trim).getD []) = some found := by
  simp only [Locator.Finds, jsxExpression, openingUpTo, Option.bind_eq_bind, Option.bind_eq_some_iff,
    Prod.exists, Option.guard_eq_some', Option.some.injEq, Opening.mk.injEq, exists_const,
    helperOpening?_eq]
  constructor
  · rintro ⟨-, name, inside, opened, -, inner, rest, closed, ⟨backtick, noCall⟩, whole⟩
    rw [opened] at noCall
    refine ⟨name, inside, inner, rest, opened, closed, backtick, ?_, whole⟩
    simpa using noCall
  · rintro ⟨name, inside, inner, rest, opened, closed, backtick, noCall, whole⟩
    refine ⟨_, name, inside, opened, rfl, inner, rest, closed, ⟨backtick, ?_⟩, whole⟩
    rw [opened]
    simpa using noCall

theorem helperCall_finds_iff {previous : Option Char} {text : Text} {found : Attribute} :
    helperCall.Finds previous text found ↔
      ∃ name inside content inner behind rest, braceOpening? previous text = some (name, inside) ∧
        helperCall? inside = some content ∧
        Scan.opened.balanced .round content = some (inner, behind) ∧
        behind.afterBlanksAnd? '}' = some rest ∧
        attributeUpTo text rest .helper name (argumentUses (helperArguments inner)) = some found := by
  simp only [Locator.Finds, helperCall, openingUpTo, Option.bind_eq_bind, Option.bind_eq_some_iff,
    Prod.exists, Option.some.injEq, Opening.mk.injEq, helperOpening?_eq, Option.map_eq_some_iff,
    Prod.mk.injEq]
  constructor
  · rintro ⟨-, name, content, ⟨known, inside, opened, found, called, rfl, rfl⟩, -, inner, behind,
      closed, rest, brace, whole⟩
    exact ⟨known, inside, found, inner, behind, rest, opened, called, closed, brace, whole⟩
  · rintro ⟨name, inside, content, inner, behind, rest, opened, called, closed, brace, whole⟩
    exact ⟨_, name, content, ⟨name, inside, opened, content, called, rfl, rfl⟩, rfl, inner, behind,
      closed, rest, brace, whole⟩

/-- An attribute with braces around its expression, as it stands in front of any text. -/
theorem brace_shape (name gap inner tail : Text) :
    name ++ (gap ++ '{' :: (inner ++ Bracket.curly.closer :: tail)) =
      name ++ gap ++ ['{'] ++ inner ++ ['}'] ++ tail := by
  simp only [Bracket.closer, List.append_assoc, List.cons_append, List.nil_append]

theorem jsxTemplate_occupies {previous : Option Char} {text : Text} {found : Attribute}
    (finds : jsxTemplate.Finds previous text found) :
    ∃ taken, jsxTemplate.Occupies text found taken := by
  obtain ⟨name, inside, inner, rest, opened, closed, backtick, whole⟩ := jsxTemplate_finds_iff.mp finds
  obtain ⟨-, known, gap, isGap, rfl⟩ := braceOpening?_eq_some_iff.mp opened
  obtain ⟨closes, rfl⟩ := Scan.balanced_eq_some_iff.mp closed
  refine occupies_of_attributeUpTo (brace_shape ..) (brace_shape ..) whole
    ⟨gap ++ ['{'] ++ inner ++ ['}'], by simp only [List.append_assoc]⟩ known.solid
    (((drawn_getD_parseForm .template defaultDepthLimit inner.trim).of_trim).within _ _) fun same => ?_
  exact jsxTemplate_finds_iff.mpr ⟨name, _, inner, [' '],
    braceOpening?_eq_some_iff.mpr ⟨rfl, known, gap, isGap, rfl⟩, closes _, backtick, same⟩

theorem jsxExpression_occupies {previous : Option Char} {text : Text} {found : Attribute}
    (finds : jsxExpression.Finds previous text found) :
    ∃ taken, jsxExpression.Occupies text found taken := by
  obtain ⟨name, inside, inner, rest, opened, closed, backtick, noCall, whole⟩ :=
    jsxExpression_finds_iff.mp finds
  obtain ⟨-, known, gap, isGap, rfl⟩ := braceOpening?_eq_some_iff.mp opened
  obtain ⟨closes, rfl⟩ := Scan.balanced_eq_some_iff.mp closed
  refine occupies_of_attributeUpTo (brace_shape ..) (brace_shape ..) whole
    ⟨gap ++ ['{'] ++ inner ++ ['}'], by simp only [List.append_assoc]⟩ known.solid
    (((drawn_getD_parseForm .any defaultDepthLimit inner.trim).of_trim).within _ _) fun same => ?_
  exact jsxExpression_finds_iff.mpr ⟨name, _, inner, [' '],
    braceOpening?_eq_some_iff.mpr ⟨rfl, known, gap, isGap, rfl⟩, closes _, backtick,
    helperCall?_eq_none noCall _, same⟩

theorem helperCall_occupies {previous : Option Char} {text : Text} {found : Attribute}
    (finds : helperCall.Finds previous text found) :
    ∃ taken, helperCall.Occupies text found taken := by
  obtain ⟨name, inside, content, inner, behind, rest, opened, called, closed, brace, whole⟩ :=
    helperCall_finds_iff.mp finds
  obtain ⟨-, known, gap, isGap, rfl⟩ := braceOpening?_eq_some_iff.mp opened
  obtain ⟨callee, isCallee, rfl⟩ := helperCall?_sound called
  obtain ⟨closes, rfl⟩ := Scan.balanced_eq_some_iff.mp closed
  obtain ⟨blanks, are, rfl⟩ := (Text.afterBlanksAnd?_eq_some_iff (by decide)).mp brace
  have shape : ∀ tail : Text,
      name ++ (gap ++ '{' :: (callee ++ '(' :: (inner ++ Bracket.round.closer ::
        (blanks ++ '}' :: tail)))) =
      name ++ gap ++ ['{'] ++ callee ++ ['('] ++ inner ++ ([')'] ++ blanks ++ ['}']) ++ tail := by
    intro tail
    simp only [Bracket.closer, List.append_assoc, List.cons_append, List.nil_append]
  refine occupies_of_attributeUpTo (shape rest) (shape [' ']) whole
    ⟨gap ++ ['{'] ++ callee ++ ['('] ++ inner ++ ([')'] ++ blanks ++ ['}']),
      by simp only [List.append_assoc]⟩ known.solid
    ((drawn_argumentUses (helperArguments_inOrder inner)).within _ _) fun same => ?_
  exact helperCall_finds_iff.mpr ⟨name, _, _, inner, _, [' '],
    braceOpening?_eq_some_iff.mpr ⟨rfl, known, gap, isGap, rfl⟩,
    helperCall?_eq_some_iff.mpr ⟨callee, isCallee, rfl⟩, closes _,
    (Text.afterBlanksAnd?_eq_some_iff (by decide)).mpr ⟨blanks, are, rfl⟩, same⟩

theorem solidClassList_finds_iff {previous : Option Char} {text : Text} {found : Attribute} :
    solidClassList.Finds previous text found ↔
      ∃ behind assigned opened inside inner closed rest,
        text.after? "classList".toList = some behind ∧ mayBeginKeyword previous = true ∧
        behind.afterEquals? = some assigned ∧ assigned.after? ['{'] = some opened ∧
        opened.afterBlanksAnd? '{' = some inside ∧
        Scan.opened.balanced .curly inside = some (inner, closed) ∧
        closed.afterBlanksAnd? '}' = some rest ∧
        attributeUpTo text rest .helper "classList".toList
          ((parseObject ('{' :: inner ++ ['}'])).getD []) = some found := by
  simp only [Locator.Finds, solidClassList, openingUpTo, Option.bind_eq_bind, Option.bind_eq_some_iff,
    Prod.exists, Option.guard_eq_some', Option.some.injEq, Opening.mk.injEq, exists_const]
  constructor
  · rintro ⟨-, behind, named, begins, assigned, equals, opened, outer, inside, brace, -, inner, closed,
      balanced, rest, ends, whole⟩
    exact ⟨behind, assigned, opened, inside, inner, closed, rest, named, begins, equals, outer, brace,
      balanced, ends, whole⟩
  · rintro ⟨behind, assigned, opened, inside, inner, closed, rest, named, begins, equals, outer, brace,
      balanced, ends, whole⟩
    exact ⟨_, behind, named, begins, assigned, equals, opened, outer, inside, brace, rfl, inner, closed,
      balanced, rest, ends, whole⟩

theorem solidClassList_occupies {previous : Option Char} {text : Text} {found : Attribute}
    (finds : solidClassList.Finds previous text found) :
    ∃ taken, solidClassList.Occupies text found taken := by
  obtain ⟨behind, assigned, opened, inside, inner, closed, rest, named, -, equals, outer, brace,
    balanced, ends, whole⟩ := solidClassList_finds_iff.mp finds
  obtain rfl := Text.eq_of_after named
  obtain ⟨gap, isGap, rfl, -⟩ := Text.afterEquals?_eq_some_iff.mp equals
  obtain rfl := Text.eq_of_after outer
  obtain ⟨between, areBetween, rfl⟩ := (Text.afterBlanksAnd?_eq_some_iff (by decide)).mp brace
  obtain ⟨closes, rfl⟩ := Scan.balanced_eq_some_iff.mp balanced
  obtain ⟨blanks, are, rfl⟩ := (Text.afterBlanksAnd?_eq_some_iff (by decide)).mp ends
  have shape : ∀ tail : Text,
      "classList".toList ++ (gap ++ (['{'] ++ (between ++ '{' :: (inner ++ Bracket.curly.closer ::
        (blanks ++ '}' :: tail))))) =
      "classList".toList ++ gap ++ ['{'] ++ between ++ ('{' :: inner ++ ['}']) ++ (blanks ++ ['}']) ++
        tail := by
    intro tail
    simp only [Bracket.closer, List.append_assoc, List.cons_append, List.nil_append]
  refine occupies_of_attributeUpTo (shape rest) (shape [' ']) whole
    ⟨gap ++ ['{'] ++ between ++ ('{' :: inner ++ ['}']) ++ (blanks ++ ['}']),
      by simp only [List.append_assoc]⟩
    ⟨'c', "lassList".toList, rfl, by decide⟩
    ((drawn_getD_parseForm .object defaultDepthLimit _).within _ _) fun same => ?_
  exact solidClassList_finds_iff.mpr ⟨_, _, _, _, inner, _, [' '], Text.after?_append _ _, rfl,
    Text.afterEquals?_append isGap (by decide) _, Text.after?_append _ _,
    (Text.afterBlanksAnd?_eq_some_iff (by decide)).mpr ⟨between, areBetween, rfl⟩, closes _,
    (Text.afterBlanksAnd?_eq_some_iff (by decide)).mpr ⟨blanks, are, rfl⟩, same⟩

end ClassUsage

import ClassUsage.Proofs.BracedAttribute
import ClassUsage.Proofs.LocatorOrder
import ClassUsage.Proofs.PhraseReading

set_option autoImplicit false

/-!
One value written in several dialects. Quotation marks, braces and the call of a helper all delimit the
same text, and an object or an array is then read alike, whichever way it has been delimited.
-/
namespace ClassUsage

/-- The uses of the attribute that a document begins with, as a locator reports it. -/
def Locator.usesAtStart (locator : Locator) (document : Text) : Option (List ClassUse) :=
  ((locator.locate document).find? (·.range.start == 0)).map (·.uses)

theorem Locator.find?_locateFrom_eq_none (locator : Locator) (passed : Nat) (previous : Option Char)
    (text : Text) :
    (locator.locateFrom 1 passed previous text).find? (·.range.start == 0) = none := by
  apply List.find?_eq_none.mpr
  intro extraction located
  have behind := start_of_mem_locateFrom located
  simp only [beq_iff_eq]
  omega

/-- What a locator reports at the start is what it finds there. -/
theorem Locator.usesAtStart_eq {locator : Locator} {document name : Text} {kind : Kind} {length : Nat}
    {uses : List ClassUse} (filled : document ≠ [])
    (finds : ∀ found, locator.Finds none document found ↔ uses ≠ [] ∧ found = ⟨kind, name, uses, length⟩) :
    locator.usesAtStart document = matchOf (.ok uses) := by
  cases document with
  | nil => exact absurd rfl filled
  | cons c rest =>
    have later := locator.find?_locateFrom_eq_none
    cases uses with
    | cons use others =>
      obtain ⟨passed, opens⟩ := (finds _).mpr ⟨List.cons_ne_nil use others, rfl⟩
      rw [usesAtStart, locate, locateFrom, opens]
      simp [Attribute.extractionAt, matchOf]
    | nil =>
      rw [usesAtStart, locate, locateFrom]
      split
      · rw [later]
        rfl
      · rename_i opening opens
        have notFound : opening.found = none := by
          cases read : opening.found with
          | none => rfl
          | some found =>
            have reported := (finds found).mp ⟨opening.length, by rw [opens, ← read]⟩
            exact absurd rfl reported.1
        rw [notFound, Option.map_none, Option.toList_none, List.nil_append, later]
        rfl

theorem Locator.usesAtStart_eq_none {locator : Locator} {document : Text} (filled : document ≠ [])
    (silent : ∀ found, ¬ locator.Finds none document found) : locator.usesAtStart document = none := by
  have finds : ∀ found, locator.Finds none document found ↔
      ([] : List ClassUse) ≠ [] ∧ found = ⟨.mixed, [], [], 0⟩ :=
    fun found => ⟨fun finds => absurd finds (silent found), fun reported => absurd rfl reported.1⟩
  exact usesAtStart_eq filled finds

/-- The same for a locator that opens with an attribute up to the end of the document. -/
theorem Locator.usesAtStart_of_opens {locator : Locator} {document name : Text} {kind : Kind}
    {uses : List ClassUse} (filled : document ≠ [])
    (opens : ∃ passed, locator none document =
      some ⟨passed, attributeUpTo document [] kind name uses⟩) :
    locator.usesAtStart document = matchOf (.ok uses) := by
  obtain ⟨passed, opens⟩ := opens
  apply usesAtStart_eq filled
  intro found
  have whole : attributeUpTo (document ++ []) [] kind name uses = some found ↔
      uses ≠ [] ∧ found = ⟨kind, name, uses, document.length⟩ := attributeUpTo_eq_some_iff
  rw [List.append_nil] at whole
  rw [← whole, Finds, opens]
  simp

def marked (value : Text) : Text := '\x22' :: value ++ ['\x22']

/-- The ways to write an attribute with a value that is an expression. -/
inductive Spelling where
  /-- `:class="value"` -/
  | vue
  /-- `[ngClass]="value"` -/
  | angular
  /-- `classList={value}` -/
  | solid
  /-- `className={value}` -/
  | expression
  /-- `className={clsx(value)}` -/
  | call
deriving DecidableEq, Repr

namespace Spelling

def locator : Spelling → Locator
  | vue => vueBinding
  | angular => angularNgClass
  | solid => solidClassList
  | expression => jsxExpression
  | call => helperCall

def document (value : Text) : Spelling → Text
  | vue => ":class=".toList ++ marked value
  | angular => "[ngClass]=".toList ++ marked value
  | solid => "classList=".toList ++ Bracket.curly.enclose value
  | expression => braced value
  | call => braced ("clsx".toList ++ Bracket.round.enclose value)

def usesOf (value : Text) (spelling : Spelling) : Option (List ClassUse) :=
  spelling.locator.usesAtStart (spelling.document value)

theorem document_ne_nil (value : Text) (spelling : Spelling) : spelling.document value ≠ [] := by
  cases spelling with
  | vue => exact List.append_ne_nil_of_left_ne_nil (by decide) _
  | angular => exact List.append_ne_nil_of_left_ne_nil (by decide) _
  | solid => exact List.append_ne_nil_of_left_ne_nil (by decide) _
  | expression => exact List.append_ne_nil_of_right_ne_nil _ (List.cons_ne_nil _ _)
  | call => exact List.append_ne_nil_of_right_ne_nil _ (List.cons_ne_nil _ _)

end Spelling

/-- A text without the double quotation mark and the backslash. -/
def Text.IsMarkable (value : Text) : Prop := ∀ c ∈ value, c ≠ '\x22' ∧ c ≠ '\\'

instance (value : Text) : Decidable value.IsMarkable :=
  List.decidableBAll (fun c => c ≠ '\x22' ∧ c ≠ '\\') value

theorem Text.IsMarkable.enclose {value : Text} (markable : value.IsMarkable) (bracket : Bracket) :
    Text.IsMarkable (bracket.enclose value) := by
  intro c member
  have places : c = bracket.opener ∨ c ∈ value ∨ c = bracket.closer := by
    simpa [Bracket.enclose] using member
  rcases places with rfl | inside | rfl
  · cases bracket <;> decide
  · exact markable c inside
  · cases bracket <;> decide

theorem markedOpening_marked {value : Text} (markable : value.IsMarkable) (text name : Text)
    (uses : Text → List ClassUse) :
    ∃ passed, markedOpening text ('=' :: marked value) name uses =
      some ⟨passed, attributeUpTo text [] .helper name (uses value)⟩ := by
  have equals : Text.afterEquals? ('=' :: marked value) = some (marked value) :=
    Text.afterEquals?_append ⟨[], [], Text.isBlanks_nil, Text.isBlanks_nil, rfl⟩ (by decide) _
  have opens : Text.afterMark? (marked value) = some ('\x22', value ++ ['\x22']) := rfl
  have ends : splitAtMark '\x22' false (value ++ ['\x22']) = some (value, []) :=
    markEndsAfter_of_forall (by decide) markable []
  unfold markedOpening markedValue?
  simp only [Option.bind_eq_bind, equals, opens, ends, Option.bind_some, openingUpTo]
  exact ⟨_, rfl⟩

theorem vueBinding_of_name {text name rest : Text} (named : vueName? text = some (name, rest)) :
    vueBinding none text = markedOpening text rest name bindingUses := by
  unfold vueBinding
  simp only [Option.bind_eq_bind, named, Option.bind_some]
  rfl

theorem usesOf_vue {value : Text} (markable : value.IsMarkable) :
    Spelling.vue.usesOf value = matchOf (.ok (bindingUses value)) := by
  have named : vueName? (Spelling.vue.document value) = some (":class".toList, '=' :: marked value) :=
    vueName?_eq_some_iff.mpr ⟨Or.inr rfl, rfl⟩
  obtain ⟨passed, reads⟩ := markedOpening_marked markable (Spelling.vue.document value)
    ":class".toList bindingUses
  apply Locator.usesAtStart_of_opens (Spelling.document_ne_nil _ _)
  exact ⟨passed, (vueBinding_of_name named).trans reads⟩

theorem usesOf_angular {value : Text} (markable : value.IsMarkable) :
    Spelling.angular.usesOf value = matchOf (.ok (bindingUses value)) := by
  have named : (Spelling.angular.document value).after? "[ngClass]".toList =
      some ('=' :: marked value) := Text.after?_eq_some_iff.mpr rfl
  obtain ⟨passed, reads⟩ := markedOpening_marked markable (Spelling.angular.document value)
    "[ngClass]".toList bindingUses
  apply Locator.usesAtStart_of_opens (Spelling.document_ne_nil _ _)
  refine ⟨passed, ?_⟩
  unfold Spelling.locator angularNgClass
  simp only [Option.bind_eq_bind, named, Option.bind_some, reads]
  rfl

theorem usesOf_solid {payload : Text} (contained : payload.IsSelfContained) :
    Spelling.solid.usesOf (Bracket.curly.enclose payload) =
      matchOf (.ok ((parseObject (Bracket.curly.enclose payload)).getD [])) := by
  have named : (Spelling.solid.document (Bracket.curly.enclose payload)).after? "classList".toList =
      some ('=' :: Bracket.curly.enclose (Bracket.curly.enclose payload)) :=
    Text.after?_eq_some_iff.mpr rfl
  have equals : Text.afterEquals? ('=' :: Bracket.curly.enclose (Bracket.curly.enclose payload)) =
      some (Bracket.curly.enclose (Bracket.curly.enclose payload)) :=
    Text.afterEquals?_append ⟨[], [], Text.isBlanks_nil, Text.isBlanks_nil, rfl⟩ (by decide) _
  have outer : Text.after? (Bracket.curly.enclose (Bracket.curly.enclose payload)) ['{'] =
      some (Bracket.curly.enclose payload ++ ['}']) := Text.after?_eq_some_iff.mpr rfl
  have inner : Text.afterBlanksAnd? '{' (Bracket.curly.enclose payload ++ ['}']) =
      some (payload ++ ['}'] ++ ['}']) :=
    (Text.afterBlanksAnd?_eq_some_iff (by decide)).mpr ⟨[], Text.isBlanks_nil, rfl⟩
  have closes : Scan.opened.balanced .curly (payload ++ ['}'] ++ ['}']) = some (payload, ['}']) := by
    rw [List.append_assoc]
    exact Scan.closesAfter_of_isSelfContained contained .curly ['}']
  have ends : Text.afterBlanksAnd? '}' ['}'] = some [] :=
    (Text.afterBlanksAnd?_eq_some_iff (by decide)).mpr ⟨[], Text.isBlanks_nil, rfl⟩
  have opens : ∃ passed, solidClassList none (Spelling.solid.document (Bracket.curly.enclose payload)) =
      some ⟨passed, attributeUpTo (Spelling.solid.document (Bracket.curly.enclose payload)) [] .helper
        "classList".toList ((parseObject (Bracket.curly.enclose payload)).getD [])⟩ := by
    unfold solidClassList
    simp only [Option.bind_eq_bind, named, Option.bind_some, equals, outer, inner, closes, ends,
      openingUpTo]
    exact ⟨_, rfl⟩
  exact Locator.usesAtStart_of_opens (Spelling.document_ne_nil _ _) opens

theorem usesOf_expression {value : Text} (contained : value.IsSelfContained)
    (noTemplate : value.trim.head? ≠ some '\x60') (noCall : helperCall? value = none) :
    Spelling.expression.usesOf value = matchOf (.ok ((parseExpression value).getD [])) := by
  apply Locator.usesAtStart_eq (Spelling.document_ne_nil _ _)
  intro found
  have finds : jsxExpression.Finds none (braced value ++ []) found ↔ _ :=
    jsxExpression_finds_braced contained rfl
  rw [List.append_nil, and_iff_right noTemplate, and_iff_right noCall] at finds
  exact finds

theorem usesOf_call {value : Text} (contained : value.IsSelfContained) :
    Spelling.call.usesOf value = matchOf (.ok (argumentUses (helperArguments value))) := by
  have callee : IsCallee "clsx".toList :=
    ⟨[], "clsx".toList, [], Text.isBlanks_nil, by decide, Text.isBlanks_nil, rfl⟩
  have called : helperCall? ("clsx".toList ++ Bracket.round.enclose value) = some (value ++ [')']) :=
    helperCall?_eq_some_iff.mpr ⟨"clsx".toList, callee, rfl⟩
  have closes : Scan.opened.balanced .round (value ++ [')']) = some (value, []) :=
    Scan.closesAfter_of_isSelfContained contained .round []
  have whole : Text.IsSelfContained ("clsx".toList ++ Bracket.round.enclose value) :=
    (callee.isClean.append (contained.bracketed .round .round)).isSelfContained
  apply Locator.usesAtStart_eq (Spelling.document_ne_nil _ _)
  intro found
  have finds : helperCall.Finds none (braced ("clsx".toList ++ Bracket.round.enclose value) ++ []) found ↔
      _ := helperCall_finds_braced whole rfl List.not_mem_nil
  rw [List.append_nil] at finds
  apply finds.trans
  constructor
  · rintro ⟨content, arguments, blanks, read, within, -, filled⟩
    rw [called] at read
    cases read
    rw [closes] at within
    cases within
    exact filled
  · intro filled
    exact ⟨_, value, [], called, closes, Text.isBlanks_nil, filled⟩

theorem matchOf_getD_parseForm (form : ExpressionForm) (limit : Int) (text : Text) :
    matchOf (.ok ((parseForm form limit text).getD [])) = parseForm form limit text := by
  cases read : parseForm form limit text with
  | none => rfl
  | some uses =>
    have filled := (matchOf_eq_some read).2
    cases uses with
    | nil => exact absurd rfl filled
    | cons use others => rfl

/-- An object between braces is read as an object, whatever else it could be. -/
theorem parseExpression_object {payload : Text} (contained : payload.IsSelfContained) :
    parseExpression (Bracket.curly.enclose payload) = parseObject (Bracket.curly.enclose payload) := by
  have phrase := Phrase.enclose .curly contained
  have unquoted : Text.StartsUnquoted (Bracket.curly.enclose payload) := by
    intro c head
    cases head
    decide
  have levels : levelsLeft defaultDepthLimit 0 = 200 + 1 := rfl
  rw [parseExpression, parseObject, parseForm, parseForm, ExpressionForm.usesOf, ExpressionForm.usesOf,
    phrase.tidy.trimmed, levels, usesWithin, phrase.tidy.trimmed,
    phrase.usesOf_eq_objectUses unquoted]

theorem bindingUses_object (payload : Text) :
    bindingUses (Bracket.curly.enclose payload) =
      (parseObject (Bracket.curly.enclose payload)).getD [] := by
  unfold bindingUses
  rw [trim_enclose]
  rfl

theorem bindingUses_array {payload : Text} (contained : payload.IsSelfContained) :
    bindingUses (Bracket.square.enclose payload) = argumentUses (splitCommas payload) := by
  have unwrapped := unwrap_enclose .square contained
  have shape : Bracket.square.enclose payload = '[' :: (payload ++ [']']) := rfl
  unfold bindingUses
  rw [trim_enclose]
  simp only [shape] at unwrapped ⊢
  rw [unwrapped]

theorem unwrap_object (payload : Text) :
    unwrap .square .square (Bracket.curly.enclose payload) = none := by
  have head : (Bracket.curly.enclose payload).head? = some '{' := rfl
  apply unwrap_eq_none_of_head
  rw [trim_enclose, head]
  decide

/-- An object as the only argument of a helper is one argument. -/
theorem argumentUses_object {payload : Text} (contained : payload.IsSelfContained) :
    argumentUses (helperArguments (Bracket.curly.enclose payload)) =
      (parseObject (Bracket.curly.enclose payload)).getD [] := by
  have hidden : ∀ scan ∈ (Scan.fresh.step '{').trace payload, scan.isNeutral = false :=
    Scan.trace_opened contained
  have passes : Scan.fresh.Passes (beginsWithSeparator (· == ',')) none
      (Bracket.curly.enclose payload) :=
    Scan.passes_enclosed (by decide) hidden fun _ _ => rfl
  have single : splitCommas (Bracket.curly.enclose payload) = [Bracket.curly.enclose payload] :=
    splitTopLevel_eq_singleton passes (Phrase.enclose .curly contained).tidy
  rw [helperArguments, unwrap_object, Option.getD_none, single, ← parseExpression_object contained]
  simp only [argumentUses, List.flatMap_cons, List.flatMap_nil, argumentElements, unwrap_object,
    List.append_nil]

/-- Every spelling reads an object like an object literal of its own, and an array like the list of its
elements. -/
theorem dialects_agree {payload : Text} (contained : payload.IsSelfContained)
    (markable : payload.IsMarkable) :
    (∀ spelling : Spelling, spelling.usesOf (Bracket.curly.enclose payload) =
      parseObject (Bracket.curly.enclose payload)) ∧
    (unwrap .square .square payload = none →
      Spelling.vue.usesOf (Bracket.square.enclose payload) =
          matchOf (.ok (argumentUses (splitCommas payload))) ∧
        Spelling.angular.usesOf (Bracket.square.enclose payload) =
          matchOf (.ok (argumentUses (splitCommas payload))) ∧
        Spelling.call.usesOf payload = matchOf (.ok (argumentUses (splitCommas payload))) ∧
        Spelling.call.usesOf (Bracket.square.enclose payload) =
          matchOf (.ok (argumentUses (splitCommas payload)))) := by
  have enclosed : ∀ bracket : Bracket, Text.IsSelfContained (bracket.enclose payload) :=
    fun bracket => (Phrase.enclose bracket contained).clean.isSelfContained
  have object : matchOf (.ok ((parseObject (Bracket.curly.enclose payload)).getD [])) =
      parseObject (Bracket.curly.enclose payload) := matchOf_getD_parseForm .object _ _
  constructor
  · intro spelling
    cases spelling with
    | vue => rw [usesOf_vue (markable.enclose .curly), bindingUses_object, object]
    | angular => rw [usesOf_angular (markable.enclose .curly), bindingUses_object, object]
    | solid => rw [usesOf_solid contained, object]
    | expression =>
      have noTemplate : (Text.trim (Bracket.curly.enclose payload)).head? ≠ some '\x60' := by
        have head : (Bracket.curly.enclose payload).head? = some '{' := rfl
        rw [trim_enclose, head]
        decide
      rw [usesOf_expression (enclosed .curly) noTemplate rfl, parseExpression_object contained, object]
    | call => rw [usesOf_call (enclosed .curly), argumentUses_object contained, object]
  · intro notArray
    have listed : helperArguments payload = splitCommas payload := by
      rw [helperArguments, notArray, Option.getD_none]
    have opened : helperArguments (Bracket.square.enclose payload) = splitCommas payload := by
      rw [helperArguments, unwrap_enclose .square contained, Option.getD_some]
    refine ⟨?_, ?_, ?_, ?_⟩
    · rw [usesOf_vue (markable.enclose .square), bindingUses_array contained]
    · rw [usesOf_angular (markable.enclose .square), bindingUses_array contained]
    · rw [usesOf_call contained, listed]
    · rw [usesOf_call (enclosed .square), opened]

theorem dialects_agree_written :
    (∀ spelling : Spelling, spelling.usesOf "\x7b'a b': x > 1, c\x7d".toList =
      some [⟨"a b".toList, some "x > 1".toList⟩, ⟨"c".toList, some "c".toList⟩]) ∧
    Spelling.call.usesOf "'a', x && 'b'".toList = Spelling.vue.usesOf "['a', x && 'b']".toList := by
  have object : Text.IsSelfContained "'a b': x > 1, c".toList := ⟨by decide, by decide⟩
  have array : Text.IsSelfContained "'a', x && 'b'".toList := ⟨by decide, by decide⟩
  have read : parseObject (Bracket.curly.enclose "'a b': x > 1, c".toList) =
      some [⟨"a b".toList, some "x > 1".toList⟩, ⟨"c".toList, some "c".toList⟩] := by decide +kernel
  obtain ⟨same, -⟩ := dialects_agree object (by decide)
  obtain ⟨-, sameArray⟩ := dialects_agree array (by decide)
  obtain ⟨vue, -, call, -⟩ := sameArray (by decide +kernel)
  constructor
  · intro spelling
    exact (same spelling).trans read
  · exact call.trans vue.symm

/-- A locator goes on inside the value. With what it finds there the spellings no longer agree. -/
theorem dialects_differ_inside :
    ¬ ∀ payload : Text, payload.IsSelfContained → payload.IsMarkable → ∀ first second : Spelling,
      (first.locator.locate (first.document (Bracket.curly.enclose payload))).flatMap (·.uses) =
        (second.locator.locate (second.document (Bracket.curly.enclose payload))).flatMap (·.uses) := by
  intro same
  have contained : Text.IsSelfContained "...a :class='b'".toList := ⟨by decide, by decide⟩
  have differs := same _ contained (by decide) .vue .angular
  revert differs
  decide +kernel

end ClassUsage

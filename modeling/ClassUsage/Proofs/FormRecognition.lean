import ClassUsage.Document.Extract
import ClassUsage.Proofs.BoundForms
import ClassUsage.Proofs.BraceForms

set_option autoImplicit false

/-!
The form of an attribute can be told from the text it begins: at one place, no two locators find an
attribute.
-/
namespace ClassUsage

inductive AttributeForm where
  | plain
  | template
  | call
  | expression
  | binding
  | directive
  | ngClass
  | oneClass
  | classList
deriving DecidableEq, Repr

namespace AttributeForm

def all : List AttributeForm :=
  [plain, template, call, expression, binding, directive, ngClass, oneClass, classList]

def locator : AttributeForm → Locator
  | plain => plainAttribute
  | template => jsxTemplate
  | call => helperCall
  | expression => jsxExpression
  | binding => vueBinding
  | directive => svelteDirective
  | ngClass => angularNgClass
  | oneClass => angularClass
  | classList => solidClassList

theorem map_locator_all : all.map locator = allLocators := rfl

theorem mem_all (form : AttributeForm) : form ∈ all := by
  cases form <;> decide

theorem occupies_of_finds (form : AttributeForm) {previous : Option Char} {text : Text}
    {found : Attribute} (finds : form.locator.Finds previous text found) :
    ∃ taken, form.locator.Occupies text found taken := by
  cases form with
  | plain => exact plainAttribute_occupies finds
  | template => exact jsxTemplate_occupies finds
  | call => exact helperCall_occupies finds
  | expression => exact jsxExpression_occupies finds
  | binding => exact vueBinding_occupies finds
  | directive => exact svelteDirective_occupies finds
  | ngClass => exact angularNgClass_occupies finds
  | oneClass => exact angularClass_occupies finds
  | classList => exact solidClassList_occupies finds

/-- The form of an expression in braces, of which the text behind the brace is given. -/
def ofBraces (inside : Text) : AttributeForm :=
  if inside.trimStart.head? = some '\x60' then template
  else if (helperCall? inside).isSome then call
  else expression

/-- The form of the value behind the name of an attribute. -/
def ofValue? (behind : Text) : Option AttributeForm :=
  behind.afterEquals?.map fun assigned =>
    match assigned with
    | '{' :: inside => ofBraces inside
    | _ => plain

/-- The form that an attribute at the start of the text must have. -/
def of? (text : Text) : Option AttributeForm :=
  if (text.after? "[ngClass]".toList).isSome then some ngClass
  else if (text.after? "[class.".toList).isSome then some oneClass
  else if (vueName? text).isSome then some binding
  else if (text.after? "classList".toList).isSome then some classList
  else if (text.after? "class:".toList).isSome then some directive
  else text.className?.bind fun named => ofValue? named.2

/-- Behind the name and an equals sign, the value alone tells the form. -/
theorem of?_eq_ofValue? {name gap : Text} (known : Text.IsClassName name) (equals : Text.IsEquals gap)
    (rest : Text) : of? (name ++ (gap ++ rest)) = ofValue? (gap ++ rest) := by
  have notList : Text.after? (name ++ (gap ++ rest)) "classList".toList = none := by
    rcases known with rfl | rfl
    · exact Text.after?_eq_none_of_ne (by decide) "class".toList _ "ist".toList
    · exact Text.after?_eq_none_of_equals equals (by decide) (by decide) "class".toList rest
        "ist".toList
  have notDirective : Text.after? (name ++ (gap ++ rest)) "class:".toList = none := by
    rcases known with rfl | rfl
    · exact Text.after?_eq_none_of_ne (by decide) "class".toList _ []
    · exact Text.after?_eq_none_of_equals equals (by decide) (by decide) "class".toList rest []
  have notBracketed : ∀ others : Text,
      Text.after? (name ++ (gap ++ rest)) ('[' :: others) = none := by
    intro others
    rcases known with rfl | rfl
    · rfl
    · rfl
  have notBound : vueName? (name ++ (gap ++ rest)) = none := by
    rcases known with rfl | rfl
    · rfl
    · rfl
  unfold of?
  rw [notList, notDirective, notBound, Text.className?_of_equals known equals]
  rw [show "[ngClass]".toList = '[' :: "ngClass]".toList from rfl,
    show "[class.".toList = '[' :: "class.".toList from rfl, notBracketed, notBracketed]
  rfl

theorem of?_braces {name gap : Text} (known : Text.IsClassName name) (equals : Text.IsEquals gap)
    (inside : Text) : of? (name ++ (gap ++ '{' :: inside)) = some (ofBraces inside) := by
  have assigned : Text.afterEquals? (gap ++ '{' :: inside) = some ('{' :: inside) :=
    Text.afterEquals?_append equals (by decide) inside
  rw [of?_eq_ofValue? known equals, ofValue?, assigned]
  rfl

theorem of?_marked {name gap : Text} (known : Text.IsClassName name) (equals : Text.IsEquals gap)
    {mark : Char} (isMark : Text.IsMark mark) (inside : Text) :
    of? (name ++ (gap ++ mark :: inside)) = some plain := by
  have assigned : Text.afterEquals? (gap ++ mark :: inside) = some (mark :: inside) :=
    Text.afterEquals?_append equals isMark.isBlank inside
  rw [of?_eq_ofValue? known equals, ofValue?, assigned]
  rcases isMark with rfl | rfl
  · rfl
  · rfl

theorem ofBraces_template {inner : Text} (backtick : inner.trim.head? = some '\x60') (rest : Text) :
    ofBraces (inner ++ '}' :: rest) = template := by
  unfold ofBraces
  rw [Text.head?_trimStart_append (by decide), backtick]
  rfl

theorem ofBraces_expression {inner rest : Text} (backtick : inner.trim.head? ≠ some '\x60')
    (noCall : helperCall? (inner ++ '}' :: rest) = none) :
    ofBraces (inner ++ '}' :: rest) = expression := by
  have first : (Text.trimStart (inner ++ '}' :: rest)).head? ≠ some '\x60' := by
    rw [Text.head?_trimStart_append (by decide)]
    cases head : inner.trim.head? with
    | none => decide
    | some c => rwa [head] at backtick
  unfold ofBraces
  rw [if_neg first, noCall]
  rfl

theorem ofBraces_call {inside content : Text} (called : helperCall? inside = some content) :
    ofBraces inside = call := by
  have first : inside.trimStart.head? ≠ some '\x60' := by
    obtain ⟨callee, is, rfl⟩ := helperCall?_sound called
    obtain ⟨helper, after, listed, -, skipped⟩ := is.trimStart_append
    obtain ⟨filled, solid⟩ := helperNames_solid helper listed
    rw [skipped, Text.head?_append_of_filled filled]
    intro head
    exact (solid '\x60' (List.mem_of_head? head)).2.2.1 rfl
  unfold ofBraces
  rw [if_neg first, called]
  rfl

/-- A locator finds an attribute only where the text begins one of its form. -/
theorem of?_of_finds (form : AttributeForm) {previous : Option Char} {text : Text}
    {found : Attribute} (finds : form.locator.Finds previous text found) : of? text = some form := by
  cases form with
  | plain =>
    obtain ⟨name, behind, inside, value, rest, named, -, equals, read, -⟩ :=
      plainAttribute_finds_iff.mp finds
    obtain ⟨known, rfl⟩ := Text.className?_eq_some named
    obtain ⟨gap, isGap, rfl, -⟩ := Text.afterEquals?_eq_some_iff.mp equals
    obtain ⟨mark, isMark, -, rfl⟩ := plainValue?_eq_some_iff.mp read
    exact of?_marked known isGap isMark _
  | template =>
    obtain ⟨name, inside, inner, rest, opened, closed, backtick, -⟩ := jsxTemplate_finds_iff.mp finds
    obtain ⟨-, known, gap, isGap, rfl⟩ := braceOpening?_eq_some_iff.mp opened
    rw [of?_braces known isGap, Scan.eq_of_balanced closed]
    exact congrArg some (ofBraces_template backtick rest)
  | call =>
    obtain ⟨name, inside, content, -, -, -, opened, called, -, -, -⟩ := helperCall_finds_iff.mp finds
    obtain ⟨-, known, gap, isGap, rfl⟩ := braceOpening?_eq_some_iff.mp opened
    rw [of?_braces known isGap, ofBraces_call called]
  | expression =>
    obtain ⟨name, inside, inner, rest, opened, closed, backtick, noCall, -⟩ :=
      jsxExpression_finds_iff.mp finds
    obtain ⟨-, known, gap, isGap, rfl⟩ := braceOpening?_eq_some_iff.mp opened
    obtain rfl := Scan.eq_of_balanced closed
    rw [of?_braces known isGap]
    exact congrArg some (ofBraces_expression backtick noCall)
  | binding =>
    obtain ⟨-, name, rest, known, rfl, -⟩ := vueBinding_finds_iff.mp finds
    have named : vueName? (name ++ rest) = some (name, rest) :=
      vueName?_eq_some_iff.mpr ⟨known, rfl⟩
    unfold of?
    rw [named]
    rcases known with rfl | rfl
    · rfl
    · rfl
  | directive =>
    obtain ⟨behind, -, -, -, named, -, -, -⟩ := svelteDirective_finds_iff.mp finds
    obtain rfl := Text.eq_of_after named
    unfold of?
    rw [named]
    rfl
  | ngClass =>
    obtain ⟨rest, rfl, -⟩ := angularNgClass_finds_iff.mp finds
    unfold of?
    rw [Text.after?_append]
    rfl
  | oneClass =>
    obtain ⟨name, rest, -, rfl, -⟩ := angularClass_finds_iff.mp finds
    unfold of?
    rw [List.append_assoc, List.append_assoc, Text.after?_append "[class.".toList]
    rfl
  | classList =>
    obtain ⟨behind, -, -, -, -, -, -, named, -⟩ := solidClassList_finds_iff.mp finds
    obtain rfl := Text.eq_of_after named
    unfold of?
    rw [named]
    rfl

theorem eq_of_finds {form other : AttributeForm} {previous before : Option Char} {text : Text}
    {found also_found : Attribute} (finds : form.locator.Finds previous text found)
    (also_finds : other.locator.Finds before text also_found) : form = other := by
  have first := of?_of_finds form finds
  rw [of?_of_finds other also_finds] at first
  exact (Option.some.inj first).symm

theorem found_eq_of_finds {form other : AttributeForm} {previous : Option Char} {text : Text}
    {found also_found : Attribute} (finds : form.locator.Finds previous text found)
    (also_finds : other.locator.Finds previous text also_found) : found = also_found := by
  obtain rfl := eq_of_finds finds also_finds
  obtain ⟨passed, opens⟩ := finds
  obtain ⟨also_passed, also_opens⟩ := also_finds
  rw [opens] at also_opens
  cases also_opens
  rfl

end AttributeForm
end ClassUsage

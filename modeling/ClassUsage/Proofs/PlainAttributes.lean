import ClassUsage.Proofs.DocumentPrefix

set_option autoImplicit false

/-!
Plain attributes in a document. A value between quotation marks is found where it stands unless it holds
the other kind of mark; then the attribute is passed over.
-/
namespace ClassUsage

def markedAttribute (name : Text) (mark : Char) (value : Text) : Text :=
  name ++ '=' :: mark :: value ++ [mark]

theorem markedAttribute_append (name : Text) (mark : Char) (value behind : Text) :
    markedAttribute name mark value ++ behind =
      name ++ (['='] ++ mark :: (value ++ mark :: behind)) := by
  simp only [markedAttribute, List.append_assoc, List.cons_append, List.nil_append]

theorem Text.isEquals_singleton : Text.IsEquals ['='] :=
  ⟨[], [], isBlanks_nil, isBlanks_nil, rfl⟩

/-- A value is read up to the first mark of either kind, so the other kind keeps it from being read. -/
theorem plainValue?_eq_none {mark : Char} {value : Text} (noMark : mark ∉ value)
    (holds : ¬ IsPlainValue value) (behind : Text) :
    plainValue? (mark :: (value ++ mark :: behind)) = none := by
  cases read : plainValue? (mark :: (value ++ mark :: behind)) with
  | none => rfl
  | some found =>
    obtain ⟨first, isMark, plain, same⟩ := plainValue?_eq_some_iff.mp read
    obtain ⟨rfl, parts⟩ := List.cons.inj same
    have absent : mark ∉ found.1 := fun inFound => plain mark inFound isMark
    have rest := eq_of_append_cons noMark absent parts
    rw [rest] at parts
    rw [← List.append_cancel_right parts] at plain
    exact absurd plain holds

section

variable {previous : Option Char} {name value : Text} {mark : Char} (known : Text.IsClassName name)
  (isMark : Text.IsMark mark) (behind : Text)

include known isMark

theorem plainAttribute_marked_finds (begins : mayBeginAttribute previous = true)
    (plain : IsPlainValue value) (filled : value.trim ≠ []) :
    plainAttribute.Finds previous (markedAttribute name mark value ++ behind)
      ⟨.simple, name, [⟨value.trim, none⟩], (markedAttribute name mark value).length⟩ := by
  have uses : plainUses value = [⟨value.trim, none⟩] := by
    rw [plainUses, if_neg (by simpa using filled)]
  rw [plainAttribute_finds_iff]
  refine ⟨name, _, _, value, behind, ?_, begins,
    Text.afterEquals?_append Text.isEquals_singleton isMark.isBlank _,
    plainValue?_eq_some_iff.mpr ⟨mark, isMark, plain, rfl⟩, ?_⟩
  · rw [markedAttribute_append]
    exact Text.className?_of_equals known Text.isEquals_singleton _
  · rw [attributeUpTo_eq_some_iff, uses]
    exact ⟨List.cons_ne_nil _ _, rfl⟩

theorem plainAttribute_marked_eq_none (noMark : mark ∉ value) (holds : ¬ IsPlainValue value) :
    plainAttribute previous (markedAttribute name mark value ++ behind) = none := by
  rw [markedAttribute_append, plainAttribute, Text.className?_of_equals known Text.isEquals_singleton]
  simp only [Option.bind_eq_bind, Option.bind_some,
    Text.afterEquals?_append Text.isEquals_singleton isMark.isBlank, plainValue?_eq_none noMark holds,
    Option.bind_none, Option.bind_fun_none]

end

namespace Locator

/-- What is found at the start of a text comes first. -/
theorem head?_locate_of_finds {locator : Locator} {text : Text} {found : Attribute}
    (finds : locator.Finds none text found) (filled : text ≠ []) :
    (locator.locate text).head? = some (found.extractionAt 0) := by
  obtain ⟨passed, opens⟩ := finds
  cases text with
  | nil => exact absurd rfl filled
  | cons c rest =>
    unfold locate locateFrom
    rw [opens]
    rfl

/-- If nothing opens at the start of a text, all that is found starts behind it. -/
theorem start_pos_of_mem_locate {locator : Locator} {text : Text} {extraction : Extraction}
    (opens : locator none text = none) (located : extraction ∈ locator.locate text) :
    0 < extraction.range.start := by
  cases text with
  | nil => cases located
  | cons c rest =>
    unfold locate locateFrom at located
    rw [opens] at located
    exact start_of_mem_locateFrom located

end Locator

/-- What stands in front of an attribute, if it ends in a blank and does not hold the attribute's word,
only moves what is found. -/
theorem locate_plainAttribute_append {front : Text}
    (boundary : front = [] ∨ ∃ c ∈ front.getLast?, isBlank c = true)
    (absent : ¬ "class".toList <:+: front) (document : Text) :
    plainAttribute.locate (front ++ document) =
      (plainAttribute.locate document).map (·.moved front.length) := by
  rcases boundary with rfl | ends
  · exact (Locator.locateFrom_add plainAttribute 0 0 0 none document)
  · apply AttributeForm.plain.locate_append ends
    intro keyword listed
    rw [List.mem_singleton.mp listed]
    exact absent

/-- Behind a text without the word of an attribute, a plain attribute whose value is not blank is the
first one found, unless its value holds the other kind of quotation mark: then nothing is found at its
place. -/
theorem plainAttribute_found_first {front name value : Text} {mark : Char}
    (boundary : front = [] ∨ ∃ c ∈ front.getLast?, isBlank c = true)
    (absent : ¬ "class".toList <:+: front) (known : Text.IsClassName name)
    (isMark : Text.IsMark mark) (noMark : mark ∉ value) (filled : value.trim ≠ []) (behind : Text) :
    (IsPlainValue value →
      (plainAttribute.locate (front ++ (markedAttribute name mark value ++ behind))).head? =
        some ⟨.simple, name, ⟨front.length, front.length + (markedAttribute name mark value).length⟩,
          [⟨value.trim, none⟩]⟩) ∧
    (¬ IsPlainValue value →
      ∀ extraction ∈ plainAttribute.locate (front ++ (markedAttribute name mark value ++ behind)),
        front.length < extraction.range.start) := by
  rw [locate_plainAttribute_append boundary absent]
  constructor
  · intro plain
    have begins : mayBeginAttribute none = true := rfl
    have finds := plainAttribute_marked_finds known isMark behind begins plain filled
    have document : markedAttribute name mark value ++ behind ≠ [] := by simp [markedAttribute]
    rw [List.head?_map, Locator.head?_locate_of_finds finds document]
    simp [Attribute.extractionAt, Extraction.moved, Int.add_comm]
  · intro holds extraction member
    obtain ⟨found, located, rfl⟩ := List.mem_map.mp member
    have start := Locator.start_pos_of_mem_locate
      (plainAttribute_marked_eq_none known isMark behind noMark holds) located
    simp only [Extraction.moved]
    omega

theorem plainAttribute_found_first_bracketed :
    ¬ "class".toList <:+: "<a\n".toList ∧
    (plainAttribute.locate ("<a\n".toList ++
        (markedAttribute "className".toList '\x27' " p-[1px] :b ".toList ++ ">".toList))).head? =
      some ⟨.simple, "className".toList, ⟨3, 27⟩, [⟨"p-[1px] :b".toList, none⟩]⟩ := by
  have absent : ¬ "class".toList <:+: "<a\n".toList := by decide +kernel
  refine ⟨absent, ?_⟩
  have noMark : '\x27' ∉ " p-[1px] :b ".toList := by decide
  have filled : Text.trim " p-[1px] :b ".toList ≠ [] := by decide
  have noOtherMark : '\x22' ∉ " p-[1px] :b ".toList := by decide
  have plain : IsPlainValue " p-[1px] :b ".toList := by
    rintro c member (rfl | rfl)
    · exact noOtherMark member
    · exact noMark member
  exact (plainAttribute_found_first (Or.inr ⟨'\n', rfl, rfl⟩) absent (Or.inl rfl) (Or.inr rfl) noMark
    filled _).1 plain

/-- A value that holds the other kind of mark, as arbitrary values of class names do, is lost. -/
theorem quoted_value_lost :
    ¬ "class".toList <:+: "<a ".toList ∧ '\x22' ∉ "before:content-[\x27x\x27]".toList ∧
    (plainAttribute.locate ("<a ".toList ++
        (markedAttribute "class".toList '\x22' "before:content-[\x27x\x27]".toList ++
          ">".toList))).head? ≠
      some ⟨.simple, "class".toList, ⟨3, 31⟩, [⟨"before:content-[\x27x\x27]".toList, none⟩]⟩ :=
  ⟨by decide +kernel, by decide, by decide +kernel⟩

end ClassUsage

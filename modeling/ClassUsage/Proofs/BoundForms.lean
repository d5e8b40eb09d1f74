import ClassUsage.Attribute.Svelte
import ClassUsage.Proofs.AttributeForms
import ClassUsage.Proofs.BlankCharacters

set_option autoImplicit false

/-!
Attributes with a bound value between quotation marks, and directives for one class. The name of a
directive ends where it does whatever stands behind the directive, as long as that is not the end of
a tag.
-/
namespace ClassUsage

theorem markedOpening_eq_some_iff {text rest name : Text} {uses : Text → List ClassUse}
    {found : Attribute} :
    (∃ passed, markedOpening text rest name uses = some ⟨passed, some found⟩) ↔
      ∃ gap mark value behind, Text.IsEquals gap ∧ Text.IsMark mark ∧ MarkEndsAfter mark false value ∧
        rest = gap ++ mark :: (value ++ mark :: behind) ∧
        attributeUpTo text behind .helper name (uses value) = some found := by
  simp only [markedOpening, markedValue?, openingUpTo, Option.bind_eq_bind, Option.bind_eq_some_iff,
    Prod.exists, Option.some.injEq, Opening.mk.injEq]
  constructor
  · rintro ⟨-, assigned, equals, mark, inside, marked, -, value, behind, read, whole⟩
    obtain ⟨gap, isGap, rfl, -⟩ := Text.afterEquals?_eq_some_iff.mp equals
    obtain ⟨isMark, rfl⟩ := Text.afterMark?_eq_some_iff.mp marked
    obtain ⟨ends, rfl⟩ := splitAtMark_eq_some_iff.mp read
    exact ⟨gap, mark, value, behind, isGap, isMark, ends, rfl, whole⟩
  · rintro ⟨gap, mark, value, behind, isGap, isMark, ends, rfl, whole⟩
    refine ⟨_, mark :: (value ++ mark :: behind), ?_, mark, value ++ mark :: behind,
      Text.afterMark?_eq_some_iff.mpr ⟨isMark, rfl⟩, rfl, value, behind, ends behind, whole⟩
    exact Text.afterEquals?_append isGap isMark.isBlank _

/-- An attribute that is a name and a value between marks ends at the closing mark. -/
theorem occupies_of_marked {locator : Locator} {name : Text} {uses : Text → List ClassUse}
    (again : ∀ rest found, (∃ passed,
      markedOpening (name ++ rest) rest name uses = some ⟨passed, some found⟩) →
        locator.Finds none (name ++ rest) found)
    (solid : ∃ c rest, name = c :: rest ∧ isBlank c = false)
    (drawn : ∀ value, Drawn (uses value) value ∨ Drawn (uses value) name)
    {rest : Text} {found : Attribute}
    (read : ∃ passed, markedOpening (name ++ rest) rest name uses = some ⟨passed, some found⟩) :
    ∃ taken, locator.Occupies (name ++ rest) found taken := by
  obtain ⟨gap, mark, value, behind, isGap, isMark, ends, rfl, whole⟩ :=
    markedOpening_eq_some_iff.mp read
  have shape : ∀ tail : Text, name ++ (gap ++ mark :: (value ++ mark :: tail)) =
      name ++ (gap ++ [mark] ++ value ++ [mark]) ++ tail := by
    intro tail
    simp only [List.append_assoc, List.cons_append, List.nil_append]
  have inside : Drawn (uses value) (name ++ (gap ++ [mark] ++ value ++ [mark])) := by
    rcases drawn value with inValue | inName
    · have placed := inValue.within (name ++ gap ++ [mark]) [mark]
      simpa only [List.append_assoc] using placed
    · simpa using inName.within [] (gap ++ [mark] ++ value ++ [mark])
  refine occupies_of_attributeUpTo (shape behind) (shape [' ']) whole ⟨_, rfl⟩ solid inside
    fun same => ?_
  exact again _ _ (markedOpening_eq_some_iff.mpr
    ⟨gap, mark, value, [' '], isGap, isMark, ends, rfl, same⟩)

def IsVueName (name : Text) : Prop := name = "v-bind:class".toList ∨ name = ":class".toList

theorem vueName?_eq_some_iff {text name rest : Text} :
    vueName? text = some (name, rest) ↔ IsVueName name ∧ text = name ++ rest := by
  constructor
  · intro found
    obtain ⟨known, listed, read⟩ := List.exists_of_findSome?_eq_some found
    obtain ⟨behind, after, equal⟩ := Option.map_eq_some_iff.mp read
    cases equal
    refine ⟨?_, Text.eq_of_after after⟩
    simpa only [IsVueName, List.mem_cons, List.not_mem_nil, or_false] using listed
  · rintro ⟨rfl | rfl, rfl⟩
    · unfold vueName?
      rw [List.findSome?_cons, Text.after?_append]
      rfl
    · unfold vueName?
      have absent : Text.after? (":class".toList ++ rest) "v-bind:class".toList = none := rfl
      rw [List.findSome?_cons, absent, List.findSome?_cons, Text.after?_append]
      rfl

theorem vueBinding_finds_iff {previous : Option Char} {text : Text} {found : Attribute} :
    vueBinding.Finds previous text found ↔
      mayBeginKeyword previous = true ∧ ∃ name rest, IsVueName name ∧ text = name ++ rest ∧
        ∃ passed, markedOpening text rest name bindingUses = some ⟨passed, some found⟩ := by
  simp only [Locator.Finds, vueBinding, Option.bind_eq_bind, Option.bind_eq_some_iff, Prod.exists,
    Option.guard_eq_some', exists_const, vueName?_eq_some_iff]
  constructor
  · rintro ⟨passed, name, rest, ⟨known, split⟩, begins, read⟩
    exact ⟨begins, name, rest, known, split, passed, read⟩
  · rintro ⟨begins, name, rest, known, split, passed, read⟩
    exact ⟨passed, name, rest, ⟨known, split⟩, begins, read⟩

theorem IsVueName.solid {name : Text} (known : IsVueName name) :
    ∃ c rest, name = c :: rest ∧ isBlank c = false := by
  rcases known with rfl | rfl
  · exact ⟨'v', "-bind:class".toList, rfl, by decide⟩
  · exact ⟨':', "class".toList, rfl, by decide⟩

theorem vueBinding_occupies {previous : Option Char} {text : Text} {found : Attribute}
    (finds : vueBinding.Finds previous text found) :
    ∃ taken, vueBinding.Occupies text found taken := by
  obtain ⟨-, name, rest, known, rfl, read⟩ := vueBinding_finds_iff.mp finds
  refine occupies_of_marked ?_ known.solid (fun value => Or.inl (drawn_bindingUses value)) read
  intro behind found reads
  exact vueBinding_finds_iff.mpr ⟨rfl, name, behind, known, rfl, reads⟩

theorem angularNgClass_finds_iff {previous : Option Char} {text : Text} {found : Attribute} :
    angularNgClass.Finds previous text found ↔
      ∃ rest, text = "[ngClass]".toList ++ rest ∧
        ∃ passed, markedOpening text rest "[ngClass]".toList bindingUses =
          some ⟨passed, some found⟩ := by
  simp only [Locator.Finds, angularNgClass, Option.bind_eq_bind, Option.bind_eq_some_iff,
    Text.after?_eq_some_iff]
  constructor
  · rintro ⟨passed, rest, split, read⟩
    exact ⟨rest, split, passed, read⟩
  · rintro ⟨rest, split, passed, read⟩
    exact ⟨passed, rest, split, read⟩

theorem angularNgClass_occupies {previous : Option Char} {text : Text} {found : Attribute}
    (finds : angularNgClass.Finds previous text found) :
    ∃ taken, angularNgClass.Occupies text found taken := by
  obtain ⟨rest, rfl, read⟩ := angularNgClass_finds_iff.mp finds
  refine occupies_of_marked ?_ ⟨'[', "ngClass]".toList, rfl, by decide⟩
    (fun value => Or.inl (drawn_bindingUses value)) read
  intro behind found reads
  exact angularNgClass_finds_iff.mpr ⟨behind, rfl, reads⟩

/-- A class name between square brackets: not empty, without blanks and without the closing one. -/
structure IsBracketedName (name : Text) : Prop where
  filled : name ≠ []
  inside : ∀ c ∈ name, c ≠ ']' ∧ isBlank c = false

theorem IsBracketedName.isTidy {name : Text} (bracketed : IsBracketedName name) : name.IsTidy :=
  Text.isTidy_of_forall bracketed.filled fun c member => (bracketed.inside c member).2

theorem angularClass_finds_iff {previous : Option Char} {text : Text} {found : Attribute} :
    angularClass.Finds previous text found ↔
      ∃ name rest, IsBracketedName name ∧ text = "[class.".toList ++ name ++ [']'] ++ rest ∧
        ∃ passed, markedOpening text rest ("[class.".toList ++ name ++ [']']) (directiveUses name) =
          some ⟨passed, some found⟩ := by
  simp only [Locator.Finds, angularClass, Option.bind_eq_bind, Option.bind_eq_some_iff,
    Option.guard_eq_some', exists_const, Text.after?_eq_some_iff]
  constructor
  · rintro ⟨passed, behind, rfl, filled, rest, closed, read⟩
    refine ⟨_, rest, ⟨by simpa using filled, ?_⟩, ?_, passed, read⟩
    · intro c member
      have all := List.all_eq_true.mp List.all_takeWhile c member
      simpa using all
    · have decomposed := List.takeWhile_append_dropWhile (p := fun c => !(c == ']' || isBlank c))
        (l := behind)
      rw [closed] at decomposed
      rw [List.append_assoc, List.append_assoc, decomposed]
  · rintro ⟨name, rest, bracketed, rfl, passed, read⟩
    have inside : ∀ c ∈ name, (!(c == ']' || isBlank c)) = true := by
      intro c member
      simpa using bracketed.inside c member
    have taken : List.takeWhile (fun c => !(c == ']' || isBlank c)) (name ++ ']' :: rest) = name := by
      rw [List.takeWhile_append_of_pos inside, List.takeWhile_cons_of_neg (by simp), List.append_nil]
    have dropped : List.dropWhile (fun c => !(c == ']' || isBlank c)) (name ++ ']' :: rest) =
        ']' :: rest := by
      rw [List.dropWhile_append_of_pos inside, List.dropWhile_cons_of_neg (by simp)]
    refine ⟨passed, name ++ ']' :: rest, by simp only [List.append_assoc, List.singleton_append], ?_,
      rest, dropped, ?_⟩
    · rw [taken]
      simpa using bracketed.filled
    · rw [taken]
      exact read

theorem angularClass_occupies {previous : Option Char} {text : Text} {found : Attribute}
    (finds : angularClass.Finds previous text found) :
    ∃ taken, angularClass.Occupies text found taken := by
  obtain ⟨name, rest, bracketed, rfl, read⟩ := angularClass_finds_iff.mp finds
  have solid : ∃ c rest, "[class.".toList ++ name ++ [']'] = c :: rest ∧ isBlank c = false :=
    ⟨'[', "class.".toList ++ name ++ [']'], rfl, by decide⟩
  refine occupies_of_marked ?_ solid ?_ read
  · intro behind other reads
    exact angularClass_finds_iff.mpr ⟨name, behind, bracketed, rfl, reads⟩
  · intro value
    exact Or.inr ((drawn_directiveUses bracketed.isTidy value).within _ _)

structure IsDirectiveName (name : Text) : Prop where
  filled : name ≠ []
  inside : ∀ c ∈ name, isDirectiveNameChar c = true

/-- A directive cannot end right before a character of its name. -/
theorem solid_of_isDirectiveNameChar {c : Char} (inName : isDirectiveNameChar c = true) :
    isBlank c = false ∧ c ≠ '=' ∧ c ≠ '>' := by
  simp only [isDirectiveNameChar, Bool.or_eq_true, beq_iff_eq] at inName
  rcases inName with (((((word | rfl) | rfl) | rfl) | rfl) | rfl) | rfl
  · refine ⟨isBlank_of_isWordChar word, ?_, ?_⟩
    · rintro rfl
      exact absurd word (by decide)
    · rintro rfl
      exact absurd word (by decide)
  all_goals exact ⟨by decide, by decide, by decide⟩

theorem IsDirectiveName.isTidy {name : Text} (is : IsDirectiveName name) : name.IsTidy :=
  Text.isTidy_of_forall is.filled fun c member => (solid_of_isDirectiveNameChar (is.inside c member)).1

theorem directiveEnd?_eq_condition_iff {text inside : Text} :
    directiveEnd? text = some (.condition inside) ↔
      ∃ gap, Text.IsEquals gap ∧ text = gap ++ '{' :: inside := by
  constructor
  · intro found
    unfold directiveEnd? at found
    split at found
    · rename_i behind equals
      cases found
      obtain ⟨gap, isGap, split, -⟩ := Text.afterEquals?_eq_some_iff.mp equals
      exact ⟨gap, isGap, split⟩
    · split at found
      · cases found
      · split at found
        · cases found
        · cases found
      · cases found
  · rintro ⟨gap, isGap, rfl⟩
    have equals : Text.afterEquals? (gap ++ '{' :: inside) = some ('{' :: inside) :=
      Text.afterEquals?_append isGap (by decide) inside
    unfold directiveEnd?
    rw [equals]
    rfl

theorem directiveEnd?_eq_none {c : Char} {rest : Text} (inName : isDirectiveNameChar c = true)
    (open_tag : rest.head? ≠ some '>') : directiveEnd? (c :: rest) = none := by
  obtain ⟨solid, notEquals, notClosing⟩ := solid_of_isDirectiveNameChar inName
  have noEquals : Text.afterEquals? (c :: rest) = none := by
    unfold Text.afterEquals?
    rw [Text.trimStart_of_head (Text.startsSolid_cons solid rest)]
    split
    · rename_i behind begins
      exact absurd (List.cons.inj begins).1 notEquals
    · rfl
  unfold directiveEnd?
  rw [noEquals]
  split
  · rename_i split
    cases split
  · split
    · rename_i behind split
      cases split
      exact absurd rfl open_tag
    · rename_i split
      cases split
      simp only [solid, beq_eq_false_iff_ne.mpr notClosing, Bool.or_self, Bool.false_eq_true,
        ↓reduceIte]
    · rfl

theorem directiveName?_sound {text name rest : Text} {ending : DirectiveEnd}
    (found : directiveName? text = some (name, rest, ending)) :
    IsDirectiveName name ∧ text = name ++ rest ∧ directiveEnd? rest = some ending := by
  induction text generalizing name with
  | nil => cases found
  | cons c behind ih =>
    unfold directiveName? at found
    split at found
    · rename_i inName
      split at found
      · rename_i ends
        cases found
        exact ⟨⟨List.cons_ne_nil _ _, by simpa using inName⟩, rfl, ends⟩
      · obtain ⟨⟨others, remaining, last⟩, later, equal⟩ := Option.map_eq_some_iff.mp found
        cases equal
        obtain ⟨is, rfl, ends⟩ := ih later
        refine ⟨⟨List.cons_ne_nil _ _, ?_⟩, rfl, ends⟩
        intro d member
        rcases List.mem_cons.mp member with rfl | inOthers
        · exact inName
        · exact is.inside d inOthers
    · cases found

/-- Inside its name a directive does not end, unless the end of a tag stands right behind the name. -/
theorem directiveName?_append {name rest : Text} {ending : DirectiveEnd} (is : IsDirectiveName name)
    (open_tag : rest.head? ≠ some '>') (ends : directiveEnd? rest = some ending) :
    directiveName? (name ++ rest) = some (name, rest, ending) := by
  obtain ⟨filled, inside⟩ := is
  induction name with
  | nil => exact absurd rfl filled
  | cons c name ih =>
    have inName := inside c List.mem_cons_self
    rw [List.cons_append, directiveName?, if_pos inName]
    cases name with
    | nil =>
      rw [List.nil_append, ends]
    | cons d name =>
      have dInName := inside d (List.mem_cons_of_mem _ List.mem_cons_self)
      have goesOn : directiveEnd? (d :: (name ++ rest)) = none := by
        apply directiveEnd?_eq_none dInName
        cases name with
        | nil => exact open_tag
        | cons e name =>
          have eInName := inside e (by simp)
          intro head
          exact (solid_of_isDirectiveNameChar eInName).2.2 (Option.some.inj head)
      rw [List.cons_append, goesOn]
      have later := ih (List.cons_ne_nil _ _) fun e member =>
        inside e (List.mem_cons_of_mem _ member)
      rw [List.cons_append] at later
      rw [later]
      rfl

/-- What a directive with the given name and ending takes up and says. -/
def DirectiveReads (text rest reported name : Text) (found : Attribute) : DirectiveEnd → Prop
  | .bare => attributeUpTo text rest .helper reported (directiveUses name name) = some found
  | .condition inside => ∃ condition behind,
      Scan.opened.balanced .curly inside = some (condition, behind) ∧
        attributeUpTo text behind .helper reported (directiveUses name condition) = some found

theorem svelteDirective_finds_iff {previous : Option Char} {text : Text} {found : Attribute} :
    svelteDirective.Finds previous text found ↔
      ∃ behind name rest ending, text.after? "class:".toList = some behind ∧
        mayBeginDirective previous = true ∧ directiveName? behind = some (name, rest, ending) ∧
        DirectiveReads text rest ("class:".toList ++ name) name found ending := by
  simp only [Locator.Finds, svelteDirective, Option.bind_eq_bind, Option.bind_eq_some_iff,
    Prod.exists, Option.guard_eq_some', exists_const]
  constructor
  · rintro ⟨passed, behind, named, begins, name, rest, ending, read, opening⟩
    refine ⟨behind, name, rest, ending, named, begins, read, ?_⟩
    cases ending with
    | bare =>
      simp only [openingUpTo, Option.some.injEq, Opening.mk.injEq] at opening
      exact opening.2
    | condition inside =>
      simp only [openingUpTo, Option.some.injEq, Opening.mk.injEq, Option.bind_eq_some_iff,
        Prod.exists] at opening
      exact opening.2
  · rintro ⟨behind, name, rest, ending, named, begins, read, reads⟩
    cases ending with
    | bare =>
      refine ⟨text.length - rest.length, behind, named, begins, name, rest, .bare, read, ?_⟩
      have whole : attributeUpTo _ _ _ _ _ = _ := reads
      dsimp only
      rw [whole]
      rfl
    | condition inside =>
      obtain ⟨condition, remaining, closed, whole⟩ := reads
      refine ⟨text.length - inside.length, behind, named, begins, name, rest, .condition inside, read,
        ?_⟩
      simp only [openingUpTo, closed, Option.bind_some, whole]

theorem svelteDirective_occupies {previous : Option Char} {text : Text} {found : Attribute}
    (finds : svelteDirective.Finds previous text found) :
    ∃ taken, svelteDirective.Occupies text found taken := by
  obtain ⟨behind, name, rest, ending, named, -, read, reads⟩ := svelteDirective_finds_iff.mp finds
  obtain rfl := Text.eq_of_after named
  obtain ⟨isName, rfl, ends⟩ := directiveName?_sound read
  have solid : ∃ c rest, "class:".toList ++ name = c :: rest ∧ isBlank c = false :=
    ⟨'c', "lass:".toList ++ name, rfl, by decide⟩
  cases ending with
  | bare =>
    have shape : ∀ tail : Text, "class:".toList ++ (name ++ tail) = "class:".toList ++ name ++ tail :=
      fun tail => (List.append_assoc "class:".toList name tail).symm
    refine occupies_of_attributeUpTo (shape rest) (shape [' ']) reads
      ⟨[], (List.append_nil _).symm⟩ solid ?_ fun same => ?_
    · simpa using (drawn_directiveUses isName.isTidy name).within "class:".toList []
    · have again : directiveName? (name ++ [' ']) = some (name, [' '], .bare) :=
        directiveName?_append isName (by decide) rfl
      exact svelteDirective_finds_iff.mpr ⟨name ++ [' '], name, [' '], .bare,
        Text.after?_append _ _, rfl, again, same⟩
  | condition inside =>
    obtain ⟨condition, remaining, closed, whole⟩ := reads
    obtain ⟨gap, isGap, rfl⟩ := directiveEnd?_eq_condition_iff.mp ends
    obtain ⟨closes, rfl⟩ := Scan.balanced_eq_some_iff.mp closed
    have shape : ∀ tail : Text,
        "class:".toList ++ (name ++ (gap ++ '{' :: (condition ++ Bracket.curly.closer :: tail))) =
        "class:".toList ++ name ++ (gap ++ ['{'] ++ condition ++ ['}']) ++ tail := by
      intro tail
      simp only [Bracket.closer, List.append_assoc, List.cons_append, List.nil_append]
    refine occupies_of_attributeUpTo (shape remaining) (shape [' ']) whole
      ⟨gap ++ ['{'] ++ condition ++ ['}'], rfl⟩ solid
      ((drawn_directiveUses isName.isTidy condition).within _ _) fun same => ?_
    have open_tag : (gap ++ '{' :: (condition ++ Bracket.curly.closer :: [' '])).head? ≠ some '>' := by
      obtain ⟨c, others, rfl, first⟩ := isGap.head
      intro head
      cases head
      rcases first with equal | blank
      · cases equal
      · cases blank
    have again := directiveName?_append isName open_tag
      (directiveEnd?_eq_condition_iff.mpr ⟨gap, isGap, rfl⟩)
    exact svelteDirective_finds_iff.mpr ⟨_, name, _, _, Text.after?_append _ _, rfl, again,
      condition, [' '], closes _, same⟩

end ClassUsage

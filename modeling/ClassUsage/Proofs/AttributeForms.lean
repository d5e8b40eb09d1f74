import ClassUsage.Proofs.AttributeReading
import ClassUsage.Proofs.PayloadProvenance
import Mathlib.Data.Option.Basic

set_option autoImplicit false

/-!
What the locators find, one form of attribute after the other. A found attribute takes up a part of
the text that begins with its name and holds its class lists, and the same attribute is found again
in that part alone, with a blank behind it: no locator has looked at anything else.
-/
namespace ClassUsage

def Locator.Finds (locator : Locator) (previous : Option Char) (text : Text) (found : Attribute) :
    Prop :=
  ∃ passed, locator previous text = some ⟨passed, some found⟩

/-- A found attribute takes up the first part of the text, and that part alone decides about it. -/
structure Locator.Occupies (locator : Locator) (text : Text) (found : Attribute) (taken : Text) :
    Prop where
  first : ∃ rest, text = taken ++ rest
  length : found.length = taken.length
  named : ∃ behind, taken = found.name ++ behind
  solid : ∃ c rest, found.name = c :: rest ∧ isBlank c = false
  filled : found.uses ≠ []
  drawn : Drawn found.uses taken
  again : locator.Finds none (taken ++ [' ']) found

theorem attributeUpTo_eq_some_iff {taken rest name : Text} {kind : Kind} {uses : List ClassUse}
    {found : Attribute} :
    attributeUpTo (taken ++ rest) rest kind name uses = some found ↔
      uses ≠ [] ∧ found = ⟨kind, name, uses, taken.length⟩ := by
  unfold attributeUpTo
  rw [List.length_append, Nat.add_sub_cancel]
  cases uses with
  | nil => simp
  | cons use others =>
    simp only [List.isEmpty_cons, Bool.false_eq_true, ↓reduceIte, Option.some.injEq, ne_eq,
      reduceCtorEq, not_false_eq_true, true_and]
    exact eq_comm

/-- An attribute that is found with a blank behind it as well takes up all of the text before its end. -/
theorem occupies_of_attributeUpTo {locator : Locator} {text other taken rest name : Text} {kind : Kind}
    {uses : List ClassUse} {found : Attribute} (first : text = taken ++ rest)
    (alone : other = taken ++ [' ']) (whole : attributeUpTo text rest kind name uses = some found)
    (named : ∃ behind, taken = name ++ behind) (solid : ∃ c rest, name = c :: rest ∧ isBlank c = false)
    (drawn : Drawn uses taken)
    (again : attributeUpTo other [' '] kind name uses = some found → locator.Finds none other found) :
    ∃ taken, locator.Occupies text found taken := by
  rw [first, attributeUpTo_eq_some_iff] at whole
  obtain ⟨filled, rfl⟩ := whole
  refine ⟨taken, ⟨rest, first⟩, rfl, named, solid, filled, drawn, ?_⟩
  rw [← alone]
  apply again
  rw [alone, attributeUpTo_eq_some_iff]
  exact ⟨filled, rfl⟩

theorem Text.IsClassName.solid {name : Text} (known : Text.IsClassName name) :
    ∃ c rest, name = c :: rest ∧ isBlank c = false := by
  rcases known with rfl | rfl
  · exact ⟨'c', "lassName".toList, rfl, by decide⟩
  · exact ⟨'c', "lass".toList, rfl, by decide⟩

theorem Text.IsMark.isBlank {mark : Char} (is : Text.IsMark mark) : isBlank mark = false := by
  rcases is with rfl | rfl
  · decide
  · decide

def IsPlainValue (value : Text) : Prop := ∀ c ∈ value, ¬ Text.IsMark c

theorem plainValue?_eq_some_iff {text value rest : Text} :
    plainValue? text = some (value, rest) ↔
      ∃ mark, Text.IsMark mark ∧ IsPlainValue value ∧ text = mark :: (value ++ mark :: rest) := by
  have bare : ∀ c, (!(c == '\x22' || c == '\x27')) = true ↔ ¬ Text.IsMark c := by
    intro c
    simp [Text.IsMark]
  unfold plainValue?
  dsimp only
  constructor
  · intro found
    split at found
    · cases found
    · rename_i mark body opened
      obtain ⟨isMark, rfl⟩ := Text.afterMark?_eq_some_iff.mp opened
      split at found
      · cases found
      · rename_i c behind stopped
        split at found
        · rename_i equal
          cases found
          refine ⟨mark, isMark, ?_, ?_⟩
          · intro d member
            have all := List.all_takeWhile (p := fun c => !(c == '\x22' || c == '\x27')) (l := body)
            exact (bare d).mp (List.all_eq_true.mp all d member)
          · rw [← equal, ← stopped, List.takeWhile_append_dropWhile]
        · cases found
  · rintro ⟨mark, isMark, plain, rfl⟩
    rw [Text.afterMark?_eq_some_iff.mpr ⟨isMark, rfl⟩]
    have inside : ∀ c ∈ value, (!(c == '\x22' || c == '\x27')) = true :=
      fun c member => (bare c).mpr (plain c member)
    have stops : (!(mark == '\x22' || mark == '\x27')) = false :=
      Bool.eq_false_iff.mpr fun holds => (bare mark).mp holds isMark
    dsimp only
    rw [List.takeWhile_append_of_pos inside, List.dropWhile_append_of_pos inside,
      List.takeWhile_cons_of_neg (by simp only [stops, Bool.false_eq_true, not_false_eq_true]),
      List.dropWhile_cons_of_neg (by simp only [stops, Bool.false_eq_true, not_false_eq_true])]
    simp only [↓reduceIte, List.append_nil]

theorem plainAttribute_finds_iff {previous : Option Char} {text : Text} {found : Attribute} :
    plainAttribute.Finds previous text found ↔
      ∃ name behind inside value rest, text.className? = some (name, behind) ∧
        mayBeginAttribute previous = true ∧ behind.afterEquals? = some inside ∧
        plainValue? inside = some (value, rest) ∧
        attributeUpTo text rest .simple name (plainUses value) = some found := by
  simp only [Locator.Finds, plainAttribute, openingUpTo, Option.bind_eq_bind,
    Option.bind_eq_some_iff, Prod.exists, Option.guard_eq_some', Option.some.injEq, Opening.mk.injEq,
    exists_const]
  constructor
  · rintro ⟨-, name, behind, named, begins, inside, equals, value, rest, read, -, whole⟩
    exact ⟨name, behind, inside, value, rest, named, begins, equals, read, whole⟩
  · rintro ⟨name, behind, inside, value, rest, named, begins, equals, read, whole⟩
    exact ⟨_, name, behind, named, begins, inside, equals, value, rest, read, rfl, whole⟩

theorem plainAttribute_occupies {previous : Option Char} {text : Text} {found : Attribute}
    (finds : plainAttribute.Finds previous text found) :
    ∃ taken, plainAttribute.Occupies text found taken := by
  obtain ⟨name, behind, inside, value, rest, named, -, equals, read, whole⟩ :=
    plainAttribute_finds_iff.mp finds
  obtain ⟨known, rfl⟩ := Text.className?_eq_some named
  obtain ⟨gap, isGap, rfl, -⟩ := Text.afterEquals?_eq_some_iff.mp equals
  obtain ⟨mark, isMark, plain, rfl⟩ := plainValue?_eq_some_iff.mp read
  have shape : ∀ tail : Text, name ++ (gap ++ mark :: (value ++ mark :: tail)) =
      name ++ gap ++ [mark] ++ value ++ [mark] ++ tail := by
    intro tail
    simp only [List.append_assoc, List.cons_append, List.nil_append]
  refine occupies_of_attributeUpTo (shape rest) (shape [' ']) whole
    ⟨gap ++ [mark] ++ value ++ [mark], by simp only [List.append_assoc]⟩ known.solid
    ((drawn_plainUses value).within _ _) fun same => ?_
  exact plainAttribute_finds_iff.mpr ⟨name, _, _, value, [' '],
    Text.className?_of_equals known isGap _, rfl, Text.afterEquals?_append isGap isMark.isBlank _,
    plainValue?_eq_some_iff.mpr ⟨mark, isMark, plain, rfl⟩, same⟩

end ClassUsage

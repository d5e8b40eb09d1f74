import ClassUsage.Proofs.FormRecognition
import ClassUsage.Proofs.OverlapRemoval

set_option autoImplicit false

/-!
The extractions of a document. Each of them tells where its attribute stands, and what is found there
does not depend on the rest of the document.
-/
namespace ClassUsage

namespace Locator

/-- The extraction reports what the locator finds at a place of the text, which begins at an offset
and behind a character of the document. -/
def Reports (locator : Locator) (offset : Nat) (previous : Option Char) (text : Text)
    (extraction : Extraction) : Prop :=
  ∃ before rest found, text = before ++ rest ∧
    locator.Finds (before.getLast?.or previous) rest found ∧
    extraction = found.extractionAt (offset + before.length)

theorem Reports.cons {locator : Locator} {offset : Nat} {previous : Option Char} {c : Char}
    {rest : Text} {extraction : Extraction}
    (later : locator.Reports (offset + 1) (some c) rest extraction) :
    locator.Reports offset previous (c :: rest) extraction := by
  obtain ⟨before, behind, found, rfl, finds, rfl⟩ := later
  refine ⟨c :: before, behind, found, rfl, ?_, ?_⟩
  · cases before with
    | nil => exact finds
    | cons d before =>
      rw [List.getLast?_cons_cons]
      rw [List.getLast?_eq_some_getLast (List.cons_ne_nil d before)] at finds ⊢
      exact finds
  · rw [List.length_cons, Nat.add_assoc, Nat.add_comm 1]

theorem reports_of_mem_locateFrom {locator : Locator} {offset passed : Nat}
    {previous : Option Char} {text : Text} {extraction : Extraction}
    (located : extraction ∈ locator.locateFrom offset passed previous text) :
    locator.Reports offset previous text extraction := by
  induction text generalizing offset passed previous with
  | nil => cases located
  | cons c rest ih =>
    cases passed with
    | succ passed => exact (ih located).cons
    | zero =>
      unfold locateFrom at located
      split at located
      · exact (ih located).cons
      · rename_i opening opens
        rcases List.mem_append.mp located with here | later
        · obtain ⟨found, isFound, rfl⟩ := Option.map_eq_some_iff.mp (Option.mem_toList.mp here)
          refine ⟨[], c :: rest, found, rfl, ⟨opening.length, ?_⟩, rfl⟩
          rw [← isFound]
          exact opens
        · exact (ih later).cons

theorem mem_locateFrom_of_finds {locator : Locator} {previous : Option Char} {text : Text}
    {found : Attribute} (finds : locator.Finds previous text found) (filled : text ≠ [])
    (offset : Nat) : found.extractionAt offset ∈ locator.locateFrom offset 0 previous text := by
  obtain ⟨passed, opens⟩ := finds
  cases text with
  | nil => exact absurd rfl filled
  | cons c rest =>
    unfold locateFrom
    rw [opens]
    exact List.mem_append_left _ (List.mem_singleton.mpr rfl)

theorem mem_locate_of_finds {locator : Locator} {text : Text} {found : Attribute}
    (finds : locator.Finds none text found) (filled : text ≠ []) :
    found.extractionAt 0 ∈ locator.locate text :=
  mem_locateFrom_of_finds finds filled 0

end Locator

/-- The extraction reports an attribute that takes up the middle part of the document. -/
structure StandsBetween (document : Text) (extraction : Extraction) (before taken behind : Text) :
    Prop where
  whole : document = before ++ taken ++ behind
  found : ∃ (form : AttributeForm) (found : Attribute),
    form.locator.Finds before.getLast? (taken ++ behind) found ∧
    form.locator.Occupies (taken ++ behind) found taken ∧
    extraction = found.extractionAt before.length

theorem standsBetween_of_mem_locate {locator : Locator} (listed : locator ∈ allLocators)
    {document : Text} {extraction : Extraction} (located : extraction ∈ locator.locate document) :
    ∃ before taken behind, StandsBetween document extraction before taken behind := by
  rw [← AttributeForm.map_locator_all] at listed
  obtain ⟨form, -, rfl⟩ := List.mem_map.mp listed
  obtain ⟨before, rest, found, rfl, finds, rfl⟩ := Locator.reports_of_mem_locateFrom located
  rw [Option.or_none] at finds
  obtain ⟨taken, occupies⟩ := form.occupies_of_finds finds
  obtain ⟨behind, rfl⟩ := occupies.first
  refine ⟨before, taken, behind, by rw [List.append_assoc], form, found, finds, occupies, ?_⟩
  rw [Nat.zero_add]

theorem standsBetween_of_mem_extractAll {document : Text} {extraction : Extraction}
    (extracted : extraction ∈ extractAll document) :
    ∃ before taken behind, StandsBetween document extraction before taken behind := by
  obtain ⟨locator, listed, located⟩ := List.mem_flatMap.mp (mem_of_mem_removeOverlaps extracted)
  exact standsBetween_of_mem_locate listed located

namespace StandsBetween

variable {document before taken behind : Text} {extraction : Extraction}

theorem range_eq (stands : StandsBetween document extraction before taken behind) :
    extraction.range = ⟨before.length, before.length + taken.length⟩ := by
  obtain ⟨-, form, found, -, occupies, rfl⟩ := stands
  rw [Attribute.extractionAt, occupies.length]

theorem exists_solid (stands : StandsBetween document extraction before taken behind) :
    ∃ c rest, taken = c :: rest ∧ isBlank c = false := by
  obtain ⟨-, form, found, -, occupies, rfl⟩ := stands
  obtain ⟨after, named⟩ := occupies.named
  obtain ⟨c, rest, name, solid⟩ := occupies.solid
  exact ⟨c, rest ++ after, by rw [named, name, List.cons_append], solid⟩

theorem length_pos (stands : StandsBetween document extraction before taken behind) :
    0 < taken.length := by
  obtain ⟨c, rest, rfl, -⟩ := stands.exists_solid
  exact Nat.succ_pos _

theorem stop_le (stands : StandsBetween document extraction before taken behind) :
    before.length + taken.length ≤ document.length := by
  rw [stands.whole, List.length_append, List.length_append]
  exact Nat.le_add_right _ _

theorem drawn (stands : StandsBetween document extraction before taken behind) :
    Drawn extraction.uses taken := by
  obtain ⟨-, form, found, -, occupies, rfl⟩ := stands
  exact occupies.drawn

theorem filled (stands : StandsBetween document extraction before taken behind) :
    extraction.uses ≠ [] := by
  obtain ⟨-, form, found, -, occupies, rfl⟩ := stands
  exact occupies.filled

theorem slice_eq (stands : StandsBetween document extraction before taken behind) :
    document.slice before.length (before.length + taken.length) = taken := by
  rw [stands.whole]
  exact Text.slice_middle before taken behind

theorem name_isPrefix (stands : StandsBetween document extraction before taken behind) :
    extraction.name <+: document.drop before.length := by
  obtain ⟨rfl, form, found, -, occupies, rfl⟩ := stands
  obtain ⟨after, named⟩ := occupies.named
  refine ⟨after ++ behind, ?_⟩
  rw [List.append_assoc, List.drop_left, named, List.append_assoc]
  rfl

/-- In the attribute alone, with a blank behind it, the attribute is found again at the start. -/
theorem mem_locate_taken (stands : StandsBetween document extraction before taken behind) :
    (⟨extraction.kind, extraction.name, ⟨0, taken.length⟩, extraction.uses⟩ : Extraction) ∈
      allLocators.flatMap (·.locate (taken ++ [' '])) := by
  obtain ⟨-, form, found, -, occupies, rfl⟩ := stands
  have again := Locator.mem_locate_of_finds occupies.again (by simp)
  apply List.mem_flatMap.mpr
  refine ⟨form.locator, ?_, ?_⟩
  · rw [← AttributeForm.map_locator_all]
    exact List.mem_map_of_mem form.mem_all
  · simpa [Attribute.extractionAt, occupies.length] using again

end StandsBetween
end ClassUsage

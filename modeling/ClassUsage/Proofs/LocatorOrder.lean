import ClassUsage.Proofs.DocumentExtraction
import Mathlib.Data.List.Nodup

set_option autoImplicit false

/-!
The order in which the locators are asked. No two of their extractions start at one place, so sorting
by start leaves nothing to be decided by the order of the locators.
-/
namespace ClassUsage

namespace Locator

theorem start_of_mem_locateFrom {locator : Locator} {offset passed : Nat} {previous : Option Char}
    {text : Text} {extraction : Extraction}
    (located : extraction ∈ locator.locateFrom offset passed previous text) :
    (offset : Int) ≤ extraction.range.start := by
  obtain ⟨before, rest, found, -, -, rfl⟩ := reports_of_mem_locateFrom located
  simp only [Attribute.extractionAt]
  omega

/-- A locator goes on behind each place at which it has found something. -/
theorem locateFrom_pairwise (locator : Locator) (offset passed : Nat) (previous : Option Char)
    (text : Text) : (locator.locateFrom offset passed previous text).Pairwise fun first second =>
      first.range.start < second.range.start := by
  induction text generalizing offset passed previous with
  | nil => exact List.Pairwise.nil
  | cons c rest ih =>
    cases passed with
    | succ passed => exact ih _ _ _
    | zero =>
      unfold locateFrom
      split
      · exact ih _ _ _
      · rename_i opening opens
        cases opening.found with
        | none => exact ih _ _ _
        | some found =>
          apply List.Pairwise.cons
          · intro later located
            have behind := start_of_mem_locateFrom located
            simp only [Attribute.extractionAt]
            omega
          · exact ih _ _ _

end Locator

/-- What stands at one place of a document is found by one locator only. -/
theorem AttributeForm.eq_of_start_eq {form other : AttributeForm} {document : Text}
    {first second : Extraction} (located : first ∈ form.locator.locate document)
    (also_located : second ∈ other.locator.locate document)
    (together : first.range.start = second.range.start) : form = other := by
  obtain ⟨before, rest, found, rfl, finds, rfl⟩ := Locator.reports_of_mem_locateFrom located
  obtain ⟨front, behind, also_found, same, also_finds, rfl⟩ :=
    Locator.reports_of_mem_locateFrom also_located
  have lengths : before.length = front.length := by
    simp only [Attribute.extractionAt] at together
    omega
  obtain ⟨rfl, rfl⟩ := List.append_inj same lengths
  exact eq_of_finds finds also_finds

/-- No two extractions of a document start together, before any of them is dropped. -/
theorem starts_nodup (document : Text) :
    ((allLocators.flatMap (·.locate document)).map (·.range.start)).Nodup := by
  have distinct : AttributeForm.all.Nodup := by decide
  rw [← AttributeForm.map_locator_all, List.flatMap_map, List.Nodup, List.pairwise_map,
    List.pairwise_flatMap]
  constructor
  · intro form _
    exact (form.locator.locateFrom_pairwise 0 0 none document).imp fun apart => Int.ne_of_lt apart
  · refine distinct.imp ?_
    intro form other different first located second also_located together
    exact different (AttributeForm.eq_of_start_eq located also_located together)

/-- Of extractions that all start apart, the order in which they are given is forgotten. -/
theorem removeOverlaps_perm {first second : List Extraction} (same : first.Perm second)
    (apart : (second.map (·.range.start)).Nodup) : removeOverlaps first = removeOverlaps second := by
  have sorted : (orderByStart first).Perm (orderByStart second) :=
    ((List.mergeSort_perm _ _).trans same).trans (List.mergeSort_perm _ _).symm
  have equal : orderByStart first = orderByStart second := by
    refine sorted.eq_of_pairwise ?_ (orderByStart_pairwise first) (orderByStart_pairwise second)
    intro one other inFirst inSecond before after
    have member := same.subset (mem_orderByStart.mp inFirst)
    have also_member := mem_orderByStart.mp inSecond
    exact List.inj_on_of_nodup_map apart member also_member (Int.le_antisymm before after)
  rw [removeOverlaps, equal, removeOverlaps]

/-- All extractions of a document start apart, so its locators may be asked in any order. -/
theorem extractAll_order_irrelevant (document : Text) :
    ((allLocators.flatMap (·.locate document)).map (·.range.start)).Nodup ∧
      ∀ locators : List Locator, locators.Perm allLocators →
        removeOverlaps (locators.flatMap (·.locate document)) = extractAll document := by
  refine ⟨starts_nodup document, ?_⟩
  intro locators permuted
  exact removeOverlaps_perm (permuted.flatMap_right _) (starts_nodup document)

theorem extractAll_order_reversed :
    (allLocators.flatMap (·.locate "class='b' :class='c'".toList)).length = 2 ∧
      allLocators.reverse.Perm allLocators ∧
      removeOverlaps (allLocators.reverse.flatMap (·.locate "class='b' :class='c'".toList)) =
        extractAll "class='b' :class='c'".toList := by
  have permuted := List.reverse_perm allLocators
  exact ⟨by decide +kernel, permuted, (extractAll_order_irrelevant _).2 _ permuted⟩

end ClassUsage

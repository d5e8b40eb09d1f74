import ClassUsage.Proofs.ExtractionGuarantees
import ClassUsage.Proofs.GreedySelection

set_option autoImplicit false

/-!
Looking up a position in a document. A range holds the position behind its last character too, so
where two extractions touch, both hold the position between them and the first one is taken. All
other positions are held by one extraction or by none.
-/
namespace ClassUsage

/-- Whether the character before a position lies in a range. -/
def SourceRange.holdsBefore (range : SourceRange) (position : Int) : Bool :=
  range.start < position && position ≤ range.stop

theorem SourceRange.holdsBefore_iff {range : SourceRange} {position : Int} :
    range.holdsBefore position = true ↔ range.start < position ∧ position ≤ range.stop := by
  simp only [holdsBefore, Bool.and_eq_true, decide_eq_true_eq]

theorem SourceRange.contains_iff {range : SourceRange} {position : Int} :
    range.contains position = true ↔ range.start ≤ position ∧ position ≤ range.stop := by
  simp only [contains, Bool.and_eq_true, decide_eq_true_eq]

theorem filter_eq_singleton {holds : Extraction → Bool} {extractions : List Extraction}
    (exclusive : extractions.Pairwise fun first second =>
      ¬ (holds first = true ∧ holds second = true))
    {extraction : Extraction} (member : extraction ∈ extractions)
    (held : holds extraction = true) : extractions.filter holds = [extraction] := by
  obtain ⟨before, after, rfl⟩ := List.append_of_mem member
  obtain ⟨-, behind, across⟩ := List.pairwise_append.mp exclusive
  have noneBefore : before.filter holds = [] := by
    apply List.filter_eq_nil_iff.mpr
    intro other inBefore both
    exact across other inBefore extraction List.mem_cons_self ⟨both, held⟩
  have noneAfter : after.filter holds = [] := by
    apply List.filter_eq_nil_iff.mpr
    intro other inAfter both
    exact (List.pairwise_cons.mp behind).1 other inAfter ⟨held, both⟩
  rw [List.filter_append, noneBefore, List.filter_cons_of_pos held, noneAfter, List.nil_append]

section

variable {extractions : List Extraction} {found : Extraction} {position : Int}
  (apart : extractions.Pairwise fun first second => first.range.stop ≤ second.range.start)

include apart

/-- An extraction is taken if it holds the position and those that end before it do not. -/
theorem extractionAt_eq_some (member : found ∈ extractions)
    (holds : found.range.contains position = true)
    (missed : ∀ other ∈ extractions, other.range.stop ≤ found.range.start →
      other.range.contains position = false) :
    extractionAt extractions position = some found := by
  obtain ⟨before, after, rfl⟩ := List.append_of_mem member
  obtain ⟨-, -, across⟩ := List.pairwise_append.mp apart
  unfold extractionAt
  refine List.find?_eq_some_iff_append.mpr ⟨holds, before, after, rfl, ?_⟩
  intro other inBefore
  rw [missed other (List.mem_append_left _ inBefore)
    (across other inBefore found List.mem_cons_self)]
  rfl

/-- The character before a position lies in one extraction at most, and that one is taken. -/
theorem extractionAt_of_holdsBefore (member : found ∈ extractions)
    (holds : found.range.holdsBefore position = true) :
    extractions.filter (·.range.holdsBefore position) = [found] ∧
      extractionAt extractions position = some found := by
  obtain ⟨start, stop⟩ := SourceRange.holdsBefore_iff.mp holds
  constructor
  · refine filter_eq_singleton (apart.imp ?_) member holds
    rintro first second separate ⟨inFirst, inSecond⟩
    have ends := (SourceRange.holdsBefore_iff.mp inFirst).2
    have starts := (SourceRange.holdsBefore_iff.mp inSecond).1
    omega
  · apply extractionAt_eq_some apart member
    · exact SourceRange.contains_iff.mpr ⟨Int.le_of_lt start, stop⟩
    · intro other _ before
      apply Bool.eq_false_iff.mpr
      intro inOther
      have ends := (SourceRange.contains_iff.mp inOther).2
      omega

/-- Where no extraction holds the character before a position, the only one that starts there is
taken. -/
theorem extractionAt_of_start
    (forward : ∀ extraction ∈ extractions, extraction.range.start < extraction.range.stop)
    (unheld : ∀ extraction ∈ extractions, extraction.range.holdsBefore position = false)
    (member : found ∈ extractions) (starts : found.range.start = position) :
    extractions.filter (·.range.start == position) = [found] ∧
      extractionAt extractions position = some found := by
  constructor
  · refine filter_eq_singleton (apart.imp_of_mem ?_) member (beq_iff_eq.mpr starts)
    rintro first second inFirst - separate ⟨atFirst, atSecond⟩
    have whole := forward first inFirst
    have same := (beq_iff_eq.mp atFirst).trans (beq_iff_eq.mp atSecond).symm
    omega
  · apply extractionAt_eq_some apart member
    · have whole := forward found member
      exact SourceRange.contains_iff.mpr ⟨Int.le_of_eq starts, by omega⟩
    · intro other inOthers before
      apply Bool.eq_false_iff.mpr
      intro inOther
      have ends := (SourceRange.contains_iff.mp inOther).2
      have whole := forward other inOthers
      -- it would end just at the position, and so hold the character before it
      have held := SourceRange.holdsBefore_iff.mpr ⟨show other.range.start < position by omega, ends⟩
      rw [unheld other inOthers] at held
      cases held

end

theorem extractionAt_eq_none {extractions : List Extraction} {position : Int}
    (unheld : ∀ extraction ∈ extractions, extraction.range.holdsBefore position = false)
    (apart : ∀ extraction ∈ extractions, extraction.range.start ≠ position) :
    extractionAt extractions position = none := by
  unfold extractionAt
  rw [List.find?_eq_none]
  intro extraction member contains
  obtain ⟨start, stop⟩ := SourceRange.contains_iff.mp contains
  have elsewhere := apart extraction member
  have held := SourceRange.holdsBefore_iff.mpr
    ⟨show extraction.range.start < position by omega, stop⟩
  rw [unheld extraction member] at held
  cases held

/-- A position belongs to the extraction that holds the character before it, which is the only one
to do so; otherwise to the one that starts at it, which is the only one too; otherwise to none. Where
two extractions touch, the position between them belongs to the first. -/
theorem extractionAt_unambiguous (document : Text) (position : Int) :
    (∀ found ∈ extractAll document, found.range.holdsBefore position = true →
      (extractAll document).filter (·.range.holdsBefore position) = [found] ∧
        extractionAt (extractAll document) position = some found) ∧
    ((∀ other ∈ extractAll document, other.range.holdsBefore position = false) →
      (∀ found ∈ extractAll document, found.range.start = position →
        (extractAll document).filter (·.range.start == position) = [found] ∧
          extractionAt (extractAll document) position = some found) ∧
      ((∀ other ∈ extractAll document, other.range.start ≠ position) →
        extractionAt (extractAll document) position = none)) ∧
    ∀ first ∈ extractAll document, ∀ second ∈ extractAll document,
      first.range.stop = position → second.range.start = position →
        extractionAt (extractAll document) position = some first := by
  have apart := extractAll_pairwise document
  have forward : ∀ extraction ∈ extractAll document,
      extraction.range.start < extraction.range.stop :=
    fun extraction extracted => (range_of_mem_extractAll extracted).2.1
  refine ⟨?_, ?_, ?_⟩
  · intro found extracted holds
    exact extractionAt_of_holdsBefore apart extracted holds
  · intro unheld
    refine ⟨?_, extractionAt_eq_none unheld⟩
    intro found extracted starts
    exact extractionAt_of_start apart forward unheld extracted starts
  · intro first extracted _ _ ends _
    have whole := forward first extracted
    have holds := SourceRange.holdsBefore_iff.mpr
      ⟨show first.range.start < position by omega, Int.le_of_eq ends.symm⟩
    exact (extractionAt_of_holdsBefore apart extracted holds).2

def touchingAttributes : Text := "<a class=\x27b\x27class=\x27c\x27>".toList

def touchedFirst : Extraction := ⟨.simple, "class".toList, ⟨3, 12⟩, [⟨"b".toList, none⟩]⟩

def touchedSecond : Extraction := ⟨.simple, "class".toList, ⟨12, 21⟩, [⟨"c".toList, none⟩]⟩

theorem extractionAt_unambiguous_touching :
    extractAll touchingAttributes = [touchedFirst, touchedSecond] ∧
    (touchedFirst.range.holdsBefore 12 = true ∧
      (extractAll touchingAttributes).filter (·.range.holdsBefore 12) = [touchedFirst] ∧
      extractionAt (extractAll touchingAttributes) 12 = some touchedFirst) ∧
    ((∀ other ∈ extractAll touchingAttributes, other.range.holdsBefore 3 = false) ∧
      touchedFirst.range.start = 3 ∧
      (extractAll touchingAttributes).filter (·.range.start == 3) = [touchedFirst] ∧
      extractionAt (extractAll touchingAttributes) 3 = some touchedFirst) ∧
    extractionAt (extractAll touchingAttributes) 22 = none := by
  have located : allLocators.flatMap (·.locate touchingAttributes) = [touchedFirst, touchedSecond] := by
    decide +kernel
  have extracted : extractAll touchingAttributes = [touchedFirst, touchedSecond] := by
    rw [extractAll, located]
    exact removeOverlaps_eq_self (by decide) (by decide)
  have first : touchedFirst ∈ extractAll touchingAttributes := by
    rw [extracted]
    exact List.mem_cons_self
  have unheld : ∀ other ∈ extractAll touchingAttributes, other.range.holdsBefore 3 = false := by
    rw [extracted]
    decide
  have behind : ∀ other ∈ extractAll touchingAttributes,
      other.range.holdsBefore 22 = false ∧ other.range.start ≠ 22 := by
    rw [extracted]
    decide
  obtain ⟨seam, -⟩ := extractionAt_unambiguous touchingAttributes 12
  obtain ⟨-, start, -⟩ := extractionAt_unambiguous touchingAttributes 3
  obtain ⟨-, outside, -⟩ := extractionAt_unambiguous touchingAttributes 22
  refine ⟨extracted, ⟨rfl, seam _ first rfl⟩, ⟨unheld, rfl, (start unheld).1 _ first rfl⟩, ?_⟩
  exact (outside fun other member => (behind other member).1).2 fun other member =>
    (behind other member).2

end ClassUsage

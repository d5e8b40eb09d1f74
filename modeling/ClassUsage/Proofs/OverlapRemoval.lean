import ClassUsage.Document.Extract
import Mathlib.Data.List.Basic

set_option autoImplicit false

/-! What is left of extractions that overlap. -/
namespace ClassUsage

theorem mem_orderByStart {extraction : Extraction} {extractions : List Extraction} :
    extraction ∈ orderByStart extractions ↔ extraction ∈ extractions :=
  (List.mergeSort_perm extractions _).mem_iff

theorem orderByStart_pairwise (extractions : List Extraction) :
    (orderByStart extractions).Pairwise fun first second =>
      first.range.start ≤ second.range.start := by
  have sorted : (orderByStart extractions).Pairwise fun first second =>
      decide (first.range.start ≤ second.range.start) = true := by
    apply List.pairwise_mergeSort
    · intro first second third
      simp only [decide_eq_true_eq]
      omega
    · intro first second
      simp only [Bool.or_eq_true, decide_eq_true_eq]
      omega
  simpa only [decide_eq_true_eq] using sorted

theorem keepDisjoint_sublist (free : Int) (extractions : List Extraction) :
    (keepDisjoint free extractions).Sublist extractions := by
  induction extractions generalizing free with
  | nil => exact List.Sublist.refl []
  | cons extraction others ih =>
    unfold keepDisjoint
    split
    · exact (ih extraction.range.stop).cons_cons extraction
    · exact (ih free).cons extraction

theorem keepDisjoint_eq_nil {free : Int} {extractions : List Extraction}
    (early : ∀ extraction ∈ extractions, extraction.range.start < free) :
    keepDisjoint free extractions = [] := by
  induction extractions with
  | nil => rfl
  | cons extraction others ih =>
    have first := early extraction List.mem_cons_self
    unfold keepDisjoint
    rw [if_neg (by omega)]
    exact ih fun other member => early other (List.mem_cons_of_mem _ member)

theorem free_le_of_mem_keepDisjoint {free : Int} {extractions : List Extraction}
    (forward : ∀ extraction ∈ extractions, extraction.range.start ≤ extraction.range.stop)
    {extraction : Extraction} (kept : extraction ∈ keepDisjoint free extractions) :
    free ≤ extraction.range.start := by
  induction extractions generalizing free with
  | nil => cases kept
  | cons first others ih =>
    have later := fun other member => forward other (List.mem_cons_of_mem first member)
    unfold keepDisjoint at kept
    split at kept
    · rename_i fits
      rcases List.mem_cons.mp kept with rfl | inOthers
      · exact fits
      · have behind := ih later inOthers
        have whole := forward first List.mem_cons_self
        omega
    · exact ih later kept

/-- Each extraction that is kept ends before the next one starts. -/
theorem keepDisjoint_pairwise {extractions : List Extraction}
    (forward : ∀ extraction ∈ extractions, extraction.range.start ≤ extraction.range.stop)
    (free : Int) : (keepDisjoint free extractions).Pairwise fun first second =>
      first.range.stop ≤ second.range.start := by
  induction extractions generalizing free with
  | nil => exact List.Pairwise.nil
  | cons first others ih =>
    have later := fun other member => forward other (List.mem_cons_of_mem first member)
    unfold keepDisjoint
    split
    · apply List.Pairwise.cons
      · intro second kept
        exact free_le_of_mem_keepDisjoint later kept
      · exact ih later first.range.stop
    · exact ih later free

theorem mem_of_mem_removeOverlaps {extraction : Extraction} {extractions : List Extraction}
    (kept : extraction ∈ removeOverlaps extractions) : extraction ∈ extractions :=
  mem_orderByStart.mp ((keepDisjoint_sublist (-1) _).subset kept)

theorem removeOverlaps_pairwise {extractions : List Extraction}
    (forward : ∀ extraction ∈ extractions, extraction.range.start ≤ extraction.range.stop) :
    (removeOverlaps extractions).Pairwise fun first second =>
      first.range.stop ≤ second.range.start := by
  apply keepDisjoint_pairwise
  intro extraction member
  exact forward extraction (mem_orderByStart.mp member)

/-- An extraction that all others start inside is the only one kept. -/
theorem removeOverlaps_eq_singleton {extraction : Extraction} {extractions : List Extraction}
    (member : extraction ∈ extractions) (start : -1 ≤ extraction.range.start)
    (inside : ∀ other ∈ extractions, other.range.start < extraction.range.stop)
    (behind : ∀ other ∈ extractions,
      other = extraction ∨ extraction.range.start < other.range.start) :
    removeOverlaps extractions = [extraction] := by
  have sorted := orderByStart_pairwise extractions
  have inOrder := mem_orderByStart.mpr member
  have all : ∀ other ∈ orderByStart extractions, other ∈ extractions :=
    fun other => mem_orderByStart.mp
  unfold removeOverlaps
  cases ordered : orderByStart extractions with
  | nil =>
    rw [ordered] at inOrder
    cases inOrder
  | cons first others =>
    rw [ordered] at sorted inOrder all
    obtain ⟨least, -⟩ := List.pairwise_cons.mp sorted
    have isFirst : first = extraction := by
      rcases behind first (all first List.mem_cons_self) with same | later
      · exact same
      · rcases List.mem_cons.mp inOrder with same | inOthers
        · exact same.symm
        · have before := least extraction inOthers
          omega
    subst isFirst
    unfold keepDisjoint
    rw [if_pos start, keepDisjoint_eq_nil]
    intro other inOthers
    exact inside other (all other (List.mem_cons_of_mem _ inOthers))

end ClassUsage

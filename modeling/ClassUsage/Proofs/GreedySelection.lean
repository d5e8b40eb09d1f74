import ClassUsage.Proofs.LocatorOrder

set_option autoImplicit false

/-!
Overlaps are resolved greedily: in the order of their starts, an extraction is kept exactly if no one
kept before it reaches over its start. Nothing else can be said to have been kept, so the places that are
kept are determined by this.
-/
namespace ClassUsage

/-- The extractions sorted by where they start; those that start together stay in order. -/
structure IsStableSort (sorted extractions : List Extraction) : Prop where
  perm : sorted.Perm extractions
  increasing : sorted.Pairwise fun first second => first.range.start ≤ second.range.start
  stable : ∀ start, sorted.filter (·.range.start == start) = extractions.filter (·.range.start == start)

/-- What is kept of a list stands at the given places of it, no two of the kept ones overlap, and each of
the others starts inside one kept before it. -/
structure IsGreedySelection (ordered : List Extraction) (places : List Nat) (kept : List Extraction) :
    Prop where
  increasing : places.Pairwise (· < ·)
  taken : places.map (ordered[·]?) = kept.map some
  apart : kept.Pairwise fun first second => first.range.stop ≤ second.range.start
  covered : ∀ place dropped, ordered[place]? = some dropped → place ∉ places →
    ∃ earlier ∈ places, earlier < place ∧ ∃ holder, ordered[earlier]? = some holder ∧
      holder.range.start ≤ dropped.range.start ∧ dropped.range.start < holder.range.stop

theorem isStableSort_orderByStart (extractions : List Extraction) :
    IsStableSort (orderByStart extractions) extractions := by
  have perm : (orderByStart extractions).Perm extractions := List.mergeSort_perm _ _
  refine ⟨perm, orderByStart_pairwise extractions, ?_⟩
  intro start
  have together : (extractions.filter (·.range.start == start)).Pairwise fun first second =>
      decide (first.range.start ≤ second.range.start) = true := by
    apply List.pairwise_of_forall_mem_list
    intro first inFirst second inSecond
    have starts := beq_iff_eq.mp (List.mem_filter.mp inFirst).2
    have also_starts := beq_iff_eq.mp (List.mem_filter.mp inSecond).2
    exact decide_eq_true (Int.le_of_eq (starts.trans also_starts.symm))
  have inside : (extractions.filter (·.range.start == start)).Sublist (orderByStart extractions) := by
    apply List.sublist_mergeSort _ _ together List.filter_sublist
    · intro first second third
      simp only [decide_eq_true_eq]
      omega
    · intro first second
      simp only [Bool.or_eq_true, decide_eq_true_eq]
      omega
  have filtered := inside.filter (·.range.start == start)
  rw [List.filter_filter] at filtered
  simp only [Bool.and_self] at filtered
  exact (filtered.eq_of_length (perm.symm.filter _).length_eq).symm

theorem map_getElem?_succ (places : List Nat) (first : Extraction) (others : List Extraction) :
    (places.map (· + 1)).map ((first :: others)[·]?) = places.map (others[·]?) := by
  rw [List.map_map]
  rfl

theorem pairwise_succ {places : List Nat} (increasing : places.Pairwise (· < ·)) :
    (places.map (· + 1)).Pairwise (· < ·) :=
  List.pairwise_map.mpr (increasing.imp Nat.succ_lt_succ)

/-- The places that are kept when everything before `free` is taken. -/
theorem exists_places (free : Int) {extractions : List Extraction}
    (sorted : extractions.Pairwise fun first second => first.range.start ≤ second.range.start) :
    ∃ places : List Nat, places.Pairwise (· < ·) ∧
      places.map (extractions[·]?) = (keepDisjoint free extractions).map some ∧
      ∀ place dropped, extractions[place]? = some dropped → place ∉ places →
        dropped.range.start < free ∨
        ∃ earlier ∈ places, earlier < place ∧ ∃ holder, extractions[earlier]? = some holder ∧
          holder.range.start ≤ dropped.range.start ∧ dropped.range.start < holder.range.stop := by
  induction extractions generalizing free with
  | nil => exact ⟨[], List.Pairwise.nil, rfl, fun place dropped listed => by simp at listed⟩
  | cons first others ih =>
    obtain ⟨least, rest⟩ := List.pairwise_cons.mp sorted
    unfold keepDisjoint
    split
    · obtain ⟨places, increasing, taken, covered⟩ := ih first.range.stop rest
      refine ⟨0 :: places.map (· + 1), ?_, ?_, ?_⟩
      · refine List.pairwise_cons.mpr ⟨?_, pairwise_succ increasing⟩
        intro place member
        obtain ⟨before, -, rfl⟩ := List.mem_map.mp member
        exact Nat.succ_pos before
      · rw [List.map_cons, map_getElem?_succ, taken]
        rfl
      · intro place dropped listed absent
        right
        cases place with
        | zero => exact absurd List.mem_cons_self absent
        | succ place =>
          have elsewhere : place ∉ places := fun member =>
            absent (List.mem_cons_of_mem _ (List.mem_map_of_mem member))
          rcases covered place dropped listed elsewhere with inFirst | ⟨earlier, member, before, holder, holds⟩
          · exact ⟨0, List.mem_cons_self, Nat.succ_pos place, first, rfl,
              least dropped (List.mem_of_getElem? listed), inFirst⟩
          · exact ⟨earlier + 1, List.mem_cons_of_mem _ (List.mem_map_of_mem member),
              Nat.succ_lt_succ before, holder, holds⟩
    · rename_i late
      obtain ⟨places, increasing, taken, covered⟩ := ih free rest
      refine ⟨places.map (· + 1), pairwise_succ increasing, ?_, ?_⟩
      · rw [map_getElem?_succ, taken]
      · intro place dropped listed absent
        cases place with
        | zero =>
          cases listed
          exact Or.inl (Int.not_le.mp late)
        | succ place =>
          have elsewhere : place ∉ places := fun member => absent (List.mem_map_of_mem member)
          rcases covered place dropped listed elsewhere with early | ⟨earlier, member, before, holder, holds⟩
          · exact Or.inl early
          · exact Or.inr ⟨earlier + 1, List.mem_map_of_mem member, Nat.succ_lt_succ before, holder, holds⟩

theorem exists_isGreedySelection {extractions : List Extraction}
    (valid : ∀ extraction ∈ extractions,
      0 ≤ extraction.range.start ∧ extraction.range.start < extraction.range.stop) :
    ∃ places, IsGreedySelection (orderByStart extractions) places (removeOverlaps extractions) := by
  obtain ⟨places, increasing, taken, covered⟩ := exists_places (-1) (orderByStart_pairwise extractions)
  refine ⟨places, increasing, taken, ?_, ?_⟩
  · exact removeOverlaps_pairwise fun extraction member => Int.le_of_lt (valid extraction member).2
  · intro place dropped listed absent
    rcases covered place dropped listed absent with early | inside
    · have start := (valid dropped (mem_orderByStart.mp (List.mem_of_getElem? listed))).1
      omega
    · exact inside

namespace IsGreedySelection

variable {ordered kept : List Extraction} {places : List Nat}

/-- Of two kept places, the extraction at the first ends where the other starts, or before. -/
theorem stop_le_start (selection : IsGreedySelection ordered places kept) {earlier later : Nat}
    (inFirst : earlier ∈ places) (inSecond : later ∈ places) (before : earlier < later)
    {first second : Extraction} (atFirst : ordered[earlier]? = some first)
    (atSecond : ordered[later]? = some second) : first.range.stop ≤ second.range.start := by
  have pairs : (places.map (ordered[·]?)).Pairwise fun one other =>
      ∀ left ∈ one, ∀ right ∈ other, left.range.stop ≤ right.range.start := by
    rw [selection.taken, List.pairwise_map]
    refine selection.apart.imp ?_
    rintro one other apart left isOne right isOther
    cases isOne
    cases isOther
    exact apart
  have apart := List.pairwise_map.mp pairs
  obtain ⟨index, inBounds, rfl⟩ := List.mem_iff_getElem.mp inFirst
  obtain ⟨behind, alsoInBounds, rfl⟩ := List.mem_iff_getElem.mp inSecond
  have ordered_indices : index < behind := by
    apply Nat.lt_of_not_le
    intro notBefore
    rcases Nat.lt_or_eq_of_le notBefore with after | same
    · have increasing := List.pairwise_iff_getElem.mp selection.increasing behind index alsoInBounds
        inBounds after
      omega
    · subst same
      omega
  exact List.pairwise_iff_getElem.mp apart index behind inBounds alsoInBounds ordered_indices
    first atFirst second atSecond

/-- All selections keep the same places. -/
theorem mem_places_iff (selection : IsGreedySelection ordered places kept) {others : List Nat}
    {rest : List Extraction} (other : IsGreedySelection ordered others rest) (place : Nat) :
    place ∈ places ↔ place ∈ others := by
  induction place using Nat.strongRecOn with
  | ind place ih =>
    have forward : ∀ {front back : List Nat} {one two : List Extraction},
        IsGreedySelection ordered front one → IsGreedySelection ordered back two →
        (∀ earlier < place, earlier ∈ back → earlier ∈ front) → place ∈ front → place ∈ back := by
      intro front back one two first second agrees member
      apply Classical.byContradiction
      intro absent
      have listed : ∃ dropped, ordered[place]? = some dropped := by
        have image : ordered[place]? ∈ front.map (ordered[·]?) := List.mem_map_of_mem member
        rw [first.taken] at image
        obtain ⟨dropped, -, equal⟩ := List.mem_map.mp image
        exact ⟨dropped, equal.symm⟩
      obtain ⟨dropped, listed⟩ := listed
      obtain ⟨earlier, inBack, before, holder, holds, -, reaches⟩ :=
        second.covered place dropped listed absent
      have apart := first.stop_le_start (agrees earlier before inBack) member before holds listed
      omega
    exact ⟨forward selection other fun earlier before => (ih earlier before).mpr,
      forward other selection fun earlier before => (ih earlier before).mp⟩

theorem unique (selection : IsGreedySelection ordered places kept) {others : List Nat}
    {rest : List Extraction} (other : IsGreedySelection ordered others rest) :
    places = others ∧ kept = rest := by
  have same : places = others := by
    apply List.Perm.eq_of_pairwise _ selection.increasing other.increasing
    · apply (List.perm_ext_iff_of_nodup _ _).mpr (selection.mem_places_iff other)
      · exact selection.increasing.imp Nat.ne_of_lt
      · exact other.increasing.imp Nat.ne_of_lt
    · intro one two _ _ before after
      omega
  refine ⟨same, ?_⟩
  have taken := selection.taken
  rw [same, other.taken] at taken
  exact (List.map_injective_iff.mpr (Option.some_injective Extraction) taken).symm

end IsGreedySelection

theorem keepDisjoint_eq_self {free : Int} {extractions : List Extraction}
    (behind : ∀ extraction ∈ extractions, free ≤ extraction.range.start)
    (apart : extractions.Pairwise fun first second => first.range.stop ≤ second.range.start) :
    keepDisjoint free extractions = extractions := by
  induction extractions generalizing free with
  | nil => rfl
  | cons first others ih =>
    obtain ⟨here, later⟩ := List.pairwise_cons.mp apart
    rw [keepDisjoint, if_pos (behind first List.mem_cons_self), ih here later]

theorem orderByStart_eq_self {extractions : List Extraction}
    (sorted : extractions.Pairwise fun first second => first.range.start ≤ second.range.start) :
    orderByStart extractions = extractions := by
  apply List.mergeSort_of_pairwise
  exact sorted.imp fun before => decide_eq_true before

/-- What has no overlaps and starts in the document is kept as it is. -/
theorem removeOverlaps_eq_self {extractions : List Extraction}
    (valid : ∀ extraction ∈ extractions,
      0 ≤ extraction.range.start ∧ extraction.range.start < extraction.range.stop)
    (apart : extractions.Pairwise fun first second => first.range.stop ≤ second.range.start) :
    removeOverlaps extractions = extractions := by
  have sorted : extractions.Pairwise fun first second => first.range.start ≤ second.range.start := by
    refine apart.imp_of_mem ?_
    intro first second member _ before
    have whole := (valid first member).2
    omega
  rw [removeOverlaps, orderByStart_eq_self sorted]
  apply keepDisjoint_eq_self _ apart
  intro extraction member
  have start := (valid extraction member).1
  omega

/-- Overlaps are removed by the greedy selection from the stable sort by start, and by no other one.
Selecting again changes nothing, and if all extractions start apart, their order does not matter. -/
theorem removeOverlaps_greedy {extractions : List Extraction}
    (valid : ∀ extraction ∈ extractions,
      0 ≤ extraction.range.start ∧ extraction.range.start < extraction.range.stop) :
    IsStableSort (orderByStart extractions) extractions ∧
      (∃ places, IsGreedySelection (orderByStart extractions) places (removeOverlaps extractions) ∧
        ∀ others kept, IsGreedySelection (orderByStart extractions) others kept →
          others = places ∧ kept = removeOverlaps extractions) ∧
      removeOverlaps (removeOverlaps extractions) = removeOverlaps extractions ∧
      ((extractions.map (·.range.start)).Nodup →
        ∀ permuted : List Extraction, permuted.Perm extractions →
          removeOverlaps permuted = removeOverlaps extractions) := by
  obtain ⟨places, selection⟩ := exists_isGreedySelection valid
  refine ⟨isStableSort_orderByStart extractions, ⟨places, selection, ?_⟩, ?_, ?_⟩
  · intro others kept other
    exact other.unique selection
  · apply removeOverlaps_eq_self _ selection.apart
    intro extraction kept
    exact valid extraction (mem_of_mem_removeOverlaps kept)
  · intro apart permuted same
    exact removeOverlaps_perm same apart

/-- Extractions of which two start together, one starts inside one that is dropped, and two touch. -/
def tiedExtractions : List Extraction :=
  [⟨.simple, "d".toList, ⟨6, 9⟩, []⟩, ⟨.simple, "a".toList, ⟨0, 4⟩, []⟩, ⟨.mixed, "b".toList, ⟨0, 9⟩, []⟩,
    ⟨.helper, "c".toList, ⟨4, 6⟩, []⟩, ⟨.helper, "e".toList, ⟨3, 8⟩, []⟩]

theorem removeOverlaps_greedy_tied :
    (∀ extraction ∈ tiedExtractions,
      0 ≤ extraction.range.start ∧ extraction.range.start < extraction.range.stop) ∧
    (removeOverlaps tiedExtractions).map (·.name) = ["a".toList, "c".toList, "d".toList] ∧
    IsStableSort (orderByStart tiedExtractions) tiedExtractions ∧
      (∃ places, IsGreedySelection (orderByStart tiedExtractions) places
          (removeOverlaps tiedExtractions) ∧
        ∀ others kept, IsGreedySelection (orderByStart tiedExtractions) others kept →
          others = places ∧ kept = removeOverlaps tiedExtractions) ∧
      removeOverlaps (removeOverlaps tiedExtractions) = removeOverlaps tiedExtractions ∧
      ((tiedExtractions.map (·.range.start)).Nodup →
        ∀ permuted : List Extraction, permuted.Perm tiedExtractions →
          removeOverlaps permuted = removeOverlaps tiedExtractions) := by
  have valid : ∀ extraction ∈ tiedExtractions,
      0 ≤ extraction.range.start ∧ extraction.range.start < extraction.range.stop := by decide
  have kept : (removeOverlaps tiedExtractions).map (·.name) = ["a".toList, "c".toList, "d".toList] := by
    simp [removeOverlaps, orderByStart, tiedExtractions, List.mergeSort, keepDisjoint]
  exact ⟨valid, kept, removeOverlaps_greedy valid⟩

end ClassUsage

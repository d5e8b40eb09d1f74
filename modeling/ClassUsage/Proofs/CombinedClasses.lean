import ClassUsage.Proofs.ClassNames

set_option autoImplicit false

/-!
Class lists put together. Each name stands where it is met first, so lists may be put together in
stages: what an earlier stage has left out would be left out later.
-/
namespace ClassUsage

/-- Of the names behind others, those that are new are added. -/
theorem firstOccurrences_append (names others : List Text) :
    firstOccurrences (names ++ others) =
      firstOccurrences names ++ (firstOccurrences others).filter (· ∉ names) := by
  induction names with
  | nil =>
    have all : (firstOccurrences others).filter (· ∉ []) = firstOccurrences others := by
      apply List.filter_eq_self.mpr
      simp
    rw [List.nil_append, all]
    rfl
  | cons name rest ih =>
    rw [List.cons_append, firstOccurrences, ih, firstOccurrences, List.cons_append,
      List.filter_append, List.filter_filter]
    congr 2
    apply List.filter_congr
    intro other _
    simp [not_or]

theorem firstOccurrences_of_nodup {names : List Text} (distinct : names.Nodup) :
    firstOccurrences names = names := by
  induction names with
  | nil => rfl
  | cons name others ih =>
    obtain ⟨absent, apart⟩ := List.nodup_cons.mp distinct
    rw [firstOccurrences, ih apart, List.filter_eq_self.mpr]
    intro other member
    simp only [ne_eq, decide_not, Bool.not_eq_eq_eq_not, Bool.not_true, decide_eq_false_iff_not]
    rintro rfl
    exact absent member

/-- Names are listed in the order of the places at which they are met first. -/
theorem firstOccurrences_pairwise (names : List Text) :
    (firstOccurrences names).Pairwise fun earlier later =>
      names.idxOf earlier < names.idxOf later := by
  induction names with
  | nil => exact List.Pairwise.nil
  | cons name others ih =>
    have moved : ∀ other ∈ (firstOccurrences others).filter (· ≠ name),
        (name :: others).idxOf other = others.idxOf other + 1 := by
      intro other member
      have different : (name == other) = false := by
        rw [beq_eq_false_iff_ne]
        intro same
        simpa [same] using (List.mem_filter.mp member).2
      rw [List.idxOf_cons, different, cond_false]
    apply List.Pairwise.cons
    · intro other member
      rw [List.idxOf_cons_self, moved other member]
      exact Nat.succ_pos _
    · refine (ih.filter _).imp_of_mem ?_
      intro earlier later inFront behind before
      rw [moved earlier inFront, moved later behind]
      exact Nat.succ_lt_succ before

/-- What is put together from two stages is what is put together at once. -/
theorem distinctClasses_stages (first second : List Text) :
    distinctClasses [combineClasses first, combineClasses second] =
      distinctClasses (first ++ second) := by
  have stages : distinctClasses [combineClasses first, combineClasses second] =
      firstOccurrences (distinctClasses first ++ distinctClasses second) := by
    rw [distinctClasses, List.flatMap_cons, List.flatMap_singleton, words_combineClasses,
      words_combineClasses]
  rw [stages, distinctClasses, distinctClasses, distinctClasses, List.flatMap_append,
    firstOccurrences_append, firstOccurrences_append, firstOccurrences_of_nodup (nodup_firstOccurrences _),
    firstOccurrences_of_nodup (nodup_firstOccurrences _)]
  simp only [mem_firstOccurrences]

/-- Class lists put together are the union of their names, each once and in the order in which they are
met first. Putting together in stages gives the same list, and so does doing it again. -/
theorem combineClasses_union (first second : List Text) :
    (combineClasses first).words.Nodup ∧
    (∀ name, name ∈ (combineClasses first).words ↔ ∃ classes ∈ first, name ∈ classes.words) ∧
    ((combineClasses first).words.Pairwise fun earlier later =>
      (first.flatMap Text.words).idxOf earlier < (first.flatMap Text.words).idxOf later) ∧
    combineClasses (first ++ second) =
      combineClasses [combineClasses first, combineClasses second] ∧
    combineClasses [combineClasses first] = combineClasses first := by
  rw [words_combineClasses]
  refine ⟨nodup_firstOccurrences _, ?_, firstOccurrences_pairwise _, ?_, ?_⟩
  · intro name
    rw [distinctClasses, mem_firstOccurrences, List.mem_flatMap]
  · exact congrArg (Text.join [' ']) (distinctClasses_stages first second).symm
  · have again : distinctClasses [combineClasses first] = distinctClasses first := by
      rw [distinctClasses, List.flatMap_singleton, words_combineClasses]
      exact firstOccurrences_of_nodup (nodup_firstOccurrences _)
    exact congrArg (Text.join [' ']) again

end ClassUsage

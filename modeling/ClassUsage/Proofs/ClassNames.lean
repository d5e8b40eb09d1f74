import ClassUsage.Document.Report
import ClassUsage.Proofs.Trimming

set_option autoImplicit false

/-!
Lists of class names as words. Names put together with blanks between them are read back as they
were, and of names that repeat each stands where it was seen first.
-/
namespace ClassUsage

namespace Text

structure IsWord (text : Text) : Prop where
  filled : text ≠ []
  solid : ∀ c ∈ text, isBlank c = false

theorem split_append_cons {separates : Char → Bool} {c : Char} (separator : separates c = true)
    (first second : Text) :
    split separates (first ++ c :: second) = split separates first ++ split separates second := by
  induction first with
  | nil => simp only [List.nil_append, split, separator, ↓reduceIte, List.cons_append]
  | cons d rest ih =>
    simp only [List.cons_append, split]
    split
    · rw [ih, List.cons_append]
    · rw [ih, consHead_append d (split_ne_nil separates rest)]

theorem solid_of_mem_split {separates : Char → Bool} {text piece : Text}
    (member : piece ∈ split separates text) : ∀ c ∈ piece, separates c = false := by
  induction text generalizing piece with
  | nil =>
    obtain rfl := List.mem_singleton.mp member
    intro c inside
    cases inside
  | cons d rest ih =>
    simp only [split] at member
    split at member
    · rcases List.mem_cons.mp member with rfl | later
      · intro c inside
        cases inside
      · exact ih later
    · rename_i ordinary
      obtain ⟨first, others, pieces⟩ := List.exists_cons_of_ne_nil (split_ne_nil separates rest)
      rw [pieces] at ih member
      rcases List.mem_cons.mp member with rfl | later
      · intro c inside
        rcases List.mem_cons.mp inside with rfl | inFirst
        · simpa using ordinary
        · exact ih List.mem_cons_self c inFirst
      · exact ih (List.mem_cons_of_mem first later)

theorem isWord_of_mem_words {text word : Text} (member : word ∈ text.words) : IsWord word := by
  obtain ⟨inSplit, filled⟩ := List.mem_filter.mp member
  exact ⟨by simpa using filled, solid_of_mem_split inSplit⟩

theorem words_append_cons {c : Char} (blank : isBlank c = true) (first second : Text) :
    words (first ++ c :: second) = words first ++ words second := by
  unfold words
  rw [split_append_cons blank, List.filter_append]

theorem split_eq_singleton {separates : Char → Bool} {text : Text}
    (solid : ∀ c ∈ text, separates c = false) : split separates text = [text] := by
  induction text with
  | nil => rfl
  | cons c rest ih =>
    have later := ih fun d inside => solid d (List.mem_cons_of_mem c inside)
    simp only [split, solid c List.mem_cons_self, Bool.false_eq_true, ↓reduceIte, later, consHead]

theorem IsWord.words_eq {word : Text} (is : IsWord word) : word.words = [word] := by
  unfold words
  rw [split_eq_singleton is.solid]
  simpa using is.filled

theorem words_join {names : List Text} (are : ∀ name ∈ names, IsWord name) :
    (join [' '] names).words = names := by
  induction names with
  | nil => rfl
  | cons name others ih =>
    have first := (are name List.mem_cons_self).words_eq
    have later := ih fun other member => are other (List.mem_cons_of_mem name member)
    cases others with
    | nil => simpa only [join, List.intersperse, List.flatten_cons, List.flatten_nil,
        List.append_nil] using first
    | cons second rest =>
      have apart : join [' '] (name :: second :: rest) = name ++ ' ' :: join [' '] (second :: rest) := by
        simp only [join, List.intersperse, List.flatten_cons, List.cons_append, List.nil_append]
      rw [apart, words_append_cons (by decide), first, later, List.singleton_append]

end Text

@[simp] theorem mem_firstOccurrences {name : Text} {names : List Text} :
    name ∈ firstOccurrences names ↔ name ∈ names := by
  induction names with
  | nil => simp [firstOccurrences]
  | cons first others ih =>
    by_cases same : name = first
    · simp [firstOccurrences, same]
    · simp [firstOccurrences, same, ih]

theorem nodup_firstOccurrences (names : List Text) : (firstOccurrences names).Nodup := by
  induction names with
  | nil => exact List.Pairwise.nil
  | cons first others ih =>
    refine List.Pairwise.cons ?_ (ih.filter _)
    intro name member same
    simpa [same] using (List.mem_filter.mp member).2

theorem firstOccurrences_append_singleton (names : List Text) (name : Text) :
    firstOccurrences (names ++ [name]) =
      if name ∈ names then firstOccurrences names else firstOccurrences names ++ [name] := by
  induction names with
  | nil => simp [firstOccurrences]
  | cons first others ih =>
    rw [List.cons_append, firstOccurrences, ih, firstOccurrences]
    by_cases listed : name ∈ others
    · simp [listed]
    · by_cases same : name = first
      · subst same
        simp [listed, List.filter_append]
      · simp [listed, same, List.filter_append]

/-- Class lists put together are read back as the names in them, each once. -/
theorem words_combineClasses (classLists : List Text) :
    (combineClasses classLists).words = distinctClasses classLists := by
  apply Text.words_join
  intro name member
  obtain ⟨classes, -, listed⟩ := List.mem_flatMap.mp (mem_firstOccurrences.mp member)
  exact Text.isWord_of_mem_words listed

end ClassUsage

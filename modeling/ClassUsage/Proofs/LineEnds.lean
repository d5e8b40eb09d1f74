import ClassUsage.Proofs.AttributeReading
import ClassUsage.Proofs.ClassNames
import ClassUsage.Proofs.CleanScan
import ClassUsage.Text.Lines

set_option autoImplicit false

/-!
Texts with line feeds for all line ends. Line ends are blanks, and nothing else sets one of them apart
from another; whatever is read of a text is read of the text with line feeds at the same place.
-/
namespace ClassUsage

namespace Text

theorem not_mem_withLineFeeds (text : Text) : '\r' ∉ text.withLineFeeds := by
  fun_induction withLineFeeds text with
  | case1 => exact List.not_mem_nil
  | case2 rest ih =>
    intro member
    rcases List.mem_cons.mp member with same | later
    · exact absurd same (by decide)
    · exact ih later
  | case3 c rest notPair ih =>
    intro member
    rcases List.mem_cons.mp member with same | later
    · split at same
      · exact absurd same (by decide)
      · rename_i notReturn
        exact notReturn same.symm
    · exact ih later

theorem withLineFeeds_of_not_mem {text : Text} (absent : '\r' ∉ text) : text.withLineFeeds = text := by
  fun_induction withLineFeeds text with
  | case1 => rfl
  | case2 rest ih => exact absurd List.mem_cons_self absent
  | case3 c rest notPair ih =>
    have notReturn : c ≠ '\r' := fun same => absent (same ▸ List.mem_cons_self)
    rw [if_neg notReturn, ih fun member => absent (List.mem_cons_of_mem c member)]

/-- Only carriage returns are lost. -/
theorem withLineFeeds_eq_self_iff {text : Text} : text.withLineFeeds = text ↔ '\r' ∉ text := by
  refine ⟨fun same => ?_, withLineFeeds_of_not_mem⟩
  rw [← same]
  exact not_mem_withLineFeeds text

/-- A character with a line feed for a carriage return. -/
def lineFeed (c : Char) : Char := if c = '\r' then '\n' else c

/-- The text with line feeds as it goes on behind a carriage return, or behind anything else. A line
feed right behind a carriage return has been taken with it. -/
def lineFeedsAfter : (returned : Bool) → Text → Text
  | _, [] => []
  | returned, c :: rest =>
    if returned = true ∧ c = '\n' then lineFeedsAfter false rest
    else lineFeed c :: lineFeedsAfter (c == '\r') rest

theorem lineFeedsAfter_passed (rest : Text) :
    lineFeedsAfter true ('\n' :: rest) = lineFeedsAfter false rest := rfl

theorem lineFeedsAfter_kept {returned : Bool} {c : Char} (kept : ¬ (returned = true ∧ c = '\n'))
    (rest : Text) :
    lineFeedsAfter returned (c :: rest) = lineFeed c :: lineFeedsAfter (c == '\r') rest := by
  rw [lineFeedsAfter, if_neg kept]

/-- Only a line feed at the start is read in another way behind a carriage return. -/
theorem lineFeedsAfter_of_head {text : Text} (head : text.head? ≠ some '\n') (returned : Bool) :
    lineFeedsAfter returned text = lineFeedsAfter false text := by
  cases text with
  | nil => rfl
  | cons c rest =>
    have notFeed : c ≠ '\n' := fun same => head (congrArg some same)
    rw [lineFeedsAfter_kept fun both => notFeed both.2,
      lineFeedsAfter_kept fun both => notFeed both.2]

theorem lineFeedsAfter_false (text : Text) : lineFeedsAfter false text = text.withLineFeeds := by
  fun_induction withLineFeeds text with
  | case1 => rfl
  | case2 rest ih =>
    rw [← ih]
    rfl
  | case3 c rest notPair ih =>
    have sameRest : lineFeedsAfter (c == '\r') rest = lineFeedsAfter false rest := by
      by_cases isReturn : c = '\r'
      · apply lineFeedsAfter_of_head
        intro head
        obtain ⟨others, rfl⟩ := List.head?_eq_some_iff.mp head
        exact notPair others isReturn rfl
      · rw [beq_eq_false_iff_ne.mpr isReturn]
    rw [lineFeedsAfter_kept (by simp), sameRest, ih]
    rfl

theorem lineFeedsAfter_append (returned : Bool) (first second : Text) :
    lineFeedsAfter returned (first ++ second) = lineFeedsAfter returned first ++
      lineFeedsAfter ((first.getLast?.map (· == '\r')).getD returned) second := by
  induction first generalizing returned with
  | nil => rfl
  | cons c rest ih =>
    have last : ((c :: rest).getLast?.map (· == '\r')).getD returned =
        (rest.getLast?.map (· == '\r')).getD (c == '\r') := by
      cases rest with
      | nil => rfl
      | cons d rest =>
        rw [List.getLast?_cons_cons, List.getLast?_eq_some_getLast (List.cons_ne_nil d rest)]
        rfl
    rw [last, List.cons_append]
    by_cases passed : returned = true ∧ c = '\n'
    · obtain ⟨rfl, rfl⟩ := passed
      rw [lineFeedsAfter_passed, lineFeedsAfter_passed, ih]
      rfl
    · rw [lineFeedsAfter_kept passed, lineFeedsAfter_kept passed, ih, List.cons_append]

/-- Texts can be put together before or after, unless that makes one line end of two. -/
theorem withLineFeeds_append {first second : Text}
    (apart : first.getLast? ≠ some '\r' ∨ second.head? ≠ some '\n') :
    (first ++ second).withLineFeeds = first.withLineFeeds ++ second.withLineFeeds := by
  rw [← lineFeedsAfter_false, lineFeedsAfter_append, lineFeedsAfter_false,
    ← lineFeedsAfter_false second]
  congr 1
  rcases apart with noReturn | noFeed
  · cases last : first.getLast? with
    | none => rfl
    | some c =>
      have notReturn : (c == '\r') = false := beq_eq_false_iff_ne.mpr fun same =>
        noReturn (by rw [last, same])
      rw [Option.map_some, Option.getD_some, notReturn]
  · exact lineFeedsAfter_of_head noFeed _

/-- One line end of two. -/
theorem withLineFeeds_pair {rest : Text} (follows : rest.head? = some '\n') :
    withLineFeeds ('\r' :: rest) = rest.withLineFeeds := by
  obtain ⟨others, rfl⟩ := List.head?_eq_some_iff.mp follows
  rfl

theorem withLineFeeds_cons_apart {c : Char} {rest : Text}
    (apart : ¬ (c = '\r' ∧ rest.head? = some '\n')) :
    withLineFeeds (c :: rest) = lineFeed c :: rest.withLineFeeds := by
  have separate : [c].getLast? ≠ some '\r' ∨ rest.head? ≠ some '\n' := by
    by_cases isReturn : c = '\r'
    · exact Or.inr fun follows => apart ⟨isReturn, follows⟩
    · exact Or.inl fun last => isReturn (Option.some_inj.mp last)
  have first : withLineFeeds [c] = [lineFeed c] := by
    rw [← lineFeedsAfter_false, lineFeedsAfter_kept (by simp)]
    rfl
  rw [← List.singleton_append, withLineFeeds_append separate, first, List.singleton_append]

theorem isBlank_lineFeed (c : Char) : isBlank (lineFeed c) = isBlank c := by
  unfold lineFeed
  split
  · rename_i isReturn
    rw [isReturn]
    decide
  · rfl

theorem lineFeed_of_solid {c : Char} (solid : isBlank c = false) : lineFeed c = c := by
  apply if_neg
  rintro rfl
  exact absurd solid (by decide)

theorem lineFeed_eq_iff {c d : Char} (solid : isBlank d = false) : lineFeed c = d ↔ c = d := by
  constructor
  · rintro rfl
    rw [isBlank_lineFeed] at solid
    exact (lineFeed_of_solid solid).symm
  · rintro rfl
    exact lineFeed_of_solid solid

theorem map_lineFeed_eq_some_iff {found : Option Char} {d : Char} (solid : isBlank d = false) :
    found.map lineFeed = some d ↔ found = some d := by
  cases found with
  | none => simp
  | some c => rw [Option.map_some, Option.some_inj, Option.some_inj, lineFeed_eq_iff solid]

theorem not_passed_of_solid {returned : Bool} {c : Char} (solid : isBlank c = false) :
    ¬ (returned = true ∧ c = '\n') := by
  rintro ⟨-, rfl⟩
  exact absurd solid (by decide)

theorem beq_of_blank {c d : Char} (blank : isBlank c = true) (solid : isBlank d = false) :
    (c == d) = false := by
  apply beq_eq_false_iff_ne.mpr
  rintro rfl
  rw [solid] at blank
  cases blank

theorem beq_return_of_solid {c : Char} (solid : isBlank c = false) : (c == '\r') = false := by
  rw [BEq.comm]
  exact beq_of_blank (by decide) solid

theorem lineFeedsAfter_solid {c : Char} (solid : isBlank c = false) (returned : Bool) (rest : Text) :
    lineFeedsAfter returned (c :: rest) = c :: rest.withLineFeeds := by
  rw [lineFeedsAfter_kept (not_passed_of_solid solid), lineFeed_of_solid solid,
    beq_return_of_solid solid, lineFeedsAfter_false]

@[simp] theorem withLineFeeds_nil : withLineFeeds [] = [] := rfl

theorem withLineFeeds_cons {c : Char} (solid : isBlank c = false) (rest : Text) :
    withLineFeeds (c :: rest) = c :: rest.withLineFeeds := by
  rw [← lineFeedsAfter_false, lineFeedsAfter_solid solid]

theorem withLineFeeds_concat {c : Char} (solid : isBlank c = false) (text : Text) :
    withLineFeeds (text ++ [c]) = text.withLineFeeds ++ [c] := by
  have notFeed : [c].head? ≠ some '\n' := by
    rintro same
    cases same
    exact absurd solid (by decide)
  rw [withLineFeeds_append (Or.inr notFeed), withLineFeeds_cons solid, withLineFeeds_nil]

theorem exists_withLineFeeds_cons (c : Char) (rest : Text) :
    ∃ others, withLineFeeds (c :: rest) = lineFeed c :: others :=
  ⟨_, by rw [← lineFeedsAfter_false, lineFeedsAfter_kept (by simp)]⟩

theorem head?_withLineFeeds (text : Text) : text.withLineFeeds.head? = text.head?.map lineFeed := by
  cases text with
  | nil => rfl
  | cons c rest =>
    obtain ⟨others, first⟩ := exists_withLineFeeds_cons c rest
    rw [first]
    rfl

theorem head?_withLineFeeds_eq_some_iff {c : Char} (solid : isBlank c = false) (text : Text) :
    text.withLineFeeds.head? = some c ↔ text.head? = some c := by
  rw [head?_withLineFeeds, map_lineFeed_eq_some_iff solid]

theorem withLineFeeds_eq_nil_iff {text : Text} : text.withLineFeeds = [] ↔ text = [] := by
  rw [← List.head?_eq_none_iff, head?_withLineFeeds, Option.map_eq_none_iff, List.head?_eq_none_iff]

theorem isEmpty_withLineFeeds (text : Text) : text.withLineFeeds.isEmpty = text.isEmpty := by
  rw [Bool.eq_iff_iff, List.isEmpty_iff, List.isEmpty_iff, withLineFeeds_eq_nil_iff]

theorem getLast?_lineFeedsAfter {returned : Bool} {previous : Option Char}
    (follows : returned = true → previous = some '\n') (text : Text) :
    (lineFeedsAfter returned text).getLast?.or previous =
      (text.getLast?.map lineFeed).or previous := by
  induction text generalizing returned previous with
  | nil => rfl
  | cons c rest ih =>
    have last : ((c :: rest).getLast?.map lineFeed).or previous =
        (rest.getLast?.map lineFeed).or (some (lineFeed c)) := by
      cases rest with
      | nil => rfl
      | cons d rest =>
        rw [List.getLast?_cons_cons, List.getLast?_eq_some_getLast (List.cons_ne_nil d rest)]
        rfl
    rw [last]
    by_cases passed : returned = true ∧ c = '\n'
    · obtain ⟨rfl, rfl⟩ := passed
      rw [lineFeedsAfter_passed, follows rfl]
      exact ih (by simp)
    · rw [lineFeedsAfter_kept passed, Scan.getLast?_or_cons]
      apply ih
      intro isReturn
      rw [beq_iff_eq.mp isReturn]
      rfl

theorem getLast?_withLineFeeds (text : Text) :
    text.withLineFeeds.getLast? = text.getLast?.map lineFeed := by
  have last := getLast?_lineFeedsAfter (by simp : false = true → none = some '\n') text
  rwa [Option.or_none, Option.or_none, lineFeedsAfter_false] at last

theorem getLast?_withLineFeeds_eq_some_iff {c : Char} (solid : isBlank c = false) (text : Text) :
    text.withLineFeeds.getLast? = some c ↔ text.getLast? = some c := by
  rw [getLast?_withLineFeeds, map_lineFeed_eq_some_iff solid]

theorem IsBlanks.lineFeedsAfter {text : Text} (blanks : IsBlanks text) (returned : Bool) :
    IsBlanks (lineFeedsAfter returned text) := by
  induction text generalizing returned with
  | nil => exact isBlanks_nil
  | cons c rest ih =>
    obtain ⟨blank, others⟩ := (isBlanks_cons c rest).mp blanks
    by_cases passed : returned = true ∧ c = '\n'
    · obtain ⟨rfl, rfl⟩ := passed
      exact ih others false
    · rw [lineFeedsAfter_kept passed]
      exact (isBlanks_cons _ _).mpr ⟨(isBlank_lineFeed c).trans blank, ih others _⟩

theorem trimStart_lineFeedsAfter (returned : Bool) (text : Text) :
    trimStart (lineFeedsAfter returned text) = (trimStart text).withLineFeeds := by
  induction text generalizing returned with
  | nil => rfl
  | cons c rest ih =>
    cases blank : isBlank c with
    | false =>
      rw [lineFeedsAfter_solid blank, trimStart_of_head (startsSolid_cons blank _),
        trimStart_of_head (startsSolid_cons blank _), withLineFeeds_cons blank]
    | true =>
      have skips : trimStart (c :: rest) = trimStart rest := List.dropWhile_cons_of_pos blank
      rw [skips]
      by_cases passed : returned = true ∧ c = '\n'
      · obtain ⟨rfl, rfl⟩ := passed
        exact ih false
      · have blankStill := (isBlank_lineFeed c).trans blank
        rw [lineFeedsAfter_kept passed, ← ih (c == '\r')]
        exact List.dropWhile_cons_of_pos blankStill

theorem trimStart_withLineFeeds (text : Text) :
    trimStart text.withLineFeeds = (trimStart text).withLineFeeds := by
  rw [← lineFeedsAfter_false, trimStart_lineFeedsAfter]

theorem trim_withLineFeeds (text : Text) : text.withLineFeeds.trim = text.trim.withLineFeeds := by
  obtain ⟨blanks, are, parts⟩ := exists_trimEnd (trimStart text)
  have apart : (trimEnd (trimStart text)).getLast? ≠ some '\r' := by
    intro last
    exact absurd (last_trimEnd (trimStart text) '\r' last) (by decide)
  have solid : ∀ c ∈ (trimEnd (trimStart text)).withLineFeeds.getLast?, isBlank c = false := by
    intro c last
    rw [getLast?_withLineFeeds] at last
    obtain ⟨d, atEnd, rfl⟩ := Option.map_eq_some_iff.mp last
    rw [isBlank_lineFeed]
    exact last_trimEnd (trimStart text) d atEnd
  have stillBlank : IsBlanks blanks.withLineFeeds := by
    rw [← lineFeedsAfter_false]
    exact are.lineFeedsAfter false
  calc text.withLineFeeds.trim
      = trimEnd (trimStart text).withLineFeeds := by rw [trim, trimStart_withLineFeeds]
    _ = trimEnd ((trimEnd (trimStart text)).withLineFeeds ++ blanks.withLineFeeds) := by
      rw [← withLineFeeds_append (Or.inl apart), ← parts]
    _ = (trimEnd (trimStart text)).withLineFeeds := by
      rw [trimEnd_append_of_isBlanks stillBlank, trimEnd_of_last solid]
    _ = text.trim.withLineFeeds := rfl

theorem withLineFeeds_append_solid {front : Text} (solid : ∀ c ∈ front, isBlank c = false)
    (rest : Text) : (front ++ rest).withLineFeeds = front ++ rest.withLineFeeds := by
  induction front with
  | nil => rfl
  | cons c front ih =>
    obtain ⟨first, others⟩ := List.forall_mem_cons.mp solid
    rw [List.cons_append, withLineFeeds_cons first, ih others, List.cons_append]

theorem lineFeed_mem_withLineFeeds {text : Text} (returned : '\r' ∈ text) :
    '\n' ∈ text.withLineFeeds := by
  fun_induction withLineFeeds text with
  | case1 => exact absurd returned List.not_mem_nil
  | case2 rest ih => exact List.mem_cons_self
  | case3 c rest notPair ih =>
    rcases List.mem_cons.mp returned with rfl | later
    · exact List.mem_cons_self
    · exact List.mem_cons_of_mem _ (ih later)

theorem withLineFeeds_eq_self_of_solid {text : Text}
    (solid : ∀ c ∈ text.withLineFeeds, isBlank c = false) : text.withLineFeeds = text := by
  apply withLineFeeds_of_not_mem
  intro returned
  exact absurd (solid '\n' (lineFeed_mem_withLineFeeds returned)) (by decide)

theorem withLineFeeds_of_solid {text : Text} (solid : ∀ c ∈ text, isBlank c = false) :
    text.withLineFeeds = text := by
  apply withLineFeeds_of_not_mem
  intro returned
  exact absurd (solid '\r' returned) (by decide)

/-- Without blanks there are no line ends. -/
theorem withLineFeeds_eq_iff {text target : Text} (solid : ∀ c ∈ target, isBlank c = false) :
    text.withLineFeeds = target ↔ text = target := by
  constructor
  · rintro rfl
    exact (withLineFeeds_eq_self_of_solid solid).symm
  · rintro rfl
    exact withLineFeeds_of_solid solid

theorem after?_withLineFeeds {start : Text} (solid : ∀ c ∈ start, isBlank c = false) (text : Text) :
    text.withLineFeeds.after? start = (text.after? start).map withLineFeeds := by
  induction start generalizing text with
  | nil => exact after?_append [] text.withLineFeeds ▸ after?_append [] text ▸ rfl
  | cons d start ih =>
    obtain ⟨first, others⟩ := List.forall_mem_cons.mp solid
    rw [← lineFeedsAfter_false]
    cases text with
    | nil => rfl
    | cons c rest =>
      by_cases same : c = d
      · subst same
        rw [lineFeedsAfter_solid first]
        simpa only [after?, ↓reduceIte] using ih others rest
      · have differs : lineFeed c ≠ d := fun equal => same ((lineFeed_eq_iff first).mp equal)
        rw [lineFeedsAfter_kept (by simp)]
        simp only [after?, differs, same, ↓reduceIte, Option.map_none]

theorem isPrefixOf_eq_isSome (token text : Text) :
    token.isPrefixOf text = (text.after? token).isSome := by
  fun_induction after? text token with
  | case1 text => rfl
  | case2 d start => rfl
  | case3 text d start ih => rw [List.isPrefixOf, beq_self_eq_true, Bool.true_and, ih]
  | case4 c text d start differs =>
    rw [List.isPrefixOf, beq_eq_false_iff_ne.mpr (Ne.symm differs)]
    rfl

theorem isPrefixOf_withLineFeeds {token : Text} (solid : ∀ c ∈ token, isBlank c = false) (text : Text) :
    token.isPrefixOf text.withLineFeeds = token.isPrefixOf text := by
  rw [isPrefixOf_eq_isSome, isPrefixOf_eq_isSome, after?_withLineFeeds solid, Option.isSome_map]

/-- What comes first is the same character, unless it is blank. -/
theorem withLineFeeds_cons_ne {c d : Char} (solid : isBlank d = false) (differs : c ≠ d) (rest : Text) :
    ∃ e others, withLineFeeds (c :: rest) = e :: others ∧ e ≠ d := by
  obtain ⟨others, first⟩ := exists_withLineFeeds_cons c rest
  exact ⟨_, others, first, fun same => differs ((lineFeed_eq_iff solid).mp same)⟩

theorem afterEquals?_withLineFeeds (text : Text) :
    text.withLineFeeds.afterEquals? = text.afterEquals?.map withLineFeeds := by
  unfold afterEquals?
  rw [trimStart_withLineFeeds]
  cases trimStart text with
  | nil => rfl
  | cons c rest =>
    by_cases isEquals : c = '='
    · subst isEquals
      rw [withLineFeeds_cons (by decide)]
      exact congrArg some (trimStart_withLineFeeds rest)
    · obtain ⟨e, others, first, differs⟩ := withLineFeeds_cons_ne (by decide) isEquals rest
      rw [first]
      simp [differs, isEquals]

theorem afterBlanksAnd?_withLineFeeds {c : Char} (solid : isBlank c = false) (text : Text) :
    text.withLineFeeds.afterBlanksAnd? c = (text.afterBlanksAnd? c).map withLineFeeds := by
  unfold afterBlanksAnd?
  rw [trimStart_withLineFeeds]
  cases trimStart text with
  | nil => rfl
  | cons d rest =>
    by_cases same : d = c
    · subst same
      rw [withLineFeeds_cons solid]
      simp
    · obtain ⟨e, others, first, differs⟩ := withLineFeeds_cons_ne solid same rest
      rw [first]
      simp [differs, same]

theorem afterMark?_withLineFeeds (text : Text) :
    text.withLineFeeds.afterMark? =
      text.afterMark?.map fun found => (found.1, found.2.withLineFeeds) := by
  cases text with
  | nil => rfl
  | cons c rest =>
    by_cases isMark : c = '\x22' ∨ c = '\x27'
    · have solid : isBlank c = false := by
        rcases isMark with rfl | rfl <;> decide
      rw [withLineFeeds_cons solid]
      simp only [afterMark?, isMark, ↓reduceIte, Option.map_some]
    · have notMark : ¬ (lineFeed c = '\x22' ∨ lineFeed c = '\x27') := by
        rwa [lineFeed_eq_iff (by decide), lineFeed_eq_iff (by decide)]
      rw [← lineFeedsAfter_false, lineFeedsAfter_kept (by simp)]
      simp only [afterMark?, isMark, notMark, ↓reduceIte, Option.map_none]

theorem className?_withLineFeeds (text : Text) :
    text.withLineFeeds.className? =
      text.className?.map fun found => (found.1, found.2.withLineFeeds) := by
  have long : ∀ c ∈ "className".toList, isBlank c = false := forall_mem_of_all (by decide)
  have short : ∀ c ∈ "class".toList, isBlank c = false := forall_mem_of_all (by decide)
  unfold className?
  rw [after?_withLineFeeds long, after?_withLineFeeds short]
  cases text.after? "className".toList with
  | some rest => rfl
  | none => simp only [Option.map_none, Option.map_map, Function.comp_def]

/-- What does not tell carriage returns from line feeds. -/
theorem apply_lineFeed {α : Type} (read : Char → α) (same : read '\r' = read '\n') (c : Char) :
    read (lineFeed c) = read c := by
  unfold lineFeed
  split
  · rename_i isReturn
    rw [isReturn, same]
  · rfl

section

variable {holds : Char → Bool} (same : holds '\r' = holds '\n')

include same

theorem takeWhile_lineFeedsAfter {returned : Bool} (follows : returned = true → holds '\n' = true)
    (text : Text) : (lineFeedsAfter returned text).takeWhile holds =
      lineFeedsAfter returned (text.takeWhile holds) := by
  induction text generalizing returned with
  | nil => rfl
  | cons c rest ih =>
    by_cases passed : returned = true ∧ c = '\n'
    · obtain ⟨rfl, rfl⟩ := passed
      rw [List.takeWhile_cons_of_pos (follows rfl), lineFeedsAfter_passed, lineFeedsAfter_passed]
      exact ih (by simp)
    · rw [lineFeedsAfter_kept passed, List.takeWhile_cons, List.takeWhile_cons,
        apply_lineFeed holds same]
      split
      · rename_i goesOn
        rw [lineFeedsAfter_kept passed, ih]
        intro isReturn
        rw [← same, ← beq_iff_eq.mp isReturn, goesOn]
      · rfl

theorem dropWhile_lineFeedsAfter {returned : Bool} (follows : returned = true → holds '\n' = true)
    (text : Text) : (lineFeedsAfter returned text).dropWhile holds =
      withLineFeeds (text.dropWhile holds) := by
  induction text generalizing returned with
  | nil => rfl
  | cons c rest ih =>
    by_cases passed : returned = true ∧ c = '\n'
    · obtain ⟨rfl, rfl⟩ := passed
      rw [List.dropWhile_cons_of_pos (follows rfl), lineFeedsAfter_passed]
      exact ih (by simp)
    · rw [lineFeedsAfter_kept passed, List.dropWhile_cons, List.dropWhile_cons,
        apply_lineFeed holds same]
      split
      · rename_i goesOn
        apply ih
        intro isReturn
        rw [← same, ← beq_iff_eq.mp isReturn, goesOn]
      · rw [← lineFeedsAfter_false, lineFeedsAfter_kept (by simp)]

end

/-- No line end is part of a word, and words that stand apart stay apart. -/
theorem words_append_lineFeedsAfter {returned : Bool} {front : Text}
    (follows : returned = true → front = []) (text : Text) :
    words (front ++ lineFeedsAfter returned text) = words (front ++ text) := by
  induction text generalizing returned front with
  | nil => rfl
  | cons c rest ih =>
    by_cases passed : returned = true ∧ c = '\n'
    · obtain ⟨rfl, rfl⟩ := passed
      rw [follows rfl, lineFeedsAfter_passed, words_append_cons (by decide) [] rest]
      exact ih (by simp)
    · rw [lineFeedsAfter_kept passed]
      cases blank : isBlank c with
      | true =>
        have later : words ([] ++ lineFeedsAfter (c == '\r') rest) = words ([] ++ rest) :=
          ih fun _ => rfl
        rw [List.nil_append, List.nil_append] at later
        rw [words_append_cons ((isBlank_lineFeed c).trans blank), words_append_cons blank, later]
      | false =>
        have later : words (front ++ [c] ++ lineFeedsAfter (c == '\r') rest) =
            words (front ++ [c] ++ rest) := by
          rw [beq_return_of_solid blank]
          exact ih (by simp)
        rw [List.append_assoc, List.append_assoc] at later
        rw [lineFeed_of_solid blank]
        exact later

theorem words_withLineFeeds (text : Text) : text.withLineFeeds.words = text.words := by
  rw [← lineFeedsAfter_false]
  exact words_append_lineFeedsAfter (fun _ => rfl) text

end Text

end ClassUsage

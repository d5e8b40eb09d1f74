import ClassUsage.Expression.Object
import ClassUsage.Expression.Template
import ClassUsage.Proofs.Placement
import Mathlib.Data.List.Basic

set_option autoImplicit false

/-!
Where the class lists of literals come from: the body of a string literal, the keys of an object
literal and the static text of a template literal all stand in the literal as they are reported.
-/
namespace ClassUsage

theorem eq_of_enclosedBody {text body : Text} {mark : Char}
    (found : enclosedBody text = some (mark, body)) : text = [mark] ++ body ++ [mark] := by
  unfold enclosedBody at found
  split at found
  · rename_i first rest
    split at found
    · rename_i encloses
      simp only [Bool.and_eq_true, beq_iff_eq] at encloses
      simp only [Option.some.injEq, Prod.mk.injEq] at found
      obtain ⟨rfl, rfl⟩ := found
      have last := List.dropLast_append_getLast? first encloses.2
      simp only [List.cons_append, List.nil_append, last]
    · cases found
  · cases found

theorem literalBody_eq_some {text classes : Text} (found : literalBody text = some classes) :
    ∃ (mark : Char) (body : Text),
      text.trim = [mark] ++ body ++ [mark] ∧ classes = body.trim ∧ body.trim ≠ [] := by
  unfold literalBody at found
  split at found
  · cases found
  · rename_i mark body enclosed
    split at found
    · cases found
    · split at found
      · cases found
      · rename_i filled
        simp only [Option.some.injEq] at found
        exact ⟨mark, body, eq_of_enclosedBody enclosed, found.symm, by simpa using filled⟩

theorem drawn_literalBody {text classes : Text} (found : literalBody text = some classes)
    (condition : Option Text) : Drawn [⟨classes, condition⟩] text := by
  obtain ⟨mark, body, enclosed, rfl, filled⟩ := literalBody_eq_some found
  apply Drawn.of_trim
  rw [enclosed]
  have inner : Drawn [⟨body.trim, condition⟩] body :=
    (Drawn.whole (Text.isTidy_trim filled) condition).of_trim
  exact inner.within [mark] [mark]

theorem unwrap_inOrder {opening closing : Bracket} {text inner : Text}
    (found : unwrap opening closing text = some inner) : Text.InOrder [inner] text := by
  apply Text.InOrder.of_trim
  rw [trim_eq_of_unwrap found]
  exact Text.inOrder_singleton [opening.opener] inner [closing.closer]

theorem stripParens_inOrder (text : Text) : Text.InOrder [stripParens text] text := by
  induction text using stripParens.induct with
  | case1 text inner found ih =>
    rw [stripParens_of_enclosed found]
    obtain ⟨before, after, decomposed, -⟩ := unwrap_inOrder found
    rw [decomposed]
    exact ih.within before after
  | case2 text missing =>
    rw [stripParens_of_unwrap missing]
    apply Text.InOrder.of_trim
    simpa using Text.inOrder_singleton [] text.trim []

theorem segments_inOrder (separates : Char → Bool) (scan : Scan) (text : Text) :
    ∃ first others after, scan.segments separates text = first :: others ∧
      text = first ++ after ∧ Text.InOrder others after := by
  induction text generalizing scan with
  | nil => exact ⟨[], [], [], rfl, rfl, trivial⟩
  | cons c rest ih =>
    obtain ⟨first, others, after, segments, decomposed, placed⟩ := ih (scan.step c)
    simp only [Scan.segments]
    split
    · refine ⟨[], _, c :: rest, rfl, rfl, ?_⟩
      rw [segments]
      exact ⟨[c], after, by rw [decomposed]; rfl, placed⟩
    · rw [segments]
      exact ⟨c :: first, others, after, rfl, by rw [decomposed]; rfl, placed⟩

theorem splitTopLevel_inOrder (separates : Char → Bool) (text : Text) :
    Text.InOrder (splitTopLevel separates text) text := by
  obtain ⟨first, others, after, segments, decomposed, placed⟩ :=
    segments_inOrder separates Scan.fresh text
  have all : Text.InOrder (Scan.fresh.segments separates text) text := by
    rw [segments]
    exact ⟨[], after, decomposed, placed⟩
  apply Text.InOrder.filter
  rw [List.map_eq_flatMap]
  apply all.flatMap
  intro segment _
  apply Text.InOrder.of_trim
  simpa using Text.inOrder_singleton [] segment.trim []

theorem isTidy_of_mem_splitTopLevel {separates : Char → Bool} {text segment : Text}
    (member : segment ∈ splitTopLevel separates text) : segment.IsTidy := by
  simp only [splitTopLevel, List.mem_filter, List.mem_map] at member
  obtain ⟨⟨whole, -, rfl⟩, filled⟩ := member
  exact Text.isTidy_trim (by simpa using filled)

theorem Scan.eq_of_splitKey {scan : Scan} {text key value : Text}
    (found : scan.splitKey text = some (key, value)) : text = key ++ ':' :: value := by
  induction text generalizing scan key with
  | nil => cases found
  | cons c rest ih =>
    simp only [Scan.splitKey] at found
    split at found
    · rename_i colon
      simp only [Bool.and_eq_true, beq_iff_eq] at colon
      simp only [Option.some.injEq, Prod.mk.injEq] at found
      obtain ⟨rfl, rfl⟩ := found
      rw [colon.1]
      rfl
    · obtain ⟨⟨inner, after⟩, later, equal⟩ := Option.map_eq_some_iff.mp found
      simp only [Prod.mk.injEq] at equal
      obtain ⟨rfl, rfl⟩ := equal
      rw [ih later]
      rfl

theorem drawn_keyClasses {key classes : Text} (trimmed : key.trim = key)
    (found : keyClasses key = some classes) (condition : Option Text) :
    Drawn [⟨classes, condition⟩] key := by
  unfold keyClasses at found
  split at found
  · cases found
  · rename_i c rest
    split at found
    · cases found
    · split at found
      · exact drawn_literalBody found condition
      · simp only [Option.some.injEq] at found
        subst found
        exact Drawn.whole ⟨List.cons_ne_nil c rest, trimmed⟩ condition

/-- The condition of a use is the value without brackets, if it has one. -/
theorem exists_of_useOfPair {key value : Text} {use : ClassUse}
    (found : useOfPair key value = some use) :
    ∃ classes, keyClasses key = some classes ∧
      (use = ⟨classes, none⟩ ∨ use = ⟨classes, some (stripParens value)⟩) := by
  unfold useOfPair at found
  split at found
  · cases found
  · split at found
    · cases found
    · rename_i classes read
      split at found
      · cases found
        exact ⟨classes, read, .inl rfl⟩
      · split at found
        · cases found
        · cases found
          exact ⟨classes, read, .inr rfl⟩

/-- An entry is its own class and condition, or it is read off its key and its value. -/
theorem cases_of_useOfEntry {entry : Text} {use : ClassUse} (found : useOfEntry entry = some use) :
    use = ⟨entry, some entry⟩ ∨
      ∃ key value, splitKey entry = some (key, value) ∧ useOfPair key.trim value.trim = some use := by
  unfold useOfEntry at found
  split at found
  · cases found
  · split at found
    · split at found
      · cases found
        exact .inl rfl
      · cases found
    · rename_i key value split
      exact .inr ⟨key, value, split, found⟩

theorem drawn_useOfPair {key value : Text} {use : ClassUse} (trimmed : key.trim = key)
    (found : useOfPair key value = some use) : Drawn [use] key := by
  obtain ⟨classes, read, rfl | rfl⟩ := exists_of_useOfPair found
  · exact drawn_keyClasses trimmed read none
  · exact drawn_keyClasses trimmed read (some (stripParens value))

theorem drawn_useOfEntry {entry : Text} {use : ClassUse} (tidy : entry.IsTidy)
    (found : useOfEntry entry = some use) : Drawn [use] entry := by
  rcases cases_of_useOfEntry found with rfl | ⟨key, value, split, read⟩
  · exact Drawn.whole tidy (some entry)
  · rw [Scan.eq_of_splitKey split]
    have inKey := (drawn_useOfPair (Text.trim_trim key) read).of_trim
    exact inKey.within [] (':' :: value)

theorem drawn_objectUses (text : Text) : Drawn (objectUses text) text := by
  unfold objectUses
  split
  · exact Drawn.nil text
  · rename_i body found
    obtain ⟨before, after, decomposed, -⟩ := unwrap_inOrder found
    rw [decomposed]
    refine Drawn.within ?_ before after
    have placed := splitTopLevel_inOrder (· == ',') body
    rw [← List.map_id (splitTopLevel (· == ',') body)] at placed
    rw [List.filterMap_eq_flatMap_toList]
    apply Drawn.flatMap placed
    intro entry member
    cases read : useOfEntry entry with
    | none => exact Drawn.nil _
    | some use => exact drawn_useOfEntry (isTidy_of_mem_splitTopLevel member) read

end ClassUsage

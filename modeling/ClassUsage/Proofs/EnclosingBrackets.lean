import ClassUsage.Proofs.CleanScan

set_option autoImplicit false

/-!
Brackets around a whole text. Taking a pair off undoes putting it around a text whose own brackets and
string literals are complete, and a text that has lost its enclosing round brackets has none left to
lose.
-/
namespace ClassUsage

theorem Text.trim_surrounded (opening closing : Bracket) (inner : Text) :
    Text.trim (opening.opener :: inner ++ [closing.closer]) =
      opening.opener :: inner ++ [closing.closer] := by
  have front : isBlank opening.opener = false := by cases opening <;> decide
  have back : isBlank closing.closer = false := by cases closing <;> decide
  exact (Text.isTidy_between front back inner).trimmed

theorem trim_enclose (bracket : Bracket) (text : Text) :
    Text.trim (bracket.enclose text) = bracket.enclose text :=
  Text.trim_surrounded bracket bracket text

theorem unwrap_trim (opening closing : Bracket) (text : Text) :
    unwrap opening closing text.trim = unwrap opening closing text := by
  unfold unwrap
  rw [Text.trim_trim]

/-- A text loses a pair of brackets if these are its first and its last character and the last one closes
the first. -/
theorem unwrap_eq_some_iff {opening closing : Bracket} {text inner : Text} :
    unwrap opening closing text = some inner ↔
      text.trim = opening.opener :: inner ++ [closing.closer] ∧
        Scan.opened.ClosesAfter closing inner := by
  constructor
  · intro found
    have trimmed := trim_eq_of_unwrap found
    refine ⟨trimmed, ?_⟩
    simp only [unwrap, trimmed, List.cons_append, ↓reduceIte] at found
    split at found
    · rename_i inside balanced
      cases found
      exact (Scan.balanced_eq_some_iff.mp balanced).1
    · cases found
  · rintro ⟨trimmed, closes⟩
    simp only [unwrap, trimmed, List.cons_append, ↓reduceIte, closes []]

theorem unwrap_eq_none_of_head {opening closing : Bracket} {text : Text}
    (head : text.trim.head? ≠ some opening.opener) : unwrap opening closing text = none := by
  apply Option.eq_none_iff_forall_ne_some.mpr
  intro inner found
  rw [trim_eq_of_unwrap found] at head
  exact head rfl

theorem unwrap_surrounded {inner : Text} (contained : inner.IsSelfContained)
    (opening closing : Bracket) :
    unwrap opening closing (opening.opener :: inner ++ [closing.closer]) = some inner :=
  unwrap_eq_some_iff.mpr ⟨Text.trim_surrounded opening closing inner,
    Scan.closesAfter_of_isSelfContained contained closing⟩

theorem unwrap_enclose (bracket : Bracket) {text : Text} (contained : text.IsSelfContained) :
    unwrap bracket bracket (bracket.enclose text) = some text :=
  unwrap_surrounded contained bracket bracket

theorem Bracket.pair_opener_closer (opening closing : Bracket) :
    Bracket.pair [opening.opener] [closing.closer] = .ok (opening, closing) := by
  cases opening <;> cases closing <;> rfl

/-- Texts that are brackets are never refused. -/
theorem unwrapBetween_opener_closer (opening closing : Bracket) (text : Text) :
    unwrapBetween [opening.opener] [closing.closer] text = .ok (unwrap opening closing text) := by
  unfold unwrapBetween
  dsimp only
  split
  · rw [Bracket.pair_opener_closer]
    rfl
  · rename_i ends
    cases found : unwrap opening closing text with
    | none => rfl
    | some inner =>
      exfalso
      apply ends
      rw [trim_eq_of_unwrap found]
      refine ⟨?_, rfl, ?_⟩
      · simp only [List.length_append, List.length_cons]
        omega
      · rw [List.getLast?_concat]
        rfl

theorem stripParens_trim (text : Text) : stripParens text.trim = stripParens text := by
  cases found : unwrap .round .round text with
  | none =>
    rw [stripParens_of_unwrap found, stripParens_of_unwrap (by rw [unwrap_trim, found]),
      Text.trim_trim]
  | some inner =>
    rw [stripParens_of_enclosed found, stripParens_of_enclosed (by rw [unwrap_trim, found])]

theorem trim_stripParens (text : Text) : (stripParens text).trim = stripParens text := by
  induction text using stripParens.induct with
  | case1 text inner found ih => rw [stripParens_of_enclosed found, ih]
  | case2 text missing => rw [stripParens_of_unwrap missing, Text.trim_trim]

theorem unwrap_stripParens (text : Text) : unwrap .round .round (stripParens text) = none := by
  induction text using stripParens.induct with
  | case1 text inner found ih => rw [stripParens_of_enclosed found, ih]
  | case2 text missing => rw [stripParens_of_unwrap missing, unwrap_trim, missing]

theorem stripParens_stripParens (text : Text) :
    stripParens (stripParens text) = stripParens text := by
  rw [stripParens_of_unwrap (unwrap_stripParens text), trim_stripParens]

/-- Taking brackets off undoes putting them around a text that is complete in itself, and only brackets
are taken off. The round brackets around a text are all taken off at once. -/
theorem unwrap_inverts_surround :
    (∀ (opening closing : Bracket) (inner : Text), inner.IsSelfContained →
      unwrapBetween [opening.opener] [closing.closer]
        (opening.opener :: inner ++ [closing.closer]) = .ok (some inner)) ∧
    (∀ inner : Text, inner.IsSelfContained →
      stripParens (Bracket.round.enclose inner) = stripParens inner) ∧
    (∀ (opening closing : Bracket) (text inner : Text),
      unwrapBetween [opening.opener] [closing.closer] text = .ok (some inner) →
        text.trim = opening.opener :: inner ++ [closing.closer]) ∧
    ∀ text : Text, stripParens (stripParens text) = stripParens text ∧
      (stripParens text).trim = stripParens text ∧
      unwrapBetween ['('] [')'] (stripParens text) = .ok none := by
  refine ⟨?_, ?_, ?_, ?_⟩
  · intro opening closing inner contained
    rw [unwrapBetween_opener_closer, unwrap_surrounded contained]
  · intro inner contained
    exact stripParens_of_enclosed (unwrap_enclose .round contained)
  · intro opening closing text inner found
    rw [unwrapBetween_opener_closer] at found
    exact trim_eq_of_unwrap (Except.ok.inj found)
  · intro text
    have refused : unwrapBetween ['('] [')'] (stripParens text) =
        .ok (unwrap .round .round (stripParens text)) := unwrapBetween_opener_closer .round .round _
    rw [unwrap_stripParens] at refused
    exact ⟨stripParens_stripParens text, trim_stripParens text, refused⟩

theorem unwrap_inverts_surround_mixed :
    Text.IsSelfContained " f[\x27)\x27, (a\x7d] \\".toList ∧
    unwrapBetween ['{'] [')'] "\x7b f[\x27)\x27, (a\x7d] \\)".toList =
      .ok (some " f[\x27)\x27, (a\x7d] \\".toList) ∧
    stripParens "( f[\x27)\x27, (a\x7d] \\)".toList = "f[\x27)\x27, (a\x7d] \\".toList ∧
    Text.trim "\t[ (a) ]".toList = "[ (a) ]".toList := by
  obtain ⟨surrounded, enclosed, taken, -⟩ := unwrap_inverts_surround
  have contained : Text.IsSelfContained " f[\x27)\x27, (a\x7d] \\".toList := ⟨by decide, by decide⟩
  refine ⟨contained, surrounded .curly .round _ contained, ?_, ?_⟩
  · calc
      stripParens "( f[\x27)\x27, (a\x7d] \\)".toList = stripParens " f[\x27)\x27, (a\x7d] \\".toList :=
        enclosed _ contained
      _ = "f[\x27)\x27, (a\x7d] \\".toList := by decide +kernel
  · have accepted : unwrap .square .square "\t[ (a) ]".toList = some " (a) ".toList := by decide
    exact taken .square .square _ " (a) ".toList (by rw [unwrapBetween_opener_closer, accepted])

end ClassUsage

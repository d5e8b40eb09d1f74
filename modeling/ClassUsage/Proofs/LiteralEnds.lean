import ClassUsage.Proofs.ClosingMarks
import Mathlib.Algebra.Order.Group.Nat
import Mathlib.Algebra.Order.Ring.Canonical

set_option autoImplicit false

/-!
Where a literal ends. A scan of the literal, the search for the mark that closes a value, and the reading
of a string each have a rule of their own for marks behind backslashes. The rules agree wherever no mark
stands behind two backslashes or any other even number of them.
-/
namespace ClassUsage

/-- A scan of the text is inside a string literal from the first character on, and outside at the end. -/
structure Text.ScansAsLiteral (text : Text) : Prop where
  inside : ∀ scan ∈ (Scan.fresh.trace text).dropLast, scan.inString = true
  outside : (Scan.fresh.run text).inString = false

namespace Scan

/-- A literal is left at the first mark that has no backslash right before it. -/
theorem inString_trace_iff {mark : Char} {escaped : Bool} {body : Text} :
    (∀ scan ∈ trace ⟨0, some mark, escaped⟩ body, scan.inString = true) ↔
      holdsBareMark mark escaped body = false := by
  induction body generalizing escaped with
  | nil => exact ⟨fun _ => rfl, fun _ _ member => absurd member List.not_mem_nil⟩
  | cons c rest ih =>
    rw [trace, List.forall_mem_cons, holdsBareMark]
    cases closes : c == mark && !escaped with
    | true =>
      have leaves : step ⟨0, some mark, escaped⟩ c = ⟨0, none, c == '\\'⟩ := by
        simp only [step, closes, ↓reduceIte]
      rw [leaves]
      simp [inString]
    | false =>
      have stays : step ⟨0, some mark, escaped⟩ c = ⟨0, some mark, c == '\\'⟩ := by
        simp only [step, closes, Bool.false_eq_true, ↓reduceIte]
      rw [stays, ih, Bool.false_or]
      exact and_iff_right rfl

/-- The mark of a literal does not end it if it is escaped. -/
theorem inString_step_mark (mark : Char) (escaped : Bool) :
    (step ⟨0, some mark, escaped⟩ mark).inString = escaped := by
  cases escaped <;> simp [step, inString]

end Scan

section

variable {mark : Char} (quote : isQuote mark = true) (body : Text)

include quote

/-- The scan asks for a backslash before each mark inside and for none before the last one. -/
theorem scansAsLiteral_iff :
    Text.ScansAsLiteral (mark :: body ++ [mark]) ↔
      Text.EachMark mark (fun before => 0 < before.backslashesAtEnd) body ∧
        body.backslashesAtEnd = 0 := by
  have trace : Scan.fresh.trace (mark :: body ++ [mark]) =
      Scan.quoting mark :: (Scan.quoting mark).trace body ++
        [((Scan.quoting mark).run body).step mark] := by
    rw [List.cons_append, Scan.trace, Scan.step_fresh_quote quote, Scan.trace_append]
    rfl
  have ends : Scan.fresh.run (mark :: body ++ [mark]) = ((Scan.quoting mark).run body).step mark := by
    rw [List.cons_append, Scan.run_cons, Scan.step_fresh_quote quote, Scan.run_append]
    rfl
  have front : (∀ scan ∈ (Scan.fresh.trace (mark :: body ++ [mark])).dropLast,
      scan.inString = true) ↔ holdsBareMark mark false body = false := by
    rw [trace, List.dropLast_concat, List.forall_mem_cons]
    exact (and_iff_right rfl).trans Scan.inString_trace_iff
  have back : holdsBareMark mark false body = false →
      ((Scan.fresh.run (mark :: body ++ [mark])).inString = false ↔ body.backslashesAtEnd = 0) := by
    intro noBare
    rw [ends, (Scan.run_quoting noBare).1, Scan.inString_step_mark, beq_eq_false_iff_ne, ne_eq,
      ← Text.backslashesAtEnd_pos_iff, Nat.not_lt, Nat.le_zero]
  rw [← holdsBareMark_iff_backslashes, ← front]
  constructor
  · rintro ⟨inside, outside⟩
    exact ⟨inside, (back (front.mp inside)).mp outside⟩
  · rintro ⟨inside, last⟩
    exact ⟨inside, (back (front.mp inside)).mpr last⟩

/-- The search for the closing mark asks for an odd number of backslashes before each mark inside and for
an even number before the last one. -/
theorem closingMarkAt_iff :
    closingMarkAt (body ++ [mark]) 0 [mark] = some body.length ↔
      Text.EachMark mark (fun before => Odd before.backslashesAtEnd) body ∧
        Even body.backslashesAtEnd := by
  have notEscape : mark ≠ '\\' := by
    rintro rfl
    cases quote
  rw [← markEndsAfter_iff_backslashes notEscape, closingMarkAt_eq_some_iff, List.drop_zero]
  constructor
  · rintro ⟨value, rest, ends, parts, length⟩
    rw [Nat.zero_add] at length
    rw [(List.append_inj parts length.symm).1]
    exact ends
  · intro ends
    exact ⟨body, [], ends, rfl, Nat.zero_add _⟩

/-- A string is read if each mark inside has a backslash before it. Nothing is asked of the last mark. -/
theorem literalBody_isSome_iff :
    (literalBody (mark :: body ++ [mark])).isSome = true ↔
      Text.EachMark mark (fun before => 0 < before.backslashesAtEnd) body ∧
        (mark = '\x60' → holdsInterpolation body = false) ∧ body.trim ≠ [] := by
  rw [literalBody_between quote, ← holdsBareMark_iff_backslashes]
  by_cases template : mark = '\x60'
  all_goals
    cases holdsBareMark mark false body <;> cases holdsInterpolation body <;> simp [template]

/-- A string whose last mark is escaped is read on no other terms than one whose last mark ends it, though
neither the scan nor the search ends at that mark. -/
theorem literalBody_of_escaped_end (escaped : Odd body.backslashesAtEnd) :
    ((literalBody (mark :: body ++ [mark])).isSome = true ↔
      Text.EachMark mark (fun before => 0 < before.backslashesAtEnd) body ∧
        (mark = '\x60' → holdsInterpolation body = false)) ∧
    ¬ Text.ScansAsLiteral (mark :: body ++ [mark]) ∧
    closingMarkAt (body ++ [mark]) 0 [mark] ≠ some body.length := by
  have last := Text.backslashesAtEnd_pos_iff.mp escaped.pos
  have filled : body.trim ≠ [] := fun empty =>
    absurd (Text.isBlanks_of_trim_eq_nil empty _ (List.mem_of_getLast? last)) (by decide)
  refine ⟨?_, ?_, ?_⟩
  · rw [literalBody_isSome_iff quote, and_iff_left filled]
  · rw [scansAsLiteral_iff quote]
    exact fun ends => Nat.ne_of_gt escaped.pos ends.2
  · rw [ne_eq, closingMarkAt_iff quote]
    exact fun ends => Nat.not_even_iff_odd.mpr escaped ends.2

end

example : Odd (Text.backslashesAtEnd "a\\".toList) ∧ literalBody "'a\\'".toList = some "a\\".toList := by
  decide

/-- The three ways to tell where a literal ends agree if no mark, the closing one included, stands behind
an even number of backslashes other than none: for a string whose closing mark is not escaped, the scan
and the search both end at that mark. In general the scan asks for a backslash before each mark inside,
the search for an odd number of them. -/
theorem literal_ends_agree {mark : Char} (quote : isQuote mark = true) (body : Text) :
    (Text.EachMark mark
        (fun before => before.backslashesAtEnd = 0 ∨ Odd before.backslashesAtEnd) (body ++ [mark]) →
      (closingMarkAt (body ++ [mark]) 0 [mark] = some body.length ↔
        Text.ScansAsLiteral (mark :: body ++ [mark])) ∧
      ((literalBody (mark :: body ++ [mark])).isSome = true → ¬ Odd body.backslashesAtEnd →
        closingMarkAt (body ++ [mark]) 0 [mark] = some body.length ∧
          Text.ScansAsLiteral (mark :: body ++ [mark]))) ∧
    (Text.ScansAsLiteral (mark :: body ++ [mark]) ↔
      Text.EachMark mark (fun before => 0 < before.backslashesAtEnd) body ∧
        body.backslashesAtEnd = 0) ∧
    (closingMarkAt (body ++ [mark]) 0 [mark] = some body.length ↔
      Text.EachMark mark (fun before => Odd before.backslashesAtEnd) body ∧
        Even body.backslashesAtEnd) := by
  refine ⟨?_, scansAsLiteral_iff quote body, closingMarkAt_iff quote body⟩
  intro unpaired
  obtain ⟨inside, last⟩ := Text.eachMark_concat.mp unpaired
  have odd_of_pos : Text.EachMark mark (fun before => 0 < before.backslashesAtEnd) body →
      Text.EachMark mark (fun before => Odd before.backslashesAtEnd) body := by
    intro escaped before after parts
    rcases inside before after parts with none | odd
    · exact absurd none (Nat.ne_of_gt (escaped before after parts))
    · exact odd
  have pos_of_odd : Text.EachMark mark (fun before => Odd before.backslashesAtEnd) body →
      Text.EachMark mark (fun before => 0 < before.backslashesAtEnd) body :=
    fun odd => odd.imp fun _ isOdd => isOdd.pos
  rw [scansAsLiteral_iff quote, closingMarkAt_iff quote]
  refine ⟨⟨?_, ?_⟩, ?_⟩
  · rintro ⟨odd, even⟩
    exact ⟨pos_of_odd odd, last.resolve_right (Nat.not_odd_iff_even.mpr even)⟩
  · rintro ⟨escaped, none⟩
    exact ⟨odd_of_pos escaped, none ▸ Even.zero⟩
  · intro read settled
    have escaped := ((literalBody_isSome_iff quote body).mp read).1
    have none := last.resolve_right settled
    exact ⟨⟨odd_of_pos escaped, none ▸ Even.zero⟩, escaped, none⟩

/-- A mark behind one backslash ends the string for none of the three. -/
theorem literal_ends_agree_escaped :
    isQuote '"' = true ∧
    Text.EachMark '"' (fun before => before.backslashesAtEnd = 0 ∨ Odd before.backslashesAtEnd)
      "a\\\"b\"".toList ∧
    (literalBody "\"a\\\"b\"".toList).isSome = true ∧
    ¬ Odd (Text.backslashesAtEnd "a\\\"b".toList) ∧
    closingMarkAt "a\\\"b\"".toList 0 ['"'] = some 4 ∧
    Text.ScansAsLiteral "\"a\\\"b\"".toList := by
  have quote : isQuote '"' = true := by decide
  have unpaired : Text.EachMark '"'
      (fun before => before.backslashesAtEnd = 0 ∨ Odd before.backslashesAtEnd)
      (['a', '\\', '"', 'b'] ++ ['"']) := by
    rw [Text.eachMark_concat]
    simp only [Text.eachMark_cons, Text.eachMark_nil]
    decide
  exact ⟨quote, unpaired, by decide, by decide,
    ((literal_ends_agree quote "a\\\"b".toList).1 unpaired).2 (by decide) (by decide)⟩

/-- The search takes a pair of backslashes together, the scan takes the second one for the escape of the
mark behind it; the reading of a string does not look at what stands before the last mark. -/
theorem paired_backslashes_disagree :
    closingMarkAt "\\\\\"".toList 0 ['"'] = some 2 ∧
      literalBody "\"\\\\\"".toList = some "\\\\".toList ∧
      ¬ Text.ScansAsLiteral "\"\\\\\"".toList :=
  ⟨by decide, by decide, fun literal => absurd literal.outside (by decide)⟩

end ClassUsage

import ClassUsage.Proofs.CleanScan

set_option autoImplicit false

/-!
The text up to the bracket that closes one opened before it. The search for that bracket looks at its
kind only where it comes back to depth zero, and goes on behind a bracket of another kind. What it finds
is complete in itself exactly if no bracket of another kind was the one to close.
-/
namespace ClassUsage

namespace Scan

/-- The scan of the text behind an offset as a text of its own: of all that stands before it, only a
backslash at the end matters. -/
def behind (text : Text) (start : Nat) : Scan :=
  { escaped := (text.take start).getLast? == some '\\' }

/-- A bracket that was open before the text is closed by the character right behind it, and not earlier. -/
structure ClosedBehind (scan : Scan) (inner : Text) (bracket : Char) : Prop where
  covered : ∀ inside ∈ scan.trace inner, 0 ≤ inside.depth
  below : ((scan.run inner).step bracket).depth < 0

/-- Only a closing bracket outside of string literals comes back a level, and it comes back just one. -/
theorem step_of_depth_lt {scan : Scan} {c : Char} (falls : (scan.step c).depth < scan.depth) :
    scan.quote = none ∧ (scan.step c).quote = none ∧ (scan.step c).depth = scan.depth - 1 := by
  obtain ⟨depth, quote, escaped⟩ := scan
  cases quote with
  | none =>
    unfold step at falls ⊢
    dsimp only at falls ⊢
    split at falls
    · dsimp only at falls
      omega
    · split at falls
      · dsimp only at falls
        omega
      · split at falls
        · rename_i noQuote noOpener closes
          rw [if_neg noQuote, if_neg noOpener, if_pos closes]
          exact ⟨rfl, rfl, rfl⟩
        · dsimp only at falls
          omega
  | some mark =>
    unfold step at falls
    dsimp only at falls
    split at falls
    · dsimp only at falls
      omega
    · dsimp only at falls
      omega

theorem step_closer {scan : Scan} (quoting : scan.IsQuoting) (closing : Bracket) :
    scan.step closing.closer =
      if scan.quote = none then ⟨scan.depth - 1, none, false⟩ else { scan with escaped := false } := by
  have marks : isQuote closing.closer = false ∧ isOpener closing.closer = false ∧
      isCloser closing.closer = true ∧ (closing.closer == '\\') = false := by
    cases closing <;> decide
  obtain ⟨noQuote, noOpener, closes, noEscape⟩ := marks
  obtain ⟨depth, quote, escaped⟩ := scan
  cases quote with
  | none => simp only [step, noQuote, noOpener, closes, noEscape, Bool.false_and, Bool.false_eq_true,
      ↓reduceIte]
  | some mark =>
    have notMark : (closing.closer == mark) = false := by
      apply beq_eq_false_iff_ne.mpr
      rintro rfl
      rw [quoting _ rfl] at noQuote
      cases noQuote
    simp only [step, notMark, noEscape, Bool.false_and, Bool.false_eq_true, ↓reduceIte, reduceCtorEq]

theorem depth_run_nonneg {scan : Scan} {text : Text} (start : 0 ≤ scan.depth)
    (covered : ∀ inside ∈ scan.trace text, 0 ≤ inside.depth) : 0 ≤ (scan.run text).depth := by
  induction text generalizing scan with
  | nil => exact start
  | cons c rest ih =>
    obtain ⟨here, later⟩ := List.forall_mem_cons.mp covered
    exact ih here later

/-- A scan that goes below zero does so first at some character. -/
theorem exists_closedBehind {scan inside : Scan} {text : Text} (member : inside ∈ scan.trace text)
    (negative : inside.depth < 0) :
    ∃ inner bracket after, text = inner ++ bracket :: after ∧ scan.ClosedBehind inner bracket := by
  induction text generalizing scan with
  | nil => cases member
  | cons c rest ih =>
    by_cases below : (scan.step c).depth < 0
    · exact ⟨[], c, rest, rfl, fun _ none => absurd none List.not_mem_nil, below⟩
    · have later : inside ∈ (scan.step c).trace rest := by
        rcases List.mem_cons.mp member with rfl | later
        · exact absurd negative below
        · exact later
      obtain ⟨inner, bracket, after, rfl, covered, closes⟩ := ih later
      refine ⟨c :: inner, bracket, after, rfl, ?_, closes⟩
      exact List.forall_mem_cons.mpr ⟨Int.not_lt.mp below, covered⟩

section

variable {scan : Scan}

/-- No text goes on behind the bracket without going below zero. -/
theorem ClosedBehind.not_covered {inner : Text} {bracket : Char}
    (closed : scan.ClosedBehind inner bracket) (more : Text) :
    ¬ ∀ inside ∈ scan.trace (inner ++ bracket :: more), 0 ≤ inside.depth := by
  intro covered
  have above := covered _ (mem_trace_append scan inner bracket more)
  exact absurd closed.below (Int.not_lt.mpr above)

/-- The bracket that closes is told by the text. -/
theorem ClosedBehind.unique {first second more others : Text} {c d : Char}
    (closed : scan.ClosedBehind first c) (again : scan.ClosedBehind second d)
    (same : first ++ c :: more = second ++ d :: others) : first = second ∧ c = d := by
  rcases List.append_eq_append_iff.mp same with ⟨between, rfl, behind⟩ | ⟨between, rfl, behind⟩
  · cases between with
    | nil => exact ⟨(List.append_nil first).symm, (List.cons.inj behind).1⟩
    | cons e between =>
      obtain ⟨rfl, -⟩ := List.cons.inj behind
      exact absurd again.covered (closed.not_covered between)
  · cases between with
    | nil => exact ⟨List.append_nil second, (List.cons.inj behind).1.symm⟩
    | cons e between =>
      obtain ⟨rfl, -⟩ := List.cons.inj behind
      exact absurd closed.covered (again.not_covered between)

variable (outside : scan.isNeutral = true)

include outside

/-- The bracket that closes one around a text leads from one level above to the top. -/
theorem ClosesAfter.isNeutral_run {closing : Bracket} {inner : Text}
    (closes : (scan.deeper 1).ClosesAfter closing inner) : (scan.run inner).isNeutral = true := by
  have quoting := isQuoting_of_quote_eq_none (isNeutral_iff.mp outside).1
  have neutral := closes.isNeutral
  rw [run_deeper, step_deeper, step_closer (quoting.run inner)] at neutral
  obtain ⟨noQuote, level⟩ := isNeutral_iff.mp neutral
  split at noQuote
  · rename_i unquoted
    rw [if_pos unquoted] at level
    simp only [deeper] at level
    exact isNeutral_iff.mpr ⟨unquoted, by omega⟩
  · rename_i quoted
    exact absurd noQuote quoted

theorem ClosesAfter.closedBehind {closing : Bracket} {inner : Text}
    (closes : (scan.deeper 1).ClosesAfter closing inner)
    (covered : ∀ inside ∈ scan.trace inner, 0 ≤ inside.depth) :
    scan.ClosedBehind inner closing.closer := by
  refine ⟨covered, ?_⟩
  obtain ⟨unquoted, level⟩ := isNeutral_iff.mp (closes.isNeutral_run outside)
  rw [step_closer (isQuoting_of_quote_eq_none unquoted), if_pos unquoted, level]
  decide

/-- If a bracket of the expected kind is the one to close, it is found. -/
theorem ClosedBehind.closesAfter {closing : Bracket} {inner : Text}
    (closed : scan.ClosedBehind inner closing.closer) :
    (scan.deeper 1).ClosesAfter closing inner := by
  intro rest
  have start : 0 ≤ scan.depth := Int.le_of_eq (isNeutral_iff.mp outside).2.symm
  have above := depth_run_nonneg start closed.covered
  have below := closed.below
  obtain ⟨-, unquoted, level⟩ := step_of_depth_lt (Int.lt_of_lt_of_le below above)
  apply balanced_of_trace rest (trace_deeper_hidden closed.covered)
  rw [run_deeper, step_deeper]
  apply isNeutral_iff.mpr
  refine ⟨unquoted, ?_⟩
  simp only [deeper]
  omega

/-- What is found is complete in itself exactly if the bracket that closes is of the expected kind. -/
theorem ClosesAfter.covered_iff {closing : Bracket} {inner rest : Text}
    (closes : (scan.deeper 1).ClosesAfter closing inner) :
    (∀ inside ∈ scan.trace inner, 0 ≤ inside.depth) ↔
      ∀ before bracket after, inner ++ closing.closer :: rest = before ++ bracket :: after →
        scan.ClosedBehind before bracket → bracket = closing.closer := by
  constructor
  · intro covered before bracket after parts closed
    exact (closed.unique (closes.closedBehind outside covered) parts.symm).2
  · intro expected inside member
    apply Int.not_lt.mp
    intro negative
    obtain ⟨before, bracket, after, parts, closed⟩ := exists_closedBehind member negative
    have whole : inner ++ closing.closer :: rest =
        before ++ bracket :: (after ++ closing.closer :: rest) := by
      rw [parts, List.append_assoc, List.cons_append]
    obtain rfl := expected _ _ _ whole closed
    have earlier := closed.closesAfter outside (after ++ closing.closer :: rest)
    rw [← whole, closes rest] at earlier
    have shorter := congrArg List.length (Prod.mk.inj (Option.some.inj earlier)).1
    rw [parts, List.length_append, List.length_cons] at shorter
    omega

end

end Scan

/-- The result is read off the text behind the offset, one level deeper than that text by itself. -/
theorem balancedAt_eq_some_iff {text content : Text} {start index : Nat} {closing : Bracket} :
    balancedAt text start closing = some (content, index) ↔
      ((Scan.behind text start).deeper 1).ClosesAfter closing content ∧
        ∃ rest, text.drop start = content ++ closing.closer :: rest ∧
          index = start + content.length + 1 := by
  have read : balancedAt text start closing =
      (((Scan.behind text start).deeper 1).balanced closing (text.drop start)).map fun found =>
        (found.1, start + found.1.length + 1) := rfl
  rw [read, Option.map_eq_some_iff]
  constructor
  · rintro ⟨⟨inner, rest⟩, found, equal⟩
    obtain ⟨rfl, rfl⟩ := Prod.mk.inj equal
    obtain ⟨closes, parts⟩ := Scan.balanced_eq_some_iff.mp found
    exact ⟨closes, rest, parts, rfl⟩
  · rintro ⟨closes, rest, parts, rfl⟩
    exact ⟨(content, rest), Scan.balanced_eq_some_iff.mpr ⟨closes, parts⟩, rfl⟩

/-- What is found stands in front of a bracket of the expected kind, and a scan of it by itself ends at
the top level. That scan never goes below zero exactly if the bracket that closes the one before the
offset is of the expected kind, and then it is the one found. -/
theorem balancedAt_content (text : Text) (start : Nat) (closing : Bracket) :
    (∀ content index, balancedAt text start closing = some (content, index) →
      start < index ∧ content = text.slice start (index - 1) ∧
      text[index - 1]? = some closing.closer ∧
      ((Scan.behind text start).run content).isNeutral = true ∧
      ((∀ scan ∈ (Scan.behind text start).trace content, 0 ≤ scan.depth) ↔
        ∀ before bracket after, text.drop start = before ++ bracket :: after →
          (Scan.behind text start).ClosedBehind before bracket → bracket = closing.closer)) ∧
    ∀ before after, text.drop start = before ++ closing.closer :: after →
      (Scan.behind text start).ClosedBehind before closing.closer →
        balancedAt text start closing = some (before, start + before.length + 1) := by
  have outside : (Scan.behind text start).isNeutral = true := rfl
  constructor
  · intro content index found
    obtain ⟨closes, rest, parts, rfl⟩ := balancedAt_eq_some_iff.mp found
    refine ⟨by omega, ?_, ?_, closes.isNeutral_run outside, ?_⟩
    · rw [Nat.add_sub_cancel, Text.slice, List.drop_take, Nat.add_sub_cancel_left, parts,
        List.take_left]
    · rw [Nat.add_sub_cancel, ← List.getElem?_drop, parts, List.getElem?_append_right (Nat.le_refl _),
        Nat.sub_self, List.getElem?_cons_zero]
    · rw [parts]
      exact closes.covered_iff outside
  · intro before after parts closed
    exact balancedAt_eq_some_iff.mpr ⟨closed.closesAfter outside, after, parts, rfl⟩

/-- Behind a backslash the first quotation mark of the content opens no literal. -/
theorem balancedAt_content_escaped :
    balancedAt "\\\x27a[b])".toList 1 .round = some ("\x27a[b]".toList, 7) ∧
    ((Scan.behind "\\\x27a[b])".toList 1).run "\x27a[b]".toList).isNeutral = true ∧
    ∀ before bracket after, "\x27a[b])".toList = before ++ bracket :: after →
      (Scan.behind "\\\x27a[b])".toList 1).ClosedBehind before bracket → bracket = ')' := by
  obtain ⟨sound, complete⟩ := balancedAt_content "\\\x27a[b])".toList 1 .round
  have closed : (Scan.behind "\\\x27a[b])".toList 1).ClosedBehind "\x27a[b]".toList ')' :=
    ⟨by decide, by decide⟩
  have found := complete "\x27a[b]".toList [] rfl closed
  obtain ⟨-, -, -, neutral, complete_iff⟩ := sound _ _ found
  exact ⟨found, neutral, complete_iff.mp closed.covered⟩

/-- A bracket of another kind that closes is passed over, and what is found closes more than it opens. -/
theorem balancedAt_passes_mismatch :
    balancedAt "(a]b[c)".toList 1 .round = some ("a]b[c".toList, 7) ∧
      ¬ ∀ scan ∈ (Scan.behind "(a]b[c)".toList 1).trace "a]b[c".toList, 0 ≤ scan.depth := by
  decide

end ClassUsage

import ClassUsage.Proofs.BranchPairing
import ClassUsage.Proofs.LineEnds

set_option autoImplicit false

/-!
Scans of texts with line feeds for all line ends. A line end opens and closes nothing, so what a scan
finds stands at the same place; a scan may begin between the two characters of a line end.
-/
namespace ClassUsage

namespace Scan

variable {scan : Scan}

/-- All that a line end does is to end an escape. -/
theorem step_of_lineEnd (quoting : scan.IsQuoting) {c : Char} (lineEnd : c = '\r' ∨ c = '\n') :
    scan.step c = { scan with escaped := false } := by
  apply Text.IsOrdinary.step_eq _ quoting
  rcases lineEnd with rfl | rfl <;> decide

theorem step_lineFeed (quoting : scan.IsQuoting) (c : Char) :
    scan.step (Text.lineFeed c) = scan.step c := by
  unfold Text.lineFeed
  split
  · rename_i isReturn
    rw [step_of_lineEnd quoting (Or.inr rfl), step_of_lineEnd quoting (Or.inl isReturn)]
  · rfl

/-- A line feed that is passed over behind a carriage return would not have changed the scan. -/
theorem step_passed (quoting : scan.IsQuoting) (settled : scan.escaped = false) :
    scan.step '\n' = scan := by
  rw [step_of_lineEnd quoting (Or.inr rfl), ← settled]

theorem settled_step (scan : Scan) {c : Char} (isReturn : (c == '\r') = true) :
    (scan.step c).escaped = false := by
  rw [escaped_step, beq_iff_eq.mp isReturn]
  decide

/-- What is read of a text in two parts, with line feeds. The first part may begin in the middle. -/
def partsWithLineFeeds (returned : Bool) (found : Text × Text) : Text × Text :=
  (found.1.lineFeedsAfter returned, found.2.withLineFeeds)

theorem partsWithLineFeeds_false (found : Text × Text) :
    partsWithLineFeeds false found = (found.1.withLineFeeds, found.2.withLineFeeds) := by
  rw [partsWithLineFeeds, Text.lineFeedsAfter_false]

theorem map_partsWithLineFeeds_passed (found : Option (Text × Text)) :
    (found.map fun parts => ('\n' :: parts.1, parts.2)).map (partsWithLineFeeds true) =
      found.map (partsWithLineFeeds false) := by
  rw [Option.map_map]
  rfl

theorem map_partsWithLineFeeds_kept {returned : Bool} {c : Char}
    (kept : ¬ (returned = true ∧ c = '\n')) (found : Option (Text × Text)) :
    (found.map fun parts => (c :: parts.1, parts.2)).map (partsWithLineFeeds returned) =
      (found.map (partsWithLineFeeds (c == '\r'))).map fun parts =>
        (Text.lineFeed c :: parts.1, parts.2) := by
  rw [Option.map_map, Option.map_map]
  congr 1
  funext parts
  simp only [Function.comp_def, partsWithLineFeeds, Text.lineFeedsAfter_kept kept]

theorem balanced_lineFeedsAfter (closing : Bracket) {returned : Bool} (quoting : scan.IsQuoting)
    (settled : returned = true → scan.escaped = false) (text : Text) :
    scan.balanced closing (text.lineFeedsAfter returned) =
      (scan.balanced closing text).map (partsWithLineFeeds returned) := by
  have solid : isBlank closing.closer = false := by cases closing <;> decide
  induction text generalizing scan returned with
  | nil => rfl
  | cons c rest ih =>
    by_cases passed : returned = true ∧ c = '\n'
    · obtain ⟨rfl, rfl⟩ := passed
      have notCloser : ('\n' == closing.closer) = false := by cases closing <;> decide
      rw [Text.lineFeedsAfter_passed, balanced, step_passed quoting (settled rfl), notCloser,
        Bool.and_false, if_neg Bool.false_ne_true, map_partsWithLineFeeds_passed]
      exact ih quoting (by simp)
    · have sameCloser : (Text.lineFeed c == closing.closer) = (c == closing.closer) := by
        rw [Bool.eq_iff_iff, beq_iff_eq, beq_iff_eq, Text.lineFeed_eq_iff solid]
      have later := ih (quoting.step c) (settled_step scan (c := c))
      rw [Text.lineFeedsAfter_kept passed, balanced, balanced, step_lineFeed quoting, sameCloser]
      split
      · rename_i closes
        have isCloser : (c == '\r') = false := by
          rw [beq_iff_eq.mp (Bool.and_eq_true_iff.mp closes).2]
          cases closing <;> decide
        rw [isCloser, Text.lineFeedsAfter_false]
        rfl
      · rw [later, map_partsWithLineFeeds_kept passed]

theorem balanced_withLineFeeds (closing : Bracket) (inside : Text) :
    opened.balanced closing inside.withLineFeeds =
      (opened.balanced closing inside).map fun found =>
        (found.1.withLineFeeds, found.2.withLineFeeds) := by
  have balanced := balanced_lineFeedsAfter closing isQuoting_opened
    (by simp : false = true → opened.escaped = false) inside
  rwa [Text.lineFeedsAfter_false, funext partsWithLineFeeds_false] at balanced

/-- A mark of which line ends are no part, neither in it nor around it. -/
structure IgnoresLineEnds (wanted : Option Char → Text → Bool) : Prop where
  blank : ∀ {c : Char}, isBlank c = true → ∀ (previous : Option Char) (rest : Text),
    wanted previous (c :: rest) = false
  solid : ∀ {c : Char}, isBlank c = false → ∀ (previous : Option Char) (rest : Text),
    wanted (previous.map Text.lineFeed) (c :: rest.withLineFeeds) = wanted previous (c :: rest)

theorem IgnoresLineEnds.kept {wanted : Option Char → Text → Bool} (ignores : IgnoresLineEnds wanted)
    (c : Char) (previous : Option Char) (rest : Text) :
    wanted (previous.map Text.lineFeed) (Text.lineFeed c :: rest.lineFeedsAfter (c == '\r')) =
      wanted previous (c :: rest) := by
  cases blank : isBlank c with
  | true => rw [ignores.blank blank, ignores.blank ((Text.isBlank_lineFeed c).trans blank)]
  | false =>
    rw [Text.lineFeed_of_solid blank, Text.beq_return_of_solid blank, Text.lineFeedsAfter_false,
      ignores.solid blank]

theorem findNeutral_lineFeedsAfter {wanted : Option Char → Text → Bool}
    (ignores : IgnoresLineEnds wanted) {returned : Bool} {previous : Option Char}
    (follows : returned = true → previous = some '\r') (quoting : scan.IsQuoting)
    (settled : returned = true → scan.escaped = false) (offset other : Nat) (text : Text) :
    findNeutral (fun _ => wanted) offset (previous.map Text.lineFeed) scan
        (text.lineFeedsAfter returned) =
      (findNeutral (fun _ => wanted) other previous scan text).map (partsWithLineFeeds returned) := by
  induction text generalizing scan returned previous offset other with
  | nil => rfl
  | cons c rest ih =>
    by_cases passed : returned = true ∧ c = '\n'
    · obtain ⟨rfl, rfl⟩ := passed
      have samePrevious : previous.map Text.lineFeed = (some '\n').map Text.lineFeed := by
        rw [follows rfl]
        rfl
      rw [Text.lineFeedsAfter_passed, findNeutral, step_passed quoting (settled rfl),
        ignores.blank (by decide), Bool.and_false, if_neg Bool.false_ne_true,
        map_partsWithLineFeeds_passed, samePrevious]
      exact ih (by simp) quoting (by simp) offset (other + 1)
    · have later : findNeutral (fun _ => wanted) (offset + 1) (some (Text.lineFeed c)) (scan.step c)
            (Text.lineFeedsAfter (c == '\r') rest) =
          (findNeutral (fun _ => wanted) (other + 1) (some c) (scan.step c) rest).map
            (partsWithLineFeeds (c == '\r')) :=
        ih (fun isReturn => congrArg some (beq_iff_eq.mp isReturn)) (quoting.step c)
          (settled_step scan) (offset + 1) (other + 1)
      rw [Text.lineFeedsAfter_kept passed, findNeutral, findNeutral, step_lineFeed quoting,
        ignores.kept]
      split
      · rename_i found
        cases blank : isBlank c with
        | true =>
          rw [ignores.blank blank, Bool.and_false] at found
          cases found
        | false =>
          rw [Option.map_some, partsWithLineFeeds, Text.withLineFeeds_cons blank,
            ← Text.lineFeedsAfter_kept passed, Text.lineFeedsAfter_solid blank]
          rfl
      · rw [later, map_partsWithLineFeeds_kept passed]

theorem findNeutral_withLineFeeds {wanted : Option Char → Text → Bool}
    (ignores : IgnoresLineEnds wanted) (text : Text) :
    fresh.findNeutral (fun _ => wanted) 0 none text.withLineFeeds =
      (fresh.findNeutral (fun _ => wanted) 0 none text).map fun found =>
        (found.1.withLineFeeds, found.2.withLineFeeds) := by
  have search := findNeutral_lineFeedsAfter ignores
    (by simp : false = true → (none : Option Char) = some '\r') isQuoting_fresh
    (by simp : false = true → fresh.escaped = false) 0 0 text
  rwa [Text.lineFeedsAfter_false, Option.map_none, funext partsWithLineFeeds_false] at search

theorem splitKey_lineFeedsAfter {returned : Bool} (quoting : scan.IsQuoting)
    (settled : returned = true → scan.escaped = false) (text : Text) :
    scan.splitKey (text.lineFeedsAfter returned) =
      (scan.splitKey text).map (partsWithLineFeeds returned) := by
  induction text generalizing scan returned with
  | nil => rfl
  | cons c rest ih =>
    by_cases passed : returned = true ∧ c = '\n'
    · obtain ⟨rfl, rfl⟩ := passed
      have notColon : ('\n' == ':') = false := by decide
      rw [Text.lineFeedsAfter_passed, splitKey, step_passed quoting (settled rfl), notColon,
        Bool.false_and, if_neg Bool.false_ne_true, map_partsWithLineFeeds_passed]
      exact ih quoting (by simp)
    · have sameColon : (Text.lineFeed c == ':') = (c == ':') := by
        rw [Bool.eq_iff_iff, beq_iff_eq, beq_iff_eq, Text.lineFeed_eq_iff (by decide)]
      have later := ih (quoting.step c) (settled_step scan (c := c))
      rw [Text.lineFeedsAfter_kept passed, splitKey, splitKey, step_lineFeed quoting, sameColon]
      split
      · rename_i colon
        have isColon : (c == '\r') = false := by
          rw [beq_iff_eq.mp (Bool.and_eq_true_iff.mp colon).1]
          decide
        rw [isColon, Text.lineFeedsAfter_false]
        rfl
      · rw [later, map_partsWithLineFeeds_kept passed]

theorem splitColon_lineFeedsAfter (ignores : IgnoresLineEnds startsConditional) (pending : Nat)
    {returned : Bool} {previous : Option Char} (follows : returned = true → previous = some '\r')
    (quoting : scan.IsQuoting) (settled : returned = true → scan.escaped = false) (text : Text) :
    splitColon pending (previous.map Text.lineFeed) scan (text.lineFeedsAfter returned) =
      (splitColon pending previous scan text).map (partsWithLineFeeds returned) := by
  induction text generalizing scan returned previous pending with
  | nil => rfl
  | cons c rest ih =>
    by_cases passed : returned = true ∧ c = '\n'
    · obtain ⟨rfl, rfl⟩ := passed
      have samePrevious : previous.map Text.lineFeed = (some '\n').map Text.lineFeed := by
        rw [follows rfl]
        rfl
      have notColon : ('\n' == ':') = false := by decide
      rw [Text.lineFeedsAfter_passed, splitColon_cons, step_passed quoting (settled rfl),
        ignores.blank (by decide), Bool.and_false, if_neg Bool.false_ne_true, notColon,
        Bool.and_false, if_neg Bool.false_ne_true, map_partsWithLineFeeds_passed, samePrevious]
      exact ih pending (by simp) quoting (by simp)
    · have sameColon : (Text.lineFeed c == ':') = (c == ':') := by
        rw [Bool.eq_iff_iff, beq_iff_eq, beq_iff_eq, Text.lineFeed_eq_iff (by decide)]
      have later : ∀ left, splitColon left (some (Text.lineFeed c)) (scan.step c)
            (Text.lineFeedsAfter (c == '\r') rest) =
          (splitColon left (some c) (scan.step c) rest).map (partsWithLineFeeds (c == '\r')) :=
        fun left => ih left (fun isReturn => congrArg some (beq_iff_eq.mp isReturn)) (quoting.step c)
          (settled_step scan)
      rw [Text.lineFeedsAfter_kept passed, splitColon_cons, splitColon_cons, step_lineFeed quoting,
        sameColon, ignores.kept]
      split
      · rw [later, map_partsWithLineFeeds_kept passed]
      · split
        · rename_i colon
          have isColon : (c == '\r') = false := by
            rw [beq_iff_eq.mp (Bool.and_eq_true_iff.mp colon).2]
            decide
          cases pending with
          | zero =>
            dsimp only
            rw [isColon, Text.lineFeedsAfter_false]
            rfl
          | succ pending =>
            dsimp only
            rw [later, map_partsWithLineFeeds_kept passed]
        · rw [later, map_partsWithLineFeeds_kept passed]

/-- The first segment may begin in the middle. -/
theorem segments_lineFeedsAfter {separates : Char → Bool}
    (solid : ∀ c, isBlank c = true → separates c = false) {returned : Bool}
    (quoting : scan.IsQuoting) (settled : returned = true → scan.escaped = false) (text : Text) :
    ∃ piece pieces, scan.segments separates text = piece :: pieces ∧
      scan.segments separates (text.lineFeedsAfter returned) =
        piece.lineFeedsAfter returned :: pieces.map Text.withLineFeeds := by
  induction text generalizing scan returned with
  | nil => exact ⟨[], [], rfl, rfl⟩
  | cons c rest ih =>
    by_cases passed : returned = true ∧ c = '\n'
    · obtain ⟨rfl, rfl⟩ := passed
      obtain ⟨piece, pieces, plain, fed⟩ := ih quoting fun isFalse : false = true => nomatch isFalse
      refine ⟨'\n' :: piece, pieces, ?_, fed⟩
      rw [segments, step_passed quoting (settled rfl), solid '\n' (by decide), Bool.false_and,
        if_neg Bool.false_ne_true, plain]
      rfl
    · obtain ⟨piece, pieces, plain, fed⟩ := ih (quoting.step c) (settled_step scan (c := c))
      have same : separates (Text.lineFeed c) = separates c := by
        apply Text.apply_lineFeed separates
        rw [solid '\r' (by decide), solid '\n' (by decide)]
      rw [Text.lineFeedsAfter_kept passed, segments, segments, step_lineFeed quoting, same]
      split
      · rename_i cuts
        have isSolid : isBlank c = false := by
          cases blank : isBlank c with
          | false => rfl
          | true =>
            rw [solid c blank] at cuts
            cases cuts
        rw [Text.beq_return_of_solid isSolid, Text.lineFeedsAfter_false piece] at fed
        rw [Text.beq_return_of_solid isSolid, fed, plain]
        exact ⟨[], piece :: pieces, rfl, rfl⟩
      · refine ⟨c :: piece, pieces, by rw [plain]; rfl, ?_⟩
        rw [fed, Text.lineFeedsAfter_kept passed]
        rfl

end Scan

theorem splitTopLevel_withLineFeeds {separates : Char → Bool}
    (solid : ∀ c, isBlank c = true → separates c = false) (text : Text) :
    splitTopLevel separates text.withLineFeeds =
      (splitTopLevel separates text).map Text.withLineFeeds := by
  obtain ⟨piece, pieces, plain, fed⟩ := Scan.segments_lineFeedsAfter solid Scan.isQuoting_fresh
    (by simp : false = true → Scan.fresh.escaped = false) text
  rw [Text.lineFeedsAfter_false, Text.lineFeedsAfter_false, ← List.map_cons, ← plain] at fed
  have trims : Text.trim ∘ Text.withLineFeeds = Text.withLineFeeds ∘ Text.trim :=
    funext Text.trim_withLineFeeds
  have filled : (fun piece : Text => !piece.isEmpty) ∘ Text.withLineFeeds =
      fun piece => !piece.isEmpty := by
    funext piece
    rw [Function.comp_apply, Text.isEmpty_withLineFeeds]
  unfold splitTopLevel
  rw [fed, List.map_map, trims, ← List.map_map, List.filter_map, filled]

theorem splitAtMark_lineFeedsAfter {mark : Char} (solid : isBlank mark = false)
    {returned escaped : Bool} (settled : returned = true → escaped = false) (text : Text) :
    splitAtMark mark escaped (text.lineFeedsAfter returned) =
      (splitAtMark mark escaped text).map (Scan.partsWithLineFeeds returned) := by
  induction text generalizing returned escaped with
  | nil => rfl
  | cons c rest ih =>
    by_cases passed : returned = true ∧ c = '\n'
    · obtain ⟨rfl, rfl⟩ := passed
      have notMark : '\n' ≠ mark := by
        rintro rfl
        exact absurd solid (by decide)
      rw [Text.lineFeedsAfter_passed, settled rfl, splitAtMark, if_neg Bool.false_ne_true,
        if_neg (by decide), if_neg notMark, Scan.map_partsWithLineFeeds_passed]
      exact ih (by simp)
    · have sameEscape : Text.lineFeed c = '\\' ↔ c = '\\' := Text.lineFeed_eq_iff (by decide)
      have sameMark : Text.lineFeed c = mark ↔ c = mark := Text.lineFeed_eq_iff solid
      have later : ∀ next, (c = '\r' → next = false) →
          splitAtMark mark next (Text.lineFeedsAfter (c == '\r') rest) =
            (splitAtMark mark next rest).map (Scan.partsWithLineFeeds (c == '\r')) :=
        fun next settles => ih fun isReturn => settles (beq_iff_eq.mp isReturn)
      rw [Text.lineFeedsAfter_kept passed, splitAtMark, splitAtMark]
      simp only [sameEscape, sameMark]
      split
      · rw [later false fun _ => rfl, Scan.map_partsWithLineFeeds_kept passed]
      · split
        · rename_i isEscape
          have notReturn : c ≠ '\r' := by
            rw [isEscape]
            decide
          rw [later true fun isReturn => absurd isReturn notReturn,
            Scan.map_partsWithLineFeeds_kept passed]
        · split
          · rename_i isMark
            rw [← isMark] at solid
            rw [Text.beq_return_of_solid solid, Text.lineFeedsAfter_false]
            rfl
          · rw [later false fun _ => rfl, Scan.map_partsWithLineFeeds_kept passed]

theorem unwrap_withLineFeeds (opening closing : Bracket) (text : Text) :
    unwrap opening closing text.withLineFeeds =
      (unwrap opening closing text).map Text.withLineFeeds := by
  have solid : isBlank opening.opener = false := by cases opening <;> decide
  unfold unwrap
  rw [Text.trim_withLineFeeds]
  cases text.trim with
  | nil => rfl
  | cons c rest =>
    by_cases opens : c = opening.opener
    · subst opens
      rw [Text.withLineFeeds_cons solid]
      simp only [↓reduceIte, Scan.balanced_withLineFeeds]
      cases Scan.opened.balanced closing rest with
      | none => rfl
      | some found =>
        obtain ⟨inner, behind⟩ := found
        cases behind with
        | nil => rfl
        | cons d behind =>
          obtain ⟨others, first⟩ := Text.exists_withLineFeeds_cons d behind
          simp only [Option.map_some, first, Option.map_none]
    · obtain ⟨d, others, first, differs⟩ := Text.withLineFeeds_cons_ne solid opens rest
      rw [first]
      simp [opens, differs]

theorem stripParens_withLineFeeds (text : Text) :
    stripParens text.withLineFeeds = (stripParens text).withLineFeeds := by
  have same := fun text => unwrap_withLineFeeds .round .round text
  induction text using stripParens.induct with
  | case1 text inner found ih =>
    have stillFound := (same text).trans (congrArg _ found)
    rw [stripParens_of_enclosed found, stripParens_of_enclosed stillFound, ih]
  | case2 text missing =>
    have stillMissing := (same text).trans (congrArg _ missing)
    rw [stripParens_of_unwrap missing, stripParens_of_unwrap stillMissing, Text.trim_withLineFeeds]

end ClassUsage

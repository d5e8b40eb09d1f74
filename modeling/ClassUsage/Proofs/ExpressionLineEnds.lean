import ClassUsage.Proofs.ConditionLineEnds
import ClassUsage.Proofs.TemplateReading

set_option autoImplicit false

/-!
Class expressions with line feeds for all line ends. The same shapes are read off them, so they have the
same uses, with line feeds in their classes and conditions.
-/
namespace ClassUsage

theorem holdsBareMark_lineFeedsAfter {mark : Char} (isMark : isQuote mark = true)
    {returned escaped : Bool} (settled : returned = true → escaped = false) (text : Text) :
    holdsBareMark mark escaped (text.lineFeedsAfter returned) = holdsBareMark mark escaped text := by
  have noFeed : ('\n' == mark) = false := Text.beq_of_blank (by decide) (solid_of_isQuote isMark)
  have noReturn : ('\r' == mark) = false := Text.beq_of_blank (by decide) (solid_of_isQuote isMark)
  induction text generalizing returned escaped with
  | nil => rfl
  | cons c rest ih =>
    by_cases passed : returned = true ∧ c = '\n'
    · obtain ⟨rfl, rfl⟩ := passed
      rw [Text.lineFeedsAfter_passed, holdsBareMark, noFeed, Bool.false_and, Bool.false_or, settled rfl]
      exact ih (by simp)
    · have sameMark : (Text.lineFeed c == mark) = (c == mark) :=
        Text.apply_lineFeed (· == mark) (noReturn.trans noFeed.symm) c
      have sameEscape : (Text.lineFeed c == '\\') = (c == '\\') :=
        Text.apply_lineFeed (· == '\\') (by decide) c
      rw [Text.lineFeedsAfter_kept passed, holdsBareMark, holdsBareMark, sameMark, sameEscape, ih]
      intro isReturn
      rw [beq_iff_eq.mp isReturn]
      decide

theorem holdsInterpolation_lineFeedsAfter (returned : Bool) (text : Text) :
    holdsInterpolation (text.lineFeedsAfter returned) = holdsInterpolation text := by
  induction text generalizing returned with
  | nil => rfl
  | cons c rest ih =>
    by_cases passed : returned = true ∧ c = '\n'
    · obtain ⟨rfl, rfl⟩ := passed
      have noDollar : ('\n' == '$') = false := by decide
      rw [Text.lineFeedsAfter_passed, holdsInterpolation, noDollar, Bool.false_and, Bool.false_or]
      exact ih false
    · rw [Text.lineFeedsAfter_kept passed, holdsInterpolation, holdsInterpolation, ih]
      congr 1
      by_cases dollar : c = '$'
      · rw [dollar, Text.beq_return_of_solid (by decide), Text.lineFeedsAfter_false,
          Text.lineFeed_of_solid (by decide), Bool.eq_iff_iff, Bool.and_eq_true, Bool.and_eq_true,
          beq_iff_eq, beq_iff_eq, beq_iff_eq, Text.head?_withLineFeeds_eq_some_iff (by decide)]
      · have differs : Text.lineFeed c ≠ '$' :=
          fun same => dollar ((Text.lineFeed_eq_iff (by decide)).mp same)
        rw [beq_eq_false_iff_ne.mpr dollar, beq_eq_false_iff_ne.mpr differs, Bool.false_and,
          Bool.false_and]

theorem enclosedBody_withLineFeeds (text : Text) :
    enclosedBody text.withLineFeeds =
      (enclosedBody text).map fun found => (found.1, found.2.withLineFeeds) := by
  cases text with
  | nil => rfl
  | cons mark body =>
    cases isMark : isQuote mark with
    | false =>
      have stillNone : isQuote (Text.lineFeed mark) = false :=
        (Text.apply_lineFeed isQuote (by decide) mark).trans isMark
      rw [← Text.lineFeedsAfter_false, Text.lineFeedsAfter_kept (by simp)]
      simp only [enclosedBody, isMark, stillNone, Bool.false_and, Bool.false_eq_true, ↓reduceIte,
        Option.map_none]
    | true =>
      have solid := solid_of_isQuote isMark
      rw [Text.withLineFeeds_cons solid]
      by_cases last : body.getLast? = some mark
      · obtain ⟨inner, rfl⟩ := List.getLast?_eq_some_iff.mp last
        simp only [enclosedBody, Text.withLineFeeds_concat solid, isMark, List.getLast?_concat,
          List.dropLast_concat, beq_self_eq_true, Bool.and_self, ↓reduceIte, Option.map_some]
      · have notLast : (Text.withLineFeeds body).getLast? ≠ some mark := fun same =>
          last ((Text.getLast?_withLineFeeds_eq_some_iff solid body).mp same)
        simp only [enclosedBody, isMark, beq_eq_false_iff_ne.mpr last, beq_eq_false_iff_ne.mpr notLast,
          Bool.and_false, Bool.false_eq_true, ↓reduceIte, Option.map_none]

theorem isQuote_of_enclosedBody {text body : Text} {mark : Char}
    (found : enclosedBody text = some (mark, body)) : isQuote mark = true := by
  unfold enclosedBody at found
  split at found
  · split at found
    · rename_i encloses
      cases found
      exact (Bool.and_eq_true_iff.mp encloses).1
    · cases found
  · cases found

theorem literalBody_withLineFeeds (text : Text) :
    literalBody text.withLineFeeds = (literalBody text).map Text.withLineFeeds := by
  unfold literalBody
  rw [Text.trim_withLineFeeds, enclosedBody_withLineFeeds]
  cases enclosed : enclosedBody text.trim with
  | none => rfl
  | some found =>
    obtain ⟨mark, body⟩ := found
    have isMark := isQuote_of_enclosedBody enclosed
    have sameMark : holdsBareMark mark false body.withLineFeeds = holdsBareMark mark false body := by
      rw [← Text.lineFeedsAfter_false, holdsBareMark_lineFeedsAfter isMark (by simp)]
    have sameInterpolation : holdsInterpolation body.withLineFeeds = holdsInterpolation body := by
      rw [← Text.lineFeedsAfter_false, holdsInterpolation_lineFeedsAfter]
    simp only [Option.map_some, sameMark, sameInterpolation, Text.trim_withLineFeeds,
      Text.isEmpty_withLineFeeds]
    split
    · rfl
    · split
      · rfl
      · rfl

theorem keyClasses_withLineFeeds (key : Text) :
    keyClasses key.withLineFeeds = (keyClasses key).map Text.withLineFeeds := by
  cases key with
  | nil => rfl
  | cons c rest =>
    have literal := literalBody_withLineFeeds (c :: rest)
    have sameOpener : Text.lineFeed c = '[' ↔ c = '[' := Text.lineFeed_eq_iff (by decide)
    have sameQuote : isQuote (Text.lineFeed c) = isQuote c := Text.apply_lineFeed isQuote (by decide) c
    obtain ⟨others, shape⟩ := Text.exists_withLineFeeds_cons c rest
    rw [shape] at literal
    simp only [keyClasses, shape, sameOpener, sameQuote, literal]
    split
    · rfl
    · split
      · rfl
      · rw [Option.map_some, shape]

theorem useOfPair_withLineFeeds (key value : Text) :
    useOfPair key.withLineFeeds value.withLineFeeds =
      (useOfPair key value).map ClassUse.withLineFeeds := by
  have sameTrue : value.withLineFeeds = "true".toList ↔ value = "true".toList :=
    Text.withLineFeeds_eq_iff (Text.forall_mem_of_all (by decide))
  have sameFalse : value.withLineFeeds = "false".toList ↔ value = "false".toList :=
    Text.withLineFeeds_eq_iff (Text.forall_mem_of_all (by decide))
  have sameCondition := stripParens_withLineFeeds value
  cases value with
  | nil => rfl
  | cons c rest =>
    have sameBrace : Text.lineFeed c = '{' ↔ c = '{' := Text.lineFeed_eq_iff (by decide)
    have sameBracket : Text.lineFeed c = '[' ↔ c = '[' := Text.lineFeed_eq_iff (by decide)
    obtain ⟨others, shape⟩ := Text.exists_withLineFeeds_cons c rest
    rw [shape] at sameTrue sameFalse sameCondition
    simp only [useOfPair, shape, keyClasses_withLineFeeds, sameTrue, sameFalse, sameCondition,
      sameBrace, sameBracket]
    cases keyClasses key with
    | none => rfl
    | some classes =>
      simp only [Option.map_some]
      split
      · rfl
      · split
        · rfl
        · rfl

theorem splitKey_withLineFeeds (entry : Text) :
    splitKey entry.withLineFeeds =
      (splitKey entry).map fun found => (found.1.withLineFeeds, found.2.withLineFeeds) := by
  have split := Scan.splitKey_lineFeedsAfter Scan.isQuoting_fresh
    (by simp : false = true → Scan.fresh.escaped = false) entry
  rwa [Text.lineFeedsAfter_false, funext Scan.partsWithLineFeeds_false] at split

theorem useOfEntry_withLineFeeds {entry : Text} (trimmed : entry.trim = entry) :
    useOfEntry entry.withLineFeeds = (useOfEntry entry).map ClassUse.withLineFeeds := by
  unfold useOfEntry
  rw [Text.isPrefixOf_withLineFeeds (Text.forall_mem_of_all (by decide)), splitKey_withLineFeeds,
    Text.isIdentifier_withLineFeeds trimmed]
  split
  · rfl
  · cases splitKey entry with
    | none =>
      simp only [Option.map_none]
      split
      · rfl
      · rfl
    | some found =>
      simp only [Option.map_some, Text.trim_withLineFeeds, useOfPair_withLineFeeds]

theorem splitCommas_withLineFeeds (text : Text) :
    splitCommas text.withLineFeeds = (splitCommas text).map Text.withLineFeeds := by
  apply splitTopLevel_withLineFeeds
  intro c blank
  exact Text.beq_of_blank blank (by decide)

theorem objectUses_withLineFeeds (text : Text) :
    objectUses text.withLineFeeds = (objectUses text).map ClassUse.withLineFeeds := by
  unfold objectUses
  rw [unwrap_withLineFeeds]
  cases unwrap .curly .curly text with
  | none => rfl
  | some body =>
    simp only [Option.map_some, splitCommas_withLineFeeds, List.filterMap_map, List.map_filterMap]
    apply List.filterMap_congr
    intro entry member
    exact useOfEntry_withLineFeeds (isTidy_of_mem_splitTopLevel member).trimmed

def Piece.withLineFeeds : Piece → Piece
  | static text => .static text.withLineFeeds
  | interpolation text => .interpolation text.withLineFeeds

namespace Template

def withLineFeeds (template : Template) : Template :=
  { template with pieces := template.pieces.map Piece.withLineFeeds }

theorem withLineFeeds_consInterpolation (text : Text) (template : Template) :
    (consInterpolation text template).withLineFeeds =
      consInterpolation text.withLineFeeds template.withLineFeeds := rfl

theorem withLineFeeds_consStatic {c : Char} (solid : isBlank c = false) (template : Template) :
    (consStatic c template).withLineFeeds = consStatic c template.withLineFeeds := by
  obtain ⟨pieces, complete⟩ := template
  rcases pieces with _ | ⟨text | text, pieces⟩
  · simp only [consStatic, withLineFeeds, List.map_cons, List.map_nil, Piece.withLineFeeds,
      Text.withLineFeeds_cons solid, Text.withLineFeeds_nil]
  · simp only [consStatic, withLineFeeds, List.map_cons, Piece.withLineFeeds,
      Text.withLineFeeds_cons solid]
  · simp only [consStatic, withLineFeeds, List.map_cons, Piece.withLineFeeds,
      Text.withLineFeeds_cons solid, Text.withLineFeeds_nil]

/-- One line end of two at the start of static text. -/
theorem withLineFeeds_consStatic_pair {rest : Text} (follows : rest.head? = some '\n') :
    (consStatic '\r' (ofBody rest)).withLineFeeds = (ofBody rest).withLineFeeds := by
  obtain ⟨others, rfl⟩ := List.head?_eq_some_iff.mp follows
  rw [ofBody_static (by decide) (by decide) (by simp)]
  obtain ⟨pieces, complete⟩ := ofBody others
  rcases pieces with _ | ⟨text | text, pieces⟩ <;> rfl

/-- Static text begins with what the literal begins with. -/
theorem withLineFeeds_consStatic_apart {c : Char} {rest : Text}
    (apart : ¬ (c = '\r' ∧ rest.head? = some '\n')) :
    (consStatic c (ofBody rest)).withLineFeeds =
      consStatic (Text.lineFeed c) (ofBody rest).withLineFeeds := by
  obtain ⟨more, written⟩ := ofBody_written rest
  have alone : Text.withLineFeeds [c] = [Text.lineFeed c] :=
    Text.withLineFeeds_cons_apart fun both => nomatch both.2
  generalize ofBody rest = template at written ⊢
  obtain ⟨pieces, complete⟩ := template
  rcases pieces with _ | ⟨text | text, pieces⟩
  · simp only [consStatic, withLineFeeds, List.map_cons, List.map_nil, Piece.withLineFeeds, alone]
  · have apartHere : ¬ (c = '\r' ∧ text.head? = some '\n') := by
      rintro ⟨isReturn, follows⟩
      obtain ⟨others, rfl⟩ := List.head?_eq_some_iff.mp follows
      exact apart ⟨isReturn, by rw [written]; rfl⟩
    simp only [consStatic, withLineFeeds, List.map_cons, Piece.withLineFeeds,
      Text.withLineFeeds_cons_apart apartHere]
  · simp only [consStatic, withLineFeeds, List.map_cons, Piece.withLineFeeds, alone]

theorem ofBody_cons_withLineFeeds {c : Char} {rest : Text} (notEscape : c ≠ '\\') (notMark : c ≠ '\x60')
    (closed : c = '$' → rest.head? ≠ some '{')
    (later : ofBody rest.withLineFeeds = (ofBody rest).withLineFeeds) :
    ofBody (Text.withLineFeeds (c :: rest)) = (consStatic c (ofBody rest)).withLineFeeds := by
  by_cases pair : c = '\r' ∧ rest.head? = some '\n'
  · rw [pair.1, Text.withLineFeeds_pair pair.2, withLineFeeds_consStatic_pair pair.2, later]
  · have stillNoEscape : Text.lineFeed c ≠ '\\' :=
      fun same => notEscape ((Text.lineFeed_eq_iff (by decide)).mp same)
    have stillNoMark : Text.lineFeed c ≠ '\x60' :=
      fun same => notMark ((Text.lineFeed_eq_iff (by decide)).mp same)
    have stillClosed : Text.lineFeed c = '$' → rest.withLineFeeds.head? ≠ some '{' := by
      intro dollar
      rw [ne_eq, Text.head?_withLineFeeds_eq_some_iff (by decide)]
      exact closed ((Text.lineFeed_eq_iff (by decide)).mp dollar)
    rw [Text.withLineFeeds_cons_apart pair, withLineFeeds_consStatic_apart pair,
      ofBody_static stillNoEscape stillNoMark stillClosed, later]

/-- What follows a backslash is static, be it part of a line end or not. -/
theorem ofBody_escape_withLineFeeds (c : Char) {rest : Text}
    (later : ofBody rest.withLineFeeds = (ofBody rest).withLineFeeds) :
    ofBody ('\\' :: Text.withLineFeeds (c :: rest)) =
      consStatic '\\' (consStatic c (ofBody rest)).withLineFeeds := by
  by_cases pair : c = '\r' ∧ rest.head? = some '\n'
  · obtain ⟨rfl, follows⟩ := pair
    obtain ⟨others, rfl⟩ := List.head?_eq_some_iff.mp follows
    have fed : Text.withLineFeeds ('\n' :: others) = '\n' :: Text.withLineFeeds others :=
      Text.withLineFeeds_cons_apart (by simp)
    rw [Text.withLineFeeds_pair follows, withLineFeeds_consStatic_pair follows, ← later, fed,
      ofBody_escape, ofBody_static (by decide) (by decide) (by simp)]
  · rw [Text.withLineFeeds_cons_apart pair, withLineFeeds_consStatic_apart pair, ofBody_escape, later]

theorem ofBody_withLineFeeds (body : Text) :
    ofBody body.withLineFeeds = (ofBody body).withLineFeeds := by
  fun_induction ofBody body with
  | case1 =>
    rw [Text.withLineFeeds_nil, ofBody]
    rfl
  | case2 =>
    rw [Text.withLineFeeds_cons (by decide), withLineFeeds_consStatic (by decide), ofBody.eq_def]
    rfl
  | case3 c rest ih =>
    rw [Text.withLineFeeds_cons (by decide : isBlank '\\' = false), ofBody_escape_withLineFeeds c ih,
      withLineFeeds_consStatic (by decide : isBlank '\\' = false)]
  | case4 rest notEscape =>
    rw [Text.withLineFeeds_cons (by decide), ofBody_mark]
    rfl
  | case5 inside unclosed notEscape notMark =>
    have stillUnclosed : Scan.opened.balanced .curly (Text.withLineFeeds inside) = none := by
      rw [Scan.balanced_withLineFeeds, unclosed]
      rfl
    rw [Text.withLineFeeds_cons (by decide), Text.withLineFeeds_cons (by decide),
      ofBody_unclosed stillUnclosed]
    rfl
  | case6 inside inner after closed notEscape notMark ih =>
    have stillCloses : Scan.opened.balanced .curly (Text.withLineFeeds inside) =
        some (inner.withLineFeeds, after.withLineFeeds) := by
      rw [Scan.balanced_withLineFeeds, closed, Option.map_some]
    rw [Text.withLineFeeds_cons (by decide), Text.withLineFeeds_cons (by decide),
      ofBody_interpolation stillCloses, ih, withLineFeeds_consInterpolation]
  | case7 rest notOpened notEscape notMark ih =>
    apply ofBody_cons_withLineFeeds notEscape notMark _ ih
    rintro - follows
    obtain ⟨others, rfl⟩ := List.head?_eq_some_iff.mp follows
    exact notOpened others rfl
  | case8 c rest notEscape notMark notDollar ih =>
    exact ofBody_cons_withLineFeeds notEscape notMark (fun dollar => absurd dollar notDollar) ih

theorem read_withLineFeeds (text : Text) :
    read text.withLineFeeds = (read text).map withLineFeeds := by
  cases text with
  | nil => rfl
  | cons c body =>
    by_cases isMark : c = '\x60'
    · subst isMark
      rw [Text.withLineFeeds_cons (by decide)]
      by_cases last : body.getLast? = some '\x60'
      · obtain ⟨inner, rfl⟩ := List.getLast?_eq_some_iff.mp last
        rw [Text.withLineFeeds_concat (by decide)]
        simp only [read, List.getLast?_concat, List.dropLast_concat, ↓reduceIte, Option.map_some,
          ofBody_withLineFeeds]
      · have notLast : (Text.withLineFeeds body).getLast? ≠ some '\x60' := fun same =>
          last ((Text.getLast?_withLineFeeds_eq_some_iff (by decide) body).mp same)
        simp only [read, last, notLast, ↓reduceIte, Option.map_none]
    · obtain ⟨d, others, first, differs⟩ := Text.withLineFeeds_cons_ne (by decide) isMark body
      rw [first]
      simp [read, isMark, differs]

end Template

namespace Shape

def withLineFeeds : Shape → Shape
  | literal uses => .literal (uses.map ClassUse.withLineFeeds)
  | guarded condition operand => .guarded condition.withLineFeeds operand.withLineFeeds
  | branches condition yes no => .branches condition.withLineFeeds yes.withLineFeeds no.withLineFeeds
  | template parts => .template parts.withLineFeeds

theorem sides_withLineFeeds {token : Text} {looser : List Text} (known : token ∈ operatorTokens)
    (allKnown : ∀ other ∈ looser, other ∈ operatorTokens) (text : Text) :
    sides token looser text.withLineFeeds =
      (sides token looser text).map fun found => (found.1.withLineFeeds, found.2.withLineFeeds) := by
  have same := findOperator_withLineFeeds (filled_of_mem_operatorTokens known)
    (solid_of_mem_operatorTokens known) text
  unfold sides
  rw [isConditional_withLineFeeds, hasOperator_withLineFeeds allKnown]
  split
  · rfl
  · cases found : findOperator token 0 text with
    | none =>
      rw [found, Option.map_none, Option.map_eq_none_iff] at same
      rw [same]
      rfl
    | some place =>
      rw [found, Option.map_some] at same
      obtain ⟨other, here, parts⟩ := Option.map_eq_some_iff.mp same
      obtain ⟨before, after⟩ := Prod.mk.inj parts
      rw [here]
      simp only [before, after, Text.isEmpty_withLineFeeds, stripParens_withLineFeeds]
      split
      · rfl
      · rfl

theorem trimmed_of_sides {token : Text} {looser : List Text} {text : Text} {found : Text × Text}
    (read : sides token looser text = some found) : found.1.trim = found.1 := by
  obtain ⟨before, behind, -, -, rfl⟩ := exists_of_sides read
  exact trim_stripParens before.trim

/-- A reading that makes nothing of where lines end. -/
def ReadsAlike (reading : Text → Option Shape) : Prop :=
  ∀ text, reading text.withLineFeeds = (reading text).map withLineFeeds

theorem readsAlike_sides (guarding : Text → Text) {token : Text} {looser : List Text}
    (known : token ∈ operatorTokens) (allKnown : ∀ other ∈ looser, other ∈ operatorTokens)
    (same : ∀ condition : Text, condition.trim = condition →
      guarding condition.withLineFeeds = (guarding condition).withLineFeeds) :
    ReadsAlike fun text =>
      (sides token looser text).map fun found => .guarded (guarding found.1) found.2 := by
  intro text
  dsimp only
  rw [sides_withLineFeeds known allKnown]
  cases read : sides token looser text with
  | none => rfl
  | some found =>
    simp only [Option.map_some, withLineFeeds, same found.1 (trimmed_of_sides read)]

theorem readsAlike_conditional? : ReadsAlike conditional? := by
  intro text
  unfold conditional?
  rw [splitQuestion_withLineFeeds]
  cases splitQuestion text with
  | none => rfl
  | some found =>
    obtain ⟨before, after⟩ := found
    simp only [Option.map_some, splitBranches_withLineFeeds]
    cases splitBranches after with
    | none => rfl
    | some parts =>
      obtain ⟨yes, no⟩ := parts
      simp only [Option.map_some, stripParens_withLineFeeds, Text.isEmpty_withLineFeeds]
      split
      · rfl
      · rfl

theorem readsAlike_of_mem_readings {reading : Text → Option Shape} (listed : reading ∈ readings) :
    ReadsAlike reading := by
  simp only [readings, List.mem_cons, List.not_mem_nil, or_false] at listed
  rcases listed with rfl | rfl | rfl | rfl | rfl | rfl | rfl
  · intro text
    rw [object?, object?, objectUses_withLineFeeds]
    rfl
  · intro text
    rw [string?, string?, literalBody_withLineFeeds, Option.map_map, Option.map_map]
    rfl
  · exact readsAlike_sides id (by decide) (Text.forall_mem_of_all (by decide)) fun _ _ => rfl
  · exact readsAlike_sides Condition.negate (by decide) (Text.forall_mem_of_all (by decide))
      fun _ trimmed => Condition.negate_withLineFeeds trimmed
  · exact readsAlike_sides Condition.isNull (by decide) (Text.forall_mem_of_all (by decide))
      fun _ trimmed => Condition.isNull_withLineFeeds trimmed
  · exact readsAlike_conditional?
  · intro text
    rw [template?, template?, Template.read_withLineFeeds, Option.map_map, Option.map_map]
    rfl

def HasTrimmedCondition : Shape → Prop
  | branches condition _ _ => condition.trim = condition
  | _ => True

theorem hasTrimmedCondition_of_mem_readings {reading : Text → Option Shape}
    (listed : reading ∈ readings) {text : Text} {shape : Shape} (found : reading text = some shape) :
    shape.HasTrimmedCondition := by
  simp only [readings, List.mem_cons, List.not_mem_nil, or_false] at listed
  rcases listed with rfl | rfl | rfl | rfl | rfl | rfl | rfl
  · cases found
    trivial
  · obtain ⟨classes, -, rfl⟩ := Option.map_eq_some_iff.mp found
    trivial
  · obtain ⟨pair, -, rfl⟩ := Option.map_eq_some_iff.mp found
    trivial
  · obtain ⟨pair, -, rfl⟩ := Option.map_eq_some_iff.mp found
    trivial
  · obtain ⟨pair, -, rfl⟩ := Option.map_eq_some_iff.mp found
    trivial
  · obtain ⟨before, yes, no, -, -, -, -, rfl⟩ := exists_of_conditional? found
    exact trim_stripParens before
  · obtain ⟨parts, -, rfl⟩ := Option.map_eq_some_iff.mp found
    trivial

section

variable {m : Type → Type} [Monad m] [LawfulMonad m] {uses : Text → m (List ClassUse)}
  (alike : ∀ text : Text, uses text.withLineFeeds = List.map ClassUse.withLineFeeds <$> uses text)

include alike

theorem resolvePiece_withLineFeeds (piece : Piece) :
    resolvePiece uses piece.withLineFeeds =
      List.map ClassUse.withLineFeeds <$> resolvePiece uses piece := by
  cases piece with
  | static text =>
    simp only [Piece.withLineFeeds, resolvePiece, Text.trim_withLineFeeds, Text.isEmpty_withLineFeeds,
      map_pure]
    congr 1
    split
    · rfl
    · rfl
  | interpolation text => exact alike text

theorem mapM_resolvePiece_withLineFeeds (pieces : List Piece) :
    (pieces.map Piece.withLineFeeds).mapM (resolvePiece uses) =
      List.map (List.map ClassUse.withLineFeeds) <$> pieces.mapM (resolvePiece uses) := by
  induction pieces with
  | nil => simp
  | cons piece pieces ih =>
    simp [resolvePiece_withLineFeeds alike, ih]

theorem resolve_withLineFeeds {shape : Shape} (trimmed : shape.HasTrimmedCondition) :
    shape.withLineFeeds.resolve uses = List.map ClassUse.withLineFeeds <$> shape.resolve uses := by
  cases shape with
  | literal found => simp only [withLineFeeds, resolve, map_pure]
  | guarded condition operand =>
    simp only [withLineFeeds, resolve, literalBody_withLineFeeds]
    cases literalBody operand with
    | some classes =>
      simp only [Option.map_some, map_pure, ← guardAll_withLineFeeds]
      rfl
    | none =>
      simp only [Option.map_none, stripParens_withLineFeeds, alike, bind_map_left,
        guardAll_withLineFeeds, map_bind, map_pure]
  | branches condition yes no =>
    simp only [withLineFeeds, resolve, alike, bind_map_left, Condition.negate_withLineFeeds trimmed,
      guardAll_withLineFeeds, map_bind, map_pure, List.map_append]
  | template parts =>
    have flat : ∀ found : List (List ClassUse),
        (if parts.complete then (found.map (List.map ClassUse.withLineFeeds)).flatten else []) =
          (if parts.complete then found.flatten else []).map ClassUse.withLineFeeds := by
      intro found
      split
      · exact List.map_flatten.symm
      · rfl
    simp only [withLineFeeds, Template.withLineFeeds, resolve, mapM_resolvePiece_withLineFeeds alike,
      bind_map_left, flat, map_bind, map_pure]

theorem firstUses_withLineFeeds (text : Text) {tried : List (Text → Option Shape)}
    (listed : ∀ reading ∈ tried, reading ∈ readings) :
    firstUses uses text.withLineFeeds tried =
      List.map ClassUse.withLineFeeds <$> firstUses uses text tried := by
  induction tried with
  | nil => simp only [firstUses, map_pure, List.map_nil]
  | cons reading others ih =>
    have later := ih fun other member => listed other (List.mem_cons_of_mem reading member)
    have known := listed reading List.mem_cons_self
    rw [firstUses, firstUses, readsAlike_of_mem_readings known]
    cases found : reading text with
    | none => exact later
    | some shape =>
      have resolved := resolve_withLineFeeds alike (hasTrimmedCondition_of_mem_readings known found)
      simp only [Option.map_some, resolved, bind_map_left, later, List.isEmpty_map, map_bind]
      congr 1
      funext uses
      split
      · rfl
      · rw [map_pure]

theorem usesOf_withLineFeeds (text : Text) :
    usesOf uses text.withLineFeeds = List.map ClassUse.withLineFeeds <$> usesOf uses text := by
  unfold usesOf
  rw [Text.isEmpty_withLineFeeds, mixesNullish_withLineFeeds,
    firstUses_withLineFeeds alike text fun _ member => member]
  split
  · rw [map_pure, List.map_nil]
  · rfl

end

end Shape

theorem usesWithin_withLineFeeds (levels : Nat) (text : Text) :
    usesWithin levels text.withLineFeeds =
      List.map ClassUse.withLineFeeds <$> usesWithin levels text := by
  induction levels generalizing text with
  | zero => rfl
  | succ levels ih =>
    rw [usesWithin, usesWithin, Text.trim_withLineFeeds, Shape.usesOf_withLineFeeds ih]

theorem matchOf_withLineFeeds (read : Except TooDeep (List ClassUse)) :
    matchOf (List.map ClassUse.withLineFeeds <$> read) =
      (matchOf read).map (List.map ClassUse.withLineFeeds) := by
  rcases read with _ | _ | ⟨use, uses⟩ <;> rfl

/-- An expression has the same uses with line feeds for all line ends. -/
theorem parseForm_withLineFeeds (form : ExpressionForm) (limit : Int) (text : Text) :
    parseForm form limit text.withLineFeeds =
      (parseForm form limit text).map (List.map ClassUse.withLineFeeds) := by
  have same : form.usesOf (usesWithin (levelsLeft limit 0)) (usesWithin (levelsLeft limit 1))
        text.withLineFeeds = List.map ClassUse.withLineFeeds <$>
      form.usesOf (usesWithin (levelsLeft limit 0)) (usesWithin (levelsLeft limit 1)) text := by
    cases form with
    | any =>
      simp only [ExpressionForm.usesOf, Text.trim_withLineFeeds, usesWithin_withLineFeeds]
    | object =>
      simp only [ExpressionForm.usesOf, Text.trim_withLineFeeds, objectUses_withLineFeeds, map_pure]
    | template =>
      simp only [ExpressionForm.usesOf, Text.trim_withLineFeeds,
        Shape.readsAlike_of_mem_readings Shape.template?_mem_readings text.trim]
      cases found : Shape.template? text.trim with
      | none => rfl
      | some shape =>
        exact Shape.resolve_withLineFeeds (usesWithin_withLineFeeds _)
          (Shape.hasTrimmedCondition_of_mem_readings Shape.template?_mem_readings found)
  rw [parseForm, parseForm, same, matchOf_withLineFeeds]

end ClassUsage

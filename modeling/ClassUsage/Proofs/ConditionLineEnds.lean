import ClassUsage.Proofs.ConditionTexts
import ClassUsage.Proofs.ScanLineEnds

set_option autoImplicit false

/-!
Operators, questions and conditions with line feeds for all line ends. No line end is part of an
operator, and a condition is grouped and negated in the same way.
-/
namespace ClassUsage

section

variable {token : Text} (filled : token ≠ []) (solid : ∀ c ∈ token, isBlank c = false)

include filled solid

theorem ignoresLineEnds_beginsWith : Scan.IgnoresLineEnds (beginsWith token) := by
  obtain ⟨d, start, rfl⟩ := List.exists_cons_of_ne_nil filled
  constructor
  · intro c blank previous rest
    have differs : (d == c) = false := by
      rw [BEq.comm]
      exact Text.beq_of_blank blank (solid d List.mem_cons_self)
    rw [beginsWith, List.isPrefixOf, differs, Bool.false_and]
  · intro c notBlank previous rest
    rw [beginsWith, beginsWith, ← Text.withLineFeeds_cons notBlank, Text.isPrefixOf_withLineFeeds solid]

/-- An operator stands between the same texts. -/
theorem findOperator_withLineFeeds (text : Text) :
    (findOperator token 0 text.withLineFeeds).map (fun place => (place.before, place.after)) =
      (findOperator token 0 text).map fun place =>
        (place.before.withLineFeeds, place.after.withLineFeeds) := by
  have search := Scan.findNeutral_withLineFeeds (ignoresLineEnds_beginsWith filled solid) text
  rw [findOperator_eq, findOperator_eq, search, Option.map_map, Option.map_map, Option.map_map]
  cases read : Scan.fresh.findNeutral (fun _ => beginsWith token) 0 none text with
  | none => rfl
  | some found =>
    obtain ⟨before, behind⟩ := found
    obtain ⟨-, _, _, -, -, _, _, stands⟩ := Scan.findNeutral_sound read
    obtain ⟨after, rfl⟩ := List.isPrefixOf_iff_prefix.mp stands
    simp only [Option.map_some, Function.comp_apply,
      Text.withLineFeeds_append_solid solid, List.drop_left, Text.trim_withLineFeeds]

theorem isSome_findOperator_withLineFeeds (text : Text) :
    (findOperator token 0 text.withLineFeeds).isSome = (findOperator token 0 text).isSome := by
  have same := congrArg Option.isSome (findOperator_withLineFeeds filled solid text)
  rwa [Option.isSome_map, Option.isSome_map] at same

end

def operatorTokens : List Text := [andToken, orToken, nullishToken]

theorem filled_of_mem_operatorTokens {token : Text} (known : token ∈ operatorTokens) : token ≠ [] := by
  have filled : ∀ token ∈ operatorTokens, token ≠ [] := by decide
  exact filled token known

theorem solid_of_mem_operatorTokens {token : Text} (known : token ∈ operatorTokens) :
    ∀ c ∈ token, isBlank c = false := by
  have solid : (operatorTokens.all fun token => token.all (!isBlank ·)) = true := by decide
  intro c member
  have inside := List.all_eq_true.mp (List.all_eq_true.mp solid token known) c member
  simpa only [Bool.not_eq_true'] using inside

theorem hasOperator_withLineFeeds {tokens : List Text}
    (known : ∀ token ∈ tokens, token ∈ operatorTokens) (text : Text) :
    hasOperator tokens text.withLineFeeds = hasOperator tokens text := by
  have same : ∀ token ∈ tokens, (findOperator token 0 text.withLineFeeds).isSome =
      (findOperator token 0 text).isSome := fun token member =>
    isSome_findOperator_withLineFeeds (filled_of_mem_operatorTokens (known token member))
      (solid_of_mem_operatorTokens (known token member)) text
  unfold hasOperator
  rw [Bool.eq_iff_iff, List.any_eq_true, List.any_eq_true]
  exact exists_congr fun token => and_congr_right fun member => by rw [same token member]

theorem isConditionalQuestion_withLineFeeds (previous : Option Char) (next : Text) :
    isConditionalQuestion (previous.map Text.lineFeed) next.withLineFeeds =
      isConditionalQuestion previous next := by
  have samePrevious : previous.map Text.lineFeed = some '?' ↔ previous = some '?' :=
    Text.map_lineFeed_eq_some_iff (by decide)
  cases next with
  | nil =>
    unfold isConditionalQuestion
    simp only [samePrevious, Text.withLineFeeds_nil]
  | cons d next =>
    have sameQuestion : Text.lineFeed d = '?' ↔ d = '?' := Text.lineFeed_eq_iff (by decide)
    have samePoint : Text.lineFeed d = '.' ↔ d = '.' := Text.lineFeed_eq_iff (by decide)
    rw [← Text.lineFeedsAfter_false, Text.lineFeedsAfter_kept (by simp), isConditionalQuestion_cons,
      isConditionalQuestion_cons]
    simp only [samePrevious, sameQuestion, samePoint]
    congr 1
    split
    · rename_i isPoint
      have sameDigit : ∀ c, isDigitChar (Text.lineFeed c) = isDigitChar c :=
        Text.apply_lineFeed isDigitChar (by decide)
      rw [isPoint, Text.beq_return_of_solid (by decide), Text.lineFeedsAfter_false,
        Text.head?_withLineFeeds, Option.any_map]
      simp only [sameDigit]
    · rfl

theorem ignoresLineEnds_startsConditional : Scan.IgnoresLineEnds startsConditional := by
  constructor
  · intro c blank previous rest
    rw [startsConditional, Text.beq_of_blank blank (by decide), Bool.false_and]
  · intro c solid previous rest
    rw [startsConditional, startsConditional, isConditionalQuestion_withLineFeeds]

theorem splitQuestion_withLineFeeds (text : Text) :
    splitQuestion text.withLineFeeds =
      (splitQuestion text).map fun found => (found.1.withLineFeeds, found.2.withLineFeeds) := by
  have search := Scan.findNeutral_withLineFeeds ignoresLineEnds_startsConditional text
  rw [splitQuestion_eq, splitQuestion_eq, search, Option.map_map, Option.map_map]
  cases read : Scan.fresh.findNeutral (fun _ => startsConditional) 0 none text with
  | none => rfl
  | some found =>
    obtain ⟨before, behind⟩ := found
    obtain ⟨-, c, rest, rfl, -, _, _, stands⟩ := Scan.findNeutral_sound read
    have isQuestion : c = '?' := beq_iff_eq.mp (Bool.and_eq_true_iff.mp stands).1
    simp only [Option.map_some, Function.comp_apply, isQuestion,
      Text.withLineFeeds_cons (by decide : isBlank '?' = false), List.drop_succ_cons, List.drop_zero]

theorem isConditional_withLineFeeds (text : Text) :
    isConditional text.withLineFeeds = isConditional text := by
  rw [isConditional, splitQuestion_withLineFeeds, Option.isSome_map, isConditional]

theorem splitBranches_withLineFeeds (text : Text) :
    splitBranches text.withLineFeeds =
      (splitBranches text).map fun found => (found.1.withLineFeeds, found.2.withLineFeeds) := by
  have split := Scan.splitColon_lineFeedsAfter ignoresLineEnds_startsConditional 0
    (by simp : false = true → (none : Option Char) = some '\r') Scan.isQuoting_fresh
    (by simp : false = true → Scan.fresh.escaped = false) text
  rwa [Text.lineFeedsAfter_false, Option.map_none, funext Scan.partsWithLineFeeds_false] at split

theorem mixesNullish_withLineFeeds (text : Text) :
    mixesNullish text.withLineFeeds = mixesNullish text := by
  unfold mixesNullish
  rw [isConditional_withLineFeeds, hasOperator_withLineFeeds (Text.forall_mem_of_all (by decide)),
    hasOperator_withLineFeeds (Text.forall_mem_of_all (by decide))]

/-- Within brackets a line feed is passed over, and so it is behind a carriage return. -/
theorem OperandState.step_settled {state next : OperandState} (read : state.step '\r' = some next) :
    next.step '\n' = some next := by
  cases state with
  | index | arguments =>
    cases read
    decide
  | _ => cases read

theorem OperandState.step_lineFeed (state : OperandState) (c : Char) :
    state.step (Text.lineFeed c) = state.step c := by
  apply Text.apply_lineFeed state.step
  cases state <;> decide

theorem foldlM_step_lineFeedsAfter {returned : Bool} {state : OperandState}
    (settled : returned = true → state.step '\n' = some state) (text : Text) :
    (text.lineFeedsAfter returned).foldlM OperandState.step state =
      text.foldlM OperandState.step state := by
  induction text generalizing returned state with
  | nil => rfl
  | cons c rest ih =>
    by_cases passed : returned = true ∧ c = '\n'
    · obtain ⟨rfl, rfl⟩ := passed
      rw [Text.lineFeedsAfter_passed, List.foldlM_cons, settled rfl]
      exact ih (by simp)
    · rw [Text.lineFeedsAfter_kept passed, List.foldlM_cons, List.foldlM_cons,
        OperandState.step_lineFeed]
      cases read : state.step c with
      | none => rfl
      | some next =>
        apply ih
        intro isReturn
        rw [beq_iff_eq.mp isReturn] at read
        exact OperandState.step_settled read

namespace Text

theorem withLineFeeds_trimmed {text : Text} (trimmed : text.trim = text) :
    text.withLineFeeds.trim = text.withLineFeeds := by
  rw [trim_withLineFeeds, trimmed]

theorem dropFinalNewline_of_trimmed {text : Text} (trimmed : text.trim = text) :
    text.dropFinalNewline = text := by
  apply if_neg
  intro last
  exact absurd ((isTrimmed_of_trim_eq trimmed).last '\n' last) (by decide)

theorem isSimpleOperand_withLineFeeds {text : Text} (trimmed : text.trim = text) :
    text.withLineFeeds.isSimpleOperand = text.isSimpleOperand := by
  rw [isSimpleOperand, isSimpleOperand, dropFinalNewline_of_trimmed trimmed,
    dropFinalNewline_of_trimmed (withLineFeeds_trimmed trimmed), ← lineFeedsAfter_false,
    foldlM_step_lineFeedsAfter (by simp)]

theorem not_mem_of_isIdentifier {text : Text} (trimmed : text.trim = text)
    (identifier : text.isIdentifier = true) {c : Char} (noStart : isNameStart c = false)
    (noPart : isNamePart c = false) : c ∉ text := by
  rw [isIdentifier, dropFinalNewline_of_trimmed trimmed] at identifier
  cases text with
  | nil => exact List.not_mem_nil
  | cons d rest =>
    obtain ⟨first, others⟩ := Bool.and_eq_true_iff.mp identifier
    intro member
    rcases List.mem_cons.mp member with rfl | later
    · rw [noStart] at first
      cases first
    · have part := List.all_eq_true.mp others c later
      rw [noPart] at part
      cases part

/-- Identifiers hold no line ends. -/
theorem isIdentifier_withLineFeeds {text : Text} (trimmed : text.trim = text) :
    text.withLineFeeds.isIdentifier = text.isIdentifier := by
  rw [Bool.eq_iff_iff]
  constructor
  · intro identifier
    have noFeed : '\n' ∉ text.withLineFeeds :=
      not_mem_of_isIdentifier (withLineFeeds_trimmed trimmed) identifier (by decide) (by decide)
    rwa [withLineFeeds_of_not_mem fun returned => noFeed (lineFeed_mem_withLineFeeds returned)]
      at identifier
  · intro identifier
    have noReturn : '\r' ∉ text :=
      not_mem_of_isIdentifier trimmed identifier (by decide) (by decide)
    rwa [withLineFeeds_of_not_mem noReturn]

end Text

namespace Condition

theorem isSimple_withLineFeeds {condition : Text} (trimmed : condition.trim = condition) :
    isSimple condition.withLineFeeds = isSimple condition := by
  rw [isSimple, isSimple, Text.isSimpleOperand_withLineFeeds trimmed, unwrap_withLineFeeds,
    Option.isSome_map]

theorem bracketed_withLineFeeds (condition : Text) :
    bracketed condition.withLineFeeds = (bracketed condition).withLineFeeds := by
  rw [bracketed, bracketed, List.cons_append, List.cons_append, Text.withLineFeeds_cons (by decide),
    Text.withLineFeeds_concat (by decide)]

theorem group_withLineFeeds (condition : Text) :
    group condition.withLineFeeds = (group condition).withLineFeeds := by
  unfold group
  rw [hasOperator_withLineFeeds (Text.forall_mem_of_all (by decide)), isConditional_withLineFeeds,
    bracketed_withLineFeeds, apply_ite Text.withLineFeeds]

theorem operand_withLineFeeds {condition : Text} (trimmed : condition.trim = condition) :
    (if isSimple condition.withLineFeeds then condition.withLineFeeds
      else bracketed condition.withLineFeeds) =
      Text.withLineFeeds (if isSimple condition then condition else bracketed condition) := by
  rw [isSimple_withLineFeeds trimmed, bracketed_withLineFeeds, apply_ite Text.withLineFeeds]

theorem negate_withLineFeeds {condition : Text} (trimmed : condition.trim = condition) :
    negate condition.withLineFeeds = (negate condition).withLineFeeds := by
  rw [negate, negate, operand_withLineFeeds trimmed, Text.withLineFeeds_cons (by decide)]

theorem isNull_withLineFeeds {condition : Text} (trimmed : condition.trim = condition) :
    isNull condition.withLineFeeds = (isNull condition).withLineFeeds := by
  rw [isNull, isNull, operand_withLineFeeds trimmed, Text.withLineFeeds_append (Or.inr (by decide))]
  rfl

theorem conjoin_withLineFeeds (left : Text) (right : Option Text) :
    conjoin left.withLineFeeds (right.map Text.withLineFeeds) = (conjoin left right).withLineFeeds := by
  cases right with
  | none => rfl
  | some right =>
    have blankFirst : (" && ".toList ++ group right).head? ≠ some '\n' := by
      rw [Text.head?_append_of_filled (by decide)]
      decide
    rw [Option.map_some, conjoin, conjoin, group_withLineFeeds, group_withLineFeeds, List.append_assoc,
      List.append_assoc, Text.withLineFeeds_append (Or.inr blankFirst),
      Text.withLineFeeds_append (Or.inl (by decide))]
    rfl

end Condition

def ClassUse.withLineFeeds (use : ClassUse) : ClassUse :=
  ⟨use.classes.withLineFeeds, use.condition.map Text.withLineFeeds⟩

theorem guardAll_withLineFeeds (condition : Text) (uses : List ClassUse) :
    guardAll condition.withLineFeeds (uses.map ClassUse.withLineFeeds) =
      (guardAll condition uses).map ClassUse.withLineFeeds := by
  unfold guardAll
  rw [List.map_map, List.map_map]
  congr 1
  funext use
  simp only [Function.comp_apply, ClassUse.withLineFeeds, Condition.conjoin_withLineFeeds,
    Option.map_some]

end ClassUsage
